/-
  Contract/GeneratedTypes.lean --- which contracts have generated types that admit every
  value that the contract admits.
-/
import LuxLedger.Contract.NullAlternatives

set_option autoImplicit false

namespace LuxLedger.Contract

open Javascript JsString

/-- The value belongs to the type that is printed, names being read as the generated file
declares them. -/
def Belongs (contract : ApiContract) (text : JsString) (v : JsonValue) : Prop :=
  ∃ declarations types, readModule (output contract) = some declarations ∧
    readType text = some types ∧ Admits declarations types v

theorem belongs_iff {contract : ApiContract} {schema : Schema} (h : contract.Has schema)
    (v : JsonValue) : Belongs contract (type schema) v ↔
      Admits (declarations contract) (translate schema) v := by
  have hmodule := readModule_output contract
  have htype := (printed_of_has h).isUnion.readType
  constructor
  · rintro ⟨found, types, hfound, htypes, hadmits⟩
    obtain rfl := Option.some.inj (hmodule.symm.trans hfound)
    obtain rfl := Option.some.inj (htype.symm.trans htypes)
    exact hadmits
  · exact fun hadmits => ⟨_, _, hmodule, htype, hadmits⟩

/-- Null is printed where the schema is nullable, and a schema whose properties are printed has
no type that they do not describe. -/
structure Adequate (contract : ApiContract) (schema : Schema) : Prop where
  null : schema.nullable = true → PrintsNull contract schema
  typed : schema.Plain → schema.properties.isSome → ∀ t ∈ schema.types,
    t = some .object ∨ t = some .array ∨ (t = some .null ∧ PrintsNull contract schema)

/-! ## Literals -/

section Literals

variable {declarations : TsDeclarations}

theorem sameElements_iff {elements others : List JsonValue} :
    sameElements elements others = true ↔
      List.Forall₂ (fun v w => sameJson v w = true) elements others := by
  induction elements generalizing others with
  | nil => cases others <;> simp [sameElements]
  | cons v rest ih =>
      cases others with
      | nil => simp [sameElements]
      | cons w others => simp [sameElements, ih]

theorem sameEntries_iff {entries others : Entries} :
    sameEntries entries others = true ↔
      ∀ e ∈ entries, ∃ w, others.lookup e.1 = some w ∧ sameJson e.2 w = true := by
  induction entries with
  | nil => simp [sameEntries]
  | cons e rest ih =>
      rw [sameEntries, Bool.and_eq_true, ih, List.forall_mem_cons]
      refine and_congr_left fun _ => ?_
      cases others.lookup e.1 with
      | none => simp
      | some w => simp

theorem mem_of_lookup {entries : Entries} {key : JsString} {v : JsonValue}
    (h : entries.lookup key = some v) : (key, v) ∈ entries := by
  obtain ⟨before, after, rfl, -⟩ := List.lookup_eq_some_iff.mp h
  exact List.mem_append_right before List.mem_cons_self

/-- A value that equals a literal belongs to its type. -/
theorem admits_literal {member v : JsonValue} (h : sameJson member v = true) :
    Admits declarations [literalType member] v := by
  induction member using JsonValue.induction generalizing v with
  | null =>
      cases v with
      | null => exact .null (List.mem_singleton_self _)
      | _ => cases h
  | boolean b =>
      cases v with
      | boolean c =>
          obtain rfl : b = c := by simpa [sameJson] using h
          exact .booleanLiteral (List.mem_singleton_self _)
      | _ => cases h
  | number n =>
      cases v with
      | number m =>
          obtain rfl : n = m := by simpa [sameJson] using h
          exact .numberLiteral (List.mem_singleton_self _)
      | _ => cases h
  | string s =>
      cases v with
      | string t =>
          obtain rfl : s = t := by simpa [sameJson] using h
          exact .stringLiteral (List.mem_singleton_self _)
      | _ => cases h
  | array elements ih =>
      cases v with
      | array others =>
          rw [sameJson, sameElements_iff] at h
          rw [literalType, literalTypes_eq_map]
          refine .tuple (List.mem_singleton_self _) ?_ ?_
          · rw [List.length_map, h.length_eq]
          · intro i place w hplace hw
            rw [List.getElem?_map, Option.map_eq_some_iff] at hplace
            obtain ⟨member, hmember, rfl⟩ := hplace
            have hsame : sameJson member w = true := by
              have hi := (List.getElem?_eq_some_iff.mp hmember).1
              have hj := (List.getElem?_eq_some_iff.mp hw).1
              have hget := h.get hi hj
              rw [List.getElem?_eq_getElem hi, Option.some.injEq] at hmember
              rw [List.getElem?_eq_getElem hj, Option.some.injEq] at hw
              rw [← hmember, ← hw]
              exact hget
            exact ih member (List.mem_of_getElem? hmember) hsame
      | _ => cases h
  | object entries ih =>
      cases v with
      | object others =>
          rw [sameJson, Bool.and_eq_true, sameEntries_iff] at h
          rw [literalType, literalProperties_eq_map]
          refine .object (List.mem_singleton_self _) ?_ ?_ (by simp)
          · refine List.forall_mem_map.mpr fun e he _ => ?_
            obtain ⟨w, hw, -⟩ := h.2 e he
            exact List.mem_map.mpr ⟨_, mem_of_lookup hw, rfl⟩
          · refine List.forall_mem_map.mpr fun e he w hw => ?_
            obtain ⟨w', hw', hsame⟩ := h.2 e he
            obtain rfl := Option.some.inj (hw'.symm.trans hw)
            exact ih e he hsame
      | _ => cases h

end Literals

/-! ## Adequate contracts -/

section Sound

variable {contract : ApiContract} {schema : Schema} {valid : Schema → JsonValue → Bool}
  {entries : Entries}

/-- What a valid value of a schema inside belongs to. -/
def PartsAdmit (contract : ApiContract) (valid : Schema → JsonValue → Bool) (schema : Schema) :
    Prop :=
  ∀ part ∈ schema.children, ∀ v, valid part v = true →
    Admits (declarations contract) (translate part) v

theorem admits_anyJson (v : JsonValue) : Admits (declarations contract) anyJson v :=
  admits_json lookup_json v

theorem admits_items (h : PartsAdmit contract valid schema) {elements : List JsonValue}
    (hitems : meetsItems valid schema (.array elements) = true) :
    Admits (declarations contract)
      [.array ((schema.parts.map translate).items.getD anyJson)] (.array elements) := by
  refine .array (List.mem_singleton_self _) fun v hv => ?_
  rw [meetsItems] at hitems
  cases hpart : schema.items with
  | none =>
      have hnone : (schema.parts.map translate).items = none := by
        simp [Parts.map, Schema.parts, hpart]
      rw [hnone]
      exact admits_anyJson v
  | some part =>
      rw [hpart] at hitems
      have hsome : (schema.parts.map translate).items = some (translate part) := by
        simp [Parts.map, Schema.parts, hpart]
      rw [hsome]
      exact h part (Schema.mem_children.mpr (Or.inr (Or.inr (Or.inl hpart)))) v
        (List.all_eq_true.mp hitems v hv)

/-- An index signature is for any value, or for what the schema asks of additional properties. -/
theorem indexType_cases {values : TsUnion}
    (h : values ∈ indexType schema (schema.parts.map translate)) :
    values = anyJson ∨ ∃ additional, schema.additionalProperties = some (.inr additional) ∧
      schema.parts.fields = [] ∧ values = translate additional := by
  have hempty : (schema.parts.map translate).fields.isEmpty = schema.parts.fields.isEmpty := by
    simp [Parts.map]
  unfold indexType at h
  rcases hadditional : schema.additionalProperties with _ | allowed | additional
  · simp only [hadditional] at h
    split_ifs at h
    · exact Or.inl (Option.some.inj h).symm
    · cases h
  · cases allowed with
    | true =>
        simp only [hadditional] at h
        exact Or.inl (Option.some.inj h).symm
    | false =>
        simp only [hadditional] at h
        split_ifs at h
        · exact Or.inl (Option.some.inj h).symm
        · cases h
  · have hpart : (schema.parts.map translate).additional = some (translate additional) := by
      simp [Parts.map, Schema.parts, hadditional, additionalSchema]
    simp only [hadditional, hpart, hempty] at h
    split_ifs at h with hnone
    · exact Or.inr ⟨additional, rfl, List.isEmpty_iff.mp hnone, (Option.some.inj h).symm⟩
    · cases h

theorem admits_object (h : PartsAdmit contract valid schema)
    (hproperties : meetsProperties valid schema (.object entries) = true) :
    Admits (declarations contract) [.object (propertyTypes schema (schema.parts.map translate))
      (indexType schema (schema.parts.map translate))] (.object entries) := by
  rw [meetsProperties, Bool.and_eq_true, Bool.and_eq_true, List.all_eq_true, List.all_eq_true,
    List.all_eq_true] at hproperties
  obtain ⟨⟨hrequired, hdeclared⟩, hothers⟩ := hproperties
  have hpropertyTypes : propertyTypes schema (schema.parts.map translate) =
      schema.parts.fields.map fun f =>
        ⟨f.1, !decide (f.1 ∈ schema.required), translate f.2⟩ := by
    simp only [propertyTypes, Parts.map, List.map_map, Function.comp_def]
  refine .object (List.mem_singleton_self _) ?_ ?_ ?_
  · rw [hpropertyTypes]
    refine List.forall_mem_map.mpr fun f hf hoptional => ?_
    have hmem : f.1 ∈ schema.required := by simpa using hoptional
    exact of_decide_eq_true (hrequired f.1 hmem)
  · rw [hpropertyTypes]
    refine List.forall_mem_map.mpr fun f hf v hv => ?_
    have hvalid := hdeclared f hf
    rw [hv, Option.all_some] at hvalid
    exact h f.2 (Schema.mem_children.mpr (Or.inr (Or.inr (Or.inr (Or.inl ⟨f, hf, rfl⟩))))) v hvalid
  · intro values hvalues e he
    rcases indexType_cases hvalues with rfl | ⟨additional, hadditional, hnone, rfl⟩
    · exact admits_anyJson e.2
    · have hother := hothers e he
      have hpart : schema.parts.additional = some additional := by
        rw [Schema.parts, hadditional]
        rfl
      have hvalid : valid additional e.2 = true := by
        simpa [hnone, meetsAdditional, hadditional] using hother
      exact h additional (Schema.mem_children.mpr (Or.inr (Or.inr (Or.inr (Or.inr hpart))))) e.2
        hvalid

/-- The value has the type, if one is asked for. -/
def holdsType (t : Option SimpleType) (v : JsonValue) : Bool := t.all fun t => t.holds v

theorem holds_types {v : JsonValue} (h : schema.type.holds v = true) :
    ∃ t ∈ schema.types, holdsType t v = true := by
  unfold Schema.types
  cases htype : schema.type with
  | absent => exact ⟨none, List.mem_singleton_self _, rfl⟩
  | one t =>
      rw [htype] at h
      exact ⟨some t, List.mem_singleton_self _, h⟩
  | list first others =>
      rw [htype, TypeKeyword.holds, List.any_eq_true] at h
      obtain ⟨t, ht, hholds⟩ := h
      exact ⟨some t, List.mem_map_of_mem ht, hholds⟩

/-- A value of one type belongs to what is printed for the type. -/
theorem admits_single (h : PartsAdmit contract valid schema) {v : JsonValue}
    (hitems : meetsItems valid schema v = true)
    (hproperties : meetsProperties valid schema v = true) {t : Option SimpleType}
    (ht : holdsType t v = true)
    (hshape : schema.properties.isSome → t = some .object ∨ t = some .array) :
    Admits (declarations contract)
      [singleTranslation schema (schema.parts.map translate) t] v := by
  unfold singleTranslation
  split_ifs with harray hobject
  · subst harray
    cases v with
    | array elements => exact admits_items h hitems
    | _ => cases ht
  · have hobj : t = some .object := by
      rcases hobject with hobj | hsome
      · exact hobj
      · exact (hshape hsome).resolve_right harray
    subst hobj
    cases v with
    | object entries => exact admits_object h hproperties
    | _ => cases ht
  · rcases t with _ | _ | _ | _ | _ | _ | _ | _
    · exact admits_anyJson v
    · cases v with
      | string s => exact .string (List.mem_singleton_self _)
      | _ => cases ht
    · cases v with
      | number n => exact .number (List.mem_singleton_self _)
      | _ => cases ht
    · cases v with
      | number n => exact .number (List.mem_singleton_self _)
      | _ => cases ht
    · cases v with
      | boolean b => exact .boolean (List.mem_singleton_self _)
      | _ => cases ht
    · cases v with
      | null => exact .null (List.mem_singleton_self _)
      | _ => cases ht
    · exact absurd (Or.inl rfl) hobject
    · exact absurd rfl harray

/-- One of the printed branches admits the value. -/
theorem valid_branch {v : JsonValue} (hbranches : schema.branches ≠ [])
    (honeOf : (schema.oneOf.isEmpty ||
      decide (schema.oneOf.countP (fun branch => valid branch v) = 1)) = true)
    (hanyOf : (schema.anyOf.isEmpty || schema.anyOf.any fun branch => valid branch v) = true) :
    ∃ branch ∈ schema.branches, valid branch v = true := by
  unfold Schema.branches at hbranches ⊢
  split_ifs at hbranches ⊢ with hempty
  · have hany : schema.anyOf.any (fun branch => valid branch v) = true := by
      simpa [hbranches] using hanyOf
    exact List.any_eq_true.mp hany
  · have hcount : schema.oneOf.countP (fun branch => valid branch v) = 1 := by
      simpa [hbranches] using honeOf
    exact List.countP_pos_iff.mp (by omega)

/-- One step of validation: what is valid inside a schema belongs to the types inside, so what
meets the keywords belongs to the type. -/
theorem admits_of_meetsKeywords (hadequate : Adequate contract schema)
    (hhas : contract.Has schema) (hparts : PartsAdmit contract valid schema)
    (htargets : ∀ c ∈ contract.components, ∀ v, valid c.2 v = true →
      Admits (declarations contract) (translate c.2) v) {v : JsonValue}
    (h : meetsKeywords valid contract schema v = true) :
    Admits (declarations contract) (translate schema) v := by
  simp only [meetsKeywords, Bool.and_eq_true] at h
  obtain ⟨⟨⟨⟨⟨⟨href, henum⟩, honeOf⟩, hanyOf⟩, htype⟩, hitems⟩, hproperties⟩ := h
  cases hpath : schema.ref with
  | some path =>
      obtain ⟨c, hc, rfl, htarget⟩ := hhas.target hpath
      rw [hpath, Option.all_some, htarget, Option.any_some] at href
      rw [translate_of_ref (contract.declarable c hc).1 hpath]
      exact .named (List.mem_singleton_self _) (lookup_component hc) (htargets c hc v href)
  | none =>
      rcases schema_cases hpath with hmembers | ⟨hmembers, hbranches⟩ | hplain
      · have hany : schema.enum.any (fun member => sameJson member v) = true := by
          simpa [hmembers] using henum
        obtain ⟨member, hmember, hsame⟩ := List.any_eq_true.mp hany
        refine (admits_literal hsame).mono fun type hmem => translate_none_subset hpath ?_
        rw [List.mem_singleton] at hmem
        rw [resultTranslation_enum hmembers, hmem]
        exact List.mem_map_of_mem hmember
      · obtain ⟨branch, hbranch, hvalid⟩ := valid_branch hbranches honeOf hanyOf
        refine (hparts branch (branches_children hbranch) v hvalid).mono fun type hmem =>
          translate_none_subset hpath ?_
        rw [resultTranslation_branches hmembers hbranches]
        exact List.mem_flatten.mpr ⟨_, List.mem_map_of_mem hbranch, hmem⟩
      · obtain ⟨t, ht, hholds⟩ := holds_types htype
        have hsingle : (schema.properties.isSome → t = some .object ∨ t = some .array) →
            Admits (declarations contract) (translate schema) v := by
          intro hshape
          refine (admits_single hparts hitems hproperties hholds hshape).mono fun type hmem =>
            translate_none_subset hpath ?_
          rw [List.mem_singleton] at hmem
          rw [resultTranslation_plain hplain, hmem]
          exact List.mem_map_of_mem ht
        cases hsome : schema.properties.isSome with
        | false => exact hsingle fun h => absurd (hsome.symm.trans h) Bool.false_ne_true
        | true =>
            rcases hadequate.typed hplain hsome t ht with hobject | harray | ⟨rfl, hprints⟩
            · exact hsingle fun _ => Or.inl hobject
            · exact hsingle fun _ => Or.inr harray
            · cases v with
              | null => exact admits_of_printsNull hprints
              | _ => cases hholds

/-- In an adequate contract, every value that validates belongs to the type. -/
theorem admits_of_validates (hadequate : ∀ schema, contract.Has schema → Adequate contract schema)
    {depth : Nat} {schema : Schema} (hhas : contract.Has schema) {v : JsonValue}
    (h : contract.validates depth schema v = true) :
    Admits (declarations contract) (translate schema) v := by
  induction depth generalizing schema v with
  | zero => cases h
  | succ depth ih =>
      rw [ApiContract.validates, Bool.or_eq_true, Bool.and_eq_true] at h
      rcases h with ⟨hnullable, hnull⟩ | hmeets
      · cases v with
        | null => exact admits_of_printsNull ((hadequate schema hhas).null hnullable)
        | _ => cases hnull
      · exact admits_of_meetsKeywords (hadequate schema hhas) hhas
          (fun part hpart v hv => ih (hhas.child hpart) hv)
          (fun c hc v hv => ih (has_component hc) hv) hmeets

end Sound

/-! ## Contracts that are not adequate -/

/-- Neither an array nor an object. -/
def isScalar : JsonValue → Bool
  | .array _ => false
  | .object _ => false
  | _ => true

/-- The number zero. -/
def zero : JsonNumber where
  text := units "0"
  start := ⟨48, [], by decide +kernel, Or.inl (by decide)⟩
  written := by
    have htext : units "0" = [48] := by decide +kernel
    rw [htext]
    exact List.forall_mem_singleton.mpr (by decide)

/-- A value of each type. -/
def sample : SimpleType → JsonValue
  | .string => .string []
  | .integer => .number zero
  | .number => .number zero
  | .boolean => .boolean true
  | .null => .null
  | .object => .object []
  | .array => .array []

theorem holds_sample (t : SimpleType) : t.holds (sample t) = true := by
  cases t <;> decide +kernel

section Failing

variable {contract : ApiContract} {schema : Schema} {v : JsonValue}

theorem validates_null (h : schema.nullable = true) : contract.Validates schema .null := by
  refine ⟨1, fun more hmore => ?_⟩
  obtain ⟨depth, rfl⟩ : ∃ depth, more = depth + 1 := ⟨more - 1, by omega⟩
  rw [ApiContract.validates, h]
  rfl

/-- The type alone decides about a scalar. -/
theorem validates_scalar (hplain : schema.Plain) (htype : schema.type.holds v = true)
    (hscalar : isScalar v = true) : contract.Validates schema v := by
  refine ⟨1, fun more hmore => ?_⟩
  obtain ⟨depth, rfl⟩ : ∃ depth, more = depth + 1 := ⟨more - 1, by omega⟩
  have hitems : meetsItems (contract.validates depth) schema v = true := by
    cases v with
    | array elements => cases hscalar
    | _ => rfl
  have hproperties : meetsProperties (contract.validates depth) schema v = true := by
    cases v with
    | object entries => cases hscalar
    | _ => rfl
  have hmeets : meetsKeywords (contract.validates depth) contract schema v = true := by
    simp [meetsKeywords, hplain.ref, hplain.enum, hplain.oneOf, hplain.anyOf, htype, hitems,
      hproperties]
  rw [ApiContract.validates, hmeets, Bool.or_true]

theorem holds_of_mem_types {t : Option SimpleType} (ht : t ∈ schema.types)
    (h : holdsType t v = true) : schema.type.holds v = true := by
  unfold Schema.types at ht
  cases htype : schema.type with
  | absent => rfl
  | one t' =>
      rw [htype, List.mem_singleton] at ht
      subst ht
      exact h
  | list first others =>
      rw [htype] at ht
      obtain ⟨t', ht', rfl⟩ := List.mem_map.mp ht
      exact List.any_eq_true.mpr ⟨t', ht', h⟩

/-- Where properties are printed, no alternative is for a scalar but null. -/
theorem mem_translate_of_properties (hplain : schema.Plain)
    (hproperties : schema.properties.isSome = true) {type : TsType}
    (h : type ∈ translate schema) :
    (∃ items, type = .array items) ∨ (∃ properties index, type = .object properties index) ∨
      type = .null := by
  rw [translate_of_ref_none hplain.ref, resultTranslation_plain hplain, List.mem_append] at h
  rcases h with h | h
  · obtain ⟨t, -, rfl⟩ := List.mem_map.mp h
    unfold singleTranslation
    split_ifs with harray hobject
    · exact Or.inl ⟨_, rfl⟩
    · exact Or.inr (Or.inl ⟨_, _, rfl⟩)
    · exact absurd (Or.inr hproperties) hobject
  · split_ifs at h
    · exact Or.inr (Or.inr (List.mem_singleton.mp h))
    · cases h

theorem null_of_scalar (hplain : schema.Plain) (hproperties : schema.properties.isSome = true)
    (hscalar : isScalar v = true) (h : Admits (declarations contract) (translate schema) v) :
    v = .null := by
  have hmem : ∀ {type : TsType}, type ∈ translate schema → (∃ items, type = .array items) ∨
      (∃ properties index, type = .object properties index) ∨ type = .null :=
    mem_translate_of_properties hplain hproperties
  cases h with
  | null h => rfl
  | array h => cases hscalar
  | tuple h => cases hscalar
  | object h => cases hscalar
  | boolean h => simpa using hmem h
  | number h => simpa using hmem h
  | string h => simpa using hmem h
  | booleanLiteral h => simpa using hmem h
  | numberLiteral h => simpa using hmem h
  | stringLiteral h => simpa using hmem h
  | named h => simpa using hmem h

end Failing

/-- The generated types admit every value that validates, for every schema of the contract and
inside it, if and only if null is printed wherever a schema is nullable and the types of every
schema whose properties are printed are `object` or `array`, or `null` where it is printed. -/
theorem generated_types_admit (contract : ApiContract) :
    (∀ schema, contract.Has schema → ∀ v, contract.Validates schema v →
      Belongs contract (type schema) v) ↔
    ∀ schema, contract.Has schema → Adequate contract schema := by
  constructor
  · intro hbelongs schema hhas
    have hvalid : ∀ v, contract.Validates schema v →
        Admits (declarations contract) (translate schema) v :=
      fun v hv => (belongs_iff hhas v).mp (hbelongs schema hhas v hv)
    have hscalar : ∀ t ∈ schema.types, ∀ v, schema.Plain → holdsType t v = true →
        isScalar v = true → Admits (declarations contract) (translate schema) v :=
      fun t ht v hplain hholds hv =>
        hvalid v (validates_scalar hplain (holds_of_mem_types ht hholds) hv)
    refine ⟨fun hnullable => (admits_null_iff hhas).mp (hvalid .null (validates_null hnullable)),
      fun hplain hproperties t ht => ?_⟩
    have hnull : ∀ v, holdsType t v = true → isScalar v = true → v = .null := fun v hholds hv =>
      null_of_scalar hplain hproperties hv (hscalar t ht v hplain hholds hv)
    cases t with
    | none => cases hnull (.string []) rfl rfl
    | some t =>
        have hholds : holdsType (some t) (sample t) = true := holds_sample t
        cases t with
        | object => exact Or.inl rfl
        | array => exact Or.inr (Or.inl rfl)
        | null =>
            have hadmits := hscalar (some .null) ht .null hplain hholds rfl
            exact Or.inr (Or.inr ⟨rfl, (admits_null_iff hhas).mp hadmits⟩)
        | string => cases hnull _ hholds rfl
        | integer => cases hnull _ hholds rfl
        | number => cases hnull _ hholds rfl
        | boolean => cases hnull _ hholds rfl
  · intro hadequate schema hhas v hvalid
    obtain ⟨depth, hdepth⟩ := hvalid
    rw [belongs_iff hhas]
    exact admits_of_validates hadequate hhas (hdepth depth (Nat.le_refl depth))

/-! ### A nullable object with a nullable property -/

/-- A note, which may be null. -/
def note : Schema := { Schema.empty with type := .one .string, nullable := true }

/-- An object with a note. -/
def noted : Schema :=
  { Schema.empty with
    type := .one .object
    properties := some [(units "note", note)]
    nullable := true }

/-- A contract with that object. -/
def notedContract : ApiContract where
  components := [(units "Noted", noted)]
  distinct := List.nodup_singleton _
  declarable := List.forall_mem_singleton.mpr ⟨by decide +kernel, by decide +kernel⟩
  resolved := by
    have hrefs : noted.refs = [] := by decide +kernel
    refine List.forall_mem_singleton.mpr fun path hpath => ?_
    rw [hrefs] at hpath
    cases hpath

/-- The suffix of the property is taken for that of the object. -/
example : type noted = units "\x7b \"note\"?: string | null; \x7d" := by decide +kernel

/-- Null validates against the nullable object and does not belong to its type. -/
theorem nullable_object_loses_null : notedContract.Has noted ∧
    notedContract.Validates noted .null ∧ ¬ Belongs notedContract (type noted) .null := by
  have hhas : notedContract.Has noted :=
    ⟨(units "Noted", noted), List.mem_singleton_self _, .self noted⟩
  refine ⟨hhas, validates_null rfl, ?_⟩
  rw [belongs_iff hhas, admits_null_iff hhas]
  intro hprints
  cases hprints with
  | ref hc href => cases href
  | added href h =>
      have hnot : noted.addsNull = false := by decide +kernel
      exact Bool.false_ne_true (hnot.symm.trans h)
  | enum href h => cases h
  | branch href henum hbranch => cases hbranch
  | type hplain hproperties => cases hproperties
  | unconstrained hplain hproperties => cases hproperties

end LuxLedger.Contract
