/-
  Contract/NullAlternatives.lean --- when null belongs to a generated type.
-/
import LuxLedger.Contract.Declarations
import LuxLedger.Foundation.KeyedStore

set_option autoImplicit false

namespace LuxLedger.Contract

open Javascript JsString

/-! ## The alternatives that are printed -/

namespace Schema

variable (schema : Schema)

/-- `schema.oneOf ?? schema.anyOf`. -/
def branches : List Schema := if schema.oneOf.isEmpty then schema.anyOf else schema.oneOf

/-- The schema has neither alternatives nor a reference. -/
structure Plain : Prop where
  ref : schema.ref = none
  enum : schema.enum = []
  oneOf : schema.oneOf = []
  anyOf : schema.anyOf = []

/-- The types that are printed for a plain schema. -/
def types : List (Option SimpleType) :=
  match schema.type with
  | .absent => [none]
  | .one t => [some t]
  | .list first others => (first :: others).map some

end Schema

section Alternatives

variable {schema : Schema} {parts : Parts TsUnion} {type : TsType}

theorem branches_children {branch : Schema} (h : branch ∈ schema.branches) :
    branch ∈ schema.children := by
  rw [Schema.branches] at h
  rw [Schema.mem_children]
  split_ifs at h
  · exact Or.inr (Or.inl h)
  · exact Or.inl h

theorem resultTranslation_enum (henum : schema.enum ≠ []) :
    resultTranslation schema parts = schema.enum.map literalType :=
  if_pos (by simpa using henum)

theorem resultTranslation_branches (henum : schema.enum = []) (hne : schema.branches ≠ []) :
    resultTranslation schema (schema.parts.map translate) =
      (schema.branches.map translate).flatten := by
  have hsome : (!schema.oneOf.isEmpty || !schema.anyOf.isEmpty) = true := by
    cases honeOf : schema.oneOf with
    | nil => simpa [Schema.branches, honeOf] using hne
    | cons first rest => rfl
  rw [resultTranslation, if_neg (by simp [henum]), if_pos hsome, Schema.branches]
  split_ifs <;> rfl

theorem resultTranslation_plain (h : schema.Plain) :
    resultTranslation schema parts =
      schema.types.map fun t => singleTranslation schema parts t := by
  rw [resultTranslation, if_neg (by simp [h.enum]), if_neg (by simp [h.oneOf, h.anyOf]),
    Schema.types]
  cases schema.type with
  | absent => rfl
  | one t => rfl
  | list first others => simp only [List.map_map, Function.comp_def]

/-- A schema without a reference has an enumeration, branches or neither. -/
theorem schema_cases (href : schema.ref = none) :
    schema.enum ≠ [] ∨ (schema.enum = [] ∧ schema.branches ≠ []) ∨ schema.Plain := by
  by_cases henum : schema.enum = []
  · by_cases hbranches : schema.branches = []
    · have hboth : schema.oneOf = [] ∧ schema.anyOf = [] := by
        rw [Schema.branches] at hbranches
        split_ifs at hbranches with honeOf
        · exact ⟨List.isEmpty_iff.mp honeOf, hbranches⟩
        · exact absurd (List.isEmpty_iff.mpr hbranches) honeOf
      exact Or.inr (Or.inr ⟨href, henum, hboth.1, hboth.2⟩)
    · exact Or.inr (Or.inl ⟨henum, hbranches⟩)
  · exact Or.inl henum

end Alternatives

/-! ## Where null is printed -/

/-- The printed type has null among its alternatives, by what the schema says. -/
inductive PrintsNull (contract : ApiContract) : Schema → Prop
  | ref {schema : Schema} {c : JsString × Schema} (hc : c ∈ contract.components)
      (href : schema.ref = some (schemaPath c.1)) (h : PrintsNull contract c.2) :
      PrintsNull contract schema
  /-- `nullable`, and nothing that is printed for the schema mentions null -/
  | added {schema : Schema} (href : schema.ref = none) (h : schema.addsNull = true) :
      PrintsNull contract schema
  | enum {schema : Schema} (href : schema.ref = none) (h : .null ∈ schema.enum) :
      PrintsNull contract schema
  | branch {schema branch : Schema} (href : schema.ref = none) (henum : schema.enum = [])
      (hbranch : branch ∈ schema.branches) (h : PrintsNull contract branch) :
      PrintsNull contract schema
  | type {schema : Schema} (hplain : schema.Plain) (hproperties : schema.properties = none)
      (h : some .null ∈ schema.types) : PrintsNull contract schema
  | unconstrained {schema : Schema} (hplain : schema.Plain)
      (hproperties : schema.properties = none) (h : none ∈ schema.types) :
      PrintsNull contract schema

section Null

variable {contract : ApiContract} {schema : Schema}

theorem lookup_json : (declarations contract).lookup (units "Json") = some jsonUnion := by
  rw [declarations, List.lookup_cons_self]

/-- A schema's name stands for the type that is printed for it. -/
theorem lookup_component {c : JsString × Schema} (hc : c ∈ contract.components) :
    (declarations contract).lookup c.1 = some (translate c.2) := by
  have hjson : c.1 ≠ units "Json" := fun heq =>
    (contract.declarable c hc).2 (by rw [heq]; exact List.mem_cons_self)
  have hne : (c.1 == units "Json") = false := beq_eq_false_iff_ne.mpr hjson
  rw [declarations, List.lookup_cons, hne]
  rw [Foundation.lookup_eq_some_iff_mem]
  · exact List.mem_map.mpr ⟨c, hc, rfl⟩
  · rw [List.map_map]
    exact contract.distinct

/-- Any other name than `Json` is that of a schema. -/
theorem component_of_lookup {name : JsString} {types : TsUnion} (hjson : name ≠ units "Json")
    (h : (declarations contract).lookup name = some types) :
    ∃ c ∈ contract.components, name = c.1 ∧ types = translate c.2 := by
  have hne : (name == units "Json") = false := beq_eq_false_iff_ne.mpr hjson
  have hnodup : ((contract.components.map fun c => (c.1, translate c.2)).map Prod.fst).Nodup := by
    rw [List.map_map]
    exact contract.distinct
  rw [declarations, List.lookup_cons, hne] at h
  obtain ⟨c, hc, heq⟩ := List.mem_map.mp ((Foundation.lookup_eq_some_iff_mem hnodup).mp h)
  exact ⟨c, hc, (congrArg Prod.fst heq).symm, (congrArg Prod.snd heq).symm⟩

/-- Names are those of different schemas. -/
theorem component_eq {c d : JsString × Schema} (hc : c ∈ contract.components)
    (hd : d ∈ contract.components) (h : c.1 = d.1) : c = d :=
  List.inj_on_of_nodup_map contract.distinct hc hd h

theorem translate_none_subset (href : schema.ref = none) {type : TsType}
    (h : type ∈ resultTranslation schema (schema.parts.map translate)) :
    type ∈ translate schema := by
  rw [translate_of_ref_none href]
  exact List.mem_append_left _ h

/-- Where null is printed, it belongs to the type. -/
theorem admits_of_printsNull (h : PrintsNull contract schema) :
    Admits (declarations contract) (translate schema) .null := by
  induction h with
  | @ref schema c hc href _ ih =>
      rw [translate_of_ref (contract.declarable c hc).1 href]
      exact .named (List.mem_singleton_self _) (lookup_component hc) ih
  | added href h =>
      rw [translate_of_ref_none href, h]
      exact .null (List.mem_append_right _ (List.mem_singleton_self _))
  | @enum schema href h =>
      refine .null (translate_none_subset href ?_)
      rw [resultTranslation_enum (List.ne_nil_of_mem h)]
      exact List.mem_map.mpr ⟨.null, h, rfl⟩
  | @branch schema branch href henum hbranch _ ih =>
      refine ih.mono fun type htype => translate_none_subset href ?_
      rw [resultTranslation_branches henum (List.ne_nil_of_mem hbranch)]
      exact List.mem_flatten.mpr ⟨_, List.mem_map_of_mem hbranch, htype⟩
  | @type schema hplain hproperties h =>
      refine .null (translate_none_subset hplain.ref ?_)
      rw [resultTranslation_plain hplain]
      refine List.mem_map.mpr ⟨some .null, h, ?_⟩
      simp [singleTranslation, hproperties, primitiveType]
  | @unconstrained schema hplain hproperties h =>
      refine (admits_json lookup_json .null).mono fun type htype =>
        translate_none_subset hplain.ref ?_
      rw [List.mem_singleton] at htype
      rw [resultTranslation_plain hplain, htype]
      refine List.mem_map.mpr ⟨none, h, ?_⟩
      simp [singleTranslation, hproperties, primitiveType]

/-- A single type that null belongs to. -/
def GivesNull (contract : ApiContract) (type : TsType) : Prop :=
  type = .null ∨ type = .named (units "Json") ∨
    ∃ c ∈ contract.components, type = .named c.1 ∧ PrintsNull contract c.2

theorem literalType_givesNull {v : JsonValue} (h : GivesNull contract (literalType v)) :
    v = .null := by
  cases v with
  | null => rfl
  | _ => simp [GivesNull, literalType] at h

/-- A plain schema prints a type that null belongs to only for `null` or for no type. -/
theorem singleTranslation_givesNull {t : Option SimpleType}
    (h : GivesNull contract (singleTranslation schema (schema.parts.map translate) t)) :
    schema.properties = none ∧ (t = none ∨ t = some .null) := by
  unfold singleTranslation at h
  split_ifs at h with harray hobject
  · simp [GivesNull] at h
  · simp [GivesNull] at h
  · rw [not_or, Bool.not_eq_true, Option.isSome_eq_false_iff, Option.isNone_iff_eq_none] at hobject
    refine ⟨hobject.2, ?_⟩
    rcases t with _ | _ | _ | _ | _ | _ | _ | _
    · exact Or.inl rfl
    · simp [GivesNull, primitiveType] at h
    · simp [GivesNull, primitiveType] at h
    · simp [GivesNull, primitiveType] at h
    · simp [GivesNull, primitiveType] at h
    · exact Or.inr rfl
    · exact absurd rfl hobject.1
    · exact absurd rfl harray

theorem printsNull_of_mem (hhas : contract.Has schema) {type : TsType}
    (hmem : type ∈ translate schema) (hgives : GivesNull contract type) :
    PrintsNull contract schema := by
  induction schema using Schema.induction with
  | step schema ih =>
  cases href : schema.ref with
  | some path =>
      obtain ⟨c, hc, rfl, -⟩ := hhas.target href
      obtain ⟨hname, hfree⟩ := contract.declarable c hc
      rw [translate_of_ref hname href, List.mem_singleton] at hmem
      subst hmem
      rcases hgives with hnull | hjson | ⟨d, hd, hnamed, h⟩
      · cases hnull
      · injection hjson with heq
        exact absurd (heq ▸ List.mem_cons_self) hfree
      · injection hnamed with heq
        obtain rfl := component_eq hc hd heq
        exact .ref hc href h
  | none =>
      rw [translate_of_ref_none href, List.mem_append] at hmem
      rcases hmem with hmem | hmem
      · rcases schema_cases href with henum | ⟨henum, hbranches⟩ | hplain
        · rw [resultTranslation_enum henum] at hmem
          obtain ⟨v, hv, rfl⟩ := List.mem_map.mp hmem
          exact .enum href (literalType_givesNull hgives ▸ hv)
        · rw [resultTranslation_branches henum hbranches, List.mem_flatten] at hmem
          obtain ⟨types, htypes, htype⟩ := hmem
          obtain ⟨branch, hbranch, rfl⟩ := List.mem_map.mp htypes
          have hchild := branches_children hbranch
          exact .branch href henum hbranch (ih branch hchild (hhas.child hchild) htype)
        · rw [resultTranslation_plain hplain] at hmem
          obtain ⟨t, ht, rfl⟩ := List.mem_map.mp hmem
          obtain ⟨hproperties, rfl | rfl⟩ := singleTranslation_givesNull hgives
          · exact .unconstrained hplain hproperties ht
          · exact .type hplain hproperties ht
      · split_ifs at hmem with hadds
        · exact .added href hadds
        · cases hmem

/-- Null belongs to the type exactly where it is printed. -/
theorem admits_null_iff (hhas : contract.Has schema) :
    Admits (declarations contract) (translate schema) .null ↔ PrintsNull contract schema := by
  refine ⟨fun h => ?_, admits_of_printsNull⟩
  generalize htypes : translate schema = types at h
  generalize hnull : JsonValue.null = v at h
  induction h generalizing schema with
  | null h => exact printsNull_of_mem hhas (htypes ▸ h) (Or.inl rfl)
  | @named types type name v h hdeclared _ ih =>
      refine printsNull_of_mem hhas (htypes ▸ h) ?_
      by_cases hjson : name = units "Json"
      · exact Or.inr (Or.inl (congrArg TsType.named hjson))
      · obtain ⟨c, hc, rfl, rfl⟩ := component_of_lookup hjson hdeclared
        exact Or.inr (Or.inr ⟨c, hc, rfl, ih (has_component hc) rfl hnull⟩)
  | _ => cases hnull

end Null

end LuxLedger.Contract
