/-
  Contract/Translation.lean --- the types that are generated, as types: what the reader
  reads from the text that is printed for a schema.
-/
import LuxLedger.Contract.NullText
import LuxLedger.Javascript.TypeValues

set_option autoImplicit false

namespace LuxLedger.Contract

open Javascript JsString

/-! ## The types of schemas -/

/-- The type `Json`. -/
def anyJson : TsUnion := [.named (units "Json")]

/-- The properties of an object type. -/
def propertyTypes (schema : Schema) (parts : Parts TsUnion) : List (TsProperty TsUnion) :=
  parts.fields.map fun f => ⟨f.1, !decide (f.1 ∈ schema.required), f.2⟩

/-- The index signature.  One that is asked for by a schema is left out next to properties. -/
def indexType (schema : Schema) (parts : Parts TsUnion) : Option TsUnion :=
  match schema.additionalProperties with
  | some (.inl true) => some anyJson
  | some (.inr _) => if parts.fields.isEmpty then some (parts.additional.getD anyJson) else none
  | _ => if parts.fields.isEmpty then some anyJson else none

/-- The type of a simple type. -/
def primitiveType : Option SimpleType → TsType
  | some .string => .string
  | some .integer => .number
  | some .number => .number
  | some .boolean => .boolean
  | some .null => .null
  | _ => .named (units "Json")

/-- The type of a schema of one type. -/
def singleTranslation (schema : Schema) (parts : Parts TsUnion) (t : Option SimpleType) : TsType :=
  if t = some .array then .array (parts.items.getD anyJson)
  else if t = some .object ∨ schema.properties.isSome then
    .object (propertyTypes schema parts) (indexType schema parts)
  else primitiveType t

/-- The type before null is added. -/
def resultTranslation (schema : Schema) (parts : Parts TsUnion) : TsUnion :=
  if !schema.enum.isEmpty then schema.enum.map literalType
  else if !schema.oneOf.isEmpty || !schema.anyOf.isEmpty then
    (if schema.oneOf.isEmpty then parts.anyOf else parts.oneOf).flatten
  else
    match schema.type with
    | .list first others => (first :: others).map fun t => singleTranslation schema parts (some t)
    | .one t => [singleTranslation schema parts (some t)]
    | .absent => [singleTranslation schema parts none]

/-- `nullable` adds an alternative to the type. -/
def Schema.addsNull (schema : Schema) : Bool := schema.nullable && !schema.mentionsNull

/-- The type of a schema from those of its parts. -/
def translateWith (schema : Schema) (parts : Parts TsUnion) : TsUnion :=
  match schema.ref with
  | some (u :: path) => [.named (lastSegment (u :: path))]
  | _ => resultTranslation schema parts ++ if schema.addsNull then [.null] else []

/-- The type of a schema. -/
def translate : Schema → TsUnion := Schema.fold translateWith

/-! ## Reading what is printed -/

/-- The text of the schema's type is written for its translation and says about null what the
schema says. -/
structure Printed (schema : Schema) : Prop where
  isUnion : IsUnion (type schema) (translate schema)
  describes : (nullText schema).Describes (type schema)

theorem Printed.begins {schema : Schema} (h : Printed schema) : Begins (type schema) := by
  obtain ⟨u, rest, htext, hu⟩ := h.isUnion.starts
  exact ⟨u, rest, htext, (isOpening_iff.mp hu).2.1⟩

theorem isUnion_json : IsUnion (units "Json") anyJson :=
  .single (isPrimary_name (by decide +kernel) (nameType_of_not_reserved (by decide +kernel)))

theorem isPrimary_primitive (t : Option SimpleType) :
    IsPrimary (primitive t) (primitiveType t) := by
  rcases t with _ | _ | _ | _ | _ | _ | _ | _
  all_goals exact isPrimary_name (by decide +kernel) rfl

/-! ### Object types -/

/-- A field without the semicolon behind it. -/
def fieldText (schema : Schema) (name text : JsString) : JsString :=
  literal (.string name) ++ (if name ∈ schema.required then [] else units "?") ++ units ": " ++
    text

/-- The key of an index signature. -/
def keyText (text : JsString) : JsString := units "[key: string]: " ++ text

theorem begins_fieldText (schema : Schema) (name text : JsString) :
    Begins (fieldText schema name text) := ⟨quoteMark, _, rfl, by decide⟩

theorem begins_keyText (text : JsString) : Begins (keyText text) := by
  have hopen : units "[key: string]: " = 91 :: units "key: string]: " := by decide +kernel
  exact ⟨91, units "key: string]: " ++ text, by rw [keyText, hopen]; rfl, by decide⟩

theorem isMember_fieldText (schema : Schema) (name : JsString) {text : JsString} {types : TsUnion}
    (h : IsUnion text types) : IsMember (fieldText schema name text)
      (.property ⟨name, !decide (name ∈ schema.required), types⟩) := by
  have hmark : (if name ∈ schema.required then [] else units "?") =
      optionalMark (!decide (name ∈ schema.required)) := by
    by_cases hrequired : name ∈ schema.required <;> simp [optionalMark, hrequired]
  have hmember := isMember_property h name (!decide (name ∈ schema.required)) (Or.inr rfl)
  have hliteral : literal (.string name) = quote name := by rw [literal, stringify]
  rw [fieldText, hliteral, hmark, units_colon]
  simpa only [List.append_assoc, List.cons_append, List.nil_append] using hmember

section Object

variable {schema : Schema}

/-- The declared properties and what is read from each. -/
def writtenFields (schema : Schema) : List (JsString × TsMember) :=
  schema.parts.fields.map fun f => (fieldText schema f.1 (type f.2),
    .property ⟨f.1, !decide (f.1 ∈ schema.required), translate f.2⟩)

theorem isMember_writtenFields (h : ∀ f ∈ schema.parts.fields, Printed f.2) :
    ∀ f ∈ writtenFields schema, IsMember f.1 f.2 :=
  List.forall_mem_map.mpr fun f hf => isMember_fieldText schema f.1 (h f hf).isUnion

theorem members_writtenFields : (writtenFields schema).map (·.2) =
    (propertyTypes schema (schema.parts.map translate)).map .property := by
  simp only [writtenFields, propertyTypes, Parts.map, List.map_map, Function.comp_def]

/-- The texts of the declared properties. -/
def declaredTexts (schema : Schema) : List JsString :=
  (schema.parts.map type).fields.map fun f => field schema f.1 f.2

theorem declaredTexts_eq : declaredTexts schema =
    (writtenFields schema).map fun f => f.1 ++ units ";" := by
  rw [declaredTexts, writtenFields, Parts.map, List.map_map, List.map_map]
  rfl

theorem begins_declaredTexts :
    ∀ text ∈ declaredTexts schema, ∃ g, text = g ++ units ";" ∧ Begins g :=
  List.forall_mem_map.mpr fun f _ => ⟨fieldText schema f.1 f.2, rfl, begins_fieldText _ _ _⟩

/-- The texts of declared properties mention null where a key or a type does. -/
theorem infix_declaredTexts (h : ∀ f ∈ schema.parts.fields, Printed f.2) :
    (∃ text ∈ declaredTexts schema, nullSuffix <:+: text) ↔
      mentionsDeclared (schema.parts.map nullText) = true := by
  simp only [declaredTexts, mentionsDeclared, Parts.map, List.map_map, List.mem_map,
    exists_exists_and_eq_and, List.any_map, List.any_eq_true, Function.comp_apply]
  refine exists_congr fun f => and_congr_right fun hf => ?_
  exact NullText.infix_field schema (h f hf).begins (h f hf).describes.mentions

/-- The types of all schemas inside the schema are printed. -/
def PartsPrinted (schema : Schema) : Prop := ∀ part ∈ schema.children, Printed part

theorem PartsPrinted.fields (h : PartsPrinted schema) :
    ∀ f ∈ schema.parts.fields, Printed f.2 := fun f hf =>
  h f.2 (Schema.mem_children.mpr (Or.inr (Or.inr (Or.inr (Or.inl ⟨f, hf, rfl⟩)))))

theorem PartsPrinted.items (h : PartsPrinted schema) :
    ∀ part ∈ schema.items, Printed part := fun part hpart =>
  h part (Schema.mem_children.mpr (Or.inr (Or.inr (Or.inl hpart))))

theorem PartsPrinted.additional (h : PartsPrinted schema) :
    ∀ part ∈ schema.parts.additional, Printed part := fun part hpart =>
  h part (Schema.mem_children.mpr (Or.inr (Or.inr (Or.inr (Or.inr hpart)))))

/-- The text of an object type. -/
def objectText (schema : Schema) : JsString :=
  if (fields schema (schema.parts.map type)).isEmpty then units "Record<string, Json>"
  else units "\x7b " ++ (units " ").intercalate (fields schema (schema.parts.map type)) ++
    units " \x7d"

/-- The text of the object type is written for its translation and mentions null as said. -/
structure ObjectPrinted (schema : Schema) (mentions : Bool) : Prop where
  isPrimary : IsPrimary (objectText schema)
    (.object (propertyTypes schema (schema.parts.map translate))
      (indexType schema (schema.parts.map translate)))
  mentions : nullSuffix <:+: objectText schema ↔ mentions = true

/-- Properties that are followed by an index signature. -/
theorem printed_indexed (h : PartsPrinted schema) {text : JsString} {values : TsUnion}
    {mentions : Bool}
    (hfields : fields schema (schema.parts.map type) = declaredTexts schema ++ [keyField text])
    (hindex : indexType schema (schema.parts.map translate) = some values)
    (hvalues : IsUnion text values) (hbegins : Begins text)
    (hmentions : nullSuffix <:+: text ↔ mentions = true) :
    ObjectPrinted schema (mentionsDeclared (schema.parts.map nullText) || mentions) := by
  have hne : declaredTexts schema ++ [keyField text] ≠ [] :=
    List.append_ne_nil_of_right_ne_nil _ (List.cons_ne_nil _ _)
  have htext : objectText schema = units "\x7b " ++
      (units " ").intercalate (declaredTexts schema ++ [keyField text]) ++ units " \x7d" := by
    rw [objectText, hfields, if_neg (by simp)]
  have htexts : declaredTexts schema ++ [keyField text] =
      (writtenFields schema ++ [(keyText text, TsMember.index values)]).map
        fun f => f.1 ++ units ";" := by
    rw [declaredTexts_eq, List.map_append]
    rfl
  constructor
  · rw [htext, htexts, hindex]
    refine isPrimary_object (List.append_ne_nil_of_right_ne_nil _ (List.cons_ne_nil _ _)) ?_ ?_
    · exact List.forall_mem_append.mpr ⟨isMember_writtenFields h.fields,
        List.forall_mem_singleton.mpr (isMember_index hvalues)⟩
    · rw [List.map_append, members_writtenFields]
      exact objectType_index _ values
  · have hkey : ∃ g, keyField text = g ++ units ";" ∧ Begins g :=
      ⟨keyText text, rfl, begins_keyText text⟩
    rw [htext, NullText.infix_braces hne
      (List.forall_mem_append.mpr ⟨begins_declaredTexts, List.forall_mem_singleton.mpr hkey⟩)]
    simp only [List.mem_append, or_and_right, exists_or, List.mem_singleton, exists_eq_left,
      infix_declaredTexts h.fields, NullText.infix_keyField hbegins hmentions, Bool.or_eq_true]

/-- Properties without an index signature. -/
theorem printed_closed (h : PartsPrinted schema) (hne : schema.parts.fields ≠ [])
    (hfields : fields schema (schema.parts.map type) = declaredTexts schema)
    (hindex : indexType schema (schema.parts.map translate) = none) :
    ObjectPrinted schema (mentionsDeclared (schema.parts.map nullText)) := by
  have hwritten : writtenFields schema ≠ [] := fun hnil => hne (List.map_eq_nil_iff.mp hnil)
  have hdeclared : declaredTexts schema ≠ [] := by
    rw [declaredTexts_eq]
    exact fun hnil => hwritten (List.map_eq_nil_iff.mp hnil)
  have htext : objectText schema = units "\x7b " ++
      (units " ").intercalate (declaredTexts schema) ++ units " \x7d" := by
    rw [objectText, hfields, if_neg (by simpa using hdeclared)]
  constructor
  · rw [htext, declaredTexts_eq, hindex]
    refine isPrimary_object hwritten (isMember_writtenFields h.fields) ?_
    rw [members_writtenFields, objectType_properties]
  · rw [htext, NullText.infix_braces hdeclared begins_declaredTexts,
      infix_declaredTexts h.fields]

/-- An object type of which nothing is declared. -/
theorem printed_record (hnone : schema.parts.fields = [])
    (hfields : fields schema (schema.parts.map type) = declaredTexts schema)
    (hindex : indexType schema (schema.parts.map translate) = some anyJson) :
    ObjectPrinted schema (mentionsDeclared (schema.parts.map nullText)) := by
  have htext : objectText schema = units "Record<string, " ++ units "Json" ++ units ">" := by
    have hrecord : units "Record<string, Json>" =
        units "Record<string, " ++ units "Json" ++ units ">" := by decide +kernel
    rw [objectText, hfields, declaredTexts, Parts.map, hnone, hrecord]
    rfl
  have hproperties : propertyTypes schema (schema.parts.map translate) = [] := by
    rw [propertyTypes, Parts.map, hnone]
    rfl
  have hmentions : mentionsDeclared (schema.parts.map nullText) = false := by
    rw [mentionsDeclared, Parts.map, hnone]
    rfl
  constructor
  · rw [htext, hindex, hproperties]
    exact isPrimary_record isUnion_json
  · rw [htext, hmentions]
    decide +kernel

/-- The properties alone, or the record type if there are none. -/
theorem printed_declared (h : PartsPrinted schema)
    (hfields : fields schema (schema.parts.map type) = declaredTexts schema)
    (hindex : indexType schema (schema.parts.map translate) =
      if schema.parts.fields.isEmpty then some anyJson else none) :
    ObjectPrinted schema (mentionsDeclared (schema.parts.map nullText)) := by
  cases hnone : schema.parts.fields with
  | nil => exact printed_record hnone hfields (by rw [hindex, hnone]; rfl)
  | cons f rest =>
      have hne : schema.parts.fields ≠ [] := by
        rw [hnone]
        exact List.cons_ne_nil f rest
      exact printed_closed h hne hfields (by rw [hindex, hnone]; rfl)

/-- What is printed for a schema of type `object`. -/
theorem printed_object (h : PartsPrinted schema) :
    ObjectPrinted schema (mentionsFields schema (schema.parts.map nullText)) := by
  have hempty : (schema.parts.map translate).fields.isEmpty = schema.parts.fields.isEmpty := by
    simp [Parts.map]
  unfold mentionsFields
  rcases hadditional : schema.additionalProperties with _ | allowed | additional
  · simp only [Bool.or_false]
    refine printed_declared h (by simp only [fields, hadditional, declaredTexts]) ?_
    simp only [indexType, hadditional, hempty]
  · simp only [Bool.or_false]
    cases allowed with
    | false =>
        refine printed_declared h (by simp only [fields, hadditional, declaredTexts]) ?_
        simp only [indexType, hadditional, hempty]
    | true =>
        have hjson : nullSuffix <:+: units "Json" ↔ false = true := by decide +kernel
        have hbegins : Begins (units "Json") := ⟨74, units "son", by decide +kernel, by decide⟩
        have hindexed := printed_indexed h
          (by simp only [fields, hadditional, declaredTexts])
          (by simp only [indexType, hadditional]) isUnion_json hbegins hjson
        simpa only [Bool.or_false] using hindexed
  · have hpart : schema.parts.additional = some additional := by
      rw [Schema.parts, hadditional]
      rfl
    have hprinted := h.additional additional hpart
    cases hnone : schema.parts.fields with
    | nil =>
        have hfields : fields schema (schema.parts.map type) =
            declaredTexts schema ++ [keyField (type additional)] := by
          simp [fields, hadditional, declaredTexts, Parts.map, hnone, hpart]
        have hindex : indexType schema (schema.parts.map translate) =
            some (translate additional) := by
          simp [indexType, hadditional, Parts.map, hnone, hpart]
        have hindexed := printed_indexed h hfields hindex hprinted.isUnion hprinted.begins
          hprinted.describes.mentions
        simpa [Parts.map, hnone, hpart] using hindexed
    | cons f rest =>
        have hdeclared := printed_declared h
          (by simp [fields, hadditional, declaredTexts, Parts.map, hnone])
          (by simp [indexType, hadditional, Parts.map, hnone])
        simpa [Parts.map, hnone] using hdeclared

/-! ### Types without alternatives -/

theorem not_prefix_objectText : ¬ units "null" <+: objectText schema := by
  rw [objectText, units_null]
  split_ifs
  · decide +kernel
  · rw [units_openBrace, List.cons_append, List.cons_append, List.cons_prefix_cons]
    exact fun h => absurd h.1 (by decide)

theorem describes_primitive (t : Option SimpleType) :
    NullText.Describes ⟨t = some .null, false⟩ (primitive t) := by
  rcases t with _ | _ | _ | _ | _ | _ | _ | _
  all_goals exact ⟨by decide +kernel, by decide +kernel⟩

/-- What is printed for one type. -/
theorem printed_single (h : PartsPrinted schema) (t : Option SimpleType) :
    IsPrimary (singleType schema (schema.parts.map type) t)
        (singleTranslation schema (schema.parts.map translate) t) ∧
      (singleNull schema (schema.parts.map nullText) t).Describes
        (singleType schema (schema.parts.map type) t) := by
  have htext : singleType schema (schema.parts.map type) t =
      if t = some .array then
        units "Array<" ++ (schema.parts.map type).items.getD (units "Json") ++ units ">"
      else if t = some .object ∨ schema.properties.isSome then objectText schema
      else primitive t := rfl
  rw [htext]
  unfold singleTranslation singleNull
  split_ifs with harray hobject
  · have hitems : IsUnion ((schema.parts.map type).items.getD (units "Json"))
          ((schema.parts.map translate).items.getD anyJson) ∧
        (nullSuffix <:+: (schema.parts.map type).items.getD (units "Json") ↔
          (schema.parts.map nullText).items.any (·.mentions) = true) := by
      simp only [Parts.map]
      cases hpart : schema.parts.items with
      | none => exact ⟨isUnion_json, by decide +kernel⟩
      | some part =>
          have hprinted := h.items part hpart
          exact ⟨hprinted.isUnion, hprinted.describes.mentions⟩
    exact ⟨isPrimary_array hitems.1, NullText.describes_array hitems.2⟩
  · have hobject := printed_object h
    refine ⟨hobject.isPrimary, ?_, hobject.mentions⟩
    exact iff_of_false not_prefix_objectText Bool.false_ne_true
  · exact ⟨isPrimary_primitive t, describes_primitive t⟩

theorem begins_of_isPrimary {text : JsString} {type : TsType} (h : IsPrimary text type) :
    Begins text := by
  obtain ⟨u, rest, htext, hu⟩ := h.starts
  exact ⟨u, rest, htext, (isOpening_iff.mp hu).2.1⟩

/-- Joined primary types. -/
theorem printed_join {ι : Type} {parts : List ι} (hne : parts ≠ []) {textOf : ι → JsString}
    {typeOf : ι → TsType} {nullOf : ι → NullText}
    (h : ∀ i ∈ parts, IsPrimary (textOf i) (typeOf i) ∧ (nullOf i).Describes (textOf i)) :
    IsUnion (join (parts.map textOf)) (parts.map typeOf) ∧
      (NullText.join (parts.map nullOf)).Describes (join (parts.map textOf)) := by
  constructor
  · have hunion : ∀ i ∈ parts, IsUnion (textOf i) [typeOf i] := fun i hi => .single (h i hi).1
    have hjoined := isUnion_join hne hunion
    rwa [← List.map_eq_flatMap] at hjoined
  · exact NullText.describes_join (fun i hi => begins_of_isPrimary (h i hi).1)
      fun i hi => (h i hi).2

/-- Joined types of schemas. -/
theorem printed_branches {branches : List Schema} (hne : branches ≠ [])
    (h : ∀ branch ∈ branches, Printed branch) :
    IsUnion (join (branches.map type)) (branches.map translate).flatten ∧
      (NullText.join (branches.map nullText)).Describes (join (branches.map type)) := by
  rw [← List.flatMap_def]
  exact ⟨isUnion_join hne fun branch hbranch => (h branch hbranch).isUnion,
    NullText.describes_join (fun branch hbranch => (h branch hbranch).begins)
      fun branch hbranch => (h branch hbranch).describes⟩

/-! ### Types of schemas -/

theorem printed_result (h : PartsPrinted schema) :
    IsUnion (result schema (schema.parts.map type))
        (resultTranslation schema (schema.parts.map translate)) ∧
      (resultNull schema (schema.parts.map nullText)).Describes
        (result schema (schema.parts.map type)) := by
  have hone : ∀ t, IsUnion (singleType schema (schema.parts.map type) t)
        [singleTranslation schema (schema.parts.map translate) t] ∧
      (singleNull schema (schema.parts.map nullText) t).Describes
        (singleType schema (schema.parts.map type) t) :=
    fun t => ⟨.single (printed_single h t).1, (printed_single h t).2⟩
  unfold result resultTranslation resultNull
  split_ifs with henum hbranches honeOf
  · have hne : schema.enum ≠ [] := by simpa using henum
    exact printed_join hne fun v _ => ⟨isPrimary_stringify v, NullText.describes_ofText _⟩
  · have hne : schema.anyOf ≠ [] := by simpa [List.isEmpty_iff.mp honeOf] using hbranches
    exact printed_branches hne fun branch hbranch =>
      h branch (Schema.mem_children.mpr (Or.inr (Or.inl hbranch)))
  · have hne : schema.oneOf ≠ [] := by simpa using honeOf
    exact printed_branches hne fun branch hbranch =>
      h branch (Schema.mem_children.mpr (Or.inl hbranch))
  · cases schema.type with
    | absent => exact hone none
    | one t => exact hone (some t)
    | list first others =>
        exact printed_join (List.cons_ne_nil first others) fun t _ => printed_single h (some t)

end Object

theorem translate_eq (schema : Schema) :
    translate schema = translateWith schema (schema.parts.map translate) :=
  Schema.fold_eq translateWith schema

theorem nullText_eq (schema : Schema) :
    nullText schema = nullTextWith schema (schema.parts.map nullText) :=
  Schema.fold_eq nullTextWith schema

/-- A path that leads to a schema of the contract. -/
def IsSchemaPath (path : JsString) : Prop :=
  ∃ name, path = schemaPath name ∧ IsTypeName name ∧ name ∉ reservedNames

theorem isNameUnit_ne_slash {name : JsString} (h : IsTypeName name) : (47 : CodeUnit) ∉ name := by
  intro hmem
  exact absurd (h.2 47 hmem) (by decide)

theorem lastSegment_schemaPath {name : JsString} (h : IsTypeName name) :
    lastSegment (schemaPath name) = name := by
  have hpath : schemaPath name =
      units "#" ++ 47 :: (units "components" ++ 47 :: (units "schemas" ++ 47 :: name)) := by
    have hprefix : units "#/components/schemas/" =
        units "#" ++ 47 :: (units "components" ++ 47 :: (units "schemas" ++ [47])) := by
      decide +kernel
    rw [schemaPath, hprefix]
    simp only [List.append_assoc, List.cons_append, List.nil_append]
  rw [lastSegment, hpath, List.splitOn_append_cons_self_of_not_mem (by decide +kernel),
    List.splitOn_append_cons_self_of_not_mem (by decide +kernel),
    List.splitOn_append_cons_self_of_not_mem (by decide +kernel),
    List.splitOn_eq_singleton (isNameUnit_ne_slash h)]
  rfl

section Equations

variable {schema : Schema} {name : JsString}

theorem schemaPath_cons (name : JsString) :
    schemaPath name = 35 :: (units "/components/schemas/" ++ name) := by
  have hprefix : units "#/components/schemas/" = 35 :: units "/components/schemas/" := by
    decide +kernel
  rw [schemaPath, hprefix, List.cons_append]

/-- A reference is printed as the name of the schema that it leads to. -/
theorem type_of_ref (hname : IsTypeName name) (href : schema.ref = some (schemaPath name)) :
    type schema = name := by
  have hsegment := lastSegment_schemaPath hname
  rw [schemaPath_cons] at href hsegment
  rw [type_eq, typeWith, href]
  exact hsegment

theorem translate_of_ref (hname : IsTypeName name) (href : schema.ref = some (schemaPath name)) :
    translate schema = [.named name] := by
  have hsegment := lastSegment_schemaPath hname
  rw [schemaPath_cons] at href hsegment
  rw [translate_eq, translateWith, href]
  exact congrArg (fun name => [TsType.named name]) hsegment

theorem nullText_of_ref (hname : IsTypeName name) (href : schema.ref = some (schemaPath name)) :
    nullText schema = NullText.ofText name := by
  have hsegment := lastSegment_schemaPath hname
  rw [schemaPath_cons] at href hsegment
  rw [nullText_eq, nullTextWith, href]
  exact congrArg NullText.ofText hsegment

theorem type_of_ref_none (href : schema.ref = none) :
    type schema = orNull schema.nullable (result schema (schema.parts.map type)) := by
  rw [type_eq, typeWith, href]

theorem translate_of_ref_none (href : schema.ref = none) :
    translate schema = resultTranslation schema (schema.parts.map translate) ++
      if schema.addsNull then [.null] else [] := by
  rw [translate_eq, translateWith, href]

theorem nullText_of_ref_none (href : schema.ref = none) : nullText schema =
    (resultNull schema (schema.parts.map nullText)).orNull schema.nullable := by
  rw [nullText_eq, nullTextWith, href]

end Equations

/-- A type and what `nullable` adds to it. -/
theorem isUnion_orNull {text : JsString} {types : TsUnion} {mentions : Bool}
    (h : IsUnion text types) (hmentions : nullSuffix <:+: text ↔ mentions = true)
    (nullable : Bool) :
    IsUnion (orNull nullable text) (types ++ if nullable && !mentions then [.null] else []) := by
  have hincludes : includes text (units " | null") = mentions := by
    rw [Bool.eq_iff_iff, includes, decide_eq_true_eq]
    exact hmentions
  rw [orNull, hincludes]
  split_ifs
  · have hsuffix : units " | null" = units " | " ++ units "null" := by decide +kernel
    have hnull : IsUnion (units "null") [.null] :=
      .single (isPrimary_name (by decide +kernel) rfl)
    rw [hsuffix, ← List.append_assoc]
    exact h.append hnull
  · rwa [List.append_nil]

/-- The type of every schema whose references lead to schemas of the contract is printed. -/
theorem printed_of_refs (schema : Schema) (hrefs : ∀ path ∈ schema.refs, IsSchemaPath path) :
    Printed schema := by
  induction schema using Schema.induction with
  | step schema ih =>
  have hparts : PartsPrinted schema := by
    refine fun part hpart => ih part hpart fun path hpath => hrefs path ?_
    rw [refs_eq, List.mem_append, List.mem_flatMap]
    exact Or.inr ⟨part, hpart, hpath⟩
  cases href : schema.ref with
  | some path =>
      have hmem : path ∈ schema.refs := by
        rw [refs_eq, List.mem_append, Option.mem_toList]
        exact Or.inl href
      obtain ⟨name, rfl, hname, hfree⟩ := hrefs path hmem
      constructor
      · rw [type_of_ref hname href, translate_of_ref hname href]
        exact .single (isPrimary_name (isPlainName_of_not_reserved hname hfree)
          (nameType_of_not_reserved hfree))
      · rw [type_of_ref hname href, nullText_of_ref hname href]
        exact NullText.describes_ofText name
  | none =>
      obtain ⟨hunion, hdescribes⟩ := printed_result hparts
      constructor
      · rw [type_of_ref_none href, translate_of_ref_none href]
        exact isUnion_orNull hunion hdescribes.mentions schema.nullable
      · rw [type_of_ref_none href, nullText_of_ref_none href]
        exact NullText.describes_orNull hdescribes schema.nullable

end LuxLedger.Contract
