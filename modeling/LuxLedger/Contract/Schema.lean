/-
  Contract/Schema.lean --- the schemas of the OpenAPI contract: the keywords that the types
  are generated from, recursion over a schema, and the values that a schema admits.

  A keyword that takes a list cannot have an empty one, so the empty list stands for its
  absence.
-/
import LuxLedger.Javascript.JsonValue

set_option autoImplicit false

namespace LuxLedger.Contract

open Javascript JsString

/-! ## Schemas -/

/-- The simple types of a schema. -/
inductive SimpleType where
  | string
  | integer
  | number
  | boolean
  | null
  | object
  | array
  deriving DecidableEq

/-- The keyword `type`. -/
inductive TypeKeyword where
  | absent
  | one (t : SimpleType)
  | list (first : SimpleType) (others : List SimpleType)
  deriving DecidableEq

/-- The types of a `type` keyword. -/
def TypeKeyword.members : TypeKeyword → List SimpleType
  | .absent => []
  | .one t => [t]
  | .list first others => first :: others

/-- A schema of the contract. -/
structure Schema where
  /-- `$ref` -/
  ref : Option JsString
  enum : List JsonValue
  oneOf : List Schema
  anyOf : List Schema
  type : TypeKeyword
  items : Option Schema
  properties : Option (List (JsString × Schema))
  required : List JsString
  additionalProperties : Option (Bool ⊕ Schema)
  nullable : Bool

/-- A schema without keywords. -/
def Schema.empty : Schema where
  ref := none
  enum := []
  oneOf := []
  anyOf := []
  type := .absent
  items := none
  properties := none
  required := []
  additionalProperties := none
  nullable := false

/-- What a recursion has for each schema inside a schema. -/
structure Parts (α : Type) where
  oneOf : List α
  anyOf : List α
  items : Option α
  fields : List (JsString × α)
  additional : Option α

/-- The schema that additional properties must meet. -/
def additionalSchema : Option (Bool ⊕ Schema) → Option Schema
  | some (.inr schema) => some schema
  | _ => none

namespace Schema

/-- The schemas inside a schema. -/
def parts (schema : Schema) : Parts Schema where
  oneOf := schema.oneOf
  anyOf := schema.anyOf
  items := schema.items
  fields := schema.properties.getD []
  additional := additionalSchema schema.additionalProperties

/-- The schemas that a schema is made of. -/
def children (schema : Schema) : List Schema :=
  schema.oneOf ++ schema.anyOf ++ schema.items.toList ++ schema.parts.fields.map (·.2) ++
    schema.parts.additional.toList

theorem mem_children {schema part : Schema} :
    part ∈ schema.children ↔ part ∈ schema.oneOf ∨ part ∈ schema.anyOf ∨ part ∈ schema.items ∨
      (∃ f ∈ schema.parts.fields, f.2 = part) ∨ part ∈ schema.parts.additional := by
  simp only [children, List.mem_append, Option.mem_toList, Option.mem_def, List.mem_map, or_assoc]

end Schema

/-- Parts, each replaced. -/
def Parts.map {α β : Type} (f : α → β) (parts : Parts α) : Parts β where
  oneOf := parts.oneOf.map f
  anyOf := parts.anyOf.map f
  items := parts.items.map f
  fields := parts.fields.map fun field => (field.1, f field.2)
  additional := parts.additional.map f

/-! ## Recursion -/

section Fold

variable {α : Type} (f : Schema → Parts α → α)

mutual

/-- Compute from a schema and what is computed from the schemas inside it. -/
def Schema.fold : Schema → α
  | ⟨ref, enum, oneOf, anyOf, type, items, properties, required, additional, nullable⟩ =>
      f ⟨ref, enum, oneOf, anyOf, type, items, properties, required, additional, nullable⟩
        ⟨foldList oneOf, foldList anyOf, foldItems items, foldProperties properties,
          foldAdditional additional⟩

/-- The fold of each schema of a list. -/
def foldList : List Schema → List α
  | [] => []
  | schema :: rest => schema.fold :: foldList rest

/-- The fold of `items`. -/
def foldItems : Option Schema → Option α
  | none => none
  | some schema => some schema.fold

/-- The folds of `properties`. -/
def foldProperties : Option (List (JsString × Schema)) → List (JsString × α)
  | none => []
  | some fields => foldFields fields

/-- The folds of fields. -/
def foldFields : List (JsString × Schema) → List (JsString × α)
  | [] => []
  | (name, schema) :: rest => (name, schema.fold) :: foldFields rest

/-- The fold of `additionalProperties`. -/
def foldAdditional : Option (Bool ⊕ Schema) → Option α
  | some (.inr schema) => some schema.fold
  | some (.inl _) => none
  | none => none

end

theorem foldList_eq_map (schemas : List Schema) :
    foldList f schemas = schemas.map (Schema.fold f) := by
  induction schemas with
  | nil => rfl
  | cons schema rest ih => rw [foldList, ih, List.map_cons]

theorem foldFields_eq_map (fields : List (JsString × Schema)) :
    foldFields f fields = fields.map fun field => (field.1, field.2.fold f) := by
  induction fields with
  | nil => rfl
  | cons field rest ih => rw [foldFields, ih, List.map_cons]

theorem Schema.fold_eq (schema : Schema) :
    schema.fold f = f schema (schema.parts.map (Schema.fold f)) := by
  obtain ⟨ref, enum, oneOf, anyOf, type, items, properties, required, additional, nullable⟩ :=
    schema
  have hitems : foldItems f items = items.map (Schema.fold f) := by cases items <;> rfl
  have hfields : foldProperties f properties =
      (properties.getD []).map fun field => (field.1, field.2.fold f) := by
    cases properties with
    | none => rfl
    | some fields => exact foldFields_eq_map f fields
  have hadditional : foldAdditional f additional =
      (additionalSchema additional).map (Schema.fold f) := by
    rcases additional with _ | _ | _ <;> rfl
  rw [Schema.fold, foldList_eq_map, foldList_eq_map, hitems, hfields, hadditional]
  rfl

end Fold

/-- Induction over a schema: a property of all schemas inside is one of the whole. -/
theorem Schema.induction {P : Schema → Prop}
    (step : ∀ schema : Schema, (∀ child ∈ schema.children, P child) → P schema) :
    ∀ schema, P schema := by
  intro schema
  refine Schema.rec (motive_1 := P) (motive_2 := fun schemas => ∀ s ∈ schemas, P s)
    (motive_3 := fun schema => ∀ s ∈ schema, P s)
    (motive_4 := fun fields => ∀ field ∈ fields.getD [], P field.2)
    (motive_5 := fun additional => ∀ s ∈ additionalSchema additional, P s)
    (motive_6 := fun fields => ∀ field ∈ fields, P field.2)
    (motive_7 := fun additional => ∀ s, additional = .inr s → P s)
    (motive_8 := fun field => P field.2) ?_ ?_ ?_ ?_ ?_ ?_ ?_ ?_ ?_ ?_ ?_ ?_ ?_ ?_ schema
  · intro ref enum oneOf anyOf type items properties required additional nullable honeOf hanyOf
      hitems hproperties hadditional
    refine step _ fun child hchild => ?_
    rcases Schema.mem_children.mp hchild with hchild | hchild | hchild | ⟨field, hfield, rfl⟩ |
      hchild
    · exact honeOf child hchild
    · exact hanyOf child hchild
    · exact hitems child hchild
    · exact hproperties field hfield
    · exact hadditional child hchild
  · simp
  · exact fun first rest hfirst hrest => List.forall_mem_cons.mpr ⟨hfirst, hrest⟩
  · simp
  · rintro schema hschema s ⟨⟩
    exact hschema
  · simp
  · exact fun fields hfields => hfields
  · simp [additionalSchema]
  · rintro (b | schema) hvalue s hs
    · cases hs
    · cases hs
      exact hvalue schema rfl
  · simp
  · exact fun first rest hfirst hrest => List.forall_mem_cons.mpr ⟨hfirst, hrest⟩
  · rintro b s ⟨⟩
  · rintro schema hschema s ⟨⟩
    exact hschema
  · exact fun _ _ hschema => hschema

end LuxLedger.Contract
