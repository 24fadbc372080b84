/-
  Contract/Validation.lean --- the OpenAPI contract and the JSON values that validate
  against its schemas.

  Only the keywords that types are generated from are interpreted; any other could only
  admit fewer values.
-/
import LuxLedger.Contract.Schema
import LuxLedger.Javascript.TypeSyntax

set_option autoImplicit false

namespace LuxLedger.Contract

open Javascript JsString

/-! ## The contract -/

/-- The references of a schema, from those of its parts. -/
def refsWith (schema : Schema) (parts : Parts (List JsString)) : List JsString :=
  schema.ref.toList ++ parts.oneOf.flatten ++ parts.anyOf.flatten ++ parts.items.getD [] ++
    parts.fields.flatMap (·.2) ++ parts.additional.getD []

/-- The paths of all references in a schema. -/
def Schema.refs : Schema → List JsString := Schema.fold refsWith

/-- The path of a schema of the contract. -/
def schemaPath (name : JsString) : JsString := units "#/components/schemas/" ++ name

/-- `components.schemas`: names that TypeScript can declare as types, and schemas whose
references are to schemas of the contract. -/
structure ApiContract where
  components : List (JsString × Schema)
  distinct : (components.map (·.1)).Nodup
  declarable : ∀ c ∈ components, IsTypeName c.1 ∧ c.1 ∉ units "Json" :: reservedNames
  resolved : ∀ c ∈ components, ∀ path ∈ c.2.refs, path ∈ components.map fun d => schemaPath d.1

/-- A schema inside a schema, at any depth, or the schema itself. -/
inductive Within : Schema → Schema → Prop
  | self (schema : Schema) : Within schema schema
  | child {schema inner outer : Schema} (h : Within schema inner)
      (hinner : inner ∈ outer.children) : Within schema outer

section Refs

variable {inner outer : Schema}

theorem refs_eq (schema : Schema) :
    schema.refs = schema.ref.toList ++ schema.children.flatMap Schema.refs := by
  have hfold : schema.refs = refsWith schema (schema.parts.map Schema.refs) :=
    Schema.fold_eq refsWith schema
  have hitems : (schema.items.map Schema.refs).getD [] =
      schema.items.toList.flatMap Schema.refs := by
    cases schema.items <;> simp
  have hadditional : (schema.parts.additional.map Schema.refs).getD [] =
      schema.parts.additional.toList.flatMap Schema.refs := by
    cases schema.parts.additional <;> simp
  rw [hfold, refsWith]
  simp only [Parts.map, hadditional, Schema.children, List.flatMap_append, List.append_assoc,
    List.flatMap_map, ← List.flatMap_def, ← hitems]
  rfl

/-- A schema inside a schema refers to nothing else. -/
theorem Within.refs (h : Within inner outer) : ∀ path ∈ inner.refs, path ∈ outer.refs := by
  induction h with
  | self => exact fun path hpath => hpath
  | @child inner outer _ hinner ih =>
      intro path hpath
      rw [refs_eq, List.mem_append, List.mem_flatMap]
      exact Or.inr ⟨inner, hinner, ih path hpath⟩

theorem Within.of_child {part : Schema} (h : Within inner outer)
    (hpart : part ∈ inner.children) : Within part outer := by
  induction h with
  | self => exact .child (.self part) hpart
  | child _ hinner ih => exact .child ih hinner

end Refs

namespace ApiContract

variable (contract : ApiContract)

/-- A schema of the contract or one inside it. -/
def Has (schema : Schema) : Prop := ∃ c ∈ contract.components, Within schema c.2

/-- The schema that a reference is to. -/
def target (path : JsString) : Option Schema :=
  (contract.components.find? fun c => schemaPath c.1 = path).map (·.2)

variable {contract} {schema : Schema}

theorem Has.child (h : contract.Has schema) {part : Schema} (hpart : part ∈ schema.children) :
    contract.Has part := by
  obtain ⟨c, hc, hwithin⟩ := h
  exact ⟨c, hc, hwithin.of_child hpart⟩

/-- A reference is to a schema of the contract. -/
theorem Has.target (h : contract.Has schema) {path : JsString} (hpath : schema.ref = some path) :
    ∃ c ∈ contract.components, path = schemaPath c.1 ∧ contract.target path = some c.2 := by
  obtain ⟨c, hc, hwithin⟩ := h
  have hmem : path ∈ schema.refs := by
    rw [refs_eq, List.mem_append, Option.mem_toList]
    exact Or.inl hpath
  obtain ⟨d, hd, hname⟩ := List.mem_map.mp (contract.resolved c hc path (hwithin.refs path hmem))
  cases hfound : contract.components.find? fun c => schemaPath c.1 = path with
  | none =>
      rw [List.find?_eq_none] at hfound
      exact absurd (decide_eq_true hname) (hfound d hd)
  | some found =>
      have hkey := List.find?_some hfound
      refine ⟨found, List.mem_of_find?_eq_some hfound, (of_decide_eq_true hkey).symm, ?_⟩
      rw [ApiContract.target, hfound, Option.map_some]

end ApiContract

/-! ## JSON values -/

mutual

/-- Equality of JSON values; the order of the entries of an object does not matter. -/
def sameJson : JsonValue → JsonValue → Bool
  | .null, .null => true
  | .boolean a, .boolean b => a = b
  | .number a, .number b => a = b
  | .string a, .string b => a = b
  | .array a, .array b => sameElements a b
  | .object a, .object b => a.length = b.length && sameEntries a b
  | _, _ => false

/-- The elements are the same, in order. -/
def sameElements : List JsonValue → List JsonValue → Bool
  | [], [] => true
  | v :: rest, w :: others => sameJson v w && sameElements rest others
  | _, _ => false

/-- Every entry is an entry of the other object. -/
def sameEntries : List (JsString × JsonValue) → Entries → Bool
  | [], _ => true
  | (k, v) :: rest, others =>
      (match others.lookup k with
        | some w => sameJson v w
        | none => false) && sameEntries rest others

end

/-- The value of the text behind the `e` of a number. -/
def exponentValue : JsString → Int
  | [] => 0
  | u :: digits =>
      if u = 43 then digitsValue digits
      else if u = minusSign then - digitsValue digits
      else digitsValue (u :: digits)

/-- The number has no fractional part: its exponent makes up for its fraction digits. -/
def isIntegral (n : JsonNumber) : Bool :=
  let mantissa := n.text.takeWhile fun u => u ≠ 101
  let fraction := (mantissa.dropWhile fun u => u ≠ 46).drop 1
  (fraction.length : Int) ≤ exponentValue ((n.text.dropWhile fun u => u ≠ 101).drop 1)

/-- The value is null. -/
def isNull : JsonValue → Bool
  | .null => true
  | _ => false

/-! ## Validation -/

/-- A value is of a simple type. -/
def SimpleType.holds : SimpleType → JsonValue → Bool
  | .string, .string _ => true
  | .integer, .number n => isIntegral n
  | .number, .number _ => true
  | .boolean, .boolean _ => true
  | .null, .null => true
  | .object, .object _ => true
  | .array, .array _ => true
  | _, _ => false

/-- A value is of one of the types. -/
def TypeKeyword.holds : TypeKeyword → JsonValue → Bool
  | .absent, _ => true
  | .one t, v => t.holds v
  | .list first others, v => (first :: others).any fun t => t.holds v

section Keywords

variable (valid : Schema → JsonValue → Bool)

/-- The keyword `items`. -/
def meetsItems (schema : Schema) : JsonValue → Bool
  | .array elements =>
      match schema.items with
      | none => true
      | some items => elements.all (valid items)
  | _ => true

/-- The keyword `additionalProperties`, for a property that is not declared. -/
def meetsAdditional (schema : Schema) (v : JsonValue) : Bool :=
  match schema.additionalProperties with
  | none => true
  | some (.inl allowed) => allowed
  | some (.inr additional) => valid additional v

/-- The keywords `required`, `properties` and `additionalProperties`. -/
def meetsProperties (schema : Schema) : JsonValue → Bool
  | .object entries =>
      (schema.required.all fun name => name ∈ entries.map (·.1)) &&
      (schema.parts.fields.all fun field => (entries.lookup field.1).all (valid field.2)) &&
      entries.all fun e =>
        e.1 ∈ schema.parts.fields.map (·.1) || meetsAdditional valid schema e.2
  | _ => true

/-- All keywords but `nullable`. -/
def meetsKeywords (contract : ApiContract) (schema : Schema) (v : JsonValue) : Bool :=
  (schema.ref.all fun path => (contract.target path).any fun target => valid target v) &&
  (schema.enum.isEmpty || schema.enum.any fun member => sameJson member v) &&
  (schema.oneOf.isEmpty || schema.oneOf.countP (fun branch => valid branch v) = 1) &&
  (schema.anyOf.isEmpty || schema.anyOf.any fun branch => valid branch v) &&
  schema.type.holds v && meetsItems valid schema v && meetsProperties valid schema v

end Keywords

namespace ApiContract

variable (contract : ApiContract)

/-- Validation that follows schemas inside schemas up to a depth. -/
def validates : Nat → Schema → JsonValue → Bool
  | 0, _, _ => false
  | depth + 1, schema, v =>
      (schema.nullable && isNull v) || meetsKeywords (validates depth) contract schema v

/-- The value validates against the schema, however far references are followed. -/
def Validates (schema : Schema) (v : JsonValue) : Prop :=
  ∃ depth, ∀ more, depth ≤ more → contract.validates more schema v = true

end ApiContract

end LuxLedger.Contract
