/-
  Contract/Generator.lean --- scripts/generate-api-types.mjs: the text of the types that
  the web client is compiled against, printed from the schemas of the contract.
-/
import LuxLedger.Contract.Validation

set_option autoImplicit false

namespace LuxLedger.Contract

open Javascript JsString

/-- `literal`. -/
def literal (value : JsonValue) : JsString := stringify value

/-- `path.split('/').at(-1)`. -/
def lastSegment (path : JsString) : JsString := ((path.splitOn 47).getLast?).getD []

/-- `text.includes(part)`. -/
def includes (text part : JsString) : Bool := decide (part <:+: text)

/-- Alternatives, joined. -/
def join (texts : List JsString) : JsString := (units " | ").intercalate texts

/-- A declared field. -/
def field (schema : Schema) (name text : JsString) : JsString :=
  literal (.string name) ++ (if name ∈ schema.required then [] else units "?") ++ units ": " ++
    text ++ units ";"

/-- The index signature of an object type. -/
def keyField (text : JsString) : JsString := units "[key: string]: " ++ text ++ units ";"

/-- What stands between the braces of an object type. -/
def fields (schema : Schema) (parts : Parts JsString) : List JsString :=
  let fields := parts.fields.map fun f => field schema f.1 f.2
  match schema.additionalProperties with
  | some (.inl true) => fields ++ [keyField (units "Json")]
  | some (.inr _) =>
      if fields.isEmpty then [keyField (parts.additional.getD (units "Json"))] else fields
  | _ => fields

/-- The type of a simple type. -/
def primitive : Option SimpleType → JsString
  | some .string => units "string"
  | some .integer => units "number"
  | some .number => units "number"
  | some .boolean => units "boolean"
  | some .null => units "null"
  | _ => units "Json"

/-- A schema without alternatives, of one type or of none.  Missing `items` are read as the
empty schema, whose type is `Json`. -/
def singleType (schema : Schema) (parts : Parts JsString) (t : Option SimpleType) : JsString :=
  if t = some .array then units "Array<" ++ parts.items.getD (units "Json") ++ units ">"
  else if t = some .object ∨ schema.properties.isSome then
    if (fields schema parts).isEmpty then units "Record<string, Json>"
    else units "\x7b " ++ (units " ").intercalate (fields schema parts) ++ units " \x7d"
  else primitive t

/-- The type without what `nullable` adds. -/
def result (schema : Schema) (parts : Parts JsString) : JsString :=
  if !schema.enum.isEmpty then join (schema.enum.map literal)
  else if !schema.oneOf.isEmpty || !schema.anyOf.isEmpty then
    join (if schema.oneOf.isEmpty then parts.anyOf else parts.oneOf)
  else
    match schema.type with
    | .list first others => join ((first :: others).map fun t => singleType schema parts (some t))
    | .one t => singleType schema parts (some t)
    | .absent => singleType schema parts none

/-- The type with null, unless the text has it. -/
def orNull (nullable : Bool) (result : JsString) : JsString :=
  if nullable && !includes result (units " | null") then result ++ units " | null" else result

/-- The type of a schema from those of its parts. -/
def typeWith (schema : Schema) (parts : Parts JsString) : JsString :=
  match schema.ref with
  | some (u :: path) => lastSegment (u :: path)
  | _ => orNull schema.nullable (result schema parts)

/-- `type`. -/
def type : Schema → JsString := Schema.fold typeWith

/-- The text of the generated file. -/
def output (contract : ApiContract) : JsString :=
  units "// Generated from openapi/openapi.yaml. Run npm run generate:api; do not edit.\n" ++
  (units "export type Json = null | boolean | number | string | Json[] | " ++
    units "\x7b [key: string]: Json \x7d;\n") ++
  contract.components.flatMap fun c =>
    units "export type " ++ c.1 ++ units " = " ++ type c.2 ++ units ";\n"

/-! ## The recursion of the source -/

theorem type_eq (schema : Schema) : type schema = typeWith schema (schema.parts.map type) :=
  Schema.fold_eq typeWith schema

/-- The default of the source for a missing schema. -/
example : type Schema.empty = units "Json" := by decide +kernel

/-- A list of types is printed type by type, each as the schema would be that has it alone. -/
theorem type_list {schema : Schema} {first : SimpleType} {others : List SimpleType}
    (href : schema.ref = none) (henum : schema.enum = []) (honeOf : schema.oneOf = [])
    (hanyOf : schema.anyOf = []) (htype : schema.type = .list first others) :
    type schema = orNull schema.nullable (join ((first :: others).map fun t =>
      type { schema with type := .one t, nullable := false })) := by
  have hmember : ∀ t, type { schema with type := .one t, nullable := false } =
      singleType schema (schema.parts.map type) (some t) := by
    intro t
    rw [type_eq]
    simp only [typeWith, href, orNull, Bool.false_and, Bool.false_eq_true, if_false]
    simp only [result, henum, honeOf, hanyOf, List.isEmpty_nil, Bool.not_true, Bool.or_self,
      Bool.false_eq_true, if_false]
    rfl
  simp only [hmember]
  rw [type_eq]
  simp only [typeWith, href, result, henum, honeOf, hanyOf, htype, List.isEmpty_nil,
    Bool.not_true, Bool.or_self, Bool.false_eq_true, if_false]

end LuxLedger.Contract
