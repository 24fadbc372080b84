/-
  Javascript/TypeValues.lean --- the JSON values that belong to a type, and the types that
  the texts of JSON values are.

  An object type holds JSON objects, whatever other properties they have.  A number literal
  stands for the number that has its text.
-/
import LuxLedger.Javascript.TypeReading

set_option autoImplicit false

namespace LuxLedger.Javascript

open JsString

/-! ## Values of types -/

/-- The value belongs to one of the alternatives. -/
inductive Admits (declarations : TsDeclarations) : TsUnion → JsonValue → Prop
  | null {types : TsUnion} (h : .null ∈ types) : Admits declarations types .null
  | boolean {types : TsUnion} {b : Bool} (h : .boolean ∈ types) :
      Admits declarations types (.boolean b)
  | number {types : TsUnion} {n : JsonNumber} (h : .number ∈ types) :
      Admits declarations types (.number n)
  | string {types : TsUnion} {s : JsString} (h : .string ∈ types) :
      Admits declarations types (.string s)
  | booleanLiteral {types : TsUnion} {b : Bool} (h : .booleanLiteral b ∈ types) :
      Admits declarations types (.boolean b)
  | numberLiteral {types : TsUnion} {n : JsonNumber} (h : .numberLiteral n.text ∈ types) :
      Admits declarations types (.number n)
  | stringLiteral {types : TsUnion} {s : JsString} (h : .stringLiteral s ∈ types) :
      Admits declarations types (.string s)
  | array {types items : TsUnion} {elements : List JsonValue} (h : .array items ∈ types)
      (parts : ∀ v ∈ elements, Admits declarations items v) :
      Admits declarations types (.array elements)
  | tuple {types : TsUnion} {places : List TsUnion} {elements : List JsonValue}
      (h : .tuple places ∈ types) (length : places.length = elements.length)
      (parts : ∀ (i : Nat) (place : TsUnion) (v : JsonValue), places[i]? = some place →
        elements[i]? = some v → Admits declarations place v) :
      Admits declarations types (.array elements)
  | object {types : TsUnion} {properties : List (TsProperty TsUnion)} {index : Option TsUnion}
      {entries : Entries} (h : .object properties index ∈ types)
      (required : ∀ p ∈ properties, p.optional = false → p.name ∈ entries.map (·.1))
      (declared : ∀ p ∈ properties, ∀ v, entries.lookup p.name = some v →
        Admits declarations p.type v)
      (others : ∀ values ∈ index, ∀ e ∈ entries, Admits declarations values e.2) :
      Admits declarations types (.object entries)
  | named {types type : TsUnion} {name : JsString} {v : JsonValue} (h : .named name ∈ types)
      (declared : declarations.lookup name = some type) (belongs : Admits declarations type v) :
      Admits declarations types v

section Admits

variable {declarations : TsDeclarations} {types types' : TsUnion} {v : JsonValue}

/-- More alternatives admit more. -/
theorem Admits.mono (h : Admits declarations types v) (hsub : ∀ type ∈ types, type ∈ types') :
    Admits declarations types' v := by
  cases h with
  | null h => exact .null (hsub _ h)
  | boolean h => exact .boolean (hsub _ h)
  | number h => exact .number (hsub _ h)
  | string h => exact .string (hsub _ h)
  | booleanLiteral h => exact .booleanLiteral (hsub _ h)
  | numberLiteral h => exact .numberLiteral (hsub _ h)
  | stringLiteral h => exact .stringLiteral (hsub _ h)
  | array h parts => exact .array (hsub _ h) parts
  | tuple h length parts => exact .tuple (hsub _ h) length parts
  | object h required declared others => exact .object (hsub _ h) required declared others
  | named h declared belongs => exact .named (hsub _ h) declared belongs

end Admits

/-! ## Object types -/

section ObjectTypes

variable (properties : List (TsProperty TsUnion))

theorem filterMap_property : (properties.map TsMember.property).filterMap TsMember.property? =
    properties := by
  rw [List.filterMap_map]
  exact List.filterMap_some

theorem filterMap_property_index :
    (properties.map TsMember.property).filterMap TsMember.index? = [] := by
  rw [List.filterMap_map, List.filterMap_eq_nil_iff]
  exact fun _ _ => rfl

theorem objectType_properties :
    objectType (properties.map .property) = some (.object properties none) := by
  rw [objectType, filterMap_property_index, filterMap_property]

theorem objectType_index (values : TsUnion) :
    objectType (properties.map .property ++ [TsMember.index values]) =
      some (.object properties (some values)) := by
  have hindex : (properties.map TsMember.property ++ [TsMember.index values]).filterMap
      TsMember.index? = [values] := by
    rw [List.filterMap_append, filterMap_property_index]
    rfl
  have hproperties : (properties.map TsMember.property ++ [TsMember.index values]).filterMap
      TsMember.property? = properties := by
    rw [List.filterMap_append, filterMap_property]
    exact List.append_nil properties
  rw [objectType, hindex, hproperties]

end ObjectTypes

/-! ## The texts of values as types -/

mutual

/-- The type of which the value is the only one. -/
def literalType : JsonValue → TsType
  | .null => .null
  | .boolean b => .booleanLiteral b
  | .number n => .numberLiteral n.text
  | .string s => .stringLiteral s
  | .array elements => .tuple (literalTypes elements)
  | .object entries => .object (literalProperties entries) none

/-- The types of the elements. -/
def literalTypes : List JsonValue → List TsUnion
  | [] => []
  | v :: rest => [literalType v] :: literalTypes rest

/-- The properties of the entries. -/
def literalProperties : List (JsString × JsonValue) → List (TsProperty TsUnion)
  | [] => []
  | (k, v) :: rest => ⟨k, false, [literalType v]⟩ :: literalProperties rest

end

theorem literalTypes_eq_map (elements : List JsonValue) :
    literalTypes elements = elements.map fun v => [literalType v] := by
  induction elements with
  | nil => rfl
  | cons v rest ih => rw [literalTypes, ih, List.map_cons]

theorem literalProperties_eq_map (entries : Entries) :
    literalProperties entries = entries.map fun e => ⟨e.1, false, [literalType e.2]⟩ := by
  induction entries with
  | nil => rfl
  | cons e rest ih => rw [literalProperties, ih, List.map_cons]

/-- The text of a value is read as its literal type. -/
theorem isPrimary_stringify (v : JsonValue) : IsPrimary (stringify v) (literalType v) := by
  induction v using JsonValue.induction with
  | null =>
      exact isPrimary_name (by decide +kernel) rfl
  | boolean b =>
      cases b with
      | false =>
          exact isPrimary_name (by decide +kernel) rfl
      | true =>
          exact isPrimary_name (by decide +kernel) rfl
  | number n => exact isPrimary_number n
  | string s => exact isPrimary_quote s
  | array elements ih =>
      have hparts : ∀ p ∈ elements.map fun v => (stringify v, [literalType v]), IsUnion p.1 p.2 :=
        List.forall_mem_map.mpr fun v hv => .single (ih v hv)
      have htuple := isPrimary_tuple hparts
      rw [List.map_map, List.map_map] at htuple
      rw [stringify, literalType, stringifyAll_eq_map, literalTypes_eq_map]
      exact htuple
  | object entries ih =>
      have hcolon : units ":" = [58] := by decide +kernel
      have hfields : ∀ f ∈ entries.map fun e => (quote e.1 ++ units ":" ++ stringify e.2,
          TsMember.property ⟨e.1, false, [literalType e.2]⟩), IsMember f.1 f.2 := by
        refine List.forall_mem_map.mpr fun e he => ?_
        have hproperty := isMember_property (.single (ih e he)) e.1 false (Or.inl rfl)
        rw [hcolon]
        simpa [optionalMark] using hproperty
      have htype : objectType ((entries.map fun e => (quote e.1 ++ units ":" ++ stringify e.2,
          TsMember.property ⟨e.1, false, [literalType e.2]⟩)).map (·.2)) =
            some (.object (literalProperties entries) none) := by
        rw [List.map_map, literalProperties_eq_map, ← objectType_properties, List.map_map]
        rfl
      have hbraces := isPrimary_braces hfields htype
      rw [List.map_map] at hbraces
      rw [stringify, literalType, stringifyEntries_eq_map]
      exact hbraces

/-! ## All JSON values -/

/-- What the type `Json` is declared as. -/
def jsonUnion : TsUnion :=
  [.null, .boolean, .number, .string, .array [.named (units "Json")],
    .object [] (some [.named (units "Json")])]

/-- Every JSON value belongs to the declared type `Json`. -/
theorem admits_json {declarations : TsDeclarations}
    (h : declarations.lookup (units "Json") = some jsonUnion) (v : JsonValue) :
    Admits declarations [.named (units "Json")] v := by
  refine .named (List.mem_singleton_self _) h ?_
  induction v using JsonValue.induction with
  | null => exact .null (by simp [jsonUnion])
  | boolean b => exact .boolean (by simp [jsonUnion])
  | number n => exact .number (by simp [jsonUnion])
  | string s => exact .string (by simp [jsonUnion])
  | array elements ih =>
      have hmem : .array [.named (units "Json")] ∈ jsonUnion := by simp [jsonUnion]
      exact .array hmem fun v hv => .named (List.mem_singleton_self _) h (ih v hv)
  | object entries ih =>
      have hmem : .object [] (some [.named (units "Json")]) ∈ jsonUnion := by simp [jsonUnion]
      refine .object hmem (by simp) (by simp) ?_
      rintro values hvalues e he
      cases hvalues
      exact .named (List.mem_singleton_self _) h (ih e he)

end LuxLedger.Javascript
