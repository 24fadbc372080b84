/-
  Javascript/TypeSyntax.lean --- the part of the syntax of TypeScript in which types of JSON
  values are declared: a reader of type expressions and of modules of type aliases, and what
  it reads from expressions that are written out.

  Names are made of ASCII letters, digits and underscores.  `Array` and `Record` are the
  global types, so a module may not declare them.
-/
import LuxLedger.Foundation.Reader
import LuxLedger.Javascript.JsonValue

set_option autoImplicit false

namespace LuxLedger.Javascript

open Foundation JsString

/-! ## Types -/

/-- A property of an object type, `"name": type` or `"name"?: type`. -/
structure TsProperty (α : Type) where
  name : JsString
  optional : Bool
  type : α

/-- A type that is no union.  A union is the list of its alternatives. -/
inductive TsType where
  | null
  | boolean
  | number
  | string
  | booleanLiteral (value : Bool)
  | numberLiteral (text : JsString)
  | stringLiteral (value : JsString)
  | array (items : List TsType)
  | tuple (parts : List (List TsType))
  | object (properties : List (TsProperty (List TsType))) (index : Option (List TsType))
  | named (name : JsString)

/-- A union of types. -/
abbrev TsUnion : Type := List TsType

/-- What stands between the braces of an object type. -/
inductive TsMember where
  | property (p : TsProperty TsUnion)
  /-- `[key: string]: values` -/
  | index (values : TsUnion)

namespace TsMember

/-- The property that the member is. -/
def property? : TsMember → Option (TsProperty TsUnion)
  | .property p => some p
  | .index _ => none

/-- The values of the index signature that the member is. -/
def index? : TsMember → Option TsUnion
  | .property _ => none
  | .index values => some values

end TsMember

/-- The object type of some members; it has at most one index signature. -/
def objectType (members : List TsMember) : Option TsType :=
  match members.filterMap TsMember.index? with
  | [] => some (.object (members.filterMap TsMember.property?) none)
  | [values] => some (.object (members.filterMap TsMember.property?) (some values))
  | _ => none

/-! ## Reading -/

/-- What may stand between tokens. -/
abbrev gap : CodeUnit → Bool := JsString.isWhiteSpace

/-- The names that a type alias cannot have, and those that are read as something else. -/
def reservedNames : List JsString :=
  ["any", "bigint", "boolean", "never", "null", "number", "object", "string", "symbol",
    "undefined", "unknown", "void", "true", "false", "Array", "Record", "break", "case", "catch",
    "class", "const", "continue", "debugger", "default", "delete", "do", "else", "enum", "export",
    "extends", "finally", "for", "function", "if", "import", "in", "instanceof", "new", "return",
    "super", "switch", "this", "throw", "try", "typeof", "var", "while", "with", "implements",
    "interface", "let", "package", "private", "protected", "public", "static", "yield"].map units

/-- The value of a hexadecimal digit. -/
def hexDigit? (u : CodeUnit) : Option Nat :=
  if 48 ≤ u ∧ u ≤ 57 then some (u.toNat - 48)
  else if 97 ≤ u ∧ u ≤ 102 then some (u.toNat - 87)
  else if 65 ≤ u ∧ u ≤ 70 then some (u.toNat - 55)
  else none

/-- The unit that a backslash and a letter stand for. -/
def unescape? (u : CodeUnit) : Option CodeUnit :=
  if u = 98 then some 8
  else if u = 116 then some 9
  else if u = 110 then some 10
  else if u = 102 then some 12
  else if u = 114 then some 13
  else if u = quoteMark ∨ u = backslash then some u
  else none

/-- Behind a backslash. -/
def readEscape : Reader CodeUnit CodeUnit
  | [] => none
  | u :: text =>
      if u = 117 then
        match text with
        | a :: b :: c :: d :: rest => do
            let a ← hexDigit? a
            let b ← hexDigit? b
            let c ← hexDigit? c
            let d ← hexDigit? d
            some (UInt16.ofNat (a * 4096 + b * 256 + c * 16 + d), rest)
        | _ => none
      else (unescape? u).map fun v => (v, text)

/-- A unit between quotes. -/
def readUnit : Reader CodeUnit CodeUnit
  | [] => none
  | u :: text =>
      if u = backslash then readEscape text
      else if u = quoteMark ∨ u = 10 ∨ u = 13 then none
      else some (u, text)

/-- The units up to the closing quotation mark. -/
def readUnits : Nat → Reader CodeUnit JsString
  | 0, _ => none
  | n + 1, text =>
      if text.head? = some quoteMark then some ([], text.tail)
      else do
        let (u, rest) ← readUnit text
        let (others, rest) ← readUnits n rest
        some (u :: others, rest)

/-- A string literal, behind its opening quote. -/
def readQuoted : Reader CodeUnit JsString := fun text => readUnits (text.length + 1) text

/-- A name. -/
def readName : Reader CodeUnit JsString := fun text =>
  match text.dropWhile gap with
  | u :: rest =>
      if isNameStart u then some (u :: rest.takeWhile isNameUnit, rest.dropWhile isNameUnit)
      else none
  | [] => none

/-- A name of the kind that is read. -/
def IsTypeName (name : JsString) : Prop :=
  name.head?.any isNameStart = true ∧ Every isNameUnit name

instance (name : JsString) : Decidable (IsTypeName name) :=
  inferInstanceAs (Decidable (_ ∧ _))

/-- Past a punctuation mark. -/
def pastMark (mark : CodeUnit) : JsString → Option JsString :=
  Reader.past gap fun u => u = mark

/-- The type that a name stands for. -/
def nameType (name : JsString) : Option TsType :=
  if name = units "null" then some .null
  else if name = units "boolean" then some .boolean
  else if name = units "number" then some .number
  else if name = units "string" then some .string
  else if name = units "true" then some (.booleanLiteral true)
  else if name = units "false" then some (.booleanLiteral false)
  else if name ∈ reservedNames then none
  else some (.named name)

section Inner

variable (readType : Reader CodeUnit TsUnion)

/-- Behind a name that begins a type. -/
def readNamed (name : JsString) : Reader CodeUnit TsType := fun rest =>
  if name = units "Array" then do
    let rest ← pastMark 60 rest
    let (items, rest) ← readType rest
    let rest ← pastMark 62 rest
    some (.array items, rest)
  else if name = units "Record" then do
    let rest ← pastMark 60 rest
    let (key, rest) ← readName rest
    let rest ← pastMark 44 rest
    let (values, rest) ← readType rest
    let rest ← pastMark 62 rest
    if key = units "string" then some (.object [] (some values), rest) else none
  else (nameType name).map fun type => (type, rest)

/-- Behind the name of a property. -/
def readProperty (name : JsString) : Reader CodeUnit TsMember := fun rest => do
  let next ← pastMark 58 ((pastMark 63 rest).getD rest)
  let (type, last) ← readType next
  some (.property ⟨name, (pastMark 63 rest).isSome, type⟩, last)

/-- Behind the bracket of an index signature. -/
def readIndex : Reader CodeUnit TsMember := fun text => do
  let (_, rest) ← readName text
  let rest ← pastMark 58 rest
  let (key, rest) ← readName rest
  let rest ← pastMark 93 rest
  let rest ← pastMark 58 rest
  let (values, rest) ← readType rest
  if key = units "string" then some (.index values, rest) else none

/-- A member of an object type. -/
def readMember : Reader CodeUnit TsMember := fun text =>
  match text.dropWhile gap with
  | u :: rest =>
      if u = quoteMark then do
        let (name, rest) ← readQuoted rest
        readProperty readType name rest
      else if u = 91 then readIndex readType rest
      else none
  | [] => none

/-- A type without the brackets that may follow it. -/
def readAtom : Reader CodeUnit TsType
  | [] => none
  | u :: rest =>
      if u = quoteMark then do
        let (value, rest) ← readQuoted rest
        some (.stringLiteral value, rest)
      else if u = 123 then do
        let (members, rest) ← Reader.enclosed gap (fun u => u = 59 || u = 44)
          (fun u => u = 125) (readMember readType) (rest.length + 1) rest
        let type ← objectType members
        some (type, rest)
      else if u = 91 then do
        let (parts, rest) ← Reader.enclosed gap (fun u => u = 44) (fun u => u = 93)
          readType (rest.length + 1) rest
        some (.tuple parts, rest)
      else if isDigit u || u = minusSign then
        some (.numberLiteral (u :: rest.takeWhile isNumberUnit), rest.dropWhile isNumberUnit)
      else if isNameStart u then
        readNamed readType (u :: rest.takeWhile isNameUnit) (rest.dropWhile isNameUnit)
      else none

/-- The `[]` behind the type of the elements. -/
def arraySuffixes (type : TsType) : JsString → TsType × JsString
  | u :: w :: rest =>
      if u = 91 ∧ w = 93 then arraySuffixes (.array [type]) rest else (type, u :: w :: rest)
  | rest => (type, rest)

/-- A type that is not a union. -/
def readPrimary : Reader CodeUnit TsType := fun text => do
  let (atom, rest) ← readAtom readType (text.dropWhile gap)
  some (arraySuffixes atom rest)

end Inner

/-- The bar between the types of a union. -/
def isBar (u : CodeUnit) : Bool := u = 124

/-- A type that is nested no deeper than a bound. -/
def readUnion : Nat → Reader CodeUnit TsUnion
  | 0, _ => none
  | depth + 1, text =>
      Reader.separated gap isBar (readPrimary (readUnion depth)) (text.length + 1) text

/-- The type that a text is; no type is nested deeper than its text is long. -/
def readType (text : JsString) : Option TsUnion := do
  let (alternatives, rest) ← readUnion (text.length + 1) text
  if rest.all gap then some alternatives else none

/-! ### Modules -/

/-- The declared types, by name. -/
abbrev TsDeclarations : Type := List (JsString × TsUnion)

/-- `export type Name = type;` -/
def readDeclaration : Reader CodeUnit (JsString × TsUnion) := fun text => do
  let (exportWord, rest) ← readName text
  let (typeWord, rest) ← readName rest
  let (name, rest) ← readName rest
  let rest ← pastMark 61 rest
  let (alternatives, rest) ← readUnion (rest.length + 1) rest
  let rest ← pastMark 59 rest
  if exportWord = units "export" ∧ typeWord = units "type" then some ((name, alternatives), rest)
  else none

/-- Declarations and line comments. -/
def readLines : Nat → JsString → Option TsDeclarations
  | 0, _ => none
  | n + 1, text =>
      match text.dropWhile gap with
      | [] => some []
      | u :: rest =>
          if u = 47 ∧ rest.head? = some 47 then readLines n (rest.dropWhile fun w => w ≠ 10)
          else do
            let (declaration, rest) ← readDeclaration (u :: rest)
            let others ← readLines n rest
            some (declaration :: others)

/-- The type aliases of a module, each declared once. -/
def readModule (text : JsString) : Option TsDeclarations := do
  let declarations ← readLines (text.length + 1) text
  if (declarations.map (·.1)).Nodup ∧ ∀ name ∈ declarations.map (·.1), name ∉ reservedNames then
    some declarations
  else none

end LuxLedger.Javascript
