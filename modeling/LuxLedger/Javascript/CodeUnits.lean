/-
  Javascript/CodeUnits.lean --- JavaScript strings as sequences of UTF-16 code units,
  and the operations on them that the console uses.

  Indexing, `length`, `split` and regular expressions without the `u` flag see code
  units; a string may hold lone surrogates.
-/
import Mathlib.Data.List.TakeWhile

set_option autoImplicit false

namespace LuxLedger.Javascript

/-- A UTF-16 code unit. -/
abbrev CodeUnit := UInt16

/-- A string of JavaScript. -/
abbrev JsString := List CodeUnit

instance lawfulBEqJsString : LawfulBEq JsString := inferInstance

/-- The UTF-16 encoding of a character. -/
def encodeChar (c : Char) : JsString :=
  if c.toNat < 0x10000 then [UInt16.ofNat c.toNat]
  else [UInt16.ofNat (0xD800 + (c.toNat - 0x10000) / 0x400),
    UInt16.ofNat (0xDC00 + (c.toNat - 0x10000) % 0x400)]

/-- A string literal of the source. -/
def units (s : String) : JsString := s.toList.flatMap encodeChar

namespace JsString

/-! ## White space -/

/-- The WhiteSpace and LineTerminator code units of ECMAScript. -/
def isWhiteSpace (u : CodeUnit) : Bool :=
  u ∈ [0x09, 0x0A, 0x0B, 0x0C, 0x0D, 0x20, 0xA0, 0x1680, 0x2028, 0x2029, 0x202F, 0x205F,
    0x3000, 0xFEFF] || (0x2000 ≤ u && u ≤ 0x200A)

/-- `s.trim()`. -/
def trim (s : JsString) : JsString :=
  ((s.dropWhile isWhiteSpace).reverse.dropWhile isWhiteSpace).reverse

/-- A string that has no white space at either end is its own trim. -/
theorem trim_eq_self {s : JsString} (h : ∀ u ∈ s, isWhiteSpace u = false) : trim s = s := by
  have hkept : ∀ us : JsString, (∀ u ∈ us, isWhiteSpace u = false) →
      us.dropWhile isWhiteSpace = us := by
    intro us hus
    cases us with
    | nil => rfl
    | cons u rest => exact List.dropWhile_cons_of_neg (by simp [hus u List.mem_cons_self])
  rw [trim, hkept s h, hkept _ fun u hu => h u (List.mem_reverse.mp hu), List.reverse_reverse]

/-- White space in front is trimmed away. -/
theorem trim_cons_of_white {u : CodeUnit} {s : JsString} (hu : isWhiteSpace u = true) :
    trim (u :: s) = trim s := by
  rw [trim, List.dropWhile_cons_of_pos hu, trim]

/-! ## Padding -/

/-- `s.padStart(length, fill)` for a single code unit. -/
def padStart (s : JsString) (length : Nat) (fill : CodeUnit) : JsString :=
  List.replicate (length - s.length) fill ++ s

/-- `s.padEnd(length, fill)` for a single code unit. -/
def padEnd (s : JsString) (length : Nat) (fill : CodeUnit) : JsString :=
  s ++ List.replicate (length - s.length) fill

theorem length_padStart {s : JsString} {length : Nat} {fill : CodeUnit} (h : s.length ≤ length) :
    (s.padStart length fill).length = length := by
  rw [padStart, List.length_append, List.length_replicate]
  omega

/-! ## Units of a kind -/

/-- Every unit of the string is of the kind. -/
def Every (kind : CodeUnit → Bool) (s : JsString) : Prop := ∀ u ∈ s, kind u = true

instance (kind : CodeUnit → Bool) (s : JsString) : Decidable (Every kind s) :=
  decidable_of_iff (s.all kind = true) List.all_eq_true

/-! ## Replacing -/

/-- `s.replaceAll(unit, replacement)` for a single code unit. -/
def replaceAll (s : JsString) (unit : CodeUnit) (replacement : JsString) : JsString :=
  s.flatMap fun u => if u = unit then replacement else [u]

/-! ## Names -/

/-- An ASCII letter. -/
def isLetter (u : CodeUnit) : Bool := (65 ≤ u && u ≤ 90) || (97 ≤ u && u ≤ 122)

/-- A letter or an underscore. -/
def isNameStart (u : CodeUnit) : Bool := isLetter u || u = 95

/-- A letter, an underscore or a digit. -/
def isNameUnit (u : CodeUnit) : Bool := isNameStart u || (48 ≤ u && u ≤ 57)

end JsString

end LuxLedger.Javascript
