/-
  Javascript/NumericText.lean --- `Number` of a string.
-/
import LuxLedger.Foundation.Binary64
import LuxLedger.Javascript.BigInt

set_option autoImplicit false

namespace LuxLedger.Javascript

open Foundation

/-! ## Literals -/

/-- The decimal point. -/
def decimalPoint : CodeUnit := 46

/-- Decimal digits with a sign or without. -/
def signedDigits? : JsString → Option Int
  | [] => none
  | first :: rest =>
    if first = minusSign then (natural? 10 rest).map fun n : Nat => -(n : Int)
    else if first = plusSign then (natural? 10 rest).map fun n : Nat => (n : Int)
    else (natural? 10 (first :: rest)).map fun n : Nat => (n : Int)

/-- What may stand behind the digits: nothing, or `e` and an exponent. -/
def exponentPart? : JsString → Option Int
  | [] => some 0
  | mark :: rest => if mark = 101 ∨ mark = 69 then signedDigits? rest else none

/-- `StrUnsignedDecimalLiteral` but for `Infinity`. -/
def decimalLiteral? (s : JsString) : Option Rat :=
  let whole := s.takeWhile isDigit
  let rest := s.dropWhile isDigit
  let behind := if rest.head? = some decimalPoint then rest.tail else []
  let fraction := behind.takeWhile isDigit
  let last := if rest.head? = some decimalPoint then behind.dropWhile isDigit else rest
  if whole ++ fraction = [] then none
  else (exponentPart? last).map fun e : Int =>
    (digitsValue (whole ++ fraction) : Rat) * 10 ^ (e - (fraction.length : Int))

/-- `StrUnsignedDecimalLiteral`. -/
def unsignedLiteral? (s : JsString) : Option Binary64 :=
  if s = units "Infinity" then some (.infinite false)
  else (decimalLiteral? s).map Binary64.ofRat

/-- The number with the other sign. -/
def negated : Binary64 → Binary64
  | .nan => .nan
  | .infinite negative => .infinite !negative
  | .finite value => .finite (-value)

/-- `Number(s)`. -/
def number (s : JsString) : Binary64 :=
  match s.trim with
  | [] => .finite 0
  | first :: rest =>
    if first = minusSign then ((unsignedLiteral? rest).map negated).getD .nan
    else if first = plusSign then (unsignedLiteral? rest).getD .nan
    else match announcedRadix? first rest with
      | some radix => ((natural? radix rest.tail).map fun n : Nat => Binary64.ofRat n).getD .nan
      | none => (unsignedLiteral? (first :: rest)).getD .nan

/-! ## Integers -/

theorem decimalLiteral?_of_isDigits {s : JsString} (hne : s ≠ []) (hs : IsDigits s) :
    decimalLiteral? s = some (digitsValue s : Rat) := by
  have hwhole : s.takeWhile isDigit = s := List.takeWhile_eq_self_iff.mpr hs
  have hrest : s.dropWhile isDigit = [] := List.dropWhile_eq_nil_iff.mpr hs
  rw [decimalLiteral?, hwhole, hrest]
  simp [hne, exponentPart?]

theorem unsignedLiteral?_of_isDigits {s : JsString} (hne : s ≠ []) (hs : IsDigits s) :
    unsignedLiteral? s = some (Binary64.ofRat (digitsValue s)) := by
  have hnamed : s ≠ units "Infinity" := by
    rintro rfl
    exact absurd (hs 73 (by decide)) (by decide)
  rw [unsignedLiteral?, if_neg hnamed, decimalLiteral?_of_isDigits hne hs, Option.map_some]

/-- A string of digits is read as the double of the number it denotes. -/
theorem number_of_isDigits {s : JsString} (hne : s ≠ []) (hs : IsDigits s) :
    number s = Binary64.ofRat (digitsValue s) := by
  have htrim : s.trim = s :=
    JsString.trim_eq_self fun u hu => isWhiteSpace_of_isDigit (hs u hu)
  cases s with
  | nil => exact absurd rfl hne
  | cons first rest =>
      obtain ⟨d, hd, hfirst⟩ := isDigit_iff.mp (hs first List.mem_cons_self)
      have hall : ∀ d, d < 10 → digitUnit d ≠ minusSign ∧ digitUnit d ≠ plusSign := by decide
      obtain ⟨hminus, hplus⟩ := hall d hd
      rw [number, htrim]
      dsimp only
      rw [if_neg (hfirst ▸ hminus), if_neg (hfirst ▸ hplus),
        announcedRadix?_of_isDigits fun u hu => hs u (List.mem_cons_of_mem _ hu)]
      dsimp only
      rw [unsignedLiteral?_of_isDigits hne hs, Option.getD_some]

/-- `Number(n.toString())` is `n` as long as it is below 2^53. -/
theorem number_naturalText {n : Nat} (hn : n < 2 ^ 53) : number (naturalText n) = .finite n := by
  rw [number_of_isDigits (naturalText_ne_nil n) (isDigits_naturalText n), digitsValue_naturalText,
    Binary64.ofRat_natCast hn]

end LuxLedger.Javascript
