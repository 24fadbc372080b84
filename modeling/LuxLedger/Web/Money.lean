/-
  Web/Money.lean --- amounts as text: `money` and `toMinor`.

  Source: `apps/web/src/api.ts`.
-/
import LuxLedger.Javascript.BigInt
import LuxLedger.Relational.Statement
import Mathlib.Tactic.FieldSimp
import Mathlib.Tactic.Ring
import Mathlib.Data.Rat.Defs
import Mathlib.Algebra.Order.Field.Rat

set_option autoImplicit false

namespace LuxLedger.Web

open Javascript Relational

/-! ## The two functions -/

/-- `.` -/
def point : CodeUnit := 46

/-- A blank. -/
def space : CodeUnit := 32

/-- `^\d+(?:\.\d{1,n})?$` with `n = Math.max(1, scale)`. -/
def amountPattern (scale : Nat) (value : JsString) : Bool :=
  !(value.takeWhile isDigit).isEmpty &&
    match value.dropWhile isDigit with
    | [] => true
    | u :: fraction => u = point && !fraction.isEmpty && fraction.length ≤ max 1 scale &&
        fraction.all isDigit

/-- `BigInt(s)`, which throws on anything but an integer literal. -/
def toBigInt (s : JsString) : Except String Int :=
  match bigInt? s with
  | some n => .ok n
  | none => .error "SyntaxError"

/-- `money`. -/
def money (minor currency : JsString) (scale : Nat) : Except String JsString := do
  let n ← toBigInt minor
  let a := if n < 0 then -n else n
  let divisor : Int := 10 ^ scale
  return (if n < 0 then [minusSign] else []) ++ bigIntText (a.tdiv divisor) ++
    (if scale ≠ 0 then
      point :: JsString.padStart (bigIntText (a.tmod divisor)) scale (digitUnit 0) else []) ++
    space :: currency

/-- `toMinor`. -/
def toMinor (value : JsString) (scale : Nat) : Except String JsString := do
  if amountPattern scale value = false ∨ (scale = 0 ∧ value.contains point = true) then
    .error s!"Enter a positive amount with up to {scale} decimal places"
  else
    let parts := value.splitOn point
    let whole := parts.headD []
    let fraction := (parts[1]?).getD []
    let padded := JsString.padEnd fraction scale (digitUnit 0)
    let major ← toBigInt whole
    let minor ← toBigInt (if padded = [] then [digitUnit 0] else padded)
    let result := major * 10 ^ scale + minor
    if result ≤ 0 then .error "Amount must be positive"
    else return bigIntText result

/-! ## Decimal numerals -/

/-- An unsigned decimal numeral: digits, and the digits after the point if there are any. -/
structure Decimal where
  whole : JsString
  fraction : JsString
  whole_ne_nil : whole ≠ []
  whole_digits : IsDigits whole
  fraction_digits : IsDigits fraction

namespace Decimal

/-- The decimal, written. -/
def text (d : Decimal) : JsString :=
  if d.fraction = [] then d.whole else d.whole ++ point :: d.fraction

/-- The value of a decimal. -/
def value (d : Decimal) : ℚ :=
  digitsValue d.whole + digitsValue d.fraction / 10 ^ d.fraction.length

/-- The value in units of `10⁻ˢ`, for a scale with room for the fraction. -/
def minor (d : Decimal) (scale : Nat) : Nat :=
  digitsValue d.whole * 10 ^ scale + digitsValue d.fraction * 10 ^ (scale - d.fraction.length)

theorem minor_eq (d : Decimal) {scale : Nat} (h : d.fraction.length ≤ scale) :
    (d.minor scale : ℚ) = d.value * 10 ^ scale := by
  have hpow : (10 : ℚ) ^ scale = 10 ^ (scale - d.fraction.length) * 10 ^ d.fraction.length := by
    rw [← pow_add, Nat.sub_add_cancel h]
  have hne : (10 : ℚ) ^ d.fraction.length ≠ 0 := pow_ne_zero _ (by decide)
  rw [minor, value]
  push_cast
  rw [hpow]
  field_simp

theorem minor_pos_iff (d : Decimal) {scale : Nat} (h : d.fraction.length ≤ scale) :
    0 < d.minor scale ↔ 0 < d.value := by
  have hpow : (0 : ℚ) < 10 ^ scale := pow_pos (by decide) scale
  rw [← mul_pos_iff_of_pos_right hpow, ← d.minor_eq h, Nat.cast_pos]

theorem point_not_mem {s : JsString} (hs : IsDigits s) : point ∉ s :=
  fun hmem => Bool.false_ne_true ((show isDigit point = false by decide) ▸ hs point hmem)

theorem takeWhile_text (d : Decimal) : d.text.takeWhile isDigit = d.whole := by
  unfold text
  split_ifs
  · exact List.takeWhile_eq_self_iff.mpr d.whole_digits
  · rw [List.takeWhile_append_of_pos d.whole_digits, List.takeWhile_cons_of_neg (by decide),
      List.append_nil]

theorem dropWhile_text (d : Decimal) : d.text.dropWhile isDigit =
    if d.fraction = [] then [] else point :: d.fraction := by
  unfold text
  split_ifs
  · exact List.dropWhile_eq_nil_iff.mpr d.whole_digits
  · rw [List.dropWhile_append_of_pos d.whole_digits, List.dropWhile_cons_of_neg (by decide)]

theorem splitOn_text (d : Decimal) : d.text.splitOn point =
    if d.fraction = [] then [d.whole] else [d.whole, d.fraction] := by
  unfold text
  split_ifs
  · exact List.splitOn_eq_singleton (point_not_mem d.whole_digits)
  · rw [List.splitOn_append_cons_self_of_not_mem (point_not_mem d.whole_digits),
      List.splitOn_eq_singleton (point_not_mem d.fraction_digits)]

theorem contains_text (d : Decimal) : d.text.contains point = true ↔ d.fraction ≠ [] := by
  rw [List.contains_iff_mem]
  unfold text
  split_ifs with hfraction
  · exact iff_of_false (point_not_mem d.whole_digits) (not_not.mpr hfraction)
  · exact iff_of_true (List.mem_append_right _ List.mem_cons_self) hfraction

end Decimal

/-- The pattern admits the decimal numerals with a short fraction. -/
theorem amountPattern_iff {scale : Nat} {value : JsString} :
    amountPattern scale value = true ↔
      ∃ d : Decimal, d.text = value ∧ d.fraction.length ≤ max 1 scale := by
  constructor
  · intro h
    rw [amountPattern, Bool.and_eq_true, Bool.not_eq_true', List.isEmpty_eq_false_iff] at h
    obtain ⟨hwhole, hrest⟩ := h
    have hdigits : IsDigits (value.takeWhile isDigit) := fun u hu => List.mem_takeWhile_imp hu
    have happend := List.takeWhile_append_dropWhile (p := isDigit) (l := value)
    cases hdrop : value.dropWhile isDigit with
    | nil =>
        refine ⟨⟨value.takeWhile isDigit, [], hwhole, hdigits, fun _ hu => by cases hu⟩, ?_,
          Nat.zero_le _⟩
        rw [hdrop, List.append_nil] at happend
        exact happend
    | cons u fraction =>
        rw [hdrop] at hrest happend
        simp only [Bool.and_eq_true, decide_eq_true_eq, Bool.not_eq_true',
          List.isEmpty_eq_false_iff, List.all_eq_true] at hrest
        obtain ⟨⟨⟨hpoint, hne⟩, hlength⟩, hall⟩ := hrest
        refine ⟨⟨value.takeWhile isDigit, fraction, hwhole, hdigits, hall⟩, ?_, hlength⟩
        rw [Decimal.text, if_neg hne, ← hpoint]
        exact happend
  · rintro ⟨d, rfl, hlength⟩
    rw [amountPattern, d.takeWhile_text, d.dropWhile_text, Bool.and_eq_true, Bool.not_eq_true',
      List.isEmpty_eq_false_iff]
    refine ⟨d.whole_ne_nil, ?_⟩
    split_ifs with hfraction
    · rfl
    · have hall : d.fraction.all isDigit = true := List.all_eq_true.mpr d.fraction_digits
      simp only [decide_true, List.isEmpty_eq_false_iff.mpr hfraction, Bool.not_false, hlength,
        hall, Bool.and_self]

/-! ## `toMinor` -/

theorem toBigInt_of_isDigits {s : JsString} (hne : s ≠ []) (hs : IsDigits s) :
    toBigInt s = .ok (digitsValue s : Int) := by
  rw [toBigInt, bigInt?_of_isDigits hne hs]

/-- The fraction, padded with zeros to the scale. -/
theorem toBigInt_padEnd {s : JsString} (hs : IsDigits s) (scale : Nat) :
    toBigInt (if JsString.padEnd s scale (digitUnit 0) = [] then [digitUnit 0]
      else JsString.padEnd s scale (digitUnit 0)) =
      .ok ((digitsValue s * 10 ^ (scale - s.length) : Nat) : Int) := by
  have hzero : isDigit (digitUnit 0) = true := by decide
  split_ifs with hempty
  · have hnil : s = [] := List.append_eq_nil_iff.mp hempty |>.1
    have hvalue : digitsValue [digitUnit 0] = 0 := by decide +kernel
    rw [hnil, toBigInt_of_isDigits (List.cons_ne_nil _ _) (by decide +kernel), hvalue,
      show digitsValue [] = 0 from rfl, Nat.zero_mul]
  · have hdigits : IsDigits (JsString.padEnd s scale (digitUnit 0)) := by
      apply hs.append
      intro u hu
      rw [List.eq_of_mem_replicate hu]
      exact hzero
    rw [toBigInt_of_isDigits hempty hdigits, JsString.padEnd, digitsValue_append_replicate_zero]

/-- On a numeral that fits the scale, the value in minor units. -/
theorem toMinor_text (d : Decimal) {scale : Nat} (h : d.fraction.length ≤ scale) :
    toMinor d.text scale =
      if d.minor scale = 0 then .error "Amount must be positive"
      else .ok (naturalText (d.minor scale)) := by
  have hpattern : amountPattern scale d.text = true :=
    amountPattern_iff.mpr ⟨d, rfl, le_trans h (le_max_right 1 scale)⟩
  have hguard : ¬ (amountPattern scale d.text = false ∨
      (scale = 0 ∧ d.text.contains point = true)) := by
    rintro (hfail | ⟨hzero, hpoint⟩)
    · exact Bool.false_ne_true (hfail.symm.trans hpattern)
    · rw [hzero, Nat.le_zero, List.length_eq_zero_iff] at h
      exact (d.contains_text.mp hpoint) h
  have hparts : (d.text.splitOn point).headD [] = d.whole ∧
      ((d.text.splitOn point)[1]?).getD [] = d.fraction := by
    rw [d.splitOn_text]
    split_ifs with hfraction
    · exact ⟨rfl, hfraction.symm⟩
    · exact ⟨rfl, rfl⟩
  unfold toMinor
  rw [if_neg hguard]
  simp only [hparts.1, hparts.2, toBigInt_of_isDigits d.whole_ne_nil d.whole_digits,
    toBigInt_padEnd d.fraction_digits, bind, Except.bind]
  have hresult : (digitsValue d.whole : Int) * 10 ^ scale +
      ((digitsValue d.fraction * 10 ^ (scale - d.fraction.length) : Nat) : Int) =
        (d.minor scale : Int) := by
    rw [Decimal.minor]
    push_cast
    rfl
  rw [hresult]
  by_cases hzero : d.minor scale = 0
  · rw [if_pos hzero, if_pos (by omega)]
  · rw [if_neg hzero, if_neg (by omega), bigIntText, if_neg (by omega), Int.natAbs_natCast]
    rfl

/-- What is accepted is a numeral that fits the scale. -/
theorem text_of_toMinor {value result : JsString} {scale : Nat}
    (h : toMinor value scale = .ok result) :
    ∃ d : Decimal, d.text = value ∧ d.fraction.length ≤ scale := by
  unfold toMinor at h
  by_cases hguard : amountPattern scale value = false ∨
      (scale = 0 ∧ value.contains point = true)
  · rw [if_pos hguard] at h
    cases h
  · rw [not_or, Bool.not_eq_false] at hguard
    obtain ⟨d, rfl, hlength⟩ := amountPattern_iff.mp hguard.1
    refine ⟨d, rfl, ?_⟩
    rcases Nat.eq_zero_or_pos scale with hzero | hpos
    · have hnil : d.fraction = [] := by
        by_contra hne
        exact hguard.2 ⟨hzero, d.contains_text.mpr hne⟩
      rw [hnil]
      exact Nat.zero_le _
    · exact le_trans hlength (max_le hpos le_rfl)

theorem toMinor_eq_ok_iff {value result : JsString} {scale : Nat} :
    toMinor value scale = .ok result ↔
      ∃ d : Decimal, d.text = value ∧ d.fraction.length ≤ scale ∧ 0 < d.minor scale ∧
        result = naturalText (d.minor scale) := by
  constructor
  · intro h
    obtain ⟨d, rfl, hlength⟩ := text_of_toMinor h
    rw [toMinor_text d hlength] at h
    split_ifs at h with hzero
    exact ⟨d, rfl, hlength, Nat.pos_of_ne_zero hzero, (Except.ok.inj h).symm⟩
  · rintro ⟨d, rfl, hlength, hpos, rfl⟩
    rw [toMinor_text d hlength, if_neg (Nat.ne_of_gt hpos)]

/-! ## `money` -/

/-- The numeral that `money` prints for a magnitude. -/
def amountOf (magnitude scale : Nat) : Decimal where
  whole := naturalText (magnitude / 10 ^ scale)
  fraction := if scale = 0 then []
    else JsString.padStart (naturalText (magnitude % 10 ^ scale)) scale (digitUnit 0)
  whole_ne_nil := naturalText_ne_nil _
  whole_digits := isDigits_naturalText _
  fraction_digits := by
    split_ifs
    · intro u hu
      cases hu
    · refine IsDigits.append (fun u hu => ?_) (isDigits_naturalText _)
      rw [List.eq_of_mem_replicate hu]
      decide

section AmountOf

variable (magnitude scale : Nat)

theorem length_fraction_amountOf : (amountOf magnitude scale).fraction.length = scale := by
  unfold amountOf
  dsimp only
  split_ifs with hzero
  · exact hzero.symm
  · have hpos := Nat.pos_of_ne_zero hzero
    exact JsString.length_padStart
      (length_naturalText_le hpos (Nat.mod_lt _ (Nat.pow_pos (by decide))))

theorem digitsValue_fraction_amountOf :
    digitsValue (amountOf magnitude scale).fraction = magnitude % 10 ^ scale := by
  unfold amountOf
  dsimp only
  split_ifs with hzero
  · rw [hzero, Nat.pow_zero, Nat.mod_one]
    rfl
  · rw [JsString.padStart, digitsValue_replicate_zero_append, digitsValue_naturalText]

theorem minor_amountOf : (amountOf magnitude scale).minor scale = magnitude := by
  have hwhole : digitsValue (amountOf magnitude scale).whole = magnitude / 10 ^ scale :=
    digitsValue_naturalText _
  rw [Decimal.minor, length_fraction_amountOf, Nat.sub_self, Nat.pow_zero, Nat.mul_one, hwhole,
    digitsValue_fraction_amountOf]
  exact Nat.div_add_mod' magnitude (10 ^ scale)

theorem text_amountOf : (amountOf magnitude scale).text =
    naturalText (magnitude / 10 ^ scale) ++
      (if scale ≠ 0 then
        point :: JsString.padStart (naturalText (magnitude % 10 ^ scale)) scale (digitUnit 0)
        else []) := by
  have hlength := length_fraction_amountOf magnitude scale
  unfold Decimal.text
  split_ifs with hfraction hscale hscale
  · rw [hfraction] at hlength
    exact absurd hlength.symm hscale
  · exact (List.append_nil _).symm
  · unfold amountOf
    dsimp only
    rw [if_neg hscale]
  · have hzero : scale = 0 := not_not.mp hscale
    exact absurd (List.length_eq_zero_iff.mp (hlength.trans hzero)) hfraction

end AmountOf

/-- `money` prints the sign and the numeral of the magnitude. -/
theorem money_bigIntText (n : Int) (currency : JsString) (scale : Nat) :
    money (bigIntText n) currency scale =
      .ok ((if n < 0 then [minusSign] else []) ++ (amountOf n.natAbs scale).text ++
        space :: currency) := by
  have hmagnitude : (if n < 0 then -n else n) = (n.natAbs : Int) := by
    split_ifs <;> omega
  have hdivisor : (10 : Int) ^ scale = ((10 ^ scale : Nat) : Int) := by
    push_cast
    rfl
  have htext : ∀ k : Nat, bigIntText (k : Int) = naturalText k := by
    intro k
    rw [bigIntText, if_neg (by omega), Int.natAbs_natCast]
  rw [money, toBigInt, bigInt?_bigIntText]
  simp only [bind, Except.bind, pure, Except.pure, hmagnitude, hdivisor, ← Int.ofNat_tdiv,
    ← Int.ofNat_tmod, htext]
  rw [text_amountOf]
  simp only [List.append_assoc]

/-- `toMinor` accepts exactly the decimal numerals of a positive number that fit the
scale, and returns their value in minor units; it undoes `money`; and `money` prints
the sign and exactly `n / 10 ^ scale`. -/
theorem money_toMinor_exact (scale : Nat) :
    (∀ value result, toMinor value scale = .ok result ↔
      ∃ d : Decimal, d.text = value ∧ d.fraction.length ≤ scale ∧ 0 < d.value ∧
        ∃ n : Nat, (n : ℚ) = d.value * 10 ^ scale ∧ result = naturalText n) ∧
    (∀ (n : Nat) currency, 0 < n → ∃ amount,
      money (naturalText n) currency scale = .ok (amount ++ space :: currency) ∧
        toMinor amount scale = .ok (naturalText n)) ∧
    (∀ (n : Int) currency, ∃ d : Decimal,
      money (bigIntText n) currency scale =
          .ok ((if n < 0 then [minusSign] else []) ++ d.text ++ space :: currency) ∧
        (if n < 0 then -d.value else d.value) = (n : ℚ) / 10 ^ scale) := by
  refine ⟨?_, ?_, ?_⟩
  · intro value result
    rw [toMinor_eq_ok_iff]
    constructor
    · rintro ⟨d, htext, hlength, hpos, hresult⟩
      exact ⟨d, htext, hlength, (d.minor_pos_iff hlength).mp hpos, d.minor scale,
        d.minor_eq hlength, hresult⟩
    · rintro ⟨d, htext, hlength, hpos, n, hn, hresult⟩
      have hminor : n = d.minor scale := by
        rw [← d.minor_eq hlength] at hn
        exact_mod_cast hn
      exact ⟨d, htext, hlength, (d.minor_pos_iff hlength).mpr hpos, hminor ▸ hresult⟩
  · intro n currency hn
    have hlength : (amountOf n scale).fraction.length ≤ scale :=
      le_of_eq (length_fraction_amountOf n scale)
    refine ⟨(amountOf n scale).text, ?_, ?_⟩
    · have hmoney := money_bigIntText (n : Int) currency scale
      rw [bigIntText, if_neg (by omega), if_neg (by omega), Int.natAbs_natCast] at hmoney
      exact hmoney
    · rw [toMinor_text _ hlength, minor_amountOf, if_neg (Nat.ne_of_gt hn)]
  · intro n currency
    refine ⟨amountOf n.natAbs scale, money_bigIntText n currency scale, ?_⟩
    have hvalue := (amountOf n.natAbs scale).minor_eq
      (le_of_eq (length_fraction_amountOf n.natAbs scale))
    rw [minor_amountOf] at hvalue
    have hpow : (10 : ℚ) ^ scale ≠ 0 := pow_ne_zero _ (by decide)
    rw [eq_div_iff hpow]
    split_ifs with hn
    · rw [neg_mul, ← hvalue, Nat.cast_natAbs, abs_of_neg hn]
      push_cast
      exact neg_neg _
    · rw [← hvalue, Nat.cast_natAbs, abs_of_nonneg (not_lt.mp hn)]

end LuxLedger.Web
