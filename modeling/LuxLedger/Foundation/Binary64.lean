/-
  Foundation/Binary64.lean --- rounding a rational number to a double.

  The double is the nearest one, and of two that are as near the one whose significand is
  even.  Zeros carry no sign here.
-/
import Mathlib.Data.Int.Log
import Mathlib.Data.Rat.Floor
import Mathlib.Tactic.Linarith

set_option autoImplicit false

namespace LuxLedger.Foundation

/-- A value of the number type. -/
inductive Binary64 where
  | nan
  | infinite (negative : Bool)
  | finite (value : Rat)
  deriving DecidableEq, Repr

/-- The nearest integer, the even one of two that are as near. -/
def roundHalfEven (q : Rat) : Int :=
  if 2 * (q - ⌊q⌋) < 1 then ⌊q⌋
  else if 1 < 2 * (q - ⌊q⌋) then ⌊q⌋ + 1
  else if ⌊q⌋ % 2 = 0 then ⌊q⌋
  else ⌊q⌋ + 1

theorem roundHalfEven_intCast (n : Int) : roundHalfEven (n : Rat) = n := by
  rw [roundHalfEven, Int.floor_intCast, if_pos (by simp)]

namespace Binary64

/-- The exponent of the last of the 53 places of a positive number. -/
def lastPlace (q : Rat) : Int := max (Int.log 2 q - 52) (-1074)

/-- Round the magnitude of a number to its places. -/
def roundMagnitude (q : Rat) : Rat := roundHalfEven (q / 2 ^ lastPlace q) * 2 ^ lastPlace q

/-- The double of a number. -/
def ofRat (q : Rat) : Binary64 :=
  if q = 0 then .finite 0
  else if 2 ^ 1024 ≤ roundMagnitude |q| then .infinite (q < 0)
  else .finite (if q < 0 then -roundMagnitude |q| else roundMagnitude |q|)

/-- A number with an integer quotient by its last place is kept. -/
theorem roundMagnitude_of_multiple {q : Rat} {n : Int} (h : q / 2 ^ lastPlace q = n) :
    roundMagnitude q = q := by
  have hplace : (2 : Rat) ^ lastPlace q ≠ 0 := zpow_ne_zero _ (by decide)
  rw [roundMagnitude, h, roundHalfEven_intCast, ← h, div_mul_cancel₀ _ hplace]

/-- The integers below 2^53 need no place behind the point. -/
theorem lastPlace_natCast_nonpos {n : Nat} (hpos : 0 < n) (hn : n < 2 ^ 53) :
    lastPlace (n : Rat) ≤ 0 := by
  have hlog : Int.log 2 (n : Rat) < 53 := by
    rw [← Int.lt_zpow_iff_log_lt (by decide) (by exact_mod_cast hpos)]
    exact_mod_cast hn
  unfold lastPlace
  omega

/-- The integers below 2^53 are doubles. -/
theorem ofRat_natCast {n : Nat} (hn : n < 2 ^ 53) : ofRat (n : Rat) = .finite n := by
  rcases Nat.eq_zero_or_pos n with rfl | hpos
  · rfl
  have hkept : roundMagnitude |(n : Rat)| = n := by
    obtain ⟨k, hk⟩ := Int.eq_ofNat_of_zero_le
      (Int.neg_nonneg_of_nonpos (lastPlace_natCast_nonpos hpos hn))
    rw [abs_of_nonneg (Nat.cast_nonneg n)]
    apply roundMagnitude_of_multiple (n := (n * 2 ^ k : Nat))
    rw [← neg_neg (lastPlace (n : Rat)), hk, zpow_neg, div_inv_eq_mul]
    push_cast
    rfl
  have hsmall : (n : Rat) < 2 ^ 1024 :=
    calc (n : Rat) < 2 ^ 53 := by exact_mod_cast hn
      _ ≤ 2 ^ 1024 := pow_le_pow_right₀ (by decide) (by decide)
  have hzero : (n : Rat) ≠ 0 := Nat.cast_ne_zero.mpr (Nat.pos_iff_ne_zero.mp hpos)
  have hsign : ¬ (n : Rat) < 0 := not_lt.mpr (Nat.cast_nonneg n)
  rw [ofRat, if_neg hzero, hkept, if_neg (not_le.mpr hsmall), if_neg hsign]

/-- `Number.isInteger`, and the integer. -/
def integer? : Binary64 → Option Int
  | .finite value => if value.den = 1 then some value.num else none
  | _ => none

end Binary64

end LuxLedger.Foundation
