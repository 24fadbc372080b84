/-
  Foundation/Numeral.lean --- positional numerals, most significant digit first.

  A numeral is a list of digits; `Nat.digits` and `Nat.ofDigits` of Mathlib read
  the list from the other end.
-/
import Mathlib.Data.Nat.Digits.Lemmas

set_option autoImplicit false

namespace LuxLedger.Foundation

variable {base : Nat} {ds es : List Nat}

/-- The number that a list of digits denotes. -/
def numeral (base : Nat) (ds : List Nat) : Nat := Nat.ofDigits base ds.reverse

/-- The digits of a number, without leading zeros. -/
def figures (base n : Nat) : List Nat := if n = 0 then [0] else (Nat.digits base n).reverse

theorem numeral_append :
    numeral base (ds ++ es) = numeral base ds * base ^ es.length + numeral base es := by
  rw [numeral, List.reverse_append, Nat.ofDigits_append, List.length_reverse, numeral, numeral,
    Nat.add_comm, Nat.mul_comm]

/-- Zeros in front count for nothing. -/
theorem numeral_replicate_zero_append (k : Nat) :
    numeral base (List.replicate k 0 ++ ds) = numeral base ds := by
  rw [numeral_append, numeral, List.reverse_replicate, Nat.ofDigits_replicate_zero, Nat.zero_mul,
    Nat.zero_add]

/-- Zeros at the end multiply by the base. -/
theorem numeral_append_replicate_zero (k : Nat) :
    numeral base (ds ++ List.replicate k 0) = numeral base ds * base ^ k := by
  rw [numeral_append, List.length_replicate]
  nth_rewrite 2 [numeral]
  rw [List.reverse_replicate, Nat.ofDigits_replicate_zero, Nat.add_zero]

theorem numeral_figures (n : Nat) : numeral base (figures base n) = n := by
  unfold figures
  split_ifs with hzero
  · rw [hzero, numeral, List.reverse_singleton, Nat.ofDigits_singleton]
  · rw [numeral, List.reverse_reverse, Nat.ofDigits_digits]

theorem figures_ne_nil (n : Nat) : figures base n ≠ [] := by
  unfold figures
  split_ifs with hzero
  · exact List.cons_ne_nil 0 []
  · rw [Ne, List.reverse_eq_nil_iff]
    exact Nat.digits_ne_nil_iff_ne_zero.mpr hzero

theorem figures_lt (hbase : 1 < base) {n d : Nat} (hd : d ∈ figures base n) : d < base := by
  unfold figures at hd
  split_ifs at hd
  · rw [List.mem_singleton.mp hd]
    exact Nat.lt_trans Nat.zero_lt_one hbase
  · exact Nat.digits_lt_base hbase (List.mem_reverse.mp hd)

theorem length_figures_le (hbase : 1 < base) {n k : Nat} (hk : 0 < k) (hn : n < base ^ k) :
    (figures base n).length ≤ k := by
  unfold figures
  split_ifs
  · exact hk
  · rw [List.length_reverse]
    exact (Nat.digits_length_le_iff hbase n).mpr hn

end LuxLedger.Foundation
