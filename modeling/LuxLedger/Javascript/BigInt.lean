/-
  Javascript/BigInt.lean --- `BigInt` of a string, and `toString` of a `BigInt`.
-/
import LuxLedger.Foundation.Numeral
import LuxLedger.Javascript.CodeUnits

set_option autoImplicit false

namespace LuxLedger.Javascript

open Foundation

/-! ## Digits -/

/-- The code unit of a decimal digit. -/
def digitUnit (d : Nat) : CodeUnit := UInt16.ofNat (48 + d)

/-- `\d`. -/
def isDigit (u : CodeUnit) : Bool := 48 ≤ u && u ≤ 57

/-- The value of a digit or letter in a numeric literal; 36 stands for no digit. -/
def digitValue (u : CodeUnit) : Nat :=
  if isDigit u then u.toNat - 48
  else if 97 ≤ u ∧ u ≤ 122 then u.toNat - 87
  else if 65 ≤ u ∧ u ≤ 90 then u.toNat - 55
  else 36

/-- A string of decimal digits. -/
def IsDigits (s : JsString) : Prop := ∀ u ∈ s, isDigit u = true

instance (s : JsString) : Decidable (IsDigits s) :=
  decidable_of_iff (s.all isDigit = true) List.all_eq_true

/-- The number that decimal digits denote. -/
def digitsValue (s : JsString) : Nat := numeral 10 (s.map digitValue)

theorem isDigit_iff {u : CodeUnit} : isDigit u = true ↔ ∃ d, d < 10 ∧ u = digitUnit d := by
  constructor
  · intro h
    simp only [isDigit, Bool.and_eq_true, decide_eq_true_eq, UInt16.le_iff_toNat_le] at h
    have hlow : 48 ≤ u.toNat := h.1
    have hhigh : u.toNat ≤ 57 := h.2
    refine ⟨u.toNat - 48, by omega, ?_⟩
    rw [digitUnit, Nat.add_sub_cancel' hlow, UInt16.ofNat_toNat]
  · rintro ⟨d, hd, rfl⟩
    have hall : ∀ d, d < 10 → isDigit (digitUnit d) = true := by decide
    exact hall d hd

theorem digitValue_digitUnit {d : Nat} (hd : d < 10) : digitValue (digitUnit d) = d := by
  have hall : ∀ d, d < 10 → digitValue (digitUnit d) = d := by decide
  exact hall d hd

theorem digitValue_lt {u : CodeUnit} (hu : isDigit u = true) : digitValue u < 10 := by
  obtain ⟨d, hd, rfl⟩ := isDigit_iff.mp hu
  rw [digitValue_digitUnit hd]
  exact hd

theorem isWhiteSpace_of_isDigit {u : CodeUnit} (hu : isDigit u = true) :
    JsString.isWhiteSpace u = false := by
  obtain ⟨d, hd, rfl⟩ := isDigit_iff.mp hu
  have hall : ∀ d, d < 10 → JsString.isWhiteSpace (digitUnit d) = false := by decide
  exact hall d hd

theorem IsDigits.append {s t : JsString} (hs : IsDigits s) (ht : IsDigits t) :
    IsDigits (s ++ t) := by
  intro u hu
  rcases List.mem_append.mp hu with hu | hu
  · exact hs u hu
  · exact ht u hu

theorem isDigits_map_digitUnit {ds : List Nat} (h : ∀ d ∈ ds, d < 10) :
    IsDigits (ds.map digitUnit) := by
  intro u hu
  obtain ⟨d, hd, rfl⟩ := List.mem_map.mp hu
  exact isDigit_iff.mpr ⟨d, h d hd, rfl⟩

theorem digitsValue_map_digitUnit {ds : List Nat} (h : ∀ d ∈ ds, d < 10) :
    digitsValue (ds.map digitUnit) = numeral 10 ds := by
  have hvalues : (ds.map digitUnit).map digitValue = ds := by
    rw [List.map_map]
    calc ds.map (digitValue ∘ digitUnit) = ds.map id :=
          List.map_congr_left fun d hd => digitValue_digitUnit (h d hd)
      _ = ds := List.map_id ds
  rw [digitsValue, hvalues]

theorem digitsValue_replicate_zero_append (k : Nat) (s : JsString) :
    digitsValue (List.replicate k (digitUnit 0) ++ s) = digitsValue s := by
  rw [digitsValue, List.map_append, List.map_replicate, digitValue_digitUnit (by decide),
    numeral_replicate_zero_append, digitsValue]

theorem digitsValue_append_replicate_zero (s : JsString) (k : Nat) :
    digitsValue (s ++ List.replicate k (digitUnit 0)) = digitsValue s * 10 ^ k := by
  rw [digitsValue, List.map_append, List.map_replicate, digitValue_digitUnit (by decide),
    numeral_append_replicate_zero, digitsValue]

/-! ## `BigInt(s)` -/

/-- The minus sign. -/
def minusSign : CodeUnit := 45

/-- The plus sign. -/
def plusSign : CodeUnit := 43

/-- Digits of a radix, at least one. -/
def natural? (radix : Nat) (s : JsString) : Option Nat :=
  if s ≠ [] ∧ s.all (fun u => digitValue u < radix) = true then
    some (numeral radix (s.map digitValue))
  else none

/-- The radix that `0x`, `0o` or `0b` announces. -/
def announcedRadix? (first : CodeUnit) (rest : JsString) : Option Nat :=
  if first ≠ digitUnit 0 then none
  else match rest.head? with
    | none => none
    | some u =>
      if u = 120 ∨ u = 88 then some 16
      else if u = 111 ∨ u = 79 then some 8
      else if u = 98 ∨ u = 66 then some 2
      else none

/-- `BigInt(s)`; `none` stands for the `SyntaxError`. -/
def bigInt? (s : JsString) : Option Int :=
  match s.trim with
  | [] => some 0
  | first :: rest =>
    if first = minusSign then (natural? 10 rest).map fun n : Nat => -(n : Int)
    else if first = plusSign then (natural? 10 rest).map fun n : Nat => (n : Int)
    else match announcedRadix? first rest with
      | some radix => (natural? radix rest.tail).map fun n : Nat => (n : Int)
      | none => (natural? 10 (first :: rest)).map fun n : Nat => (n : Int)

theorem natural?_of_isDigits {s : JsString} (hne : s ≠ []) (hs : IsDigits s) :
    natural? 10 s = some (digitsValue s) := by
  have hall : s.all (fun u => digitValue u < 10) = true := by
    rw [List.all_eq_true]
    exact fun u hu => decide_eq_true (digitValue_lt (hs u hu))
  exact if_pos ⟨hne, hall⟩

theorem announcedRadix?_of_isDigits {first : CodeUnit} {rest : JsString} (hrest : IsDigits rest) :
    announcedRadix? first rest = none := by
  unfold announcedRadix?
  split_ifs
  · rfl
  · cases rest with
    | nil => rfl
    | cons u rest =>
        obtain ⟨d, hd, rfl⟩ := isDigit_iff.mp (hrest u List.mem_cons_self)
        have hall : ∀ d, d < 10 → ¬ (digitUnit d = 120 ∨ digitUnit d = 88) ∧
            ¬ (digitUnit d = 111 ∨ digitUnit d = 79) ∧ ¬ (digitUnit d = 98 ∨ digitUnit d = 66) := by
          decide
        obtain ⟨hhex, hoctal, hbinary⟩ := hall d hd
        dsimp only [List.head?_cons]
        rw [if_neg hhex, if_neg hoctal, if_neg hbinary]

/-- A string of digits is read as the number it denotes. -/
theorem bigInt?_of_isDigits {s : JsString} (hne : s ≠ []) (hs : IsDigits s) :
    bigInt? s = some (digitsValue s : Int) := by
  have htrim : s.trim = s :=
    JsString.trim_eq_self fun u hu => isWhiteSpace_of_isDigit (hs u hu)
  cases s with
  | nil => exact absurd rfl hne
  | cons first rest =>
      obtain ⟨d, hd, hfirst⟩ := isDigit_iff.mp (hs first List.mem_cons_self)
      have hall : ∀ d, d < 10 → digitUnit d ≠ minusSign ∧ digitUnit d ≠ plusSign := by decide
      obtain ⟨hminus, hplus⟩ := hall d hd
      rw [bigInt?, htrim]
      dsimp only
      rw [if_neg (hfirst ▸ hminus), if_neg (hfirst ▸ hplus),
        announcedRadix?_of_isDigits fun u hu => hs u (List.mem_cons_of_mem _ hu)]
      dsimp only
      rw [natural?_of_isDigits hne hs, Option.map_some]

theorem bigInt?_minusSign {s : JsString} (hne : s ≠ []) (hs : IsDigits s) :
    bigInt? (minusSign :: s) = some (-(digitsValue s : Int)) := by
  have htrim : JsString.trim (minusSign :: s) = minusSign :: s := by
    apply JsString.trim_eq_self
    intro u hu
    rcases List.mem_cons.mp hu with rfl | hu
    · decide
    · exact isWhiteSpace_of_isDigit (hs u hu)
  rw [bigInt?, htrim]
  dsimp only
  rw [if_pos rfl, natural?_of_isDigits hne hs, Option.map_some]

/-! ## `n.toString()` -/

/-- `n.toString()` of a nonnegative `BigInt`. -/
def naturalText (n : Nat) : JsString := (figures 10 n).map digitUnit

/-- `n.toString()`. -/
def bigIntText (n : Int) : JsString :=
  if n < 0 then minusSign :: naturalText n.natAbs else naturalText n.natAbs

theorem isDigits_naturalText (n : Nat) : IsDigits (naturalText n) :=
  isDigits_map_digitUnit fun _ hd => figures_lt (by decide) hd

theorem naturalText_ne_nil (n : Nat) : naturalText n ≠ [] := by
  rw [naturalText, Ne, List.map_eq_nil_iff]
  exact figures_ne_nil n

theorem digitsValue_naturalText (n : Nat) : digitsValue (naturalText n) = n := by
  rw [naturalText, digitsValue_map_digitUnit fun _ hd => figures_lt (by decide) hd,
    numeral_figures]

theorem length_naturalText_le {n k : Nat} (hk : 0 < k) (hn : n < 10 ^ k) :
    (naturalText n).length ≤ k := by
  rw [naturalText, List.length_map]
  exact length_figures_le (by decide) hk hn

/-- `BigInt(n.toString())` is `n`. -/
theorem bigInt?_bigIntText (n : Int) : bigInt? (bigIntText n) = some n := by
  unfold bigIntText
  split_ifs with hn
  · rw [bigInt?_minusSign (naturalText_ne_nil _) (isDigits_naturalText _),
      digitsValue_naturalText]
    congr 1
    omega
  · rw [bigInt?_of_isDigits (naturalText_ne_nil _) (isDigits_naturalText _),
      digitsValue_naturalText]
    congr 1
    omega

end LuxLedger.Javascript
