/-
  Javascript/Utf16.lean --- UTF-16 as a prefix code.

  No character is written by the beginning of what another one is written by, since a
  character is no surrogate.  So a text is known from its code units, and so is what it
  starts with.
-/
import LuxLedger.Javascript.CodeUnits
import Mathlib.Tactic.Common

set_option autoImplicit false

namespace LuxLedger.Javascript

theorem units_append (s t : String) : units (s ++ t) = units s ++ units t := by
  rw [units, units, units, String.toList_append, List.flatMap_append]

/-- A character is no surrogate. -/
theorem toNat_char (c : Char) :
    c.toNat < 0xD800 ∨ (0xDFFF < c.toNat ∧ c.toNat < 0x110000) := c.valid

theorem ofNat_codeUnit_inj {m n : Nat} (hm : m < 0x10000) (hn : n < 0x10000)
    (h : UInt16.ofNat m = UInt16.ofNat n) : m = n := by
  have hsame := congrArg UInt16.toNat h
  rw [UInt16.toNat_ofNat', UInt16.toNat_ofNat'] at hsame
  omega

/-- The first character is read off, and what comes after it. -/
theorem encodeChar_append_inj {c d : Char} {s t : JsString}
    (h : encodeChar c ++ s = encodeChar d ++ t) : c = d ∧ s = t := by
  have hc := toNat_char c
  have hd := toNat_char d
  unfold encodeChar at h
  split at h <;> split at h
  · obtain ⟨hfirst, hrest⟩ := List.cons.inj h
    exact ⟨Char.toNat_inj.mp (ofNat_codeUnit_inj (by omega) (by omega) hfirst), hrest⟩
  · -- a single unit is no high surrogate
    have hfirst := ofNat_codeUnit_inj (by omega) (by omega) (List.cons.inj h).1
    omega
  · have hfirst := ofNat_codeUnit_inj (by omega) (by omega) (List.cons.inj h).1
    omega
  · obtain ⟨hfirst, hrest⟩ := List.cons.inj h
    obtain ⟨hsecond, hrest⟩ := List.cons.inj hrest
    have hhigh := ofNat_codeUnit_inj (by omega) (by omega) hfirst
    have hlow := ofNat_codeUnit_inj (by omega) (by omega) hsecond
    exact ⟨Char.toNat_inj.mp (by omega), hrest⟩

theorem encodeChar_ne_nil (c : Char) : encodeChar c ≠ [] := by
  unfold encodeChar
  split <;> exact List.cons_ne_nil _ _

/-- A code unit below the surrogates is that of its own character only. -/
theorem eq_of_mem_encodeChar {c d : Char} (hd : d.toNat < 0xD800)
    (h : UInt16.ofNat d.toNat ∈ encodeChar c) : c = d := by
  have hc := toNat_char c
  unfold encodeChar at h
  split_ifs at h with hone
  · have hsame := ofNat_codeUnit_inj (by omega) hone (List.mem_singleton.mp h)
    exact Char.toNat_inj.mp hsame.symm
  · simp only [List.mem_cons, List.not_mem_nil, or_false] at h
    rcases h with hhigh | hlow
    · have hsame := ofNat_codeUnit_inj (by omega) (by omega) hhigh
      omega
    · have hsame := ofNat_codeUnit_inj (by omega) (by omega) hlow
      omega

/-- A text starts with another one exactly if its code units do. -/
theorem units_prefix_iff {s t : String} : units s <+: units t ↔ s.toList <+: t.toList := by
  constructor
  · unfold units
    generalize s.toList = cs, t.toList = ds
    intro h
    induction cs generalizing ds with
    | nil => exact List.nil_prefix
    | cons c rest ih =>
        cases ds with
        | nil =>
            rw [List.flatMap_cons, List.flatMap_nil, List.prefix_nil, List.append_eq_nil_iff] at h
            exact absurd h.1 (encodeChar_ne_nil c)
        | cons d more =>
            obtain ⟨left, hleft⟩ := h
            rw [List.flatMap_cons, List.flatMap_cons, List.append_assoc] at hleft
            obtain ⟨rfl, hrest⟩ := encodeChar_append_inj hleft
            exact List.cons_prefix_cons.mpr ⟨rfl, ih more ⟨left, hrest⟩⟩
  · rintro ⟨rest, hrest⟩
    exact ⟨rest.flatMap encodeChar, by rw [units, units, ← List.flatMap_append, hrest]⟩

@[simp] theorem units_inj {s t : String} : units s = units t ↔ s = t := by
  refine ⟨fun h => ?_, congrArg units⟩
  have hst := units_prefix_iff.mp (h ▸ List.prefix_rfl : units s <+: units t)
  have hts := units_prefix_iff.mp (h ▸ List.prefix_rfl : units t <+: units s)
  exact String.toList_inj.mp (hst.eq_of_length (Nat.le_antisymm hst.length_le hts.length_le))

end LuxLedger.Javascript
