/-
  Credit/HoldLegs.lean --- exchanging legs of a hold, or of what is posted for it.

  The consistency check compares totals over the legs of a hold with totals over the
  posted ones.  When some of the legs are exchanged for others, a hold that was consistent
  stays so exactly when the exchanged legs have the right totals.
-/
import LuxLedger.Credit.HoldAccounting
import Mathlib.Tactic.LinearCombination

set_option autoImplicit false

namespace LuxLedger.Credit

open LuxLedger.Schema LuxLedger.Relational

/-! ## Exchanging the legs of a hold

`taken` are the legs that are taken away and `given` those that take their place. -/

/-- The legs exchanged among those posted for a hold add up to the same for every account
and sign; after a hold is voided, they may differ by a further part of the hold. -/
structure PostedExchange (hold : Hold) (original posted taken given : List Leg) : Prop where
  balanced : netTotal given = netTotal taken
  captured : debitTotal given = debitTotal taken ∨ (hold.state = .voided ∧
    debitTotal posted + (debitTotal given - debitTotal taken) < hold.originalAmountMinor)
  proportional : ∀ account side,
    (sideTotal given account side - sideTotal taken account side) * hold.originalAmountMinor =
      sideTotal original account side * (debitTotal given - debitTotal taken)

/-- The legs exchanged among those of the hold itself add up to the same, account by
account once anything is posted. -/
structure OriginalExchange (posted taken given : List Leg) : Prop where
  total : debitTotal given = debitTotal taken
  balanced : netTotal given = netTotal taken
  proportional : debitTotal posted = 0 ∨
    ∀ account side, sideTotal given account side = sideTotal taken account side

section Exchange

variable {hold : Hold} {original original' posted posted' taken given : List Leg}

/-- A total over the legs changes by what is exchanged. -/
theorem sumWhere_exchange {legs legs' : List Leg} (h : (legs' ++ taken).Perm (legs ++ given))
    (p : Leg → Bool) (f : Leg → Int) :
    sumWhere legs' p f = sumWhere legs p f + (sumWhere given p f - sumWhere taken p f) := by
  have hsum := sumWhere_perm (p := p) (f := f) h
  rw [sumWhere_append, sumWhere_append] at hsum
  omega

theorem legsAgree_posted_iff (h : LegsAgree hold original posted)
    (hperm : (posted' ++ taken).Perm (posted ++ given)) :
    LegsAgree hold original posted' ↔ PostedExchange hold original posted taken given := by
  have hnet : netTotal posted' = netTotal posted + (netTotal given - netTotal taken) :=
    sumWhere_exchange hperm _ _
  have hdebit : debitTotal posted' = debitTotal posted + (debitTotal given - debitTotal taken) :=
    sumWhere_exchange hperm _ _
  have hside : ∀ account side, sideTotal posted' account side = sideTotal posted account side +
      (sideTotal given account side - sideTotal taken account side) :=
    fun _ _ => sumWhere_exchange hperm _ _
  have hposted := h.postedBalanced
  constructor
  · intro h'
    refine ⟨?_, ?_, ?_⟩
    · have := h'.postedBalanced
      omega
    · -- a held or applied hold fixes what is captured
      cases hstate : hold.state with
      | held =>
          have := h.held hstate
          have := h'.held hstate
          exact Or.inl (by omega)
      | applied =>
          have := h.applied hstate
          have := h'.applied hstate
          exact Or.inl (by omega)
      | voided =>
          have hlt := h'.voided hstate
          rw [hdebit] at hlt
          exact Or.inr ⟨rfl, hlt⟩
    · intro account side
      have hold' := h'.proportional account side
      rw [hside, hdebit] at hold'
      linear_combination hold' - h.proportional account side
  · intro hexchange
    have hbalanced := hexchange.balanced
    refine ⟨h.total, h.balanced, by omega, ?_, ?_, ?_, ?_, ?_⟩
    · have := h.postedLe
      rcases hexchange.captured with heq | ⟨-, hlt⟩ <;> omega
    · intro hheld
      rcases hexchange.captured with heq | ⟨hvoided, -⟩
      · have := h.held hheld
        omega
      · rw [hheld] at hvoided
        cases hvoided
    · intro happlied
      rcases hexchange.captured with heq | ⟨hvoided, -⟩
      · have := h.applied happlied
        omega
      · rw [happlied] at hvoided
        cases hvoided
    · intro hvoided
      have := h.voided hvoided
      rcases hexchange.captured with heq | ⟨-, hlt⟩ <;> omega
    · intro account side
      rw [hside, hdebit]
      linear_combination h.proportional account side + hexchange.proportional account side

theorem legsAgree_original_iff (h : LegsAgree hold original posted)
    (hperm : (original' ++ taken).Perm (original ++ given)) :
    LegsAgree hold original' posted ↔ OriginalExchange posted taken given := by
  have hnet : netTotal original' = netTotal original + (netTotal given - netTotal taken) :=
    sumWhere_exchange hperm _ _
  have hdebit : debitTotal original' =
      debitTotal original + (debitTotal given - debitTotal taken) := sumWhere_exchange hperm _ _
  have hside : ∀ account side, sideTotal original' account side =
      sideTotal original account side +
        (sideTotal given account side - sideTotal taken account side) :=
    fun _ _ => sumWhere_exchange hperm _ _
  have htotal := h.total
  have hbalanced := h.balanced
  constructor
  · intro h'
    have htotal' := h'.total
    have hbalanced' := h'.balanced
    refine ⟨by omega, by omega, or_iff_not_imp_left.mpr fun hposted account side => ?_⟩
    have hproportional' := h'.proportional account side
    rw [hside, h.proportional account side] at hproportional'
    have hzero : (sideTotal given account side - sideTotal taken account side) *
        debitTotal posted = 0 := by linear_combination - hproportional'
    rcases mul_eq_zero.mp hzero with hsame | hnone
    · omega
    · exact absurd hnone hposted
  · intro hexchange
    have htotal' := hexchange.total
    have hbalanced' := hexchange.balanced
    refine ⟨by omega, by omega, h.postedBalanced, h.postedLe, h.held, h.applied, h.voided, ?_⟩
    intro account side
    rw [hside, h.proportional account side]
    rcases hexchange.proportional with hnone | hsame
    · rw [hnone, mul_zero, mul_zero]
    · rw [hsame account side, sub_self, add_zero]

/-- Legs exchanged for the same legs. -/
theorem OriginalExchange.of_eq (h : given = taken) : OriginalExchange posted taken given :=
  ⟨congrArg debitTotal h, congrArg netTotal h, Or.inr fun account side =>
    congrArg (fun legs => sideTotal legs account side) h⟩

end Exchange

/-! ## Every hold -/

/-- A condition on every consistent hold with one of the `rows` on a grant-enabled account. -/
def ForEachHold (s : Db) (rows : List HoldEntry) (p : Hold → Prop) : Prop :=
  ∀ he ∈ rows, s.grantEnabled he.tenantId he.accountId = true →
    ∀ hold, s.tenantHold? he.tenantId he.holdId = some hold →
      assertGrantHoldConsistent s he.tenantId he.holdId = .ok () → p hold

/-- The holds stay consistent exactly when those that touch grants afterwards do, and for
these it comes down to their legs. -/
theorem holdsKept_iff (s s' : Db) (rows : List HoldEntry) {p : Hold → Prop}
    (hrows : ∀ he ∈ rows, he ∈ s.holdEntries)
    (hholds : ∀ t holdId, s'.tenantHold? t holdId = s.tenantHold? t holdId)
    (htouches : ∀ t holdId, s'.holdTouchesGrants t holdId = true ↔
      ∃ he ∈ rows, he.tenantId = t ∧ he.holdId = holdId ∧
        s.grantEnabled he.tenantId he.accountId = true)
    (hlegs : ∀ hold : Hold,
      LegsAgree hold (s.originalLegs hold.tenantId hold.id) (s.postedLegs hold.tenantId hold.id) →
        (LegsAgree hold (s'.originalLegs hold.tenantId hold.id)
          (s'.postedLegs hold.tenantId hold.id) ↔ p hold)) :
    (∀ t holdId, assertGrantHoldConsistent s t holdId = .ok () →
      assertGrantHoldConsistent s' t holdId = .ok ()) ↔ ForEachHold s rows p := by
  constructor
  · intro hkept he hhe henabled hold hhold hconsistent
    have htouch := holdTouchesGrants_of_mem (hrows he hhe) henabled
    have htouch' := (htouches _ _).mpr ⟨he, hhe, rfl, rfl, henabled⟩
    obtain ⟨hold₀, hfound, hagree⟩ :=
      (assertGrantHoldConsistent_eq_ok_iff htouch).mp hconsistent
    obtain rfl := Option.some.inj (hhold.symm.trans hfound)
    obtain ⟨hold₁, hfound', hagree'⟩ :=
      (assertGrantHoldConsistent_eq_ok_iff htouch').mp (hkept _ _ hconsistent)
    rw [hholds, hhold] at hfound'
    obtain rfl := Option.some.inj hfound'
    obtain ⟨-, htenant, hid⟩ := tenantHold?_eq_some hhold
    rw [← htenant, ← hid] at hagree hagree'
    exact (hlegs hold hagree).mp hagree'
  · intro hall t holdId hconsistent
    cases htouch' : s'.holdTouchesGrants t holdId with
    | false =>
        unfold assertGrantHoldConsistent
        rw [if_pos (by simp [htouch'])]
    | true =>
        obtain ⟨he, hhe, rfl, rfl, henabled⟩ := (htouches t holdId).mp htouch'
        have htouch := holdTouchesGrants_of_mem (hrows he hhe) henabled
        obtain ⟨hold, hhold, hagree⟩ :=
          (assertGrantHoldConsistent_eq_ok_iff htouch).mp hconsistent
        obtain ⟨-, htenant, hid⟩ := tenantHold?_eq_some hhold
        have hp : p hold := hall he hhe henabled hold hhold hconsistent
        rw [← htenant, ← hid] at hagree
        have hagree' := (hlegs hold hagree).mpr hp
        rw [htenant, hid] at hagree'
        exact (assertGrantHoldConsistent_eq_ok_iff htouch').mpr
          ⟨hold, (hholds _ _).trans hhold, hagree'⟩

end LuxLedger.Credit
