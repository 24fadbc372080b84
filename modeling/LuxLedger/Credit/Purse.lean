/-
  Credit/Purse.lean --- what the grants are for.

  Prepaid credit is a purse: each grant has an amount free, and each hold has an amount of
  each grant left.  Spending takes from what is free, reserving sets some of it aside for a
  hold, capturing draws from what is set aside and voiding gives it back.  An account can
  spend or reserve what its live grants have free together.
-/
import LuxLedger.Schema.Lineage
import LuxLedger.Relational.Apportion

set_option autoImplicit false

namespace LuxLedger.Credit

open LuxLedger.Schema LuxLedger.Relational

/-- What the grants of the tenants have free, and what the holds have left of them. -/
@[ext]
structure Purse where
  grants : List CreditGrant
  free : Uuid → Uuid → Int
  left : Uuid → Uuid → Int

instance (g : CreditGrant) (t : Timestamp) : Decidable (g.LiveAt t) :=
  inferInstanceAs (Decidable (∀ expiry ∈ g.expiresAt, t < expiry))

theorem liveAt_max {g : CreditGrant} {t u : Timestamp} :
    g.LiveAt (max t u) ↔ g.LiveAt t ∧ g.LiveAt u := by
  simp only [CreditGrant.LiveAt, max_lt_iff]
  exact forall₂_and

namespace Purse

/-- Grants are told apart by their ids, and nothing is overdrawn. -/
structure Sound (w : Purse) : Prop where
  once : UniqueKey CreditGrant.id w.grants
  free : ∀ t g, 0 ≤ w.free t g
  left : ∀ h g, 0 ≤ w.left h g

/-- What the grants of an account that are live at a time have free. -/
def spendable (w : Purse) (time : Timestamp) (tenantId accountId : Uuid) : Int :=
  sumWhere w.grants
    (fun g => g.tenantId = tenantId ∧ g.accountId = accountId ∧ g.LiveAt time)
    (fun g => w.free g.tenantId g.id)

/-- Shares are taken from what is free. -/
def take (w : Purse) (tenantId : Uuid) (shares : List (Uuid × Int)) : Purse :=
  { w with free := fun t g => w.free t g - if t = tenantId then shareOf shares g else 0 }

/-- And set aside for a hold. -/
def setAside (w : Purse) (tenantId holdId : Uuid) (shares : List (Uuid × Int)) : Purse :=
  { w.take tenantId shares with
    left := fun h g => w.left h g + if h = holdId then shareOf shares g else 0 }

/-- Shares are drawn from what a hold has left. -/
def draw (w : Purse) (holdId : Uuid) (shares : List (Uuid × Int)) : Purse :=
  { w with left := fun h g => w.left h g - if h = holdId then shareOf shares g else 0 }

/-- What a hold has left is free again. -/
def release (w : Purse) (tenantId holdId : Uuid) : Purse :=
  { w with
    free := fun t g => w.free t g + if t = tenantId then w.left holdId g else 0
    left := fun h g => if h = holdId then 0 else w.left h g }

/-- Shares of different live grants of an account that make up an amount; each grant has its
share free. -/
structure Split (w : Purse) (time : Timestamp) (tenantId accountId : Uuid) (amountMinor : Int)
    (shares : List (Uuid × Int)) : Prop where
  distinct : UniqueKey Prod.fst shares
  free : ∀ share ∈ shares, 0 < share.2 ∧ ∃ g ∈ w.grants, g.id = share.1 ∧
    g.tenantId = tenantId ∧ g.accountId = accountId ∧ g.LiveAt time ∧
    share.2 ≤ w.free g.tenantId g.id
  total : shareTotal shares = amountMinor

section Split

variable {w : Purse} (hw : w.Sound) {time : Timestamp} {tenantId accountId : Uuid}
  {amountMinor : Int} {shares : List (Uuid × Int)}
include hw

/-- What is split is spendable. -/
theorem Split.le_spendable (h : w.Split time tenantId accountId amountMinor shares) :
    amountMinor ≤ w.spendable time tenantId accountId := by
  rw [← h.total]
  refine shareTotal_le_sumWhere hw.once h.distinct
    (fun g _ _ => hw.free g.tenantId g.id) fun share hshare => ?_
  obtain ⟨-, g, hg, hid, htenant, haccount, hlive, hfree⟩ := h.free share hshare
  exact ⟨g, hg, decide_eq_true ⟨htenant, haccount, hlive⟩, hid, hfree⟩

/-- And what is spendable can be split. -/
theorem exists_split (hnonneg : 0 ≤ amountMinor)
    (hle : amountMinor ≤ w.spendable time tenantId accountId) :
    ∃ shares, w.Split time tenantId accountId amountMinor shares := by
  obtain ⟨shares, hdistinct, hfree, htotal⟩ := exists_shares hw.once
    (fun g _ _ => hw.free g.tenantId g.id) hnonneg hle
  refine ⟨shares, hdistinct, fun share hshare => ?_, htotal⟩
  obtain ⟨hpos, g, hg, hscope, hid, hfree⟩ := hfree share hshare
  obtain ⟨htenant, haccount, hlive⟩ := of_decide_eq_true hscope
  exact ⟨hpos, g, hg, hid, htenant, haccount, hlive, hfree⟩

/-- Taking the shares takes the amount from what the account can spend, and from no other
account. -/
theorem Split.spendable_take (h : w.Split time tenantId accountId amountMinor shares)
    (t a : Uuid) :
    (w.take tenantId shares).spendable time t a = w.spendable time t a -
      if t = tenantId ∧ a = accountId then amountMinor else 0 := by
  simp only [spendable, take, sumWhere_sub]
  congr 1
  by_cases hscope : t = tenantId ∧ a = accountId
  · obtain ⟨rfl, rfl⟩ := hscope
    rw [if_pos ⟨rfl, rfl⟩, ← h.total]
    refine Eq.trans (sumWhere_congr (fun _ _ => rfl) fun g _ hg => ?_)
      (sumWhere_shareOf hw.once fun share hmem => ?_)
    · exact if_pos (of_decide_eq_true hg).1
    · obtain ⟨-, g, hg, hid, htenant, haccount, hlive, -⟩ := h.free share hmem
      exact ⟨g, hg, decide_eq_true ⟨htenant, haccount, hlive⟩, hid⟩
  · rw [if_neg hscope]
    refine sumWhere_eq_zero fun g hg hcondition => ?_
    obtain ⟨rfl, rfl, -⟩ := of_decide_eq_true hcondition
    split_ifs with htenant
    · -- a share of this grant would put the grant on the account
      refine shareOf_eq_zero fun share hmem hid => hscope ?_
      obtain ⟨-, g', hg', hid', htenant', haccount', -⟩ := h.free share hmem
      obtain rfl := List.inj_on_of_nodup_map hw.once hg' hg (hid'.trans hid)
      exact ⟨htenant', haccount'⟩
    · rfl

end Split

/-- What is set aside for a new hold and released is as it was. -/
theorem release_setAside {w : Purse} {tenantId holdId : Uuid} {shares : List (Uuid × Int)}
    (hnew : ∀ g, w.left holdId g = 0) :
    (w.setAside tenantId holdId shares).release tenantId holdId = w := by
  ext t g
  · rfl
  · simp only [release, setAside, take, hnew, if_true, zero_add]
    split_ifs <;> omega
  · simp only [release, setAside]
    split_ifs with hsame
    · rw [hsame, hnew]
    · omega

end Purse

end LuxLedger.Credit
