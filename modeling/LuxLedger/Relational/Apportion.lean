/-
  Relational/Apportion.lean --- taking an amount from several capacities.

  The capacities are used up in their order, each as far as it goes, until the amount is
  taken.  That succeeds exactly if the capacities together are enough; and no other way of
  taking from them gets further.
-/
import Mathlib.Algebra.Order.Group.Int
import Mathlib.Data.List.Nodup
import LuxLedger.Relational.Rows

set_option autoImplicit false

namespace LuxLedger.Relational

variable {κ : Type}

/-- What is taken from each, first come first served. -/
def apportion (amount : Int) : List (κ × Int) → List (κ × Int)
  | [] => []
  | (k, capacity) :: rest =>
      if min amount capacity ≤ 0 then apportion amount rest
      else (k, min amount capacity) :: apportion (amount - min amount capacity) rest

/-- The amount that a list of shares or of capacities makes up. -/
def shareTotal (shares : List (κ × Int)) : Int := (shares.map (·.2)).sum

@[simp] theorem shareTotal_nil : shareTotal ([] : List (κ × Int)) = 0 := rfl

@[simp] theorem shareTotal_cons (share : κ × Int) (rest : List (κ × Int)) :
    shareTotal (share :: rest) = share.2 + shareTotal rest := List.sum_cons

theorem shareTotal_nonneg {shares : List (κ × Int)} (h : ∀ share ∈ shares, 0 ≤ share.2) :
    0 ≤ shareTotal shares := by
  induction shares with
  | nil => exact le_refl 0
  | cons share rest ih =>
      rw [shareTotal_cons]
      exact add_nonneg (h share List.mem_cons_self)
        (ih fun c hc => h c (List.mem_cons_of_mem share hc))

/-- One share is at most the whole. -/
theorem le_shareTotal {shares : List (κ × Int)} (h : ∀ share ∈ shares, 0 ≤ share.2)
    {share : κ × Int} (hshare : share ∈ shares) : share.2 ≤ shareTotal shares := by
  refine List.single_le_sum (List.forall_mem_map.mpr h) share.2 ?_
  exact List.mem_map_of_mem hshare

section Apportion

variable {amount : Int} {capacities : List (κ × Int)}

/-- Each is asked once. -/
theorem apportion_keys :
    ((apportion amount capacities).map (·.1)).Sublist (capacities.map (·.1)) := by
  induction capacities generalizing amount with
  | nil => exact List.Sublist.refl _
  | cons c rest ih =>
      rw [apportion]
      split
      · exact ih.cons _
      · exact ih.cons_cons _

/-- A share is positive and within the capacity that it is taken from. -/
theorem mem_apportion {share : κ × Int} (h : share ∈ apportion amount capacities) :
    ∃ capacity, (share.1, capacity) ∈ capacities ∧ 0 < share.2 ∧ share.2 ≤ capacity := by
  induction capacities generalizing amount with
  | nil => cases h
  | cons c rest ih =>
      rw [apportion] at h
      split at h
      · obtain ⟨capacity, hmem, hshare⟩ := ih h
        exact ⟨capacity, List.mem_cons_of_mem c hmem, hshare⟩
      · rename_i hpos
        rcases List.mem_cons.mp h with rfl | h
        · exact ⟨c.2, List.mem_cons_self, not_le.mp hpos, min_le_right amount c.2⟩
        · obtain ⟨capacity, hmem, hshare⟩ := ih h
          exact ⟨capacity, List.mem_cons_of_mem c hmem, hshare⟩

/-- What the capacities have is taken. -/
theorem shareTotal_apportion (hnonneg : ∀ c ∈ capacities, 0 ≤ c.2) (hamount : 0 ≤ amount)
    (hle : amount ≤ shareTotal capacities) : shareTotal (apportion amount capacities) = amount := by
  induction capacities generalizing amount with
  | nil => exact le_antisymm hamount hle
  | cons c rest ih =>
      have hc : 0 ≤ c.2 := hnonneg c List.mem_cons_self
      have hrest := fun c' hc' => hnonneg c' (List.mem_cons_of_mem c hc')
      have hmore : 0 ≤ shareTotal rest := shareTotal_nonneg hrest
      rw [shareTotal_cons] at hle
      rw [apportion]
      split
      · exact ih hrest hamount (by omega)
      · rw [shareTotal_cons, ih hrest (by omega) (by omega)]
        omega

end Apportion

section Bound

variable [DecidableEq κ] {α : Type} {key : α → κ} {rows : List α} {p : α → Bool}
  {capacity : α → Int} {shares : List (κ × Int)}

/-- What is taken from one. -/
def shareOf (shares : List (κ × Int)) (k : κ) : Int :=
  sumWhere shares (fun share => share.1 = k) (·.2)

theorem shareOf_eq (honce : UniqueKey Prod.fst shares) {share : κ × Int} (h : share ∈ shares) :
    shareOf shares share.1 = share.2 := by
  rw [shareOf, sumWhere, honce.filter_eq_singleton h, List.map_singleton, List.sum_singleton]

theorem shareOf_eq_zero {k : κ} (h : ∀ share ∈ shares, share.1 ≠ k) : shareOf shares k = 0 :=
  sumWhere_eq_zero fun share hmem hk => absurd (of_decide_eq_true hk) (h share hmem)

/-- All that is taken is what is taken from each. -/
theorem sumWhere_shareOf (hkeys : UniqueKey key rows)
    (hshare : ∀ share ∈ shares, ∃ r ∈ rows, p r = true ∧ key r = share.1) :
    sumWhere rows p (fun r => shareOf shares (key r)) = shareTotal shares := by
  have hgroups := @sumWhere_groups _ _ _ _ shares rows (fun _ => true) (·.2) Prod.fst key p hkeys
    fun share hmem _ => hshare share hmem
  simp only [Bool.true_and] at hgroups
  have htotal : sumWhere shares (fun _ => true) (·.2) = shareTotal shares := by
    rw [sumWhere, List.filter_true, shareTotal]
  exact hgroups.trans htotal

/-- Whatever is taken, from each at most what it has, they have together. -/
theorem shareTotal_le_sumWhere (hkeys : UniqueKey key rows) (honce : UniqueKey Prod.fst shares)
    (hnonneg : ∀ r ∈ rows, p r = true → 0 ≤ capacity r)
    (hshare : ∀ share ∈ shares, ∃ r ∈ rows, p r = true ∧ key r = share.1 ∧
      share.2 ≤ capacity r) : shareTotal shares ≤ sumWhere rows p capacity := by
  rw [← sumWhere_shareOf (p := p) hkeys fun share hmem =>
    (hshare share hmem).imp fun r hr => ⟨hr.1, hr.2.1, hr.2.2.1⟩]
  refine sumWhere_le_sumWhere (fun _ _ hp => hp) (fun r hr hp => ?_) hnonneg
  by_cases htaken : ∃ share ∈ shares, share.1 = key r
  · obtain ⟨share, hmem, hk⟩ := htaken
    obtain ⟨r', hr', -, hk', hle⟩ := hshare share hmem
    obtain rfl := List.inj_on_of_nodup_map hkeys hr' hr (hk'.trans hk)
    rw [← hk, shareOf_eq honce hmem]
    exact hle
  · rw [shareOf_eq_zero fun share hmem hk => htaken ⟨share, hmem, hk⟩]
    exact hnonneg r hr hp

omit [DecidableEq κ] in
/-- And up to what they have together, any amount is shared out over them. -/
theorem exists_shares (hkeys : UniqueKey key rows)
    (hnonneg : ∀ r ∈ rows, p r = true → 0 ≤ capacity r) {amount : Int} (hamount : 0 ≤ amount)
    (hle : amount ≤ sumWhere rows p capacity) :
    ∃ shares : List (κ × Int), UniqueKey Prod.fst shares ∧
      (∀ share ∈ shares, 0 < share.2 ∧ ∃ r ∈ rows, p r = true ∧ key r = share.1 ∧
        share.2 ≤ capacity r) ∧ shareTotal shares = amount := by
  have htotal : shareTotal ((rows.filter p).map fun r => (key r, capacity r)) =
      sumWhere rows p capacity := by
    rw [shareTotal, List.map_map]
    rfl
  refine ⟨apportion amount ((rows.filter p).map fun r => (key r, capacity r)), ?_,
    fun share hshare => ?_, ?_⟩
  · refine List.Nodup.sublist apportion_keys ?_
    rw [List.map_map]
    exact hkeys.sublist List.filter_sublist
  · obtain ⟨c, hmem, hpos, hcapacity⟩ := mem_apportion hshare
    obtain ⟨r, hr, hpair⟩ := List.mem_map.mp hmem
    obtain ⟨hrow, hp⟩ := List.mem_filter.mp hr
    obtain ⟨hk, rfl⟩ := Prod.mk.inj hpair
    exact ⟨hpos, r, hrow, hp, hk, hcapacity⟩
  · refine shareTotal_apportion ?_ hamount (hle.trans_eq htotal.symm)
    rw [List.forall_mem_map]
    exact fun r hr => hnonneg r (List.mem_filter.mp hr).1 (List.mem_filter.mp hr).2

end Bound

end LuxLedger.Relational
