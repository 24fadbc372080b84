/-
  Relational/Rows.lean --- tables as lists of rows: lookups by a unique key and
  aggregate sums.

  A table is the list of its rows in insertion order.  `lookup` is a read through
  a unique index, `sumWhere` is `coalesce(sum(x) FILTER (WHERE p), 0)`.  What the
  development needs of them is that lookups survive appends, that a sum splits
  over an append, and that summing group by group over a uniquely keyed list of
  groups is summing once.
-/
import Mathlib.Algebra.BigOperators.Group.List.Basic
import Mathlib.Algebra.Order.BigOperators.Group.List
import Mathlib.Data.List.Nodup
import Mathlib.Data.List.MinMax
import Mathlib.Tactic.Ring
import Mathlib.Tactic.Linarith

set_option autoImplicit false

namespace LuxLedger.Relational

/-! ## The order of the integers

Instances that sums, maxima and absolute values compute with, ahead of those that a
wider import finds first. -/

instance intPreorder : Preorder Int := Int.instLinearOrder.toPartialOrder.toPreorder

instance intLattice : Lattice Int := @LinearOrder.toLattice Int Int.instLinearOrder

variable {α β κ : Type}

/-! ## Lookups through a unique key -/

/-- The row stored under a key, read through its unique index. -/
def lookup [DecidableEq κ] (key : α → κ) (rows : List α) (k : κ) : Option α :=
  rows.find? fun r => key r = k

/-- No two rows share a key. -/
def UniqueKey (key : α → κ) (rows : List α) : Prop := (rows.map key).Nodup

instance uniqueKeyDecidable [DecidableEq κ] (key : α → κ) (rows : List α) :
    Decidable (UniqueKey key rows) := inferInstanceAs (Decidable (List.Nodup _))

section Lookup

variable [DecidableEq κ] {key : α → κ} {rows : List α} {k : κ} {r : α}

theorem mem_of_lookup (h : lookup key rows k = some r) : r ∈ rows :=
  List.mem_of_find?_eq_some h

theorem key_of_lookup (h : lookup key rows k = some r) : key r = k := by
  simpa using List.find?_some h

theorem lookup_eq_none_iff : lookup key rows k = none ↔ ∀ r ∈ rows, key r ≠ k := by
  simp [lookup]

/-- A row that is already there is found again after more rows are appended. -/
theorem lookup_append_of_some {more : List α} (h : lookup key rows k = some r) :
    lookup key (rows ++ more) k = some r := by
  unfold lookup at h ⊢
  rw [List.find?_append, h]
  rfl

theorem lookup_append_of_none {more : List α} (h : lookup key rows k = none) :
    lookup key (rows ++ more) k = lookup key more k := by
  unfold lookup at h ⊢
  rw [List.find?_append, h]
  rfl

/-- Under a unique key the lookup finds the one row that carries it. -/
theorem lookup_eq_some_iff (hkey : UniqueKey key rows) :
    lookup key rows k = some r ↔ r ∈ rows ∧ key r = k := by
  constructor
  · intro h
    exact ⟨mem_of_lookup h, key_of_lookup h⟩
  · rintro ⟨hr, rfl⟩
    cases hfind : lookup key rows (key r) with
    | none => exact absurd rfl (lookup_eq_none_iff.mp hfind r hr)
    | some r' =>
        have hkeys : key r' = key r := key_of_lookup hfind
        rw [List.inj_on_of_nodup_map hkey (mem_of_lookup hfind) hr hkeys]

theorem lookup_key (hkey : UniqueKey key rows) (hr : r ∈ rows) :
    lookup key rows (key r) = some r :=
  (lookup_eq_some_iff hkey).mpr ⟨hr, rfl⟩

/-- A map that keeps the key of every row maps the row a lookup finds. -/
theorem lookup_map {f : α → β} {key' : β → κ} (hf : ∀ r ∈ rows, key' (f r) = key r) :
    lookup key' (rows.map f) k = (lookup key rows k).map f := by
  induction rows with
  | nil => rfl
  | cons a rest ih =>
      have hrest := ih fun r hr => hf r (List.mem_cons_of_mem _ hr)
      have ha : key' (f a) = key a := hf a List.mem_cons_self
      unfold lookup at hrest ⊢
      rw [List.map_cons, List.find?_cons, List.find?_cons, hrest, ha]
      split <;> rfl

end Lookup

section UniqueKey

variable {key : α → κ} {rows : List α} {r : α}

theorem UniqueKey.append_singleton (hkey : UniqueKey key rows)
    (hfresh : ∀ r' ∈ rows, key r' ≠ key r) : UniqueKey key (rows ++ [r]) := by
  unfold UniqueKey at hkey ⊢
  rw [List.map_append, List.nodup_append]
  refine ⟨hkey, by simp, ?_⟩
  intro k' hk' k'' hk''
  obtain ⟨r', hr', rfl⟩ := List.mem_map.mp hk'
  rw [List.map_singleton, List.mem_singleton] at hk''
  rw [hk'']
  exact hfresh r' hr'

theorem UniqueKey.map {f : α → α} (hkey : UniqueKey key rows)
    (hf : ∀ r ∈ rows, key (f r) = key r) : UniqueKey key (rows.map f) := by
  unfold UniqueKey at hkey ⊢
  rw [List.map_map, List.map_congr_left (g := key) (by simpa using hf)]
  exact hkey

theorem UniqueKey.sublist {rows' : List α} (hkey : UniqueKey key rows) (h : rows'.Sublist rows) :
    UniqueKey key rows' :=
  List.Nodup.sublist (h.map key) hkey

theorem UniqueKey.some (hkey : UniqueKey key rows) :
    UniqueKey (fun r => Option.some (key r)) rows := by
  have hsome := List.Nodup.map (Option.some_injective κ) hkey
  rw [List.map_map] at hsome
  exact hsome

/-- Under a unique key one row carries a key. -/
theorem UniqueKey.filter_eq_singleton [DecidableEq κ] (hkey : UniqueKey key rows) (hr : r ∈ rows) :
    (rows.filter fun r' => key r' = key r) = [r] := by
  induction rows with
  | nil => simp at hr
  | cons a rest ih =>
      have hrest : UniqueKey key rest := (List.nodup_cons.mp hkey).2
      have ha : key a ∉ rest.map key := (List.nodup_cons.mp hkey).1
      rcases List.mem_cons.mp hr with rfl | hmem
      · have hnone : (rest.filter fun r' => key r' = key r) = [] := by
          rw [List.filter_eq_nil_iff]
          intro r' hr' heq
          exact ha (of_decide_eq_true heq ▸ List.mem_map_of_mem hr')
        rw [List.filter_cons_of_pos (by simp), hnone]
      · have hne : key a ≠ key r := fun heq => ha (heq ▸ List.mem_map_of_mem hmem)
        rw [List.filter_cons_of_neg (by simpa using hne), ih hrest hmem]

/-- Replacing a row that a filter leaves out adds at most the new row to what it
keeps. -/
theorem UniqueKey.filter_replace_perm [DecidableEq κ] {p : α → Bool}
    (hkey : UniqueKey key rows) (hr : r ∈ rows) (hp : p r = false) (new : α) :
    ((rows.map fun r' => if key r' = key r then new else r').filter p).Perm
      (rows.filter p ++ if p new then [new] else []) := by
  induction rows with
  | nil => simp at hr
  | cons a rest ih =>
      have hrest : UniqueKey key rest := (List.nodup_cons.mp hkey).2
      have ha : key a ∉ rest.map key := (List.nodup_cons.mp hkey).1
      rw [List.map_cons]
      rcases List.mem_cons.mp hr with rfl | hmem
      · -- the replaced row is the head, and the tail is left alone
        have htail : (rest.map fun r' => if key r' = key r then new else r') = rest := by
          conv_rhs => rw [← List.map_id rest]
          refine List.map_congr_left fun r' hr' => if_neg ?_
          exact fun heq => ha (heq ▸ List.mem_map_of_mem hr')
        rw [if_pos rfl, htail, List.filter_cons_of_neg (a := r) (by simp [hp])]
        by_cases hnew : p new = true
        · rw [List.filter_cons_of_pos hnew, if_pos hnew]
          exact (List.perm_append_singleton new _).symm
        · rw [List.filter_cons_of_neg hnew, if_neg hnew, List.append_nil]
      · have hne : key a ≠ key r := fun heq => ha (heq ▸ List.mem_map_of_mem hmem)
        rw [if_neg hne]
        by_cases hpa : p a = true
        · rw [List.filter_cons_of_pos hpa, List.filter_cons_of_pos hpa, List.cons_append]
          exact (ih hrest hmem).cons a
        · rw [List.filter_cons_of_neg hpa, List.filter_cons_of_neg hpa]
          exact ih hrest hmem

end UniqueKey

/-! ## Sums over the rows that satisfy a condition -/

/-- `coalesce(sum(value) FILTER (WHERE condition), 0)`. -/
def sumWhere (rows : List α) (condition : α → Bool) (value : α → Int) : Int :=
  ((rows.filter condition).map value).sum

section Sum

variable {rows : List α} {p q : α → Bool} {f g : α → Int}

@[simp] theorem sumWhere_nil : sumWhere [] p f = 0 := rfl

theorem sumWhere_cons (r : α) (rest : List α) :
    sumWhere (r :: rest) p f = (if p r then f r else 0) + sumWhere rest p f := by
  unfold sumWhere
  by_cases h : p r <;> simp [h]

@[simp] theorem sumWhere_append (more : List α) :
    sumWhere (rows ++ more) p f = sumWhere rows p f + sumWhere more p f := by
  simp [sumWhere]

theorem sumWhere_singleton (r : α) : sumWhere [r] p f = if p r then f r else 0 := by
  rw [sumWhere_cons]
  simp

/-- Only the rows of the table matter to a sum over it. -/
theorem sumWhere_congr (hp : ∀ r ∈ rows, p r = q r)
    (hf : ∀ r ∈ rows, q r = true → f r = g r) : sumWhere rows p f = sumWhere rows q g := by
  induction rows with
  | nil => rfl
  | cons r rest ih =>
      have hr : p r = q r := hp r List.mem_cons_self
      have hrest := ih (fun r' h => hp r' (List.mem_cons_of_mem _ h))
        (fun r' h => hf r' (List.mem_cons_of_mem _ h))
      rw [sumWhere_cons, sumWhere_cons, hrest, hr]
      by_cases hq : q r = true
      · rw [if_pos hq, if_pos hq, hf r List.mem_cons_self hq]
      · rw [if_neg hq, if_neg hq]

theorem sumWhere_map {f : β → Int} {p : β → Bool} (g : α → β) :
    sumWhere (rows.map g) p f = sumWhere rows (fun r => p (g r)) (fun r => f (g r)) := by
  unfold sumWhere
  rw [List.filter_map, List.map_map]
  rfl

theorem sumWhere_filter : sumWhere (rows.filter q) p f = sumWhere rows (fun r => p r && q r) f := by
  unfold sumWhere
  rw [List.filter_filter]

/-- A sum does not depend on the order of the rows. -/
theorem sumWhere_perm {rows' : List α} (h : rows.Perm rows') :
    sumWhere rows p f = sumWhere rows' p f :=
  List.Perm.sum_eq ((h.filter p).map f)

theorem sumWhere_eq_zero (h : ∀ r ∈ rows, p r = true → f r = 0) : sumWhere rows p f = 0 := by
  induction rows with
  | nil => rfl
  | cons r rest ih =>
      rw [sumWhere_cons, ih fun r' h' => h r' (List.mem_cons_of_mem _ h')]
      by_cases hp : p r = true
      · simp [hp, h r List.mem_cons_self hp]
      · simp [hp]

theorem sumWhere_nonneg (h : ∀ r ∈ rows, p r = true → 0 ≤ f r) : 0 ≤ sumWhere rows p f := by
  unfold sumWhere
  apply List.sum_nonneg
  intro x hx
  obtain ⟨r, hr, rfl⟩ := List.mem_map.mp hx
  obtain ⟨hmem, hp⟩ := List.mem_filter.mp hr
  exact h r hmem hp

theorem sumWhere_le_sumWhere (hpq : ∀ r ∈ rows, p r = true → q r = true)
    (hfg : ∀ r ∈ rows, p r = true → f r ≤ g r)
    (hg : ∀ r ∈ rows, q r = true → 0 ≤ g r) : sumWhere rows p f ≤ sumWhere rows q g := by
  induction rows with
  | nil => exact le_refl _
  | cons r rest ih =>
      have hrest := ih (fun r' h => hpq r' (List.mem_cons_of_mem _ h))
        (fun r' h => hfg r' (List.mem_cons_of_mem _ h))
        (fun r' h => hg r' (List.mem_cons_of_mem _ h))
      rw [sumWhere_cons, sumWhere_cons]
      by_cases hp : p r = true
      · have hq : q r = true := hpq r List.mem_cons_self hp
        have hle := hfg r List.mem_cons_self hp
        rw [if_pos hp, if_pos hq]
        omega
      · rw [if_neg hp]
        by_cases hq : q r = true
        · have hnonneg := hg r List.mem_cons_self hq
          rw [if_pos hq]
          omega
        · rw [if_neg hq]
          omega

/-- One row is at most the sum it is part of. -/
theorem le_sumWhere {r : α} (hr : r ∈ rows) (hp : p r = true)
    (hf : ∀ r' ∈ rows, p r' = true → 0 ≤ f r') : f r ≤ sumWhere rows p f := by
  unfold sumWhere
  apply List.single_le_sum
  · intro x hx
    obtain ⟨r', hr', rfl⟩ := List.mem_map.mp hx
    obtain ⟨hmem, hp'⟩ := List.mem_filter.mp hr'
    exact hf r' hmem hp'
  · exact List.mem_map.mpr ⟨r, List.mem_filter.mpr ⟨hr, hp⟩, rfl⟩

theorem exists_of_sumWhere_pos (h : 0 < sumWhere rows p f) : ∃ r ∈ rows, p r = true := by
  by_contra hno
  have hzero : sumWhere rows p f = 0 :=
    sumWhere_eq_zero fun r hr hp => absurd ⟨r, hr, hp⟩ hno
  omega

theorem sumWhere_add :
    sumWhere rows p (fun r => f r + g r) = sumWhere rows p f + sumWhere rows p g := by
  induction rows with
  | nil => rfl
  | cons r rest ih =>
      simp only [sumWhere_cons, ih]
      split <;> ring

theorem sumWhere_neg : sumWhere rows p (fun r => - f r) = - sumWhere rows p f := by
  induction rows with
  | nil => rfl
  | cons r rest ih =>
      simp only [sumWhere_cons, ih]
      split <;> ring

theorem sumWhere_sub :
    sumWhere rows p (fun r => f r - g r) = sumWhere rows p f - sumWhere rows p g := by
  simp only [sub_eq_add_neg, sumWhere_add, sumWhere_neg]

/-- A condition may be moved from the summand into the filter. -/
theorem sumWhere_ite {c : α → Prop} [DecidablePred c] :
    sumWhere rows p (fun r => if c r then f r else 0) =
      sumWhere rows (fun r => p r && decide (c r)) f := by
  induction rows with
  | nil => rfl
  | cons r rest ih =>
      simp only [sumWhere_cons, ih, Bool.and_eq_true]
      by_cases hp : p r = true <;> by_cases hc : c r <;> simp [hp, hc]

/-- A sum over a condition is the sums over the two halves of any other. -/
theorem sumWhere_split (q : α → Bool) :
    sumWhere rows p f =
      sumWhere rows (fun r => p r && q r) f + sumWhere rows (fun r => p r && !q r) f := by
  induction rows with
  | nil => rfl
  | cons r rest ih =>
      simp only [sumWhere_cons, ih]
      cases p r <;> cases q r <;> simp <;> ring

/-- Equal sums of summands that are pointwise ordered are equal summand by
summand. -/
theorem eq_of_sumWhere_le (hle : ∀ r ∈ rows, p r = true → f r ≤ g r)
    (hsum : sumWhere rows p g ≤ sumWhere rows p f) :
    ∀ r ∈ rows, p r = true → f r = g r := by
  intro r hr hp
  have hnonneg : ∀ r' ∈ rows, p r' = true → 0 ≤ g r' - f r' := by
    intro r' hr' hp'
    have := hle r' hr' hp'
    omega
  have hone := le_sumWhere (f := fun r => g r - f r) hr hp hnonneg
  rw [sumWhere_sub] at hone
  have := hle r hr hp
  omega

/-- If a smaller condition has the whole sum of positive values, it misses no row. -/
theorem holds_of_sumWhere_le (hpos : ∀ r ∈ rows, q r = true → 0 < f r)
    (hpq : ∀ r ∈ rows, p r = true → q r = true) (hsum : sumWhere rows q f ≤ sumWhere rows p f) :
    ∀ r ∈ rows, q r = true → p r = true := by
  intro r hr hq
  have hrestricted : sumWhere rows q (fun r => if p r = true then f r else 0) =
      sumWhere rows p f := by
    rw [sumWhere_ite]
    refine sumWhere_congr (fun r hr => ?_) fun _ _ _ => rfl
    cases hp : p r with
    | true => simp [hpq r hr hp]
    | false => simp
  have heq := eq_of_sumWhere_le (f := fun r => if p r = true then f r else 0) (g := f)
    (fun r hr hq => ?_) (hrestricted ▸ hsum) r hr hq
  · by_contra hp
    have := hpos r hr hq
    rw [if_neg hp] at heq
    omega
  · have := hpos r hr hq
    split <;> omega

end Sum

/-! ## Summing group by group -/

section Fiber

variable [DecidableEq κ] {rows : List α} {groups : List β} {key : α → κ} {groupKey : β → κ}
  {p : α → Bool} {q : β → Bool} {f : α → Int}

/-- Under a unique group key a row is counted in exactly one of the groups that
may contain it. -/
theorem sumWhere_groups_singleton (hgroups : UniqueKey groupKey groups) {v : Int} {k : κ}
    (hk : ∃ b ∈ groups, q b = true ∧ groupKey b = k) :
    sumWhere groups q (fun b => if k = groupKey b then v else 0) = v := by
  induction groups with
  | nil => simp at hk
  | cons b rest ih =>
      have hnodup : UniqueKey groupKey rest := (List.nodup_cons.mp hgroups).2
      have hb : groupKey b ∉ rest.map groupKey := (List.nodup_cons.mp hgroups).1
      rw [sumWhere_cons]
      by_cases heq : k = groupKey b
      · have hqb : q b = true := by
          obtain ⟨b', hb', hq', hk'⟩ := hk
          rcases List.mem_cons.mp hb' with rfl | hrest
          · exact hq'
          · exact absurd (List.mem_map_of_mem (f := groupKey) hrest) (by rw [hk', heq]; exact hb)
        have htail : sumWhere rest q (fun b' => if k = groupKey b' then v else 0) = 0 := by
          apply sumWhere_eq_zero
          intro b' hb' _
          have hne : k ≠ groupKey b' := by
            rintro rfl
            exact hb (heq ▸ List.mem_map_of_mem hb')
          simp [hne]
        rw [htail]
        simp [hqb, heq]
      · have hk' : ∃ b' ∈ rest, q b' = true ∧ groupKey b' = k := by
          obtain ⟨b', hb', hq', hkey'⟩ := hk
          rcases List.mem_cons.mp hb' with rfl | hrest
          · exact absurd hkey'.symm heq
          · exact ⟨b', hrest, hq', hkey'⟩
        rw [ih hnodup hk']
        simp [heq]

/-- Summing the rows of each group and then the groups is summing the rows,
when every row has its group and group keys are unique. -/
theorem sumWhere_groups (key : α → κ) (groupKey : β → κ) (q : β → Bool)
    (hgroups : UniqueKey groupKey groups)
    (hcover : ∀ r ∈ rows, p r = true → ∃ b ∈ groups, q b = true ∧ groupKey b = key r) :
    sumWhere groups q (fun b => sumWhere rows (fun r => p r && key r = groupKey b) f) =
      sumWhere rows p f := by
  induction rows with
  | nil => exact sumWhere_eq_zero fun _ _ _ => rfl
  | cons r rest ih =>
      have hrest := ih fun r' hr' => hcover r' (List.mem_cons_of_mem _ hr')
      have hsplit : sumWhere groups q
            (fun b => sumWhere (r :: rest) (fun r => p r && key r = groupKey b) f) =
          sumWhere groups q (fun b => if key r = groupKey b then (if p r then f r else 0) else 0) +
            sumWhere groups q
              (fun b => sumWhere rest (fun r => p r && key r = groupKey b) f) := by
        rw [← sumWhere_add]
        apply sumWhere_congr (fun _ _ => rfl)
        intro b _ _
        rw [sumWhere_cons]
        by_cases hp : p r = true <;> by_cases hk : key r = groupKey b <;> simp [hp, hk]
      rw [hsplit, hrest, sumWhere_cons]
      by_cases hp : p r = true
      · rw [sumWhere_groups_singleton hgroups (hcover r List.mem_cons_self hp)]
      · have hzero : sumWhere groups q
            (fun b => if key r = groupKey b then (if p r then f r else 0) else 0) = 0 := by
          apply sumWhere_eq_zero
          intro b _ _
          simp [hp]
        rw [hzero]
        simp [hp]

end Fiber

/-! ## The latest row -/

/-- `ORDER BY order DESC LIMIT 1`. -/
def latestBy (order : α → Int) (rows : List α) : Option α := rows.argmax order

theorem latestBy_mem {order : α → Int} {rows : List α} {r : α}
    (h : latestBy order rows = some r) : r ∈ rows :=
  List.argmax_mem h

/-- A row appended above the latest one is the latest. -/
theorem latestBy_concat {order : α → Int} {rows : List α} {r : α}
    (h : ∀ latest, latestBy order rows = some latest → order latest < order r) :
    latestBy order (rows ++ [r]) = some r := by
  unfold latestBy at h ⊢
  rw [List.argmax_concat]
  cases hlatest : rows.argmax order with
  | none => rfl
  | some latest => exact if_pos (h latest hlatest)

/-- A map that keeps the order of every row maps the latest row. -/
theorem latestBy_map {f : α → β} {order : β → Int} (rows : List α) :
    latestBy order (rows.map f) = (latestBy (fun r => order (f r)) rows).map f := by
  unfold latestBy
  induction rows using List.reverseRecOn with
  | nil => rfl
  | append_singleton rest r ih =>
      rw [List.map_append, List.map_singleton, List.argmax_concat, List.argmax_concat, ih]
      cases rest.argmax fun r => order (f r) with
      | none => rfl
      | some latest =>
          dsimp only [Option.map_some, Option.casesOn]
          split <;> rfl

end LuxLedger.Relational
