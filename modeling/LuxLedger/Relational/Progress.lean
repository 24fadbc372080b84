/-
  Relational/Progress.lean --- when the rows of a statement are all accepted.

  Rows of different keys do not get in each other's way: what makes one of them
  acceptable is left alone by the writes of the others.
-/
import LuxLedger.Relational.Rows
import LuxLedger.Relational.Statement

set_option autoImplicit false

namespace LuxLedger.Relational

variable {σ ε ι ρ κ : Type}

section Fold

variable {step : σ → ι → Except ε σ} {key : ι → κ} {Ready : σ → ι → Prop}

/-- Steps on different keys are all made if each is ready at the start. -/
theorem foldlM_progress (haccept : ∀ s x, Ready s x → ∃ s', step s x = .ok s')
    (hkeep : ∀ s x y s', Ready s x → step s x = .ok s' → key x ≠ key y → Ready s y → Ready s' y)
    {xs : List ι} (hdistinct : UniqueKey key xs) {s : σ} (hready : ∀ x ∈ xs, Ready s x) :
    ∃ s', xs.foldlM step s = .ok s' := by
  induction xs generalizing s with
  | nil => exact ⟨s, rfl⟩
  | cons x rest ih =>
      have hx : Ready s x := hready x List.mem_cons_self
      obtain ⟨mid, hmid⟩ := haccept s x hx
      obtain ⟨hnew, hrest⟩ := List.nodup_cons.mp hdistinct
      obtain ⟨s', hs'⟩ := ih hrest fun y hy => by
        have hother : key x ≠ key y := fun hsame => hnew (hsame ▸ List.mem_map_of_mem hy)
        exact hkeep s x y mid hx hmid hother (hready y (List.mem_cons_of_mem x hy))
      exact ⟨s', foldlM_cons_eq_ok_iff.mpr ⟨mid, hmid, hs'⟩⟩

end Fold

section Insert

variable {check : σ → ρ → Except ε Unit} {put : σ → ρ → σ} {key : ρ → κ} {good : ρ → Prop}
  {rows : List ρ} {s : σ}

/-- Rows that refuse only their own key are inserted exactly if their keys differ and each
is good by itself. -/
theorem insertEach_accepted_iff
    (hrow : ∀ (before : List ρ) (r : ρ), (∀ b ∈ before, b ∈ rows) → r ∈ rows →
      (check (before.foldl put s) r = .ok () ↔ (∀ b ∈ before, key b ≠ key r) ∧ good r)) :
    (∃ s', insertEach check put rows s = .ok s') ↔ UniqueKey key rows ∧ ∀ r ∈ rows, good r := by
  -- the rows that are in already, and those that are still to come
  have hsplit : ∀ rest done : List ρ, (∀ b ∈ done, b ∈ rows) → (∀ r ∈ rest, r ∈ rows) →
      ((∃ s', insertEach check put rest (done.foldl put s) = .ok s') ↔
        UniqueKey key rest ∧ ∀ r ∈ rest, (∀ b ∈ done, key b ≠ key r) ∧ good r) := by
    intro rest
    induction rest with
    | nil =>
        intro done _ _
        exact iff_of_true ⟨_, rfl⟩ ⟨List.nodup_nil, fun _ hr => absurd hr List.not_mem_nil⟩
    | cons r rest ih =>
        intro done hdone hrest
        have hr : r ∈ rows := hrest r List.mem_cons_self
        have hdone' : ∀ b ∈ done ++ [r], b ∈ rows := by
          intro b hb
          rcases List.mem_append.mp hb with hb | hb
          · exact hdone b hb
          · exact List.mem_singleton.mp hb ▸ hr
        have hnext := ih (done ++ [r]) hdone' fun r' hr' => hrest r' (List.mem_cons_of_mem r hr')
        rw [List.foldl_append, List.foldl_cons, List.foldl_nil] at hnext
        simp only [insertEach_cons_eq_ok_iff, exists_and_left, hnext, hrow done r hdone hr,
          UniqueKey, List.map_cons, List.nodup_cons, List.forall_mem_cons, List.mem_append,
          List.mem_map, List.mem_singleton]
        constructor
        · rintro ⟨hfirst, hdistinct, hall⟩
          refine ⟨⟨?_, hdistinct⟩, hfirst, fun r' hr' => ⟨fun b hb => ?_, (hall r' hr').2⟩⟩
          · rintro ⟨r', hr', hsame⟩
            exact (hall r' hr').1 r (Or.inr rfl) hsame.symm
          · exact (hall r' hr').1 b (Or.inl hb)
        · rintro ⟨⟨hnew, hdistinct⟩, hfirst, hall⟩
          refine ⟨hfirst, hdistinct, fun r' hr' => ⟨fun b hb => ?_, (hall r' hr').2⟩⟩
          rcases hb with hb | rfl
          · exact (hall r' hr').1 b hb
          · exact fun hsame => hnew ⟨r', hr', hsame.symm⟩
  have hall := hsplit rows [] (fun _ hb => absurd hb List.not_mem_nil) fun _ hr => hr
  rw [List.foldl_nil] at hall
  rw [hall]
  refine and_congr_right fun _ => forall₂_congr fun r _ => ?_
  exact and_iff_right fun _ hb => absurd hb List.not_mem_nil

/-- Rows that are inserted are put in one after the other. -/
theorem eq_foldl_of_insertEach {s' : σ} (h : insertEach check put rows s = .ok s') :
    s' = rows.foldl put s := by
  rw [← List.append_nil rows] at h
  exact (Except.ok.inj (insertEach_split h).2).symm

/-- If what runs after the rows cannot fail, the statement fails as its checks do. -/
theorem insertRows_eq_error_iff {after : σ → ρ → Except ε σ} {e : ε}
    (hafter : ∀ stored, insertEach check put rows s = .ok stored →
      ∃ s', insertRows check put after rows s = .ok s') :
    insertRows check put after rows s = .error e ↔ insertEach check put rows s = .error e := by
  cases h : insertEach check put rows s with
  | error e' =>
      rw [insertRows, h]
      exact Iff.rfl
  | ok stored =>
      obtain ⟨s', hs'⟩ := hafter stored h
      rw [hs']
      exact iff_of_false (fun hok => by cases hok) fun hok => by cases hok

end Insert

end LuxLedger.Relational
