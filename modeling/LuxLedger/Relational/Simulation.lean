/-
  Relational/Simulation.lean --- two runs compared step by step.

  Checks that agree wherever an invariant holds accept the same rows, and steps that
  agree there accept the same runs.  A view carries the steps of one system over to
  another; what it needs to know of a step may be known only after the last one, so
  beside the invariant there is a condition that is pulled back from the end.
-/
import LuxLedger.Relational.Statement

set_option autoImplicit false

namespace LuxLedger.Relational

variable {ε σ τ ρ ι : Type}

/-! ## Agreement under an invariant -/

section Congruence

variable {P : σ → Prop} {s s' : σ}

/-- Rows that are checked alike. -/
theorem checkEach_congr {check check' : ρ → Except ε Unit} {rows : List ρ}
    (h : ∀ r ∈ rows, check r = check' r) : checkEach check rows = checkEach check' rows := by
  induction rows with
  | nil => rfl
  | cons r rest ih =>
      rw [checkEach, checkEach, h r List.mem_cons_self,
        ih fun r' hr' => h r' (List.mem_cons_of_mem r hr')]

/-- An INSERT whose check is another one wherever the invariant holds. -/
theorem insertEach_congr {check check' : σ → ρ → Except ε Unit} {put : σ → ρ → σ} {rows : List ρ}
    (hput : ∀ s, ∀ r ∈ rows, P s → check s r = .ok () → P (put s r))
    (hcheck : ∀ s, ∀ r ∈ rows, P s → check s r = check' s r) (hs : P s) :
    insertEach check put rows s = insertEach check' put rows s := by
  induction rows generalizing s with
  | nil => rfl
  | cons r rest ih =>
      rw [insertEach, insertEach, ← hcheck s r List.mem_cons_self hs]
      cases hr : check s r with
      | error e => rfl
      | ok u =>
          exact ih (fun s r' hr' => hput s r' (List.mem_cons_of_mem r hr'))
            (fun s r' hr' => hcheck s r' (List.mem_cons_of_mem r hr'))
            (hput s r List.mem_cons_self hs hr)

/-- Steps that agree wherever the invariant holds. -/
theorem foldlM_congr_ok {step step' : σ → ι → Except ε σ} {xs : List ι}
    (hkeep : ∀ x ∈ xs, ∀ s s', step s x = .ok s' → P s → P s')
    (hstep : ∀ s, ∀ x ∈ xs, P s → ∀ s', step s x = .ok s' ↔ step' s x = .ok s') (hs : P s) :
    xs.foldlM step s = .ok s' ↔ xs.foldlM step' s = .ok s' := by
  induction xs generalizing s with
  | nil => rw [foldlM_nil_eq_ok_iff, foldlM_nil_eq_ok_iff]
  | cons x rest ih =>
      rw [foldlM_cons_eq_ok_iff, foldlM_cons_eq_ok_iff]
      refine exists_congr fun mid => ?_
      rw [← hstep s x List.mem_cons_self hs mid]
      refine and_congr_right fun hmid => ?_
      exact ih (fun x' hx' => hkeep x' (List.mem_cons_of_mem x hx'))
        (fun s x' hx' => hstep s x' (List.mem_cons_of_mem x hx'))
        (hkeep x List.mem_cons_self s mid hmid hs)

end Congruence

/-! ## Runs seen through a view -/

section View

variable {view : σ → τ} {P Q : σ → Prop} {s s' : σ}

/-- An INSERT seen through a view. -/
theorem insertEach_view {check : σ → ρ → Except ε Unit} {put : σ → ρ → σ}
    {check' : τ → ρ → Except ε Unit} {put' : τ → ρ → τ} {rows : List ρ}
    (hput : ∀ s, ∀ r ∈ rows, P s → check s r = .ok () → P (put s r))
    (hstep : ∀ s, ∀ r ∈ rows, P s → check s r = .ok () → Q (put s r) →
      Q s ∧ check' (view s) r = .ok () ∧ view (put s r) = put' (view s) r)
    (h : insertEach check put rows s = .ok s') (hs : P s) (hs' : Q s') :
    Q s ∧ insertEach check' put' rows (view s) = .ok (view s') := by
  induction rows generalizing s with
  | nil =>
      rw [insertEach] at h
      obtain rfl := Except.ok.inj h
      exact ⟨hs', rfl⟩
  | cons r rest ih =>
      obtain ⟨hcheck, hrest⟩ := insertEach_cons_eq_ok_iff.mp h
      obtain ⟨hmid, hseen⟩ := ih (fun s r' hr' => hput s r' (List.mem_cons_of_mem r hr'))
        (fun s r' hr' => hstep s r' (List.mem_cons_of_mem r hr')) hrest
        (hput s r List.mem_cons_self hs hcheck)
      obtain ⟨hbefore, hcheck', hview⟩ := hstep s r List.mem_cons_self hs hcheck hmid
      rw [hview] at hseen
      exact ⟨hbefore, insertEach_cons_eq_ok_iff.mpr ⟨hcheck', hseen⟩⟩

variable (view) in
/-- A run seen through a view, which shows some of its steps and not the others. -/
theorem foldlM_filter_view {step : σ → ι → Except ε σ} {step' : τ → ι → Except ε τ}
    (shown : ι → Bool) {xs : List ι}
    (hkeep : ∀ x ∈ xs, ∀ s s', step s x = .ok s' → P s → P s')
    (hshown : ∀ x ∈ xs, shown x = true → ∀ s s', P s → step s x = .ok s' → Q s' →
      Q s ∧ step' (view s) x = .ok (view s'))
    (hhidden : ∀ x ∈ xs, shown x = false → ∀ s s', P s → step s x = .ok s' → Q s' →
      Q s ∧ view s' = view s)
    (h : xs.foldlM step s = .ok s') (hs : P s) (hs' : Q s') :
    Q s ∧ (xs.filter shown).foldlM step' (view s) = .ok (view s') := by
  induction xs generalizing s with
  | nil =>
      obtain rfl := foldlM_nil_eq_ok_iff.mp h
      exact ⟨hs', rfl⟩
  | cons x rest ih =>
      obtain ⟨mid, hmid, hrest⟩ := foldlM_cons_eq_ok_iff.mp h
      obtain ⟨hQ, hseen⟩ := ih (fun x' hx' => hkeep x' (List.mem_cons_of_mem x hx'))
        (fun x' hx' => hshown x' (List.mem_cons_of_mem x hx'))
        (fun x' hx' => hhidden x' (List.mem_cons_of_mem x hx')) hrest
        (hkeep x List.mem_cons_self s mid hmid hs)
      cases hx : shown x with
      | true =>
          obtain ⟨hbefore, hfirst⟩ := hshown x List.mem_cons_self hx s mid hs hmid hQ
          rw [List.filter_cons_of_pos hx]
          exact ⟨hbefore, foldlM_cons_eq_ok_iff.mpr ⟨view mid, hfirst, hseen⟩⟩
      | false =>
          obtain ⟨hbefore, hsame⟩ := hhidden x List.mem_cons_self hx s mid hs hmid hQ
          rw [List.filter_cons_of_neg (by rw [hx]; exact Bool.false_ne_true), ← hsame]
          exact ⟨hbefore, hseen⟩

/-- A run seen through a view that shows every step. -/
theorem foldlM_view {step : σ → ι → Except ε σ} {step' : τ → ι → Except ε τ} {xs : List ι}
    (hkeep : ∀ x ∈ xs, ∀ s s', step s x = .ok s' → P s → P s')
    (hstep : ∀ x ∈ xs, ∀ s s', P s → step s x = .ok s' → Q s' →
      Q s ∧ step' (view s) x = .ok (view s'))
    (h : xs.foldlM step s = .ok s') (hs : P s) (hs' : Q s') :
    Q s ∧ xs.foldlM step' (view s) = .ok (view s') := by
  have hrun := foldlM_filter_view view (fun _ => true) hkeep
    (fun x hx _ => hstep x hx) (fun _ _ hx => absurd hx.symm Bool.false_ne_true) h hs hs'
  rwa [List.filter_eq_self.mpr fun _ _ => rfl] at hrun

end View

end LuxLedger.Relational
