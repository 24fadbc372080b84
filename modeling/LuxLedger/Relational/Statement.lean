/-
  Relational/Statement.lean --- statements that may fail, and runs of them.

  A statement either fails, and then nothing of it remains, or yields a new
  state: an `Except` value.  A multi-row INSERT checks and stores its rows one
  after the other (BEFORE ROW triggers see the rows already stored by the same
  statement) and fires its AFTER ROW triggers only once all rows are in.  A run
  is a sequence of accepted steps.
-/
import LuxLedger.Relational.Truth
import Mathlib.Data.List.Induction
import Mathlib.Logic.Relation

set_option autoImplicit false

namespace LuxLedger.Relational

variable {ε σ ρ ι α β : Type}

/-! ## Guards -/

/-- `IF condition THEN RAISE EXCEPTION`: raised only when the condition is TRUE. -/
def raiseIf (condition : Truth) (error : ε) : Except ε Unit :=
  if condition = some true then .error error else .ok ()

@[simp] theorem raiseIf_eq_ok_iff {condition : Truth} {error : ε} {u : Unit} :
    raiseIf condition error = .ok u ↔ condition ≠ some true := by
  unfold raiseIf
  split <;> simp_all

/-- A constraint: the statement fails with the given error unless it holds. -/
def require (p : Prop) [Decidable p] (error : ε) : Except ε Unit :=
  if p then .ok () else .error error

@[simp] theorem require_eq_ok_iff {p : Prop} [Decidable p] {error : ε} {u : Unit} :
    require p error = .ok u ↔ p := by
  unfold require
  split <;> simp_all

theorem require_of_not {p : Prop} [Decidable p] {error : ε} (h : ¬ p) :
    require p error = .error error := if_neg h

/-- A sequence succeeds exactly when its first part does and the rest succeeds
on its result. -/
@[simp] theorem bind_eq_ok_iff {x : Except ε α} {f : α → Except ε β} {b : β} :
    (x >>= f) = .ok b ↔ ∃ a, x = .ok a ∧ f a = .ok b := by
  cases x with
  | error e => simp [bind, Except.bind]
  | ok a => simp [bind, Except.bind]

@[simp] theorem pure_eq_ok_iff {a b : α} : (pure a : Except ε α) = .ok b ↔ a = b := by
  simp [pure, Except.pure]

/-- What is accepted is accepted with its result. -/
theorem eq_ok_getD {x : Except ε α} (h : x.toBool = true) (default : α) :
    x = .ok (x.toOption.getD default) := by
  cases x with
  | error e => cases h
  | ok a => rfl

/-- Every row passes the check. -/
def checkEach (check : ρ → Except ε Unit) : List ρ → Except ε Unit
  | [] => .ok ()
  | r :: rest => do
      check r
      checkEach check rest

@[simp] theorem checkEach_eq_ok_iff {check : ρ → Except ε Unit} {rows : List ρ} {u : Unit} :
    checkEach check rows = .ok u ↔ ∀ r ∈ rows, check r = .ok () := by
  induction rows with
  | nil => simp [checkEach]
  | cons r rest ih =>
      rw [checkEach, bind_eq_ok_iff, ih]
      constructor
      · rintro ⟨⟨⟩, hr, hrest⟩ r' hr'
        rcases List.mem_cons.mp hr' with rfl | hmem
        · exact hr
        · exact hrest r' hmem
      · intro h
        exact ⟨(), h r List.mem_cons_self, fun r' hr' => h r' (List.mem_cons_of_mem _ hr')⟩

/-! ## Folding a fallible step over a list -/

section Fold

variable {step : σ → ι → Except ε σ} {s s' : σ}

theorem foldlM_nil_eq_ok_iff : [].foldlM step s = .ok s' ↔ s = s' := by
  simp

theorem foldlM_cons_eq_ok_iff {x : ι} {rest : List ι} :
    (x :: rest).foldlM step s = .ok s' ↔
      ∃ mid, step s x = .ok mid ∧ rest.foldlM step mid = .ok s' := by
  rw [List.foldlM_cons, bind_eq_ok_iff]

theorem foldlM_append_eq_ok_iff {before after : List ι} :
    (before ++ after).foldlM step s = .ok s' ↔
      ∃ mid, before.foldlM step s = .ok mid ∧ after.foldlM step mid = .ok s' := by
  rw [List.foldlM_append, bind_eq_ok_iff]

/-- Every element of a fold has its step, between the steps before and after it. -/
theorem foldlM_mem {xs : List ι} {x : ι} (h : xs.foldlM step s = .ok s') (hx : x ∈ xs) :
    ∃ before after s₁ s₂, xs = before ++ x :: after ∧ before.foldlM step s = .ok s₁ ∧
      step s₁ x = .ok s₂ ∧ after.foldlM step s₂ = .ok s' := by
  obtain ⟨before, after, rfl⟩ := List.append_of_mem hx
  obtain ⟨s₁, hbefore, hrest⟩ := foldlM_append_eq_ok_iff.mp h
  obtain ⟨s₂, hstep, hafter⟩ := foldlM_cons_eq_ok_iff.mp hrest
  exact ⟨before, after, s₁, s₂, rfl, hbefore, hstep, hafter⟩

/-- What every successful step preserves, the fold preserves. -/
theorem foldlM_preserves {P : σ → Prop} {xs : List ι}
    (hstep : ∀ x ∈ xs, ∀ s s', step s x = .ok s' → P s → P s')
    (h : xs.foldlM step s = .ok s') (hs : P s) : P s' := by
  induction xs generalizing s with
  | nil =>
      rw [foldlM_nil_eq_ok_iff] at h
      exact h ▸ hs
  | cons x rest ih =>
      obtain ⟨mid, hmid, hrest⟩ := foldlM_cons_eq_ok_iff.mp h
      exact ih (fun x' hx' => hstep x' (List.mem_cons_of_mem _ hx')) hrest
        (hstep x List.mem_cons_self s mid hmid hs)

/-- A table that each step only adds rows to ends with the rows of all steps. -/
theorem foldlM_table {table : σ → List ρ} {new : ι → List ρ} {xs : List ι}
    (hstep : ∀ s x s', step s x = .ok s' → table s' = table s ++ new x)
    (h : xs.foldlM step s = .ok s') : table s' = table s ++ xs.flatMap new := by
  induction xs generalizing s with
  | nil =>
      rw [foldlM_nil_eq_ok_iff] at h
      rw [h, List.flatMap_nil, List.append_nil]
  | cons x rest ih =>
      obtain ⟨mid, hmid, hrest⟩ := foldlM_cons_eq_ok_iff.mp h
      rw [ih hrest, hstep s x mid hmid, List.flatMap_cons, List.append_assoc]

/-- A fold of steps is a sequence of steps of a relation that contains them. -/
theorem foldlM_steps {Step : σ → σ → Prop} {xs : List ι}
    (hstep : ∀ s, ∀ x ∈ xs, ∀ s', step s x = .ok s' → Relation.ReflTransGen Step s s')
    (h : xs.foldlM step s = .ok s') : Relation.ReflTransGen Step s s' :=
  foldlM_preserves (P := Relation.ReflTransGen Step s)
    (fun x hx s₁ s₂ hx' hs => hs.trans (hstep s₁ x hx s₂ hx')) h .refl

end Fold

/-! ## Multi-row INSERT -/

section Insert

variable {check : σ → ρ → Except ε Unit} {put : σ → ρ → σ} {after : σ → ρ → Except ε σ}
  {rows : List ρ} {s s' : σ}

/-- Check and store the rows one after the other. -/
def insertEach (check : σ → ρ → Except ε Unit) (put : σ → ρ → σ) :
    List ρ → σ → Except ε σ
  | [], s => .ok s
  | r :: rest, s => do
      check s r
      insertEach check put rest (put s r)

/-- `INSERT INTO … VALUES r₁, …, rₙ` with its BEFORE and AFTER ROW triggers. -/
def insertRows (check : σ → ρ → Except ε Unit) (put : σ → ρ → σ)
    (after : σ → ρ → Except ε σ) (rows : List ρ) (s : σ) : Except ε σ := do
  let stored ← insertEach check put rows s
  rows.foldlM after stored

theorem insertEach_cons_eq_ok_iff {r : ρ} {rest : List ρ} :
    insertEach check put (r :: rest) s = .ok s' ↔
      check s r = .ok () ∧ insertEach check put rest (put s r) = .ok s' := by
  rw [insertEach, bind_eq_ok_iff]
  constructor
  · rintro ⟨⟨⟩, hcheck, hrest⟩
    exact ⟨hcheck, hrest⟩
  · rintro ⟨hcheck, hrest⟩
    exact ⟨(), hcheck, hrest⟩

/-- The rest of the rows is inserted on the state that holds the rows before it. -/
theorem insertEach_split {before rest : List ρ}
    (h : insertEach check put (before ++ rest) s = .ok s') :
    insertEach check put before s = .ok (before.foldl put s) ∧
      insertEach check put rest (before.foldl put s) = .ok s' := by
  induction before generalizing s with
  | nil => exact ⟨rfl, h⟩
  | cons b more ih =>
      obtain ⟨hcheck, hmore⟩ := insertEach_cons_eq_ok_iff.mp h
      rw [List.foldl_cons, insertEach_cons_eq_ok_iff]
      exact ⟨⟨hcheck, (ih hmore).1⟩, (ih hmore).2⟩

/-- Each row was checked on the state that holds the rows before it. -/
theorem insertEach_checked {before rest : List ρ} {r : ρ}
    (h : insertEach check put (before ++ r :: rest) s = .ok s') :
    check (before.foldl put s) r = .ok () :=
  (insertEach_cons_eq_ok_iff.mp (insertEach_split h).2).1

/-- The rows of an INSERT, each with the state that it is checked on. -/
def insertPoints (put : σ → ρ → σ) : List ρ → σ → List (σ × ρ)
  | [], _ => []
  | r :: rest, s => (s, r) :: insertPoints put rest (put s r)

theorem row_of_insertPoints {p : σ × ρ} (h : p ∈ insertPoints put rows s) : p.2 ∈ rows := by
  induction rows generalizing s with
  | nil => cases h
  | cons r rest ih =>
      rcases List.mem_cons.mp h with rfl | hrest
      · exact List.mem_cons_self
      · exact List.mem_cons_of_mem _ (ih hrest)

/-- Every row is checked once. -/
theorem exists_insertPoint (put : σ → ρ → σ) (s : σ) {r : ρ} (h : r ∈ rows) :
    ∃ s₀, (s₀, r) ∈ insertPoints put rows s := by
  induction rows generalizing s with
  | nil => cases h
  | cons r' rest ih =>
      rcases List.mem_cons.mp h with rfl | hrest
      · exact ⟨s, List.mem_cons_self⟩
      · obtain ⟨s₀, hs₀⟩ := ih (put s r') hrest
        exact ⟨s₀, List.mem_cons_of_mem _ hs₀⟩

/-- An INSERT is accepted when every row is, where it is checked. -/
theorem insertEach_checked_iff :
    (∃ s', insertEach check put rows s = .ok s') ↔
      ∀ p ∈ insertPoints put rows s, check p.1 p.2 = .ok () := by
  induction rows generalizing s with
  | nil => exact ⟨fun _ p hp => absurd hp List.not_mem_nil, fun _ => ⟨s, rfl⟩⟩
  | cons r rest ih =>
      simp only [insertEach_cons_eq_ok_iff, exists_and_left, ih, insertPoints,
        List.forall_mem_cons]

/-- What `put` leaves alone is the same at every row. -/
theorem insertPoints_frame (part : σ → β) (hput : ∀ s r, part (put s r) = part s)
    {p : σ × ρ} (h : p ∈ insertPoints put rows s) : part p.1 = part s := by
  induction rows generalizing s with
  | nil => cases h
  | cons r rest ih =>
      rcases List.mem_cons.mp h with rfl | hrest
      · rfl
      · exact (ih hrest).trans (hput s r)

/-- Storing checked rows is a sequence of single-row steps. -/
theorem insertEach_steps {Step : σ → σ → Prop}
    (hstep : ∀ s, ∀ r ∈ rows, check s r = .ok () → Step s (put s r))
    (h : insertEach check put rows s = .ok s') : Relation.ReflTransGen Step s s' := by
  induction rows generalizing s with
  | nil =>
      rw [insertEach] at h
      rw [Except.ok.inj h]
  | cons r rest ih =>
      obtain ⟨hcheck, hrest⟩ := insertEach_cons_eq_ok_iff.mp h
      exact Relation.ReflTransGen.head (hstep s r List.mem_cons_self hcheck)
        (ih (fun s r' hr' => hstep s r' (List.mem_cons_of_mem _ hr')) hrest)

/-- Each row was checked somewhere on the way. -/
theorem insertEach_mem {R : σ → σ → Prop}
    (hstep : ∀ s, ∀ r ∈ rows, check s r = .ok () → R s (put s r))
    (h : insertEach check put rows s = .ok s') {r : ρ} (hr : r ∈ rows) :
    ∃ mid, Relation.ReflTransGen R s mid ∧ check mid r = .ok () ∧
      Relation.ReflTransGen R mid s' := by
  induction rows generalizing s with
  | nil => cases hr
  | cons first rest ih =>
      obtain ⟨hcheck, hrest⟩ := insertEach_cons_eq_ok_iff.mp h
      have hfirst : R s (put s first) := hstep s first List.mem_cons_self hcheck
      have hstep' := fun s r' hr' => hstep s r' (List.mem_cons_of_mem first hr')
      rcases List.mem_cons.mp hr with rfl | hmem
      · exact ⟨s, .refl, hcheck, .head hfirst (insertEach_steps hstep' hrest)⟩
      · obtain ⟨mid, hbefore, hmid, hafter⟩ := ih hstep' hrest hmem
        exact ⟨mid, .head hfirst hbefore, hmid, hafter⟩

/-- What the check says of a row alone holds of every stored row. -/
theorem insertEach_forall {q : ρ → Prop} (hq : ∀ s r, check s r = .ok () → q r)
    (h : insertEach check put rows s = .ok s') : ∀ r ∈ rows, q r := by
  intro r hr
  obtain ⟨before, rest, rfl⟩ := List.append_of_mem hr
  exact hq _ r (insertEach_checked h)

/-- What every checked row has while an invariant lasts that it keeps. -/
theorem insertEach_invariant {P : σ → Prop} {q : ρ → Prop}
    (hstep : ∀ s r, check s r = .ok () → P s → q r ∧ P (put s r))
    (h : insertEach check put rows s = .ok s') (hs : P s) : (∀ r ∈ rows, q r) ∧ P s' := by
  induction rows generalizing s with
  | nil =>
      rw [insertEach] at h
      exact ⟨fun _ hr => absurd hr List.not_mem_nil, Except.ok.inj h ▸ hs⟩
  | cons first rest ih =>
      obtain ⟨hcheck, hrest⟩ := insertEach_cons_eq_ok_iff.mp h
      obtain ⟨hfirst, hput⟩ := hstep s first hcheck hs
      obtain ⟨hall, hs'⟩ := ih hrest hput
      refine ⟨fun r hr => ?_, hs'⟩
      rcases List.mem_cons.mp hr with rfl | hmem
      · exact hfirst
      · exact hall r hmem

/-- What `put` leaves alone stays as it was. -/
theorem insertEach_frame {part : σ → β} (h : insertEach check put rows s = .ok s')
    (hput : ∀ s r, part (put s r) = part s) : part s' = part s := by
  induction rows generalizing s with
  | nil =>
      rw [insertEach] at h
      rw [Except.ok.inj h]
  | cons r rest ih => rw [ih (insertEach_cons_eq_ok_iff.mp h).2, hput]

/-- The stored state as one bulk update, when `put` is that update for one row. -/
theorem insertEach_store (store : List ρ → σ → σ) (hnil : ∀ s, store [] s = s)
    (hcons : ∀ s r rest, store rest (put s r) = store (r :: rest) s)
    (h : insertEach check put rows s = .ok s') : s' = store rows s := by
  induction rows generalizing s with
  | nil =>
      rw [insertEach] at h
      rw [hnil, Except.ok.inj h]
  | cons r rest ih => rw [ih (insertEach_cons_eq_ok_iff.mp h).2, hcons]

theorem insertRows_eq_ok_iff :
    insertRows check put after rows s = .ok s' ↔
      ∃ stored, insertEach check put rows s = .ok stored ∧
        rows.foldlM after stored = .ok s' := by
  rw [insertRows, bind_eq_ok_iff]

end Insert

/-! ## UPDATE of rows that do not see each other -/

section Update

variable {change : ρ → Except ε α} {rows : List ρ}

/-- Change the rows one after the other; what the change reads does not change. -/
def updateEach (change : ρ → Except ε α) : List ρ → Except ε (List α)
  | [] => .ok []
  | r :: rest => do
      let changed ← change r
      let changedRest ← updateEach change rest
      return changed :: changedRest

/-- The update succeeds exactly when every row is changed the way successful changes are. -/
theorem updateEach_eq_ok_iff {f : ρ → α} (hf : ∀ r r', change r = .ok r' → r' = f r)
    {changed : List α} :
    updateEach change rows = .ok changed ↔
      changed = rows.map f ∧ ∀ r ∈ rows, change r = .ok (f r) := by
  induction rows generalizing changed with
  | nil => simp [updateEach, eq_comm]
  | cons r rest ih =>
      simp only [updateEach, bind_eq_ok_iff, pure_eq_ok_iff, ih, List.forall_mem_cons,
        List.map_cons]
      constructor
      · rintro ⟨r', hr, rest', ⟨rfl, hrest⟩, rfl⟩
        obtain rfl := hf r r' hr
        exact ⟨rfl, hr, hrest⟩
      · rintro ⟨rfl, hr, hrest⟩
        exact ⟨f r, hr, rest.map f, ⟨rfl, hrest⟩, rfl⟩

end Update

/-! ## Runs -/

section Run

variable {step : σ → ι → Except ε σ} {init s s' : σ} {log : List ι}

/-- The state after a log of accepted steps. -/
def run (step : σ → ι → Except ε σ) (init : σ) (log : List ι) : Except ε σ :=
  log.foldlM step init

theorem run_nil_eq_ok_iff : run step init [] = .ok s ↔ init = s :=
  foldlM_nil_eq_ok_iff

/-- Runs of two systems whose steps agree under a map agree under it. -/
theorem run_map {σ' : Type} {step' : σ' → ι → Except ε σ'} {g : σ → σ'}
    (hstep : ∀ s x, (step s x).map g = step' (g s) x) (init : σ) (log : List ι) :
    (run step init log).map g = run step' (g init) log := by
  induction log generalizing init with
  | nil => rfl
  | cons x rest ih =>
      simp only [run, List.foldlM_cons]
      rw [← hstep init x]
      cases step init x with
      | error e => rfl
      | ok s => exact ih s


theorem run_append_eq_ok_iff {more : List ι} :
    run step init (log ++ more) = .ok s' ↔
      ∃ mid, run step init log = .ok mid ∧ run step mid more = .ok s' :=
  foldlM_append_eq_ok_iff

theorem run_concat_eq_ok_iff {x : ι} :
    run step init (log ++ [x]) = .ok s' ↔
      ∃ mid, run step init log = .ok mid ∧ step mid x = .ok s' := by
  rw [run_append_eq_ok_iff]
  constructor
  · rintro ⟨mid, hlog, hx⟩
    obtain ⟨last, hstep, hnil⟩ := foldlM_cons_eq_ok_iff.mp hx
    exact ⟨mid, hlog, foldlM_nil_eq_ok_iff.mp hnil ▸ hstep⟩
  · rintro ⟨mid, hlog, hx⟩
    exact ⟨mid, hlog, foldlM_cons_eq_ok_iff.mpr ⟨s', hx, foldlM_nil_eq_ok_iff.mpr rfl⟩⟩

/-- Induction along a run: what holds of the empty log and is carried from each
reached state over an accepted step holds of every run. -/
theorem run_induction {P : List ι → σ → Prop} (hinit : P [] init)
    (hstep : ∀ log s x s', run step init log = .ok s → P log s → step s x = .ok s' →
      P (log ++ [x]) s')
    (h : run step init log = .ok s) : P log s := by
  induction log using List.reverseRecOn generalizing s with
  | nil => exact run_nil_eq_ok_iff.mp h ▸ hinit
  | append_singleton before x ih =>
      obtain ⟨mid, hbefore, hx⟩ := run_concat_eq_ok_iff.mp h
      exact hstep before mid x s hbefore (ih hbefore) hx

/-- Every accepted step of a run is as it should be, by the state before it. -/
def AlongRun (step : σ → ι → Except ε σ) (p : σ → ι → Prop) : σ → List ι → Prop
  | _, [] => True
  | s, x :: rest =>
      match step s x with
      | .error _ => True
      | .ok s' => p s x ∧ AlongRun step p s' rest

instance AlongRun.decidable {p : σ → ι → Prop} [∀ s x, Decidable (p s x)] :
    ∀ s log, Decidable (AlongRun step p s log)
  | _, [] => isTrue trivial
  | s, x :: rest =>
      match hstep : step s x with
      | .error _ => isTrue (by simp [AlongRun, hstep])
      | .ok s' =>
          have : Decidable (AlongRun step p s' rest) := AlongRun.decidable s' rest
          decidable_of_iff (p s x ∧ AlongRun step p s' rest) (by simp [AlongRun, hstep])

theorem alongRun_concat_iff {p : σ → ι → Prop} {x : ι} (hlog : run step init log = .ok s)
    (hx : step s x = .ok s') :
    AlongRun step p init (log ++ [x]) ↔ AlongRun step p init log ∧ p s x := by
  induction log generalizing init with
  | nil =>
      obtain rfl := run_nil_eq_ok_iff.mp hlog
      simp [AlongRun, hx]
  | cons first rest ih =>
      obtain ⟨mid, hfirst, hrest⟩ := foldlM_cons_eq_ok_iff.mp hlog
      simp only [List.cons_append, AlongRun, hfirst]
      rw [ih hrest, and_assoc]

/-! ### Attempts -/

/-- A step that is refused has no effect. -/
def attempt (step : σ → ι → Except ε σ) (s : σ) (x : ι) : σ :=
  match step s x with
  | .ok s' => s'
  | .error _ => s

/-- A condition on every attempted step, accepted or refused. -/
def AlongAttempts (step : σ → ι → Except ε σ) (p : σ → ι → Prop) : σ → List ι → Prop
  | _, [] => True
  | s, x :: rest => p s x ∧ AlongAttempts step p (attempt step s x) rest

instance AlongAttempts.decidable {p : σ → ι → Prop} [∀ s x, Decidable (p s x)] :
    ∀ s log, Decidable (AlongAttempts step p s log)
  | _, [] => isTrue trivial
  | s, x :: rest =>
      have : Decidable (AlongAttempts step p (attempt step s x) rest) :=
        AlongAttempts.decidable (attempt step s x) rest
      inferInstanceAs (Decidable (p s x ∧ AlongAttempts step p (attempt step s x) rest))

theorem attempt_of_ok {x : ι} (h : step s x = .ok s') : attempt step s x = s' := by
  rw [attempt, h]

theorem attempt_of_error {x : ι} {e : ε} (h : step s x = .error e) : attempt step s x = s := by
  rw [attempt, h]

/-- What each attempt decides of a property, the run of attempts decides. -/
theorem alongAttempts_iff {I Q : σ → Prop} {p : σ → ι → Prop} (hs : I s)
    (hstep : ∀ s x, I s → I (attempt step s x) ∧ (Q (attempt step s x) ↔ Q s ∧ p s x))
    (log : List ι) : Q (log.foldl (attempt step) s) ↔ Q s ∧ AlongAttempts step p s log := by
  induction log generalizing s with
  | nil => exact (and_iff_left trivial).symm
  | cons x rest ih =>
      obtain ⟨hnext, hiff⟩ := hstep s x hs
      rw [List.foldl_cons, ih hnext, hiff, AlongAttempts, and_assoc]

/-- Any two states of a run, the later one after some of its steps, are related. -/
def KeptAlong (step : σ → ι → Except ε σ) (R : σ → σ → Prop) (init : σ) (log : List ι) : Prop :=
  ∀ before between after, log = before ++ between ++ after →
    ∀ mid last, run step init before = .ok mid → run step mid between = .ok last → R mid last

theorem keptAlong_nil {R : σ → σ → Prop} (hrefl : R init init) : KeptAlong step R init [] := by
  intro before between after hlog mid last hmid hlast
  rw [List.append_assoc] at hlog
  obtain ⟨hbefore, hrest⟩ := List.append_eq_nil_iff.mp hlog.symm
  rw [hbefore, run_nil_eq_ok_iff] at hmid
  rw [(List.append_eq_nil_iff.mp hrest).1, run_nil_eq_ok_iff] at hlast
  rw [← hlast, ← hmid]
  exact hrefl

section KeptAlong

variable {R : σ → σ → Prop} (hrefl : ∀ before s, run step init before = .ok s → R s s)
  (htrans : ∀ s s' s'', R s s' → R s' s'' → R s s'')
include hrefl htrans

theorem keptAlong_concat_iff {x : ι} (hlog : run step init log = .ok s) (hx : step s x = .ok s') :
    KeptAlong step R init (log ++ [x]) ↔ KeptAlong step R init log ∧ R s s' := by
  constructor
  · intro hkept
    refine ⟨fun before between after hsplit => ?_, ?_⟩
    · refine hkept before between (after ++ [x]) ?_
      rw [hsplit, List.append_assoc _ after]
    · exact hkept log [x] [] (List.append_nil _).symm s s' hlog
        (foldlM_cons_eq_ok_iff.mpr ⟨s', hx, foldlM_nil_eq_ok_iff.mpr rfl⟩)
  · rintro ⟨hkept, hlast⟩ before between after hsplit mid last hmid hbetween
    -- the new step is behind both states, or between them, or they are one state
    rcases List.eq_nil_or_concat after with rfl | ⟨after', y, rfl⟩
    · rcases List.eq_nil_or_concat between with rfl | ⟨between', y, rfl⟩
      · rw [← run_nil_eq_ok_iff.mp hbetween]
        exact hrefl before mid hmid
      · rw [List.concat_eq_append] at hsplit hbetween
        rw [List.append_nil, ← List.append_assoc] at hsplit
        obtain ⟨hinit, hy⟩ := List.append_inj' hsplit rfl
        obtain rfl := List.singleton_inj.mp hy
        obtain ⟨s₁, hs₁, hy₁⟩ := run_concat_eq_ok_iff.mp hbetween
        have hrun : run step init (before ++ between') = .ok s₁ :=
          run_append_eq_ok_iff.mpr ⟨mid, hmid, hs₁⟩
        rw [← hinit, hlog] at hrun
        obtain rfl := Except.ok.inj hrun
        obtain rfl := Except.ok.inj (hx.symm.trans hy₁)
        refine htrans mid s s' (hkept before between' [] ?_ mid s hmid hs₁) hlast
        rw [List.append_nil, hinit]
    · rw [List.concat_eq_append, ← List.append_assoc] at hsplit
      obtain ⟨hinit, -⟩ := List.append_inj' hsplit rfl
      exact hkept before between after' hinit mid last hmid hbetween

/-- A transitive relation holds along a run exactly when every step establishes it, and
so exactly when every step meets the condition under which it does. -/
theorem keptAlong_iff {p : σ → ι → Prop}
    (hstep : ∀ before s x s', run step init before = .ok s → step s x = .ok s' →
      (R s s' ↔ p s x))
    (h : run step init log = .ok s) : KeptAlong step R init log ↔ AlongRun step p init log := by
  refine run_induction (P := fun log _ => KeptAlong step R init log ↔ AlongRun step p init log)
    ?_ ?_ h
  · exact iff_of_true (keptAlong_nil (hrefl [] init (run_nil_eq_ok_iff.mpr rfl))) trivial
  · intro log s x s' hlog ih hx
    rw [keptAlong_concat_iff hrefl htrans hlog hx, alongRun_concat_iff hlog hx, ih,
      hstep log s x s' hlog hx]

end KeptAlong

/-- Every state of a run, from the first to the last, has the property. -/
def Throughout (step : σ → ι → Except ε σ) (P : σ → Prop) (init : σ) (log : List ι) : Prop :=
  ∀ before after, log = before ++ after → ∀ s, run step init before = .ok s → P s

theorem throughout_concat_iff {P : σ → Prop} {x : ι} (hx : run step init (log ++ [x]) = .ok s') :
    Throughout step P init (log ++ [x]) ↔ Throughout step P init log ∧ P s' := by
  constructor
  · intro hall
    refine ⟨fun before after hsplit => hall before (after ++ [x]) ?_,
      hall (log ++ [x]) [] (List.append_nil _).symm s' hx⟩
    rw [hsplit, List.append_assoc]
  · rintro ⟨hall, hlast⟩ before after hsplit s hs
    rcases List.eq_nil_or_concat after with rfl | ⟨after', y, rfl⟩
    · rw [List.append_nil] at hsplit
      rw [← hsplit, hx] at hs
      exact Except.ok.inj hs ▸ hlast
    · rw [List.concat_eq_append, ← List.append_assoc] at hsplit
      obtain ⟨hlog, -⟩ := List.append_inj' hsplit rfl
      exact hall before after' hlog s hs

theorem Throughout.last {P : σ → Prop} (hall : Throughout step P init log)
    (h : run step init log = .ok s) : P s :=
  hall log [] (List.append_nil _).symm s h

/-- A property that every step keeps just under a condition lasts throughout a run exactly
when every step meets the condition. -/
theorem throughout_iff {P : σ → Prop} {p : σ → ι → Prop} (hinit : P init)
    (hstep : ∀ before s x s', run step init before = .ok s → Throughout step P init before →
      step s x = .ok s' → (P s' ↔ p s x))
    (h : run step init log = .ok s) : Throughout step P init log ↔ AlongRun step p init log := by
  refine run_induction (P := fun log _ => Throughout step P init log ↔ AlongRun step p init log)
    ?_ ?_ h
  · refine iff_of_true (fun before after hsplit s hs => ?_) trivial
    rw [(List.append_eq_nil_iff.mp hsplit.symm).1, run_nil_eq_ok_iff] at hs
    exact hs ▸ hinit
  · intro log s x s' hlog ih hx
    rw [throughout_concat_iff (run_concat_eq_ok_iff.mpr ⟨s, hlog, hx⟩),
      alongRun_concat_iff hlog hx, ← ih]
    exact and_congr_right fun hall => hstep log s x s' hlog hall hx

/-- An invariant of every accepted step holds after every run. -/
theorem run_invariant {P : σ → Prop} (hinit : P init)
    (hstep : ∀ s x s', step s x = .ok s' → P s → P s')
    (h : run step init log = .ok s) : P s :=
  run_induction (P := fun _ s => P s) hinit
    (fun _ s x s' _ hs hx => hstep s x s' hx hs) h

end Run

end LuxLedger.Relational
