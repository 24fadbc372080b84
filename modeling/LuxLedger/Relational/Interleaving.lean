/-
  Relational/Interleaving.lean --- sessions that work on a shared state in any order.

  A session starts from the shared state, makes actions that may read the shared
  state and change the session, and ends by a commit into the shared state or by an
  abort.  The rule at the end is rely and guarantee for such systems: a property of the
  shared state and one of each session hold throughout when a session's own steps keep
  its property, a commit keeps that of the shared state, and what one session commits
  leaves the properties of the others alone.

  Sessions can be run with a record of their steps, each with the session as it was
  before the step.  The record changes nothing of what they do, and what holds of the
  steps and the state of every session holds of the steps of each committed one.
-/
import LuxLedger.Relational.Statement

set_option autoImplicit false

namespace LuxLedger.Relational

variable {ε σ τ β α : Type}

/-- A shared state and the sessions that are open, by their number. -/
structure Sessions (σ τ : Type) where
  shared : σ
  session : Nat → Option τ

/-- No session is open. -/
def Sessions.idle (shared : σ) : Sessions σ τ := ⟨shared, fun _ => none⟩

/-- One step of one session. -/
inductive SessionEvent (β α : Type) where
  | begin (id : Nat) (parameters : β)
  | act (id : Nat) (action : α)
  | commit (id : Nat)
  | abort (id : Nat)
  deriving DecidableEq, Repr

/-- The state of a session set or cleared. -/
def Sessions.set (s : Sessions σ τ) (id : Nat) (session : Option τ) : Sessions σ τ :=
  { s with session := Function.update s.session id session }

/-- What the sessions of a system do. -/
structure SessionRules (ε σ τ β α : Type) where
  start : σ → β → τ
  act : σ → τ → α → Except ε τ
  commit : σ → τ → Except ε σ

namespace SessionRules

variable (rules : SessionRules ε σ τ β α)

/-- One step of the system; a step of a session that is not open does nothing. -/
def step (s : Sessions σ τ) : SessionEvent β α → Except ε (Sessions σ τ)
  | .begin id parameters => .ok (s.set id (some (rules.start s.shared parameters)))
  | .act id action =>
      match s.session id with
      | none => .ok s
      | some session => do
          let session' ← rules.act s.shared session action
          return s.set id (some session')
  | .commit id =>
      match s.session id with
      | none => .ok s
      | some session => do
          let shared ← rules.commit s.shared session
          return { s.set id none with shared }
  | .abort id => .ok (s.set id none)

end SessionRules

/-- The shared state and every open session are as they should be. -/
structure SessionsOk (P : σ → Prop) (Q : σ → τ → Prop) (s : Sessions σ τ) : Prop where
  shared : P s.shared
  session : ∀ id session, s.session id = some session → Q s.shared session

section Rule

variable {rules : SessionRules ε σ τ β α} {P : σ → Prop} {Q : σ → τ → Prop}
  {s s' : Sessions σ τ}

theorem SessionsOk.set (hs : SessionsOk P Q s) {id : Nat} {session : Option τ}
    (hsession : ∀ t, session = some t → Q s.shared t) : SessionsOk P Q (s.set id session) := by
  refine ⟨hs.shared, fun other t ht => ?_⟩
  simp only [Sessions.set, Function.update_apply] at ht
  split at ht
  · exact hsession t ht
  · exact hs.session other t ht

/-- Rely and guarantee, for one step. -/
theorem SessionRules.step_ok
    (hstart : ∀ c x, P c → Q c (rules.start c x))
    (hact : ∀ c t a t', P c → Q c t → rules.act c t a = .ok t' → Q c t')
    (hcommit : ∀ c t c', P c → Q c t → rules.commit c t = .ok c' → P c')
    (hstable : ∀ c t c' other, P c → Q c t → rules.commit c t = .ok c' → Q c other → Q c' other)
    {event : SessionEvent β α} (h : rules.step s event = .ok s') (hs : SessionsOk P Q s) :
    SessionsOk P Q s' := by
  cases event with
  | begin id parameters =>
      rw [← Except.ok.inj h]
      exact hs.set fun t ht => Option.some.inj ht ▸ hstart _ _ hs.shared
  | abort id =>
      rw [← Except.ok.inj h]
      exact hs.set fun t ht => by cases ht
  | act id action =>
      simp only [SessionRules.step] at h
      cases hsession : s.session id with
      | none =>
          rw [hsession] at h
          exact Except.ok.inj h ▸ hs
      | some session =>
          simp only [hsession, bind_eq_ok_iff, pure_eq_ok_iff] at h
          obtain ⟨session', haction, rfl⟩ := h
          have hopen := hs.session id session hsession
          exact hs.set fun t ht =>
            Option.some.inj ht ▸ hact _ _ _ _ hs.shared hopen haction
  | commit id =>
      simp only [SessionRules.step] at h
      cases hsession : s.session id with
      | none =>
          rw [hsession] at h
          exact Except.ok.inj h ▸ hs
      | some session =>
          simp only [hsession, bind_eq_ok_iff, pure_eq_ok_iff] at h
          obtain ⟨shared, hshared, rfl⟩ := h
          have hopen := hs.session id session hsession
          refine ⟨hcommit _ _ _ hs.shared hopen hshared, fun other t ht => ?_⟩
          have hclosed : SessionsOk P Q (s.set id none) := hs.set fun t ht => by cases ht
          exact hstable _ _ _ _ hs.shared hopen hshared (hclosed.session other t ht)

/-- Rely and guarantee, for every interleaving. -/
theorem SessionRules.run_ok (rules : SessionRules ε σ τ β α)
    (hstart : ∀ c x, P c → Q c (rules.start c x))
    (hact : ∀ c t a t', P c → Q c t → rules.act c t a = .ok t' → Q c t')
    (hcommit : ∀ c t c', P c → Q c t → rules.commit c t = .ok c' → P c')
    (hstable : ∀ c t c' other, P c → Q c t → rules.commit c t = .ok c' → Q c other → Q c' other)
    {shared : σ} (hinit : P shared) {schedule : List (SessionEvent β α)}
    (h : run rules.step (Sessions.idle shared) schedule = .ok s) : SessionsOk P Q s :=
  run_invariant ⟨hinit, fun _ _ hnone => by cases hnone⟩
    (fun _ _ _ hstep hs => SessionRules.step_ok hstart hact hcommit hstable hstep hs) h

end Rule

/-! ## The steps of the sessions -/

/-- A step of a session, with the session before it. -/
structure Step (τ α : Type) where
  before : τ
  action : α

/-- A shared state, and the steps of each session that has been committed. -/
structure Recorded (σ τ α : Type) where
  shared : σ
  commits : List (List (Step τ α))

/-- A session, and its steps so far. -/
structure Recording (τ α : Type) where
  state : τ
  steps : List (Step τ α)

/-- The same rules with a record of the steps. -/
def SessionRules.recorded (rules : SessionRules ε σ τ β α) :
    SessionRules ε (Recorded σ τ α) (Recording τ α) β α where
  start c x := ⟨rules.start c.shared x, []⟩
  act c t a := do
    let state ← rules.act c.shared t.state a
    return ⟨state, t.steps ++ [⟨t.state, a⟩]⟩
  commit c t := do
    let shared ← rules.commit c.shared t.state
    return ⟨shared, c.commits ++ [t.steps]⟩

/-- The sessions without the record. -/
def Sessions.unrecorded (s : Sessions (Recorded σ τ α) (Recording τ α)) : Sessions σ τ :=
  ⟨s.shared.shared, fun id => (s.session id).map (·.state)⟩

section Recorded

variable {rules : SessionRules ε σ τ β α} {s : Sessions (Recorded σ τ α) (Recording τ α)}

theorem Sessions.unrecorded_set (id : Nat) (session : Option (Recording τ α)) :
    (s.set id session).unrecorded = s.unrecorded.set id (session.map (·.state)) := by
  simp only [Sessions.unrecorded, Sessions.set, Sessions.mk.injEq, true_and]
  funext other
  rw [Function.update_apply, Function.update_apply]
  split <;> rfl

/-- The record changes nothing of a step. -/
theorem SessionRules.recorded_step (event : SessionEvent β α) :
    (rules.recorded.step s event).map Sessions.unrecorded = rules.step s.unrecorded event := by
  cases event with
  | begin id parameters => exact congrArg Except.ok (Sessions.unrecorded_set id _)
  | abort id => exact congrArg Except.ok (Sessions.unrecorded_set id _)
  | act id action =>
      cases hsession : s.session id with
      | none => simp [SessionRules.step, Sessions.unrecorded, hsession, Except.map]
      | some t =>
          have hstate : s.unrecorded.session id = some t.state := by
            simp [Sessions.unrecorded, hsession]
          simp only [SessionRules.step, SessionRules.recorded, hsession, hstate]
          show _ = (rules.act s.shared.shared t.state action >>= _)
          cases rules.act s.shared.shared t.state action with
          | error e => rfl
          | ok t' => exact congrArg Except.ok (Sessions.unrecorded_set id _)
  | commit id =>
      cases hsession : s.session id with
      | none => simp [SessionRules.step, Sessions.unrecorded, hsession, Except.map]
      | some t =>
          have hstate : s.unrecorded.session id = some t.state := by
            simp [Sessions.unrecorded, hsession]
          simp only [SessionRules.step, SessionRules.recorded, hsession, hstate]
          show _ = (rules.commit s.shared.shared t.state >>= _)
          cases rules.commit s.shared.shared t.state with
          | error e => rfl
          | ok shared =>
              have hclosed := congrArg Sessions.session (s.unrecorded_set id none)
              exact congrArg (fun session => (Except.ok ⟨shared, session⟩ : Except ε (Sessions σ τ)))
                hclosed

/-- Nor of a run. -/
theorem SessionRules.recorded_run (rules : SessionRules ε σ τ β α)
    (s : Sessions (Recorded σ τ α) (Recording τ α)) (schedule : List (SessionEvent β α)) :
    (run rules.recorded.step s schedule).map Sessions.unrecorded =
      run rules.step s.unrecorded schedule :=
  run_map (fun _ event => SessionRules.recorded_step event) s schedule

/-- A property of the steps and the state of a session, now and before each of its steps. -/
structure AllAlong (R : List (Step τ α) → τ → Prop) (t : Recording τ α) : Prop where
  now : R t.steps t.state
  earlier : ∀ before step after, t.steps = before ++ step :: after → R before step.before

theorem AllAlong.act {R : List (Step τ α) → τ → Prop} {t : Recording τ α}
    (h : AllAlong R t) {a : α} {state : τ} (hstate : R (t.steps ++ [⟨t.state, a⟩]) state) :
    AllAlong R ⟨state, t.steps ++ [⟨t.state, a⟩]⟩ := by
  refine ⟨hstate, fun before step after hsteps => ?_⟩
  rcases List.eq_nil_or_concat after with rfl | ⟨more, last, rfl⟩
  · obtain ⟨hbefore, hstep⟩ := List.append_inj' hsteps rfl
    rw [← hbefore, ← (List.cons.inj hstep).1]
    exact h.now
  · rw [List.concat_eq_append, ← List.cons_append, ← List.append_assoc] at hsteps
    exact h.earlier before step more (List.append_inj' hsteps rfl).1

/-- A property of the shared state and the steps of the committed sessions holds throughout
when commits keep it, for what is known of each session from its own steps. -/
theorem SessionRules.recorded_ok (rules : SessionRules ε σ τ β α) {P : Recorded σ τ α → Prop}
    {R : List (Step τ α) → τ → Prop}
    (hstart : ∀ c x, R [] (rules.start c x))
    (hact : ∀ c steps t a t', R steps t → rules.act c t a = .ok t' → R (steps ++ [⟨t, a⟩]) t')
    (hcommit : ∀ c t c', P c → AllAlong R t → rules.commit c.shared t.state = .ok c' →
      P ⟨c', c.commits ++ [t.steps]⟩)
    {shared : σ} (hinit : P ⟨shared, []⟩) {schedule : List (SessionEvent β α)}
    (h : run rules.recorded.step (Sessions.idle ⟨shared, []⟩) schedule = .ok s) :
    P s.shared := by
  have hall : SessionsOk P (fun _ => AllAlong R) s := by
    refine rules.recorded.run_ok (fun c x _ => ⟨hstart c.shared x, ?_⟩) ?_ ?_ ?_ hinit h
    · intro before step after hsteps
      have hnone : [] = before ++ step :: after := hsteps
      simp at hnone
    · intro c t a t' _ ht haction
      simp only [SessionRules.recorded, bind_eq_ok_iff, pure_eq_ok_iff] at haction
      obtain ⟨state, hstate, rfl⟩ := haction
      exact ht.act (hact _ _ _ _ _ ht.now hstate)
    · intro c t c' hc ht hcommitted
      simp only [SessionRules.recorded, bind_eq_ok_iff, pure_eq_ok_iff] at hcommitted
      obtain ⟨shared', hshared, rfl⟩ := hcommitted
      exact hcommit c t shared' hc ht hshared
    · exact fun _ _ _ _ _ _ _ hother => hother
  exact hall.shared

end Recorded

end LuxLedger.Relational
