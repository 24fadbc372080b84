/-
  Foundation/Awaited.lean --- programs of awaited calls, any of which may throw.

  A call that throws has either done nothing or done its work and lost the reply.  A
  schedule says which calls of a run throw.  A specification is about every run of a
  program under one schedule: what holds where it ends, and what holds where it throws.
-/
import Mathlib.Order.Basic

set_option autoImplicit false

namespace LuxLedger.Foundation

variable {ε σ α β ι : Type}

/-- How a call throws. -/
inductive Fault where
  /-- before it has done anything -/
  | refused
  /-- with its work done -/
  | lost
  deriving DecidableEq, Repr

/-- Which calls throw, by their number. -/
abbrev Schedule : Type := Nat → Option Fault

/-- No call throws. -/
def reliable : Schedule := fun _ => none

/-- A program over a state: it is run under a schedule, from a number of calls made, and
says how many it has made by its end. -/
def Awaited (ε σ α : Type) : Type := Schedule → Nat → σ → Except ε α × Nat × σ

namespace Awaited

/-! ## Programs -/

/-- Go on with the result, unless the program has thrown. -/
def andThen (x : Awaited ε σ α) (f : α → Awaited ε σ β) : Awaited ε σ β := fun schedule n s =>
  match x schedule n s with
  | (.ok a, n', s') => f a schedule n' s'
  | (.error e, n', s') => (.error e, n', s')

/-- Go on with what the program has thrown. -/
def orElse (x : Awaited ε σ α) (handler : ε → Awaited ε σ α) : Awaited ε σ α :=
  fun schedule n s =>
    match x schedule n s with
    | (.ok a, n', s') => (.ok a, n', s')
    | (.error e, n', s') => handler e schedule n' s'

instance : Monad (Awaited ε σ) where
  pure a := fun _ n s => (.ok a, n, s)
  bind := andThen

instance : MonadExcept ε (Awaited ε σ) where
  throw e := fun _ n s => (.error e, n, s)
  tryCatch := orElse

section Steps

variable {schedule : Schedule} {n n' : Nat} {s s' : σ} {x : Awaited ε σ α} {a : α} {e : ε}

theorem bind_of_ok {f : α → Awaited ε σ β} (hx : x schedule n s = (.ok a, n', s')) :
    (x >>= f) schedule n s = f a schedule n' s' := by
  show andThen x f schedule n s = f a schedule n' s'
  simp only [andThen, hx]

theorem bind_of_error {f : α → Awaited ε σ β} (hx : x schedule n s = (.error e, n', s')) :
    (x >>= f) schedule n s = (.error e, n', s') := by
  show andThen x f schedule n s = (.error e, n', s')
  simp only [andThen, hx]

theorem tryCatch_of_ok {handler : ε → Awaited ε σ α} (hx : x schedule n s = (.ok a, n', s')) :
    tryCatch x handler schedule n s = (.ok a, n', s') := by
  show orElse x handler schedule n s = (.ok a, n', s')
  simp only [orElse, hx]

theorem tryCatch_of_error {handler : ε → Awaited ε σ α}
    (hx : x schedule n s = (.error e, n', s')) :
    tryCatch x handler schedule n s = handler e schedule n' s' := by
  show orElse x handler schedule n s = handler e schedule n' s'
  simp only [orElse, hx]

/-- A run either ends or throws. -/
theorem outcome (x : Awaited ε σ α) (schedule : Schedule) (n : Nat) (s : σ) :
    (∃ a n' s', x schedule n s = (.ok a, n', s')) ∨
      ∃ e n' s', x schedule n s = (.error e, n', s') := by
  rcases x schedule n s with ⟨_ | _, n', s'⟩
  · exact Or.inr ⟨_, n', s', rfl⟩
  · exact Or.inl ⟨_, n', s', rfl⟩

end Steps

/-- One awaited operation; `down` is what it throws when it is at fault. -/
def call (down : ε) (operation : σ → Except ε (α × σ)) : Awaited ε σ α := fun schedule n s =>
  match schedule n, operation s with
  | none, .ok (a, s') => (.ok a, n + 1, s')
  | none, .error e => (.error e, n + 1, s)
  | some .lost, .ok (_, s') => (.error down, n + 1, s')
  | some _, _ => (.error down, n + 1, s)

/-- A call that only reads. -/
def query (down : ε) (answer : σ → Except ε α) : Awaited ε σ α :=
  call down fun s => (answer s).map fun a => (a, s)

/-- A call that always does its work. -/
def update (down : ε) (change : σ → α × σ) : Awaited ε σ α := call down fun s => .ok (change s)

/-- The result and the state at the end of a run. -/
def run (program : Awaited ε σ α) (schedule : Schedule) (s : σ) : Except ε α × σ :=
  ((program schedule 0 s).1, (program schedule 0 s).2.2)

/-! ## Specifications -/

section Spec

variable {schedule : Schedule} {P P' : σ → Prop} {Q : α → σ → Prop} {R : β → σ → Prop}
  {E E' : ε → σ → Prop} {down : ε}

/-- A run has ended with `Q`, or has thrown with `E`. -/
def Ends (Q : α → σ → Prop) (E : ε → σ → Prop) : Except ε α × Nat × σ → Prop
  | (.ok a, _, s) => Q a s
  | (.error e, _, s) => E e s

/-- From a state with `P`, the program ends with `Q` or throws with `E`. -/
def Spec (schedule : Schedule) (P : σ → Prop) (program : Awaited ε σ α) (Q : α → σ → Prop)
    (E : ε → σ → Prop) : Prop :=
  ∀ n s, P s → Ends Q E (program schedule n s)

theorem spec_consequence {Q' : α → σ → Prop} {program : Awaited ε σ α}
    (h : Spec schedule P program Q E) (hP : ∀ s, P' s → P s) (hQ : ∀ a s, Q a s → Q' a s)
    (hE : ∀ e s, E e s → E' e s) : Spec schedule P' program Q' E' := by
  intro n s hs
  have hspec := h n s (hP s hs)
  rcases outcome program schedule n s with ⟨a, n', s', hrun⟩ | ⟨e, n', s', hrun⟩
  · rw [hrun] at hspec ⊢
    exact hQ a s' hspec
  · rw [hrun] at hspec ⊢
    exact hE e s' hspec

theorem spec_pre {program : Awaited ε σ α} (h : Spec schedule P program Q E)
    (hP : ∀ s, P' s → P s) : Spec schedule P' program Q E :=
  fun n s hs => h n s (hP s hs)

theorem spec_post {Q' : α → σ → Prop} {program : Awaited ε σ α} (h : Spec schedule P program Q E)
    (hQ : ∀ a s, Q a s → Q' a s) : Spec schedule P program Q' E :=
  spec_consequence h (fun _ hs => hs) hQ fun _ _ hs => hs

theorem spec_post_error {program : Awaited ε σ α} (h : Spec schedule P program Q E)
    (hE : ∀ e s, E e s → E' e s) : Spec schedule P program Q E' :=
  spec_consequence h (fun _ hs => hs) (fun _ _ hs => hs) hE

/-- What is true whatever the state may be assumed for the whole run. -/
theorem spec_of_imp {p : Prop} {program : Awaited ε σ α} (hp : ∀ s, P s → p)
    (h : p → Spec schedule P program Q E) : Spec schedule P program Q E :=
  fun n s hs => h (hp s hs) n s hs

/-- It is enough to specify the runs from each state alone. -/
theorem spec_of_state {program : Awaited ε σ α}
    (h : ∀ s, P s → Spec schedule (· = s) program Q E) : Spec schedule P program Q E :=
  fun n s hs => h s hs n s rfl

theorem spec_pure {a : α} (h : ∀ s, P s → Q a s) :
    Spec schedule P (pure a : Awaited ε σ α) Q E :=
  fun _ s hs => h s hs

theorem spec_throw {e : ε} (h : ∀ s, P s → E e s) :
    Spec schedule P (throw e : Awaited ε σ α) Q E :=
  fun _ s hs => h s hs

theorem spec_bind {x : Awaited ε σ β} {f : β → Awaited ε σ α} (hx : Spec schedule P x R E)
    (hf : ∀ b, Spec schedule (R b) (f b) Q E) : Spec schedule P (x >>= f) Q E := by
  intro n s hs
  have hspec := hx n s hs
  rcases outcome x schedule n s with ⟨b, n', s', hrun⟩ | ⟨e, n', s', hrun⟩
  · rw [hrun] at hspec
    rw [bind_of_ok hrun]
    exact hf b n' s' hspec
  · rw [hrun] at hspec
    rw [bind_of_error hrun]
    exact hspec

/-- Go on with what is known of the result whatever the state. -/
theorem spec_bind_and {x : Awaited ε σ β} {f : β → Awaited ε σ α} {p : β → Prop} {T : σ → Prop}
    (hx : Spec schedule P x (fun b s => T s ∧ p b) E)
    (hf : ∀ b, p b → Spec schedule T (f b) Q E) : Spec schedule P (x >>= f) Q E :=
  spec_bind hx fun b => spec_of_imp (fun _ hs => hs.2) fun hb =>
    spec_pre (hf b hb) fun _ hs => hs.1

/-- Go on with the one result there can be. -/
theorem spec_bind_of_eq {x : Awaited ε σ β} {f : β → Awaited ε σ α} {b : β} {T : σ → Prop}
    (hx : Spec schedule P x (fun b' s => T s ∧ b' = b) E) (hf : Spec schedule T (f b) Q E) :
    Spec schedule P (x >>= f) Q E :=
  spec_bind_and hx fun _ hb => hb ▸ hf

theorem spec_tryCatch {x : Awaited ε σ α} {handler : ε → Awaited ε σ α} {D : ε → σ → Prop}
    (hx : Spec schedule P x Q D) (hhandler : ∀ e, Spec schedule (D e) (handler e) Q E) :
    Spec schedule P (tryCatch x handler) Q E := by
  intro n s hs
  have hspec := hx n s hs
  rcases outcome x schedule n s with ⟨a, n', s', hrun⟩ | ⟨e, n', s', hrun⟩
  · rw [hrun] at hspec
    rw [tryCatch_of_ok hrun]
    exact hspec
  · rw [hrun] at hspec
    rw [tryCatch_of_error hrun]
    exact hhandler e n' s' hspec

/-- Of the ways a call throws for the schedule, both must be allowed for. -/
theorem spec_call {operation : σ → Except ε (α × σ)}
    (hok : ∀ s a s', P s → operation s = .ok (a, s') →
      Q a s' ∧ (schedule ≠ reliable → E down s'))
    (herror : ∀ s e, P s → operation s = .error e → E e s)
    (hdown : ∀ s, P s → schedule ≠ reliable → E down s) :
    Spec schedule P (call down operation) Q E := by
  intro n s hs
  have hfault : ∀ fault, schedule n = some fault → schedule ≠ reliable := by
    rintro fault hn rfl
    cases hn
  unfold call
  cases hn : schedule n with
  | none =>
      cases hop : operation s with
      | ok done => exact (hok s done.1 done.2 hs hop).1
      | error e => exact herror s e hs hop
  | some fault =>
      cases hop : operation s with
      | ok done =>
          cases fault with
          | refused => exact hdown s hs (hfault _ hn)
          | lost => exact (hok s done.1 done.2 hs hop).2 (hfault _ hn)
      | error e => cases fault <;> exact hdown s hs (hfault _ hn)

theorem spec_query {answer : σ → Except ε α} (hok : ∀ s a, P s → answer s = .ok a → Q a s)
    (herror : ∀ s e, P s → answer s = .error e → E e s)
    (hdown : ∀ s, P s → schedule ≠ reliable → E down s) :
    Spec schedule P (query down answer) Q E := by
  refine spec_call ?_ ?_ hdown
  · intro s a s' hs hop
    cases hanswer : answer s with
    | error e =>
        rw [hanswer] at hop
        cases hop
    | ok b =>
        rw [hanswer] at hop
        cases hop
        exact ⟨hok s a hs hanswer, hdown s hs⟩
  · intro s e hs hop
    cases hanswer : answer s with
    | error e' =>
        rw [hanswer] at hop
        cases hop
        exact herror s e hs hanswer
    | ok b =>
        rw [hanswer] at hop
        cases hop

theorem spec_update {change : σ → α × σ}
    (hok : ∀ s, P s → Q (change s).1 (change s).2 ∧ (schedule ≠ reliable → E down (change s).2))
    (hdown : ∀ s, P s → schedule ≠ reliable → E down s) :
    Spec schedule P (update down change) Q E := by
  refine spec_call ?_ (fun s e _ hop => (by cases hop)) hdown
  intro s a s' hs hop
  have hchange : change s = (a, s') := Except.ok.inj hop
  have hdone := hok s hs
  rw [hchange] at hdone
  exact hdone

/-- A loop: the invariant is about what is left of the list. -/
theorem spec_forM {I : List ι → σ → Prop} {f : ι → Awaited ε σ PUnit}
    (hstep : ∀ x rest, Spec schedule (I (x :: rest)) (f x) (fun _ => I rest) E) (xs : List ι) :
    Spec schedule (I xs) (xs.forM f) (fun _ => I []) E := by
  induction xs with
  | nil => exact spec_pure fun _ hs => hs
  | cons x rest ih => exact spec_bind (hstep x rest) fun _ => ih

/-- What every round keeps, the loop keeps. -/
theorem spec_forM_of_mem {f : ι → Awaited ε σ PUnit} {xs : List ι}
    (hstep : ∀ x ∈ xs, Spec schedule P (f x) (fun _ => P) E) :
    Spec schedule P (xs.forM f) (fun _ => P) E := by
  induction xs with
  | nil => exact spec_pure fun _ hs => hs
  | cons x rest ih =>
      exact spec_bind (hstep x List.mem_cons_self) fun _ =>
        ih fun x' hx' => hstep x' (List.mem_cons_of_mem _ hx')

/-- What a specification says of a run that ends. -/
theorem Spec.of_ok {program : Awaited ε σ α} (h : Spec schedule P program Q E) {s : σ} (hs : P s)
    {a : α} (hrun : (program.run schedule s).1 = .ok a) : Q a (program.run schedule s).2 := by
  have hspec := h 0 s hs
  rcases outcome program schedule 0 s with ⟨b, n', s', hprogram⟩ | ⟨e, n', s', hprogram⟩
  · rw [hprogram] at hspec
    rw [run, hprogram, Except.ok.injEq] at hrun
    rw [run, hprogram]
    exact hrun ▸ hspec
  · rw [run, hprogram] at hrun
    cases hrun

/-- What holds however a run ends. -/
theorem Spec.always {program : Awaited ε σ α}
    (h : Spec schedule P program (fun _ => P') fun _ => P') {s : σ} (hs : P s) :
    P' (program.run schedule s).2 := by
  have hspec := h 0 s hs
  rcases outcome program schedule 0 s with ⟨a, n', s', hprogram⟩ | ⟨e, n', s', hprogram⟩
  · rw [hprogram] at hspec
    rw [run, hprogram]
    exact hspec
  · rw [hprogram] at hspec
    rw [run, hprogram]
    exact hspec

/-- A run that cannot throw ends. -/
theorem Spec.ends {program : Awaited ε σ α} (h : Spec schedule P program Q fun _ _ => False)
    {s : σ} (hs : P s) : ∃ a, (program.run schedule s).1 = .ok a := by
  have hspec := h 0 s hs
  rcases outcome program schedule 0 s with ⟨a, n', s', hprogram⟩ | ⟨e, n', s', hprogram⟩
  · rw [run, hprogram]
    exact ⟨a, rfl⟩
  · rw [hprogram] at hspec
    exact False.elim hspec

end Spec

/-! ## Counting calls -/

section Calls

variable {k m : Nat} {P : σ → Prop} {Q : α → σ → Prop} {R : β → σ → Prop} {E : σ → Prop}

/-- From a state with `P` the program makes so many calls, one after the other: it ends with
`Q` when they are all answered, and throws with `E` when one is not. -/
def Makes (k : Nat) (P : σ → Prop) (program : Awaited ε σ α) (Q : α → σ → Prop) (E : σ → Prop) :
    Prop :=
  ∀ schedule n s, P s →
    ((∀ i < k, schedule (n + i) = none) ∧
      ∃ a s', program schedule n s = (.ok a, n + k, s') ∧ Q a s') ∨
    ((∃ i < k, schedule (n + i) ≠ none) ∧
      ∃ e n' s', program schedule n s = (.error e, n', s') ∧ E s')

theorem makes_consequence {Q' : α → σ → Prop} {E' : σ → Prop} {program : Awaited ε σ α}
    (h : Makes k P program Q E) (hQ : ∀ a s, Q a s → Q' a s) (hE : ∀ s, E s → E' s) :
    Makes k P program Q' E' := by
  intro schedule n s hs
  rcases h schedule n s hs with
    ⟨hanswered, a, s', hrun, hdone⟩ | ⟨hfault, e, n', s', hrun, hthrown⟩
  · exact Or.inl ⟨hanswered, a, s', hrun, hQ a s' hdone⟩
  · exact Or.inr ⟨hfault, e, n', s', hrun, hE s' hthrown⟩

theorem makes_pure {a : α} (h : ∀ s, P s → Q a s) : Makes 0 P (pure a : Awaited ε σ α) Q E :=
  fun _ _ s hs => Or.inl ⟨fun _ hi => absurd hi (Nat.not_lt_zero _), a, s, rfl, h s hs⟩

/-- A call that does its work from every state with `P`. -/
theorem makes_call {down : ε} {operation : σ → Except ε (α × σ)}
    (hok : ∀ s, P s → ∃ a s', operation s = .ok (a, s') ∧ Q a s' ∧ E s')
    (hdown : ∀ s, P s → E s) : Makes 1 P (call down operation) Q E := by
  intro schedule n s hs
  obtain ⟨a, s', hoperation, hQ, hE⟩ := hok s hs
  cases hn : schedule n with
  | none =>
      refine Or.inl ⟨fun i hi => ?_, a, s', ?_, hQ⟩
      · rw [Nat.lt_one_iff.mp hi]
        exact hn
      · simp only [call, hn, hoperation]
  | some fault =>
      have hfault : ∃ i < 1, schedule (n + i) ≠ none := by
        refine ⟨0, Nat.one_pos, ?_⟩
        rw [Nat.add_zero, hn]
        exact Option.some_ne_none fault
      cases fault with
      | refused => exact Or.inr ⟨hfault, down, n + 1, s, by simp only [call, hn], hdown s hs⟩
      | lost => exact Or.inr ⟨hfault, down, n + 1, s', by simp only [call, hn, hoperation], hE⟩

theorem makes_bind {x : Awaited ε σ β} {f : β → Awaited ε σ α} (hx : Makes k P x R E)
    (hf : ∀ b, Makes m (R b) (f b) Q E) : Makes (k + m) P (x >>= f) Q E := by
  intro schedule n s hs
  rcases hx schedule n s hs with
    ⟨hanswered, b, s', hrun, hR⟩ | ⟨⟨i, hi, hfault⟩, e, n', s', hrun, hE⟩
  · rcases hf b schedule (n + k) s' hR with
      ⟨hanswered', a, s'', hrun', hQ⟩ | ⟨⟨i, hi, hfault⟩, e, n'', s'', hrun', hE⟩
    · refine Or.inl ⟨fun i hi => ?_, a, s'', ?_, hQ⟩
      · rcases Nat.lt_or_ge i k with hlt | hge
        · exact hanswered i hlt
        · have hrest := hanswered' (i - k) (by omega)
          rwa [Nat.add_assoc, Nat.add_sub_cancel' hge] at hrest
      · rw [bind_of_ok hrun, hrun', Nat.add_assoc]
    · refine Or.inr ⟨⟨k + i, by omega, ?_⟩, e, n'', s'', ?_, hE⟩
      · rw [← Nat.add_assoc]
        exact hfault
      · rw [bind_of_ok hrun, hrun']
  · exact Or.inr ⟨⟨i, by omega, hfault⟩, e, n', s', bind_of_error hrun, hE⟩

/-- Go on with the one result and state there can be. -/
theorem makes_bind_of_eq {x : Awaited ε σ β} {f : β → Awaited ε σ α} {b : β} {s : σ}
    (hx : Makes k P x (fun b' s' => s' = s ∧ b' = b) E) (hf : Makes m (· = s) (f b) Q E) :
    Makes (k + m) P (x >>= f) Q E := by
  refine makes_bind hx fun b' => ?_
  rintro schedule n t ⟨rfl, rfl⟩
  exact hf schedule n t rfl

/-- A call that does its work from this state, and what follows it. -/
theorem makes_call_bind {down : ε} {operation : σ → Except ε (β × σ)} {s s' : σ} {b : β}
    {f : β → Awaited ε σ α} (hoperation : operation s = .ok (b, s')) (hbefore : E s)
    (hafter : E s') (hf : Makes m (· = s') (f b) Q E) :
    Makes (1 + m) (· = s) (call down operation >>= f) Q E := by
  refine makes_bind_of_eq (makes_call ?_ ?_) hf
  · rintro t rfl
    exact ⟨b, s', hoperation, ⟨rfl, rfl⟩, hafter⟩
  · rintro t rfl
    exact hbefore

theorem Makes.spec {program : Awaited ε σ α} (h : Makes k P program Q E) {schedule : Schedule} :
    Spec schedule P program Q fun _ => E := by
  intro n s hs
  rcases h schedule n s hs with ⟨-, a, s', hrun, hQ⟩ | ⟨-, e, n', s', hrun, hE⟩
  · rw [hrun]
    exact hQ
  · rw [hrun]
    exact hE

end Calls

end Awaited

end LuxLedger.Foundation
