/-
  Web/SandboxConsole.lean --- the credential of the console while requests overlap.

  Source: `bootstrap` and the token renewal in `apps/web/src/App.tsx`, `setAccessToken`
  in `apps/web/src/api.ts`.

  One foreground task at a time holds `busy`, which disables the buttons; renewals run
  beside it.  Every response travels on its own: the server answers a request at one
  step and the console takes the response in at a later one, in any order.
-/
import LuxLedger.Relational.Statement

set_option autoImplicit false

namespace LuxLedger.Web

open Relational

/-- A sandbox, by its number in the order of creation. -/
abbrev Sandbox : Type := Nat

/-- What a request for a session is answered. -/
inductive SessionReply where
  | session (sandbox : Sandbox)
  /-- 401 -/
  | unauthorized
  /-- any other failure -/
  | failed
  deriving DecidableEq, Repr

/-- A `GET /demo/session` of the renewal timer. -/
structure Renewal where
  /-- the cookie it carries -/
  cookie : Option Sandbox
  /-- how often the browser had stored a cookie when it was sent -/
  sentAt : Nat
  /-- the answer of the server, once there is one -/
  reply : Option SessionReply
  deriving DecidableEq, Repr

/-- What holds `busy`. -/
inductive Task where
  | idle
  /-- `execute` -/
  | executing
  /-- the first `GET /demo/session` -/
  | probing (cookie : Option Sandbox) (reply : Option SessionReply)
  /-- `POST /demo/session`; `stored` once its cookie is -/
  | creating (cookie : Option Sandbox) (reply : Option SessionReply) (stored : Bool)
  /-- `allPages('/v1/ledgers')` -/
  | listing
  deriving DecidableEq, Repr

/-- The console with the server's sandboxes. -/
structure Console where
  /-- sandboxes the server has created -/
  created : Nat
  /-- those whose key is revoked or whose session is over -/
  revoked : List Sandbox
  cookie : Option Sandbox
  /-- the sandbox of the access token in `api.ts` -/
  token : Option Sandbox
  /-- the sandbox of the session shown -/
  session : Option Sandbox
  task : Task
  renewals : List Renewal
  /-- the sandboxes whose creating responses have been processed -/
  adopted : List Sandbox
  /-- how often the browser has stored a cookie -/
  arrivals : Nat
  /-- how often it had when the last of `adopted` was processed -/
  adoptedAt : Nat
  deriving DecidableEq, Repr

/-- A page that has just been loaded: `bootstrap(false)` has sent its first request. -/
def Console.loaded (created : Nat) (revoked : List Sandbox) (cookie : Option Sandbox) :
    Console where
  created := created
  revoked := revoked
  cookie := cookie
  token := none
  session := none
  task := .probing cookie none
  renewals := []
  adopted := []
  arrivals := 0
  adoptedAt := 0

/-- The answer to a `GET /demo/session` with a cookie. -/
def Console.answer (s : Console) (cookie : Option Sandbox) (failing : Bool) : SessionReply :=
  if failing then .failed
  else match cookie with
    | none => .unauthorized
    | some m => if m ∈ s.revoked then .unauthorized else .session m

/-- `setAccessToken(s.access_token); setSession(s)`. -/
def Console.take (s : Console) (m : Sandbox) : Console :=
  { s with token := some m, session := some m }

/-- What happens at the console. -/
inductive ConsoleEvent where
  /-- the New sandbox button -/
  | newSandbox
  | execute
  | executed
  | probeServed (failing : Bool)
  | probeProcessed
  /-- the server creates a sandbox and revokes that of the cookie -/
  | createServed
  /-- the server fails, before or after revoking -/
  | createFailed (revoking : Bool)
  /-- the headers of the response arrive -/
  | cookieStored
  | createProcessed
  /-- `request` throws -/
  | createThrows
  /-- the ledgers are listed, or that fails -/
  | listed
  /-- the renewal timer -/
  | renew
  | renewalServed (i : Nat) (failing : Bool)
  | renewalProcessed (i : Nat)
  /-- a session ends on the server -/
  | expire (m : Sandbox)
  deriving DecidableEq, Repr

/-- One event; it fails when the console or the server cannot have it. -/
def Console.step (s : Console) : ConsoleEvent → Except Unit Console
  | .newSandbox =>
      match s.task with
      | .idle => .ok { s with task := .creating s.cookie none false }
      | _ => .error ()
  | .execute =>
      match s.task with
      | .idle => .ok { s with task := .executing }
      | _ => .error ()
  | .executed =>
      match s.task with
      | .executing => .ok { s with task := .idle }
      | _ => .error ()
  | .probeServed failing =>
      match s.task with
      | .probing cookie none =>
          .ok { s with task := .probing cookie (some (s.answer cookie failing)) }
      | _ => .error ()
  | .probeProcessed =>
      match s.task with
      | .probing _ (some (.session m)) => .ok { s.take m with task := .listing }
      | .probing _ (some .unauthorized) => .ok { s with task := .creating s.cookie none false }
      | .probing _ (some .failed) => .ok { s with task := .idle }
      | _ => .error ()
  | .createServed =>
      match s.task with
      | .creating cookie none stored =>
          .ok { s with
            created := s.created + 1
            revoked := cookie.toList ++ s.revoked
            task := .creating cookie (some (.session (s.created + 1))) stored }
      | _ => .error ()
  | .createFailed revoking =>
      match s.task with
      | .creating cookie none stored =>
          .ok { s with
            revoked := if revoking then cookie.toList ++ s.revoked else s.revoked
            task := .creating cookie (some .failed) stored }
      | _ => .error ()
  | .cookieStored =>
      match s.task with
      | .creating cookie (some (.session n)) false =>
          .ok { s with
            cookie := some n
            arrivals := s.arrivals + 1
            task := .creating cookie (some (.session n)) true }
      | _ => .error ()
  | .createProcessed =>
      match s.task with
      | .creating _ (some (.session n)) true =>
          .ok { s.take n with
            task := .listing
            adopted := s.adopted ++ [n]
            adoptedAt := s.arrivals }
      | _ => .error ()
  | .createThrows =>
      match s.task with
      | .creating _ _ _ => .ok { s with task := .idle }
      | _ => .error ()
  | .listed =>
      match s.task with
      | .listing => .ok { s with task := .idle }
      | _ => .error ()
  | .renew =>
      if s.session = none then .error ()
      else .ok { s with renewals := s.renewals ++ [⟨s.cookie, s.arrivals, none⟩] }
  | .renewalServed i failing =>
      match s.renewals[i]? with
      | some ⟨cookie, sentAt, none⟩ =>
          .ok { s with
            renewals := s.renewals.set i ⟨cookie, sentAt, some (s.answer cookie failing)⟩ }
      | _ => .error ()
  | .renewalProcessed i =>
      match s.renewals[i]? with
      | some ⟨_, _, some (.session m)⟩ =>
          .ok { s.take m with renewals := s.renewals.eraseIdx i }
      | some ⟨_, _, some _⟩ => .ok { s with renewals := s.renewals.eraseIdx i }
      | _ => .error ()
  | .expire m => .ok { s with revoked := m :: s.revoked }

/-! ## What always holds -/

/-- What the invariant says of the cookies reads these alone. -/
structure Marks where
  created : Nat
  cookie : Option Sandbox
  adopted : List Sandbox
  arrivals : Nat
  adoptedAt : Nat

/-- What the invariant reads of the console. -/
def Console.marks (s : Console) : Marks :=
  ⟨s.created, s.cookie, s.adopted, s.arrivals, s.adoptedAt⟩

/-- The stored cookie is the newest there has been. -/
structure Newest (marks : Marks) : Prop where
  cookie_le : ∀ c ∈ marks.cookie, c ≤ marks.created
  adopted_le : ∀ n ∈ marks.adopted, ∃ c ∈ marks.cookie, n ≤ c
  adoptedAt_le : marks.adoptedAt ≤ marks.arrivals

/-- A renewal carries the cookie of its time. -/
structure Dated (marks : Marks) (r : Renewal) : Prop where
  reply : ∀ m, r.reply = some (.session m) → r.cookie = some m
  sentAt_le : r.sentAt ≤ marks.arrivals
  current : r.sentAt = marks.arrivals → r.cookie = marks.cookie
  older : r.sentAt < marks.arrivals → ∀ c ∈ r.cookie, ∃ c' ∈ marks.cookie, c < c'
  early : r.sentAt < marks.adoptedAt → ∀ c ∈ r.cookie, ∃ n ∈ marks.adopted, c < n
  late : marks.adoptedAt ≤ r.sentAt → ∀ n ∈ marks.adopted, ∃ c ∈ r.cookie, n ≤ c

/-- A sandbox being created is newer than the stored cookie, until it is the stored one. -/
def TaskFits (marks : Marks) : Task → Prop
  | .probing _ _ => marks.adopted = []
  | .creating _ none stored => stored = false
  | .creating _ (some (.session n)) false => n ≤ marks.created ∧ ∀ c ∈ marks.cookie, c < n
  | .creating _ (some (.session n)) true => n ≤ marks.created ∧ marks.cookie = some n
  | _ => True

/-- What lasts in the console. -/
structure ConsoleInv (s : Console) : Prop where
  newest : Newest s.marks
  dated : ∀ r ∈ s.renewals, Dated s.marks r
  task : TaskFits s.marks s.task

theorem consoleInv_loaded {created : Nat} {revoked : List Sandbox} {cookie : Option Sandbox}
    (hcookie : ∀ c ∈ cookie, c ≤ created) : ConsoleInv (.loaded created revoked cookie) where
  newest := ⟨hcookie, fun _ hn => (by cases hn), Nat.le_refl 0⟩
  dated := fun _ hr => (by cases hr)
  task := rfl

section Invariant

variable {marks : Marks} {r : Renewal} {n : Sandbox}

/-- A newer cookie is stored. -/
theorem Dated.store (h : Dated marks r) (hnew : ∀ c ∈ marks.cookie, c < n) :
    Dated { marks with cookie := some n, arrivals := marks.arrivals + 1 } r where
  reply := h.reply
  sentAt_le := Nat.le_succ_of_le h.sentAt_le
  current := fun heq => absurd heq (Nat.ne_of_lt (Nat.lt_succ_of_le h.sentAt_le))
  older := fun _ c hc => by
    refine ⟨n, rfl, ?_⟩
    rcases Nat.lt_or_eq_of_le h.sentAt_le with hlt | heq
    · obtain ⟨c', hc', hlt'⟩ := h.older hlt c hc
      exact Nat.lt_trans hlt' (hnew c' hc')
    · exact hnew c (h.current heq ▸ hc)
  early := h.early
  late := h.late

/-- The sandbox of the stored cookie is adopted. -/
theorem Dated.adopt (h : Dated marks r) (hnewest : Newest marks) (hcookie : marks.cookie = some n) :
    Dated { marks with adopted := marks.adopted ++ [n], adoptedAt := marks.arrivals } r where
  reply := h.reply
  sentAt_le := h.sentAt_le
  current := h.current
  older := h.older
  early := fun hlt c hc => by
    obtain ⟨c', hc', hlt'⟩ := h.older hlt c hc
    rw [hcookie, Option.mem_some_iff] at hc'
    exact ⟨n, List.mem_append_right _ (List.mem_singleton_self _), hc' ▸ hlt'⟩
  late := fun hle n' hn' => by
    refine ⟨n, ?_, ?_⟩
    · rw [h.current (Nat.le_antisymm h.sentAt_le hle), hcookie]
      rfl
    · rcases List.mem_append.mp hn' with hn' | hn'
      · obtain ⟨c, hc, hle'⟩ := hnewest.adopted_le n' hn'
        rw [hcookie, Option.mem_some_iff] at hc
        exact hc ▸ hle'
      · exact Nat.le_of_eq (List.mem_singleton.mp hn')

theorem Newest.store (h : Newest marks) (hle : n ≤ marks.created)
    (hnew : ∀ c ∈ marks.cookie, c < n) :
    Newest { marks with cookie := some n, arrivals := marks.arrivals + 1 } where
  cookie_le := fun c hc => Option.mem_some_iff.mp hc ▸ hle
  adopted_le := fun n' hn' => by
    obtain ⟨c, hc, hle'⟩ := h.adopted_le n' hn'
    exact ⟨n, rfl, Nat.le_trans hle' (Nat.le_of_lt (hnew c hc))⟩
  adoptedAt_le := Nat.le_succ_of_le h.adoptedAt_le

theorem Newest.adopt (h : Newest marks) (hcookie : marks.cookie = some n) :
    Newest { marks with adopted := marks.adopted ++ [n], adoptedAt := marks.arrivals } where
  cookie_le := h.cookie_le
  adopted_le := fun n' hn' => by
    rcases List.mem_append.mp hn' with hn' | hn'
    · exact h.adopted_le n' hn'
    · exact ⟨n, hcookie, Nat.le_of_eq (List.mem_singleton.mp hn')⟩
  adoptedAt_le := Nat.le_refl _

/-- A renewal is sent with the stored cookie. -/
theorem Newest.dated (h : Newest marks) : Dated marks ⟨marks.cookie, marks.arrivals, none⟩ where
  reply := fun _ hm => (by cases hm)
  sentAt_le := Nat.le_refl _
  current := fun _ => rfl
  older := fun hlt => absurd hlt (Nat.lt_irrefl _)
  early := fun hlt => absurd h.adoptedAt_le (Nat.not_le.mpr hlt)
  late := fun _ => h.adopted_le

/-- The server answers it with the sandbox of its cookie, if with any. -/
theorem answer_eq_session {s : Console} {cookie : Option Sandbox} {failing : Bool} {m : Sandbox}
    (h : s.answer cookie failing = .session m) : cookie = some m := by
  unfold Console.answer at h
  split at h
  · cases h
  · split at h
    · cases h
    · split at h
      · cases h
      · cases h
        rfl

theorem Dated.serve {s : Console} {cookie : Option Sandbox} {sentAt : Nat} {failing : Bool}
    (h : Dated marks ⟨cookie, sentAt, none⟩) :
    Dated marks ⟨cookie, sentAt, some (s.answer cookie failing)⟩ where
  reply := fun _ hm => answer_eq_session (Option.some.inj hm)
  sentAt_le := h.sentAt_le
  current := h.current
  older := h.older
  early := h.early
  late := h.late

/-- A sandbox more has been created. -/
theorem Dated.create (h : Dated marks r) : Dated { marks with created := marks.created + 1 } r :=
  ⟨h.reply, h.sentAt_le, h.current, h.older, h.early, h.late⟩

theorem Newest.create (h : Newest marks) : Newest { marks with created := marks.created + 1 } where
  cookie_le := fun c hc => Nat.le_succ_of_le (h.cookie_le c hc)
  adopted_le := h.adopted_le
  adoptedAt_le := h.adoptedAt_le

end Invariant

theorem consoleInv_step {s s' : Console} {event : ConsoleEvent} (hstep : s.step event = .ok s')
    (h : ConsoleInv s) : ConsoleInv s' := by
  have htask := h.task
  cases event with
  | execute | executed | createFailed revoking | createThrows | listed =>
      simp only [Console.step] at hstep
      split at hstep <;> cases hstep
      exact ⟨h.newest, h.dated, trivial⟩
  | newSandbox =>
      simp only [Console.step] at hstep
      split at hstep <;> cases hstep
      exact ⟨h.newest, h.dated, rfl⟩
  | probeServed failing =>
      simp only [Console.step] at hstep
      split at hstep <;> cases hstep
      rename_i heq
      rw [heq] at htask
      exact ⟨h.newest, h.dated, htask⟩
  | probeProcessed =>
      simp only [Console.step] at hstep
      split at hstep <;> cases hstep
      · exact ⟨h.newest, h.dated, trivial⟩
      · exact ⟨h.newest, h.dated, rfl⟩
      · exact ⟨h.newest, h.dated, trivial⟩
  | createServed =>
      simp only [Console.step] at hstep
      split at hstep <;> cases hstep
      rename_i cookie stored heq
      rw [heq] at htask
      obtain rfl : stored = false := htask
      refine ⟨h.newest.create, fun r hr => (h.dated r hr).create, Nat.le_refl _, ?_⟩
      exact fun c hc => Nat.lt_succ_of_le (h.newest.cookie_le c hc)
  | cookieStored =>
      simp only [Console.step] at hstep
      split at hstep <;> cases hstep
      rename_i cookie n heq
      rw [heq] at htask
      obtain ⟨hle, hnew⟩ := htask
      exact ⟨h.newest.store hle hnew, fun r hr => (h.dated r hr).store hnew, hle, rfl⟩
  | createProcessed =>
      simp only [Console.step] at hstep
      split at hstep <;> cases hstep
      rename_i cookie n heq
      rw [heq] at htask
      exact ⟨h.newest.adopt htask.2, fun r hr => (h.dated r hr).adopt h.newest htask.2, trivial⟩
  | renew =>
      simp only [Console.step] at hstep
      split at hstep <;> cases hstep
      refine ⟨h.newest, fun r hr => ?_, htask⟩
      rcases List.mem_append.mp hr with hold | hnew
      · exact h.dated r hold
      · exact List.mem_singleton.mp hnew ▸ h.newest.dated
  | renewalServed i failing =>
      simp only [Console.step] at hstep
      split at hstep <;> cases hstep
      rename_i cookie sentAt heq
      refine ⟨h.newest, fun r hr => ?_, htask⟩
      rcases List.mem_or_eq_of_mem_set hr with hold | rfl
      · exact h.dated r hold
      · exact (h.dated _ (List.mem_of_getElem? heq)).serve
  | renewalProcessed i =>
      have hkept : ∀ r ∈ s.renewals.eraseIdx i, Dated s.marks r :=
        fun r hr => h.dated r (List.mem_of_mem_eraseIdx hr)
      simp only [Console.step] at hstep
      split at hstep <;> cases hstep
      all_goals exact ⟨h.newest, hkept, htask⟩
  | expire m =>
      cases hstep
      exact ⟨h.newest, h.dated, htask⟩

/-! ## No older credential -/

/-- The console holds the sandbox, or a newer one. -/
def Holds (credential : Option Sandbox) (n : Sandbox) : Prop := ∃ m ∈ credential, n ≤ m

instance (credential : Option Sandbox) : DecidablePred (Holds credential) :=
  fun n => inferInstanceAs (Decidable (∃ m ∈ credential, n ≤ m))

/-- The token and the session shown are of no sandbox older than one whose creation
has been processed. -/
def Console.Current (s : Console) : Prop :=
  ∀ n ∈ s.adopted, Holds s.token n ∧ Holds s.session n

instance : DecidablePred Console.Current :=
  fun s => inferInstanceAs (Decidable (∀ n ∈ s.adopted, Holds s.token n ∧ Holds s.session n))

/-- The renewal was answered a session. -/
def Renewal.succeeds (r : Renewal) : Bool :=
  match r.reply with
  | some (.session _) => true
  | _ => false

/-- A renewal that succeeds was sent after the browser had stored the cookie of the last
sandbox taken over. -/
def Console.Timely (s : Console) : ConsoleEvent → Prop
  | .renewalProcessed i => ∀ r ∈ s.renewals[i]?, r.succeeds → s.adoptedAt ≤ r.sentAt
  | _ => True

instance (s : Console) : DecidablePred s.Timely
  | .renewalProcessed i =>
      inferInstanceAs (Decidable (∀ r ∈ s.renewals[i]?, r.succeeds → s.adoptedAt ≤ r.sentAt))
  | .newSandbox | .execute | .executed | .probeServed _ | .probeProcessed | .createServed
  | .createFailed _ | .cookieStored | .createProcessed | .createThrows | .listed | .renew
  | .renewalServed _ _ | .expire _ => isTrue trivial

theorem timely_renewalProcessed_iff {s : Console} {i : Nat} {r : Renewal}
    (h : s.renewals[i]? = some r) :
    s.Timely (.renewalProcessed i) ↔ (r.succeeds → s.adoptedAt ≤ r.sentAt) := by
  constructor
  · intro htimely
    exact htimely r h
  · intro htimely r' hr'
    rwa [← Option.some.inj (h.symm.trans hr')]

/-- The session of a renewal is current exactly when the renewal is not too early. -/
theorem current_take_iff {s : Console} {m : Sandbox} {cookie : Option Sandbox} {sentAt : Nat}
    (h : Dated s.marks ⟨cookie, sentAt, some (.session m)⟩) :
    (s.take m).Current ↔ s.adoptedAt ≤ sentAt := by
  obtain rfl : cookie = some m := h.reply m rfl
  constructor
  · intro hcurrent
    by_contra hearly
    obtain ⟨n, hn, hlt⟩ := h.early (Nat.not_le.mp hearly) m rfl
    obtain ⟨m', hm', hle⟩ := (hcurrent n hn).1
    obtain rfl : m = m' := Option.some.inj hm'
    exact Nat.not_le.mpr hlt hle
  · intro hlate n hn
    exact ⟨h.late hlate n hn, h.late hlate n hn⟩

theorem current_step_iff {s s' : Console} {event : ConsoleEvent} (hstep : s.step event = .ok s')
    (h : ConsoleInv s) (hcurrent : s.Current) : s'.Current ↔ s.Timely event := by
  have htask := h.task
  cases event with
  | newSandbox | execute | executed | probeServed failing | createServed | createFailed revoking
  | cookieStored | createThrows | listed | renew | renewalServed i failing =>
      simp only [Console.step] at hstep
      split at hstep <;> cases hstep
      exact iff_of_true hcurrent trivial
  | expire m =>
      cases hstep
      exact iff_of_true hcurrent trivial
  | probeProcessed =>
      simp only [Console.step] at hstep
      split at hstep <;> cases hstep
      · rename_i cookie m heq
        rw [heq] at htask
        -- nothing is adopted before the first request ends
        have hnone : s.adopted = [] := htask
        refine iff_of_true (fun n (hn : n ∈ s.adopted) => ?_) trivial
        rw [hnone] at hn
        cases hn
      · exact iff_of_true hcurrent trivial
      · exact iff_of_true hcurrent trivial
  | createProcessed =>
      simp only [Console.step] at hstep
      split at hstep <;> cases hstep
      rename_i cookie n heq
      rw [heq] at htask
      refine iff_of_true (fun n' hn' => ?_) trivial
      obtain ⟨c, hc, hle⟩ := (h.newest.adopt htask.2).adopted_le n' hn'
      obtain rfl : n = c := Option.some.inj (htask.2.symm.trans hc)
      exact ⟨⟨n, rfl, hle⟩, ⟨n, rfl, hle⟩⟩
  | renewalProcessed i =>
      simp only [Console.step] at hstep
      split at hstep <;> cases hstep
      · rename_i cookie sentAt m heq
        rw [timely_renewalProcessed_iff heq]
        have htake : (s.take m).Current ↔ s.adoptedAt ≤ sentAt :=
          current_take_iff (h.dated _ (List.mem_of_getElem? heq))
        exact htake.trans ⟨fun hle _ => hle, fun hle => hle rfl⟩
      · rename_i cookie sentAt reply hreply heq
        rw [timely_renewalProcessed_iff heq]
        refine iff_of_true hcurrent (fun hsucceeds => ?_)
        cases reply with
        | session m => exact absurd rfl (hreply m)
        | unauthorized | failed => cases hsucceeds

/-- The console never falls back to an older sandbox exactly when no renewal sent before the
cookie of the last sandbox taken over was stored is processed after it. -/
theorem console_current_iff {created : Nat} {revoked : List Sandbox} {cookie : Option Sandbox}
    {log : List ConsoleEvent} {s : Console} (hcookie : ∀ c ∈ cookie, c ≤ created)
    (hrun : run Console.step (.loaded created revoked cookie) log = .ok s) :
    Throughout Console.step Console.Current (.loaded created revoked cookie) log ↔
      AlongRun Console.step Console.Timely (.loaded created revoked cookie) log := by
  refine throughout_iff (fun n hn => (by cases hn)) ?_ hrun
  intro before mid event mid' hmid hall hstep
  have hinv : ConsoleInv mid :=
    run_invariant (consoleInv_loaded hcookie) (fun _ _ _ => consoleInv_step) hmid
  exact current_step_iff hstep hinv (hall.last hmid)

/-- The page creates sandbox 1; a renewal is sent and answered. -/
def renewing : List ConsoleEvent :=
  [.probeServed false, .probeProcessed, .createServed, .cookieStored, .createProcessed, .listed,
    .renew, .renewalServed 0 false]

/-- New sandbox creates sandbox 2. -/
def replacing : List ConsoleEvent :=
  [.newSandbox, .createServed, .cookieStored, .createProcessed]

/-- A renewal delivered while sandbox 2 is being created. -/
theorem console_current_delivered :
    Throughout Console.step Console.Current (.loaded 0 [] none)
      (renewing ++ .renewalProcessed 0 :: replacing) :=
  (console_current_iff (by decide) (eq_ok_getD (by decide) (.loaded 0 [] none))).mpr (by decide)

/-- Delivered after it, the same renewal brings back sandbox 1. -/
theorem console_falls_back :
    ¬ Throughout Console.step Console.Current (.loaded 0 [] none)
      (renewing ++ replacing ++ [.renewalProcessed 0]) := by
  intro hall
  have hlast := hall.last (eq_ok_getD (by decide) (.loaded 0 [] none))
  exact absurd hlast (by decide)

end LuxLedger.Web
