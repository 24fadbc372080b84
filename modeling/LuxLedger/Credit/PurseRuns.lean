/-
  Credit/PurseRuns.lean --- the database runs the purse.

  Issuances, payouts, reservations, captures and voids are the operations on prepaid
  credit.  In every committed state the database accepts one exactly if the purse allows it
  and then holds the purse that the operation makes; so a run over the database is a run
  over the purse, and what is shown of the purse alone holds of the tables.

  An operation about another hold leaves a hold what it has.  A reservation that is voided
  leaves no trace, whatever came between.
-/
import LuxLedger.Credit.Issuing
import LuxLedger.Credit.Payouts
import LuxLedger.Credit.Capturing

set_option autoImplicit false

namespace LuxLedger.Credit

open LuxLedger.Schema LuxLedger.Relational

/-! ## Operations -/

/-- What is done with prepaid credit. -/
inductive Operation where
  | issue (now : Timestamp) (i : Issue)
  | payOut (now : Timestamp) (p : Posting) (kind : CreditGrantEntryKind)
      (shares : List (Uuid × Int))
  | reserve (now : Timestamp) (r : Reservation) (shares : List (Uuid × Int))
  | capture (now : Timestamp) (p : Posting) (hold : Hold) (shares : List (Uuid × Int))
  | void (now : Timestamp) (hold : Hold)

namespace Operation

/-- The database transaction of an operation. -/
def transaction : Operation → DbTransaction
  | issue now i => i.issue now
  | payOut now p kind shares => p.payOut now kind shares
  | reserve now r shares => r.reserve now shares
  | capture now p hold shares => p.capture now hold shares
  | void now hold => voidHold now hold

/-- The hold that an operation is about. -/
def holdId : Operation → Option Uuid
  | issue _ _ => none
  | payOut _ _ _ _ => none
  | reserve _ r _ => some r.holdId
  | capture _ _ hold _ => some hold.id
  | void _ hold => some hold.id

/-- The rows that an operation names are there, and its ids are new. -/
def Possible (s : Db) : Operation → Prop
  | issue _ i => i.Possible s
  | payOut _ p kind _ => p.Possible s ∧ paysOut kind ∧ p.holdId = none
  | reserve _ r _ => r.Possible s
  | capture _ p hold _ => p.Possible s ∧ p.Captures s hold
  | void _ hold => hold ∈ s.holds

/-- The purse has what an operation asks for. -/
def Allowed (w : Purse) : Operation → Prop
  | issue now i => i.grant.LiveAt now
  | payOut now p kind shares => p.Covered w now kind shares
  | reserve now r shares =>
      w.Split now r.account.tenantId r.account.id r.amountMinor shares
  | capture _ p hold shares => p.Capturable w hold shares
  | void _ hold => hold.state = .held

end Operation

/-- The purse after an operation. -/
def Purse.perform (w : Purse) : Operation → Purse
  | .issue _ i => w.issue i.grant i.amountMinor
  | .payOut _ p _ shares => w.take p.account.tenantId shares
  | .reserve _ r shares => w.setAside r.account.tenantId r.holdId shares
  | .capture _ _ hold shares => w.draw hold.id shares
  | .void _ hold => w.release hold.tenantId hold.id

/-! ## One operation -/

section Step

variable {s s' : Db} {op : Operation} (hs : Committed s) (hop : op.Possible s)
include hs hop

theorem commit_operation_iff :
    (∃ s', commit s op.transaction = .ok s') ↔ op.Allowed (purse s) := by
  cases op with
  | issue now i => exact commit_issue_iff hs hop
  | payOut now p kind shares =>
      obtain ⟨hp, hkind, hnone⟩ := hop
      exact commit_payOut_iff hs.toUsable hp hkind hnone
  | reserve now r shares => exact commit_reserve_iff hs.toUsable hop
  | capture now p hold shares => exact commit_capture_iff hs hop.1 hop.2
  | void now hold => exact commit_voidHold_iff hs hop

theorem purse_operation (h : commit s op.transaction = .ok s') :
    purse s' = (purse s).perform op := by
  have hexec := (commit_eq_ok_iff.mp h).1
  cases op with
  | issue now i => exact purse_issue hs hop hexec
  | payOut now p kind shares =>
      obtain ⟨hp, hkind, hnone⟩ := hop
      exact purse_payOut hs.toUsable hp hkind hnone hexec
  | reserve now r shares => exact purse_reserve hs.toUsable hop hexec
  | capture now p hold shares => exact purse_capture hs hop.1 hop.2 hexec
  | void now hold => exact purse_voidHold hs hop h

end Step

/-! ## Runs of operations -/

/-- Each operation is possible in the state it meets. -/
def PossibleRun : Db → List Operation → Prop
  | _, [] => True
  | s, op :: ops => op.Possible s ∧ ∀ s', commit s op.transaction = .ok s' → PossibleRun s' ops

/-- Each operation is allowed by the purse it meets. -/
def AllowedRun : Purse → List Operation → Prop
  | _, [] => True
  | w, op :: ops => op.Allowed w ∧ AllowedRun (w.perform op) ops

/-- The state after operations that are all accepted. -/
def runOperations (s : Db) (ops : List Operation) : Except SqlError Db :=
  run commit s (ops.map Operation.transaction)

theorem runOperations_cons {s s' : Db} {op : Operation} {ops : List Operation} :
    runOperations s (op :: ops) = .ok s' ↔
      ∃ mid, commit s op.transaction = .ok mid ∧ runOperations mid ops = .ok s' := by
  simp only [runOperations, run, List.map_cons, List.foldlM_cons, bind_eq_ok_iff]

theorem runOperations_iff : ∀ {ops : List Operation} {s : Db}, Committed s → PossibleRun s ops →
    ((∃ s', runOperations s ops = .ok s') ↔ AllowedRun (purse s) ops)
  | [], s, _, _ => iff_of_true ⟨s, rfl⟩ trivial
  | op :: ops, s, hs, hrun => by
      obtain ⟨hop, hrest⟩ := hrun
      simp only [runOperations_cons, AllowedRun]
      constructor
      · rintro ⟨s', mid, hcommit, hops⟩
        refine ⟨(commit_operation_iff hs hop).mp ⟨mid, hcommit⟩, ?_⟩
        rw [← purse_operation hs hop hcommit]
        exact (runOperations_iff (hs.commit hcommit) (hrest mid hcommit)).mp ⟨s', hops⟩
      · rintro ⟨hallowed, hops⟩
        obtain ⟨mid, hcommit⟩ := (commit_operation_iff hs hop).mpr hallowed
        rw [← purse_operation hs hop hcommit] at hops
        obtain ⟨s', hs'⟩ :=
          (runOperations_iff (hs.commit hcommit) (hrest mid hcommit)).mpr hops
        exact ⟨s', mid, hcommit, hs'⟩

theorem purse_runOperations : ∀ {ops : List Operation} {s s' : Db}, Committed s →
    PossibleRun s ops → runOperations s ops = .ok s' →
      Committed s' ∧ purse s' = ops.foldl Purse.perform (purse s)
  | [], s, s', hs, _, h => by
      obtain rfl : s = s' := Except.ok.inj h
      exact ⟨hs, rfl⟩
  | op :: ops, s, s', hs, hrun, h => by
      obtain ⟨hop, hrest⟩ := hrun
      obtain ⟨mid, hcommit, hops⟩ := runOperations_cons.mp h
      obtain ⟨hs', hpurse⟩ :=
        purse_runOperations (hs.commit hcommit) (hrest mid hcommit) hops
      rw [hpurse, purse_operation hs hop hcommit]
      exact ⟨hs', rfl⟩

/-- A reservation, operations, and the void of its hold. -/
def Reservation.voidedAfter (r : Reservation) (now later : Timestamp)
    (shares : List (Uuid × Int)) (ops : List Operation) : List Operation :=
  .reserve now r shares :: ops ++ [.void later r.hold]

/-! ## Other holds -/

namespace Purse

variable {w : Purse} {op : Operation} {ops : List Operation} {id tenantId : Uuid}
  {shares : List (Uuid × Int)}

/-- An operation about another hold leaves a hold what it has. -/
theorem left_perform (hother : op.holdId ≠ some id) : (w.perform op).left id = w.left id := by
  funext g
  cases op with
  | issue now i => rfl
  | payOut now p kind taken => rfl
  | reserve now r taken =>
      have hne : ¬ id = r.holdId := fun hid => hother (congrArg some hid.symm)
      simp [perform, setAside, hne]
  | capture now p hold taken =>
      have hne : ¬ id = hold.id := fun hid => hother (congrArg some hid.symm)
      simp [perform, draw, hne]
  | void now hold =>
      have hne : ¬ id = hold.id := fun hid => hother (congrArg some hid.symm)
      simp [perform, release, hne]

theorem left_performs (hother : ∀ op ∈ ops, op.holdId ≠ some id) :
    (ops.foldl perform w).left id = w.left id := by
  induction ops generalizing w with
  | nil => rfl
  | cons op ops ih =>
      obtain ⟨hop, hops⟩ := List.forall_mem_cons.mp hother
      exact (ih hops).trans (left_perform hop)

/-- And can as well be done before shares are set aside for it. -/
theorem perform_setAside (hother : op.holdId ≠ some id) :
    (w.setAside tenantId id shares).perform op = (w.perform op).setAside tenantId id shares := by
  cases op with
  | issue now i =>
      ext t g
      · rfl
      · simp only [perform, setAside, take, issue]
        omega
      · rfl
  | payOut now p kind taken =>
      ext t g
      · rfl
      · simp only [perform, setAside, take]
        omega
      · rfl
  | reserve now r taken =>
      ext t g
      · rfl
      · simp only [perform, setAside, take]
        omega
      · simp only [perform, setAside]
        omega
  | capture now p hold taken =>
      ext t g
      · rfl
      · rfl
      · simp only [perform, setAside, draw]
        omega
  | void now hold =>
      have hne : hold.id ≠ id := fun hid => hother (congrArg some hid)
      ext t g
      · rfl
      · simp only [perform, setAside, take, release, hne, if_false]
        split_ifs <;> omega
      · simp only [perform, setAside, release]
        split_ifs with hreleased haside
        · exact absurd (hreleased.symm.trans haside) hne
        · rfl
        · rfl
        · rfl

theorem performs_setAside (hother : ∀ op ∈ ops, op.holdId ≠ some id) :
    ops.foldl perform (w.setAside tenantId id shares) =
      (ops.foldl perform w).setAside tenantId id shares := by
  induction ops generalizing w with
  | nil => rfl
  | cons op ops ih =>
      obtain ⟨hop, hops⟩ := List.forall_mem_cons.mp hother
      rw [List.foldl_cons, perform_setAside hop, ih hops]
      rfl

/-- What is set aside, and released after operations about other holds, was never missing. -/
theorem performs_reserve_void {now later : Timestamp} {r : Reservation}
    (hnew : ∀ g, w.left r.holdId g = 0) (hother : ∀ op ∈ ops, op.holdId ≠ some r.holdId) :
    (r.voidedAfter now later shares ops).foldl perform w = ops.foldl perform w := by
  have hleft : ∀ g, (ops.foldl perform w).left r.holdId g = 0 := by
    intro g
    rw [left_performs hother]
    exact hnew g
  rw [Reservation.voidedAfter, List.cons_append, List.foldl_cons, List.foldl_append,
    List.foldl_cons, List.foldl_nil]
  change ((ops.foldl perform (w.setAside r.account.tenantId r.holdId shares)).release
    r.account.tenantId r.holdId) = _
  rw [performs_setAside hother, release_setAside hleft]

end Purse

/-! ## The tables run the purse -/

/-- From every committed state, operations that are possible are accepted exactly if the purse
allows them.  They then leave the purse that they make of it, nothing is overdrawn, and a hold
that none of them is about has what it had. -/
theorem purse_refined {log : List DbTransaction} {s : Db} (h : replay log = .ok s)
    {ops : List Operation} (hops : PossibleRun s ops) :
    ((∃ s', runOperations s ops = .ok s') ↔ AllowedRun (purse s) ops) ∧
      ∀ s', runOperations s ops = .ok s' →
        purse s' = ops.foldl Purse.perform (purse s) ∧ (purse s').Sound ∧
          ∀ id, (∀ op ∈ ops, op.holdId ≠ some id) → (purse s').left id = (purse s).left id := by
  have hs : Committed s := replay_committed h
  refine ⟨runOperations_iff hs hops, fun s' hrun => ?_⟩
  obtain ⟨hs', hpurse⟩ := purse_runOperations hs hops hrun
  refine ⟨hpurse, purse_sound hs'.reserve, fun id hother => ?_⟩
  rw [hpurse]
  exact Purse.left_performs hother

namespace Sample

/-- A hold of 30 of the grant, next to hold 400. -/
def hold30 : Reservation :=
  { hold150 with
    reference := "shipment"
    allocationId := fun grantId => 700 + grantId
    amountMinor := 30
    createdAt := 4 }

/-- Hold 400 is captured while the other is held. -/
def capture60 : Operation := .capture 70 (captureOf 60) hold [(300, 60)]

/-- A hold of 30 that is voided after a capture of another. -/
def holdThenVoid : List Operation := hold30.voidedAfter 4 80 [(300, 30)] [capture60]

/-- The state that an accepted operation leaves. -/
def afterOperation (s : Db) (op : Operation) : Db :=
  (commit s op.transaction).toOption.getD Db.empty

theorem possibleRun_cons {s : Db} {op : Operation} {ops : List Operation} (hop : op.Possible s)
    (hcommit : (commit s op.transaction).toBool = true)
    (hops : PossibleRun (afterOperation s op) ops) : PossibleRun s (op :: ops) := by
  refine ⟨hop, fun s' h => ?_⟩
  obtain rfl : afterOperation s op = s' :=
    Except.ok.inj ((eq_ok_getD hcommit Db.empty).symm.trans h)
  exact hops

theorem hold30_possible : hold30.Possible (stateAfter (log.take 3)) :=
  { account := (by decide +kernel : prepaid ∈ (stateAfter (log.take 3)).accounts)
    counter := (by decide +kernel : funding ∈ (stateAfter (log.take 3)).accounts)
    enabled := rfl
    other := rfl
    amountPos := by decide
    holdNew := (by decide +kernel : ∀ h ∈ (stateAfter (log.take 3)).holds, h.id ≠ 402)
    referenceNew := (by decide +kernel : ∀ h ∈ (stateAfter (log.take 3)).holds,
      ¬ (h.tenantId = 1 ∧ h.reference = "shipment"))
    debitNew := (by decide +kernel : ∀ he ∈ (stateAfter (log.take 3)).holdEntries, he.id ≠ 502)
    creditNew := (by decide +kernel : ∀ he ∈ (stateAfter (log.take 3)).holdEntries, he.id ≠ 503)
    distinct := by decide
    allocationNew := by
      have hids : ∀ a ∈ (stateAfter (log.take 3)).creditGrantHoldAllocations, a.id < 700 := by
        decide +kernel
      exact fun a ha g => Nat.ne_of_lt ((hids a ha).trans_le (Nat.le_add_right 700 g))
    allocationIds := fun g g' hsame => Nat.add_left_cancel hsame }

theorem holdThenVoid_possible : PossibleRun (stateAfter (log.take 3)) holdThenVoid := by
  refine possibleRun_cons hold30_possible (by rfl) ?_
  refine possibleRun_cons ⟨⟨?_, rfl, rfl⟩, ?_⟩ (by rfl) ?_
  · constructor <;> decide +kernel
  · constructor <;> decide +kernel
  · refine possibleRun_cons ?_ (by rfl) trivial
    change _ ∈ _
    decide +kernel

theorem holdThenVoid_accepted :
    ∃ s', runOperations (stateAfter (log.take 3)) holdThenVoid = .ok s' :=
  ⟨_, eq_ok_getD (by rfl) Db.empty⟩

end Sample

theorem purse_refined_sample :
    AllowedRun (purse (Sample.stateAfter (Sample.log.take 3))) Sample.holdThenVoid :=
  (purse_refined (Sample.replay_stateAfter (by rfl)) Sample.holdThenVoid_possible).1.mp
    Sample.holdThenVoid_accepted

/-- A reservation that is voided leaves no trace in the purse, whatever is done about other
holds in between. -/
theorem voided_reservation_traceless {log : List DbTransaction} {s s' : Db}
    (h : replay log = .ok s) {now later : Timestamp} {r : Reservation}
    {shares : List (Uuid × Int)} {ops : List Operation}
    (hpossible : PossibleRun s (r.voidedAfter now later shares ops))
    (hother : ∀ op ∈ ops, op.holdId ≠ some r.holdId)
    (hrun : runOperations s (r.voidedAfter now later shares ops) = .ok s') :
    purse s' = ops.foldl Purse.perform (purse s) := by
  have hr : r.Possible s := hpossible.1
  have hnone : s.hold? r.holdId = none := lookup_eq_none_iff.mpr hr.holdNew
  have hnew : ∀ g, (purse s).left r.holdId g = 0 := by
    intro g
    change leftMinor s r.holdId g = 0
    rw [leftMinor, hnone]
  rw [(purse_runOperations (replay_committed h) hpossible hrun).2]
  exact Purse.performs_reserve_void hnew hother

/-- Only the 60 of hold 400 are gone. -/
theorem voided_reservation_traceless_sample :
    ∃ s', runOperations (Sample.stateAfter (Sample.log.take 3)) Sample.holdThenVoid = .ok s' ∧
      purse s' = (purse (Sample.stateAfter (Sample.log.take 3))).draw 400 [(300, 60)] := by
  obtain ⟨s', hrun⟩ := Sample.holdThenVoid_accepted
  exact ⟨s', hrun, voided_reservation_traceless (Sample.replay_stateAfter (by rfl))
    Sample.holdThenVoid_possible (by decide) hrun⟩

end LuxLedger.Credit
