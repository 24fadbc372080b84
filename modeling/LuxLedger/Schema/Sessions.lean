/-
  Schema/Sessions.lean --- database transactions that run at the same time.

  A session sees a snapshot of the committed tables and its own writes.  It inserts
  row by row; the AFTER triggers of a row, the rounds of the release loop of a void and
  the write of an updated hold each run as a step of their own, on what the session
  sees by then.  Between any two steps it may take a new snapshot, as every query does
  under READ COMMITTED, or keep the old one, as under REPEATABLE READ.

  The unique indexes hold over the rows of all sessions: they are checked when a
  session commits, against all that is committed.  In the database the later of two
  conflicting writers waits for the earlier one to end, which admits fewer
  interleavings.  `SELECT … FOR UPDATE` on a row of `credit_grants`, which nothing
  updates, gives no session a newer snapshot, so it is no step here.
-/
import LuxLedger.Relational.Interleaving
import LuxLedger.Schema.Statements

set_option autoImplicit false

namespace LuxLedger.Schema

open LuxLedger.Relational

/-! ## What a session writes -/

/-- A row of an INSERT. -/
inductive NewRow where
  | asset (row : Asset)
  | account (row : Account)
  | transaction (row : Transaction)
  | entry (row : Entry)
  | creditGrant (row : CreditGrant)
  | creditGrantEntry (row : CreditGrantEntry)
  | hold (row : Hold)
  | holdEntry (row : HoldEntry)
  | allocation (row : CreditGrantHoldAllocation)
  deriving DecidableEq, Repr

/-- The INSERT of the row alone. -/
def NewRow.statement : NewRow → Statement
  | .asset row => .insertAssets [row]
  | .account row => .insertAccounts [row]
  | .transaction row => .insertTransactions [row]
  | .entry row => .insertEntries [row]
  | .creditGrant row => .insertCreditGrants [row]
  | .creditGrantEntry row => .insertCreditGrantEntries [row]
  | .hold row => .insertHolds [row]
  | .holdEntry row => .insertHoldEntries [row]
  | .allocation row => .insertCreditGrantHoldAllocations [row]

/-- The BEFORE triggers and the constraints of the row. -/
def NewRow.check (now : Timestamp) (s : Db) : NewRow → Except SqlError Unit
  | .asset row => checkAsset s row
  | .account row => checkAccount s row
  | .transaction row => checkTransaction s row
  | .entry row => checkEntry s row
  | .creditGrant row => checkCreditGrant s row
  | .creditGrantEntry row => checkCreditGrantEntry now s row
  | .hold row => checkHoldInsert s row
  | .holdEntry row => checkHoldEntry s row
  | .allocation row => checkCreditGrantHoldAllocation now s row

/-- A row that a session has inserted, a hold that it has changed, or a capacity version
that its triggers have appended. -/
inductive Write where
  | row (new : NewRow)
  | holdChange (old new : Hold)
  | capacityVersion (row : CreditGrantCapacityVersion)
  deriving DecidableEq, Repr

/-- The statement that writes it. -/
def Write.statement : Write → Statement
  | .row new => new.statement
  | .holdChange old new => .updateHolds [(old.id, new)]
  | .capacityVersion version => .insertCapacityVersions [version]

/-- Store a write. -/
def Db.put (s : Db) : Write → Db
  | .capacityVersion row => s.addCapacityVersion row
  | w => w.statement.store s

/-- The tables with the writes of a session. -/
def Db.place (s : Db) (writes : List Write) : Db := writes.foldl Db.put s

/-! ## Sessions -/

/-- What is left to do for a row that has been written. -/
inductive PendingTask where
  /-- `append_credit_grant_capacity_version` -/
  | lineage (row : CreditGrantEntry)
  /-- `append_grant_allocation_reservation` -/
  | allocation (row : CreditGrantHoldAllocation)
  /-- one round of the loop of `release_grant_hold_reservations` -/
  | release (old : Hold) (grant : CreditGrant)
  /-- the write of the hold once its BEFORE triggers have run -/
  | holdChange (old new : Hold)
  deriving DecidableEq, Repr

/-- The AFTER triggers of a row. -/
def NewRow.after : NewRow → List PendingTask
  | .creditGrantEntry row => [.lineage row]
  | .allocation row => [.allocation row]
  | _ => []

/-- An open database transaction. -/
structure Session where
  now : Timestamp
  snapshot : Db
  writes : List Write
  pending : List PendingTask
  deriving DecidableEq, Repr

/-- What a session sees. -/
def Session.view (session : Session) : Db := session.snapshot.place session.writes

/-- `BEGIN` at a timestamp. -/
def Session.begin (committed : Db) (now : Timestamp) : Session := ⟨now, committed, [], []⟩

/-- The capacity versions that a writer has appended. -/
def appendedVersions (before after : Db) : List Write :=
  (after.creditGrantCapacityVersions.drop before.creditGrantCapacityVersions.length).map
    .capacityVersion

/-- Do a task on what the session sees. -/
def PendingTask.run (s : Db) : PendingTask → Except SqlError (List Write)
  | .lineage row => do
      let after ← appendCreditGrantCapacityVersion s row
      return appendedVersions s after
  | .allocation row => do
      let after ← appendGrantAllocationReservation s row
      return appendedVersions s after
  | .release old grant => do
      let after ← releaseGrant old s grant
      return appendedVersions s after
  | .holdChange old new => do
      checkHold new
      return [.holdChange old new]

/-- The rounds of `release_grant_hold_reservations`. -/
def releaseTasks (s : Db) (old new : Hold) : List PendingTask :=
  if ¬ s.creditGrantHoldAllocations.any fun a =>
      a.tenantId = old.tenantId ∧ s.allocationHoldId a = some old.id then []
  else if new.state ≠ .voided then []
  else (s.grantsOfHold old.tenantId old.id).map (.release old)

/-- The steps of a session. -/
inductive Action where
  /-- insert a row; its AFTER triggers are left to do -/
  | insert (row : NewRow)
  /-- `UPDATE holds` of the row with an id; its release and its write are left to do -/
  | updateHold (id : Uuid) (new : Hold)
  /-- do the first of the tasks that are left -/
  | runTask
  /-- take a new snapshot -/
  | refresh
  deriving DecidableEq, Repr

/-- Make a step. -/
def Session.act (committed : Db) (session : Session) : Action → Except SqlError Session
  | .insert row => do
      row.check session.now session.view
      return { session with
        writes := session.writes ++ [.row row]
        pending := session.pending ++ row.after }
  | .updateHold id new =>
      match session.view.hold? id with
      | none => .error .noDataFound
      | some old => do
          guardHoldUpdate old new
          return { session with
            pending := session.pending ++ releaseTasks session.view old new ++
              [.holdChange old new] }
  | .runTask =>
      match session.pending with
      | [] => .ok session
      | task :: rest => do
          let done ← task.run session.view
          return { session with
            writes := session.writes ++ done
            pending := rest }
  | .refresh => .ok { session with snapshot := committed }

/-! ## Commit -/

/-- The unique indexes of all tables; NULLs are distinct. -/
def checkUniqueIndexes (s : Db) : Except SqlError Unit := do
  require (UniqueKey Asset.id s.assets) (.uniqueViolation "assets_pkey")
  require (UniqueKey (fun a : Asset => (a.tenantId, a.code)) s.assets)
    (.uniqueViolation "assets_tenant_code_uq")
  require (UniqueKey Account.id s.accounts) (.uniqueViolation "accounts_pkey")
  require (UniqueKey Transaction.id s.transactions) (.uniqueViolation "transactions_pkey")
  require (UniqueKey
      (fun t : Transaction => (t.tenantId, t.relationType, t.relatedTransactionId))
      (s.transactions.filter fun t => t.relatedTransactionId.isSome))
    (.uniqueViolation "transactions_relation_uq")
  require (UniqueKey Entry.id s.entries) (.uniqueViolation "entries_pkey")
  require (UniqueKey CreditGrant.id s.creditGrants) (.uniqueViolation "credit_grants_pkey")
  require (UniqueKey CreditGrant.transactionId s.creditGrants)
    (.uniqueViolation "credit_grants_transaction_uq")
  require (UniqueKey (fun l : CreditGrantEntry => (l.grantId, l.entryId)) s.creditGrantEntries)
    (.uniqueViolation "credit_grant_entries_pk")
  require (UniqueKey CreditGrantEntry.grantId
      (s.creditGrantEntries.filter fun l => l.kind = .issuance))
    (.uniqueViolation "credit_grant_entries_one_issuance_uq")
  require (UniqueKey CreditGrantEntry.grantId
      (s.creditGrantEntries.filter fun l => l.kind = .reversal))
    (.uniqueViolation "credit_grant_entries_one_reversal_uq")
  require (UniqueKey Hold.id s.holds) (.uniqueViolation "holds_pkey")
  require (UniqueKey (fun h : Hold => (h.tenantId, h.reference)) s.holds)
    (.uniqueViolation "holds_tenant_reference_uq")
  require (UniqueKey HoldEntry.id s.holdEntries) (.uniqueViolation "hold_entries_pkey")
  require (UniqueKey CreditGrantHoldAllocation.id s.creditGrantHoldAllocations)
    (.uniqueViolation "credit_grant_hold_allocations_pkey")
  require (UniqueKey (fun a : CreditGrantHoldAllocation => (a.grantId, a.holdEntryId))
      s.creditGrantHoldAllocations)
    (.uniqueViolation "credit_grant_hold_allocations_grant_hold_entry_uq")
  require (UniqueKey (fun v : CreditGrantCapacityVersion => (v.grantId, v.version))
      s.creditGrantCapacityVersions)
    (.uniqueViolation "credit_grant_capacity_versions_grant_version_uq")
  require (UniqueKey (fun v : CreditGrantCapacityVersion => (v.grantId, v.sourceEntryId))
      (s.creditGrantCapacityVersions.filter fun v => v.sourceEntryId.isSome))
    (.uniqueViolation "credit_grant_capacity_versions_source_entry_uq")
  require (UniqueKey CreditGrantCapacityVersion.sourceAllocationId
      (s.creditGrantCapacityVersions.filter fun v => v.sourceAllocationId.isSome))
    (.uniqueViolation "credit_grant_capacity_versions_source_allocation_uq")
  require (UniqueKey (fun v : CreditGrantCapacityVersion => (v.grantId, v.sourceHoldId))
      (s.creditGrantCapacityVersions.filter fun v => v.sourceHoldId.isSome))
    (.uniqueViolation "credit_grant_capacity_versions_source_hold_uq")

/-- A hold that a write changes is still the one that the session saw. -/
def Write.UpToDate (s : Db) : Write → Prop
  | .holdChange old _ => s.hold? old.id = some old
  | _ => True

instance (s : Db) (w : Write) : Decidable (w.UpToDate s) :=
  match w with
  | .row _ => isTrue trivial
  | .holdChange old _ => inferInstanceAs (Decidable (s.hold? old.id = some old))
  | .capacityVersion _ => isTrue trivial

/-- Apply a write to the committed tables. -/
def Db.apply (s : Db) (w : Write) : Except SqlError Db := do
  require (w.UpToDate s) (.raised "could not serialize access due to concurrent update" "40001")
  return s.put w

/-- `COMMIT`, once no task is left: the foreign key of `transactions` to itself, the
deferred triggers on what the session sees, its writes on the committed tables, and the
unique indexes over all rows. -/
def Session.commit (committed : Db) (session : Session) : Except SqlError Db := do
  require (session.pending = []) (.raised "a statement is in progress" "25001")
  checkEach (checkRelatedTransaction session.view)
    (session.writes.flatMap fun w => w.statement.newTransactions)
  checkEach (fun w => w.statement.deferred session.now session.view) session.writes
  let db ← session.writes.foldlM Db.apply committed
  checkUniqueIndexes db
  return db

/-- The sessions of the database. -/
def sessionRules : SessionRules SqlError Db Session Timestamp Action :=
  ⟨Session.begin, Session.act, Session.commit⟩

/-- A step of a session, with the session before it. -/
abbrev SessionStep : Type := Step Session Action

/-- The committed tables, and the steps of each session that has been committed. -/
abbrev Committed : Type := Recorded Db Session Action

/-- The committed tables and the open sessions after a schedule of steps, with a record of
what the sessions have done. -/
def interleave (schedule : List (SessionEvent Timestamp Action)) :
    Except SqlError (Sessions Committed (Recording Session Action)) :=
  run sessionRules.recorded.step (Sessions.idle ⟨Db.empty, []⟩) schedule

/-- The record changes nothing. -/
theorem interleave_unrecorded (schedule : List (SessionEvent Timestamp Action)) :
    (interleave schedule).map Sessions.unrecorded =
      run sessionRules.step (Sessions.idle Db.empty) schedule :=
  sessionRules.recorded_run _ schedule

end LuxLedger.Schema
