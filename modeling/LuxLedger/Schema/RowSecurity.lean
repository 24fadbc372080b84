/-
  Schema/RowSecurity.lean --- the statements under row-level security.

  A policy of the ledger tables shows a session the rows whose `tenant_id` is the
  setting `app.tenant_id`, and lets it write no others.  The triggers run with the
  rights of the session, so their queries see what it sees; unique indexes and foreign
  keys are checked against whole tables.  Policies are those of migration 0000, and of
  0004 for allocations, holds and hold entries.
-/
import LuxLedger.Schema.Statements

set_option autoImplicit false

namespace LuxLedger.Schema

open LuxLedger.Relational

/-! ## Policies -/

/-- The tables with `ENABLE ROW LEVEL SECURITY`. -/
inductive SecuredTable where
  | assets
  | accounts
  | transactions
  | entries
  | creditGrants
  | creditGrantEntries
  | creditGrantCapacityVersions
  | creditGrantHoldAllocations
  | holds
  | holdEntries
  deriving DecidableEq, Repr

/-- `FORCE ROW LEVEL SECURITY`: the policy is on the owner of the table as well. -/
def SecuredTable.forced : SecuredTable → Bool
  | .accounts | .transactions | .entries => false
  | _ => true

/-- The name of a table in an error. -/
def SecuredTable.name : SecuredTable → String
  | .assets => "assets"
  | .accounts => "accounts"
  | .transactions => "transactions"
  | .entries => "entries"
  | .creditGrants => "credit_grants"
  | .creditGrantEntries => "credit_grant_entries"
  | .creditGrantCapacityVersions => "credit_grant_capacity_versions"
  | .creditGrantHoldAllocations => "credit_grant_hold_allocations"
  | .holds => "holds"
  | .holdEntries => "hold_entries"

/-- Who executes a statement. -/
structure SessionRole where
  /-- a superuser, or a role with BYPASSRLS -/
  bypasses : Bool
  /-- the owner of the tables -/
  owns : Bool
  /-- `current_setting('app.tenant_id', true)` -/
  tenant : Option Uuid
  deriving DecidableEq, Repr

namespace SessionRole

variable (role : SessionRole) (table : SecuredTable)

/-- The policy of the table applies to the role. -/
def restricted : Bool := !role.bypasses && (!role.owns || table.forced)

/-- `tenant_id = current_setting('app.tenant_id', true)`, where the policy applies; an
unset setting is NULL and equals nothing. -/
def sees (tenantId : Uuid) : Bool := !role.restricted table || role.tenant = some tenantId

/-- `WITH CHECK`. -/
def withCheck (tenantId : Uuid) : Except SqlError Unit :=
  require (role.sees table tenantId)
    (.raised ("new row violates row-level security policy for table " ++ table.name) "42501")

end SessionRole

/-- What the queries of a role read: `USING`. -/
def Db.visible (s : Db) (role : SessionRole) : Db where
  assets := s.assets.filter fun a => role.sees .assets a.tenantId
  accounts := s.accounts.filter fun a => role.sees .accounts a.tenantId
  transactions := s.transactions.filter fun t => role.sees .transactions t.tenantId
  entries := s.entries.filter fun e => role.sees .entries e.tenantId
  creditGrants := s.creditGrants.filter fun g => role.sees .creditGrants g.tenantId
  creditGrantEntries := s.creditGrantEntries.filter fun l =>
    role.sees .creditGrantEntries l.tenantId
  holds := s.holds.filter fun h => role.sees .holds h.tenantId
  holdEntries := s.holdEntries.filter fun he => role.sees .holdEntries he.tenantId
  creditGrantHoldAllocations := s.creditGrantHoldAllocations.filter fun a =>
    role.sees .creditGrantHoldAllocations a.tenantId
  creditGrantCapacityVersions := s.creditGrantCapacityVersions.filter fun v =>
    role.sees .creditGrantCapacityVersions v.tenantId

/-! ## Capacity versions -/

variable (role : SessionRole)

/-- `INSERT INTO credit_grant_capacity_versions` of one row. -/
def insertCapacityVersionAs (triggerDepth : Nat) (s : Db) (new : CreditGrantCapacityVersion) :
    Except SqlError Db := do
  let row ← rejectCreditGrantCapacityBaselineInsert (s.visible role) triggerDepth new
  role.withCheck .creditGrantCapacityVersions row.tenantId
  checkCapacityVersion row
  uniqueCapacityVersion s row
  foreignKeysCapacityVersion s row
  .ok (s.addCapacityVersion row)

/-- `append_credit_grant_capacity_version`. -/
def appendCreditGrantCapacityVersionAs (s : Db) (new : CreditGrantEntry) : Except SqlError Db :=
  insertCapacityVersionAs role 2 s
    ((carriedVersion (s.visible role) new).move new.amountMinor new.kind)

/-- `append_credit_grant_reservation_version`. -/
def appendCreditGrantReservationVersionAs (triggerDepth : Nat) (s : Db)
    (tenantId grantId : Uuid) (delta : Int) (allocationId holdId : Option Uuid) :
    Except SqlError Db := do
  raiseIf (.of (triggerDepth = 0))
    (raiseException "reservation versions require a reservation event")
  match (s.visible role).latestVersion tenantId grantId with
  | none => .error (raiseException "reservation requires an issued grant")
  | some v =>
      insertCapacityVersionAs role (triggerDepth + 1) s
        { v with
          sourceEntryId := none
          sourceAllocationId := allocationId
          sourceHoldId := holdId
          version := v.version + 1
          reservedMinor := v.reservedMinor + delta }

/-- `append_grant_allocation_reservation`. -/
def appendGrantAllocationReservationAs (s : Db) (new : CreditGrantHoldAllocation) :
    Except SqlError Db :=
  appendCreditGrantReservationVersionAs role 1 s new.tenantId new.grantId new.amountMinor
    (some new.id) none

/-! ## Rows with BEFORE INSERT triggers

The triggers read what the role sees; the constraints behind them are those of the
same tables. -/

/-- The constraints of `credit_grants`. -/
def creditGrantConstraints (s : Db) (new : CreditGrant) : Except SqlError Unit := do
  require (new.accountId ≠ new.fundingAccountId) (.checkViolation "credit_grants_accounts_chk")
  require (∀ g ∈ s.creditGrants, g.id ≠ new.id) (.uniqueViolation "credit_grants_pkey")
  require (∀ g ∈ s.creditGrants, g.transactionId ≠ new.transactionId)
    (.uniqueViolation "credit_grants_transaction_uq")
  require (s.hasAccount new.tenantId new.ledgerId new.accountId)
    (.foreignKeyViolation "credit_grants_account_scope_fk")
  require (s.hasAccount new.tenantId new.ledgerId new.fundingAccountId)
    (.foreignKeyViolation "credit_grants_funding_account_scope_fk")
  require ((s.transaction? new.transactionId).any fun t =>
      t.tenantId = new.tenantId ∧ t.ledgerId = new.ledgerId)
    (.foreignKeyViolation "credit_grants_transaction_scope_fk")

/-- Everything that is checked of a grant as it is stored. -/
def checkCreditGrantAs (s : Db) (new : CreditGrant) : Except SqlError Unit := do
  requireGrantEnabledAccount (s.visible role) new
  rejectExpiringGrantEnabledFunding (s.visible role) new
  role.withCheck .creditGrants new.tenantId
  creditGrantConstraints s new

/-- The constraints of `credit_grant_entries`. -/
def creditGrantEntryConstraints (s : Db) (new : CreditGrantEntry) : Except SqlError Unit := do
  require (0 < new.amountMinor) (.checkViolation "credit_grant_entries_amount_positive_chk")
  require (∀ l ∈ s.creditGrantEntries, ¬ (l.grantId = new.grantId ∧ l.entryId = new.entryId))
    (.uniqueViolation "credit_grant_entries_pk")
  require (new.kind = .issuance → ∀ l ∈ s.creditGrantEntries,
      ¬ (l.kind = .issuance ∧ l.grantId = new.grantId))
    (.uniqueViolation "credit_grant_entries_one_issuance_uq")
  require (new.kind = .reversal → ∀ l ∈ s.creditGrantEntries,
      ¬ (l.kind = .reversal ∧ l.grantId = new.grantId))
    (.uniqueViolation "credit_grant_entries_one_reversal_uq")
  require ((s.creditGrant? new.grantId).any fun g => g.tenantId = new.tenantId ∧
      g.ledgerId = new.ledgerId ∧ g.accountId = new.accountId)
    (.foreignKeyViolation "credit_grant_entries_grant_fk")
  require ((s.entry? new.entryId).any fun e => e.tenantId = new.tenantId ∧
      e.accountId = new.accountId)
    (.foreignKeyViolation "credit_grant_entries_entry_fk")

/-- The validator and the constraints of `credit_grant_entries` for one row. -/
def checkCreditGrantEntryAs (now : Timestamp) (s : Db) (new : CreditGrantEntry) :
    Except SqlError Unit := do
  validateCreditGrantEntry (s.visible role) now new
  role.withCheck .creditGrantEntries new.tenantId
  creditGrantEntryConstraints s new

/-- The constraints of `credit_grant_hold_allocations`. -/
def allocationConstraints (s : Db) (new : CreditGrantHoldAllocation) : Except SqlError Unit := do
  require (0 < new.amountMinor)
    (.checkViolation "credit_grant_hold_allocations_amount_positive_chk")
  require (∀ a ∈ s.creditGrantHoldAllocations, a.id ≠ new.id)
    (.uniqueViolation "credit_grant_hold_allocations_pkey")
  require (∀ a ∈ s.creditGrantHoldAllocations,
      ¬ (a.grantId = new.grantId ∧ a.holdEntryId = new.holdEntryId))
    (.uniqueViolation "credit_grant_hold_allocations_grant_hold_entry_uq")
  require (s.allocationGrant? new).isSome
    (.foreignKeyViolation "credit_grant_hold_allocations_grant_fk")
  require ((s.allocationHoldEntry? new).any fun he => he.accountId = new.accountId)
    (.foreignKeyViolation "credit_grant_hold_allocations_hold_entry_fk")

/-- Everything that is checked of an allocation as it is stored. -/
def checkCreditGrantHoldAllocationAs (now : Timestamp) (s : Db)
    (new : CreditGrantHoldAllocation) : Except SqlError Unit := do
  validateCreditGrantHoldAllocation (s.visible role) now new
  role.withCheck .creditGrantHoldAllocations new.tenantId
  allocationConstraints s new

/-- The constraints of `holds`. -/
def holdConstraints (s : Db) (new : Hold) : Except SqlError Unit := do
  checkHold new
  require (∀ h ∈ s.holds, h.id ≠ new.id) (.uniqueViolation "holds_pkey")
  require (∀ h ∈ s.holds, ¬ (h.tenantId = new.tenantId ∧ h.reference = new.reference))
    (.uniqueViolation "holds_tenant_reference_uq")
  require (s.hasAsset new.tenantId new.assetId) (.foreignKeyViolation "holds_asset_fk")

/-- Everything that is checked of a hold as it is stored. -/
def checkHoldInsertAs (s : Db) (new : Hold) : Except SqlError Unit := do
  guardHoldInsert new
  role.withCheck .holds new.tenantId
  holdConstraints s new

/-- A row of a table without BEFORE INSERT trigger. -/
def checkRowAs {ρ : Type} (table : SecuredTable) (tenantOf : ρ → Uuid)
    (check : Db → ρ → Except SqlError Unit) (s : Db) (new : ρ) : Except SqlError Unit := do
  role.withCheck table (tenantOf new)
  check s new

/-! ## UPDATE of a hold -/

/-- The loop body of `release_grant_hold_reservations`. -/
def releaseGrantAs (old : Hold) (s : Db) (grant : CreditGrant) : Except SqlError Db := do
  let allocated := (s.visible role).holdAllocated old.tenantId grant.id old.id
  let consumed := (s.visible role).holdConsumed old.tenantId grant.id old.id
  raiseIf (.of (allocated < consumed))
    (.raised "allocated hold finalization does not match consumption" "LL001")
  if allocated > consumed then
    appendCreditGrantReservationVersionAs role 1 s old.tenantId grant.id (consumed - allocated)
      none (some old.id)
  else .ok s

/-- `release_grant_hold_reservations`. -/
def releaseGrantHoldReservationsAs (s : Db) (old new : Hold) : Except SqlError Db :=
  if ¬ (s.visible role).creditGrantHoldAllocations.any fun a =>
      a.tenantId = old.tenantId ∧ (s.visible role).allocationHoldId a = some old.id then .ok s
  else if new.state ≠ .voided then .ok s
  else ((s.visible role).grantsOfHold old.tenantId old.id).foldlM (releaseGrantAs role old) s

/-- One row of an UPDATE of `holds`, of those the role sees. -/
def updateHoldAs (s : Db) (change : Uuid × Hold) : Except SqlError Db :=
  match (s.visible role).hold? change.1 with
  | none => .error .noDataFound
  | some old => do
      guardHoldUpdate old change.2
      let released ← releaseGrantHoldReservationsAs role s old change.2
      role.withCheck .holds change.2.tenantId
      checkHold change.2
      .ok (released.replaceHold change.2)

/-! ## Statements and transactions -/

/-- UPDATE or DELETE of capacity versions, of those the role sees. -/
def rejectCreditGrantMutationAs (targets : List (Uuid × Int)) (s : Db) : Except SqlError Db := do
  let _ ← rejectCreditGrantMutation targets (s.visible role)
  .ok s

/-- Execute a statement at a transaction timestamp. -/
def Statement.execAs (now : Timestamp) : Statement → Db → Except SqlError Db
  | .insertAssets rows, s =>
      insertEach (checkRowAs role .assets Asset.tenantId checkAsset) Db.addAsset rows s
  | .insertAccounts rows, s =>
      insertEach (checkRowAs role .accounts Account.tenantId checkAccount) Db.addAccount rows s
  | .insertTransactions rows, s => do
      let stored ← insertEach (checkRowAs role .transactions Transaction.tenantId checkTransaction)
        Db.addTransaction rows s
      checkEach (checkRelatedTransaction stored) rows
      .ok stored
  | .insertEntries rows, s =>
      insertEach (checkRowAs role .entries Entry.tenantId checkEntry) Db.addEntry rows s
  | .insertCreditGrants rows, s => insertEach (checkCreditGrantAs role) Db.addCreditGrant rows s
  | .insertCreditGrantEntries rows, s =>
      insertRows (checkCreditGrantEntryAs role now) Db.addCreditGrantEntry
        (appendCreditGrantCapacityVersionAs role) rows s
  | .insertHolds rows, s => insertEach (checkHoldInsertAs role) Db.addHold rows s
  | .insertHoldEntries rows, s =>
      insertEach (checkRowAs role .holdEntries HoldEntry.tenantId checkHoldEntry)
        Db.addHoldEntry rows s
  | .insertCreditGrantHoldAllocations rows, s =>
      insertRows (checkCreditGrantHoldAllocationAs role now) Db.addCreditGrantHoldAllocation
        (appendGrantAllocationReservationAs role) rows s
  | .updateHolds changes, s => changes.foldlM (updateHoldAs role) s
  | .insertCapacityVersions rows, s => rows.foldlM (insertCapacityVersionAs role 1) s
  | .updateCapacityVersions targets, s => rejectCreditGrantMutationAs role targets s
  | .deleteCapacityVersions targets, s => rejectCreditGrantMutationAs role targets s

/-- Execute and commit; the deferred triggers read what the role sees. -/
def commitAs (s : Db) (tx : DbTransaction) : Except SqlError Db := do
  let final ← tx.statements.foldlM (fun s stmt => stmt.execAs role tx.now s) s
  checkEach (Statement.deferred tx.now (final.visible role)) tx.statements
  .ok final

end LuxLedger.Schema
