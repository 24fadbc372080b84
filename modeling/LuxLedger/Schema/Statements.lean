/-
  Schema/Statements.lean --- statements, database transactions and runs.

  A statement is an INSERT of any number of rows into one table, an UPDATE of
  holds, or an attempted direct write to the capacity versions.  A database
  transaction is a timestamp and a list of statements; it commits when every
  deferred constraint trigger accepts the final state for every row written.

  A foreign key is checked with the row, except the one of `transactions` to
  itself: it is checked when all rows of the statement are in, as a row may refer
  to a later one.  Tenants and ledgers have no table here.
-/
import LuxLedger.Schema.Lineage
import LuxLedger.Schema.Holds

set_option autoImplicit false

namespace LuxLedger.Schema

open LuxLedger.Relational

/-! ## Assets and accounts -/

/-- `code ~ '^[A-Z][A-Z0-9_]{1,31}$'`. -/
def assetCodeOk (code : String) : Bool :=
  match code.toList with
  | [] => false
  | first :: rest =>
      first.isUpper && rest.all (fun c => c.isUpper || c.isDigit || c = '_') &&
        decide (1 ≤ rest.length ∧ rest.length ≤ 31)

/-- The constraints of `assets`. -/
def checkAsset (s : Db) (new : Asset) : Except SqlError Unit := do
  require (assetCodeOk new.code) (.checkViolation "assets_code_chk")
  require (0 ≤ new.scale ∧ new.scale ≤ 18) (.checkViolation "assets_scale_chk")
  require (∀ a ∈ s.assets, a.id ≠ new.id) (.uniqueViolation "assets_pkey")
  require (∀ a ∈ s.assets, ¬ (a.tenantId = new.tenantId ∧ a.code = new.code))
    (.uniqueViolation "assets_tenant_code_uq")

/-- `FOREIGN KEY (tenant_id, asset_id) REFERENCES assets (tenant_id, id)`. -/
def Db.hasAsset (s : Db) (tenantId assetId : Uuid) : Bool :=
  (s.asset? assetId).any fun a => a.tenantId = tenantId

/-- The constraints of `accounts`. -/
def checkAccount (s : Db) (new : Account) : Except SqlError Unit := do
  require (new.grantEnabled → new.side = .credit ∧ new.overdraftPolicy = .disallow)
    (.checkViolation "accounts_grant_enabled_shape_chk")
  require (∀ a ∈ s.accounts, a.id ≠ new.id) (.uniqueViolation "accounts_pkey")
  require (s.hasAsset new.tenantId new.assetId) (.foreignKeyViolation "accounts_asset_fk")

/-- `FOREIGN KEY (tenant_id, ledger_id, …) REFERENCES accounts (tenant_id, ledger_id, id)`. -/
def Db.hasAccount (s : Db) (tenantId ledgerId accountId : Uuid) : Bool :=
  (s.account? accountId).any fun a => a.tenantId = tenantId ∧ a.ledgerId = ledgerId

/-! ## Transactions and entries -/

/-- The constraints of `transactions` that are checked with the row. -/
def checkTransaction (s : Db) (new : Transaction) : Except SqlError Unit := do
  require ((new.relatedTransactionId = none ∧ new.relationType = none) ∨
      (new.relatedTransactionId.isSome ∧ new.relationType.isSome))
    (.checkViolation "transactions_relation_pair_ck")
  require (∀ t ∈ s.transactions, t.id ≠ new.id) (.uniqueViolation "transactions_pkey")
  require (new.relatedTransactionId.isSome → ∀ t ∈ s.transactions,
      ¬ (t.tenantId = new.tenantId ∧ t.relationType = new.relationType ∧
        t.relatedTransactionId = new.relatedTransactionId))
    (.uniqueViolation "transactions_relation_uq")
  require (∀ id ∈ new.holdId, (s.hold? id).isSome)
    (.foreignKeyViolation "transactions_hold_id_holds_id_fk")
  require (s.hasAsset new.tenantId new.assetId) (.foreignKeyViolation "transactions_asset_fk")

/-- The foreign key of `transactions` to itself. -/
def checkRelatedTransaction (s : Db) (new : Transaction) : Except SqlError Unit :=
  require (∀ id ∈ new.relatedTransactionId, (s.transaction? id).isSome)
    (.foreignKeyViolation "transactions_related_transaction_id_transactions_id_fk")

/-- The constraints of `entries`. -/
def checkEntry (s : Db) (new : Entry) : Except SqlError Unit := do
  require (new.signedAmountMinor ≠ 0) (.checkViolation "entries_signed_amount_nonzero_chk")
  require (∀ e ∈ s.entries, e.id ≠ new.id) (.uniqueViolation "entries_pkey")
  require (s.transaction? new.transactionId).isSome
    (.foreignKeyViolation "entries_transaction_id_transactions_id_fk")
  require (s.account? new.accountId).isSome
    (.foreignKeyViolation "entries_account_id_accounts_id_fk")
  require (s.hasAsset new.tenantId new.assetId) (.foreignKeyViolation "entries_asset_fk")

/-! ## Credit grants -/

/-- `require_grant_enabled_account` (0001), BEFORE INSERT on the grants. -/
def requireGrantEnabledAccount (s : Db) (new : CreditGrant) : Except SqlError Unit :=
  raiseIf (.of ¬ s.grantEnabled new.tenantId new.accountId)
    (raiseException "credit grants require a grant-enabled account")

/-- `reject_expiring_grant_enabled_funding` (0000), BEFORE INSERT on the grants. -/
def rejectExpiringGrantEnabledFunding (s : Db) (new : CreditGrant) : Except SqlError Unit :=
  if new.expiresAt.isNone then .ok ()
  else
    raiseIf (.of (∃ g ∈ s.creditGrants,
        g.tenantId = new.tenantId ∧ g.accountId = new.fundingAccountId))
      (raiseException "expiring credit grant funding account cannot be grant-enabled")

/-- Everything that is checked of a grant as it is stored. -/
def checkCreditGrant (s : Db) (new : CreditGrant) : Except SqlError Unit := do
  requireGrantEnabledAccount s new
  rejectExpiringGrantEnabledFunding s new
  require (new.accountId ≠ new.fundingAccountId) (.checkViolation "credit_grants_accounts_chk")
  require (∀ g ∈ s.creditGrants, g.id ≠ new.id) (.uniqueViolation "credit_grants_pkey")
  require (∀ g ∈ s.creditGrants, g.transactionId ≠ new.transactionId)
    (.uniqueViolation "credit_grants_transaction_uq")
  require (s.hasAccount new.tenantId new.ledgerId new.accountId)
    (.foreignKeyViolation "credit_grants_account_scope_fk")
  require (s.hasAccount new.tenantId new.ledgerId new.fundingAccountId)
    (.foreignKeyViolation "credit_grants_funding_account_scope_fk")
  require ((s.transaction? new.transactionId).any fun t =>
      t.tenantId = new.tenantId ∧ t.ledgerId = new.ledgerId)
    (.foreignKeyViolation "credit_grants_transaction_scope_fk")

/-! ## Holds and their entries -/

/-- Everything that is checked of a hold as it is stored. -/
def checkHoldInsert (s : Db) (new : Hold) : Except SqlError Unit := do
  guardHoldInsert new
  checkHold new
  require (∀ h ∈ s.holds, h.id ≠ new.id) (.uniqueViolation "holds_pkey")
  require (∀ h ∈ s.holds, ¬ (h.tenantId = new.tenantId ∧ h.reference = new.reference))
    (.uniqueViolation "holds_tenant_reference_uq")
  require (s.hasAsset new.tenantId new.assetId) (.foreignKeyViolation "holds_asset_fk")

/-- The constraints of `hold_entries`. -/
def checkHoldEntry (s : Db) (new : HoldEntry) : Except SqlError Unit := do
  require (new.signedAmountMinor ≠ 0)
    (.checkViolation "hold_entries_signed_amount_nonzero_chk")
  require (∀ he ∈ s.holdEntries, he.id ≠ new.id) (.uniqueViolation "hold_entries_pkey")
  require (s.hold? new.holdId).isSome
    (.foreignKeyViolation "hold_entries_hold_id_holds_id_fk")
  require (s.account? new.accountId).isSome
    (.foreignKeyViolation "hold_entries_account_id_accounts_id_fk")
  require (s.hasAsset new.tenantId new.assetId) (.foreignKeyViolation "hold_entries_asset_fk")

/-! ## Storing a row -/

namespace Db

/-- The database with a new asset. -/
def addAsset (s : Db) (new : Asset) : Db := { s with assets := s.assets ++ [new] }

/-- The database with a new account. -/
def addAccount (s : Db) (new : Account) : Db := { s with accounts := s.accounts ++ [new] }

/-- The database with a new transaction. -/
def addTransaction (s : Db) (new : Transaction) : Db :=
  { s with transactions := s.transactions ++ [new] }

/-- The database with a new entry. -/
def addEntry (s : Db) (new : Entry) : Db := { s with entries := s.entries ++ [new] }

/-- The database with a new grant. -/
def addCreditGrant (s : Db) (new : CreditGrant) : Db :=
  { s with creditGrants := s.creditGrants ++ [new] }

/-- The database with a new hold. -/
def addHold (s : Db) (new : Hold) : Db := { s with holds := s.holds ++ [new] }

/-- The database with a new hold entry. -/
def addHoldEntry (s : Db) (new : HoldEntry) : Db :=
  { s with holdEntries := s.holdEntries ++ [new] }

end Db

/-! ## Statements -/

/-- The statements of a run. -/
inductive Statement where
  | insertAssets (rows : List Asset)
  | insertAccounts (rows : List Account)
  | insertTransactions (rows : List Transaction)
  | insertEntries (rows : List Entry)
  | insertCreditGrants (rows : List CreditGrant)
  | insertCreditGrantEntries (rows : List CreditGrantEntry)
  | insertHolds (rows : List Hold)
  | insertHoldEntries (rows : List HoldEntry)
  | insertCreditGrantHoldAllocations (rows : List CreditGrantHoldAllocation)
  /-- the rows an UPDATE selects, each by its `id` and with its new value -/
  | updateHolds (changes : List (Uuid × Hold))
  /-- direct writes; UPDATE and DELETE select rows by `(grant_id, version)` -/
  | insertCapacityVersions (rows : List CreditGrantCapacityVersion)
  | updateCapacityVersions (targets : List (Uuid × Int))
  | deleteCapacityVersions (targets : List (Uuid × Int))
  deriving DecidableEq, Repr

/-- The tables after a statement, its triggers' capacity versions left aside. -/
def Statement.store : Statement → Db → Db
  | .insertAssets rows, s => { s with assets := s.assets ++ rows }
  | .insertAccounts rows, s => { s with accounts := s.accounts ++ rows }
  | .insertTransactions rows, s => { s with transactions := s.transactions ++ rows }
  | .insertEntries rows, s => { s with entries := s.entries ++ rows }
  | .insertCreditGrants rows, s => { s with creditGrants := s.creditGrants ++ rows }
  | .insertCreditGrantEntries rows, s =>
      { s with creditGrantEntries := s.creditGrantEntries ++ rows }
  | .insertHolds rows, s => { s with holds := s.holds ++ rows }
  | .insertHoldEntries rows, s => { s with holdEntries := s.holdEntries ++ rows }
  | .insertCreditGrantHoldAllocations rows, s =>
      { s with creditGrantHoldAllocations := s.creditGrantHoldAllocations ++ rows }
  | .updateHolds changes, s => changes.foldl (fun s change => s.replaceHold change.2) s
  | _, s => s

/-- `reject_credit_grant_mutation`, BEFORE UPDATE OR DELETE on the capacity
versions: it raises for every row selected. -/
def rejectCreditGrantMutation (targets : List (Uuid × Int)) (s : Db) : Except SqlError Db :=
  if s.creditGrantCapacityVersions.any fun v => (v.grantId, v.version) ∈ targets then
    .error (raiseException "credit grant history is immutable")
  else .ok s

/-- Execute a statement at a transaction timestamp. -/
def Statement.exec (now : Timestamp) : Statement → Db → Except SqlError Db
  | .insertAssets rows, s => insertEach checkAsset Db.addAsset rows s
  | .insertAccounts rows, s => insertEach checkAccount Db.addAccount rows s
  | .insertTransactions rows, s => do
      let stored ← insertEach checkTransaction Db.addTransaction rows s
      checkEach (checkRelatedTransaction stored) rows
      .ok stored
  | .insertEntries rows, s => insertEach checkEntry Db.addEntry rows s
  | .insertCreditGrants rows, s => insertEach checkCreditGrant Db.addCreditGrant rows s
  | .insertCreditGrantEntries rows, s => storeCreditGrantEntries now rows s
  | .insertHolds rows, s => insertEach checkHoldInsert Db.addHold rows s
  | .insertHoldEntries rows, s => insertEach checkHoldEntry Db.addHoldEntry rows s
  | .insertCreditGrantHoldAllocations rows, s => storeCreditGrantHoldAllocations now rows s
  | .updateHolds changes, s => changes.foldlM updateHold s
  | .insertCapacityVersions rows, s => rows.foldlM (insertCapacityVersion 1) s
  | .updateCapacityVersions targets, s => rejectCreditGrantMutation targets s
  | .deleteCapacityVersions targets, s => rejectCreditGrantMutation targets s

/-- The deferred constraint triggers of the rows a statement has written, on the
state at commit. -/
def Statement.deferred (now : Timestamp) (s : Db) : Statement → Except SqlError Unit
  | .insertEntries rows => checkEach (fun e => do
      assertGrantEntryAttributed s e
      checkPostingHold s e) rows
  | .insertCreditGrantEntries rows => checkEach (fun l => do
      assertGrantCompensationComplete s l
      assertExpiredGrantCapacityRemoved now s l) rows
  | .insertHolds rows => checkEach (fun h => assertGrantHoldConsistent s h.tenantId h.id) rows
  | .updateHolds changes =>
      checkEach (fun change => assertGrantHoldConsistent s change.2.tenantId change.2.id) changes
  | .insertHoldEntries rows => checkEach (fun he => do
      assertGrantHoldAllocated s he
      assertGrantHoldConsistent s he.tenantId he.holdId) rows
  | .insertCreditGrantHoldAllocations rows => checkEach (assertGrantAllocationTotal s) rows
  | _ => .ok ()

/-! ## The rows a statement writes -/

namespace Statement

/-- The accounts that a statement inserts. -/
def newAccounts : Statement → List Account
  | .insertAccounts rows => rows
  | _ => []

/-- The transactions that a statement inserts. -/
def newTransactions : Statement → List Transaction
  | .insertTransactions rows => rows
  | _ => []

/-- The entries that a statement inserts. -/
def newEntries : Statement → List Entry
  | .insertEntries rows => rows
  | _ => []

/-- The grants that a statement inserts. -/
def newCreditGrants : Statement → List CreditGrant
  | .insertCreditGrants rows => rows
  | _ => []

/-- The lineage rows that a statement inserts. -/
def newCreditGrantEntries : Statement → List CreditGrantEntry
  | .insertCreditGrantEntries rows => rows
  | _ => []

/-- The hold entries that a statement inserts. -/
def newHoldEntries : Statement → List HoldEntry
  | .insertHoldEntries rows => rows
  | _ => []

/-- The allocations that a statement inserts. -/
def newAllocations : Statement → List CreditGrantHoldAllocation
  | .insertCreditGrantHoldAllocations rows => rows
  | _ => []

/-- The new values of the holds that are inserted or updated. -/
def writtenHolds : Statement → List Hold
  | .insertHolds rows => rows
  | .updateHolds changes => changes.map (·.2)
  | _ => []

end Statement

/-! ## Database transactions and runs -/

/-- A database transaction: its `transaction_timestamp()` and its statements. -/
structure DbTransaction where
  now : Timestamp
  statements : List Statement
  deriving DecidableEq, Repr

namespace DbTransaction

/-- The accounts that a database transaction inserts. -/
def newAccounts (tx : DbTransaction) : List Account := tx.statements.flatMap Statement.newAccounts

/-- The transactions that a database transaction inserts. -/
def newTransactions (tx : DbTransaction) : List Transaction :=
  tx.statements.flatMap Statement.newTransactions

/-- The entries that a database transaction inserts. -/
def newEntries (tx : DbTransaction) : List Entry := tx.statements.flatMap Statement.newEntries

/-- The lineage rows that a database transaction inserts. -/
def newCreditGrantEntries (tx : DbTransaction) : List CreditGrantEntry :=
  tx.statements.flatMap Statement.newCreditGrantEntries

/-- The hold entries that a database transaction inserts. -/
def newHoldEntries (tx : DbTransaction) : List HoldEntry :=
  tx.statements.flatMap Statement.newHoldEntries

/-- The allocations that a database transaction inserts. -/
def newAllocations (tx : DbTransaction) : List CreditGrantHoldAllocation :=
  tx.statements.flatMap Statement.newAllocations

/-- The holds that a database transaction inserts or updates. -/
def writtenHolds (tx : DbTransaction) : List Hold := tx.statements.flatMap Statement.writtenHolds

end DbTransaction

/-- Execute the statements in order. -/
def DbTransaction.exec (s : Db) (tx : DbTransaction) : Except SqlError Db :=
  tx.statements.foldlM (fun s stmt => stmt.exec tx.now s) s

/-- The tables after a database transaction, capacity versions left aside. -/
def DbTransaction.store (tx : DbTransaction) (s : Db) : Db :=
  tx.statements.foldl (fun s stmt => stmt.store s) s

/-- Execute and commit. -/
def commit (s : Db) (tx : DbTransaction) : Except SqlError Db := do
  let final ← tx.exec s
  checkEach (Statement.deferred tx.now final) tx.statements
  .ok final

/-- The committed state after a log of accepted database transactions. -/
def replay (log : List DbTransaction) : Except SqlError Db := run commit Db.empty log

/-- The state after a sequence of accepted statements, commits left aside. -/
abbrev runStatements (s : Db) (steps : List (Timestamp × Statement)) : Except SqlError Db :=
  run (fun s step => step.2.exec step.1 s) s steps

/-- The same from the freshly migrated database. -/
def replayStatements (steps : List (Timestamp × Statement)) : Except SqlError Db :=
  runStatements Db.empty steps

theorem commit_eq_ok_iff {s s' : Db} {tx : DbTransaction} :
    commit s tx = .ok s' ↔
      tx.exec s = .ok s' ∧ ∀ stmt ∈ tx.statements, stmt.deferred tx.now s' = .ok () := by
  simp only [commit, bind_eq_ok_iff, checkEach_eq_ok_iff, exists_const]
  constructor
  · rintro ⟨final, hexec, hdeferred, hfinal⟩
    obtain rfl := Except.ok.inj hfinal
    exact ⟨hexec, hdeferred⟩
  · rintro ⟨hexec, hdeferred⟩
    exact ⟨s', hexec, hdeferred, rfl⟩

/-- The timed statements of a log, in order. -/
def timedStatements (log : List DbTransaction) : List (Timestamp × Statement) :=
  log.flatMap fun tx => tx.statements.map fun stmt => (tx.now, stmt)

/-- Executing a transaction is running its timed statements. -/
theorem exec_eq_run (s : Db) (tx : DbTransaction) :
    tx.exec s = runStatements s (tx.statements.map fun stmt => (tx.now, stmt)) := by
  unfold DbTransaction.exec runStatements run
  rw [List.foldlM_map]

/-- Committed states are among the states that sequences of accepted statements
reach. -/
theorem replayStatements_of_replay {log : List DbTransaction} {s : Db}
    (h : replay log = .ok s) : replayStatements (timedStatements log) = .ok s := by
  refine run_induction (P := fun log s => replayStatements (timedStatements log) = .ok s)
    rfl ?_ h
  intro log s tx s' _ hlog hcommit
  have hexec := (commit_eq_ok_iff.mp hcommit).1
  rw [exec_eq_run] at hexec
  have hsplit : timedStatements (log ++ [tx]) =
      timedStatements log ++ tx.statements.map fun stmt => (tx.now, stmt) := by
    simp [timedStatements]
  rw [hsplit, replayStatements, run_append_eq_ok_iff]
  exact ⟨s, hlog, hexec⟩

end LuxLedger.Schema
