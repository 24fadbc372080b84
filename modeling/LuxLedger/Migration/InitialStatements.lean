/-
  Migration/InitialStatements.lean --- the triggers and the INSERT statements of
  migrations 0000 and 0001.

  They are those of `Schema.Statements` before holds could reserve: holds on a
  protected account are refused outright, and the capacity versions have no
  reservation.  Under 0000 an account is protected once it has a credit grant; 0001
  keys its triggers on the new column `accounts.grant_enabled` instead.
-/
import LuxLedger.Migration.InitialSchema
import LuxLedger.Schema.Statements

set_option autoImplicit false

namespace LuxLedger.Migration.Initial

open LuxLedger.Schema LuxLedger.Relational

/-! ## Capacity versions -/

/-- Store a capacity version. -/
def Db.addCapacityVersion (s : Db) (row : CreditGrantCapacityVersion) : Db :=
  { s with creditGrantCapacityVersions := s.creditGrantCapacityVersions ++ [row] }

/-- `INSERT INTO credit_grant_capacity_versions` of one row: the guard
`reject_credit_grant_capacity_baseline_insert` (0000) and the constraints. -/
def insertCapacityVersion (triggerDepth : Nat) (s : Db) (v : CreditGrantCapacityVersion) :
    Except SqlError Db := do
  raiseIf (.of (v.sourceEntryId.isNone ∨ triggerDepth < 2))
    (raiseException "credit grant capacity versions can only be appended from lineage")
  require (v.remainingMinor = v.grantedMinor + v.compensatedMinor - v.reversedMinor -
      v.consumedMinor - v.expiredMinor)
    (.checkViolation "credit_grant_capacity_versions_remaining_chk")
  require (0 ≤ v.grantedMinor ∧ 0 ≤ v.reversedMinor ∧ 0 ≤ v.consumedMinor ∧
      0 ≤ v.compensatedMinor ∧ 0 ≤ v.expiredMinor ∧ 0 ≤ v.remainingMinor)
    (.checkViolation "credit_grant_capacity_versions_totals_nonnegative_chk")
  require (0 ≤ v.version)
    (.checkViolation "credit_grant_capacity_versions_version_nonnegative_chk")
  require (∀ u ∈ s.creditGrantCapacityVersions, ¬ (u.grantId = v.grantId ∧ u.version = v.version))
    (.uniqueViolation "credit_grant_capacity_versions_grant_version_uq")
  require (∀ u ∈ s.creditGrantCapacityVersions,
      ¬ (u.grantId = v.grantId ∧ u.sourceEntryId = v.sourceEntryId))
    (.uniqueViolation "credit_grant_capacity_versions_source_entry_uq")
  require ((s.creditGrant? v.grantId).any fun g => g.tenantId = v.tenantId ∧
      g.ledgerId = v.ledgerId ∧ g.accountId = v.accountId)
    (.foreignKeyViolation "credit_grant_capacity_versions_grant_fk")
  require (∃ l ∈ s.creditGrantEntries, l.grantId = v.grantId ∧ some l.entryId = v.sourceEntryId)
    (.foreignKeyViolation "credit_grant_capacity_versions_source_entry_fk")
  return s.addCapacityVersion v

/-- The counters moved by the kind of a lineage row. -/
def CreditGrantCapacityVersion.move (v : CreditGrantCapacityVersion) (amount : Int) :
    CreditGrantEntryKind → Except SqlError CreditGrantCapacityVersion
  | .issuance => .ok
      { v with
        grantedMinor := v.grantedMinor + amount
        remainingMinor := v.remainingMinor + amount }
  | .reversal => .ok
      { v with
        reversedMinor := v.reversedMinor + amount
        remainingMinor := v.remainingMinor - amount }
  | .consumption => .ok
      { v with
        consumedMinor := v.consumedMinor + amount
        remainingMinor := v.remainingMinor - amount }
  | .compensation => .ok
      { v with
        compensatedMinor := v.compensatedMinor + amount
        remainingMinor := v.remainingMinor + amount }
  | .expiration => .ok
      { v with
        expiredMinor := v.expiredMinor + amount
        remainingMinor := v.remainingMinor - amount }
  | .refund => .error (raiseException "unsupported credit grant capacity transition")

/-- `append_credit_grant_capacity_version` (0000), AFTER INSERT on the lineage. -/
def appendCreditGrantCapacityVersion (s : Db) (new : CreditGrantEntry) : Except SqlError Db := do
  let previous := s.latestMinor new.tenantId new.grantId
  let carried : CreditGrantCapacityVersion :=
    { tenantId := new.tenantId
      ledgerId := new.ledgerId
      accountId := new.accountId
      grantId := new.grantId
      sourceEntryId := some new.entryId
      version := previous (·.version) + 1
      grantedMinor := previous (·.grantedMinor)
      reversedMinor := previous (·.reversedMinor)
      consumedMinor := previous (·.consumedMinor)
      compensatedMinor := previous (·.compensatedMinor)
      expiredMinor := previous (·.expiredMinor)
      remainingMinor := previous (·.remainingMinor) }
  let moved ← carried.move new.amountMinor new.kind
  insertCapacityVersion 2 s moved

/-! ## Protected accounts -/

/-- Whose triggers are in force.  The column `accounts.grant_enabled` of 0001 never
changes, so it is a function of the account. -/
inductive Generation where
  | initial
  | capability (grantEnabled : Uuid → Bool)

/-- `EXISTS (SELECT 1 FROM credit_grants WHERE tenant_id = … AND account_id = …)`. -/
def Db.hasCreditGrant (s : Db) (tenantId accountId : Uuid) : Bool :=
  s.creditGrants.any fun g => g.tenantId = tenantId ∧ g.accountId = accountId

/-- `EXISTS (SELECT 1 FROM accounts WHERE tenant_id = … AND id = … AND grant_enabled)`. -/
def Db.grantEnabled (grantEnabled : Uuid → Bool) (s : Db) (tenantId accountId : Uuid) : Bool :=
  (s.account? accountId).any fun a => a.tenantId = tenantId ∧ grantEnabled a.id

/-- The EXISTS that the triggers of a generation ask of an account. -/
def Db.protects (s : Db) (tenantId accountId : Uuid) : Generation → Bool
  | .initial => s.hasCreditGrant tenantId accountId
  | .capability grantEnabled => s.grantEnabled grantEnabled tenantId accountId

/-- `CASE WHEN direction = 'CREDIT' THEN 'DEBIT' ELSE 'CREDIT' END`. -/
def EntryDirection.opposite : EntryDirection → EntryDirection
  | .credit => .debit
  | .debit => .credit

/-- What a transaction posts on the account of an entry, in one direction. -/
def Db.postedAmount (s : Db) (new : Entry) (transactionId : Option Uuid)
    (direction : EntryDirection) : Int :=
  sumWhere s.entries
    (fun e => e.tenantId = new.tenantId ∧ some e.transactionId = transactionId ∧
      e.accountId = new.accountId ∧ e.direction = direction)
    (·.amountMinor)

/-- What `assert_grant_entry_attributed` asserts of an entry on a protected account. -/
def assertAttributed (s : Db) (new : Entry) : Except SqlError Unit := do
  raiseIf (.of (s.attributedAmount new ≠ new.amountMinor))
    (raiseException "grant-enabled account entry requires complete grant attribution")
  let transaction := s.entryTransaction? new
  if transaction.bind (·.relationType) = some .reversal then
    let original := s.postedAmount new (transaction.bind (·.relatedTransactionId))
      new.direction.opposite
    let reversal := s.postedAmount new (some new.transactionId) new.direction
    raiseIf (.of (original = 0 ∨ reversal ≠ original))
      (raiseException "grant-enabled account reversal must exactly mirror original entries")
  else .ok ()

section Triggers

variable (generation : Generation) (s : Db)

/-- `assert_grant_entry_attributed`, deferred on INSERT of entries. -/
def assertGrantEntryAttributed (new : Entry) : Except SqlError Unit :=
  if s.protects new.tenantId new.accountId generation then assertAttributed s new else .ok ()

/-- `reject_grant_account_hold`, BEFORE INSERT on the hold entries. -/
def rejectGrantAccountHold (new : HoldEntry) : Except SqlError Unit :=
  raiseIf (.of (s.protects new.tenantId new.accountId generation))
    (raiseException "grant-enabled account holds require grant allocation")

/-- `require_grant_enabled_account`, BEFORE INSERT on the grants since 0001. -/
def requireGrantEnabledAccount (new : CreditGrant) : Except SqlError Unit :=
  match generation with
  | .initial => .ok ()
  | .capability grantEnabled =>
      raiseIf (.of ¬ s.grantEnabled grantEnabled new.tenantId new.accountId)
        (raiseException "credit grants require a grant-enabled account")

end Triggers

/-- `reject_expiring_grant_enabled_funding`, BEFORE INSERT on the grants. -/
def rejectExpiringGrantEnabledFunding (s : Db) (new : CreditGrant) : Except SqlError Unit :=
  if new.expiresAt.isNone then .ok ()
  else
    raiseIf (.of (s.hasCreditGrant new.tenantId new.fundingAccountId))
      (raiseException "expiring credit grant funding account cannot be grant-enabled")

/-! ## Deferred constraint triggers of the lineage -/

/-- `assert_grant_compensation_complete`, deferred on INSERT of lineage. -/
def assertGrantCompensationComplete (s : Db) (new : CreditGrantEntry) : Except SqlError Unit :=
  if new.kind ≠ .compensation then .ok ()
  else
    let linked := s.lineageTransaction? new
    let sourceAllocation := s.transactionLineage new.tenantId new.grantId .consumption
      (linked.bind (·.relatedTransactionId))
    let compensated := s.transactionLineage new.tenantId new.grantId .compensation
      (linked.map (·.id))
    raiseIf (.of (sourceAllocation = 0 ∨ compensated ≠ sourceAllocation))
      (raiseException "credit grant compensation must exactly restore original allocation")

/-- `assert_expired_grant_capacity_removed` (0000), deferred on INSERT of lineage. -/
def assertExpiredGrantCapacityRemoved (now : Timestamp) (s : Db) (new : CreditGrantEntry) :
    Except SqlError Unit :=
  if new.kind ≠ .compensation ∧ new.kind ≠ .expiration then .ok ()
  else
    let expiration := ((s.creditGrant? new.grantId).filter fun g =>
      g.tenantId = new.tenantId).bind (·.expiresAt)
    if Truth.or (.of expiration.isNone)
        (Truth.compare (· > ·) expiration (some now)) = some true then .ok ()
    else
      raiseIf (.of (s.latestMinor new.tenantId new.grantId (·.remainingMinor) ≠ 0))
        (raiseException "expired credit grant cannot retain capacity")

/-! ## Constraints of the tables -/

/-- `FOREIGN KEY (tenant_id, asset_id) REFERENCES assets (tenant_id, id)`. -/
def Db.hasAsset (s : Db) (tenantId assetId : Uuid) : Bool :=
  (s.asset? assetId).any fun a => a.tenantId = tenantId

/-- `FOREIGN KEY (tenant_id, ledger_id, …) REFERENCES accounts (tenant_id, ledger_id, id)`. -/
def Db.hasAccount (s : Db) (tenantId ledgerId accountId : Uuid) : Bool :=
  (s.account? accountId).any fun a => a.tenantId = tenantId ∧ a.ledgerId = ledgerId

/-- What an asset has to pass. -/
def checkAsset (s : Db) (new : Asset) : Except SqlError Unit := do
  require (assetCodeOk new.code) (.checkViolation "assets_code_chk")
  require (0 ≤ new.scale ∧ new.scale ≤ 18) (.checkViolation "assets_scale_chk")
  require (∀ a ∈ s.assets, a.id ≠ new.id) (.uniqueViolation "assets_pkey")
  require (∀ a ∈ s.assets, ¬ (a.tenantId = new.tenantId ∧ a.code = new.code))
    (.uniqueViolation "assets_tenant_code_uq")

/-- `accounts_grant_enabled_shape_chk`, since 0001. -/
def GrantEnabledShape (grantEnabled : Uuid → Bool) (a : Account) : Prop :=
  grantEnabled a.id → a.side = .credit ∧ a.overdraftPolicy = .disallow

instance (grantEnabled : Uuid → Bool) (a : Account) :
    Decidable (GrantEnabledShape grantEnabled a) := inferInstanceAs (Decidable (_ → _))

/-- What an account has to pass: the constraint of 0001 and those of 0000. -/
def checkAccount (generation : Generation) (s : Db) (new : Account) : Except SqlError Unit := do
  match generation with
  | .initial => .ok ()
  | .capability grantEnabled =>
      require (GrantEnabledShape grantEnabled new)
        (.checkViolation "accounts_grant_enabled_shape_chk")
  require (0 ≤ new.inflightCreditMinor)
    (.checkViolation "accounts_inflight_credit_nonnegative_chk")
  require (0 ≤ new.inflightDebitMinor) (.checkViolation "accounts_inflight_debit_nonnegative_chk")
  require (∀ a ∈ s.accounts, a.id ≠ new.id) (.uniqueViolation "accounts_pkey")
  require (s.hasAsset new.tenantId new.assetId) (.foreignKeyViolation "accounts_asset_fk")

/-- What a transaction has to pass. -/
def checkTransaction (s : Db) (new : Transaction) : Except SqlError Unit := do
  require ((new.relatedTransactionId = none ∧ new.relationType = none) ∨
      (new.relatedTransactionId.isSome ∧ new.relationType.isSome))
    (.checkViolation "transactions_relation_pair_ck")
  require (∀ t ∈ s.transactions, t.id ≠ new.id) (.uniqueViolation "transactions_pkey")
  require (new.relatedTransactionId.isSome → ∀ t ∈ s.transactions,
      ¬ (t.tenantId = new.tenantId ∧ t.relationType = new.relationType ∧
        t.relatedTransactionId = new.relatedTransactionId))
    (.uniqueViolation "transactions_relation_uq")
  require (∀ id ∈ new.holdId, (s.hold? id).isSome)
    (.foreignKeyViolation "transactions_hold_id_holds_id_fk")
  require (s.hasAsset new.tenantId new.assetId) (.foreignKeyViolation "transactions_asset_fk")

/-- The foreign key of `transactions` to itself. -/
def checkRelatedTransaction (s : Db) (new : Transaction) : Except SqlError Unit :=
  require (∀ id ∈ new.relatedTransactionId, (s.transaction? id).isSome)
    (.foreignKeyViolation "transactions_related_transaction_id_transactions_id_fk")

/-- What an entry has to pass. -/
def checkEntry (s : Db) (new : Entry) : Except SqlError Unit := do
  require (∀ e ∈ s.entries, e.id ≠ new.id) (.uniqueViolation "entries_pkey")
  require (s.transaction? new.transactionId).isSome
    (.foreignKeyViolation "entries_transaction_id_transactions_id_fk")
  require (s.account? new.accountId).isSome
    (.foreignKeyViolation "entries_account_id_accounts_id_fk")
  require (s.hasAsset new.tenantId new.assetId) (.foreignKeyViolation "entries_asset_fk")

/-- What a grant has to pass. -/
def checkCreditGrant (generation : Generation) (s : Db) (new : CreditGrant) :
    Except SqlError Unit := do
  requireGrantEnabledAccount generation s new
  rejectExpiringGrantEnabledFunding s new
  require (new.accountId ≠ new.fundingAccountId) (.checkViolation "credit_grants_accounts_chk")
  require (∀ g ∈ s.creditGrants, g.id ≠ new.id) (.uniqueViolation "credit_grants_pkey")
  require (∀ g ∈ s.creditGrants, g.transactionId ≠ new.transactionId)
    (.uniqueViolation "credit_grants_transaction_uq")
  require (s.hasAccount new.tenantId new.ledgerId new.accountId)
    (.foreignKeyViolation "credit_grants_account_scope_fk")
  require (s.hasAccount new.tenantId new.ledgerId new.fundingAccountId)
    (.foreignKeyViolation "credit_grants_funding_account_scope_fk")
  require ((s.transaction? new.transactionId).any fun t =>
      t.tenantId = new.tenantId ∧ t.ledgerId = new.ledgerId)
    (.foreignKeyViolation "credit_grants_transaction_scope_fk")

/-- What a lineage row has to pass. -/
def checkCreditGrantEntry (now : Timestamp) (s : Db) (new : CreditGrantEntry) :
    Except SqlError Unit := do
  validateCreditGrantEntry s now new
  require (0 < new.amountMinor) (.checkViolation "credit_grant_entries_amount_positive_chk")
  require (∀ l ∈ s.creditGrantEntries, ¬ (l.grantId = new.grantId ∧ l.entryId = new.entryId))
    (.uniqueViolation "credit_grant_entries_pk")
  require (new.kind = .issuance → ∀ l ∈ s.creditGrantEntries,
      ¬ (l.kind = .issuance ∧ l.grantId = new.grantId))
    (.uniqueViolation "credit_grant_entries_one_issuance_uq")
  require (new.kind = .reversal → ∀ l ∈ s.creditGrantEntries,
      ¬ (l.kind = .reversal ∧ l.grantId = new.grantId))
    (.uniqueViolation "credit_grant_entries_one_reversal_uq")
  require ((s.creditGrant? new.grantId).any fun g => g.tenantId = new.tenantId ∧
      g.ledgerId = new.ledgerId ∧ g.accountId = new.accountId)
    (.foreignKeyViolation "credit_grant_entries_grant_fk")
  require ((s.entry? new.entryId).any fun e => e.tenantId = new.tenantId ∧
      e.accountId = new.accountId)
    (.foreignKeyViolation "credit_grant_entries_entry_fk")

/-- What a hold has to pass. -/
def checkHold (s : Db) (new : Hold) : Except SqlError Unit := do
  require (∀ h ∈ s.holds, h.id ≠ new.id) (.uniqueViolation "holds_pkey")
  require (∀ h ∈ s.holds, ¬ (h.tenantId = new.tenantId ∧ h.reference = new.reference))
    (.uniqueViolation "holds_tenant_reference_uq")
  require (s.hasAsset new.tenantId new.assetId) (.foreignKeyViolation "holds_asset_fk")

/-- What a hold entry has to pass. -/
def checkHoldEntry (generation : Generation) (s : Db) (new : HoldEntry) :
    Except SqlError Unit := do
  rejectGrantAccountHold generation s new
  require (∀ he ∈ s.holdEntries, he.id ≠ new.id) (.uniqueViolation "hold_entries_pkey")
  require (s.hold? new.holdId).isSome (.foreignKeyViolation "hold_entries_hold_id_holds_id_fk")
  require (s.account? new.accountId).isSome
    (.foreignKeyViolation "hold_entries_account_id_accounts_id_fk")
  require (s.hasAsset new.tenantId new.assetId) (.foreignKeyViolation "hold_entries_asset_fk")

/-- What a snapshot has to pass. -/
def checkBalanceSnapshot (s : Db) (new : BalanceSnapshot) : Except SqlError Unit := do
  require (∀ snapshot ∈ s.balanceSnapshots, snapshot.id ≠ new.id)
    (.uniqueViolation "balance_snapshots_pkey")
  require (s.account? new.accountId).isSome
    (.foreignKeyViolation "balance_snapshots_account_id_accounts_id_fk")

/-! ## Storing a row -/

namespace Db

/-- The database with a new asset. -/
def addAsset (s : Db) (new : Asset) : Db := { s with assets := s.assets ++ [new] }

/-- The database with a new account. -/
def addAccount (s : Db) (new : Account) : Db := { s with accounts := s.accounts ++ [new] }

/-- The database with a new transaction. -/
def addTransaction (s : Db) (new : Transaction) : Db :=
  { s with transactions := s.transactions ++ [new] }

/-- The database with a new entry. -/
def addEntry (s : Db) (new : Entry) : Db := { s with entries := s.entries ++ [new] }

/-- The database with a new grant. -/
def addCreditGrant (s : Db) (new : CreditGrant) : Db :=
  { s with creditGrants := s.creditGrants ++ [new] }

/-- The database with a new lineage row. -/
def addCreditGrantEntry (s : Db) (new : CreditGrantEntry) : Db :=
  { s with creditGrantEntries := s.creditGrantEntries ++ [new] }

/-- The database with a new hold. -/
def addHold (s : Db) (new : Hold) : Db := { s with holds := s.holds ++ [new] }

/-- The database with a new hold entry. -/
def addHoldEntry (s : Db) (new : HoldEntry) : Db :=
  { s with holdEntries := s.holdEntries ++ [new] }

/-- The database with a new snapshot. -/
def addBalanceSnapshot (s : Db) (new : BalanceSnapshot) : Db :=
  { s with balanceSnapshots := s.balanceSnapshots ++ [new] }

end Db

/-! ## Statements and runs -/

/-- The INSERT statements of a run. -/
inductive Statement where
  | insertAssets (rows : List Asset)
  | insertAccounts (rows : List Account)
  | insertTransactions (rows : List Transaction)
  | insertEntries (rows : List Entry)
  | insertCreditGrants (rows : List CreditGrant)
  | insertCreditGrantEntries (rows : List CreditGrantEntry)
  | insertHolds (rows : List Hold)
  | insertHoldEntries (rows : List HoldEntry)
  | insertBalanceSnapshots (rows : List BalanceSnapshot)
  deriving DecidableEq, Repr

/-- Execute a statement at a transaction timestamp. -/
def Statement.exec (generation : Generation) (now : Timestamp) :
    Statement → Db → Except SqlError Db
  | .insertAssets rows, s => insertEach checkAsset Db.addAsset rows s
  | .insertAccounts rows, s => insertEach (checkAccount generation) Db.addAccount rows s
  | .insertTransactions rows, s => do
      let stored ← insertEach checkTransaction Db.addTransaction rows s
      checkEach (checkRelatedTransaction stored) rows
      .ok stored
  | .insertEntries rows, s => insertEach checkEntry Db.addEntry rows s
  | .insertCreditGrants rows, s => insertEach (checkCreditGrant generation) Db.addCreditGrant rows s
  | .insertCreditGrantEntries rows, s =>
      insertRows (checkCreditGrantEntry now) Db.addCreditGrantEntry
        appendCreditGrantCapacityVersion rows s
  | .insertHolds rows, s => insertEach checkHold Db.addHold rows s
  | .insertHoldEntries rows, s => insertEach (checkHoldEntry generation) Db.addHoldEntry rows s
  | .insertBalanceSnapshots rows, s =>
      insertEach checkBalanceSnapshot Db.addBalanceSnapshot rows s

/-- The deferred constraint triggers of the rows a statement has written. -/
def Statement.deferred (generation : Generation) (now : Timestamp) (s : Db) :
    Statement → Except SqlError Unit
  | .insertEntries rows => checkEach (assertGrantEntryAttributed generation s) rows
  | .insertCreditGrantEntries rows => checkEach (fun l => do
      assertGrantCompensationComplete s l
      assertExpiredGrantCapacityRemoved now s l) rows
  | _ => .ok ()

/-- A database transaction: its `transaction_timestamp()` and its statements. -/
structure DbTransaction where
  now : Timestamp
  statements : List Statement
  deriving DecidableEq, Repr

/-- Execute and commit. -/
def commit (generation : Generation) (s : Db) (tx : DbTransaction) : Except SqlError Db := do
  let final ← tx.statements.foldlM (fun s stmt => stmt.exec generation tx.now s) s
  checkEach (Statement.deferred generation tx.now final) tx.statements
  return final

/-- The committed state after a log of accepted database transactions under 0000. -/
def replay (log : List DbTransaction) : Except SqlError Db :=
  run (commit .initial) Db.empty log

namespace Sample

/-- An asset, an account and its funding account. -/
def accounts : List Statement :=
  [.insertAssets [⟨1, 1, "USD", 2⟩],
    .insertAccounts [⟨10, 1, 5, .credit, .disallow, 1, 100, 0, 0⟩,
      ⟨11, 1, 5, .debit, .allow, 1, -100, 0, 0⟩]]

/-- Transaction 100 issues grant 300 of 100. -/
def issuance : List Statement :=
  [.insertTransactions [⟨100, 1, 5, none, none, none, 1, 1⟩],
    .insertEntries [⟨200, 1, 100, 10, .credit, 100, 1⟩, ⟨201, 1, 100, 11, .debit, 100, 1⟩],
    .insertCreditGrants [⟨300, 1, 5, 10, 11, 100, none, 1⟩],
    .insertCreditGrantEntries [⟨1, 5, 10, 300, 200, .issuance, 100⟩]]

/-- Transaction 150 posts 40 on the account. -/
def posting : List Statement :=
  [.insertTransactions [⟨150, 1, 5, none, none, none, 1, 2⟩],
    .insertEntries [⟨250, 1, 150, 10, .debit, 40, 1⟩, ⟨251, 1, 150, 11, .credit, 40, 1⟩]]

/-- The lineage row that attributes it to the grant. -/
def consumption : CreditGrantEntry := ⟨1, 5, 10, 300, 250, .consumption, 40⟩

/-- The state a log leaves, for logs that are accepted. -/
def stateAfter (log : List DbTransaction) : Db := (replay log).toOption.getD Db.empty

theorem replay_stateAfter {log : List DbTransaction} (h : (replay log).toBool = true) :
    replay log = .ok (stateAfter log) :=
  eq_ok_getD h Db.empty

/-- The posting is attributed, and 60 are left of the grant. -/
example : (stateAfter [⟨0, accounts⟩, ⟨1, issuance⟩,
      ⟨2, posting ++ [.insertCreditGrantEntries [consumption]]⟩]).latestMinor 1 300
        (·.remainingMinor) = 60 := by rfl

end Sample

end LuxLedger.Migration.Initial
