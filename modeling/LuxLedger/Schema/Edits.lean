/-
  Schema/Edits.lean --- UPDATE and DELETE on the ledger tables.

  Beside the INSERTs, the UPDATE of holds and the writes to capacity versions there are
  the statements that the immutability triggers guard.  Such a statement writes its rows
  with their BEFORE triggers, CHECK constraints and unique indexes; a renamed
  transaction or account takes the rows that refer to it along (`ON UPDATE CASCADE`),
  and these are updated rows with BEFORE triggers of their own; at the end every foreign
  key must hold, NO ACTION and RESTRICT alike.  The capacity versions refer to rows that
  no statement renames or deletes, so their foreign keys need no second look.

  Sources: `0000_initial-schema.sql` (`asset_identity_guard`,
  `account_asset_history_guard`, `protect_credit_grant_history`,
  `reject_credit_grant_mutation`, the foreign keys), `0001_grant_account_capability.sql`,
  `0004_grant_hold_allocations.sql` (`reject_credit_grant_hold_allocation_change`,
  `protect_allocated_hold_entry`, `guard_hold_lifecycle`, the deferred triggers on UPDATE).
-/
import LuxLedger.Relational.Update
import LuxLedger.Schema.Statements

set_option autoImplicit false

namespace LuxLedger.Schema

open LuxLedger.Relational

/-! ## BEFORE triggers -/

/-- `asset_identity_guard`. -/
def assetIdentityGuard (old new : Asset) : Except SqlError Unit :=
  raiseIf (.of (new.tenantId ≠ old.tenantId ∨ new.code ≠ old.code ∨ new.scale ≠ old.scale))
    (raiseException "Asset code and scale are immutable")

/-- `reject_grant_capability_change`. -/
def rejectGrantCapabilityChange (old new : Account) : Except SqlError Unit :=
  raiseIf (.of (old.grantEnabled ≠ new.grantEnabled))
    (raiseException "account grant capability is immutable")

/-- `account_asset_history_guard`. -/
def accountAssetHistoryGuard (s : Db) (old new : Account) : Except SqlError Unit :=
  raiseIf (.of (new.assetId ≠ old.assetId ∧
      ((∃ e ∈ s.entries, e.accountId = old.id) ∨ ∃ he ∈ s.holdEntries, he.accountId = old.id)))
    (raiseException "Account asset cannot change after ledger history exists")

/-- `EXISTS (SELECT 1 FROM credit_grant_entries WHERE entry_id = …)`. -/
def Db.hasLineage (s : Db) (entryId : Uuid) : Bool :=
  s.creditGrantEntries.any fun l => l.entryId = entryId

/-- `protect_credit_grant_history` on `entries`. -/
def protectHistoryEntry (s : Db) (old : Entry) : Except SqlError Unit :=
  raiseIf (.of (s.hasLineage old.id))
    (raiseException "credit grant ledger entries are immutable")

/-- An entry of the transaction has lineage. -/
def Db.hasLineageEntry (s : Db) (transactionId : Uuid) : Bool :=
  s.entries.any fun e => e.transactionId = transactionId ∧ s.hasLineage e.id

/-- `protect_credit_grant_history` on `transactions`. -/
def protectHistoryTransaction (s : Db) (old : Transaction) : Except SqlError Unit :=
  raiseIf (.of (s.hasLineageEntry old.id))
    (raiseException "credit grant transactions are immutable")

/-- The hold entry has an allocation. -/
def Db.hasAllocation (s : Db) (he : HoldEntry) : Bool :=
  s.creditGrantHoldAllocations.any fun a => a.tenantId = he.tenantId ∧ a.holdEntryId = he.id

/-- `protect_allocated_hold_entry`. -/
def protectAllocatedHoldEntry (s : Db) (old : HoldEntry) : Except SqlError Unit :=
  raiseIf (.of (s.hasAllocation old))
    (raiseException "allocated hold entries are immutable")

/-! ## What is checked of an updated row

`table` is the table as it stands once the row is written. -/

/-- An updated row of `assets`. -/
def updateAsset (table : List Asset) (old new : Asset) : Except SqlError Unit := do
  assetIdentityGuard old new
  require (assetCodeOk new.code) (.checkViolation "assets_code_chk")
  require (0 ≤ new.scale ∧ new.scale ≤ 18) (.checkViolation "assets_scale_chk")
  require (UniqueKey Asset.id table) (.uniqueViolation "assets_pkey")
  require (UniqueKey (fun a : Asset => (a.tenantId, a.code)) table)
    (.uniqueViolation "assets_tenant_code_uq")

/-- An updated row of `accounts`. -/
def updateAccount (s : Db) (table : List Account) (old new : Account) : Except SqlError Unit := do
  rejectGrantCapabilityChange old new
  accountAssetHistoryGuard s old new
  require (new.grantEnabled → new.side = .credit ∧ new.overdraftPolicy = .disallow)
    (.checkViolation "accounts_grant_enabled_shape_chk")
  require (UniqueKey Account.id table) (.uniqueViolation "accounts_pkey")

/-- The partial unique index `transactions_relation_uq`. -/
def UniqueRelations (table : List Transaction) : Prop :=
  UniqueKey (fun t : Transaction => (t.tenantId, t.relationType, t.relatedTransactionId))
    (table.filter fun t => t.relatedTransactionId.isSome)

instance (table : List Transaction) : Decidable (UniqueRelations table) :=
  inferInstanceAs (Decidable (UniqueKey _ _))

/-- An updated row of `transactions`. -/
def updateTransaction (s : Db) (table : List Transaction) (old new : Transaction) :
    Except SqlError Unit := do
  protectHistoryTransaction s old
  require ((new.relatedTransactionId = none ∧ new.relationType = none) ∨
      (new.relatedTransactionId.isSome ∧ new.relationType.isSome))
    (.checkViolation "transactions_relation_pair_ck")
  require (UniqueKey Transaction.id table) (.uniqueViolation "transactions_pkey")
  require (UniqueRelations table) (.uniqueViolation "transactions_relation_uq")

/-- An updated row of `entries`. -/
def updateEntry (s : Db) (table : List Entry) (old new : Entry) : Except SqlError Unit := do
  protectHistoryEntry s old
  require (new.signedAmountMinor ≠ 0) (.checkViolation "entries_signed_amount_nonzero_chk")
  require (UniqueKey Entry.id table) (.uniqueViolation "entries_pkey")

/-- An updated row of `hold_entries`. -/
def updateHoldEntry (s : Db) (table : List HoldEntry) (old new : HoldEntry) :
    Except SqlError Unit := do
  protectAllocatedHoldEntry s old
  require (new.signedAmountMinor ≠ 0)
    (.checkViolation "hold_entries_signed_amount_nonzero_chk")
  require (UniqueKey HoldEntry.id table) (.uniqueViolation "hold_entries_pkey")

/-! ## Foreign keys -/

/-- Every foreign key between the ledger tables. -/
def checkReferences (s : Db) : Except SqlError Unit := do
  require (∀ a ∈ s.accounts, s.hasAsset a.tenantId a.assetId)
    (.foreignKeyViolation "accounts_asset_fk")
  require (∀ g ∈ s.creditGrants, s.hasAccount g.tenantId g.ledgerId g.accountId)
    (.foreignKeyViolation "credit_grants_account_scope_fk")
  require (∀ g ∈ s.creditGrants, s.hasAccount g.tenantId g.ledgerId g.fundingAccountId)
    (.foreignKeyViolation "credit_grants_funding_account_scope_fk")
  require (∀ g ∈ s.creditGrants, (s.transaction? g.transactionId).any fun t =>
      t.tenantId = g.tenantId ∧ t.ledgerId = g.ledgerId)
    (.foreignKeyViolation "credit_grants_transaction_scope_fk")
  require (∀ l ∈ s.creditGrantEntries, (s.creditGrant? l.grantId).any fun g =>
      g.tenantId = l.tenantId ∧ g.ledgerId = l.ledgerId ∧ g.accountId = l.accountId)
    (.foreignKeyViolation "credit_grant_entries_grant_fk")
  require (∀ l ∈ s.creditGrantEntries, (s.entry? l.entryId).any fun e =>
      e.tenantId = l.tenantId ∧ e.accountId = l.accountId)
    (.foreignKeyViolation "credit_grant_entries_entry_fk")
  require (∀ e ∈ s.entries, (s.transaction? e.transactionId).isSome)
    (.foreignKeyViolation "entries_transaction_id_transactions_id_fk")
  require (∀ e ∈ s.entries, (s.account? e.accountId).isSome)
    (.foreignKeyViolation "entries_account_id_accounts_id_fk")
  require (∀ e ∈ s.entries, s.hasAsset e.tenantId e.assetId)
    (.foreignKeyViolation "entries_asset_fk")
  require (∀ he ∈ s.holdEntries, (s.hold? he.holdId).isSome)
    (.foreignKeyViolation "hold_entries_hold_id_holds_id_fk")
  require (∀ he ∈ s.holdEntries, (s.account? he.accountId).isSome)
    (.foreignKeyViolation "hold_entries_account_id_accounts_id_fk")
  require (∀ he ∈ s.holdEntries, s.hasAsset he.tenantId he.assetId)
    (.foreignKeyViolation "hold_entries_asset_fk")
  require (∀ h ∈ s.holds, s.hasAsset h.tenantId h.assetId)
    (.foreignKeyViolation "holds_asset_fk")
  require (∀ t ∈ s.transactions, ∀ id ∈ t.holdId, (s.hold? id).isSome)
    (.foreignKeyViolation "transactions_hold_id_holds_id_fk")
  require (∀ t ∈ s.transactions, ∀ id ∈ t.relatedTransactionId, (s.transaction? id).isSome)
    (.foreignKeyViolation "transactions_related_transaction_id_transactions_id_fk")
  require (∀ t ∈ s.transactions, s.hasAsset t.tenantId t.assetId)
    (.foreignKeyViolation "transactions_asset_fk")
  require (∀ a ∈ s.creditGrantHoldAllocations, (s.allocationGrant? a).isSome)
    (.foreignKeyViolation "credit_grant_hold_allocations_grant_fk")
  require (∀ a ∈ s.creditGrantHoldAllocations,
      (s.allocationHoldEntry? a).any fun he => he.accountId = a.accountId)
    (.foreignKeyViolation "credit_grant_hold_allocations_hold_entry_fk")

/-! ## Edits -/

/-- The UPDATE and DELETE statements on the ledger tables; those on holds that update and
those on capacity versions are statements of a run already. -/
inductive Edit where
  | assets (e : TableEdit Uuid Asset)
  | accounts (e : TableEdit Uuid Account)
  | transactions (e : TableEdit Uuid Transaction)
  | entries (e : TableEdit Uuid Entry)
  | creditGrants (e : TableEdit Uuid CreditGrant)
  | creditGrantEntries (e : TableEdit (Uuid × Uuid) CreditGrantEntry)
  | deleteHolds (ids : List Uuid)
  | holdEntries (e : TableEdit Uuid HoldEntry)
  | allocations (e : TableEdit Uuid CreditGrantHoldAllocation)
  deriving DecidableEq, Repr

/-! ### Cascades -/

/-- The entry once its transaction has been renamed. -/
def Entry.followTransaction (renamed : Uuid → Uuid) (e : Entry) : Entry :=
  { e with transactionId := renamed e.transactionId }

/-- The entry once its account has been renamed. -/
def Entry.followAccount (renamed : Uuid → Uuid) (e : Entry) : Entry :=
  { e with accountId := renamed e.accountId }

/-- The hold entry once its account has been renamed. -/
def HoldEntry.followAccount (renamed : Uuid → Uuid) (he : HoldEntry) : HoldEntry :=
  { he with accountId := renamed he.accountId }

/-- The transaction once the one it relates to has been renamed. -/
def Transaction.followTransaction (renamed : Uuid → Uuid) (t : Transaction) : Transaction :=
  { t with relatedTransactionId := t.relatedTransactionId.map renamed }

/-- A cascade is an UPDATE of the rows it changes: each passes its BEFORE trigger. -/
def checkCascade {ρ : Type} [DecidableEq ρ] (protect : ρ → Except SqlError Unit) (follow : ρ → ρ)
    (rows : List ρ) : Except SqlError Unit :=
  checkEach protect (rows.filter fun r => follow r ≠ r)

/-! ### Execution -/

/-- The foreign keys at the end of a statement. -/
def Db.finish (s : Db) : Except SqlError Db := do
  checkReferences s
  return s

/-- `reject_credit_grant_mutation`, and likewise
`reject_credit_grant_hold_allocation_change`, on every row selected. -/
def rejectEdit {κ ρ : Type} [DecidableEq κ] (key : ρ → κ) (message : String) (s : Db)
    (rows : List ρ) (e : TableEdit κ ρ) : Except SqlError Db := do
  let _ ← e.run key (fun _ _ _ => .error (raiseException message))
    (fun _ => .error (raiseException message)) rows
  return s

/-- Execute an UPDATE or a DELETE. -/
def Edit.exec (s : Db) : Edit → Except SqlError Db
  | .assets e => do
      let assets ← e.run Asset.id updateAsset (fun _ => .ok ()) s.assets
      Db.finish { s with assets }
  | .accounts e => do
      let accounts ← e.run Account.id (updateAccount s) (fun _ => .ok ()) s.accounts
      let renamed := e.newKey Account.id s.accounts
      checkCascade (protectHistoryEntry s) (Entry.followAccount renamed) s.entries
      checkCascade (protectAllocatedHoldEntry s) (HoldEntry.followAccount renamed) s.holdEntries
      Db.finish { s with
        accounts
        entries := s.entries.map (Entry.followAccount renamed)
        holdEntries := s.holdEntries.map (HoldEntry.followAccount renamed) }
  | .transactions e => do
      let transactions ← e.run Transaction.id (updateTransaction s) (protectHistoryTransaction s)
        s.transactions
      let renamed := e.newKey Transaction.id s.transactions
      checkCascade (protectHistoryEntry s) (Entry.followTransaction renamed) s.entries
      checkCascade (protectHistoryTransaction s) (Transaction.followTransaction renamed)
        transactions
      let followed := transactions.map (Transaction.followTransaction renamed)
      require (UniqueRelations followed) (.uniqueViolation "transactions_relation_uq")
      Db.finish { s with
        transactions := followed
        entries := s.entries.map (Entry.followTransaction renamed) }
  | .entries e => do
      let entries ← e.run Entry.id (updateEntry s) (protectHistoryEntry s) s.entries
      Db.finish { s with entries }
  | .creditGrants e =>
      rejectEdit CreditGrant.id "credit grant history is immutable" s s.creditGrants e
  | .creditGrantEntries e =>
      rejectEdit (fun l : CreditGrantEntry => (l.grantId, l.entryId))
        "credit grant history is immutable" s s.creditGrantEntries e
  | .deleteHolds ids => do
      checkEach (fun _ => .error (.raised "hold history is immutable" "LL001"))
        (s.holds.filter fun h => h.id ∈ ids)
      return s
  | .holdEntries e => do
      let holdEntries ← e.run HoldEntry.id (updateHoldEntry s) (protectAllocatedHoldEntry s)
        s.holdEntries
      Db.finish { s with holdEntries }
  | .allocations e =>
      rejectEdit CreditGrantHoldAllocation.id "credit grant hold allocations are immutable" s
        s.creditGrantHoldAllocations e

/-- The tables after an accepted edit. -/
def Edit.store (s : Db) : Edit → Db
  | .assets e => { s with assets := e.apply Asset.id s.assets }
  | .accounts e =>
      let renamed := e.newKey Account.id s.accounts
      { s with
        accounts := e.apply Account.id s.accounts
        entries := s.entries.map (Entry.followAccount renamed)
        holdEntries := s.holdEntries.map (HoldEntry.followAccount renamed) }
  | .transactions e =>
      let renamed := e.newKey Transaction.id s.transactions
      { s with
        transactions := (e.apply Transaction.id s.transactions).map
          (Transaction.followTransaction renamed)
        entries := s.entries.map (Entry.followTransaction renamed) }
  | .entries e => { s with entries := e.apply Entry.id s.entries }
  | .holdEntries e => { s with holdEntries := e.apply HoldEntry.id s.holdEntries }
  | _ => s

/-- The hold entries that an edit updates, as it leaves them: the rows of its deferred
UPDATE triggers. -/
def Edit.updatedHoldEntries (s : Db) : Edit → List HoldEntry
  | .accounts e =>
      let renamed := e.newKey Account.id s.accounts
      (s.holdEntries.filter fun he => HoldEntry.followAccount renamed he ≠ he).map
        (HoldEntry.followAccount renamed)
  | .holdEntries e => e.given HoldEntry.id s.holdEntries
  | _ => []

/-! ## Database transactions of any writes -/

/-- A statement of any kind. -/
inductive Change where
  | statement (stmt : Statement)
  | edit (e : Edit)
  deriving DecidableEq, Repr

/-- Execute it at a transaction timestamp. -/
def Change.exec (now : Timestamp) (s : Db) : Change → Except SqlError Db
  | .statement stmt => stmt.exec now s
  | .edit e => e.exec s

/-- The hold entries that a change has updated, as they are after it. -/
def Change.updatedHoldEntries (s : Db) : Change → List HoldEntry
  | .statement _ => []
  | .edit e => e.updatedHoldEntries s

/-- The deferred triggers of the rows that an INSERT or an UPDATE of holds has written. -/
def Change.deferred (now : Timestamp) (s : Db) : Change → Except SqlError Unit
  | .statement stmt => stmt.deferred now s
  | .edit _ => .ok ()

/-- A database transaction of any statements. -/
structure ChangeTransaction where
  now : Timestamp
  changes : List Change
  deriving DecidableEq, Repr

/-- The tables inside a database transaction, and the hold entries it has updated, each as
it was left by its update. -/
structure OpenTransaction where
  db : Db
  updatedHoldEntries : List HoldEntry
  deriving DecidableEq, Repr

/-- The next statement of an open transaction. -/
def OpenTransaction.exec (now : Timestamp) (tx : OpenTransaction) (c : Change) :
    Except SqlError OpenTransaction := do
  let db ← c.exec now tx.db
  return ⟨db, tx.updatedHoldEntries ++ c.updatedHoldEntries tx.db⟩

/-- Execute and commit: every deferred trigger accepts the final state for the row of its
event. -/
def commitChanges (s : Db) (tx : ChangeTransaction) : Except SqlError Db := do
  let final ← tx.changes.foldlM (OpenTransaction.exec tx.now) ⟨s, []⟩
  checkEach (Change.deferred tx.now final.db) tx.changes
  checkEach (assertGrantHoldAllocated final.db) final.updatedHoldEntries
  return final.db

/-- The committed state after a log of accepted database transactions. -/
def replayChanges (log : List ChangeTransaction) : Except SqlError Db :=
  run commitChanges Db.empty log

/-- The state after a sequence of accepted statements, commits left aside. -/
abbrev runChanges (s : Db) (steps : List (Timestamp × Change)) : Except SqlError Db :=
  run (fun s step => step.2.exec step.1 s) s steps

end LuxLedger.Schema
