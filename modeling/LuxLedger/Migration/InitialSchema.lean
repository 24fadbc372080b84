/-
  Migration/InitialSchema.lean --- the ledger tables and the lineage validator as
  migration 0000 creates them.

  An entry has a direction and an amount, an account its balance and its in-flight
  amounts, and there are no allocations and no reservations yet.  Tables that no
  later migration changes keep the rows of `Schema.Tables`; the kind REFUND is not a
  value of the enumeration before migration 0006.
-/
import LuxLedger.Schema.Lineage

set_option autoImplicit false

namespace LuxLedger.Migration.Initial

open LuxLedger.Schema LuxLedger.Relational

/-! ## Rows -/

/-- `entry_direction`. -/
inductive EntryDirection where
  | debit
  | credit
  deriving DecidableEq, Repr

/-- A row of `accounts`. -/
structure Account where
  id : Uuid
  tenantId : Uuid
  ledgerId : Uuid
  side : AccountSide
  overdraftPolicy : OverdraftPolicy
  assetId : Uuid
  balanceMinor : Int
  inflightDebitMinor : Int
  inflightCreditMinor : Int
  deriving DecidableEq, Repr

/-- A row of `entries`. -/
structure Entry where
  id : Uuid
  tenantId : Uuid
  transactionId : Uuid
  accountId : Uuid
  direction : EntryDirection
  amountMinor : Int
  assetId : Uuid
  deriving DecidableEq, Repr

/-- A row of `hold_entries`. -/
structure HoldEntry where
  id : Uuid
  tenantId : Uuid
  holdId : Uuid
  accountId : Uuid
  direction : EntryDirection
  amountMinor : Int
  assetId : Uuid
  deriving DecidableEq, Repr

/-- A row of `balance_snapshots`. -/
structure BalanceSnapshot where
  id : Uuid
  tenantId : Uuid
  ledgerId : Uuid
  accountId : Uuid
  postedMinor : Int
  inflightDebitMinor : Int
  inflightCreditMinor : Int
  deriving DecidableEq, Repr

/-- A row of `credit_grant_capacity_versions`. -/
structure CreditGrantCapacityVersion where
  tenantId : Uuid
  ledgerId : Uuid
  accountId : Uuid
  grantId : Uuid
  sourceEntryId : Option Uuid
  version : Int
  grantedMinor : Int
  reversedMinor : Int
  consumedMinor : Int
  compensatedMinor : Int
  expiredMinor : Int
  remainingMinor : Int
  deriving DecidableEq, Repr

/-- The ledger tables. -/
structure Db where
  assets : List Asset
  accounts : List Account
  transactions : List Transaction
  entries : List Entry
  creditGrants : List CreditGrant
  creditGrantEntries : List CreditGrantEntry
  holds : List Hold
  holdEntries : List HoldEntry
  balanceSnapshots : List BalanceSnapshot
  creditGrantCapacityVersions : List CreditGrantCapacityVersion
  deriving DecidableEq, Repr

/-- The database after migration 0000. -/
def Db.empty : Db := ⟨[], [], [], [], [], [], [], [], [], []⟩

/-! ## Reads -/

namespace Db

/-- The asset with an id. -/
def asset? (s : Db) (id : Uuid) : Option Asset := lookup Asset.id s.assets id

/-- The account with an id. -/
def account? (s : Db) (id : Uuid) : Option Account := lookup Account.id s.accounts id

/-- The transaction with an id. -/
def transaction? (s : Db) (id : Uuid) : Option Transaction :=
  lookup Transaction.id s.transactions id

/-- The entry with an id. -/
def entry? (s : Db) (id : Uuid) : Option Entry := lookup Entry.id s.entries id

/-- The grant with an id. -/
def creditGrant? (s : Db) (id : Uuid) : Option CreditGrant :=
  lookup CreditGrant.id s.creditGrants id

/-- The hold with an id. -/
def hold? (s : Db) (id : Uuid) : Option Hold := lookup Hold.id s.holds id

/-- `entries e ON e.id = l.entry_id AND e.tenant_id = l.tenant_id`. -/
def lineageEntry? (s : Db) (l : CreditGrantEntry) : Option Entry :=
  (s.entry? l.entryId).filter fun e => e.tenantId = l.tenantId

/-- `transactions t ON t.id = e.transaction_id AND t.tenant_id = e.tenant_id`. -/
def entryTransaction? (s : Db) (e : Entry) : Option Transaction :=
  (s.transaction? e.transactionId).filter fun t => t.tenantId = e.tenantId

/-- The transaction a lineage row posts to, through its entry. -/
def lineageTransaction? (s : Db) (l : CreditGrantEntry) : Option Transaction :=
  (s.lineageEntry? l).bind s.entryTransaction?

/-- A column of the latest capacity version, or 0 when the grant has none. -/
def latestMinor (s : Db) (tenantId grantId : Uuid)
    (column : CreditGrantCapacityVersion → Int) : Int :=
  ((latestBy CreditGrantCapacityVersion.version
    (s.creditGrantCapacityVersions.filter fun v =>
      v.tenantId = tenantId ∧ v.grantId = grantId)).map column).getD 0

/-- Lineage of one kind of a grant on the entries of one transaction; a NULL
transaction matches no entry. -/
def transactionLineage (s : Db) (tenantId grantId : Uuid) (kind : CreditGrantEntryKind)
    (transactionId : Option Uuid) : Int :=
  sumWhere s.creditGrantEntries
    (fun l => l.tenantId = tenantId ∧ l.grantId = grantId ∧ l.kind = kind ∧
      (s.lineageEntry? l).any fun e => transactionId = some e.transactionId) (·.amountMinor)

/-- The lineage attributed to one entry. -/
def attributedAmount (s : Db) (e : Entry) : Int :=
  sumWhere s.creditGrantEntries
    (fun l => l.tenantId = e.tenantId ∧ l.entryId = e.id) (·.amountMinor)

/-- Credits that a transaction posts on an account. -/
def fundingCredit (s : Db) (tenantId transactionId fundingAccountId : Uuid) : Int :=
  sumWhere s.entries
    (fun e => e.tenantId = tenantId ∧ e.transactionId = transactionId ∧
      e.accountId = fundingAccountId ∧ e.direction = .credit)
    (·.amountMinor)

end Db

/-! ## `validate_credit_grant_entry` (0000) -/

/-- The grant, entry, transaction and account that the validator selects. -/
structure LinkedRows where
  grant : CreditGrant
  entry : Entry
  transaction : Transaction
  account : Account
  deriving DecidableEq, Repr

/-- The two SELECTs at the head of `validate_credit_grant_entry`. -/
def Db.linkedRows? (s : Db) (new : CreditGrantEntry) : Option LinkedRows := do
  let grant ← (s.creditGrant? new.grantId).filter fun g => g.tenantId = new.tenantId ∧
    g.ledgerId = new.ledgerId ∧ g.accountId = new.accountId
  let entry ← (s.entry? new.entryId).filter fun e => e.tenantId = new.tenantId ∧
    e.accountId = new.accountId
  let transaction ← (s.transaction? entry.transactionId).filter fun t =>
    t.tenantId = new.tenantId ∧ t.ledgerId = new.ledgerId
  let account ← (s.account? entry.accountId).filter fun a =>
    a.tenantId = new.tenantId ∧ a.ledgerId = new.ledgerId
  return ⟨grant, entry, transaction, account⟩

/-- The conjunction under the NOT of the ISSUANCE branch. -/
def issuanceLink (now : Timestamp) (new : CreditGrantEntry) (linked : LinkedRows) : Truth :=
  Truth.all [
    .of (linked.transaction.id = linked.grant.transactionId),
    .of (linked.entry.direction = .credit),
    .of (new.amountMinor = linked.entry.amountMinor),
    Truth.or (.of (linked.grant.expiresAt.isNone))
      (Truth.compare (· > ·) linked.grant.expiresAt (some now))]

/-- The conjunction under the NOT of the REVERSAL branch. -/
def reversalLink (s : Db) (new : CreditGrantEntry) (linked : LinkedRows) : Truth :=
  let latest := s.latestMinor new.tenantId new.grantId
  Truth.all [
    Truth.compare (· = ·) linked.transaction.relationType (some .reversal),
    Truth.compare (· = ·) linked.transaction.relatedTransactionId
      (some linked.grant.transactionId),
    .of (linked.entry.direction = .debit),
    .of (new.amountMinor = linked.entry.amountMinor),
    .of (latest (·.grantedMinor) > 0),
    .of (new.amountMinor = latest (·.grantedMinor)),
    .of (latest (·.remainingMinor) = latest (·.grantedMinor)),
    .of (latest (·.consumedMinor) = 0),
    .of (latest (·.expiredMinor) = 0)]

/-- `grant_expiration IS NOT NULL AND (grant_expiration <= linked_effective_at OR
grant_expiration <= transaction_timestamp())`. -/
def grantExpired (now : Timestamp) (linked : LinkedRows) : Truth :=
  Truth.and (.of linked.grant.expiresAt.isSome)
    (Truth.or
      (Truth.compare (· ≤ ·) linked.grant.expiresAt (some linked.transaction.effectiveAt))
      (Truth.compare (· ≤ ·) linked.grant.expiresAt (some now)))

/-- The CONSUMPTION branch. -/
def validateConsumption (s : Db) (now : Timestamp) (new : CreditGrantEntry)
    (linked : LinkedRows) : Except SqlError Unit :=
  raiseIf (Truth.any [
      .of (linked.entry.direction ≠ .debit),
      .of (new.amountMinor > s.latestMinor new.tenantId new.grantId (·.remainingMinor)),
      grantExpired now linked])
    (raiseException "credit grant consumption exceeds eligible capacity")

/-- The COMPENSATION branch. -/
def validateCompensation (s : Db) (new : CreditGrantEntry) (linked : LinkedRows) :
    Except SqlError Unit :=
  let sourceAllocation := s.transactionLineage new.tenantId new.grantId .consumption
    linked.transaction.relatedTransactionId
  let compensated := s.transactionLineage new.tenantId new.grantId .compensation
    (some linked.transaction.id)
  raiseIf (Truth.any [
      .of (linked.entry.direction ≠ .credit),
      Truth.compare (· ≠ ·) linked.transaction.relationType (some .reversal),
      .of (linked.transaction.relatedTransactionId.isNone),
      .of (sourceAllocation = 0),
      .of (compensated + new.amountMinor > sourceAllocation)])
    (raiseException "credit grant compensation does not match original allocation")

/-- The EXPIRATION branch. -/
def validateExpiration (s : Db) (now : Timestamp) (new : CreditGrantEntry)
    (linked : LinkedRows) : Except SqlError Unit :=
  raiseIf (Truth.any [
      .of (linked.grant.expiresAt.isNone),
      Truth.compare (· > ·) linked.grant.expiresAt (some linked.transaction.effectiveAt),
      Truth.compare (· > ·) linked.grant.expiresAt (some now),
      .of (linked.entry.direction ≠ .debit),
      .of (new.amountMinor ≠ linked.entry.amountMinor),
      .of (new.amountMinor > s.latestMinor new.tenantId new.grantId (·.remainingMinor)),
      .of (s.fundingCredit new.tenantId linked.transaction.id linked.grant.fundingAccountId ≠
        new.amountMinor)])
    (raiseException "credit grant expiration link is invalid")

/-- The chain of branches over `NEW.kind`; it has none for REFUND. -/
def validateKind (s : Db) (now : Timestamp) (new : CreditGrantEntry) (linked : LinkedRows) :
    Except SqlError Unit :=
  match new.kind with
  | .issuance =>
      raiseIf (Truth.not (issuanceLink now new linked))
        (raiseException "credit grant issuance link is invalid")
  | .reversal =>
      raiseIf (Truth.not (reversalLink s new linked))
        (raiseException "credit grant reversal link is invalid")
  | .consumption => validateConsumption s now new linked
  | .compensation => validateCompensation s new linked
  | .expiration => validateExpiration s now new linked
  | .refund => .ok ()

/-- `validate_credit_grant_entry` (0000), BEFORE INSERT on the lineage. -/
def validateCreditGrantEntry (s : Db) (now : Timestamp) (new : CreditGrantEntry) :
    Except SqlError Unit :=
  match s.linkedRows? new with
  | none => .error (raiseException "credit grant entry scope or amount mismatch")
  | some linked => do
      raiseIf (.of (linked.entry.assetId ≠ linked.account.assetId ∨
          linked.transaction.assetId ≠ linked.account.assetId ∨
          new.amountMinor > linked.entry.amountMinor))
        (raiseException "credit grant entry scope or amount mismatch")
      validateKind s now new linked

end LuxLedger.Migration.Initial
