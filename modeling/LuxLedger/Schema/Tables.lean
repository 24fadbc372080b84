/-
  Schema/Tables.lean --- the ledger tables as `drizzle/` leaves them after its
  last migration.

  A table is the list of its rows in insertion order.  Kept are the columns that
  a trigger, a CHECK constraint or an index of the ledger reads; names, codes,
  currencies, balances and timestamps that nothing below reads are left out, and
  so are the unique indexes over left-out columns.  A `uuid` is a number, a
  `bigint` an integer: the arithmetic never wraps in the source, it fails, so the
  integers admit every run the column type admits.

  Every query of the source is scoped by `tenant_id`, and row-level security
  shows a session the rows of its own tenant only.  Rows of all tenants share the
  tables here as they do there.
-/
import LuxLedger.Relational.Rows
import LuxLedger.Relational.Statement

set_option autoImplicit false

namespace LuxLedger.Schema

open LuxLedger.Relational

/-- `uuid`. -/
abbrev Uuid : Type := Nat

/-- `timestamp with time zone`. -/
abbrev Timestamp : Type := Int

/-! ## Enumerated types -/

/-- `account_side`. -/
inductive AccountSide where
  | debit
  | credit
  deriving DecidableEq, Repr

/-- `overdraft_policy`. -/
inductive OverdraftPolicy where
  | allow
  | disallow
  deriving DecidableEq, Repr

/-- `transaction_relation_type`. -/
inductive TransactionRelationType where
  | reversal
  | correction
  deriving DecidableEq, Repr

/-- `hold_state`. -/
inductive HoldState where
  | held
  | applied
  | voided
  deriving DecidableEq, Repr

/-- `credit_grant_entry_kind`, with the value migration 0006 adds. -/
inductive CreditGrantEntryKind where
  | issuance
  | reversal
  | consumption
  | compensation
  | expiration
  | refund
  deriving DecidableEq, Repr

/-! ## Rows -/

/-- A row of `assets`. -/
structure Asset where
  id : Uuid
  tenantId : Uuid
  code : String
  scale : Int
  deriving DecidableEq, Repr

/-- A row of `accounts`. -/
structure Account where
  id : Uuid
  tenantId : Uuid
  ledgerId : Uuid
  side : AccountSide
  overdraftPolicy : OverdraftPolicy
  assetId : Uuid
  grantEnabled : Bool
  deriving DecidableEq, Repr

/-- A row of `transactions`. -/
structure Transaction where
  id : Uuid
  tenantId : Uuid
  ledgerId : Uuid
  holdId : Option Uuid
  relatedTransactionId : Option Uuid
  relationType : Option TransactionRelationType
  assetId : Uuid
  effectiveAt : Timestamp
  deriving DecidableEq, Repr

/-- A row of `entries`.  A positive amount is a DEBIT, a negative one a CREDIT. -/
structure Entry where
  id : Uuid
  tenantId : Uuid
  transactionId : Uuid
  accountId : Uuid
  signedAmountMinor : Int
  assetId : Uuid
  deriving DecidableEq, Repr

/-- A row of `credit_grants`. -/
structure CreditGrant where
  id : Uuid
  tenantId : Uuid
  ledgerId : Uuid
  accountId : Uuid
  fundingAccountId : Uuid
  transactionId : Uuid
  expiresAt : Option Timestamp
  createdAt : Timestamp
  deriving DecidableEq, Repr

/-- A row of `credit_grant_entries`: the lineage of one ledger entry. -/
structure CreditGrantEntry where
  tenantId : Uuid
  ledgerId : Uuid
  accountId : Uuid
  grantId : Uuid
  entryId : Uuid
  kind : CreditGrantEntryKind
  amountMinor : Int
  deriving DecidableEq, Repr

/-- A row of `holds`. -/
structure Hold where
  id : Uuid
  tenantId : Uuid
  ledgerId : Uuid
  reference : String
  currency : String
  assetId : Uuid
  description : Option String
  state : HoldState
  originalAmountMinor : Int
  remainingAmountMinor : Int
  createdAt : Timestamp
  appliedAt : Option Timestamp
  voidedAt : Option Timestamp
  deriving DecidableEq, Repr

/-- A row of `hold_entries`. -/
structure HoldEntry where
  id : Uuid
  tenantId : Uuid
  holdId : Uuid
  accountId : Uuid
  signedAmountMinor : Int
  assetId : Uuid
  deriving DecidableEq, Repr

/-- A row of `credit_grant_hold_allocations`. -/
structure CreditGrantHoldAllocation where
  id : Uuid
  tenantId : Uuid
  ledgerId : Uuid
  accountId : Uuid
  grantId : Uuid
  holdEntryId : Uuid
  amountMinor : Int
  deriving DecidableEq, Repr

/-- A row of `credit_grant_capacity_versions`. -/
structure CreditGrantCapacityVersion where
  tenantId : Uuid
  ledgerId : Uuid
  accountId : Uuid
  grantId : Uuid
  sourceEntryId : Option Uuid
  sourceAllocationId : Option Uuid
  sourceHoldId : Option Uuid
  version : Int
  grantedMinor : Int
  reversedMinor : Int
  consumedMinor : Int
  compensatedMinor : Int
  expiredMinor : Int
  remainingMinor : Int
  reservedMinor : Int
  deriving DecidableEq, Repr

/-! ## The database -/

/-- The ledger tables. -/
structure Db where
  assets : List Asset
  accounts : List Account
  transactions : List Transaction
  entries : List Entry
  creditGrants : List CreditGrant
  creditGrantEntries : List CreditGrantEntry
  holds : List Hold
  holdEntries : List HoldEntry
  creditGrantHoldAllocations : List CreditGrantHoldAllocation
  creditGrantCapacityVersions : List CreditGrantCapacityVersion
  deriving DecidableEq, Repr

/-- The freshly migrated database. -/
def Db.empty : Db := ⟨[], [], [], [], [], [], [], [], [], []⟩

/-- Why a statement or a commit fails. -/
inductive SqlError where
  /-- `RAISE EXCEPTION message USING ERRCODE = errcode` -/
  | raised (message : String) (errcode : String)
  | checkViolation (constraint : String)
  | uniqueViolation (constraint : String)
  | foreignKeyViolation (constraint : String)
  /-- `SELECT … INTO STRICT` found no row -/
  | noDataFound
  deriving DecidableEq, Repr

/-- `RAISE EXCEPTION` without an explicit code. -/
def raiseException (message : String) : SqlError := .raised message "P0001"

/-! ## Reads through the primary keys

A join on a primary key yields at most one row, so it is a lookup; the other
columns of its condition filter the row it finds. -/

namespace Db

/-- The asset with an id. -/
def asset? (s : Db) (id : Uuid) : Option Asset := lookup Asset.id s.assets id

/-- The account with an id. -/
def account? (s : Db) (id : Uuid) : Option Account := lookup Account.id s.accounts id

/-- The transaction with an id. -/
def transaction? (s : Db) (id : Uuid) : Option Transaction :=
  lookup Transaction.id s.transactions id

/-- The entry with an id. -/
def entry? (s : Db) (id : Uuid) : Option Entry := lookup Entry.id s.entries id

/-- The grant with an id. -/
def creditGrant? (s : Db) (id : Uuid) : Option CreditGrant :=
  lookup CreditGrant.id s.creditGrants id

/-- The hold with an id. -/
def hold? (s : Db) (id : Uuid) : Option Hold := lookup Hold.id s.holds id

/-- The hold entry with an id. -/
def holdEntry? (s : Db) (id : Uuid) : Option HoldEntry := lookup HoldEntry.id s.holdEntries id

/-- The allocation with an id. -/
def allocation? (s : Db) (id : Uuid) : Option CreditGrantHoldAllocation :=
  lookup CreditGrantHoldAllocation.id s.creditGrantHoldAllocations id

/-- `SELECT 1 FROM accounts WHERE tenant_id = … AND id = … AND grant_enabled`. -/
def grantEnabled (s : Db) (tenantId accountId : Uuid) : Bool :=
  (s.account? accountId).any fun a => a.tenantId = tenantId ∧ a.grantEnabled

/-- `entries e ON e.id = l.entry_id AND e.tenant_id = l.tenant_id`. -/
def lineageEntry? (s : Db) (l : CreditGrantEntry) : Option Entry :=
  (s.entry? l.entryId).filter fun e => e.tenantId = l.tenantId

/-- `transactions t ON t.id = e.transaction_id AND t.tenant_id = e.tenant_id`. -/
def entryTransaction? (s : Db) (e : Entry) : Option Transaction :=
  (s.transaction? e.transactionId).filter fun t => t.tenantId = e.tenantId

/-- The transaction a lineage row posts to, through its entry. -/
def lineageTransaction? (s : Db) (l : CreditGrantEntry) : Option Transaction :=
  (s.lineageEntry? l).bind s.entryTransaction?

/-- `hold_entries he ON he.id = a.hold_entry_id AND he.tenant_id = a.tenant_id`. -/
def allocationHoldEntry? (s : Db) (a : CreditGrantHoldAllocation) : Option HoldEntry :=
  (s.holdEntry? a.holdEntryId).filter fun he => he.tenantId = a.tenantId

/-- `holds h ON h.id = he.hold_id AND h.tenant_id = he.tenant_id`. -/
def holdEntryHold? (s : Db) (he : HoldEntry) : Option Hold :=
  (s.hold? he.holdId).filter fun h => h.tenantId = he.tenantId

/-- The hold that a lineage row's transaction carries. -/
def lineageHoldId (s : Db) (l : CreditGrantEntry) : Option Uuid :=
  (s.lineageTransaction? l).bind (·.holdId)

/-- The hold that an allocation reserves for. -/
def allocationHoldId (s : Db) (a : CreditGrantHoldAllocation) : Option Uuid :=
  (s.allocationHoldEntry? a).map (·.holdId)

/-! ## Sums over the lineage and the allocations of a grant -/

/-- The lineage of a grant of one kind. -/
def lineageTotal (s : Db) (tenantId grantId : Uuid) (kind : CreditGrantEntryKind) : Int :=
  sumWhere s.creditGrantEntries
    (fun l => l.tenantId = tenantId ∧ l.grantId = grantId ∧ l.kind = kind) (·.amountMinor)

/-- CONSUMPTION of a grant posted by the transactions that carry a hold. -/
def holdConsumed (s : Db) (tenantId grantId holdId : Uuid) : Int :=
  sumWhere s.creditGrantEntries
    (fun l => l.tenantId = tenantId ∧ l.grantId = grantId ∧ l.kind = .consumption ∧
      s.lineageHoldId l = some holdId) (·.amountMinor)

/-- Allocations of a grant to the entries of a hold. -/
def holdAllocated (s : Db) (tenantId grantId holdId : Uuid) : Int :=
  sumWhere s.creditGrantHoldAllocations
    (fun a => a.tenantId = tenantId ∧ a.grantId = grantId ∧
      s.allocationHoldId a = some holdId) (·.amountMinor)

/-- Lineage of one kind of a grant on the entries of one transaction; a NULL
transaction matches no entry. -/
def transactionLineage (s : Db) (tenantId grantId : Uuid) (kind : CreditGrantEntryKind)
    (transactionId : Option Uuid) : Int :=
  sumWhere s.creditGrantEntries
    (fun l => l.tenantId = tenantId ∧ l.grantId = grantId ∧ l.kind = kind ∧
      (s.lineageEntry? l).any fun e => transactionId = some e.transactionId) (·.amountMinor)

/-- The lineage attributed to one entry. -/
def attributedAmount (s : Db) (e : Entry) : Int :=
  sumWhere s.creditGrantEntries
    (fun l => l.tenantId = e.tenantId ∧ l.entryId = e.id) (·.amountMinor)

end Db

end LuxLedger.Schema
