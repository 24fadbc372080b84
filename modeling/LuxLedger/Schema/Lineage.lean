/-
  Schema/Lineage.lean --- the lineage of ledger entries: the BEFORE INSERT
  validator of `credit_grant_entries`, the multi-row INSERT around it, and the
  deferred constraint triggers on entries and lineage.

  Sources: `validate_credit_grant_entry` and the appender as migration 0007 leaves
  them, `assert_grant_entry_attributed` (0002), `assert_grant_compensation_complete`
  (0000), `assert_expired_grant_capacity_removed` (0004), the indexes of 0000.
-/
import LuxLedger.Schema.Capacity

set_option autoImplicit false

namespace LuxLedger.Schema

open LuxLedger.Relational

/-! ## The rows a lineage row links to -/

/-- The grant, entry, transaction and account that the validator selects. -/
structure LinkedRows where
  grant : CreditGrant
  entry : Entry
  transaction : Transaction
  account : Account
  deriving DecidableEq, Repr

/-- The two SELECTs at the head of `validate_credit_grant_entry`. -/
def Db.linkedRows? (s : Db) (new : CreditGrantEntry) : Option LinkedRows := do
  let grant ← (s.creditGrant? new.grantId).filter fun g => g.tenantId = new.tenantId ∧
    g.ledgerId = new.ledgerId ∧ g.accountId = new.accountId
  let entry ← (s.entry? new.entryId).filter fun e => e.tenantId = new.tenantId ∧
    e.accountId = new.accountId
  let transaction ← (s.transaction? entry.transactionId).filter fun t =>
    t.tenantId = new.tenantId ∧ t.ledgerId = new.ledgerId
  let account ← (s.account? entry.accountId).filter fun a =>
    a.tenantId = new.tenantId ∧ a.ledgerId = new.ledgerId
  return ⟨grant, entry, transaction, account⟩

/-- What the two SELECTs say of the rows they find. -/
structure Linked (s : Db) (l : CreditGrantEntry) (linked : LinkedRows) : Prop where
  grant : s.creditGrant? l.grantId = some linked.grant
  grantTenant : linked.grant.tenantId = l.tenantId
  grantLedger : linked.grant.ledgerId = l.ledgerId
  grantAccount : linked.grant.accountId = l.accountId
  entry : s.entry? l.entryId = some linked.entry
  entryTenant : linked.entry.tenantId = l.tenantId
  entryAccount : linked.entry.accountId = l.accountId
  transaction : s.transaction? linked.entry.transactionId = some linked.transaction
  transactionTenant : linked.transaction.tenantId = l.tenantId
  transactionLedger : linked.transaction.ledgerId = l.ledgerId
  account : s.account? linked.entry.accountId = some linked.account
  accountTenant : linked.account.tenantId = l.tenantId
  accountLedger : linked.account.ledgerId = l.ledgerId

theorem linkedRows?_eq_some_iff {s : Db} {l : CreditGrantEntry} {linked : LinkedRows} :
    s.linkedRows? l = some linked ↔ Linked s l linked := by
  simp only [Db.linkedRows?, Option.bind_eq_bind, Option.bind_eq_some_iff, Option.pure_def,
    Option.some.injEq, Option.filter_eq_some_iff, decide_eq_true_eq]
  constructor
  · rintro ⟨grant, ⟨hgrant, hg1, hg2, hg3⟩, entry, ⟨hentry, he1, he2⟩, transaction,
      ⟨htransaction, ht1, ht2⟩, account, ⟨haccount, ha1, ha2⟩, rfl⟩
    exact ⟨hgrant, hg1, hg2, hg3, hentry, he1, he2, htransaction, ht1, ht2, haccount, ha1, ha2⟩
  · intro h
    exact ⟨_, ⟨h.grant, h.grantTenant, h.grantLedger, h.grantAccount⟩,
      _, ⟨h.entry, h.entryTenant, h.entryAccount⟩,
      _, ⟨h.transaction, h.transactionTenant, h.transactionLedger⟩,
      _, ⟨h.account, h.accountTenant, h.accountLedger⟩, rfl⟩

namespace Linked

variable {s : Db} {l : CreditGrantEntry} {linked : LinkedRows}

theorem lineageEntry (h : Linked s l linked) : s.lineageEntry? l = some linked.entry := by
  simp [Db.lineageEntry?, h.entry, h.entryTenant]

theorem lineageTransaction (h : Linked s l linked) :
    s.lineageTransaction? l = some linked.transaction := by
  have htenant : linked.transaction.tenantId = linked.entry.tenantId :=
    h.transactionTenant.trans h.entryTenant.symm
  simp [Db.lineageTransaction?, h.lineageEntry, Db.entryTransaction?, h.transaction, htenant]

theorem lineageHoldId (h : Linked s l linked) : s.lineageHoldId l = linked.transaction.holdId := by
  simp [Db.lineageHoldId, h.lineageTransaction]

end Linked

/-- `abs(e.signed_amount_minor)` of the linked entry. -/
def LinkedRows.entryAmount (linked : LinkedRows) : Int := |linked.entry.signedAmountMinor|

/-- Credits that a transaction posts on an account, as a positive sum. -/
def fundingCredit (s : Db) (tenantId transactionId fundingAccountId : Uuid) : Int :=
  sumWhere s.entries
    (fun e => e.tenantId = tenantId ∧ e.transactionId = transactionId ∧
      e.accountId = fundingAccountId ∧ e.signedAmountMinor < 0)
    (fun e => - e.signedAmountMinor)

/-- Allocations of a grant to a hold that is still HELD. -/
def heldAllocation (s : Db) (tenantId grantId holdId : Uuid) : Int :=
  sumWhere s.creditGrantHoldAllocations
    (fun a => a.tenantId = tenantId ∧ a.grantId = grantId ∧
      ((s.allocationHoldEntry? a).bind s.holdEntryHold?).any fun h =>
        h.id = holdId ∧ h.state = .held)
    (·.amountMinor)

/-! ## The six kinds -/

/-- The conjunction under the NOT of the ISSUANCE branch. -/
def issuanceLink (now : Timestamp) (new : CreditGrantEntry) (linked : LinkedRows) : Truth :=
  Truth.all [
    .of (linked.transaction.id = linked.grant.transactionId),
    .of (linked.entry.signedAmountMinor < 0),
    .of (new.amountMinor = linked.entryAmount),
    Truth.or (.of (linked.grant.expiresAt.isNone))
      (Truth.compare (· > ·) linked.grant.expiresAt (some now))]

/-- The conjunction under the NOT of the REVERSAL branch.  Its first two
comparisons read nullable columns. -/
def reversalLink (s : Db) (new : CreditGrantEntry) (linked : LinkedRows) : Truth :=
  let latest := s.latestMinor new.tenantId new.grantId
  Truth.all [
    Truth.compare (· = ·) linked.transaction.relationType (some .reversal),
    Truth.compare (· = ·) linked.transaction.relatedTransactionId
      (some linked.grant.transactionId),
    .of (linked.entry.signedAmountMinor > 0),
    .of (new.amountMinor = linked.entryAmount),
    .of (latest (·.grantedMinor) > 0),
    .of (new.amountMinor = latest (·.grantedMinor)),
    .of (latest (·.remainingMinor) = latest (·.grantedMinor)),
    .of (activeCreditGrantReservation s new.tenantId new.grantId = 0),
    .of (latest (·.consumedMinor) = 0),
    .of (latest (·.expiredMinor) = 0)]

/-- `grant_expiration IS NOT NULL AND (grant_expiration <= linked_effective_at OR
grant_expiration <= transaction_timestamp())`. -/
def grantExpired (now : Timestamp) (linked : LinkedRows) : Truth :=
  Truth.and (.of linked.grant.expiresAt.isSome)
    (Truth.or
      (Truth.compare (· ≤ ·) linked.grant.expiresAt (some linked.transaction.effectiveAt))
      (Truth.compare (· ≤ ·) linked.grant.expiresAt (some now)))

/-- The two CONSUMPTION branches: against free capacity, or against the
allocation of the hold the transaction carries. -/
def validateConsumption (s : Db) (now : Timestamp) (new : CreditGrantEntry)
    (linked : LinkedRows) : Except SqlError Unit :=
  let available := s.latestMinor new.tenantId new.grantId (·.remainingMinor)
  let reserved := activeCreditGrantReservation s new.tenantId new.grantId
  match linked.transaction.holdId with
  | none =>
      raiseIf (Truth.any [
          .of (linked.entry.signedAmountMinor ≤ 0),
          .of (new.amountMinor > available - reserved),
          grantExpired now linked])
        (raiseException "credit grant consumption exceeds eligible capacity")
  | some linkedHold =>
      raiseIf (Truth.any [
          .of (linked.entry.signedAmountMinor ≤ 0),
          .of (new.amountMinor > available),
          .of (s.holdConsumed new.tenantId new.grantId linkedHold + new.amountMinor >
            heldAllocation s new.tenantId new.grantId linkedHold)])
        (.raised "credit grant consumption exceeds reserved capacity" "LL002")

/-- The COMPENSATION branch. -/
def validateCompensation (s : Db) (new : CreditGrantEntry) (linked : LinkedRows) :
    Except SqlError Unit :=
  let sourceAllocation := s.transactionLineage new.tenantId new.grantId .consumption
    linked.transaction.relatedTransactionId
  let compensated := s.transactionLineage new.tenantId new.grantId .compensation
    (some linked.transaction.id)
  raiseIf (Truth.any [
      .of (linked.entry.signedAmountMinor ≥ 0),
      Truth.compare (· ≠ ·) linked.transaction.relationType (some .reversal),
      .of (linked.transaction.relatedTransactionId.isNone),
      .of (sourceAllocation = 0),
      .of (compensated + new.amountMinor > sourceAllocation)])
    (raiseException "credit grant compensation does not match original allocation")

/-- The EXPIRATION branch. -/
def validateExpiration (s : Db) (now : Timestamp) (new : CreditGrantEntry)
    (linked : LinkedRows) : Except SqlError Unit :=
  raiseIf (Truth.any [
      .of (linked.grant.expiresAt.isNone),
      Truth.compare (· > ·) linked.grant.expiresAt (some linked.transaction.effectiveAt),
      Truth.compare (· > ·) linked.grant.expiresAt (some now),
      .of (linked.entry.signedAmountMinor ≤ 0),
      .of (new.amountMinor ≠ linked.entryAmount),
      .of (new.amountMinor > s.latestMinor new.tenantId new.grantId (·.remainingMinor) -
        activeCreditGrantReservation s new.tenantId new.grantId),
      .of (fundingCredit s new.tenantId linked.transaction.id linked.grant.fundingAccountId ≠
        new.amountMinor)])
    (raiseException "credit grant expiration link is invalid")

/-- The REFUND branch. -/
def validateRefund (s : Db) (now : Timestamp) (new : CreditGrantEntry)
    (linked : LinkedRows) : Except SqlError Unit :=
  raiseIf (Truth.any [
      .of (linked.transaction.holdId.isSome),
      .of (linked.transaction.relationType.isSome),
      .of (linked.transaction.relatedTransactionId.isSome),
      .of (linked.entry.signedAmountMinor ≤ 0),
      .of (new.amountMinor ≠ linked.entryAmount),
      .of (new.amountMinor > s.latestMinor new.tenantId new.grantId (·.remainingMinor) -
        activeCreditGrantReservation s new.tenantId new.grantId),
      grantExpired now linked,
      .of (fundingCredit s new.tenantId linked.transaction.id linked.grant.fundingAccountId ≠
        new.amountMinor)])
    (raiseException "credit grant refund link is invalid")

/-- The chain of branches over `NEW.kind`. -/
def validateKind (s : Db) (now : Timestamp) (new : CreditGrantEntry) (linked : LinkedRows) :
    Except SqlError Unit :=
  match new.kind with
  | .issuance =>
      raiseIf (Truth.not (issuanceLink now new linked))
        (raiseException "credit grant issuance link is invalid")
  | .reversal =>
      raiseIf (Truth.not (reversalLink s new linked))
        (raiseException "credit grant reversal link is invalid")
  | .consumption => validateConsumption s now new linked
  | .compensation => validateCompensation s new linked
  | .expiration => validateExpiration s now new linked
  | .refund => validateRefund s now new linked

/-- `validate_credit_grant_entry` (0007), BEFORE INSERT on the lineage. -/
def validateCreditGrantEntry (s : Db) (now : Timestamp) (new : CreditGrantEntry) :
    Except SqlError Unit :=
  match s.linkedRows? new with
  | none => .error (raiseException "credit grant entry scope or amount mismatch")
  | some linked => do
      raiseIf (.of (linked.entry.assetId ≠ linked.account.assetId ∨
          linked.transaction.assetId ≠ linked.account.assetId ∨
          new.amountMinor > linked.entryAmount))
        (raiseException "credit grant entry scope or amount mismatch")
      validateKind s now new linked

/-! ### What the branches mean in two-valued logic -/

/-- The grant expires after a given time, or never. -/
def CreditGrant.LiveAt (g : CreditGrant) (t : Timestamp) : Prop :=
  ∀ expiry ∈ g.expiresAt, t < expiry

/-- A condition on the posting side and on the link of a lineage row, kind by
kind: what is left of the guards once UNKNOWN is resolved. -/
def AcceptedKind (s : Db) (now : Timestamp) (new : CreditGrantEntry) (linked : LinkedRows) : Prop :=
  let latest := s.latestMinor new.tenantId new.grantId
  let reserved := activeCreditGrantReservation s new.tenantId new.grantId
  match new.kind with
  | .issuance =>
      linked.entry.signedAmountMinor < 0 ∧ new.amountMinor = linked.entryAmount ∧
        linked.transaction.id = linked.grant.transactionId ∧ linked.grant.LiveAt now
  | .reversal =>
      0 < linked.entry.signedAmountMinor ∧ new.amountMinor = linked.entryAmount ∧
        (∀ r ∈ linked.transaction.relationType, r = .reversal) ∧
        (∀ id ∈ linked.transaction.relatedTransactionId, id = linked.grant.transactionId) ∧
        0 < latest (·.grantedMinor) ∧ new.amountMinor = latest (·.grantedMinor) ∧
        latest (·.remainingMinor) = latest (·.grantedMinor) ∧ reserved = 0 ∧
        latest (·.consumedMinor) = 0 ∧ latest (·.expiredMinor) = 0
  | .consumption =>
      0 < linked.entry.signedAmountMinor ∧
        match linked.transaction.holdId with
        | none =>
            new.amountMinor ≤ latest (·.remainingMinor) - reserved ∧
              linked.grant.LiveAt linked.transaction.effectiveAt ∧ linked.grant.LiveAt now
        | some linkedHold =>
            new.amountMinor ≤ latest (·.remainingMinor) ∧
              s.holdConsumed new.tenantId new.grantId linkedHold + new.amountMinor ≤
                heldAllocation s new.tenantId new.grantId linkedHold
  | .compensation =>
      linked.entry.signedAmountMinor < 0 ∧
        (∀ r ∈ linked.transaction.relationType, r = .reversal) ∧
        linked.transaction.relatedTransactionId.isSome ∧
        s.transactionLineage new.tenantId new.grantId .consumption
          linked.transaction.relatedTransactionId ≠ 0 ∧
        s.transactionLineage new.tenantId new.grantId .compensation (some linked.transaction.id) +
            new.amountMinor ≤
          s.transactionLineage new.tenantId new.grantId .consumption
            linked.transaction.relatedTransactionId
  | .expiration =>
      0 < linked.entry.signedAmountMinor ∧ new.amountMinor = linked.entryAmount ∧
        (∃ expiry, linked.grant.expiresAt = some expiry ∧
          expiry ≤ linked.transaction.effectiveAt ∧ expiry ≤ now) ∧
        new.amountMinor ≤ latest (·.remainingMinor) - reserved ∧
        fundingCredit s new.tenantId linked.transaction.id linked.grant.fundingAccountId =
          new.amountMinor
  | .refund =>
      0 < linked.entry.signedAmountMinor ∧ new.amountMinor = linked.entryAmount ∧
        linked.transaction.holdId = none ∧ linked.transaction.relationType = none ∧
        linked.transaction.relatedTransactionId = none ∧
        new.amountMinor ≤ latest (·.remainingMinor) - reserved ∧
        linked.grant.LiveAt linked.transaction.effectiveAt ∧ linked.grant.LiveAt now ∧
        fundingCredit s new.tenantId linked.transaction.id linked.grant.fundingAccountId =
          new.amountMinor

section AcceptedKind

variable {s : Db} {now : Timestamp} {new : CreditGrantEntry} {linked : LinkedRows}

theorem grantExpired_ne_true_iff :
    grantExpired now linked ≠ some true ↔
      linked.grant.LiveAt linked.transaction.effectiveAt ∧ linked.grant.LiveAt now := by
  unfold grantExpired CreditGrant.LiveAt
  cases linked.grant.expiresAt with
  | none => simp [Truth.and_eq_true_iff]
  | some expiry => simp [Truth.and_eq_true_iff, Truth.or_eq_true_iff]

theorem issuanceLink_ne_false_iff :
    Truth.not (issuanceLink now new linked) ≠ some true ↔
      linked.transaction.id = linked.grant.transactionId ∧ linked.entry.signedAmountMinor < 0 ∧
        new.amountMinor = linked.entryAmount ∧ linked.grant.LiveAt now := by
  unfold issuanceLink CreditGrant.LiveAt
  rw [Truth.not_all_ne_true_iff]
  cases linked.grant.expiresAt with
  | none => simp [Truth.or_eq_false_iff]
  | some expiry => simp [Truth.or_eq_false_iff]

/-- The guards of `validate_credit_grant_entry`, read in two-valued logic. -/
theorem validateKind_eq_ok_iff :
    validateKind s now new linked = .ok () ↔ AcceptedKind s now new linked := by
  unfold validateKind AcceptedKind
  cases hkind : new.kind with
  | issuance =>
      simp only [raiseIf_eq_ok_iff, issuanceLink_ne_false_iff]
      tauto
  | reversal =>
      simp only [raiseIf_eq_ok_iff, reversalLink, Truth.not_all_ne_true_iff]
      cases linked.transaction.relationType <;>
        cases linked.transaction.relatedTransactionId <;>
        simp [Truth.compare] <;> tauto
  | consumption =>
      unfold validateConsumption
      cases linked.transaction.holdId with
      | none =>
          simp only [raiseIf_eq_ok_iff, Truth.any_ne_true_iff, List.forall_mem_cons,
            grantExpired_ne_true_iff, ne_eq, Truth.of_eq_true_iff]
          simp
      | some linkedHold =>
          simp [Truth.any_ne_true_iff]
  | compensation =>
      simp only [validateCompensation, raiseIf_eq_ok_iff, Truth.any_ne_true_iff]
      cases linked.transaction.relationType <;>
        cases linked.transaction.relatedTransactionId <;>
        simp [Truth.compare]
  | expiration =>
      simp only [validateExpiration, raiseIf_eq_ok_iff, Truth.any_ne_true_iff]
      cases linked.grant.expiresAt with
      | none => simp
      | some expiry =>
          simp
          tauto
  | refund =>
      simp only [validateRefund, raiseIf_eq_ok_iff, Truth.any_ne_true_iff, List.forall_mem_cons,
        grantExpired_ne_true_iff, ne_eq, Truth.of_eq_true_iff]
      simp
      tauto

end AcceptedKind

/-! ## INSERT INTO credit_grant_entries -/

/-- The validator and the constraints of `credit_grant_entries` for one row.  The
referenced tables do not change inside the statement, so its foreign keys are
checked with the row. -/
def checkCreditGrantEntry (now : Timestamp) (s : Db) (new : CreditGrantEntry) :
    Except SqlError Unit := do
  validateCreditGrantEntry s now new
  require (0 < new.amountMinor) (.checkViolation "credit_grant_entries_amount_positive_chk")
  require (∀ l ∈ s.creditGrantEntries, ¬ (l.grantId = new.grantId ∧ l.entryId = new.entryId))
    (.uniqueViolation "credit_grant_entries_pk")
  require (new.kind = .issuance → ∀ l ∈ s.creditGrantEntries,
      ¬ (l.kind = .issuance ∧ l.grantId = new.grantId))
    (.uniqueViolation "credit_grant_entries_one_issuance_uq")
  require (new.kind = .reversal → ∀ l ∈ s.creditGrantEntries,
      ¬ (l.kind = .reversal ∧ l.grantId = new.grantId))
    (.uniqueViolation "credit_grant_entries_one_reversal_uq")
  require ((s.creditGrant? new.grantId).any fun g => g.tenantId = new.tenantId ∧
      g.ledgerId = new.ledgerId ∧ g.accountId = new.accountId)
    (.foreignKeyViolation "credit_grant_entries_grant_fk")
  require ((s.entry? new.entryId).any fun e => e.tenantId = new.tenantId ∧
      e.accountId = new.accountId)
    (.foreignKeyViolation "credit_grant_entries_entry_fk")

/-- What is known of an accepted lineage row. -/
structure AcceptedLineage (now : Timestamp) (s : Db) (new : CreditGrantEntry)
    (linked : LinkedRows) : Prop where
  linkedRows : Linked s new linked
  entryAsset : linked.entry.assetId = linked.account.assetId
  transactionAsset : linked.transaction.assetId = linked.account.assetId
  amountLe : new.amountMinor ≤ linked.entryAmount
  kind : AcceptedKind s now new linked
  amountPos : 0 < new.amountMinor
  fresh : ∀ l ∈ s.creditGrantEntries, ¬ (l.grantId = new.grantId ∧ l.entryId = new.entryId)
  oneIssuance : new.kind = .issuance → ∀ l ∈ s.creditGrantEntries,
    ¬ (l.kind = .issuance ∧ l.grantId = new.grantId)
  oneReversal : new.kind = .reversal → ∀ l ∈ s.creditGrantEntries,
    ¬ (l.kind = .reversal ∧ l.grantId = new.grantId)

theorem checkCreditGrantEntry_ok {now : Timestamp} {s : Db} {new : CreditGrantEntry}
    (h : checkCreditGrantEntry now s new = .ok ()) :
    ∃ linked, AcceptedLineage now s new linked := by
  simp only [checkCreditGrantEntry, bind_eq_ok_iff, require_eq_ok_iff, exists_const] at h
  obtain ⟨⟨⟩, hvalid, hpos, hfresh, hissuance, hreversal, -, -⟩ := h
  unfold validateCreditGrantEntry at hvalid
  cases hlinked : s.linkedRows? new with
  | none =>
      rw [hlinked] at hvalid
      cases hvalid
  | some linked =>
      rw [hlinked] at hvalid
      simp only [bind_eq_ok_iff, raiseIf_eq_ok_iff, exists_const, ne_eq, Truth.of_eq_true_iff,
        not_or, not_not, gt_iff_lt, not_lt] at hvalid
      obtain ⟨⟨hentry, htransaction, hle⟩, hkind⟩ := hvalid
      exact ⟨linked, linkedRows?_eq_some_iff.mp hlinked, hentry, htransaction, hle,
        validateKind_eq_ok_iff.mp hkind, hpos, hfresh, hissuance, hreversal⟩

/-- Store a lineage row. -/
def Db.addCreditGrantEntry (s : Db) (new : CreditGrantEntry) : Db :=
  { s with creditGrantEntries := s.creditGrantEntries ++ [new] }

/-- `INSERT INTO credit_grant_entries VALUES …`: every row is validated against
the latest versions as they were when the statement began. -/
def storeCreditGrantEntries (now : Timestamp) (rows : List CreditGrantEntry) (s : Db) :
    Except SqlError Db :=
  insertRows (checkCreditGrantEntry now) Db.addCreditGrantEntry
    appendCreditGrantCapacityVersion rows s

/-! ## Deferred constraint triggers -/

/-- The two entries have amounts of opposite signs. -/
def oppositeSides (amount other : Int) : Prop :=
  (amount < 0 ∧ 0 < other) ∨ (0 < amount ∧ other < 0)

instance (amount other : Int) : Decidable (oppositeSides amount other) :=
  inferInstanceAs (Decidable (_ ∨ _))

/-- The two entries have amounts of the same sign. -/
def sameSide (amount other : Int) : Prop :=
  (0 < amount ∧ 0 < other) ∨ (amount < 0 ∧ other < 0)

instance (amount other : Int) : Decidable (sameSide amount other) :=
  inferInstanceAs (Decidable (_ ∨ _))

/-- What the original transaction posted on the account, on the other side. -/
def originalAmount (s : Db) (new : Entry) (relatedTransaction : Option Uuid) : Int :=
  sumWhere s.entries
    (fun e => e.tenantId = new.tenantId ∧ some e.transactionId = relatedTransaction ∧
      e.accountId = new.accountId ∧ oppositeSides e.signedAmountMinor new.signedAmountMinor)
    (fun e => |e.signedAmountMinor|)

/-- What the reversal posts on the account, on the side of the new entry. -/
def reversalAmount (s : Db) (new : Entry) : Int :=
  sumWhere s.entries
    (fun e => e.tenantId = new.tenantId ∧ e.transactionId = new.transactionId ∧
      e.accountId = new.accountId ∧ sameSide e.signedAmountMinor new.signedAmountMinor)
    (fun e => |e.signedAmountMinor|)

/-- `assert_grant_entry_attributed` (0002), deferred on INSERT of entries. -/
def assertGrantEntryAttributed (s : Db) (new : Entry) : Except SqlError Unit :=
  if s.grantEnabled new.tenantId new.accountId then do
    raiseIf (.of (s.attributedAmount new ≠ |new.signedAmountMinor|))
      (raiseException "grant-enabled account entry requires complete grant attribution")
    let transaction := s.entryTransaction? new
    if transaction.bind (·.relationType) = some .reversal then
      let original := originalAmount s new (transaction.bind (·.relatedTransactionId))
      raiseIf (.of (original = 0 ∨ reversalAmount s new ≠ original))
        (raiseException "grant-enabled account reversal must exactly mirror original entries")
    else .ok ()
  else .ok ()

/-- `assert_grant_compensation_complete` (0000), deferred on INSERT of lineage. -/
def assertGrantCompensationComplete (s : Db) (new : CreditGrantEntry) : Except SqlError Unit :=
  if new.kind ≠ .compensation then .ok ()
  else
    let linked := s.lineageTransaction? new
    let sourceAllocation := s.transactionLineage new.tenantId new.grantId .consumption
      (linked.bind (·.relatedTransactionId))
    let compensated := s.transactionLineage new.tenantId new.grantId .compensation
      (linked.map (·.id))
    raiseIf (.of (sourceAllocation = 0 ∨ compensated ≠ sourceAllocation))
      (raiseException "credit grant compensation must exactly restore original allocation")

/-- `assert_expired_grant_capacity_removed` (0004), deferred on INSERT of lineage. -/
def assertExpiredGrantCapacityRemoved (now : Timestamp) (s : Db) (new : CreditGrantEntry) :
    Except SqlError Unit :=
  if new.kind ≠ .compensation ∧ new.kind ≠ .expiration then .ok ()
  else
    let expiration := ((s.creditGrant? new.grantId).filter fun g =>
      g.tenantId = new.tenantId).bind (·.expiresAt)
    if Truth.or (.of expiration.isNone)
        (Truth.compare (· > ·) expiration (some now)) = some true then .ok ()
    else
      raiseIf (.of (s.latestMinor new.tenantId new.grantId (·.remainingMinor) ≠
          activeCreditGrantReservation s new.tenantId new.grantId))
        (raiseException "expired credit grant cannot retain unreserved capacity")

end LuxLedger.Schema
