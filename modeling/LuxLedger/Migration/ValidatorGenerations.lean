/-
  Migration/ValidatorGenerations.lean --- the four generations of the lineage
  validator.

  Sources: `validate_credit_grant_entry` in 0002 and 0004, beside those of 0000 and
  0007.  0002 reads the sign of an amount where 0000 reads a direction, 0004 takes
  reservations and holds into account, 0007 adds REFUND.  What a migration leaves as
  it was is used here as 0007 has it.
-/
import LuxLedger.Migration.InitialStatements

set_option autoImplicit false

namespace LuxLedger.Migration

open LuxLedger.Schema LuxLedger.Relational

/-- The head of the validator since 0002, in front of its chain of branches. -/
def validateLinkedRows (s : Db) (new : CreditGrantEntry)
    (validateKind : LinkedRows → Except SqlError Unit) : Except SqlError Unit :=
  match s.linkedRows? new with
  | none => .error (raiseException "credit grant entry scope or amount mismatch")
  | some linked => do
      raiseIf (.of (linked.entry.assetId ≠ linked.account.assetId ∨
          linked.transaction.assetId ≠ linked.account.assetId ∨
          new.amountMinor > linked.entryAmount))
        (raiseException "credit grant entry scope or amount mismatch")
      validateKind linked

theorem validateCreditGrantEntry_eq (s : Db) (now : Timestamp) (new : CreditGrantEntry) :
    validateCreditGrantEntry s now new = validateLinkedRows s new (validateKind s now new) := rfl

/-! ## `validate_credit_grant_entry` (0002) -/

namespace SignedAmounts

/-- The conjunction under the NOT of the REVERSAL branch. -/
def reversalLink (s : Db) (new : CreditGrantEntry) (linked : LinkedRows) : Truth :=
  let latest := s.latestMinor new.tenantId new.grantId
  Truth.all [
    Truth.compare (· = ·) linked.transaction.relationType (some .reversal),
    Truth.compare (· = ·) linked.transaction.relatedTransactionId
      (some linked.grant.transactionId),
    .of (linked.entry.signedAmountMinor > 0),
    .of (new.amountMinor = linked.entryAmount),
    .of (latest (·.grantedMinor) > 0),
    .of (new.amountMinor = latest (·.grantedMinor)),
    .of (latest (·.remainingMinor) = latest (·.grantedMinor)),
    .of (latest (·.consumedMinor) = 0),
    .of (latest (·.expiredMinor) = 0)]

/-- The CONSUMPTION branch. -/
def validateConsumption (s : Db) (now : Timestamp) (new : CreditGrantEntry)
    (linked : LinkedRows) : Except SqlError Unit :=
  raiseIf (Truth.any [
      .of (linked.entry.signedAmountMinor ≤ 0),
      .of (new.amountMinor > s.latestMinor new.tenantId new.grantId (·.remainingMinor)),
      grantExpired now linked])
    (raiseException "credit grant consumption exceeds eligible capacity")

/-- The EXPIRATION branch. -/
def validateExpiration (s : Db) (now : Timestamp) (new : CreditGrantEntry)
    (linked : LinkedRows) : Except SqlError Unit :=
  raiseIf (Truth.any [
      .of (linked.grant.expiresAt.isNone),
      Truth.compare (· > ·) linked.grant.expiresAt (some linked.transaction.effectiveAt),
      Truth.compare (· > ·) linked.grant.expiresAt (some now),
      .of (linked.entry.signedAmountMinor ≤ 0),
      .of (new.amountMinor ≠ linked.entryAmount),
      .of (new.amountMinor > s.latestMinor new.tenantId new.grantId (·.remainingMinor)),
      .of (fundingCredit s new.tenantId linked.transaction.id linked.grant.fundingAccountId ≠
        new.amountMinor)])
    (raiseException "credit grant expiration link is invalid")

/-- The chain of branches over `NEW.kind`. -/
def validateKind (s : Db) (now : Timestamp) (new : CreditGrantEntry) (linked : LinkedRows) :
    Except SqlError Unit :=
  match new.kind with
  | .issuance =>
      raiseIf (Truth.not (issuanceLink now new linked))
        (raiseException "credit grant issuance link is invalid")
  | .reversal =>
      raiseIf (Truth.not (reversalLink s new linked))
        (raiseException "credit grant reversal link is invalid")
  | .consumption => validateConsumption s now new linked
  | .compensation => validateCompensation s new linked
  | .expiration => validateExpiration s now new linked
  | .refund => .ok ()

/-- `validate_credit_grant_entry` (0002). -/
def validateCreditGrantEntry (s : Db) (now : Timestamp) (new : CreditGrantEntry) :
    Except SqlError Unit :=
  validateLinkedRows s new (validateKind s now new)

end SignedAmounts

/-! ## `validate_credit_grant_entry` (0004) -/

namespace HoldAllocations

/-- The chain of branches over `NEW.kind`: the one of 0007 without REFUND. -/
def validateKind (s : Db) (now : Timestamp) (new : CreditGrantEntry) (linked : LinkedRows) :
    Except SqlError Unit :=
  match new.kind with
  | .issuance =>
      raiseIf (Truth.not (issuanceLink now new linked))
        (raiseException "credit grant issuance link is invalid")
  | .reversal =>
      raiseIf (Truth.not (reversalLink s new linked))
        (raiseException "credit grant reversal link is invalid")
  | .consumption => validateConsumption s now new linked
  | .compensation => validateCompensation s new linked
  | .expiration => validateExpiration s now new linked
  | .refund => .ok ()

/-- `validate_credit_grant_entry` (0004). -/
def validateCreditGrantEntry (s : Db) (now : Timestamp) (new : CreditGrantEntry) :
    Except SqlError Unit :=
  validateLinkedRows s new (validateKind s now new)

end HoldAllocations

/-! ## The representation of the initial tables -/

/-- The signed amount of a direction and an amount. -/
def signedAmount : Initial.EntryDirection → Int → Int
  | .debit, amount => amount
  | .credit, amount => - amount

/-- A row of `entries` with its signed amount. -/
def signedEntry (e : Initial.Entry) : Entry where
  id := e.id
  tenantId := e.tenantId
  transactionId := e.transactionId
  accountId := e.accountId
  signedAmountMinor := signedAmount e.direction e.amountMinor
  assetId := e.assetId

/-- A row of `accounts` with its capability. -/
def capableAccount (grantEnabled : Uuid → Bool) (a : Initial.Account) : Account where
  id := a.id
  tenantId := a.tenantId
  ledgerId := a.ledgerId
  side := a.side
  overdraftPolicy := a.overdraftPolicy
  assetId := a.assetId
  grantEnabled := grantEnabled a.id

/-- The columns of a capacity version that 0000 creates. -/
def initialVersion (v : CreditGrantCapacityVersion) : Initial.CreditGrantCapacityVersion where
  tenantId := v.tenantId
  ledgerId := v.ledgerId
  accountId := v.accountId
  grantId := v.grantId
  sourceEntryId := v.sourceEntryId
  version := v.version
  grantedMinor := v.grantedMinor
  reversedMinor := v.reversedMinor
  consumedMinor := v.consumedMinor
  compensatedMinor := v.compensatedMinor
  expiredMinor := v.expiredMinor
  remainingMinor := v.remainingMinor

/-- The tables that the lineage validators read hold the same rows, posted amounts being
positive. -/
structure Represents (grantEnabled : Uuid → Bool) (initial : Initial.Db) (s : Db) : Prop where
  positive : ∀ e ∈ initial.entries, 0 < e.amountMinor
  accounts : s.accounts = initial.accounts.map (capableAccount grantEnabled)
  transactions : s.transactions = initial.transactions
  entries : s.entries = initial.entries.map signedEntry
  creditGrants : s.creditGrants = initial.creditGrants
  creditGrantEntries : s.creditGrantEntries = initial.creditGrantEntries
  versions : initial.creditGrantCapacityVersions = s.creditGrantCapacityVersions.map initialVersion

/-- A row of `hold_entries` with its signed amount. -/
def signedHoldEntry (he : Initial.HoldEntry) : HoldEntry where
  id := he.id
  tenantId := he.tenantId
  holdId := he.holdId
  accountId := he.accountId
  signedAmountMinor := signedAmount he.direction he.amountMinor
  assetId := he.assetId

/-- A capacity version with the columns that 0004 adds, at their defaults. -/
def extendedVersion (v : Initial.CreditGrantCapacityVersion) : CreditGrantCapacityVersion where
  tenantId := v.tenantId
  ledgerId := v.ledgerId
  accountId := v.accountId
  grantId := v.grantId
  sourceEntryId := v.sourceEntryId
  sourceAllocationId := none
  sourceHoldId := none
  version := v.version
  grantedMinor := v.grantedMinor
  reversedMinor := v.reversedMinor
  consumedMinor := v.consumedMinor
  compensatedMinor := v.compensatedMinor
  expiredMinor := v.expiredMinor
  remainingMinor := v.remainingMinor
  reservedMinor := 0

/-- The initial tables in the form that the last migration gives them. -/
def upgrade (grantEnabled : Uuid → Bool) (initial : Initial.Db) : Db where
  assets := initial.assets
  accounts := initial.accounts.map (capableAccount grantEnabled)
  transactions := initial.transactions
  entries := initial.entries.map signedEntry
  creditGrants := initial.creditGrants
  creditGrantEntries := initial.creditGrantEntries
  holds := initial.holds
  holdEntries := initial.holdEntries.map signedHoldEntry
  creditGrantHoldAllocations := []
  creditGrantCapacityVersions := initial.creditGrantCapacityVersions.map extendedVersion

theorem represents_upgrade {grantEnabled : Uuid → Bool} {initial : Initial.Db}
    (hpositive : ∀ e ∈ initial.entries, 0 < e.amountMinor) :
    Represents grantEnabled initial (upgrade grantEnabled initial) where
  positive := hpositive
  accounts := rfl
  transactions := rfl
  entries := rfl
  creditGrants := rfl
  creditGrantEntries := rfl
  versions := by
    have hid : initialVersion ∘ extendedVersion = id := rfl
    rw [upgrade, List.map_map, hid, List.map_id]

/-- The linked rows in the representation. -/
def representedRows (grantEnabled : Uuid → Bool) (linked : Initial.LinkedRows) : LinkedRows where
  grant := linked.grant
  entry := signedEntry linked.entry
  transaction := linked.transaction
  account := capableAccount grantEnabled linked.account

section SignedAmount

variable {direction : Initial.EntryDirection} {amount : Int}

theorem signedAmount_pos_iff (h : 0 < amount) :
    signedAmount direction amount > 0 ↔ direction = .debit := by
  cases direction with
  | debit => simp [signedAmount, h]
  | credit =>
      simp only [signedAmount, reduceCtorEq, iff_false]
      omega

theorem signedAmount_neg_iff (h : 0 < amount) :
    signedAmount direction amount < 0 ↔ direction = .credit := by
  cases direction with
  | debit =>
      simp only [signedAmount, reduceCtorEq, iff_false]
      omega
  | credit => simp [signedAmount, h]

theorem signedAmount_nonpos_iff (h : 0 < amount) :
    signedAmount direction amount ≤ 0 ↔ direction ≠ .debit := by
  rw [← not_lt, ← gt_iff_lt, signedAmount_pos_iff h]

theorem signedAmount_nonneg_iff (h : 0 < amount) :
    signedAmount direction amount ≥ 0 ↔ direction ≠ .credit := by
  rw [ge_iff_le, ← not_lt, signedAmount_neg_iff h]

theorem abs_signedAmount (h : 0 < amount) : |signedAmount direction amount| = amount := by
  cases direction with
  | debit => exact abs_of_pos h
  | credit =>
      rw [signedAmount, abs_neg]
      exact abs_of_pos h

end SignedAmount

section Represents

variable {grantEnabled : Uuid → Bool} {initial : Initial.Db} {s : Db} {now : Timestamp}
  {new : CreditGrantEntry} {linked : Initial.LinkedRows}

namespace Represents

theorem account? (h : Represents grantEnabled initial s) (id : Uuid) :
    s.account? id = (initial.account? id).map (capableAccount grantEnabled) := by
  rw [Db.account?, h.accounts]
  exact lookup_map fun _ _ => rfl

theorem entry? (h : Represents grantEnabled initial s) (id : Uuid) :
    s.entry? id = (initial.entry? id).map signedEntry := by
  rw [Db.entry?, h.entries]
  exact lookup_map fun _ _ => rfl

theorem transaction? (h : Represents grantEnabled initial s) (id : Uuid) :
    s.transaction? id = initial.transaction? id := by
  rw [Db.transaction?, h.transactions]
  rfl

theorem creditGrant? (h : Represents grantEnabled initial s) (id : Uuid) :
    s.creditGrant? id = initial.creditGrant? id := by
  rw [Db.creditGrant?, h.creditGrants]
  rfl

theorem linkedRows? (h : Represents grantEnabled initial s) :
    s.linkedRows? new =
      (initial.linkedRows? new).map (representedRows grantEnabled) := by
  simp only [Db.linkedRows?, Initial.Db.linkedRows?, h.creditGrant?, h.entry?, h.transaction?,
    h.account?, Option.filter_map, Option.bind_eq_bind, Option.map_bind, Option.bind_map,
    Function.comp_def, Option.pure_def, Option.map_some]
  rfl

theorem latestMinor (h : Represents grantEnabled initial s) (tenantId grantId : Uuid)
    (column : Initial.CreditGrantCapacityVersion → Int) :
    initial.latestMinor tenantId grantId column =
      s.latestMinor tenantId grantId fun v => column (initialVersion v) := by
  rw [Initial.Db.latestMinor, h.versions, List.filter_map, latestBy_map, Option.map_map]
  rfl

theorem lineageEntry? (h : Represents grantEnabled initial s) (l : CreditGrantEntry) :
    s.lineageEntry? l = (initial.lineageEntry? l).map signedEntry := by
  rw [Db.lineageEntry?, h.entry?, Option.filter_map]
  rfl

theorem transactionLineage (h : Represents grantEnabled initial s) (tenantId grantId : Uuid)
    (kind : CreditGrantEntryKind) (transactionId : Option Uuid) :
    initial.transactionLineage tenantId grantId kind transactionId =
      s.transactionLineage tenantId grantId kind transactionId := by
  rw [Initial.Db.transactionLineage, Db.transactionLineage, ← h.creditGrantEntries]
  refine sumWhere_congr (fun l _ => ?_) fun _ _ _ => rfl
  rw [h.lineageEntry?, Option.any_map]
  rfl

theorem fundingCredit (h : Represents grantEnabled initial s)
    (tenantId transactionId fundingAccountId : Uuid) :
    initial.fundingCredit tenantId transactionId fundingAccountId =
      Schema.fundingCredit s tenantId transactionId fundingAccountId := by
  rw [Initial.Db.fundingCredit, Schema.fundingCredit, h.entries, sumWhere_map]
  refine sumWhere_congr (fun e he => ?_) fun e he hcredit => ?_
  · simp only [signedEntry, signedAmount_neg_iff (h.positive e he)]
  · have hdirection : e.direction = .credit :=
      (signedAmount_neg_iff (h.positive e he)).mp (of_decide_eq_true hcredit).2.2.2
    simp [signedEntry, signedAmount, hdirection]

end Represents

/-! ## Agreement -/

/-- The branches of 0000 and of 0002 decide alike. -/
theorem Represents.validateKind (h : Represents grantEnabled initial s)
    (hpositive : 0 < linked.entry.amountMinor) :
    Initial.validateKind initial now new linked =
      SignedAmounts.validateKind s now new (representedRows grantEnabled linked) := by
  have hcredit : Truth.of ((representedRows grantEnabled linked).entry.signedAmountMinor < 0) =
      .of (linked.entry.direction = .credit) := Truth.of_congr (signedAmount_neg_iff hpositive)
  have hdebit : Truth.of ((representedRows grantEnabled linked).entry.signedAmountMinor > 0) =
      .of (linked.entry.direction = .debit) := Truth.of_congr (signedAmount_pos_iff hpositive)
  have hnotCredit : Truth.of ((representedRows grantEnabled linked).entry.signedAmountMinor ≥ 0) =
      .of (linked.entry.direction ≠ .credit) := Truth.of_congr (signedAmount_nonneg_iff hpositive)
  have hnotDebit : Truth.of ((representedRows grantEnabled linked).entry.signedAmountMinor ≤ 0) =
      .of (linked.entry.direction ≠ .debit) := Truth.of_congr (signedAmount_nonpos_iff hpositive)
  have hamount : (representedRows grantEnabled linked).entryAmount = linked.entry.amountMinor :=
    abs_signedAmount hpositive
  unfold Initial.validateKind SignedAmounts.validateKind
  cases new.kind with
  | issuance =>
      dsimp only [Initial.issuanceLink, issuanceLink]
      rw [hcredit, hamount]
      rfl
  | reversal =>
      dsimp only [Initial.reversalLink, SignedAmounts.reversalLink]
      rw [hdebit, hamount]
      simp only [h.latestMinor]
      rfl
  | consumption =>
      dsimp only [Initial.validateConsumption, SignedAmounts.validateConsumption]
      rw [hnotDebit, h.latestMinor]
      rfl
  | compensation =>
      dsimp only [Initial.validateCompensation, validateCompensation]
      rw [hnotCredit, h.transactionLineage, h.transactionLineage]
      rfl
  | expiration =>
      dsimp only [Initial.validateExpiration, SignedAmounts.validateExpiration]
      rw [hnotDebit, hamount, h.latestMinor, h.fundingCredit]
      rfl
  | refund => rfl

theorem linkedEntry_mem (hlinked : initial.linkedRows? new = some linked) :
    linked.entry ∈ initial.entries := by
  simp only [Initial.Db.linkedRows?, Option.bind_eq_bind, Option.bind_eq_some_iff,
    Option.filter_eq_some_iff, Option.pure_def, Option.some.injEq] at hlinked
  obtain ⟨grant, -, entry, ⟨hentry, -⟩, transaction, -, account, -, rfl⟩ := hlinked
  exact mem_of_lookup hentry

/-- 0000 and 0002 accept the same rows, and reject them with the same errors. -/
theorem Represents.validateCreditGrantEntry (h : Represents grantEnabled initial s) :
    Initial.validateCreditGrantEntry initial now new =
      SignedAmounts.validateCreditGrantEntry s now new := by
  unfold Initial.validateCreditGrantEntry SignedAmounts.validateCreditGrantEntry validateLinkedRows
  rw [h.linkedRows?]
  cases hlinked : initial.linkedRows? new with
  | none => rfl
  | some linked =>
      have hpositive := h.positive linked.entry (linkedEntry_mem hlinked)
      have hamount : (representedRows grantEnabled linked).entryAmount =
          linked.entry.amountMinor := abs_signedAmount hpositive
      dsimp only [Option.map_some]
      rw [h.validateKind hpositive, hamount]
      rfl

/-- Without reservations and holds 0004 changes nothing. -/
theorem holdAllocations_validateKind {rows : LinkedRows}
    (hhold : rows.transaction.holdId = none)
    (hreserved : activeCreditGrantReservation s new.tenantId new.grantId = 0) :
    HoldAllocations.validateKind s now new rows = SignedAmounts.validateKind s now new rows := by
  unfold HoldAllocations.validateKind SignedAmounts.validateKind
  cases new.kind with
  | reversal =>
      have htrue : Truth.of (activeCreditGrantReservation s new.tenantId new.grantId = 0) =
          some true := Truth.of_eq_true_iff.mpr hreserved
      dsimp only [reversalLink, SignedAmounts.reversalLink, Truth.all, List.foldr]
      rw [htrue, Truth.true_and]
  | consumption =>
      simp only [validateConsumption, SignedAmounts.validateConsumption, hhold, hreserved,
        Int.sub_zero]
  | expiration =>
      simp only [validateExpiration, SignedAmounts.validateExpiration, hreserved, Int.sub_zero]
  | issuance | compensation | refund =>
      rfl

theorem holdAllocations_eq_signedAmounts
    (hhold : ∀ rows, s.linkedRows? new = some rows → rows.transaction.holdId = none)
    (hreserved : activeCreditGrantReservation s new.tenantId new.grantId = 0) :
    HoldAllocations.validateCreditGrantEntry s now new =
      SignedAmounts.validateCreditGrantEntry s now new := by
  unfold HoldAllocations.validateCreditGrantEntry SignedAmounts.validateCreditGrantEntry
    validateLinkedRows
  cases hlinked : s.linkedRows? new with
  | none => rfl
  | some rows =>
      dsimp only
      rw [holdAllocations_validateKind (hhold rows hlinked) hreserved]

/-- 0007 only adds a branch. -/
theorem holdAllocations_eq_current (hkind : new.kind ≠ .refund) :
    HoldAllocations.validateCreditGrantEntry s now new =
      Schema.validateCreditGrantEntry s now new := by
  rw [validateCreditGrantEntry_eq, HoldAllocations.validateCreditGrantEntry]
  congr 1
  funext rows
  unfold HoldAllocations.validateKind Schema.validateKind
  cases hk : new.kind with
  | refund => exact absurd hk hkind
  | _ => rfl

/-- Where the transaction carries no hold and the grant has no reservation, the four
generations decide alike on every row that is no REFUND. -/
theorem generations_agree (h : Represents grantEnabled initial s) (now : Timestamp)
    (hkind : new.kind ≠ .refund)
    (hhold : ∀ rows, s.linkedRows? new = some rows → rows.transaction.holdId = none)
    (hreserved : activeCreditGrantReservation s new.tenantId new.grantId = 0) :
    (Initial.validateCreditGrantEntry initial now new = .ok () ↔
      SignedAmounts.validateCreditGrantEntry s now new = .ok ()) ∧
    (SignedAmounts.validateCreditGrantEntry s now new = .ok () ↔
      HoldAllocations.validateCreditGrantEntry s now new = .ok ()) ∧
    (HoldAllocations.validateCreditGrantEntry s now new = .ok () ↔
      Schema.validateCreditGrantEntry s now new = .ok ()) := by
  rw [h.validateCreditGrantEntry, ← holdAllocations_eq_signedAmounts hhold hreserved,
    holdAllocations_eq_current hkind]
  exact ⟨Iff.rfl, Iff.rfl, Iff.rfl⟩

end Represents

namespace Sample

/-- The small grant. -/
def issued : Initial.Db :=
  Initial.Sample.stateAfter [⟨0, Initial.Sample.accounts⟩, ⟨1, Initial.Sample.issuance⟩]

/-- The small grant with a posting that is not attributed yet. -/
def posted : Initial.Db :=
  (Initial.Sample.posting.foldlM
    (fun s (stmt : Initial.Statement) => stmt.exec .initial 2 s) issued).toOption.getD issued

theorem represents_posted :
    Represents (fun _ => true) posted (upgrade (fun _ => true) posted) :=
  represents_upgrade (by decide +kernel)

end Sample

/-- The row that attributes the posting is accepted by the first generation and by the last. -/
theorem generations_agree_sample :
    Initial.validateCreditGrantEntry Sample.posted 2 Initial.Sample.consumption = .ok () ∧
      Schema.validateCreditGrantEntry (upgrade (fun _ => true) Sample.posted) 2
        Initial.Sample.consumption = .ok () := by
  have hkind : Initial.Sample.consumption.kind ≠ .refund := by decide
  obtain ⟨hsigned, hallocations, hcurrent⟩ :=
    generations_agree Sample.represents_posted 2 hkind (by decide +kernel) (by decide +kernel)
  have hinitial : Initial.validateCreditGrantEntry Sample.posted 2 Initial.Sample.consumption =
      .ok () := by rfl
  exact ⟨hinitial, hcurrent.mp (hallocations.mp (hsigned.mp hinitial))⟩

end LuxLedger.Migration
