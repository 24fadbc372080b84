/-
  Migration/AmountRewrite.lean --- migration 0002 on a populated database.

  Source: the statements of 0002 around its three functions, in their order.  The
  rewrite of the entries fires `protect_credit_grant_history` (0000) for every row it
  changes.  A `bigint` whose negation is out of range fails.
-/
import LuxLedger.Migration.GrantCapability

set_option autoImplicit false

namespace LuxLedger.Migration

open LuxLedger.Schema LuxLedger.Relational

/-! ## The tables after the migration -/

/-- A row of `accounts`. -/
structure SignedAccount where
  id : Uuid
  tenantId : Uuid
  ledgerId : Uuid
  side : AccountSide
  overdraftPolicy : OverdraftPolicy
  assetId : Uuid
  grantEnabled : Bool
  balanceMinor : Int
  reservedDeltaMinor : Int
  deriving DecidableEq, Repr

/-- A row of `balance_snapshots`; its reservation is NULL until it is set. -/
structure SignedSnapshot where
  id : Uuid
  tenantId : Uuid
  ledgerId : Uuid
  accountId : Uuid
  postedMinor : Int
  reservedDeltaMinor : Option Int
  deriving DecidableEq, Repr

/-- The tables that the migration changes. -/
structure SignedTables where
  entries : List Entry
  holdEntries : List HoldEntry
  accounts : List SignedAccount
  balanceSnapshots : List SignedSnapshot
  deriving DecidableEq, Repr

/-! ## The statements -/

/-- The largest `bigint`. -/
def maxBigint : Int := 9223372036854775807

/-- `- value` of a `bigint`. -/
def negate (value : Int) : Except SqlError Int := do
  require (- value ≤ maxBigint) (.raised "bigint out of range" "22003")
  return - value

/-- `protect_credit_grant_history` on a row of `entries`. -/
def protectCreditGrantHistory (s : Initial.Db) (old : Initial.Entry) : Except SqlError Unit :=
  raiseIf (.of (∃ l ∈ s.creditGrantEntries, l.entryId = old.id))
    (raiseException "credit grant ledger entries are immutable")

/-- A row under `UPDATE "entries" SET "signed_amount_minor" = -"signed_amount_minor" WHERE
"direction" = 'CREDIT'`, and then without its direction. -/
def rewriteEntry (s : Initial.Db) (e : Initial.Entry) : Except SqlError Entry :=
  match e.direction with
  | .debit => .ok (signedEntry e)
  | .credit => do
      let signedAmountMinor ← negate e.amountMinor
      protectCreditGrantHistory s e
      return { signedEntry e with signedAmountMinor }

/-- The same of `hold_entries`, which have no trigger on UPDATE. -/
def rewriteHoldEntry (he : Initial.HoldEntry) : Except SqlError HoldEntry :=
  match he.direction with
  | .debit => .ok (signedHoldEntry he)
  | .credit => do
      let signedAmountMinor ← negate he.amountMinor
      return { signedHoldEntry he with signedAmountMinor }

/-- `CASE WHEN "side" = 'DEBIT' THEN -"inflight_credit_minor" ELSE "inflight_debit_minor" END`. -/
def reservedDelta (side : AccountSide) (inflightDebitMinor inflightCreditMinor : Int) :
    Except SqlError Int :=
  match side with
  | .debit => negate inflightCreditMinor
  | .credit => .ok inflightDebitMinor

/-- A row under the UPDATE of `accounts`.  Its asset does not change, so
`account_asset_history_guard` does not raise. -/
def rewriteAccount (grantEnabled : Uuid → Bool) (a : Initial.Account) :
    Except SqlError SignedAccount := do
  let balanceMinor ← negate a.balanceMinor
  let reservedDeltaMinor ← reservedDelta a.side a.inflightDebitMinor a.inflightCreditMinor
  require (Initial.GrantEnabledShape grantEnabled a)
    (.checkViolation "accounts_grant_enabled_shape_chk")
  return ⟨a.id, a.tenantId, a.ledgerId, a.side, a.overdraftPolicy, a.assetId, grantEnabled a.id,
    balanceMinor, reservedDeltaMinor⟩

/-- A row under the UPDATE of `balance_snapshots FROM accounts`: without an account it
stays as it is. -/
def rewriteSnapshot (s : Initial.Db) (snapshot : Initial.BalanceSnapshot) :
    Except SqlError SignedSnapshot :=
  match s.account? snapshot.accountId with
  | none => .ok ⟨snapshot.id, snapshot.tenantId, snapshot.ledgerId, snapshot.accountId,
      snapshot.postedMinor, none⟩
  | some account => do
      let postedMinor ← negate snapshot.postedMinor
      let reservedDeltaMinor ← reservedDelta account.side snapshot.inflightDebitMinor
        snapshot.inflightCreditMinor
      return ⟨snapshot.id, snapshot.tenantId, snapshot.ledgerId, snapshot.accountId, postedMinor,
        some reservedDeltaMinor⟩

/-- `accounts_reserved_delta_side_chk`. -/
def ReservedDeltaSide (a : SignedAccount) : Prop :=
  (a.side = .debit ∧ a.reservedDeltaMinor ≤ 0) ∨ (a.side = .credit ∧ 0 ≤ a.reservedDeltaMinor)

instance (a : SignedAccount) : Decidable (ReservedDeltaSide a) :=
  inferInstanceAs (Decidable (_ ∨ _))

/-- Migration 0002. -/
def migrateSignedAmounts (grantEnabled : Uuid → Bool) (s : Initial.Db) :
    Except SqlError SignedTables := do
  let entries ← updateEach (rewriteEntry s) s.entries
  let holdEntries ← updateEach rewriteHoldEntry s.holdEntries
  let accounts ← updateEach (rewriteAccount grantEnabled) s.accounts
  let balanceSnapshots ← updateEach (rewriteSnapshot s) s.balanceSnapshots
  require (∀ snapshot ∈ balanceSnapshots, snapshot.reservedDeltaMinor.isSome)
    (.raised "column reserved_delta_minor of relation balance_snapshots contains null values"
      "23502")
  require (∀ a ∈ accounts, ReservedDeltaSide a) (.checkViolation "accounts_reserved_delta_side_chk")
  require (∀ e ∈ entries, e.signedAmountMinor ≠ 0)
    (.checkViolation "entries_signed_amount_nonzero_chk")
  require (∀ he ∈ holdEntries, he.signedAmountMinor ≠ 0)
    (.checkViolation "hold_entries_signed_amount_nonzero_chk")
  return { entries, holdEntries, accounts, balanceSnapshots }

/-! ## What the migration keeps -/

/-- The natural balance of an account minus the in-flight amount that consumes it. -/
def availableBefore (side : AccountSide)
    (balanceMinor inflightDebitMinor inflightCreditMinor : Int) : Int :=
  match side with
  | .debit => - balanceMinor - inflightCreditMinor
  | .credit => balanceMinor - inflightDebitMinor

/-- The same of the signed columns. -/
def availableAfter (side : AccountSide) (balanceMinor reservedDeltaMinor : Int) : Int :=
  match side with
  | .debit => balanceMinor + reservedDeltaMinor
  | .credit => - (balanceMinor + reservedDeltaMinor)

/-- The sum of the amounts of one direction. -/
def directionTotal (entries : List Initial.Entry) (direction : Initial.EntryDirection) : Int :=
  sumWhere entries (fun e => e.direction = direction) (·.amountMinor)

/-- The sum of the signed amounts. -/
def signedTotal (entries : List Entry) : Int :=
  sumWhere entries (fun _ => true) (·.signedAmountMinor)

/-- An account means what it meant. -/
structure AccountKept (s : Initial.Db) (entries : List Entry) (a : Initial.Account)
    (a' : SignedAccount) : Prop where
  id : a'.id = a.id
  side : a'.side = a.side
  balance : a.balanceMinor =
      directionTotal (s.entries.filter fun e => e.accountId = a.id) .credit -
        directionTotal (s.entries.filter fun e => e.accountId = a.id) .debit →
    a'.balanceMinor = signedTotal (entries.filter fun e => e.accountId = a.id)
  available : availableAfter a'.side a'.balanceMinor a'.reservedDeltaMinor =
    availableBefore a.side a.balanceMinor a.inflightDebitMinor a.inflightCreditMinor

/-- A snapshot means what it meant. -/
structure SnapshotKept (s : Initial.Db) (snapshot : Initial.BalanceSnapshot)
    (snapshot' : SignedSnapshot) : Prop where
  id : snapshot'.id = snapshot.id
  available : ∃ account reservedDeltaMinor, s.account? snapshot.accountId = some account ∧
    snapshot'.reservedDeltaMinor = some reservedDeltaMinor ∧
      availableAfter account.side snapshot'.postedMinor reservedDeltaMinor =
        availableBefore account.side snapshot.postedMinor snapshot.inflightDebitMinor
          snapshot.inflightCreditMinor

/-- The rewritten tables mean what the initial ones meant. -/
structure MeaningKept (s : Initial.Db) (tables : SignedTables) : Prop where
  entries : tables.entries = s.entries.map signedEntry
  holdEntries : tables.holdEntries = s.holdEntries.map signedHoldEntry
  balanced : ∀ transactionId,
    directionTotal (s.entries.filter fun e => e.transactionId = transactionId) .debit =
        directionTotal (s.entries.filter fun e => e.transactionId = transactionId) .credit →
      signedTotal (tables.entries.filter fun e => e.transactionId = transactionId) = 0
  accounts : List.Forall₂ (AccountKept s tables.entries) s.accounts tables.accounts
  balanceSnapshots : List.Forall₂ (SnapshotKept s) s.balanceSnapshots tables.balanceSnapshots

/-! ## The states before the migration -/

/-- A database transaction of INSERTs, or an UPDATE of the amounts of one account or of one
snapshot. -/
inductive Change where
  | transaction (tx : Initial.DbTransaction)
  | updateAccount (id : Uuid) (balanceMinor inflightDebitMinor inflightCreditMinor : Int)
  | updateBalanceSnapshot (id : Uuid) (postedMinor inflightDebitMinor inflightCreditMinor : Int)
  deriving DecidableEq, Repr

/-- Make a change under the triggers of a generation. -/
def change (generation : Initial.Generation) (s : Initial.Db) : Change → Except SqlError Initial.Db
  | .transaction tx => Initial.commit generation s tx
  | .updateAccount id balanceMinor inflightDebitMinor inflightCreditMinor => do
      require (0 ≤ inflightCreditMinor)
        (.checkViolation "accounts_inflight_credit_nonnegative_chk")
      require (0 ≤ inflightDebitMinor) (.checkViolation "accounts_inflight_debit_nonnegative_chk")
      return { s with accounts := s.accounts.map fun a =>
        if a.id = id then { a with balanceMinor, inflightDebitMinor, inflightCreditMinor } else a }
  | .updateBalanceSnapshot id postedMinor inflightDebitMinor inflightCreditMinor =>
      .ok { s with balanceSnapshots := s.balanceSnapshots.map fun snapshot =>
        if snapshot.id = id then
          { snapshot with postedMinor, inflightDebitMinor, inflightCreditMinor }
        else snapshot }

/-- The states that changes under 0000, then 0001, then changes under 0001 lead to. -/
def Populated (grantEnabled : Uuid → Bool) (s : Initial.Db) : Prop :=
  ∃ s₀ log₀ log₁, run (change .initial) Initial.Db.empty log₀ = .ok s₀ ∧
    NewColumn grantEnabled s₀ ∧ run (change (.capability grantEnabled)) s₀ log₁ = .ok s

/-! ## When the migration runs -/

/-- What the constraints of 0000 and 0001 guarantee. -/
structure Constrained (grantEnabled : Uuid → Bool) (s : Initial.Db) : Prop where
  inflight : ∀ a ∈ s.accounts, 0 ≤ a.inflightDebitMinor ∧ 0 ≤ a.inflightCreditMinor
  shape : ∀ a ∈ s.accounts, Initial.GrantEnabledShape grantEnabled a
  snapshotAccount : ∀ snapshot ∈ s.balanceSnapshots, (s.account? snapshot.accountId).isSome

/-- No CREDIT entry is attributed to a grant, no hold entry is of zero, and every value that
is negated has a negation. -/
structure Rewritable (s : Initial.Db) : Prop where
  unattributed : ∀ e ∈ s.entries, e.direction = .credit →
    ∀ l ∈ s.creditGrantEntries, l.entryId ≠ e.id
  holdEntries : ∀ he ∈ s.holdEntries, he.amountMinor ≠ 0 ∧
    (he.direction = .credit → - he.amountMinor ≤ maxBigint)
  accounts : ∀ a ∈ s.accounts, - a.balanceMinor ≤ maxBigint
  balanceSnapshots : ∀ snapshot ∈ s.balanceSnapshots, - snapshot.postedMinor ≤ maxBigint ∧
    ∀ account, s.account? snapshot.accountId = some account → account.side = .debit →
      - snapshot.inflightCreditMinor ≤ maxBigint

section Rewrite

variable {grantEnabled : Uuid → Bool} {s : Initial.Db}

theorem negate_eq_ok_iff {value negated : Int} :
    negate value = .ok negated ↔ - value ≤ maxBigint ∧ negated = - value := by
  simp only [negate, bind_eq_ok_iff, require_eq_ok_iff, pure_eq_ok_iff, exists_const]
  exact and_congr_right fun _ => eq_comm

theorem rewriteEntry_eq_ok_iff {e : Initial.Entry} {e' : Entry} :
    rewriteEntry s e = .ok e' ↔ e' = signedEntry e ∧ (e.direction = .credit →
      - e.amountMinor ≤ maxBigint ∧ ∀ l ∈ s.creditGrantEntries, l.entryId ≠ e.id) := by
  cases hdirection : e.direction with
  | debit => simp [rewriteEntry, hdirection, eq_comm]
  | credit =>
      have hsigned : { signedEntry e with signedAmountMinor := - e.amountMinor } =
          signedEntry e := by
        simp [signedEntry, signedAmount, hdirection]
      have hunattributed : (¬ ∃ l ∈ s.creditGrantEntries, l.entryId = e.id) ↔
          ∀ l ∈ s.creditGrantEntries, l.entryId ≠ e.id := by
        push Not
        rfl
      simp only [rewriteEntry, hdirection, bind_eq_ok_iff, negate_eq_ok_iff,
        protectCreditGrantHistory, raiseIf_eq_ok_iff, pure_eq_ok_iff, ne_eq,
        Truth.of_eq_true_iff, hunattributed]
      constructor
      · rintro ⟨amount, ⟨hrange, rfl⟩, ⟨⟩, hlineage, rfl⟩
        exact ⟨hsigned, fun _ => ⟨hrange, hlineage⟩⟩
      · rintro ⟨rfl, hcredit⟩
        obtain ⟨hrange, hlineage⟩ := hcredit trivial
        exact ⟨_, ⟨hrange, rfl⟩, (), hlineage, hsigned⟩

theorem rewriteHoldEntry_eq_ok_iff {he : Initial.HoldEntry} {he' : HoldEntry} :
    rewriteHoldEntry he = .ok he' ↔ he' = signedHoldEntry he ∧
      (he.direction = .credit → - he.amountMinor ≤ maxBigint) := by
  cases hdirection : he.direction with
  | debit => simp [rewriteHoldEntry, hdirection, eq_comm]
  | credit =>
      have hsigned : { signedHoldEntry he with signedAmountMinor := - he.amountMinor } =
          signedHoldEntry he := by
        simp [signedHoldEntry, signedAmount, hdirection]
      simp only [rewriteHoldEntry, hdirection, bind_eq_ok_iff, negate_eq_ok_iff, pure_eq_ok_iff]
      constructor
      · rintro ⟨amount, ⟨hrange, rfl⟩, rfl⟩
        exact ⟨hsigned, fun _ => hrange⟩
      · rintro ⟨rfl, hcredit⟩
        exact ⟨_, ⟨hcredit trivial, rfl⟩, hsigned⟩

/-- The value that `reserved_delta_minor` gets. -/
def signedReservation : AccountSide → Int → Int → Int
  | .debit, _, inflightCreditMinor => - inflightCreditMinor
  | .credit, inflightDebitMinor, _ => inflightDebitMinor

theorem reservedDelta_eq_ok_iff {side : AccountSide} {debit credit reserved : Int} :
    reservedDelta side debit credit = .ok reserved ↔
      (side = .debit → - credit ≤ maxBigint) ∧ reserved = signedReservation side debit credit := by
  cases side with
  | debit => simp [reservedDelta, negate_eq_ok_iff, signedReservation]
  | credit => simp [reservedDelta, signedReservation, eq_comm]

theorem availableAfter_signedReservation (side : AccountSide) (balance debit credit : Int) :
    availableAfter side (- balance) (signedReservation side debit credit) =
      availableBefore side balance debit credit := by
  cases side with
  | debit => rw [availableAfter, signedReservation, availableBefore, Int.sub_eq_add_neg]
  | credit =>
      rw [availableAfter, signedReservation, availableBefore]
      omega

/-- The row of `accounts` that the migration makes. -/
def signedAccount (grantEnabled : Uuid → Bool) (a : Initial.Account) : SignedAccount :=
  ⟨a.id, a.tenantId, a.ledgerId, a.side, a.overdraftPolicy, a.assetId, grantEnabled a.id,
    - a.balanceMinor, signedReservation a.side a.inflightDebitMinor a.inflightCreditMinor⟩

theorem rewriteAccount_eq_ok_iff {a : Initial.Account} {a' : SignedAccount} :
    rewriteAccount grantEnabled a = .ok a' ↔ a' = signedAccount grantEnabled a ∧
      - a.balanceMinor ≤ maxBigint ∧ (a.side = .debit → - a.inflightCreditMinor ≤ maxBigint) ∧
        Initial.GrantEnabledShape grantEnabled a := by
  simp only [rewriteAccount, bind_eq_ok_iff, negate_eq_ok_iff, reservedDelta_eq_ok_iff,
    require_eq_ok_iff, pure_eq_ok_iff]
  constructor
  · rintro ⟨balance, ⟨hrange, rfl⟩, reserved, ⟨hreserved, rfl⟩, ⟨⟩, hshape, rfl⟩
    exact ⟨rfl, hrange, hreserved, hshape⟩
  · rintro ⟨rfl, hrange, hreserved, hshape⟩
    exact ⟨_, ⟨hrange, rfl⟩, _, ⟨hreserved, rfl⟩, (), hshape, rfl⟩

/-- The row of `balance_snapshots` that the migration makes. -/
def signedSnapshot (s : Initial.Db) (snapshot : Initial.BalanceSnapshot) : SignedSnapshot :=
  match s.account? snapshot.accountId with
  | none => ⟨snapshot.id, snapshot.tenantId, snapshot.ledgerId, snapshot.accountId,
      snapshot.postedMinor, none⟩
  | some account => ⟨snapshot.id, snapshot.tenantId, snapshot.ledgerId, snapshot.accountId,
      - snapshot.postedMinor, some (signedReservation account.side snapshot.inflightDebitMinor
        snapshot.inflightCreditMinor)⟩

theorem rewriteSnapshot_eq_ok_iff {snapshot : Initial.BalanceSnapshot}
    {snapshot' : SignedSnapshot} {account : Initial.Account}
    (haccount : s.account? snapshot.accountId = some account) :
    rewriteSnapshot s snapshot = .ok snapshot' ↔ snapshot' = signedSnapshot s snapshot ∧
      - snapshot.postedMinor ≤ maxBigint ∧
        (account.side = .debit → - snapshot.inflightCreditMinor ≤ maxBigint) := by
  simp only [rewriteSnapshot, signedSnapshot, haccount, bind_eq_ok_iff, negate_eq_ok_iff,
    reservedDelta_eq_ok_iff, pure_eq_ok_iff]
  constructor
  · rintro ⟨posted, ⟨hrange, rfl⟩, reserved, ⟨hreserved, rfl⟩, rfl⟩
    exact ⟨rfl, hrange, hreserved⟩
  · rintro ⟨rfl, hrange, hreserved⟩
    exact ⟨_, ⟨hrange, rfl⟩, _, ⟨hreserved, rfl⟩, rfl⟩

theorem eq_signedSnapshot {snapshot : Initial.BalanceSnapshot} {snapshot' : SignedSnapshot}
    (h : rewriteSnapshot s snapshot = .ok snapshot') : snapshot' = signedSnapshot s snapshot := by
  cases haccount : s.account? snapshot.accountId with
  | none =>
      rw [rewriteSnapshot, haccount] at h
      rw [signedSnapshot, haccount]
      exact (Except.ok.inj h).symm
  | some account => exact ((rewriteSnapshot_eq_ok_iff haccount).mp h).1

/-- The tables that the migration makes. -/
def signedTables (grantEnabled : Uuid → Bool) (s : Initial.Db) : SignedTables where
  entries := s.entries.map signedEntry
  holdEntries := s.holdEntries.map signedHoldEntry
  accounts := s.accounts.map (signedAccount grantEnabled)
  balanceSnapshots := s.balanceSnapshots.map (signedSnapshot s)

theorem migrate_eq_ok_iff {tables : SignedTables} :
    migrateSignedAmounts grantEnabled s = .ok tables ↔ tables = signedTables grantEnabled s ∧
      (∀ e ∈ s.entries, rewriteEntry s e = .ok (signedEntry e)) ∧
      (∀ he ∈ s.holdEntries, rewriteHoldEntry he = .ok (signedHoldEntry he)) ∧
      (∀ a ∈ s.accounts, rewriteAccount grantEnabled a = .ok (signedAccount grantEnabled a)) ∧
      (∀ snapshot ∈ s.balanceSnapshots,
        rewriteSnapshot s snapshot = .ok (signedSnapshot s snapshot)) ∧
      (∀ snapshot ∈ s.balanceSnapshots,
        (signedSnapshot s snapshot).reservedDeltaMinor.isSome = true) ∧
      (∀ a ∈ s.accounts, ReservedDeltaSide (signedAccount grantEnabled a)) ∧
      (∀ e ∈ s.entries, (signedEntry e).signedAmountMinor ≠ 0) ∧
      (∀ he ∈ s.holdEntries, (signedHoldEntry he).signedAmountMinor ≠ 0) := by
  simp only [migrateSignedAmounts, bind_eq_ok_iff, pure_eq_ok_iff, require_eq_ok_iff,
    updateEach_eq_ok_iff fun e e' h => (rewriteEntry_eq_ok_iff.mp h).1,
    updateEach_eq_ok_iff fun he he' h => (rewriteHoldEntry_eq_ok_iff.mp h).1,
    updateEach_eq_ok_iff fun a a' h => (rewriteAccount_eq_ok_iff.mp h).1,
    updateEach_eq_ok_iff fun snapshot snapshot' h => eq_signedSnapshot h]
  constructor
  · rintro ⟨_, ⟨rfl, hentries⟩, _, ⟨rfl, hholdEntries⟩, _, ⟨rfl, haccounts⟩, _,
      ⟨rfl, hsnapshots⟩, _, hnotNull, _, hside, _, hnonzero, _, hholdNonzero, rfl⟩
    exact ⟨rfl, hentries, hholdEntries, haccounts, hsnapshots,
      List.forall_mem_map.mp hnotNull, List.forall_mem_map.mp hside,
      fun e he => hnonzero _ (List.mem_map_of_mem he),
      fun he hhe => hholdNonzero _ (List.mem_map_of_mem hhe)⟩
  · rintro ⟨rfl, hentries, hholdEntries, haccounts, hsnapshots, hnotNull, hside, hnonzero,
      hholdNonzero⟩
    exact ⟨_, ⟨rfl, hentries⟩, _, ⟨rfl, hholdEntries⟩, _, ⟨rfl, haccounts⟩, _,
      ⟨rfl, hsnapshots⟩, (), List.forall_mem_map.mpr hnotNull, (), List.forall_mem_map.mpr hside,
      (), List.forall_mem_map.mpr hnonzero, (), List.forall_mem_map.mpr hholdNonzero, rfl⟩

theorem signedAmount_ne_zero_iff {direction : Initial.EntryDirection} {amount : Int} :
    signedAmount direction amount ≠ 0 ↔ amount ≠ 0 := by
  cases direction with
  | debit => rfl
  | credit => exact neg_ne_zero

/-- The migration runs exactly on the states that it can rewrite. -/
theorem migrate_runs_iff (hpositive : ∀ e ∈ s.entries, 0 < e.amountMinor)
    (hconstrained : Constrained grantEnabled s) :
    (∃ tables, migrateSignedAmounts grantEnabled s = .ok tables) ↔ Rewritable s := by
  simp only [migrate_eq_ok_iff, exists_eq_left]
  constructor
  · rintro ⟨hentries, hholdEntries, haccounts, hsnapshots, -, -, -, hholdNonzero⟩
    refine ⟨?_, ?_, ?_, ?_⟩
    · intro e he hcredit
      exact ((rewriteEntry_eq_ok_iff.mp (hentries e he)).2 hcredit).2
    · intro he hhe
      exact ⟨signedAmount_ne_zero_iff.mp (hholdNonzero he hhe),
        (rewriteHoldEntry_eq_ok_iff.mp (hholdEntries he hhe)).2⟩
    · intro a ha
      obtain ⟨-, hbalance, -, -⟩ := rewriteAccount_eq_ok_iff.mp (haccounts a ha)
      exact hbalance
    · intro snapshot hsnapshot
      obtain ⟨account, haccount⟩ := Option.isSome_iff_exists.mp
        (hconstrained.snapshotAccount snapshot hsnapshot)
      obtain ⟨-, hposted, hreserved⟩ :=
        (rewriteSnapshot_eq_ok_iff haccount).mp (hsnapshots snapshot hsnapshot)
      refine ⟨hposted, fun found hfound => ?_⟩
      rw [haccount] at hfound
      exact Option.some.inj hfound ▸ hreserved
  · intro hrewritable
    refine ⟨?_, ?_, ?_, ?_, ?_, ?_, ?_, ?_⟩
    · intro e he
      refine rewriteEntry_eq_ok_iff.mpr ⟨rfl, fun hcredit =>
        ⟨?_, hrewritable.unattributed e he hcredit⟩⟩
      have hamount := hpositive e he
      unfold maxBigint
      omega
    · intro he hhe
      exact rewriteHoldEntry_eq_ok_iff.mpr ⟨rfl, (hrewritable.holdEntries he hhe).2⟩
    · intro a ha
      obtain ⟨-, hcredit⟩ := hconstrained.inflight a ha
      have hreserved : - a.inflightCreditMinor ≤ maxBigint := by
        unfold maxBigint
        omega
      exact rewriteAccount_eq_ok_iff.mpr
        ⟨rfl, hrewritable.accounts a ha, fun _ => hreserved, hconstrained.shape a ha⟩
    · intro snapshot hsnapshot
      obtain ⟨account, haccount⟩ := Option.isSome_iff_exists.mp
        (hconstrained.snapshotAccount snapshot hsnapshot)
      obtain ⟨hposted, hreserved⟩ := hrewritable.balanceSnapshots snapshot hsnapshot
      exact (rewriteSnapshot_eq_ok_iff haccount).mpr ⟨rfl, hposted, hreserved account haccount⟩
    · intro snapshot hsnapshot
      obtain ⟨account, haccount⟩ := Option.isSome_iff_exists.mp
        (hconstrained.snapshotAccount snapshot hsnapshot)
      rw [signedSnapshot, haccount]
      rfl
    · intro a ha
      obtain ⟨hdebit, hcredit⟩ := hconstrained.inflight a ha
      unfold ReservedDeltaSide
      cases hside : a.side with
      | debit => exact Or.inl ⟨hside, by simp [signedAccount, hside, signedReservation, hcredit]⟩
      | credit => exact Or.inr ⟨hside, by simp [signedAccount, hside, signedReservation, hdebit]⟩
    · intro e he
      exact signedAmount_ne_zero_iff.mpr (hpositive e he).ne'
    · intro he hhe
      exact signedAmount_ne_zero_iff.mpr (hrewritable.holdEntries he hhe).1

/-! ## The constraints of the states before the migration -/

/-- The CHECKs of an account row. -/
def AccountChecked (grantEnabled : Uuid → Bool) (a : Initial.Account) : Prop :=
  (0 ≤ a.inflightDebitMinor ∧ 0 ≤ a.inflightCreditMinor) ∧ Initial.GrantEnabledShape grantEnabled a

theorem constrained_iff : Constrained grantEnabled s ↔
    (∀ a ∈ s.accounts, AccountChecked grantEnabled a) ∧
      ∀ snapshot ∈ s.balanceSnapshots, (s.account? snapshot.accountId).isSome := by
  constructor
  · intro h
    exact ⟨fun a ha => ⟨h.inflight a ha, h.shape a ha⟩, h.snapshotAccount⟩
  · rintro ⟨haccounts, hsnapshots⟩
    exact ⟨fun a ha => (haccounts a ha).1, fun a ha => (haccounts a ha).2, hsnapshots⟩

/-- Only the accounts and the snapshots are constrained. -/
theorem Constrained.of_tables {s' : Initial.Db} (h : Constrained grantEnabled s)
    (haccounts : s'.accounts = s.accounts) (hsnapshots : s'.balanceSnapshots = s.balanceSnapshots) :
    Constrained grantEnabled s' := by
  obtain ⟨hinflight, hshape, hsnapshot⟩ := h
  unfold Initial.Db.account? at hsnapshot
  refine ⟨?_, ?_, ?_⟩
  · rwa [haccounts]
  · rwa [haccounts]
  · unfold Initial.Db.account?
    rwa [haccounts, hsnapshots]

/-- Under 0000 no account is enabled, under 0001 the column decides. -/
def columnOf : Initial.Generation → Uuid → Bool
  | .initial => fun _ => false
  | .capability grantEnabled => grantEnabled

theorem Constrained.addAccount {generation : Initial.Generation} {new : Initial.Account}
    (h : Constrained (columnOf generation) s)
    (hcheck : Initial.checkAccount generation s new = .ok ()) :
    Constrained (columnOf generation) (s.addAccount new) := by
  have hnew : AccountChecked (columnOf generation) new := by
    cases generation with
    | initial =>
        simp only [Initial.checkAccount, bind_eq_ok_iff, require_eq_ok_iff] at hcheck
        obtain ⟨-, -, -, hcredit, -, hdebit, -⟩ := hcheck
        exact ⟨⟨hdebit, hcredit⟩, fun henabled => absurd henabled Bool.false_ne_true⟩
    | capability grantEnabled =>
        simp only [Initial.checkAccount, bind_eq_ok_iff, require_eq_ok_iff] at hcheck
        obtain ⟨-, hshape, -, hcredit, -, hdebit, -⟩ := hcheck
        exact ⟨⟨hdebit, hcredit⟩, hshape⟩
  rw [constrained_iff] at h ⊢
  refine ⟨?_, ?_⟩
  · intro a ha
    rcases List.mem_append.mp ha with hold | hlast
    · exact h.1 a hold
    · rw [List.mem_singleton.mp hlast]
      exact hnew
  · intro snapshot hsnapshot
    obtain ⟨account, haccount⟩ := Option.isSome_iff_exists.mp (h.2 snapshot hsnapshot)
    exact Option.isSome_iff_exists.mpr ⟨account, lookup_append_of_some haccount⟩

theorem Constrained.addBalanceSnapshot {new : Initial.BalanceSnapshot}
    (h : Constrained grantEnabled s) (hcheck : Initial.checkBalanceSnapshot s new = .ok ()) :
    Constrained grantEnabled (s.addBalanceSnapshot new) := by
  simp only [Initial.checkBalanceSnapshot, bind_eq_ok_iff, require_eq_ok_iff] at hcheck
  obtain ⟨-, -, haccount⟩ := hcheck
  refine ⟨h.inflight, h.shape, fun snapshot hsnapshot => ?_⟩
  rcases List.mem_append.mp hsnapshot with hold | hlast
  · exact h.snapshotAccount snapshot hold
  · rw [List.mem_singleton.mp hlast]
    exact haccount

theorem appendCreditGrantCapacityVersion_frame {s' : Initial.Db} {new : CreditGrantEntry}
    (h : Initial.appendCreditGrantCapacityVersion s new = .ok s') :
    s'.accounts = s.accounts ∧ s'.balanceSnapshots = s.balanceSnapshots := by
  simp only [Initial.appendCreditGrantCapacityVersion, Initial.insertCapacityVersion,
    bind_eq_ok_iff, pure_eq_ok_iff] at h
  obtain ⟨-, -, -, -, -, -, -, -, -, -, -, -, -, -, -, -, -, -, rfl⟩ := h
  exact ⟨rfl, rfl⟩

theorem Constrained.exec {generation : Initial.Generation} {now : Timestamp} {s' : Initial.Db}
    {stmt : Initial.Statement} (h : stmt.exec generation now s = .ok s')
    (hs : Constrained (columnOf generation) s) : Constrained (columnOf generation) s' := by
  cases stmt with
  | insertAccounts rows =>
      exact (insertEach_invariant (q := fun _ => True)
        (fun _ _ hcheck hs => ⟨trivial, hs.addAccount hcheck⟩) h hs).2
  | insertBalanceSnapshots rows =>
      exact (insertEach_invariant (q := fun _ => True)
        (fun _ _ hcheck hs => ⟨trivial, hs.addBalanceSnapshot hcheck⟩) h hs).2
  | insertTransactions rows =>
      obtain ⟨stored, hstored, hrest⟩ := bind_eq_ok_iff.mp h
      obtain ⟨-, -, hs'⟩ := bind_eq_ok_iff.mp hrest
      obtain rfl := Except.ok.inj hs'
      exact hs.of_tables (insertEach_frame hstored fun _ _ => rfl)
        (insertEach_frame hstored fun _ _ => rfl)
  | insertCreditGrantEntries rows =>
      obtain ⟨stored, hstored, happended⟩ := insertRows_eq_ok_iff.mp h
      have hstoredOk : Constrained (columnOf generation) stored :=
        hs.of_tables (insertEach_frame hstored fun _ _ => rfl)
          (insertEach_frame hstored fun _ _ => rfl)
      refine foldlM_preserves (fun _ _ s₁ s₂ happend hs₁ => ?_) happended hstoredOk
      obtain ⟨haccounts, hsnapshots⟩ := appendCreditGrantCapacityVersion_frame happend
      exact hs₁.of_tables haccounts hsnapshots
  | insertAssets rows | insertEntries rows | insertCreditGrants rows | insertHolds rows
  | insertHoldEntries rows =>
      exact hs.of_tables (insertEach_frame h fun _ _ => rfl) (insertEach_frame h fun _ _ => rfl)

/-- Every change keeps the constraints. -/
theorem Constrained.change {generation : Initial.Generation} {s' : Initial.Db} {c : Change}
    (h : Migration.change generation s c = .ok s') (hs : Constrained (columnOf generation) s) :
    Constrained (columnOf generation) s' := by
  cases c with
  | transaction tx =>
      obtain ⟨final, hfinal, hrest⟩ := bind_eq_ok_iff.mp h
      obtain ⟨-, -, hs'⟩ := bind_eq_ok_iff.mp hrest
      obtain rfl := Except.ok.inj hs'
      exact foldlM_preserves (fun _ _ _ _ hexec hs => Constrained.exec hexec hs) hfinal hs
  | updateAccount id balanceMinor inflightDebitMinor inflightCreditMinor =>
      simp only [Migration.change, bind_eq_ok_iff, require_eq_ok_iff, pure_eq_ok_iff] at h
      obtain ⟨-, hcredit, -, hdebit, rfl⟩ := h
      rw [constrained_iff] at hs ⊢
      refine ⟨?_, ?_⟩
      · refine List.forall_mem_map.mpr fun a ha => ?_
        split
        · exact ⟨⟨hdebit, hcredit⟩, (hs.1 a ha).2⟩
        · exact hs.1 a ha
      · intro snapshot hsnapshot
        have hkeys : ∀ a ∈ s.accounts, Initial.Account.id (if a.id = id then
            { a with balanceMinor, inflightDebitMinor, inflightCreditMinor } else a) = a.id := by
          intro a _
          split <;> rfl
        unfold Initial.Db.account?
        rw [lookup_map hkeys, Option.isSome_map]
        exact hs.2 snapshot hsnapshot
  | updateBalanceSnapshot id postedMinor inflightDebitMinor inflightCreditMinor =>
      obtain rfl := Except.ok.inj h
      refine ⟨hs.inflight, hs.shape, List.forall_mem_map.mpr fun snapshot hsnapshot => ?_⟩
      have haccount := hs.snapshotAccount snapshot hsnapshot
      split <;> exact haccount

/-- The constraints of 0000 and 0001 hold in every state before the migration. -/
theorem Populated.constrained (h : Populated grantEnabled s) : Constrained grantEnabled s := by
  obtain ⟨s₀, log₀, log₁, hinitial, hnew, hcapability⟩ := h
  have hempty : Constrained (columnOf .initial) Initial.Db.empty :=
    ⟨fun _ ha => absurd ha List.not_mem_nil, fun _ ha => absurd ha List.not_mem_nil,
      fun _ hsnapshot => absurd hsnapshot List.not_mem_nil⟩
  have h₀ : Constrained (columnOf .initial) s₀ :=
    run_invariant hempty (fun _ _ _ hchange hs => Constrained.change hchange hs) hinitial
  have hmigrated : Constrained (columnOf (.capability grantEnabled)) s₀ :=
    ⟨h₀.inflight, fun a ha henabled => absurd henabled (by simp [columnOf, hnew a ha]),
      h₀.snapshotAccount⟩
  exact run_invariant (P := Constrained (columnOf (.capability grantEnabled))) hmigrated
    (fun _ _ _ hchange hs => Constrained.change hchange hs) hcapability

/-- The signed amounts sum to the debits minus the credits. -/
theorem signedTotal_map (entries : List Initial.Entry) :
    signedTotal (entries.map signedEntry) =
      directionTotal entries .debit - directionTotal entries .credit := by
  unfold signedTotal directionTotal
  induction entries with
  | nil => rfl
  | cons e rest ih =>
      rw [List.map_cons, sumWhere_cons, sumWhere_cons, sumWhere_cons, ih]
      cases hdirection : e.direction with
      | debit =>
          simp only [signedEntry, signedAmount, hdirection, if_true, decide_true, reduceCtorEq,
            decide_false, Bool.false_eq_true, if_false]
          omega
      | credit =>
          simp only [signedEntry, signedAmount, hdirection, if_true, decide_true, reduceCtorEq,
            decide_false, Bool.false_eq_true, if_false]
          omega

theorem signedTotal_filter (entries : List Initial.Entry) (p : Entry → Bool) :
    signedTotal ((entries.map signedEntry).filter p) =
      directionTotal (entries.filter fun e => p (signedEntry e)) .debit -
        directionTotal (entries.filter fun e => p (signedEntry e)) .credit := by
  rw [List.filter_map, signedTotal_map]
  rfl

/-- What the migration makes means what there was. -/
theorem meaningKept_signedTables (hconstrained : Constrained grantEnabled s) :
    MeaningKept s (signedTables grantEnabled s) where
  entries := rfl
  holdEntries := rfl
  balanced := by
    intro transactionId hbalanced
    have htotal := signedTotal_filter s.entries fun e => e.transactionId = transactionId
    rw [signedTables, htotal]
    exact Int.sub_eq_zero.mpr hbalanced
  accounts := by
    rw [signedTables, List.forall₂_map_right_iff, List.forall₂_same]
    intro a _
    refine ⟨rfl, rfl, fun hbalance => ?_,
      availableAfter_signedReservation a.side a.balanceMinor _ _⟩
    have htotal := signedTotal_filter s.entries fun e => e.accountId = a.id
    rw [htotal, signedAccount, hbalance]
    exact Int.neg_sub _ _
  balanceSnapshots := by
    rw [signedTables, List.forall₂_map_right_iff, List.forall₂_same]
    intro snapshot hsnapshot
    obtain ⟨account, haccount⟩ := Option.isSome_iff_exists.mp
      (hconstrained.snapshotAccount snapshot hsnapshot)
    refine ⟨?_, account, signedReservation account.side snapshot.inflightDebitMinor
      snapshot.inflightCreditMinor, haccount, ?_, ?_⟩
    · rw [signedSnapshot, haccount]
    · rw [signedSnapshot, haccount]
    · rw [signedSnapshot, haccount]
      exact availableAfter_signedReservation _ _ _ _

end Rewrite

/-- On every populated state the migration runs and keeps the meaning of every table
exactly when it can rewrite every row. -/
theorem migrateSignedAmounts_iff {grantEnabled : Uuid → Bool} {s : Initial.Db}
    (hpopulated : Populated grantEnabled s) (hpositive : ∀ e ∈ s.entries, 0 < e.amountMinor) :
    (∃ tables, migrateSignedAmounts grantEnabled s = .ok tables ∧ MeaningKept s tables) ↔
      Rewritable s := by
  have hconstrained := hpopulated.constrained
  rw [← migrate_runs_iff hpositive hconstrained]
  constructor
  · rintro ⟨tables, hruns, -⟩
    exact ⟨tables, hruns⟩
  · rintro ⟨tables, hruns⟩
    obtain rfl := (migrate_eq_ok_iff.mp hruns).1
    exact ⟨_, hruns, meaningKept_signedTables hconstrained⟩

namespace Sample

/-- Accounts, a posting of 40 between them, a hold of 25 and their snapshots; no grants. -/
def ordinary : List Change :=
  [.transaction ⟨0, Initial.Sample.accounts⟩,
    .transaction ⟨2, Initial.Sample.posting⟩,
    .transaction ⟨3,
      [.insertHolds [⟨400, 1, 5, "order", "USD", 1, none, .held, 25, 25, 3, none, none⟩],
      .insertHoldEntries [⟨500, 1, 400, 10, .debit, 25, 1⟩, ⟨501, 1, 400, 11, .credit, 25, 1⟩]]⟩,
    .updateAccount 10 (-40) 25 0,
    .updateAccount 11 40 0 25,
    .transaction ⟨4, [.insertBalanceSnapshots [⟨600, 1, 5, 10, -40, 25, 0⟩]]⟩]

/-- The state they lead to. -/
def ordinaryState : Initial.Db :=
  ((run (change .initial) Initial.Db.empty ordinary).toOption).getD Initial.Db.empty

theorem populated_ordinaryState : Populated (fun _ => false) ordinaryState :=
  ⟨ordinaryState, ordinary, [], by rfl, fun _ _ => rfl, rfl⟩

/-- The state after the issuance of grant 300. -/
theorem populated_issued : Populated (fun _ => false) issued :=
  ⟨issued, [.transaction ⟨0, Initial.Sample.accounts⟩, .transaction ⟨1, Initial.Sample.issuance⟩],
    [], by rfl, fun _ _ => rfl, rfl⟩

end Sample

theorem migrateSignedAmounts_iff_sample :
    (∃ tables, migrateSignedAmounts (fun _ => false) Sample.ordinaryState = .ok tables ∧
        MeaningKept Sample.ordinaryState tables) ↔ Rewritable Sample.ordinaryState :=
  migrateSignedAmounts_iff Sample.populated_ordinaryState (by decide +kernel)

/-- The tables that the migration makes of them. -/
example : migrateSignedAmounts (fun _ => false) Sample.ordinaryState = .ok
    { entries := [⟨250, 1, 150, 10, 40, 1⟩, ⟨251, 1, 150, 11, -40, 1⟩]
      holdEntries := [⟨500, 1, 400, 10, 25, 1⟩, ⟨501, 1, 400, 11, -25, 1⟩]
      accounts := [⟨10, 1, 5, .credit, .disallow, 1, false, 40, 25⟩,
        ⟨11, 1, 5, .debit, .allow, 1, false, -40, -25⟩]
      balanceSnapshots := [⟨600, 1, 5, 10, 40, some 25⟩] } := by rfl

/-- The CREDIT entry of an issuance cannot be rewritten. -/
theorem issuance_blocks_migration :
    Populated (fun _ => false) Sample.issued ∧
      (∀ e ∈ Sample.issued.entries, 0 < e.amountMinor) ∧
      migrateSignedAmounts (fun _ => false) Sample.issued =
        .error (raiseException "credit grant ledger entries are immutable") ∧
      ¬ ∃ tables, migrateSignedAmounts (fun _ => false) Sample.issued = .ok tables ∧
        MeaningKept Sample.issued tables := by
  have hraised : migrateSignedAmounts (fun _ => false) Sample.issued =
      .error (raiseException "credit grant ledger entries are immutable") := by rfl
  refine ⟨Sample.populated_issued, by decide +kernel, hraised, ?_⟩
  rintro ⟨tables, hruns, -⟩
  rw [hraised] at hruns
  cases hruns

end LuxLedger.Migration
