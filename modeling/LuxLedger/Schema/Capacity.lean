/-
  Schema/Capacity.lean --- the capacity versions of a credit grant and their
  three writers: the lineage trigger, the allocation trigger and the void trigger.

  Sources: `0000_initial-schema.sql` (table and constraints),
  `0004_grant_hold_allocations.sql` (reservations and the BEFORE INSERT guard),
  `0007_2026-10-17-partial-credit-grant-refund-functions.sql` (the appender).
-/
import LuxLedger.Schema.Tables

set_option autoImplicit false

namespace LuxLedger.Schema

open LuxLedger.Relational

namespace Db

/-- The capacity versions of a grant, in insertion order. -/
def versionsOf (s : Db) (tenantId grantId : Uuid) : List CreditGrantCapacityVersion :=
  s.creditGrantCapacityVersions.filter fun v => v.tenantId = tenantId ∧ v.grantId = grantId

/-- `… ORDER BY version DESC LIMIT 1`. -/
def latestVersion (s : Db) (tenantId grantId : Uuid) : Option CreditGrantCapacityVersion :=
  latestBy CreditGrantCapacityVersion.version (s.versionsOf tenantId grantId)

/-- A column of the latest version, or 0 when the grant has none. -/
def latestMinor (s : Db) (tenantId grantId : Uuid)
    (column : CreditGrantCapacityVersion → Int) : Int :=
  ((s.latestVersion tenantId grantId).map column).getD 0

end Db

/-- `active_credit_grant_reservation`. -/
def activeCreditGrantReservation (s : Db) (tenantId grantId : Uuid) : Int :=
  s.latestMinor tenantId grantId (·.reservedMinor)

/-- `num_nonnulls`. -/
def numNonnulls (values : List (Option Uuid)) : Nat := (values.filter Option.isSome).length

/-- `reject_credit_grant_capacity_baseline_insert`, the BEFORE INSERT guard of
0004.  `triggerDepth` is `pg_trigger_depth()` inside it: 1 for a direct write, 2
for a write made by another trigger.  It returns the row to be stored. -/
def rejectCreditGrantCapacityBaselineInsert (s : Db) (triggerDepth : Nat)
    (new : CreditGrantCapacityVersion) : Except SqlError CreditGrantCapacityVersion := do
  raiseIf (.of (triggerDepth < 2 ∨
      numNonnulls [new.sourceEntryId, new.sourceAllocationId, new.sourceHoldId] ≠ 1))
    (raiseException
      "credit grant capacity versions can only be appended from lineage or reservation events")
  match new.sourceEntryId with
  | none => .ok new
  | some sourceEntryId =>
      let reserved := activeCreditGrantReservation s new.tenantId new.grantId
      match s.creditGrantEntries.find? fun l => l.tenantId = new.tenantId ∧
          l.grantId = new.grantId ∧ l.entryId = sourceEntryId with
      | none => .error .noDataFound
      | some lineage =>
          if lineage.kind = .consumption then
            match s.lineageHoldId lineage with
            | none => .ok { new with reservedMinor := reserved }
            | some _ => do
                raiseIf (.of (reserved < lineage.amountMinor))
                  (.raised "credit grant consumption exceeds reserved capacity" "LL002")
                .ok { new with reservedMinor := reserved - lineage.amountMinor }
          else .ok { new with reservedMinor := reserved }

/-- The CHECK constraints of `credit_grant_capacity_versions`, in the order of their names. -/
def checkCapacityVersion (v : CreditGrantCapacityVersion) : Except SqlError Unit := do
  require (v.remainingMinor = v.grantedMinor + v.compensatedMinor - v.reversedMinor -
      v.consumedMinor - v.expiredMinor)
    (.checkViolation "credit_grant_capacity_versions_remaining_chk")
  require (0 ≤ v.reservedMinor ∧ v.reservedMinor ≤ v.remainingMinor)
    (.checkViolation "credit_grant_capacity_versions_reserved_chk")
  require (0 ≤ v.grantedMinor ∧ 0 ≤ v.reversedMinor ∧ 0 ≤ v.consumedMinor ∧
      0 ≤ v.compensatedMinor ∧ 0 ≤ v.expiredMinor ∧ 0 ≤ v.remainingMinor)
    (.checkViolation "credit_grant_capacity_versions_totals_nonnegative_chk")
  require (0 ≤ v.version)
    (.checkViolation "credit_grant_capacity_versions_version_nonnegative_chk")

/-- The unique indexes of `credit_grant_capacity_versions`; NULLs are distinct. -/
def uniqueCapacityVersion (s : Db) (v : CreditGrantCapacityVersion) : Except SqlError Unit := do
  require (∀ u ∈ s.creditGrantCapacityVersions, ¬ (u.grantId = v.grantId ∧ u.version = v.version))
    (.uniqueViolation "credit_grant_capacity_versions_grant_version_uq")
  require (v.sourceEntryId.isSome → ∀ u ∈ s.creditGrantCapacityVersions,
      ¬ (u.grantId = v.grantId ∧ u.sourceEntryId = v.sourceEntryId))
    (.uniqueViolation "credit_grant_capacity_versions_source_entry_uq")
  require (v.sourceAllocationId.isSome → ∀ u ∈ s.creditGrantCapacityVersions,
      u.sourceAllocationId ≠ v.sourceAllocationId)
    (.uniqueViolation "credit_grant_capacity_versions_source_allocation_uq")
  require (v.sourceHoldId.isSome → ∀ u ∈ s.creditGrantCapacityVersions,
      ¬ (u.grantId = v.grantId ∧ u.sourceHoldId = v.sourceHoldId))
    (.uniqueViolation "credit_grant_capacity_versions_source_hold_uq")

/-- The foreign keys of `credit_grant_capacity_versions`; a NULL column refers to
nothing. -/
def foreignKeysCapacityVersion (s : Db) (v : CreditGrantCapacityVersion) :
    Except SqlError Unit := do
  require ((s.creditGrant? v.grantId).any fun g => g.tenantId = v.tenantId ∧
      g.ledgerId = v.ledgerId ∧ g.accountId = v.accountId)
    (.foreignKeyViolation "credit_grant_capacity_versions_grant_fk")
  require (v.sourceEntryId.isSome → ∃ l ∈ s.creditGrantEntries,
      l.grantId = v.grantId ∧ some l.entryId = v.sourceEntryId)
    (.foreignKeyViolation "credit_grant_capacity_versions_source_entry_fk")
  require (∀ id ∈ v.sourceAllocationId, (s.allocation? id).isSome)
    (.foreignKeyViolation
      "credit_grant_capacity_versions_source_allocation_id_credit_grant_hold_allocations_id_fk")
  require (∀ id ∈ v.sourceHoldId, (s.hold? id).isSome)
    (.foreignKeyViolation "credit_grant_capacity_versions_source_hold_id_holds_id_fk")

/-- Store a capacity version. -/
def Db.addCapacityVersion (s : Db) (row : CreditGrantCapacityVersion) : Db :=
  { s with creditGrantCapacityVersions := s.creditGrantCapacityVersions ++ [row] }

/-- `INSERT INTO credit_grant_capacity_versions` of one row. -/
def insertCapacityVersion (triggerDepth : Nat) (s : Db) (new : CreditGrantCapacityVersion) :
    Except SqlError Db := do
  let row ← rejectCreditGrantCapacityBaselineInsert s triggerDepth new
  checkCapacityVersion row
  uniqueCapacityVersion s row
  foreignKeysCapacityVersion s row
  .ok (s.addCapacityVersion row)

/-- The latest counters of a grant under the next version number, as
`append_credit_grant_capacity_version` reads them: 0 where the grant has none. -/
def carriedVersion (s : Db) (new : CreditGrantEntry) : CreditGrantCapacityVersion :=
  let previous := s.latestMinor new.tenantId new.grantId
  { tenantId := new.tenantId
    ledgerId := new.ledgerId
    accountId := new.accountId
    grantId := new.grantId
    sourceEntryId := some new.entryId
    sourceAllocationId := none
    sourceHoldId := none
    version := previous (·.version) + 1
    grantedMinor := previous (·.grantedMinor)
    reversedMinor := previous (·.reversedMinor)
    consumedMinor := previous (·.consumedMinor)
    compensatedMinor := previous (·.compensatedMinor)
    expiredMinor := previous (·.expiredMinor)
    remainingMinor := previous (·.remainingMinor)
    reservedMinor := 0 }

/-- The counters moved by the kind of a lineage row. -/
def CreditGrantCapacityVersion.move (v : CreditGrantCapacityVersion) (amount : Int) :
    CreditGrantEntryKind → CreditGrantCapacityVersion
  | .issuance =>
      { v with
        grantedMinor := v.grantedMinor + amount
        remainingMinor := v.remainingMinor + amount }
  | .reversal | .refund =>
      { v with
        reversedMinor := v.reversedMinor + amount
        remainingMinor := v.remainingMinor - amount }
  | .consumption =>
      { v with
        consumedMinor := v.consumedMinor + amount
        remainingMinor := v.remainingMinor - amount }
  | .compensation =>
      { v with
        compensatedMinor := v.compensatedMinor + amount
        remainingMinor := v.remainingMinor + amount }
  | .expiration =>
      { v with
        expiredMinor := v.expiredMinor + amount
        remainingMinor := v.remainingMinor - amount }

section Move

variable (v : CreditGrantCapacityVersion) (amount : Int) (kind : CreditGrantEntryKind)

@[simp] theorem move_tenantId : (v.move amount kind).tenantId = v.tenantId := by cases kind <;> rfl
@[simp] theorem move_grantId : (v.move amount kind).grantId = v.grantId := by cases kind <;> rfl
@[simp] theorem move_sourceEntryId : (v.move amount kind).sourceEntryId = v.sourceEntryId := by
  cases kind <;> rfl
@[simp] theorem move_sourceAllocationId :
    (v.move amount kind).sourceAllocationId = v.sourceAllocationId := by cases kind <;> rfl
@[simp] theorem move_sourceHoldId : (v.move amount kind).sourceHoldId = v.sourceHoldId := by
  cases kind <;> rfl
@[simp] theorem move_version : (v.move amount kind).version = v.version := by cases kind <;> rfl

end Move

/-- `append_credit_grant_capacity_version` (0007), AFTER INSERT on the lineage. -/
def appendCreditGrantCapacityVersion (s : Db) (new : CreditGrantEntry) : Except SqlError Db :=
  insertCapacityVersion 2 s ((carriedVersion s new).move new.amountMinor new.kind)

/-- `append_credit_grant_reservation_version` (0004): the latest counters with
the reserve moved by `delta`. -/
def appendCreditGrantReservationVersion (triggerDepth : Nat) (s : Db) (tenantId grantId : Uuid)
    (delta : Int) (allocationId holdId : Option Uuid) : Except SqlError Db := do
  raiseIf (.of (triggerDepth = 0))
    (raiseException "reservation versions require a reservation event")
  match s.latestVersion tenantId grantId with
  | none => .error (raiseException "reservation requires an issued grant")
  | some v =>
      insertCapacityVersion (triggerDepth + 1) s
        { v with
          sourceEntryId := none
          sourceAllocationId := allocationId
          sourceHoldId := holdId
          version := v.version + 1
          reservedMinor := v.reservedMinor + delta }

/-- `append_grant_allocation_reservation`, AFTER INSERT on the allocations. -/
def appendGrantAllocationReservation (s : Db) (new : CreditGrantHoldAllocation) :
    Except SqlError Db :=
  appendCreditGrantReservationVersion 1 s new.tenantId new.grantId new.amountMinor
    (some new.id) none

/-! ## What an accepted version insert does -/

/-- The CHECK constraints a stored version satisfies. -/
structure CapacityChecked (v : CreditGrantCapacityVersion) : Prop where
  remainingNonneg : 0 ≤ v.remainingMinor
  remaining : v.remainingMinor =
    v.grantedMinor + v.compensatedMinor - v.reversedMinor - v.consumedMinor - v.expiredMinor
  reservedNonneg : 0 ≤ v.reservedMinor
  reservedLe : v.reservedMinor ≤ v.remainingMinor

theorem capacityChecked_of_check {v : CreditGrantCapacityVersion}
    (h : checkCapacityVersion v = .ok ()) : CapacityChecked v := by
  simp only [checkCapacityVersion, bind_eq_ok_iff, require_eq_ok_iff, exists_const] at h
  obtain ⟨hremaining, hreserved, hnonneg, _⟩ := h
  exact ⟨hnonneg.2.2.2.2.2, hremaining, hreserved.1, hreserved.2⟩

/-- An accepted insert appends one checked row, the one the BEFORE trigger
returned. -/
theorem insertCapacityVersion_ok {triggerDepth : Nat} {s s' : Db}
    {new : CreditGrantCapacityVersion}
    (h : insertCapacityVersion triggerDepth s new = .ok s') :
    ∃ row, rejectCreditGrantCapacityBaselineInsert s triggerDepth new = .ok row ∧
      CapacityChecked row ∧ s' = s.addCapacityVersion row := by
  simp only [insertCapacityVersion, bind_eq_ok_iff] at h
  obtain ⟨row, hrow, _, hcheck, _, _, _, _, hstore⟩ := h
  exact ⟨row, hrow, capacityChecked_of_check hcheck, (Except.ok.inj hstore).symm⟩

/-- A write that is not made by another trigger is refused. -/
theorem insertCapacityVersion_direct (s : Db) (new : CreditGrantCapacityVersion) :
    ∃ e, insertCapacityVersion 1 s new = .error e := by
  obtain ⟨e, hreject⟩ : ∃ e, rejectCreditGrantCapacityBaselineInsert s 1 new = .error e := by
    rw [rejectCreditGrantCapacityBaselineInsert, raiseIf, if_pos (by simp)]
    exact ⟨_, rfl⟩
  refine ⟨e, ?_⟩
  rw [insertCapacityVersion, hreject]
  rfl

end LuxLedger.Schema
