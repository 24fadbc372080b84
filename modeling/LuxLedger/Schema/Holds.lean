/-
  Schema/Holds.lean --- holds on grant-enabled accounts: the allocation of a hold
  to grants, the life of a hold, and the deferred checks of both.

  Source: `0004_grant_hold_allocations.sql`.  BEFORE triggers of one table fire in
  the order of their names.
-/
import LuxLedger.Schema.Capacity
import Mathlib.Data.List.Sort
import Mathlib.Data.Sign.Defs

set_option autoImplicit false

namespace LuxLedger.Schema

open LuxLedger.Relational

/-! ## Allocations -/

/-- The hold entry and the hold that `validate_credit_grant_hold_allocation`
selects. -/
def Db.heldEntry? (s : Db) (new : CreditGrantHoldAllocation) : Option (HoldEntry × Hold) := do
  let holdEntry ← (s.allocationHoldEntry? new).filter fun he => he.accountId = new.accountId
  let hold ← (s.holdEntryHold? holdEntry).filter fun h => h.ledgerId = new.ledgerId
  return (holdEntry, hold)

/-- The grant that `validate_credit_grant_hold_allocation` selects. -/
def Db.allocationGrant? (s : Db) (new : CreditGrantHoldAllocation) : Option CreditGrant :=
  (s.creditGrant? new.grantId).filter fun g => g.tenantId = new.tenantId ∧
    g.ledgerId = new.ledgerId ∧ g.accountId = new.accountId

/-- `validate_credit_grant_hold_allocation`, BEFORE INSERT on the allocations.
`signed_amount_minor` is NOT NULL, so `held_amount IS NULL` never applies. -/
def validateCreditGrantHoldAllocation (s : Db) (now : Timestamp)
    (new : CreditGrantHoldAllocation) : Except SqlError Unit :=
  match s.allocationGrant? new with
  | none => .error (.raised "invalid tenant-scoped allocation relationship" "LL003")
  | some grant =>
      match s.heldEntry? new with
      | none => .error (.raised "invalid tenant-scoped allocation relationship" "LL003")
      | some (holdEntry, hold) => do
          raiseIf (Truth.any [
              .of (holdEntry.signedAmountMinor ≤ 0),
              .of (hold.state ≠ .held),
              Truth.and (.of grant.expiresAt.isSome)
                (Truth.compare (· ≤ ·) grant.expiresAt (some now))])
            (raiseException "credit grant hold allocation scope is invalid")
          raiseIf (.of (s.latestMinor new.tenantId new.grantId (·.remainingMinor) -
              activeCreditGrantReservation s new.tenantId new.grantId < new.amountMinor))
            (raiseException "credit grant hold allocation exceeds eligible capacity")

/-- Everything that is checked of an allocation as it is stored. -/
def checkCreditGrantHoldAllocation (now : Timestamp) (s : Db)
    (new : CreditGrantHoldAllocation) : Except SqlError Unit := do
  validateCreditGrantHoldAllocation s now new
  require (0 < new.amountMinor)
    (.checkViolation "credit_grant_hold_allocations_amount_positive_chk")
  require (∀ a ∈ s.creditGrantHoldAllocations, a.id ≠ new.id)
    (.uniqueViolation "credit_grant_hold_allocations_pkey")
  require (∀ a ∈ s.creditGrantHoldAllocations,
      ¬ (a.grantId = new.grantId ∧ a.holdEntryId = new.holdEntryId))
    (.uniqueViolation "credit_grant_hold_allocations_grant_hold_entry_uq")
  require (s.allocationGrant? new).isSome
    (.foreignKeyViolation "credit_grant_hold_allocations_grant_fk")
  require ((s.allocationHoldEntry? new).any fun he => he.accountId = new.accountId)
    (.foreignKeyViolation "credit_grant_hold_allocations_hold_entry_fk")

/-- What is known of an accepted allocation. -/
structure AcceptedAllocation (now : Timestamp) (s : Db) (new : CreditGrantHoldAllocation)
    (g : CreditGrant) (he : HoldEntry) (h : Hold) : Prop where
  grant : s.creditGrant? new.grantId = some g
  grantTenant : g.tenantId = new.tenantId
  grantAccount : g.accountId = new.accountId
  holdEntry : s.allocationHoldEntry? new = some he
  holdEntryAccount : he.accountId = new.accountId
  hold : s.holdEntryHold? he = some h
  debit : 0 < he.signedAmountMinor
  held : h.state = .held
  live : ∀ expiry ∈ g.expiresAt, now < expiry
  amountLe : new.amountMinor ≤ s.latestMinor new.tenantId new.grantId (·.remainingMinor) -
    activeCreditGrantReservation s new.tenantId new.grantId
  amountPos : 0 < new.amountMinor
  freshId : ∀ a ∈ s.creditGrantHoldAllocations, a.id ≠ new.id
  fresh : ∀ a ∈ s.creditGrantHoldAllocations,
    ¬ (a.grantId = new.grantId ∧ a.holdEntryId = new.holdEntryId)

theorem heldEntry?_eq_some_iff {s : Db} {new : CreditGrantHoldAllocation} {holdEntry : HoldEntry}
    {hold : Hold} :
    s.heldEntry? new = some (holdEntry, hold) ↔
      (s.allocationHoldEntry? new = some holdEntry ∧ holdEntry.accountId = new.accountId) ∧
        s.holdEntryHold? holdEntry = some hold ∧ hold.ledgerId = new.ledgerId := by
  simp only [Db.heldEntry?, Option.bind_eq_bind, Option.bind_eq_some_iff, Option.pure_def,
    Option.some.injEq, Option.filter_eq_some_iff, decide_eq_true_eq, Prod.mk.injEq]
  constructor
  · rintro ⟨he, hentry, h, hhold, rfl, rfl⟩
    exact ⟨hentry, hhold⟩
  · rintro ⟨hentry, hhold⟩
    exact ⟨holdEntry, hentry, hold, hhold, rfl, rfl⟩

theorem checkCreditGrantHoldAllocation_ok {now : Timestamp} {s : Db}
    {new : CreditGrantHoldAllocation} (h : checkCreditGrantHoldAllocation now s new = .ok ()) :
    ∃ grant holdEntry hold, AcceptedAllocation now s new grant holdEntry hold := by
  simp only [checkCreditGrantHoldAllocation, bind_eq_ok_iff, require_eq_ok_iff,
    exists_const] at h
  obtain ⟨⟨⟩, hvalid, hpos, hid, hfresh, -, -⟩ := h
  unfold validateCreditGrantHoldAllocation at hvalid
  cases hgrant : s.allocationGrant? new with
  | none =>
      rw [hgrant] at hvalid
      cases hvalid
  | some grant =>
      rw [hgrant] at hvalid
      cases hheld : s.heldEntry? new with
      | none =>
          rw [hheld] at hvalid
          cases hvalid
      | some found =>
          obtain ⟨holdEntry, hold⟩ := found
          simp only [hheld, bind_eq_ok_iff, raiseIf_eq_ok_iff, exists_const,
            Truth.any_ne_true_iff, List.forall_mem_cons, ne_eq, Truth.of_eq_true_iff, not_le,
            not_lt, not_not] at hvalid
          obtain ⟨⟨hdebit, hstate, hlive, -⟩, hle⟩ := hvalid
          simp only [Db.allocationGrant?, Option.filter_eq_some_iff, decide_eq_true_eq] at hgrant
          obtain ⟨⟨hentry, haccount⟩, hhold, -⟩ := heldEntry?_eq_some_iff.mp hheld
          refine ⟨grant, holdEntry, hold, hgrant.1, hgrant.2.1, hgrant.2.2.2, hentry, haccount,
            hhold, hdebit, hstate, ?_, hle, hpos, hid, hfresh⟩
          intro expiry hexpiry
          rw [Option.mem_def.mp hexpiry] at hlive
          simpa [Truth.and_eq_true_iff] using hlive

/-- Store an allocation. -/
def Db.addCreditGrantHoldAllocation (s : Db) (new : CreditGrantHoldAllocation) : Db :=
  { s with creditGrantHoldAllocations := s.creditGrantHoldAllocations ++ [new] }

/-- `INSERT INTO credit_grant_hold_allocations VALUES …`. -/
def storeCreditGrantHoldAllocations (now : Timestamp) (rows : List CreditGrantHoldAllocation)
    (s : Db) : Except SqlError Db :=
  insertRows (checkCreditGrantHoldAllocation now) Db.addCreditGrantHoldAllocation
    appendGrantAllocationReservation rows s

/-! ## The life of a hold -/

/-- The INSERT branch of `guard_hold_lifecycle`. -/
def guardHoldInsert (new : Hold) : Except SqlError Unit :=
  raiseIf (.of (new.state ≠ .held ∨ new.originalAmountMinor ≤ 0 ∨
      new.remainingAmountMinor ≠ new.originalAmountMinor ∨
      new.appliedAt.isSome ∨ new.voidedAt.isSome))
    (.raised "hold must start with its full reservation" "LL001")

/-- The columns of a hold that no UPDATE may change. -/
structure HoldIdentity where
  id : Uuid
  tenantId : Uuid
  ledgerId : Uuid
  assetId : Uuid
  currency : String
  reference : String
  description : Option String
  originalAmountMinor : Int
  createdAt : Timestamp
  deriving DecidableEq, Repr

/-- `(id, tenant_id, …, created_at)` of a hold. -/
def Hold.identity (h : Hold) : HoldIdentity :=
  ⟨h.id, h.tenantId, h.ledgerId, h.assetId, h.currency, h.reference, h.description,
    h.originalAmountMinor, h.createdAt⟩

/-- The UPDATE branch of `guard_hold_lifecycle`: one forward transition of a HELD
hold. -/
def guardHoldUpdate (old new : Hold) : Except SqlError Unit := do
  raiseIf (.of (new.identity ≠ old.identity)) (.raised "hold identity is immutable" "LL001")
  raiseIf (.of (old.state ≠ .held)) (.raised "finalized hold cannot transition" "LL001")
  if new.state = .held ∧ 0 < new.remainingAmountMinor ∧
      new.remainingAmountMinor < old.remainingAmountMinor ∧
      new.appliedAt = none ∧ new.voidedAt = none then .ok ()
  else if new.state = .applied ∧ new.remainingAmountMinor = 0 ∧
      new.appliedAt.isSome ∧ new.voidedAt = none then .ok ()
  else if new.state = .voided ∧ new.remainingAmountMinor = 0 ∧
      new.appliedAt = none ∧ new.voidedAt.isSome then .ok ()
  else .error (.raised "invalid hold lifecycle transition" "LL001")

/-- The transitions `guard_hold_lifecycle` lets through. -/
structure HoldTransition (old new : Hold) : Prop where
  identity : new.identity = old.identity
  held : old.state = .held
  forward : (new.state = .held ∧ 0 < new.remainingAmountMinor ∧
      new.remainingAmountMinor < old.remainingAmountMinor) ∨
    (new.state = .applied ∧ new.remainingAmountMinor = 0) ∨
    (new.state = .voided ∧ new.remainingAmountMinor = 0)

theorem guardHoldUpdate_ok {old new : Hold} (h : guardHoldUpdate old new = .ok ()) :
    HoldTransition old new := by
  simp only [guardHoldUpdate, bind_eq_ok_iff, raiseIf_eq_ok_iff, exists_const, ne_eq,
    Truth.of_eq_true_iff, not_not] at h
  obtain ⟨hidentity, hheld, hforward⟩ := h
  refine ⟨hidentity, hheld, ?_⟩
  split at hforward
  · rename_i hless
    exact Or.inl ⟨hless.1, hless.2.1, hless.2.2.1⟩
  · split at hforward
    · rename_i happlied
      exact Or.inr (Or.inl ⟨happlied.1, happlied.2.1⟩)
    · split at hforward
      · rename_i hvoided
        exact Or.inr (Or.inr ⟨hvoided.1, hvoided.2.1⟩)
      · cases hforward

/-- `ASC NULLS LAST`. -/
def compareExpiry : Option Timestamp → Option Timestamp → Ordering
  | some a, some b => compare a b
  | some _, none => .lt
  | none, some _ => .gt
  | none, none => .eq

/-- `ORDER BY g.account_id, g.expires_at ASC NULLS LAST, g.created_at, g.id`. -/
def finalizationOrder (g g' : CreditGrant) : Bool :=
  ((compare g.accountId g'.accountId).then <| (compareExpiry g.expiresAt g'.expiresAt).then <|
    (compare g.createdAt g'.createdAt).then <| compare g.id g'.id).isLE

/-- The grants that a hold has allocations from, in the order they are visited. -/
def Db.grantsOfHold (s : Db) (tenantId holdId : Uuid) : List CreditGrant :=
  (s.creditGrants.filter fun g => g.tenantId = tenantId ∧
    s.creditGrantHoldAllocations.any fun a => a.tenantId = tenantId ∧ a.grantId = g.id ∧
      s.allocationHoldId a = some holdId).insertionSort
    fun g g' => finalizationOrder g g' = true

/-- The loop body of `release_grant_hold_reservations`. -/
def releaseGrant (old : Hold) (s : Db) (grant : CreditGrant) : Except SqlError Db := do
  let allocated := s.holdAllocated old.tenantId grant.id old.id
  let consumed := s.holdConsumed old.tenantId grant.id old.id
  raiseIf (.of (allocated < consumed))
    (.raised "allocated hold finalization does not match consumption" "LL001")
  if allocated > consumed then
    appendCreditGrantReservationVersion 1 s old.tenantId grant.id (consumed - allocated)
      none (some old.id)
  else .ok s

/-- `release_grant_hold_reservations`, BEFORE UPDATE on the holds. -/
def releaseGrantHoldReservations (s : Db) (old new : Hold) : Except SqlError Db :=
  if ¬ s.creditGrantHoldAllocations.any fun a =>
      a.tenantId = old.tenantId ∧ s.allocationHoldId a = some old.id then .ok s
  else if new.state ≠ .voided then .ok s
  else (s.grantsOfHold old.tenantId old.id).foldlM (releaseGrant old) s

/-- The CHECK constraints of `holds`. -/
def checkHold (h : Hold) : Except SqlError Unit := do
  require (0 < h.originalAmountMinor ∧ 0 ≤ h.remainingAmountMinor ∧
      h.remainingAmountMinor ≤ h.originalAmountMinor)
    (.checkViolation "holds_amounts_chk")
  require ((h.state = .held ∧ 0 < h.remainingAmountMinor) ∨
      ((h.state = .applied ∨ h.state = .voided) ∧ h.remainingAmountMinor = 0))
    (.checkViolation "holds_state_amount_chk")

/-- Store the new version of a hold. -/
def Db.replaceHold (s : Db) (new : Hold) : Db :=
  { s with holds := s.holds.map fun h => if h.id = new.id then new else h }

/-- One row of an UPDATE of `holds`: the row it selects by `id` takes the value
`new`. -/
def updateHold (s : Db) (change : Uuid × Hold) : Except SqlError Db :=
  match s.hold? change.1 with
  | none => .error .noDataFound
  | some old => do
      guardHoldUpdate old change.2
      let released ← releaseGrantHoldReservations s old change.2
      checkHold change.2
      .ok (released.replaceHold change.2)

/-! ## Deferred constraint triggers -/

/-- `assert_grant_hold_allocated`, deferred on INSERT of hold entries. -/
def assertGrantHoldAllocated (s : Db) (new : HoldEntry) : Except SqlError Unit :=
  if s.grantEnabled new.tenantId new.accountId then do
    raiseIf (.of (new.signedAmountMinor ≤ 0))
      (raiseException "grant-enabled account hold requires debit grant allocation")
    let allocated := sumWhere s.creditGrantHoldAllocations
      (fun a => a.tenantId = new.tenantId ∧ a.holdEntryId = new.id) (·.amountMinor)
    raiseIf (.of (allocated ≠ new.signedAmountMinor))
      (raiseException "grant-enabled account hold requires complete grant allocation")
  else .ok ()

/-- `assert_grant_allocation_total`, deferred on INSERT of allocations: `sum` over
no row is NULL, and `IS DISTINCT FROM` compares NULLs as values. -/
def assertGrantAllocationTotal (s : Db) (new : CreditGrantHoldAllocation) :
    Except SqlError Unit :=
  let heldAmount : Option Int := (s.allocationHoldEntry? new).map (·.signedAmountMinor)
  let allocations := s.creditGrantHoldAllocations.filter fun a =>
    a.tenantId = new.tenantId ∧ a.holdEntryId = new.holdEntryId
  let allocated : Option Int := if allocations.isEmpty then none
    else some (allocations.map (·.amountMinor)).sum
  raiseIf (.of (allocated ≠ heldAmount))
    (raiseException "grant hold allocation total must match immutable hold entry")

/-- A posting leg: an account and a signed amount. -/
abbrev Leg : Type := Uuid × Int

/-- The legs of a hold. -/
def Db.originalLegs (s : Db) (tenantId holdId : Uuid) : List Leg :=
  (s.holdEntries.filter fun he => he.tenantId = tenantId ∧ he.holdId = holdId).map
    fun he => (he.accountId, he.signedAmountMinor)

/-- The legs that the transactions carrying a hold have posted. -/
def Db.postedLegs (s : Db) (tenantId holdId : Uuid) : List Leg :=
  (s.entries.filter fun e => e.tenantId = tenantId ∧
    (s.entryTransaction? e).any fun t => t.holdId = some holdId).map
    fun e => (e.accountId, e.signedAmountMinor)

/-- `sum(signed_amount_minor) FILTER (WHERE signed_amount_minor > 0)`. -/
def debitTotal (legs : List Leg) : Int := sumWhere legs (fun l => 0 < l.2) (·.2)

/-- `sum(signed_amount_minor)`. -/
def netTotal (legs : List Leg) : Int := sumWhere legs (fun _ => true) (·.2)

/-- `sum(abs(signed_amount_minor))` of the group of an account and a sign. -/
def sideTotal (legs : List Leg) (account : Uuid) (side : SignType) : Int :=
  sumWhere legs (fun l => l.1 = account ∧ SignType.sign l.2 = side) (fun l => |l.2|)

/-- Some entry of the hold is on a grant-enabled account. -/
def Db.holdTouchesGrants (s : Db) (tenantId holdId : Uuid) : Bool :=
  s.holdEntries.any fun he => he.tenantId = tenantId ∧ he.holdId = holdId ∧
    s.grantEnabled he.tenantId he.accountId

/-- The hold that `assert_grant_hold_consistent` selects. -/
def Db.tenantHold? (s : Db) (tenantId holdId : Uuid) : Option Hold :=
  (s.hold? holdId).filter fun h => h.tenantId = tenantId

/-- `assert_grant_hold_consistent`. -/
def assertGrantHoldConsistent (s : Db) (tenantId holdId : Uuid) : Except SqlError Unit :=
  if ¬ s.holdTouchesGrants tenantId holdId then .ok ()
  else
    match s.tenantHold? tenantId holdId with
    | none => .error .noDataFound
    | some h => do
        let original := s.originalLegs tenantId holdId
        let posted := s.postedLegs tenantId holdId
        let initial := debitTotal original
        raiseIf (.of (initial ≠ h.originalAmountMinor ∨ netTotal original ≠ 0))
          (.raised "hold entries do not match original amount" "LL001")
        let committed := debitTotal posted
        raiseIf (.of (netTotal posted ≠ 0 ∨ committed > initial ∨
            (h.state = .held ∧ h.remainingAmountMinor ≠ initial - committed) ∨
            (h.state = .applied ∧ committed ≠ initial) ∨
            (h.state = .voided ∧ committed ≥ initial)))
          (.raised "hold amounts disagree with committed postings" "LL001")
        -- the FULL JOIN has one row for each account and sign of either side
        raiseIf (.of (∃ leg ∈ original ++ posted,
            sideTotal posted leg.1 (SignType.sign leg.2) * initial ≠
              sideTotal original leg.1 (SignType.sign leg.2) * committed))
          (.raised "hold posting proportions do not match original entries" "LL001")

/-- `check_grant_hold_consistency` on `entries`: the hold is that of the entry's
transaction. -/
def checkPostingHold (s : Db) (new : Entry) : Except SqlError Unit :=
  match (s.entryTransaction? new).bind (·.holdId) with
  | none => .ok ()
  | some linkedHold => assertGrantHoldConsistent s new.tenantId linkedHold

end LuxLedger.Schema
