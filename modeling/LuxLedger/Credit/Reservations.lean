/-
  Credit/Reservations.lean --- what can be reserved of an account.

  A reservation is a hold with a debit of a prepaid account, a credit of another one and
  allocations of the debit to grants.  The validator of the allocations, the lifecycle
  guard, the version table and the four deferred triggers of holds, hold entries and
  allocations let it through exactly if the allocations split the debit over live grants
  that have their part free: an account can reserve what it can spend.

  Source: `0004_grant_hold_allocations.sql`.
-/
import LuxLedger.Credit.FreeCapacity
import LuxLedger.Credit.HoldAccounting

set_option autoImplicit false

namespace LuxLedger.Credit

open LuxLedger.Schema LuxLedger.Relational

/-! ## The hold -/

/-- A hold of an amount of an account for another one, with the ids that are drawn for it; the
id of an allocation is drawn for its grant. -/
structure Reservation where
  holdId : Uuid
  reference : String
  currency : String
  description : Option String
  debitId : Uuid
  creditId : Uuid
  allocationId : Uuid → Uuid
  account : Account
  counter : Account
  amountMinor : Int
  createdAt : Timestamp

namespace Reservation

/-- The hold of the reservation. -/
def hold (r : Reservation) : Hold where
  id := r.holdId
  tenantId := r.account.tenantId
  ledgerId := r.account.ledgerId
  reference := r.reference
  currency := r.currency
  assetId := r.account.assetId
  description := r.description
  state := .held
  originalAmountMinor := r.amountMinor
  remainingAmountMinor := r.amountMinor
  createdAt := r.createdAt
  appliedAt := none
  voidedAt := none

/-- The entry of the hold on the account. -/
def debit (r : Reservation) : HoldEntry where
  id := r.debitId
  tenantId := r.account.tenantId
  holdId := r.holdId
  accountId := r.account.id
  signedAmountMinor := r.amountMinor
  assetId := r.account.assetId

/-- The entry of the hold on the other account. -/
def credit (r : Reservation) : HoldEntry where
  id := r.creditId
  tenantId := r.account.tenantId
  holdId := r.holdId
  accountId := r.counter.id
  signedAmountMinor := - r.amountMinor
  assetId := r.account.assetId

/-- The allocation of a share of the debit: the grant and its amount. -/
def allocation (r : Reservation) (share : Uuid × Int) : CreditGrantHoldAllocation where
  id := r.allocationId share.1
  tenantId := r.account.tenantId
  ledgerId := r.account.ledgerId
  accountId := r.account.id
  grantId := share.1
  holdEntryId := r.debitId
  amountMinor := share.2

/-- The database transaction that makes the hold and allocates its debit. -/
def reserve (r : Reservation) (now : Timestamp) (shares : List (Uuid × Int)) : DbTransaction where
  now := now
  statements := [.insertHolds [r.hold], .insertHoldEntries [r.debit, r.credit],
    .insertCreditGrantHoldAllocations (shares.map r.allocation)]

/-- The accounts are there, the one prepaid and the other not, and ids and reference are new. -/
structure Possible (r : Reservation) (s : Db) : Prop where
  account : r.account ∈ s.accounts
  counter : r.counter ∈ s.accounts
  enabled : r.account.grantEnabled = true
  other : r.counter.grantEnabled = false
  amountPos : 0 < r.amountMinor
  holdNew : ∀ h ∈ s.holds, h.id ≠ r.holdId
  referenceNew : ∀ h ∈ s.holds, ¬ (h.tenantId = r.account.tenantId ∧ h.reference = r.reference)
  debitNew : ∀ he ∈ s.holdEntries, he.id ≠ r.debitId
  creditNew : ∀ he ∈ s.holdEntries, he.id ≠ r.creditId
  distinct : r.debitId ≠ r.creditId
  allocationNew : ∀ a ∈ s.creditGrantHoldAllocations, ∀ g, a.id ≠ r.allocationId g
  allocationIds : Function.Injective r.allocationId

/-- The tables once the hold and its entries are in. -/
def held (r : Reservation) (s : Db) : Db :=
  { s with
    holds := s.holds ++ [r.hold]
    holdEntries := s.holdEntries ++ [r.debit, r.credit] }

/-- And some of the allocations. -/
def allocated (r : Reservation) (s : Db) (shares : List (Uuid × Int)) : Db :=
  Db.withAllocations (r.held s) (shares.map r.allocation)

end Reservation

/-! ## The validator on a share -/

section Reserve

variable {s : Db} {r : Reservation} {now : Timestamp} {share : Uuid × Int}
  {before shares : List (Uuid × Int)}

/-- A grant can back a share: it is live and has it free. -/
def Reservation.Backs (r : Reservation) (w : Purse) (now : Timestamp) (share : Uuid × Int) :
    Prop :=
  0 < share.2 ∧ ∃ g ∈ w.grants, g.id = share.1 ∧ g.tenantId = r.account.tenantId ∧
    g.accountId = r.account.id ∧ g.LiveAt now ∧ share.2 ≤ w.free g.tenantId g.id

theorem hold?_held (hr : r.Possible s) : (r.held s).hold? r.holdId = some r.hold := by
  have hnone : s.hold? r.holdId = none := lookup_eq_none_iff.mpr hr.holdNew
  exact (lookup_append_of_none hnone).trans (by simp [lookup, Reservation.hold])

theorem holdEntry?_held (hr : r.Possible s) :
    Db.holdEntry? (r.held s) r.debitId = some r.debit := by
  have hnone : s.holdEntry? r.debitId = none := lookup_eq_none_iff.mpr hr.debitNew
  exact (lookup_append_of_none hnone).trans (by simp [lookup, Reservation.debit])

theorem allocationHoldEntry?_held (hr : r.Possible s) (share : Uuid × Int) :
    Db.allocationHoldEntry? (r.held s) (r.allocation share) = some r.debit :=
  Option.filter_eq_some_iff.mpr ⟨holdEntry?_held hr, decide_eq_true rfl⟩

/-- The check of a share, whatever shares are in already. -/
theorem checkAllocation_iff (hs : Usable s) (hr : r.Possible s) :
    checkCreditGrantHoldAllocation now (r.allocated s before) (r.allocation share) = .ok () ↔
      (∀ b ∈ before, b.1 ≠ share.1) ∧ r.Backs (purse s) now share := by
  constructor
  · intro h
    obtain ⟨g, he, hold, haccepted⟩ := checkCreditGrantHoldAllocation_ok h
    have hfree : share.2 ≤ freeMinor s r.account.tenantId share.1 := haccepted.amountLe
    have hid : g.id = share.1 := key_of_lookup haccepted.grant
    have htenant : g.tenantId = r.account.tenantId := haccepted.grantTenant
    refine ⟨fun b hb hsame => ?_, haccepted.amountPos, g, mem_of_lookup haccepted.grant, hid,
      htenant, haccepted.grantAccount, haccepted.live, ?_⟩
    · exact haccepted.fresh (r.allocation b)
        (List.mem_append_right _ (List.mem_map_of_mem hb)) ⟨hsame, rfl⟩
    · rw [htenant, hid]
      exact hfree
  · rintro ⟨hnew, hpos, g, hg, hid, htenant, haccount, hlive, hfree⟩
    have hgrant : (r.allocated s before).allocationGrant? (r.allocation share) = some g := by
      have hfound : s.creditGrant? share.1 = some g := by
        rw [← hid]
        exact hs.creditGrant? hg
      refine Option.filter_eq_some_iff.mpr ⟨hfound, decide_eq_true ⟨htenant, ?_, haccount⟩⟩
      exact hs.grant_ledger hr.account hg haccount
    have hentry : Db.allocationHoldEntry? (r.allocated s before) (r.allocation share) =
        some r.debit := allocationHoldEntry?_held hr share
    have hheld : Db.heldEntry? (r.allocated s before) (r.allocation share) =
        some (r.debit, r.hold) := by
      refine heldEntry?_eq_some_iff.mpr ⟨⟨hentry, rfl⟩, ?_, rfl⟩
      exact Option.filter_eq_some_iff.mpr ⟨hold?_held hr, decide_eq_true rfl⟩
    have hamount : ¬ (r.allocated s before).latestMinor r.account.tenantId share.1
        (·.remainingMinor) - activeCreditGrantReservation (r.allocated s before)
          r.account.tenantId share.1 < share.2 := by
      rw [htenant, hid] at hfree
      exact not_lt.mpr hfree
    have hvalid : validateCreditGrantHoldAllocation (r.allocated s before) now
        (r.allocation share) = .ok () := by
      have hexpired : ∀ expiry, g.expiresAt = some expiry → now < expiry := hlive
      rw [validateCreditGrantHoldAllocation, hgrant, hheld]
      simp only [bind_eq_ok_iff, raiseIf_eq_ok_iff, exists_const, Truth.any_ne_true_iff,
        List.forall_mem_cons, ne_eq, Truth.of_eq_true_iff, not_le]
      refine ⟨⟨hr.amountPos, not_not.mpr rfl, ?_, by simp⟩, hamount⟩
      cases hexpiry : g.expiresAt with
      | none => simp [Truth.and_eq_true_iff]
      | some expiry => simpa [Truth.and_eq_true_iff] using hexpired expiry hexpiry
    have hown : (r.allocated s before).creditGrantHoldAllocations =
        s.creditGrantHoldAllocations ++ before.map r.allocation := rfl
    simp only [checkCreditGrantHoldAllocation, bind_eq_ok_iff, require_eq_ok_iff, exists_const,
      hown, List.forall_mem_append, List.forall_mem_map]
    refine ⟨(), hvalid, hpos, ⟨fun a ha => hr.allocationNew a ha share.1, fun b hb hsame => ?_⟩,
      ⟨fun a ha hsame => ?_, fun b hb hsame => hnew b hb hsame.1⟩, by rw [hgrant]; rfl, ?_⟩
    · exact hnew b hb (hr.allocationIds hsame)
    · -- the hold entry of an older allocation is older than the debit
      obtain ⟨_, he, hlink⟩ := hs.reserve.grounded.links.allocations a ha
      obtain ⟨hstored, hsameId, -⟩ := hlink.stored
      exact hr.debitNew he hstored (hsameId.trans hsame.2)
    · rw [hentry]
      simp [Reservation.debit, Reservation.allocation]

/-! ## The database transaction -/

theorem exec_hold (hs : Usable s) (hr : r.Possible s) :
    (Statement.insertHolds [r.hold]).exec now s = .ok (s.addHold r.hold) := by
  have hcheck : checkHoldInsert s r.hold = .ok () := by
    simp only [checkHoldInsert, guardHoldInsert, checkHold, bind_eq_ok_iff, require_eq_ok_iff,
      raiseIf_eq_ok_iff, exists_const, ne_eq, Truth.of_eq_true_iff]
    refine ⟨?_, ⟨⟨hr.amountPos, hr.amountPos.le, le_refl _⟩, Or.inl ⟨rfl, hr.amountPos⟩⟩,
      hr.holdNew, hr.referenceNew, hs.accounts _ hr.account⟩
    simp [Reservation.hold, hr.amountPos]
  rw [Statement.exec, insertEach_cons_eq_ok_iff]
  exact ⟨hcheck, rfl⟩

theorem exec_holdEntries (hs : Usable s) (hr : r.Possible s) :
    (Statement.insertHoldEntries [r.debit, r.credit]).exec now (s.addHold r.hold) =
      .ok (r.held s) := by
  have hfound : lookup Hold.id (s.holds ++ [r.hold]) r.holdId = some r.hold := hold?_held hr
  have hasset : s.hasAsset r.account.tenantId r.account.assetId = true := hs.accounts _ hr.account
  have haccount : (s.account? r.account.id).isSome := by
    rw [hs.account? hr.account]
    rfl
  have hcounter : (s.account? r.counter.id).isSome := by
    rw [hs.account? hr.counter]
    rfl
  have hdebit : checkHoldEntry (s.addHold r.hold) r.debit = .ok () := by
    simp only [checkHoldEntry, bind_eq_ok_iff, require_eq_ok_iff, exists_const]
    exact ⟨hr.amountPos.ne', hr.debitNew, Option.isSome_iff_exists.mpr ⟨_, hfound⟩, haccount,
      hasset⟩
  have hcredit : checkHoldEntry ((s.addHold r.hold).addHoldEntry r.debit) r.credit = .ok () := by
    simp only [checkHoldEntry, bind_eq_ok_iff, require_eq_ok_iff, exists_const]
    exact ⟨neg_ne_zero.mpr hr.amountPos.ne', forall_mem_concat hr.creditNew hr.distinct,
      Option.isSome_iff_exists.mpr ⟨_, hfound⟩, hcounter, hasset⟩
  rw [Statement.exec, insertEach_cons_eq_ok_iff, insertEach_cons_eq_ok_iff]
  refine ⟨hdebit, hcredit, ?_⟩
  simp [insertEach, Db.addHoldEntry, Db.addHold, Reservation.held]

/-- The hold and its entries are always accepted: the allocations decide. -/
theorem exec_reserve (hs : Usable s) (hr : r.Possible s) :
    (r.reserve now shares).exec s =
      (Statement.insertCreditGrantHoldAllocations (shares.map r.allocation)).exec now
        (r.held s) := by
  simp only [DbTransaction.exec, Reservation.reserve, List.foldlM_cons, List.foldlM_nil, bind_pure]
  rw [exec_hold hs hr]
  change (Statement.insertHoldEntries _).exec now (s.addHold r.hold) >>= _ = _
  rw [exec_holdEntries hs hr]
  rfl

theorem held_usable (hs : Usable s) (hr : r.Possible s) : Usable (r.held s) :=
  (hs.statement (@exec_hold s r 0 hs hr)).statement (@exec_holdEntries s r 0 hs hr)

/-- The allocations are stored exactly if their shares are of different grants, each of which can
back its share. -/
theorem exec_reserve_iff (hs : Usable s) (hr : r.Possible s) :
    (∃ s', (r.reserve now shares).exec s = .ok s') ↔
      UniqueKey Prod.fst shares ∧ ∀ share ∈ shares, r.Backs (purse s) now share := by
  rw [exec_reserve hs hr]
  have hkeys : UniqueKey CreditGrantHoldAllocation.grantId (shares.map r.allocation) ↔
      UniqueKey Prod.fst shares := by
    unfold UniqueKey
    rw [List.map_map]
    rfl
  have hrows : (∃ stored, insertEach (checkCreditGrantHoldAllocation now)
      Db.addCreditGrantHoldAllocation (shares.map r.allocation) (r.held s) = .ok stored) ↔
      UniqueKey CreditGrantHoldAllocation.grantId (shares.map r.allocation) ∧
        ∀ a ∈ shares.map r.allocation, r.Backs (purse s) now (a.grantId, a.amountMinor) := by
    refine insertEach_accepted_iff fun before a hbefore ha => ?_
    have hform : ∀ a' ∈ shares.map r.allocation,
        r.allocation (a'.grantId, a'.amountMinor) = a' := by
      intro a' ha'
      obtain ⟨share, -, rfl⟩ := List.mem_map.mp ha'
      rfl
    have hmap : (before.map fun b => (b.grantId, b.amountMinor)).map r.allocation = before := by
      rw [List.map_map]
      exact (List.map_congr_left fun b hb => hform b (hbefore b hb)).trans (List.map_id _)
    have hcheck := @checkAllocation_iff s r now (a.grantId, a.amountMinor)
      (before.map fun b => (b.grantId, b.amountMinor)) hs hr
    rw [Reservation.allocated, hmap, hform a ha] at hcheck
    rw [foldl_addCreditGrantHoldAllocation, hcheck, List.forall_mem_map]
  constructor
  · rintro ⟨s', hexec⟩
    obtain ⟨stored, hstored, -⟩ := insertRows_eq_ok_iff.mp hexec
    obtain ⟨hdistinct, hall⟩ := hrows.mp ⟨stored, hstored⟩
    exact ⟨hkeys.mp hdistinct, fun share hshare => hall _ (List.mem_map_of_mem hshare)⟩
  · rintro ⟨hdistinct, hall⟩
    obtain ⟨stored, hstored⟩ := hrows.mpr ⟨hkeys.mpr hdistinct, List.forall_mem_map.mpr hall⟩
    exact insertAllocations_accepted (held_usable hs hr).reserve (hkeys.mpr hdistinct) hstored

/-! ## The deferred triggers -/

section Deferred

variable {s' : Db} (hs : Usable s) (hr : r.Possible s)
  (hsame : SameTables (r.allocated s shares) s')
include hs hr hsame

/-- What is allocated of the debit are the shares. -/
theorem allocated_debit :
    sumWhere s'.creditGrantHoldAllocations
      (fun a => a.tenantId = r.account.tenantId ∧ a.holdEntryId = r.debitId) (·.amountMinor) =
        shareTotal shares := by
  obtain ⟨versions, rfl⟩ := hsame
  have hold : sumWhere s.creditGrantHoldAllocations
      (fun a => a.tenantId = r.account.tenantId ∧ a.holdEntryId = r.debitId) (·.amountMinor) =
        0 := by
    refine sumWhere_eq_zero fun a ha hcondition => ?_
    obtain ⟨_, he, hlink⟩ := hs.reserve.grounded.links.allocations a ha
    obtain ⟨hstored, hid, -⟩ := hlink.stored
    exact absurd (hid.trans (of_decide_eq_true hcondition).2) (hr.debitNew he hstored)
  have hnew : sumWhere (s.creditGrantHoldAllocations ++ shares.map r.allocation)
      (fun a => a.tenantId = r.account.tenantId ∧ a.holdEntryId = r.debitId) (·.amountMinor) =
        shareTotal shares := by
    rw [sumWhere_append, hold, zero_add, sumWhere_map]
    simp [sumWhere, shareTotal, Reservation.allocation]
  exact hnew

theorem grantEnabled_debit : s'.grantEnabled r.account.tenantId r.account.id = true := by
  obtain ⟨versions, rfl⟩ := hsame
  refine (Option.any_eq_true _ _).mpr ⟨r.account, hs.account? hr.account, ?_⟩
  exact decide_eq_true ⟨rfl, hr.enabled⟩

theorem assertGrantHoldAllocated_debit_iff :
    assertGrantHoldAllocated s' r.debit = .ok () ↔ shareTotal shares = r.amountMinor := by
  have henabled : s'.grantEnabled r.debit.tenantId r.debit.accountId = true :=
    grantEnabled_debit hs hr hsame
  have hallocated : sumWhere s'.creditGrantHoldAllocations
      (fun a => a.tenantId = r.debit.tenantId ∧ a.holdEntryId = r.debit.id) (·.amountMinor) =
        shareTotal shares := allocated_debit hs hr hsame
  have hpos : 0 < r.debit.signedAmountMinor := hr.amountPos
  simp only [assertGrantHoldAllocated, henabled, hallocated, if_true, bind_eq_ok_iff,
    raiseIf_eq_ok_iff, exists_const, ne_eq, Truth.of_eq_true_iff, not_le, not_not]
  exact and_iff_right hpos

theorem assertGrantHoldAllocated_credit : assertGrantHoldAllocated s' r.credit = .ok () := by
  have hother : s'.grantEnabled r.credit.tenantId r.credit.accountId = false := by
    obtain ⟨versions, rfl⟩ := hsame
    have hcounter : s.account? r.counter.id = some r.counter := hs.account? hr.counter
    change (s.account? r.counter.id).any _ = false
    rw [hcounter, Option.any_some, hr.other]
    simp
  rw [assertGrantHoldAllocated, hother]
  rfl

/-- Nothing was entered or posted for the hold before it was made. -/
theorem assertGrantHoldConsistent_held :
    assertGrantHoldConsistent s' r.account.tenantId r.holdId = .ok () := by
  have henabled : s'.grantEnabled r.account.tenantId r.account.id = true :=
    grantEnabled_debit hs hr hsame
  have hpos : 0 < r.amountMinor := hr.amountPos
  have hholdNew : ∀ id, (s.hold? id).isSome → id ≠ r.holdId := by
    intro id hfound
    obtain ⟨hold, hlookup⟩ := Option.isSome_iff_exists.mp hfound
    exact key_of_lookup hlookup ▸ hr.holdNew hold (mem_of_lookup hlookup)
  have htouches : s'.holdTouchesGrants r.account.tenantId r.holdId = true := by
    refine holdTouchesGrants_eq_true_iff.mpr ⟨r.debit, ?_, rfl, rfl, henabled⟩
    obtain ⟨versions, rfl⟩ := hsame
    exact List.mem_append_right _ List.mem_cons_self
  have hhold : s'.tenantHold? r.account.tenantId r.holdId = some r.hold := by
    obtain ⟨versions, rfl⟩ := hsame
    exact Option.filter_eq_some_iff.mpr ⟨hold?_held hr, decide_eq_true rfl⟩
  have horiginal : s'.originalLegs r.account.tenantId r.holdId =
      [(r.account.id, r.amountMinor), (r.counter.id, - r.amountMinor)] := by
    obtain ⟨versions, rfl⟩ := hsame
    have hnone : (s.holdEntries.filter fun he =>
        he.tenantId = r.account.tenantId ∧ he.holdId = r.holdId) = [] := by
      rw [List.filter_eq_nil_iff]
      intro he hhe hcondition
      exact hholdNew _ (hs.holdEntries he hhe) (of_decide_eq_true hcondition).2
    change ((s.holdEntries ++ [r.debit, r.credit]).filter _).map _ = _
    rw [List.filter_append, hnone]
    simp [Reservation.debit, Reservation.credit]
  have hposted : s'.postedLegs r.account.tenantId r.holdId = [] := by
    obtain ⟨versions, rfl⟩ := hsame
    have hnone : (s.entries.filter fun e => e.tenantId = r.account.tenantId ∧
        (s.entryTransaction? e).any fun t => t.holdId = some r.holdId) = [] := by
      rw [List.filter_eq_nil_iff]
      intro e _ hcondition
      obtain ⟨t, hfound, hid⟩ := (Option.any_eq_true _ _).mp (of_decide_eq_true hcondition).2
      have ht : t ∈ s.transactions := mem_of_lookup (Option.filter_eq_some_iff.mp hfound).1
      exact hholdNew _ (hs.transactions t ht _ (of_decide_eq_true hid)) rfl
    exact congrArg _ hnone
  refine (assertGrantHoldConsistent_eq_ok_iff htouches).mpr ⟨r.hold, hhold, ?_⟩
  rw [horiginal, hposted]
  exact
    { total := by simp [debitTotal, sumWhere, hpos, hpos.le, Reservation.hold]
      balanced := by simp [netTotal, sumWhere]
      postedBalanced := rfl
      postedLe := hpos.le
      held := fun _ => (sub_zero _).symm
      applied := fun happlied => by cases happlied
      voided := fun hvoided => by cases hvoided
      proportional := fun _ _ => by simp [sideTotal, debitTotal, sumWhere] }

theorem assertGrantAllocationTotal_share {share : Uuid × Int} (hshare : share ∈ shares)
    (htotal : shareTotal shares = r.amountMinor) :
    assertGrantAllocationTotal s' (r.allocation share) = .ok () := by
  have hallocated := allocated_debit hs hr hsame
  have hentry : s'.allocationHoldEntry? (r.allocation share) = some r.debit := by
    obtain ⟨versions, rfl⟩ := hsame
    exact allocationHoldEntry?_held hr share
  have hmem : r.allocation share ∈ s'.creditGrantHoldAllocations := by
    obtain ⟨versions, rfl⟩ := hsame
    exact List.mem_append_right _ (List.mem_map_of_mem hshare)
  have hnonempty : (s'.creditGrantHoldAllocations.filter fun a =>
      a.tenantId = (r.allocation share).tenantId ∧
        a.holdEntryId = (r.allocation share).holdEntryId).isEmpty = false := by
    rw [Bool.eq_false_iff, ne_eq, List.isEmpty_iff]
    exact List.ne_nil_of_mem (List.mem_filter.mpr ⟨hmem, by simp⟩)
  simp only [assertGrantAllocationTotal, raiseIf_eq_ok_iff, ne_eq, Truth.of_eq_true_iff, not_not,
    hnonempty, hentry, Option.map_some, Bool.false_eq_true, if_false, Option.some.injEq]
  exact hallocated.trans htotal

/-- The deferred triggers want the shares to make up the debit. -/
theorem deferred_reserve_iff :
    (∀ stmt ∈ (r.reserve now shares).statements, stmt.deferred now s' = .ok ()) ↔
      shareTotal shares = r.amountMinor := by
  have hconsistent := assertGrantHoldConsistent_held hs hr hsame
  have hdebit := assertGrantHoldAllocated_debit_iff hs hr hsame
  have hcredit := assertGrantHoldAllocated_credit hs hr hsame
  have hholds : (Statement.insertHolds [r.hold]).deferred now s' = .ok () :=
    checkEach_eq_ok_iff.mpr fun h hh => List.mem_singleton.mp hh ▸ hconsistent
  have hentries : (Statement.insertHoldEntries [r.debit, r.credit]).deferred now s' = .ok () ↔
      shareTotal shares = r.amountMinor := by
    have hlegs : assertGrantHoldConsistent s' r.debit.tenantId r.debit.holdId = .ok () ∧
        assertGrantHoldConsistent s' r.credit.tenantId r.credit.holdId = .ok () :=
      ⟨hconsistent, hconsistent⟩
    simp only [Statement.deferred, checkEach_eq_ok_iff, List.forall_mem_cons, bind_eq_ok_iff,
      exists_const, hdebit, hcredit, hlegs.1, hlegs.2, List.not_mem_nil, IsEmpty.forall_iff,
      implies_true, and_true]
  simp only [Reservation.reserve, List.forall_mem_cons, hholds, hentries, List.not_mem_nil,
    IsEmpty.forall_iff, implies_true, and_true, true_and]
  refine and_iff_left_of_imp fun htotal => checkEach_eq_ok_iff.mpr ?_
  rw [List.forall_mem_map]
  exact fun share hshare => assertGrantAllocationTotal_share hs hr hsame hshare htotal

end Deferred

section Outcome

variable {s' : Db} (hs : Usable s) (hr : r.Possible s)
  (h : (r.reserve now shares).exec s = .ok s')
include hs hr h

theorem sameTables_reserve : SameTables (r.allocated s shares) s' := by
  rw [exec_reserve hs hr] at h
  exact exec_store h

theorem reserve_usable : Usable s' := by
  rw [exec_reserve hs hr] at h
  exact (held_usable hs hr).statement h

/-- A reservation takes its shares out of what is free, and nothing else; what remains stays. -/
theorem freeMinor_reserve (t g : Uuid) :
    freeMinor s' t g =
      freeMinor s t g - if t = r.account.tenantId then shareOf shares g else 0 := by
  have hsame := sameTables_reserve hs hr h
  have hvoided : (s'.holds.filter fun h => h.state = .voided) =
      s.holds.filter fun h => h.state = .voided := by
    obtain ⟨versions, rfl⟩ := hsame
    change (s.holds ++ [r.hold]).filter _ = _
    rw [List.filter_append]
    simp [Reservation.hold]
  have hadded := @latestMinor_added now s s' [] (shares.map r.allocation) hs.reserve
    (reserve_usable hs hr h).reserve (txExec_steps h) hvoided
    (by obtain ⟨versions, rfl⟩ := hsame; exact (List.append_nil _).symm)
    (by obtain ⟨versions, rfl⟩ := hsame; rfl) t g
  have hshares : sumWhere (shares.map r.allocation) (fun a => a.tenantId = t ∧ a.grantId = g)
      (·.amountMinor) = if t = r.account.tenantId then shareOf shares g else 0 := by
    rw [sumWhere_map, shareOf]
    split_ifs with htenant
    · exact sumWhere_congr (fun share _ => by simp [Reservation.allocation, htenant])
        fun _ _ _ => rfl
    · refine sumWhere_eq_zero fun share _ hcondition => ?_
      exact absurd (of_decide_eq_true hcondition).1.symm htenant
  have hdelta : ∀ a, (allocationEvent a).delta .remaining = 0 ∧
      (allocationEvent a).delta .reserved = a.amountMinor := fun _ => ⟨rfl, rfl⟩
  have hremaining := hadded .remaining
  rw [sumWhere_nil, sumWhere_eq_zero fun a _ _ => (hdelta a).1] at hremaining
  have hreserved := hadded .reserved
  rw [sumWhere_nil, sumWhere_congr (fun _ _ => rfl) fun a _ _ => (hdelta a).2, hshares] at hreserved
  simp only [Counter.column] at hremaining hreserved
  unfold freeMinor activeCreditGrantReservation
  omega

/-- The new hold has left what was allocated to it, the others what they had. -/
theorem leftMinor_reserve (id g : Uuid) :
    leftMinor s' id g = leftMinor s id g + if id = r.holdId then shareOf shares g else 0 := by
  have hsame := sameTables_reserve hs hr h
  have hrows : s'.creditGrantEntries = s.creditGrantEntries ++ [] ∧
      s'.creditGrantHoldAllocations =
        s.creditGrantHoldAllocations ++ shares.map r.allocation := by
    obtain ⟨versions, rfl⟩ := hsame
    exact ⟨(List.append_nil _).symm, rfl⟩
  have hallocation : ∀ share, s'.allocationHoldId (r.allocation share) = some r.holdId := by
    intro share
    obtain ⟨versions, rfl⟩ := hsame
    exact congrArg (Option.map HoldEntry.holdId) (allocationHoldEntry?_held hr share)
  have hadded := uncaptured_added hs.reserve (txExec_steps h) hrows.1 hrows.2 g
  have hnone : s.hold? r.holdId = none := lookup_eq_none_iff.mpr hr.holdNew
  by_cases hid : id = r.holdId
  · subst hid
    have hfound : s'.hold? r.holdId = some r.hold := by
      obtain ⟨versions, rfl⟩ := hsame
      exact hold?_held hr
    have hbefore : uncaptured s g r.hold = 0 := by
      have hallocated : s.holdAllocated r.account.tenantId g r.holdId = 0 := by
        refine sumWhere_eq_zero fun a ha hcondition => ?_
        obtain ⟨g', he, hlink⟩ := hs.reserve.grounded.links.allocations a ha
        obtain ⟨hold, hlookup, -⟩ := hlink.hold
        have hof := (of_decide_eq_true hcondition).2.2
        rw [hlink.allocationHoldId, Option.some.injEq] at hof
        exact absurd ((key_of_lookup hlookup).trans hof) (hr.holdNew hold (mem_of_lookup hlookup))
      have hle := hs.reserve.within r.account.tenantId g r.holdId
      have hnonneg := holdConsumed_nonneg hs.reserve.grounded.links r.account.tenantId g r.holdId
      change s.holdAllocated r.account.tenantId g r.holdId -
        s.holdConsumed r.account.tenantId g r.holdId = 0
      omega
    have hshares : sumWhere (shares.map r.allocation) (fun a => a.tenantId = r.hold.tenantId ∧
        a.grantId = g ∧ s'.allocationHoldId a = some r.hold.id) (·.amountMinor) =
        shareOf shares g := by
      rw [sumWhere_map, shareOf]
      refine sumWhere_congr (fun share _ => ?_) fun _ _ _ => rfl
      exact decide_eq_decide.mpr ⟨fun h => h.2.1, fun h => ⟨rfl, h, hallocation share⟩⟩
    have hheld : r.hold.state ≠ .voided := fun hvoided => by cases hvoided
    rw [if_pos rfl, leftMinor, hfound, leftMinor, hnone]
    simp only [hheld, if_false]
    rw [hadded, hbefore, hshares, sumWhere_nil]
    omega
  · rw [if_neg hid, add_zero]
    have hlookup : s'.hold? id = s.hold? id := by
      obtain ⟨versions, rfl⟩ := hsame
      change lookup Hold.id (s.holds ++ [r.hold]) id = _
      cases hfound : s.hold? id with
      | some hold => exact lookup_append_of_some hfound
      | none =>
          rw [lookup_append_of_none hfound]
          exact lookup_eq_none_iff.mpr fun hold hmem hsame =>
            hid (List.mem_singleton.mp hmem ▸ hsame).symm
    refine leftMinor_congr hlookup g fun hold hfound => ?_
    rw [hadded, sumWhere_nil, sumWhere_eq_zero, sub_zero, add_zero]
    intro a ha hcondition
    obtain ⟨share, -, rfl⟩ := List.mem_map.mp ha
    have hof := (of_decide_eq_true hcondition).2.2
    rw [hallocation, Option.some.injEq, key_of_lookup hfound] at hof
    exact absurd hof.symm hid

theorem purse_reserve : purse s' = (purse s).setAside r.account.tenantId r.holdId shares := by
  ext t g
  · obtain ⟨versions, rfl⟩ := sameTables_reserve hs hr h
    rfl
  · exact freeMinor_reserve hs hr h t g
  · exact leftMinor_reserve hs hr h t g

end Outcome

/-! ## Reservations -/

/-- A reservation is accepted exactly if its allocations split the debit. -/
theorem commit_reserve_iff (hs : Usable s) (hr : r.Possible s) :
    (∃ s', commit s (r.reserve now shares) = .ok s') ↔
      (purse s).Split now r.account.tenantId r.account.id r.amountMinor shares := by
  constructor
  · rintro ⟨s', hcommit⟩
    obtain ⟨hexec, hdeferred⟩ := commit_eq_ok_iff.mp hcommit
    obtain ⟨hdistinct, hbacks⟩ := (exec_reserve_iff hs hr).mp ⟨s', hexec⟩
    exact ⟨hdistinct, hbacks,
      (deferred_reserve_iff hs hr (sameTables_reserve hs hr hexec)).mp hdeferred⟩
  · intro hsplit
    obtain ⟨s', hexec⟩ := (exec_reserve_iff hs hr).mpr ⟨hsplit.distinct, hsplit.free⟩
    refine ⟨s', commit_eq_ok_iff.mpr ⟨hexec, ?_⟩⟩
    exact (deferred_reserve_iff hs hr (sameTables_reserve hs hr hexec)).mpr hsplit.total

/-- In every reachable state, an account can reserve an amount exactly if its live grants have it
free together, and the shares of the amount are then set aside for the hold. -/
theorem reservable_iff {steps : List (Timestamp × Change)} (h : runChanges Db.empty steps = .ok s)
    (hr : r.Possible s) :
    ((∃ shares s', commit s (r.reserve now shares) = .ok s') ↔
      r.amountMinor ≤ (purse s).spendable now r.account.tenantId r.account.id) ∧
    ∀ shares s', commit s (r.reserve now shares) = .ok s' →
      purse s' = (purse s).setAside r.account.tenantId r.holdId shares ∧ ∀ t a,
        (purse s').spendable now t a = (purse s).spendable now t a -
          if t = r.account.tenantId ∧ a = r.account.id then r.amountMinor else 0 := by
  have hs : Usable s := runChanges_usable h
  have hw : (purse s).Sound := purse_sound hs.reserve
  refine ⟨⟨?_, fun hle => ?_⟩, fun shares s' hcommit => ?_⟩
  · rintro ⟨shares, hcommit⟩
    exact ((commit_reserve_iff hs hr).mp hcommit).le_spendable hw
  · obtain ⟨shares, hsplit⟩ := Purse.exists_split hw hr.amountPos.le hle
    exact ⟨shares, (commit_reserve_iff hs hr).mpr hsplit⟩
  · have hpurse := purse_reserve hs hr (commit_eq_ok_iff.mp hcommit).1
    refine ⟨hpurse, fun t a => ?_⟩
    rw [hpurse]
    exact ((commit_reserve_iff hs hr).mp ⟨s', hcommit⟩).spendable_take hw t a

end Reserve

namespace Sample

/-- A hold of 150 of the prepaid account. -/
def hold150 : Reservation where
  holdId := 402
  reference := "order"
  currency := "USD"
  description := none
  debitId := 502
  creditId := 503
  allocationId := fun grantId => 600 + grantId
  account := prepaid
  counter := funding
  amountMinor := 150
  createdAt := 2

end Sample

/-- The two grants of 100 can back it until the first expires. -/
theorem reservable_sample :
    (∃ shares s', commit (Sample.stateAfterSteps Sample.twoGrants)
      (Sample.hold150.reserve 2 shares) = .ok s') ∧
    ¬ ∃ shares s', commit (Sample.stateAfterSteps Sample.twoGrants)
      (Sample.hold150.reserve 50 shares) = .ok s' := by
  have hpossible : Sample.hold150.Possible (Sample.stateAfterSteps Sample.twoGrants) :=
    { account := by decide +kernel
      counter := by decide +kernel
      enabled := rfl
      other := rfl
      amountPos := by decide
      holdNew := by decide +kernel
      referenceNew := by decide +kernel
      debitNew := by decide +kernel
      creditNew := by decide +kernel
      distinct := by decide
      allocationNew := by
        have hnone : (Sample.stateAfterSteps Sample.twoGrants).creditGrantHoldAllocations = [] := by
          decide +kernel
        rw [hnone]
        exact fun a ha => absurd ha List.not_mem_nil
      allocationIds := fun g g' hsame => Nat.add_left_cancel hsame }
  have hiff := fun now => (@reservable_iff _ _ now _ (Sample.runChanges_stateAfter (by rfl))
    hpossible).1
  exact ⟨(hiff 2).mpr (by decide +kernel), fun h => absurd ((hiff 50).mp h) (by decide +kernel)⟩

end LuxLedger.Credit
