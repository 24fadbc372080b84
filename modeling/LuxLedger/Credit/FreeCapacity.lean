/-
  Credit/FreeCapacity.lean --- the purse that the tables hold.

  Free of a grant is what remains and is not reserved; a hold that was not voided has left
  of a grant what was allocated and not captured.  In every reachable state nothing of it
  is overdrawn.  Rows that are added move the counters of their grants by their events, and
  of no other grant.
-/
import LuxLedger.Credit.Purse
import LuxLedger.Credit.VersionGuards

set_option autoImplicit false

namespace LuxLedger.Credit

open LuxLedger.Schema LuxLedger.Relational

/-! ## Rows that others refer to -/

/-- Accounts have their asset, grants an account of their ledger, transactions and hold entries
their hold. -/
structure Anchored (s : Db) : Prop where
  accounts : ∀ a ∈ s.accounts, s.hasAsset a.tenantId a.assetId = true
  grants : ∀ g ∈ s.creditGrants, s.hasAccount g.tenantId g.ledgerId g.accountId = true
  transactions : ∀ t ∈ s.transactions, ∀ id ∈ t.holdId, (s.hold? id).isSome
  holdEntries : ∀ he ∈ s.holdEntries, (s.hold? he.holdId).isSome

theorem Anchored.empty : Anchored Db.empty := by
  constructor <;> intro _ h <;> cases h

section Anchored

variable {now : Timestamp} {s s' : Db}

theorem hold?_extends (hext : Extends s s') {id : Uuid} (h : (s.hold? id).isSome) :
    (s'.hold? id).isSome := by
  obtain ⟨hold, hfound⟩ := Option.isSome_iff_exists.mp h
  obtain ⟨hold', hfound', -⟩ := hext.holds id hold hfound
  exact Option.isSome_iff_exists.mpr ⟨hold', hfound'⟩

theorem RowStep.anchored (h : RowStep now s s') (hs : Anchored s) : Anchored s' := by
  have hext : Extends s s' := h.extends
  have haccounts : ∀ a ∈ s.accounts, s'.hasAsset a.tenantId a.assetId = true := fun a ha =>
    hasAsset_of_grown h.assets (hs.accounts a ha)
  have hgrants : ∀ g ∈ s.creditGrants, s'.hasAccount g.tenantId g.ledgerId g.accountId = true :=
    fun g hg => hasAccount_extends hext (hs.grants g hg)
  have htransactions : ∀ t ∈ s.transactions, ∀ id ∈ t.holdId, (s'.hold? id).isSome :=
    fun t ht id hid => hold?_extends hext (hs.transactions t ht id hid)
  have hholdEntries : ∀ he ∈ s.holdEntries, (s'.hold? he.holdId).isSome :=
    fun he hhe => hold?_extends hext (hs.holdEntries he hhe)
  cases h with
  | account check =>
      refine ⟨forall_mem_concat haccounts ?_, hgrants, htransactions, hholdEntries⟩
      simp only [checkAccount, bind_eq_ok_iff, require_eq_ok_iff] at check
      obtain ⟨⟨⟩, -, ⟨⟩, -, hasset⟩ := check
      exact hasset
  | creditGrant check =>
      refine ⟨haccounts, forall_mem_concat hgrants ?_, htransactions, hholdEntries⟩
      simp only [checkCreditGrant, bind_eq_ok_iff, require_eq_ok_iff] at check
      obtain ⟨⟨⟩, -, ⟨⟩, -, ⟨⟩, -, ⟨⟩, -, ⟨⟩, -, ⟨⟩, haccount, -⟩ := check
      exact haccount
  | transaction check =>
      refine ⟨haccounts, hgrants, forall_mem_concat htransactions ?_, hholdEntries⟩
      simp only [checkTransaction, bind_eq_ok_iff, require_eq_ok_iff] at check
      obtain ⟨⟨⟩, -, ⟨⟩, -, ⟨⟩, -, ⟨⟩, hhold, -⟩ := check
      exact hhold
  | holdEntry check =>
      refine ⟨haccounts, hgrants, htransactions, forall_mem_concat hholdEntries ?_⟩
      simp only [checkHoldEntry, bind_eq_ok_iff, require_eq_ok_iff] at check
      obtain ⟨⟨⟩, -, ⟨⟩, -, ⟨⟩, hhold, -⟩ := check
      exact hhold
  | _ => exact ⟨haccounts, hgrants, htransactions, hholdEntries⟩

theorem finish_checked (h : s.finish = .ok s') : checkReferences s' = .ok () := by
  simp only [Db.finish, bind_eq_ok_iff, pure_eq_ok_iff] at h
  obtain ⟨⟨⟩, hchecked, rfl⟩ := h
  exact hchecked

/-- An edit ends with all foreign keys checked, or leaves the tables as they were. -/
theorem edit_checked {e : Edit} (h : e.exec s = .ok s') :
    s' = s ∨ checkReferences s' = .ok () := by
  cases e with
  | creditGrants e => exact Or.inl (rejectEdit_ok h)
  | creditGrantEntries e => exact Or.inl (rejectEdit_ok h)
  | deleteHolds ids => exact Or.inl (deleteHolds_ok h)
  | allocations e => exact Or.inl (rejectEdit_ok h)
  | assets e | entries e | holdEntries e =>
      simp only [Edit.exec, bind_eq_ok_iff] at h
      obtain ⟨_, -, hfinish⟩ := h
      exact Or.inr (finish_checked hfinish)
  | accounts e =>
      simp only [Edit.exec, bind_eq_ok_iff] at h
      obtain ⟨_, -, _, -, _, -, hfinish⟩ := h
      exact Or.inr (finish_checked hfinish)
  | transactions e =>
      simp only [Edit.exec, bind_eq_ok_iff] at h
      obtain ⟨_, -, _, -, _, -, _, -, hfinish⟩ := h
      exact Or.inr (finish_checked hfinish)

theorem edit_anchored {e : Edit} (hs : Anchored s) (h : e.exec s = .ok s') : Anchored s' := by
  rcases edit_checked h with rfl | hchecked
  · exact hs
  · simp only [checkReferences, bind_eq_ok_iff, require_eq_ok_iff] at hchecked
    obtain ⟨⟨⟩, haccounts, ⟨⟩, hgrants, ⟨⟩, -, ⟨⟩, -, ⟨⟩, -, ⟨⟩, -, ⟨⟩, -, ⟨⟩, -, ⟨⟩, -,
      ⟨⟩, hholdEntries, ⟨⟩, -, ⟨⟩, -, ⟨⟩, -, ⟨⟩, htransactions, -⟩ := hchecked
    exact ⟨haccounts, hgrants, htransactions, hholdEntries⟩

end Anchored

/-- What holds in every state that accepted statements of any kind lead to. -/
structure Usable (s : Db) : Prop extends Anchored s where
  reserve : ReserveInvariant s

theorem Usable.statement {now : Timestamp} {s s' : Db} {stmt : Statement} (hs : Usable s)
    (h : stmt.exec now s = .ok s') : Usable s' :=
  ⟨(exec_steps h).preserves (fun _ _ => RowStep.anchored) hs.toAnchored,
    statement_reserveInvariant hs.reserve h⟩

theorem runChanges_usable {steps : List (Timestamp × Change)} {s : Db}
    (h : runChanges Db.empty steps = .ok s) : Usable s := by
  refine run_invariant (P := Usable) ⟨Anchored.empty, ReserveInvariant.empty⟩
    (fun s₁ step s₂ hexec hs => ?_) h
  obtain ⟨now, change⟩ := step
  cases change with
  | statement stmt => exact hs.statement hexec
  | edit e => exact ⟨edit_anchored hs.toAnchored hexec, edit_reserveInvariant hs.reserve hexec⟩

theorem commit_usable {s s' : Db} {tx : DbTransaction} (hs : Usable s)
    (h : commit s tx = .ok s') : Usable s' :=
  foldlM_preserves (fun _ _ _ _ hexec hmid => hmid.statement hexec) (commit_eq_ok_iff.mp h).1 hs

theorem replay_usable {log : List DbTransaction} {s : Db} (h : replay log = .ok s) : Usable s :=
  run_invariant (P := Usable) ⟨Anchored.empty, ReserveInvariant.empty⟩
    (fun _ _ _ hcommit hs => commit_usable hs hcommit) h

section Usable

variable {s : Db} (hs : Usable s)
include hs

theorem Usable.account? {a : Account} (ha : a ∈ s.accounts) : s.account? a.id = some a :=
  lookup_key hs.reserve.grounded.keys.accounts ha

theorem Usable.creditGrant? {g : CreditGrant} (hg : g ∈ s.creditGrants) :
    s.creditGrant? g.id = some g :=
  lookup_key hs.reserve.grounded.keys.creditGrants hg

/-- A grant is of the ledger of its account. -/
theorem Usable.grant_ledger {a : Account} (ha : a ∈ s.accounts) {g : CreditGrant}
    (hg : g ∈ s.creditGrants) (haccount : g.accountId = a.id) : g.ledgerId = a.ledgerId := by
  obtain ⟨a', ha', hscope⟩ := (Option.any_eq_true _ _).mp (hs.grants g hg)
  rw [haccount, hs.account? ha, Option.some.injEq] at ha'
  subst ha'
  exact (of_decide_eq_true hscope).2.symm

end Usable

/-! ## Free capacity -/

/-- What remains of a grant and is not reserved. -/
def freeMinor (s : Db) (tenantId grantId : Uuid) : Int :=
  s.latestMinor tenantId grantId (·.remainingMinor) -
    activeCreditGrantReservation s tenantId grantId

/-- What a hold has left of a grant: a voided one has nothing. -/
def leftMinor (s : Db) (holdId grantId : Uuid) : Int :=
  match s.hold? holdId with
  | none => 0
  | some hold => if hold.state = .voided then 0 else uncaptured s grantId hold

/-- The purse of the tables. -/
def purse (s : Db) : Purse where
  grants := s.creditGrants
  free := freeMinor s
  left := leftMinor s

theorem freeMinor_nonneg {s : Db} (hs : ReserveInvariant s) (t g : Uuid) :
    0 ≤ freeMinor s t g :=
  sub_nonneg.mpr (countersChecked hs t g).reservedLe

theorem leftMinor_nonneg {s : Db} (hs : ReserveInvariant s) (h g : Uuid) :
    0 ≤ leftMinor s h g := by
  unfold leftMinor
  split
  · exact le_refl 0
  · split
    · exact le_refl 0
    · exact sub_nonneg.mpr (hs.within _ _ _)

theorem purse_sound {s : Db} (hs : ReserveInvariant s) : (purse s).Sound where
  once := hs.grounded.keys.creditGrants
  free := freeMinor_nonneg hs
  left := leftMinor_nonneg hs

/-- A hold that is not voided has left what was not captured of its allocations. -/
theorem leftMinor_of_mem {s : Db} (hs : ReserveInvariant s) {hold : Hold} (hhold : hold ∈ s.holds)
    (hstate : hold.state ≠ .voided) (g : Uuid) : leftMinor s hold.id g = uncaptured s g hold := by
  rw [leftMinor, hold?_of_mem hs.grounded hhold]
  exact if_neg hstate

/-! ## Rows that are added -/

section Added

variable {now : Timestamp} {s s' : Db} {rows : List CreditGrantEntry}
  {allocations : List CreditGrantHoldAllocation}

/-- Added rows move each counter of a grant by the events of the rows of the grant. -/
theorem latestMinor_added (hs : ReserveInvariant s) (hs' : ReserveInvariant s')
    (hsteps : RowSteps now s s')
    (hvoided : (s'.holds.filter fun h => h.state = .voided) =
      s.holds.filter fun h => h.state = .voided)
    (hrows : s'.creditGrantEntries = s.creditGrantEntries ++ rows)
    (hallocations : s'.creditGrantHoldAllocations = s.creditGrantHoldAllocations ++ allocations)
    (t g : Uuid) (c : Counter) :
    s'.latestMinor t g c.column = s.latestMinor t g c.column +
      (sumWhere rows (fun l => l.tenantId = t ∧ l.grantId = g)
          (fun l => (lineageEvent s' l).delta c) +
        sumWhere allocations (fun a => a.tenantId = t ∧ a.grantId = g)
          (fun a => (allocationEvent a).delta c)) := by
  rw [hs'.tracks.latestMinor, hs.tracks.latestMinor,
    balance_perm (capacityEvents_extends hs.grounded hsteps hvoided hrows hallocations t g),
    balance_append, balance_append, balance_map_filter, balance_map_filter]

/-- And what a hold has not captured, by the allocations to it and the captures of it. -/
theorem uncaptured_added (hs : ReserveInvariant s) (hsteps : RowSteps now s s')
    (hrows : s'.creditGrantEntries = s.creditGrantEntries ++ rows)
    (hallocations : s'.creditGrantHoldAllocations = s.creditGrantHoldAllocations ++ allocations)
    (g : Uuid) (hold : Hold) :
    uncaptured s' g hold = uncaptured s g hold +
      (sumWhere allocations (fun a => a.tenantId = hold.tenantId ∧ a.grantId = g ∧
        s'.allocationHoldId a = some hold.id) (·.amountMinor) -
      sumWhere rows (fun l => l.tenantId = hold.tenantId ∧ l.grantId = g ∧
        l.kind = .consumption ∧ s'.lineageHoldId l = some hold.id) (·.amountMinor)) := by
  have hext : Extends s s' := hsteps.extends
  rw [uncaptured, uncaptured, holdAllocated_extends hs.grounded.links hext hallocations,
    holdConsumed_extends hs.grounded.links hext hrows]
  omega

end Added

/-- A hold that is the same row, and of which nothing was allocated or captured, has left what it
had. -/
theorem leftMinor_congr {s s' : Db} {h : Uuid} (hsame : s'.hold? h = s.hold? h) (g : Uuid)
    (hleft : ∀ hold, s.hold? h = some hold → uncaptured s' g hold = uncaptured s g hold) :
    leftMinor s' h g = leftMinor s h g := by
  unfold leftMinor
  rw [hsame]
  cases hfound : s.hold? h with
  | none => rfl
  | some hold => simp only [hleft hold hfound]

namespace Sample

/-- The account with the grants. -/
def prepaid : Account := ⟨10, 1, 5, .credit, .disallow, 1, true⟩

/-- The account that funds them. -/
def funding : Account := ⟨11, 1, 5, .debit, .allow, 1, false⟩

/-- Two grants of 100, the one until 50 and the other for ever. -/
def twoGrants : List (Timestamp × Change) :=
  (accounts ++ issuance 0 (some 50) ++ issuance 1 none).map fun stmt => (1, .statement stmt)

end Sample

end LuxLedger.Credit
