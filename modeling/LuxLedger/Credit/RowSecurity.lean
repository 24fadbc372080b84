/-
  Credit/RowSecurity.lean --- row-level security decides nothing but whose rows are
  written.

  The triggers of a session read only what its role sees.  Still every one of them
  decides as it would on the whole database, since its queries keep to the tenant of
  the row.  A session confined to a tenant so commits the transactions of that tenant
  that the unrestricted database accepts, and no others.
-/
import LuxLedger.Credit.TenantRows
import LuxLedger.Relational.Simulation

set_option autoImplicit false

namespace LuxLedger.Credit

open LuxLedger.Schema LuxLedger.Relational

/-- A session of a tenant, to which every policy applies. -/
structure Confined (role : SessionRole) (t : Uuid) : Prop where
  bypasses : role.bypasses = false
  owns : role.owns = false
  tenant : role.tenant = some t

/-- The accepted change of a hold, step by step. -/
theorem updateHold_eq_ok_iff {s s' : Db} {change : Uuid × Hold} :
    updateHold s change = .ok s' ↔ ∃ old, guardHoldUpdate old change.2 = .ok () ∧
      s.hold? change.1 = some old ∧ ∃ released,
        releaseGrantHoldReservations s old change.2 = .ok released ∧
          checkHold change.2 = .ok () ∧ released.replaceHold change.2 = s' := by
  unfold updateHold
  cases s.hold? change.1 with
  | none => simp
  | some old => simp [Unique.exists_iff]

/-- The same for a session, which has to see the hold. -/
theorem updateHoldAs_eq_ok_iff {role : SessionRole} {s s' : Db} {change : Uuid × Hold} :
    updateHoldAs role s change = .ok s' ↔ ∃ old, guardHoldUpdate old change.2 = .ok () ∧
      (s.visible role).hold? change.1 = some old ∧ ∃ released,
        releaseGrantHoldReservationsAs role s old change.2 = .ok released ∧
          role.withCheck .holds change.2.tenantId = .ok () ∧
            checkHold change.2 = .ok () ∧ released.replaceHold change.2 = s' := by
  unfold updateHoldAs
  cases (s.visible role).hold? change.1 with
  | none => simp
  | some old => simp [Unique.exists_iff]

/-- An INSERT whose rows are checked alike. -/
theorem insertEach_as_iff {ρ : Type} {check checkAs : Db → ρ → Except SqlError Unit}
    {put : Db → ρ → Db} {rows : List ρ} (now : Timestamp) {s s' : Db}
    (hstep : ∀ s r, check s r = .ok () → RowStep now s (put s r))
    (hcheck : ∀ s, ∀ r ∈ rows, Keys s → checkAs s r = check s r) (hs : Keys s) :
    insertEach checkAs put rows s = .ok s' ↔ insertEach check put rows s = .ok s' := by
  have hsame : insertEach check put rows s = insertEach checkAs put rows s :=
    insertEach_congr (fun s r _ hkeys hr => (hstep s r hr).keys hkeys)
      (fun s r hr hkeys => (hcheck s r hr hkeys).symm) hs
  rw [hsame]

/-- The same with AFTER ROW triggers that write alike. -/
theorem insertRows_as_iff {ρ : Type} {check checkAs : Db → ρ → Except SqlError Unit}
    {put : Db → ρ → Db} {after afterAs : Db → ρ → Except SqlError Db} {rows : List ρ}
    (now : Timestamp) {s s' : Db}
    (hstep : ∀ s r, check s r = .ok () → RowStep now s (put s r))
    (hsteps : ∀ s r s', after s r = .ok s' → RowSteps now s s')
    (hcheck : ∀ s, ∀ r ∈ rows, Keys s → checkAs s r = check s r)
    (hafter : ∀ s, ∀ r ∈ rows, Keys s → afterAs s r = after s r) (hs : Keys s) :
    insertRows checkAs put afterAs rows s = .ok s' ↔
      insertRows check put after rows s = .ok s' := by
  rw [insertRows_eq_ok_iff, insertRows_eq_ok_iff]
  refine exists_congr fun stored => ?_
  rw [insertEach_as_iff now hstep hcheck hs]
  refine and_congr_right fun hstored => ?_
  have hkeys : Keys stored :=
    RowSteps.keys (insertEach_steps (fun s r _ hr => hstep s r hr) hstored) hs
  refine (foldlM_congr_ok (P := Keys) (fun r _ s s' hr => (hsteps s r s' hr).keys)
    (fun s r hr hkeys s' => ?_) hkeys).symm
  rw [hafter s r hr hkeys]

/-- What a role commits, step by step. -/
theorem commitAs_eq_ok_iff {role : SessionRole} {s s' : Db} {tx : DbTransaction} :
    commitAs role s tx = .ok s' ↔
      tx.statements.foldlM (fun s stmt => stmt.execAs role tx.now s) s = .ok s' ∧
        ∀ stmt ∈ tx.statements, stmt.deferred tx.now (s'.visible role) = .ok () := by
  simp only [commitAs, bind_eq_ok_iff, checkEach_eq_ok_iff, exists_const]
  constructor
  · rintro ⟨final, hexec, hdeferred, hfinal⟩
    obtain rfl := Except.ok.inj hfinal
    exact ⟨hexec, hdeferred⟩
  · rintro ⟨hexec, hdeferred⟩
    exact ⟨s', hexec, hdeferred, rfl⟩

/-- The deferred triggers of a statement of the tenant read its rows alone. -/
theorem deferred_eq {t : Uuid} {stmt : Statement} {now : Timestamp} {s v : Db}
    (h : SameTenant t s v) (hstmt : OfTenant t stmt) :
    stmt.deferred now s = stmt.deferred now v := by
  cases stmt with
  | insertEntries rows =>
      refine checkEach_congr fun e he => ?_
      have he' : e.tenantId = t := OfTenant.row hstmt he
      rw [h.assertGrantEntryAttributed he', h.checkPostingHold he']
  | insertCreditGrantEntries rows =>
      refine checkEach_congr fun l hl => ?_
      have hl' : l.tenantId = t := OfTenant.row hstmt hl
      rw [h.assertGrantCompensationComplete hl', h.assertExpiredGrantCapacityRemoved hl']
  | insertHolds rows =>
      refine checkEach_congr fun hold hhold => ?_
      have hhold' : hold.tenantId = t := OfTenant.row hstmt hhold
      rw [hhold', h.assertGrantHoldConsistent]
  | updateHolds changes =>
      refine checkEach_congr fun change hchange => ?_
      have hchange' : change.2.tenantId = t := hstmt _ (List.mem_map_of_mem hchange)
      rw [hchange', h.assertGrantHoldConsistent]
  | insertHoldEntries rows =>
      refine checkEach_congr fun he hhe => ?_
      have hhe' : he.tenantId = t := OfTenant.row hstmt hhe
      rw [h.assertGrantHoldAllocated hhe', hhe', h.assertGrantHoldConsistent]
  | insertCreditGrantHoldAllocations rows =>
      exact checkEach_congr fun a ha => h.assertGrantAllocationTotal (OfTenant.row hstmt ha)
  | _ => rfl

/-- The versions that a direct UPDATE or DELETE of a transaction names. -/
def versionTargets : Statement → List (Uuid × Int)
  | .updateCapacityVersions targets | .deleteCapacityVersions targets => targets
  | _ => []

/-- A statement names no version of another tenant. -/
def NamesOwnVersions (t : Uuid) (s : Db) (stmt : Statement) : Prop :=
  ∀ u ∈ s.creditGrantCapacityVersions, (u.grantId, u.version) ∈ versionTargets stmt →
    u.tenantId = t

instance (t : Uuid) (s : Db) (stmt : Statement) : Decidable (NamesOwnVersions t s stmt) :=
  inferInstanceAs (Decidable (∀ u ∈ s.creditGrantCapacityVersions,
    (u.grantId, u.version) ∈ versionTargets stmt → u.tenantId = t))

/-- What the capacity versions of other tenants were at the start they are on the way. -/
theorem NamesOwnVersions.of_others {t : Uuid} {s mid : Db} {stmt : Statement}
    (h : NamesOwnVersions t s stmt) (hothers : OthersUnchanged t s mid) :
    NamesOwnVersions t mid stmt := by
  intro u hu hnamed
  by_contra htenant
  have hmem : u ∈ (ofTenant u.tenantId mid).creditGrantCapacityVersions :=
    List.mem_filter.mpr ⟨hu, decide_eq_true rfl⟩
  rw [hothers u.tenantId htenant] at hmem
  exact htenant (h u (List.mem_filter.mp hmem).1 hnamed)

section Session

variable {role : SessionRole} {t : Uuid} (htenant : role.tenant = some t)
include htenant

theorem sees_own (table : SecuredTable) : role.sees table t = true := by
  rw [SessionRole.sees, htenant, decide_eq_true rfl, Bool.or_true]

theorem withCheck_own (table : SecuredTable) {tenantId : Uuid} (hid : tenantId = t) :
    role.withCheck table tenantId = .ok () := by
  rw [SessionRole.withCheck, require_eq_ok_iff, hid]
  exact sees_own htenant table

/-- A session sees every row of its tenant. -/
theorem sameTenant_visible {s : Db} (hs : Keys s) : SameTenant t s (s.visible role) := by
  have hseen : ∀ (table : SecuredTable) (id : Uuid), decide (id = t) = true →
      role.sees table id = true := fun table id hid => by
    rw [of_decide_eq_true hid]
    exact sees_own htenant table
  exact {
    accounts := .of_filter fun a => hseen .accounts a.tenantId
    transactions := .of_filter fun x => hseen .transactions x.tenantId
    entries := .of_filter fun e => hseen .entries e.tenantId
    creditGrants := .of_filter fun g => hseen .creditGrants g.tenantId
    creditGrantEntries := .of_filter fun l => hseen .creditGrantEntries l.tenantId
    holds := .of_filter fun h => hseen .holds h.tenantId
    holdEntries := .of_filter fun he => hseen .holdEntries he.tenantId
    allocations := .of_filter fun a => hseen .creditGrantHoldAllocations a.tenantId
    versions := .of_filter fun u => hseen .creditGrantCapacityVersions u.tenantId
    keys := hs
    keys' :=
      { accounts := hs.accounts.sublist List.filter_sublist
        transactions := hs.transactions.sublist List.filter_sublist
        relations := hs.relations.sublist (List.filter_sublist.filter _)
        entries := hs.entries.sublist List.filter_sublist
        creditGrants := hs.creditGrants.sublist List.filter_sublist
        grantTransactions := hs.grantTransactions.sublist List.filter_sublist
        creditGrantEntries := hs.creditGrantEntries.sublist List.filter_sublist
        holds := hs.holds.sublist List.filter_sublist
        holdEntries := hs.holdEntries.sublist List.filter_sublist
        allocations := hs.allocations.sublist List.filter_sublist } }

/-! ## Rows of the tenant -/

section Rows

variable {s : Db} (hs : Keys s) {now : Timestamp}
include hs

theorem checkCreditGrantAs_eq {new : CreditGrant} (hnew : new.tenantId = t) :
    checkCreditGrantAs role s new = checkCreditGrant s new := by
  have hsame := (sameTenant_visible htenant hs).symm
  rw [checkCreditGrantAs, hsame.requireGrantEnabledAccount hnew,
    hsame.rejectExpiringGrantEnabledFunding hnew, withCheck_own htenant _ hnew]
  rfl

theorem checkCreditGrantEntryAs_eq {new : CreditGrantEntry} (hnew : new.tenantId = t) :
    checkCreditGrantEntryAs role now s new = checkCreditGrantEntry now s new := by
  rw [checkCreditGrantEntryAs, (sameTenant_visible htenant hs).symm.validateCreditGrantEntry hnew,
    withCheck_own htenant _ hnew]
  rfl

theorem checkAllocationAs_eq {new : CreditGrantHoldAllocation} (hnew : new.tenantId = t) :
    checkCreditGrantHoldAllocationAs role now s new =
      checkCreditGrantHoldAllocation now s new := by
  rw [checkCreditGrantHoldAllocationAs,
    (sameTenant_visible htenant hs).symm.validateCreditGrantHoldAllocation hnew,
    withCheck_own htenant _ hnew]
  rfl

omit hs in
theorem checkHoldInsertAs_eq {new : Hold} (hnew : new.tenantId = t) :
    checkHoldInsertAs role s new = checkHoldInsert s new := by
  rw [checkHoldInsertAs, withCheck_own htenant _ hnew]
  rfl

omit hs in
theorem checkRowAs_eq {ρ : Type} (table : SecuredTable) {tenantOf : ρ → Uuid}
    {check : Db → ρ → Except SqlError Unit} {new : ρ} (hnew : tenantOf new = t) :
    checkRowAs role table tenantOf check s new = check s new := by
  rw [checkRowAs, withCheck_own htenant _ hnew]
  rfl

theorem insertCapacityVersionAs_eq {depth : Nat} {new : CreditGrantCapacityVersion}
    (hnew : new.tenantId = t) :
    insertCapacityVersionAs role depth s new = insertCapacityVersion depth s new := by
  rw [insertCapacityVersionAs, insertCapacityVersion,
    (sameTenant_visible htenant hs).symm.rejectCreditGrantCapacityBaselineInsert depth hnew]
  cases hrow : rejectCreditGrantCapacityBaselineInsert s depth new with
  | error e => rfl
  | ok row =>
      obtain ⟨-, ⟨reserved, rfl⟩, -⟩ := rejectBaseline_ok hrow
      change (do role.withCheck .creditGrantCapacityVersions new.tenantId; _) = _
      rw [withCheck_own htenant _ hnew]
      rfl

theorem appendCapacityVersionAs_eq {new : CreditGrantEntry} (hnew : new.tenantId = t) :
    appendCreditGrantCapacityVersionAs role s new = appendCreditGrantCapacityVersion s new := by
  rw [appendCreditGrantCapacityVersionAs, appendCreditGrantCapacityVersion,
    (sameTenant_visible htenant hs).symm.carriedVersion hnew]
  exact insertCapacityVersionAs_eq htenant hs ((move_tenantId ..).trans hnew)

theorem appendReservationAs_eq {depth : Nat} {g : Uuid} {delta : Int}
    {allocationId holdId : Option Uuid} :
    appendCreditGrantReservationVersionAs role depth s t g delta allocationId holdId =
      appendCreditGrantReservationVersion depth s t g delta allocationId holdId := by
  rw [appendCreditGrantReservationVersionAs, appendCreditGrantReservationVersion,
    (sameTenant_visible htenant hs).symm.latestVersion]
  cases hlatest : s.latestVersion t g with
  | none => rfl
  | some latest =>
      have hmem := (List.mem_filter.mp (latestBy_mem hlatest)).2
      rw [decide_eq_true_eq] at hmem
      simp only
      rw [insertCapacityVersionAs_eq htenant hs]
      exact hmem.1

theorem releaseGrantHoldReservationsAs_eq {old new : Hold} (hold : old.tenantId = t) {s' : Db} :
    releaseGrantHoldReservationsAs role s old new = .ok s' ↔
      releaseGrantHoldReservations s old new = .ok s' := by
  subst hold
  have hsame := (sameTenant_visible htenant hs).symm
  have hany : ((s.visible role).creditGrantHoldAllocations.any fun a =>
        a.tenantId = old.tenantId ∧ (s.visible role).allocationHoldId a = some old.id) =
      s.creditGrantHoldAllocations.any fun a =>
        a.tenantId = old.tenantId ∧ s.allocationHoldId a = some old.id :=
    hsame.allocations.any_eq (fun _ ha => decide_eq_true (of_decide_eq_true ha).1)
      (fun _ ha => decide_eq_true (of_decide_eq_true ha).1) fun a ha => by
        rw [hsame.allocationHoldId (of_decide_eq_true ha)]
  rw [releaseGrantHoldReservationsAs, releaseGrantHoldReservations, hany, hsame.grantsOfHold]
  split
  · rfl
  · split
    · rfl
    · refine (foldlM_congr_ok (P := Keys) (fun grant _ s s' hgrant hkeys => ?_)
        (fun s grant _ hkeys s' => ?_) hs).symm
      · exact ((releaseGrant_step hgrant).1 0).keys hkeys
      · have hsame' := (sameTenant_visible htenant hkeys).symm
        rw [releaseGrantAs, releaseGrant, hsame'.holdAllocated, hsame'.holdConsumed,
          appendReservationAs_eq htenant hkeys]

theorem updateHoldAs_ok_iff {change : Uuid × Hold} (hnew : change.2.tenantId = t) {s' : Db} :
    updateHoldAs role s change = .ok s' ↔ updateHold s change = .ok s' := by
  rw [updateHoldAs_eq_ok_iff, updateHold_eq_ok_iff]
  refine exists_congr fun old => and_congr_right fun hguard => ?_
  -- the guard keeps the tenant of a hold, so the session sees the row it changes
  have hold : old.tenantId = t :=
    (congrArg HoldIdentity.tenantId (guardHoldUpdate_ok hguard).identity).symm.trans hnew
  have hread := (sameTenant_visible htenant hs).hold? change.1
    (q := fun h => decide (h.tenantId = t)) fun _ hh => of_decide_eq_true hh
  have hfound : ∀ found : Option Hold, found = some old ↔
      (found.filter fun h => decide (h.tenantId = t)) = some old := fun found => by
    rw [Option.filter_eq_some_iff, decide_eq_true hold, and_iff_left rfl]
  rw [hfound (s.hold? change.1), hread, ← hfound]
  refine and_congr_right fun _ => exists_congr fun released => ?_
  rw [releaseGrantHoldReservationsAs_eq htenant hs hold, withCheck_own htenant _ hnew,
    eq_self_iff_true, true_and]

end Rows

/-! ## Statements of the tenant -/

theorem rejectCreditGrantMutationAs_ok_iff {s s' : Db} {targets : List (Uuid × Int)}
    (hnames : ∀ u ∈ s.creditGrantCapacityVersions, (u.grantId, u.version) ∈ targets →
      u.tenantId = t) :
    rejectCreditGrantMutationAs role targets s = .ok s' ↔
      rejectCreditGrantMutation targets s = .ok s' := by
  have hany : ((s.visible role).creditGrantCapacityVersions.any fun u =>
        (u.grantId, u.version) ∈ targets) =
      s.creditGrantCapacityVersions.any fun u => (u.grantId, u.version) ∈ targets := by
    rw [Bool.eq_iff_iff, List.any_eq_true, List.any_eq_true]
    constructor
    · rintro ⟨u, hu, hnamed⟩
      exact ⟨u, (List.mem_filter.mp hu).1, hnamed⟩
    · rintro ⟨u, hu, hnamed⟩
      refine ⟨u, List.mem_filter.mpr ⟨hu, ?_⟩, hnamed⟩
      rw [hnames u hu (of_decide_eq_true hnamed)]
      exact sees_own htenant _
  rw [rejectCreditGrantMutationAs, rejectCreditGrantMutation, rejectCreditGrantMutation, hany]
  split <;> simp

/-- A statement of the tenant is accepted of its session as it is of anybody. -/
theorem execAs_ok_iff {stmt : Statement} {now : Timestamp} {s s' : Db} (hs : Keys s)
    (hstmt : OfTenant t stmt) (hnames : NamesOwnVersions t s stmt) :
    stmt.execAs role now s = .ok s' ↔ stmt.exec now s = .ok s' := by
  cases stmt with
  | insertAssets rows =>
      exact insertEach_as_iff now (fun _ _ => .asset)
        (fun s r hr _ => checkRowAs_eq htenant .assets (OfTenant.row hstmt hr)) hs
  | insertAccounts rows =>
      exact insertEach_as_iff now (fun _ _ => .account)
        (fun s r hr _ => checkRowAs_eq htenant .accounts (OfTenant.row hstmt hr)) hs
  | insertTransactions rows =>
      simp only [Statement.execAs, Statement.exec, bind_eq_ok_iff]
      refine exists_congr fun stored => and_congr_left' ?_
      exact insertEach_as_iff now (fun _ _ => .transaction)
        (fun s r hr _ => checkRowAs_eq htenant .transactions (OfTenant.row hstmt hr)) hs
  | insertEntries rows =>
      exact insertEach_as_iff now (fun _ _ => .entry)
        (fun s r hr _ => checkRowAs_eq htenant .entries (OfTenant.row hstmt hr)) hs
  | insertCreditGrants rows =>
      exact insertEach_as_iff now (fun _ _ => .creditGrant)
        (fun s r hr hkeys => checkCreditGrantAs_eq htenant hkeys (OfTenant.row hstmt hr)) hs
  | insertCreditGrantEntries rows =>
      exact insertRows_as_iff now (fun _ _ => .creditGrantEntry)
        (fun _ _ _ hrow => (insertCapacityVersion_step hrow).1 now)
        (fun s r hr hkeys => checkCreditGrantEntryAs_eq htenant hkeys (OfTenant.row hstmt hr))
        (fun s r hr hkeys => appendCapacityVersionAs_eq htenant hkeys (OfTenant.row hstmt hr)) hs
  | insertHolds rows =>
      exact insertEach_as_iff now (fun _ _ => .hold)
        (fun s r hr _ => checkHoldInsertAs_eq htenant (OfTenant.row hstmt hr)) hs
  | insertHoldEntries rows =>
      exact insertEach_as_iff now (fun _ _ => .holdEntry)
        (fun s r hr _ => checkRowAs_eq htenant .holdEntries (OfTenant.row hstmt hr)) hs
  | insertCreditGrantHoldAllocations rows =>
      refine insertRows_as_iff now (fun _ _ => .allocation)
        (fun _ _ _ hrow => (appendCreditGrantReservationVersion_step hrow).1 now)
        (fun s r hr hkeys => checkAllocationAs_eq htenant hkeys (OfTenant.row hstmt hr))
        (fun s r hr hkeys => ?_) hs
      have hr' : r.tenantId = t := OfTenant.row hstmt hr
      rw [appendGrantAllocationReservationAs, appendGrantAllocationReservation, hr',
        appendReservationAs_eq htenant hkeys]
  | updateHolds changes =>
      refine (foldlM_congr_ok (P := Keys) (fun change _ s s' hchange hkeys => ?_)
        (fun s change hchange hkeys s' => ?_) hs).symm
      · have hsteps : RowSteps now s s' := updateHold_steps hchange
        exact hsteps.keys hkeys
      · exact (updateHoldAs_ok_iff htenant hkeys (hstmt _ (List.mem_map_of_mem hchange))).symm
  | insertCapacityVersions rows =>
      refine (foldlM_congr_ok (P := Keys) (fun r _ s s' hr => ?_) (fun s r hr hkeys s' => ?_)
        hs).symm
      · exact RowSteps.keys ((insertCapacityVersion_step hr).1 now)
      · rw [insertCapacityVersionAs_eq htenant hkeys (OfTenant.row hstmt hr)]
  | updateCapacityVersions targets => exact rejectCreditGrantMutationAs_ok_iff htenant hnames
  | deleteCapacityVersions targets => exact rejectCreditGrantMutationAs_ok_iff htenant hnames

/-! ## Transactions of the tenant -/

/-- A transaction of the tenant commits in its session as it does in any. -/
theorem commitAs_ok_iff {tx : DbTransaction} {s s' : Db} (hs : Keys s) (htx : TxOfTenant t tx)
    (hnames : ∀ stmt ∈ tx.statements, NamesOwnVersions t s stmt) :
    commitAs role s tx = .ok s' ↔ commit s tx = .ok s' := by
  have hexec : tx.statements.foldlM (fun s stmt => stmt.execAs role tx.now s) s = .ok s' ↔
      tx.exec s = .ok s' := by
    refine (foldlM_congr_ok (P := fun mid => Keys mid ∧ OthersUnchanged t s mid)
      (fun stmt hstmt _ _ hstep hP => ?_) (fun mid stmt hstmt hP s' => ?_) ⟨hs, .refl t s⟩).symm
    · exact ⟨(exec_steps hstep).keys hP.1, hP.2.trans (exec_others hP.1 (htx stmt hstmt) hstep)⟩
    · exact (execAs_ok_iff htenant hP.1 (htx stmt hstmt) ((hnames stmt hstmt).of_others hP.2)).symm
  rw [commit_eq_ok_iff, commitAs_eq_ok_iff, hexec]
  refine and_congr_right fun hfinal => forall₂_congr fun stmt hstmt => ?_
  rw [← deferred_eq (sameTenant_visible htenant ((txExec_steps hfinal).keys hs)) (htx stmt hstmt)]

end Session

/-! ## Confined sessions -/

section Confinement

variable {role : SessionRole} {t : Uuid} (hrole : Confined role t)
include hrole

/-- A confined session sees the rows of its tenant and no others. -/
theorem Confined.sees (table : SecuredTable) (tenantId : Uuid) :
    role.sees table tenantId = decide (tenantId = t) := by
  rw [SessionRole.sees, SessionRole.restricted, hrole.bypasses, hrole.owns, hrole.tenant]
  exact decide_eq_decide.mpr ⟨fun h => (Option.some.inj h).symm, fun h => congrArg some h.symm⟩

theorem Confined.of_withCheck {table : SecuredTable} {tenantId : Uuid}
    (h : role.withCheck table tenantId = .ok ()) : tenantId = t := by
  rw [SessionRole.withCheck, require_eq_ok_iff, hrole.sees] at h
  exact of_decide_eq_true h

theorem Confined.rows {ρ : Type} {check : Db → ρ → Except SqlError Unit} {put : Db → ρ → Db}
    {tenantOf : ρ → Uuid} {rows : List ρ} {s s' : Db}
    (hcheck : ∀ s r, check s r = .ok () → ∃ table, role.withCheck table (tenantOf r) = .ok ())
    (h : insertEach check put rows s = .ok s') : ∀ id ∈ rows.map tenantOf, id = t := by
  have hall := insertEach_forall (q := fun r => tenantOf r = t) (fun s r hr => by
    obtain ⟨table, htable⟩ := hcheck s r hr
    exact hrole.of_withCheck htable) h
  intro id hid
  obtain ⟨r, hr, rfl⟩ := List.mem_map.mp hid
  exact hall r hr

/-- What a confined session executes is a statement of its tenant. -/
theorem Confined.ofTenant {stmt : Statement} {now : Timestamp} {s s' : Db}
    (h : stmt.execAs role now s = .ok s') : OfTenant t stmt := by
  have hrow : ∀ {ρ : Type} {table : SecuredTable} {tenantOf : ρ → Uuid}
      {check : Db → ρ → Except SqlError Unit} (s : Db) (r : ρ),
      checkRowAs role table tenantOf check s r = .ok () →
        ∃ table, role.withCheck table (tenantOf r) = .ok () := fun s r hr => by
    obtain ⟨⟨⟩, hpolicy, -⟩ := bind_eq_ok_iff.mp hr
    exact ⟨_, hpolicy⟩
  cases stmt with
  | insertAssets rows => exact hrole.rows hrow h
  | insertAccounts rows => exact hrole.rows hrow h
  | insertTransactions rows =>
      simp only [Statement.execAs, bind_eq_ok_iff] at h
      obtain ⟨stored, hstored, -⟩ := h
      exact hrole.rows hrow hstored
  | insertEntries rows => exact hrole.rows hrow h
  | insertCreditGrants rows =>
      refine hrole.rows (fun s r hr => ?_) h
      simp only [checkCreditGrantAs, bind_eq_ok_iff] at hr
      obtain ⟨⟨⟩, -, ⟨⟩, -, ⟨⟩, hpolicy, -⟩ := hr
      exact ⟨_, hpolicy⟩
  | insertCreditGrantEntries rows =>
      obtain ⟨stored, hstored, -⟩ := insertRows_eq_ok_iff.mp h
      refine hrole.rows (fun s r hr => ?_) hstored
      simp only [checkCreditGrantEntryAs, bind_eq_ok_iff] at hr
      obtain ⟨⟨⟩, -, ⟨⟩, hpolicy, -⟩ := hr
      exact ⟨_, hpolicy⟩
  | insertHolds rows =>
      refine hrole.rows (fun s r hr => ?_) h
      simp only [checkHoldInsertAs, bind_eq_ok_iff] at hr
      obtain ⟨⟨⟩, -, ⟨⟩, hpolicy, -⟩ := hr
      exact ⟨_, hpolicy⟩
  | insertHoldEntries rows => exact hrole.rows hrow h
  | insertCreditGrantHoldAllocations rows =>
      obtain ⟨stored, hstored, -⟩ := insertRows_eq_ok_iff.mp h
      refine hrole.rows (fun s r hr => ?_) hstored
      simp only [checkCreditGrantHoldAllocationAs, bind_eq_ok_iff] at hr
      obtain ⟨⟨⟩, -, ⟨⟩, hpolicy, -⟩ := hr
      exact ⟨_, hpolicy⟩
  | updateHolds changes =>
      intro id hid
      obtain ⟨change, hchange, rfl⟩ := List.mem_map.mp hid
      obtain ⟨-, -, s₁, s₂, -, -, hupdate, -⟩ := foldlM_mem h hchange
      obtain ⟨old, -, -, released, -, hpolicy, -⟩ := updateHoldAs_eq_ok_iff.mp hupdate
      exact hrole.of_withCheck hpolicy
  | insertCapacityVersions rows =>
      -- no direct write gets past the BEFORE trigger
      intro id hid
      obtain ⟨r, hr, rfl⟩ := List.mem_map.mp hid
      obtain ⟨-, -, s₁, s₂, -, -, hinsert, -⟩ := foldlM_mem h hr
      obtain ⟨row, hrow', -⟩ := bind_eq_ok_iff.mp hinsert
      exact absurd (rejectBaseline_ok hrow').1 (by decide)
  | updateCapacityVersions targets => exact fun _ hid => absurd hid List.not_mem_nil
  | deleteCapacityVersions targets => exact fun _ hid => absurd hid List.not_mem_nil

/-- What a confined session commits is a transaction of its tenant. -/
theorem Confined.txOfTenant {tx : DbTransaction} {s s' : Db} (h : commitAs role s tx = .ok s') :
    TxOfTenant t tx := by
  intro stmt hstmt
  obtain ⟨-, -, s₁, s₂, -, -, hexec, -⟩ := foldlM_mem (commitAs_eq_ok_iff.mp h).1 hstmt
  exact hrole.ofTenant hexec

/-- In every reachable state a session confined to a tenant commits exactly the transactions
of the tenant that the database accepts without row-level security, with the same outcome, and
it leaves the rows of all other tenants as they were.  Its direct writes to capacity versions
are such that name none of another tenant: those would select nothing. -/
theorem confined_commit_iff {log : List DbTransaction} {tx : DbTransaction} {s s' : Db}
    (hreach : replay log = .ok s)
    (hnames : ∀ stmt ∈ tx.statements, NamesOwnVersions t s stmt) :
    (commitAs role s tx = .ok s' ↔ TxOfTenant t tx ∧ commit s tx = .ok s') ∧
      (commitAs role s tx = .ok s' → OthersUnchanged t s s') := by
  have hs : Keys s := replay_invariant Keys.empty (fun _ _ _ => RowStep.keys) hreach
  have hiff : commitAs role s tx = .ok s' ↔ TxOfTenant t tx ∧ commit s tx = .ok s' := by
    constructor
    · intro h
      have htx := hrole.txOfTenant h
      exact ⟨htx, (commitAs_ok_iff hrole.tenant hs htx hnames).mp h⟩
    · rintro ⟨htx, h⟩
      exact (commitAs_ok_iff hrole.tenant hs htx hnames).mpr h
  refine ⟨hiff, fun h => ?_⟩
  obtain ⟨htx, hcommit⟩ := hiff.mp h
  exact commit_others hs htx hcommit

end Confinement

/-- The capture of a hold, committed by a session of its tenant. -/
theorem confined_commit_capture :
    commitAs ⟨false, false, some 1⟩ (Sample.stateAfter (Sample.log.take 3)) ⟨3, Sample.capture⟩ =
        .ok (Sample.stateAfter (Sample.log.take 4)) ∧
      OthersUnchanged 1 (Sample.stateAfter (Sample.log.take 3))
        (Sample.stateAfter (Sample.log.take 4)) := by
  have hrole : Confined ⟨false, false, some 1⟩ 1 := ⟨rfl, rfl, rfl⟩
  have hreach : replay (Sample.log.take 3) = .ok (Sample.stateAfter (Sample.log.take 3)) :=
    Sample.replay_stateAfter (by decide)
  have h := @confined_commit_iff _ _ hrole _ ⟨3, Sample.capture⟩ _
    (Sample.stateAfter (Sample.log.take 4)) hreach (by decide)
  have hcommit := h.1.mpr ⟨by decide, by rfl⟩
  exact ⟨hcommit, h.2 hcommit⟩

end LuxLedger.Credit
