/-
  Credit/ReservationGuards.lean --- the guards of a reservation agree with one another.

  The validator of a capture looks at the allocations of one hold, the capacity version
  at the reserve of the grant; a void compares the two for every grant of its hold.  The
  reserve is the sum of what all live holds have left, so whatever the first guard lets
  through is within the second.  Edits of other rows are part of the runs: the triggers
  keep every row that these sums are counted by.
-/
import LuxLedger.Credit.AssetIdentity
import LuxLedger.Credit.LiveReserve
import LuxLedger.Credit.Snapshots

set_option autoImplicit false

namespace LuxLedger.Credit

open LuxLedger.Schema LuxLedger.Relational

/-! ## Versions carry the columns of their grant -/

/-- The grant that a capacity version refers to. -/
def GrantOfVersion (s : Db) (v : CreditGrantCapacityVersion) : Prop :=
  ∃ g, s.creditGrant? v.grantId = some g ∧ g.tenantId = v.tenantId ∧ g.ledgerId = v.ledgerId ∧
    g.accountId = v.accountId

/-- Every capacity version has one. -/
def VersionsScoped (s : Db) : Prop := ∀ v ∈ s.creditGrantCapacityVersions, GrantOfVersion s v

section Scoped

variable {now : Timestamp} {s s' : Db}

theorem VersionsScoped.of_extends (hs : VersionsScoped s) (hext : Extends s s')
    (hversions : s'.creditGrantCapacityVersions = s.creditGrantCapacityVersions) :
    VersionsScoped s' := by
  intro v hv
  rw [hversions] at hv
  obtain ⟨g, hgrant, hscope⟩ := hs v hv
  exact ⟨g, hext.creditGrant? hgrant, hscope⟩

/-- The foreign key of the version checks its grant. -/
theorem insertCapacityVersion_scoped {depth : Nat} {new : CreditGrantCapacityVersion}
    (h : insertCapacityVersion depth s new = .ok s') (hs : VersionsScoped s) :
    VersionsScoped s' := by
  simp only [insertCapacityVersion, bind_eq_ok_iff] at h
  obtain ⟨row, -, ⟨⟩, -, ⟨⟩, -, ⟨⟩, hforeign, hstore⟩ := h
  simp only [foreignKeysCapacityVersion, bind_eq_ok_iff, require_eq_ok_iff, exists_const,
    Option.any_eq_true, decide_eq_true_eq] at hforeign
  obtain ⟨⟨g, hgrant, hscope⟩, -⟩ := hforeign
  obtain rfl := Except.ok.inj hstore
  exact forall_mem_concat hs ⟨g, hgrant, hscope⟩

theorem appendCreditGrantReservationVersion_scoped {depth : Nat} {t g : Uuid} {delta : Int}
    {allocationId holdId : Option Uuid}
    (h : appendCreditGrantReservationVersion depth s t g delta allocationId holdId = .ok s')
    (hs : VersionsScoped s) : VersionsScoped s' := by
  simp only [appendCreditGrantReservationVersion, bind_eq_ok_iff] at h
  obtain ⟨⟨⟩, -, h⟩ := h
  cases hlatest : s.latestVersion t g with
  | none =>
      rw [hlatest] at h
      cases h
  | some latest =>
      rw [hlatest] at h
      exact insertCapacityVersion_scoped h hs

theorem releaseGrant_scoped {old : Hold} {grant : CreditGrant}
    (h : releaseGrant old s grant = .ok s') (hs : VersionsScoped s) : VersionsScoped s' := by
  simp only [releaseGrant, bind_eq_ok_iff] at h
  obtain ⟨⟨⟩, -, h⟩ := h
  split at h
  · exact appendCreditGrantReservationVersion_scoped h hs
  · exact Except.ok.inj h ▸ hs

theorem updateHold_scoped {change : Uuid × Hold} (h : updateHold s change = .ok s')
    (hs : VersionsScoped s) : VersionsScoped s' := by
  obtain ⟨id, new⟩ := change
  obtain ⟨old, released, -, -, -, -, hreleased, -, rfl⟩ := updateHold_ok h
  have hscoped : VersionsScoped released := by
    unfold releaseGrantHoldReservations at hreleased
    split at hreleased
    · exact Except.ok.inj hreleased ▸ hs
    · split at hreleased
      · exact Except.ok.inj hreleased ▸ hs
      · exact foldlM_preserves (fun _ _ _ _ => releaseGrant_scoped) hreleased hs
  exact hscoped

/-- Rows are stored first, then each appends its version. -/
theorem insertRows_scoped {ρ : Type} {check : Db → ρ → Except SqlError Unit} {put : Db → ρ → Db}
    {after : Db → ρ → Except SqlError Db} {rows : List ρ}
    (h : insertRows check put after rows s = .ok s')
    (hput : ∀ s r, ((put s r).creditGrants, (put s r).creditGrantCapacityVersions) =
      (s.creditGrants, s.creditGrantCapacityVersions))
    (hafter : ∀ s r s', after s r = .ok s' → VersionsScoped s → VersionsScoped s')
    (hs : VersionsScoped s) : VersionsScoped s' := by
  obtain ⟨stored, hstored, happended⟩ := insertRows_eq_ok_iff.mp h
  have hgrants : stored.creditGrants = s.creditGrants :=
    insertEach_frame hstored fun s r => (Prod.mk.inj (hput s r)).1
  have hversions : stored.creditGrantCapacityVersions = s.creditGrantCapacityVersions :=
    insertEach_frame hstored fun s r => (Prod.mk.inj (hput s r)).2
  have hscoped : VersionsScoped stored := by
    unfold VersionsScoped GrantOfVersion Db.creditGrant?
    rw [hgrants, hversions]
    exact hs
  exact foldlM_preserves (fun r _ s₁ s₂ => hafter s₁ r s₂) happended hscoped

theorem exec_scoped {stmt : Statement} (h : stmt.exec now s = .ok s') (hs : VersionsScoped s) :
    VersionsScoped s' := by
  have hext : Extends s s' := RowSteps.extends (exec_steps h)
  cases stmt with
  | insertTransactions rows =>
      exact hs.of_extends hext (insertEach_frame (insertTransactions_ok h).1 fun _ _ => rfl)
  | insertCreditGrantEntries rows =>
      exact insertRows_scoped h (fun _ _ => rfl) (fun _ _ _ => insertCapacityVersion_scoped) hs
  | insertCreditGrantHoldAllocations rows =>
      exact insertRows_scoped h (fun _ _ => rfl)
        (fun _ _ _ => appendCreditGrantReservationVersion_scoped) hs
  | updateHolds changes => exact foldlM_preserves (fun _ _ _ _ => updateHold_scoped) h hs
  | insertCapacityVersions rows =>
      exact foldlM_preserves (fun _ _ _ _ => insertCapacityVersion_scoped) h hs
  | updateCapacityVersions targets => exact rejectCreditGrantMutation_ok h ▸ hs
  | deleteCapacityVersions targets => exact rejectCreditGrantMutation_ok h ▸ hs
  | insertAssets _ | insertAccounts _ | insertEntries _ | insertCreditGrants _ | insertHolds _
  | insertHoldEntries _ =>
      exact hs.of_extends hext (insertEach_frame h fun _ _ => rfl)

end Scoped

/-! ## What the guards rest on -/

/-- The invariant of runs in which rows are also edited. -/
structure ReserveInvariant (s : Db) : Prop where
  intact : Intact s
  amounts : ∀ l ∈ s.creditGrantEntries, 0 < l.amountMinor
  tracks : Tracks s (capacityEvents s)
  within : CapturedWithin s
  versions : VersionsScoped s

theorem ReserveInvariant.grounded {s : Db} (hs : ReserveInvariant s) : Grounded s := by
  refine ⟨hs.intact.keys.toKeys, hs.amounts, ?_, hs.intact.history.allocations⟩
  intro l hl
  obtain ⟨linked, hlinked, -⟩ := hs.intact.history.lineage l hl
  exact ⟨linked, hlinked⟩

theorem ReserveInvariant.empty : ReserveInvariant Db.empty where
  intact := Intact.empty
  amounts := fun _ hl => absurd hl List.not_mem_nil
  tracks := tracks_empty
  within := fun _ _ _ => le_refl _
  versions := fun _ hv => absurd hv List.not_mem_nil

section Edits

variable {s s' : Db} (h : Edited s s') (hs : Intact s) (hs' : TableKeys s')
  (hreferences : References s')
include h hs hs'

include hreferences in
/-- A lineage row stays counted under its hold. -/
theorem Edited.lineageHoldId {l : CreditGrantEntry} (hl : l ∈ s.creditGrantEntries) :
    s'.lineageHoldId l = s.lineageHoldId l := by
  obtain ⟨linked, hlinked, hasset⟩ := hs.history.lineage l hl
  obtain ⟨account, -, hlinked', -⟩ := h.linked hs' hreferences hl hlinked hasset
  rw [hlinked'.lineageHoldId, hlinked.lineageHoldId]

/-- So does an allocation. -/
theorem Edited.allocationHoldId {a : CreditGrantHoldAllocation}
    (ha : a ∈ s.creditGrantHoldAllocations) : s'.allocationHoldId a = s.allocationHoldId a := by
  obtain ⟨g, he, hlink⟩ := hs.history.allocations a ha
  rw [(h.allocationLink hs' ha hlink).allocationHoldId, hlink.allocationHoldId]

include hreferences in
theorem Edited.holdConsumed (t g holdId : Uuid) :
    s'.holdConsumed t g holdId = s.holdConsumed t g holdId := by
  rw [Db.holdConsumed, h.creditGrantEntries]
  refine sumWhere_congr (fun l hl => ?_) fun _ _ _ => rfl
  rw [h.lineageHoldId hs hs' hreferences hl]

theorem Edited.holdAllocated (t g holdId : Uuid) :
    s'.holdAllocated t g holdId = s.holdAllocated t g holdId := by
  rw [Db.holdAllocated, h.allocations]
  refine sumWhere_congr (fun a ha => ?_) fun _ _ _ => rfl
  rw [h.allocationHoldId hs hs' ha]

include hreferences in
/-- The events of a grant are those it had. -/
theorem Edited.capacityEvents : capacityEvents s' = capacityEvents s := by
  funext t g
  have hlineage : (s.creditGrantEntries.filter fun l => l.tenantId = t ∧ l.grantId = g).map
      (lineageEvent s') =
      (s.creditGrantEntries.filter fun l => l.tenantId = t ∧ l.grantId = g).map
        (lineageEvent s) := by
    refine List.map_congr_left fun l hl => ?_
    rw [lineageEvent, lineageEvent, h.lineageHoldId hs hs' hreferences (List.mem_filter.mp hl).1]
  have hconsumed := h.holdConsumed hs hs' hreferences
  have hallocated := h.holdAllocated hs hs'
  unfold Credit.capacityEvents releases releaseEvent
  simp only [h.creditGrantEntries, h.allocations, h.holds, hlineage, hconsumed, hallocated]

end Edits

/-- An edit appends no version. -/
theorem store_versions (s : Db) (e : Edit) :
    (e.store s).creditGrantCapacityVersions = s.creditGrantCapacityVersions := by
  cases e <;> rfl

section Runs

variable {now : Timestamp} {s s' : Db}

theorem edit_reserveInvariant {e : Edit} (hs : ReserveInvariant s) (h : e.exec s = .ok s') :
    ReserveInvariant s' := by
  have hedited : Edited s s' := exec_edited hs.intact.keys.toKeys h
  have hintact : Intact s' := exec_intact hs.intact h
  have hversions : s'.creditGrantCapacityVersions = s.creditGrantCapacityVersions := by
    rw [exec_eq_store h]
    exact store_versions s e
  rcases hedited.references with rfl | hreferences
  · exact hs
  refine ⟨hintact, ?_, ?_, ?_, ?_⟩
  · rw [hedited.creditGrantEntries]
    exact hs.amounts
  · rw [hedited.capacityEvents hs.intact hintact.keys hreferences]
    exact hs.tracks.of_versions_eq hversions
  · intro t g holdId
    rw [hedited.holdConsumed hs.intact hintact.keys hreferences,
      hedited.holdAllocated hs.intact hintact.keys]
    exact hs.within t g holdId
  · intro v hv
    rw [hversions] at hv
    obtain ⟨g, hgrant, hscope⟩ := hs.versions v hv
    refine ⟨g, ?_, hscope⟩
    rw [Db.creditGrant?, hedited.creditGrants]
    exact hgrant

theorem statement_reserveInvariant {stmt : Statement} (hs : ReserveInvariant s)
    (h : stmt.exec now s = .ok s') : ReserveInvariant s' := by
  have hsteps : RowSteps now s s' := exec_steps h
  have hwithin : Grounded s' ∧ CapturedWithin s' :=
    hsteps.preserves (P := fun s => Grounded s ∧ CapturedWithin s)
      (fun _ _ hstep hs => ⟨hstep.grounded hs.1, hstep.capturedWithin hs.1 hs.2⟩)
      ⟨hs.grounded, hs.within⟩
  exact
    { intact := hsteps.preserves (fun _ _ => RowStep.intact) hs.intact
      amounts := hwithin.1.links.amounts
      tracks := exec_tracks hs.grounded hs.tracks h
      within := hwithin.2
      versions := exec_scoped h hs.versions }

theorem runChanges_reserveInvariant {steps : List (Timestamp × Change)}
    (h : runChanges Db.empty steps = .ok s) : ReserveInvariant s := by
  refine run_invariant ReserveInvariant.empty (fun s₁ step s₂ hexec hs => ?_) h
  obtain ⟨now, change⟩ := step
  cases change with
  | statement stmt => exact statement_reserveInvariant hs hexec
  | edit e => exact edit_reserveInvariant hs hexec

end Runs

/-! ## What is reserved covers every live hold -/

section Reserve

variable {s : Db} (hs : ReserveInvariant s)
include hs

/-- What a HELD hold has left of a grant is part of the reserve of the grant. -/
theorem uncaptured_le_reserved {hold : Hold} (hhold : hold ∈ s.holds) (hheld : hold.state = .held)
    (g : Uuid) : uncaptured s g hold ≤ s.latestMinor hold.tenantId g (·.reservedMinor) := by
  have hnonneg : ∀ h, 0 ≤ uncaptured s g h := fun h => sub_nonneg.mpr (hs.within h.tenantId g h.id)
  have hone : uncaptured s g hold ≤ sumWhere s.holds
      (fun h => h.tenantId = hold.tenantId ∧ h.state = .held) (uncaptured s g) :=
    le_sumWhere hhold (by simp [hheld]) fun h _ _ => hnonneg h
  have happlied : 0 ≤ sumWhere s.holds
      (fun h => h.tenantId = hold.tenantId ∧ h.state = .applied) (uncaptured s g) :=
    sumWhere_nonneg fun h _ _ => hnonneg h
  rw [reserved_by_hold hs.grounded hs.within hs.tracks]
  omega

theorem lineageTotal_nonneg (t g : Uuid) (kind : CreditGrantEntryKind) :
    0 ≤ s.lineageTotal t g kind :=
  sumWhere_nonneg fun l hl _ => (hs.amounts l hl).le

/-- The counters that the next version carries over satisfy its CHECK constraints. -/
structure CountersChecked (s : Db) (t g : Uuid) : Prop where
  version : 0 ≤ s.latestMinor t g (·.version)
  granted : 0 ≤ s.latestMinor t g (·.grantedMinor)
  reversed : 0 ≤ s.latestMinor t g (·.reversedMinor)
  consumed : 0 ≤ s.latestMinor t g (·.consumedMinor)
  compensated : 0 ≤ s.latestMinor t g (·.compensatedMinor)
  expired : 0 ≤ s.latestMinor t g (·.expiredMinor)
  remaining : s.latestMinor t g (·.remainingMinor) =
    s.latestMinor t g (·.grantedMinor) + s.latestMinor t g (·.compensatedMinor) -
      s.latestMinor t g (·.reversedMinor) - s.latestMinor t g (·.consumedMinor) -
      s.latestMinor t g (·.expiredMinor)
  reservedLe : s.latestMinor t g (·.reservedMinor) ≤ s.latestMinor t g (·.remainingMinor)

theorem countersChecked (t g : Uuid) : CountersChecked s t g := by
  have hfold := capacityFold_of_tracks hs.tracks t g
  obtain ⟨history, hchain, -⟩ := hs.tracks t g
  have htotal := lineageTotal_nonneg hs t g
  refine
    { version := ?_
      granted := hfold.granted ▸ htotal .issuance
      reversed := ?_
      consumed := hfold.consumed ▸ htotal .consumption
      compensated := hfold.compensated ▸ htotal .compensation
      expired := hfold.expired ▸ htotal .expiration
      remaining := hfold.remaining
      reservedLe := hfold.reservedLe }
  · rw [hchain.latest_version]
    exact Int.natCast_nonneg _
  · rw [hfold.reversed]
    exact add_nonneg (htotal .reversal) (htotal .refund)

/-- All versions with the id of a grant are versions of the tenant of the grant. -/
theorem mem_versionsOf_grant {grant : CreditGrant} {g : Uuid}
    (hgrant : s.creditGrant? g = some grant) {v : CreditGrantCapacityVersion}
    (hv : v ∈ s.creditGrantCapacityVersions) (hid : v.grantId = g) :
    v ∈ s.versionsOf grant.tenantId g := by
  obtain ⟨grant', hfound, htenant, -⟩ := hs.versions v hv
  rw [hid, hgrant, Option.some.injEq] at hfound
  subst hfound
  exact List.mem_filter.mpr ⟨hv, decide_eq_true ⟨htenant.symm, hid⟩⟩

/-- The next number is not taken. -/
theorem version_ne_next {t g : Uuid} {v : CreditGrantCapacityVersion}
    (hv : v ∈ s.versionsOf t g) : v.version ≠ s.latestMinor t g (·.version) + 1 := by
  obtain ⟨history, hchain, -⟩ := hs.tracks t g
  have hnumber : v.version ∈ (s.versionsOf t g).map (·.version) := List.mem_map_of_mem hv
  rw [hchain.numbered] at hnumber
  obtain ⟨i, hi, hversion⟩ := List.mem_map.mp hnumber
  have hlt := List.mem_range.mp hi
  rw [hchain.latest_version]
  omega

/-- A version made by a lineage row has the row. -/
theorem exists_lineage_of_source {t g : Uuid} {v : CreditGrantCapacityVersion}
    (hv : v ∈ s.versionsOf t g) {entryId : Uuid} (hsource : v.sourceEntryId = some entryId) :
    ∃ l ∈ s.creditGrantEntries, l.grantId = g ∧ l.entryId = entryId := by
  have hmem : entryId ∈ (s.versionsOf t g).filterMap (·.sourceEntryId) :=
    List.mem_filterMap.mpr ⟨v, hv, hsource⟩
  rw [(capacityFold_of_tracks hs.tracks t g).lineageSources.mem_iff] at hmem
  obtain ⟨l, hl, hid⟩ := List.mem_map.mp hmem
  obtain ⟨hrow, hscope⟩ := List.mem_filter.mp hl
  exact ⟨l, hrow, (of_decide_eq_true hscope).2, hid⟩

/-- A version made by a release has a voided hold. -/
theorem voided_of_source {t g : Uuid} {v : CreditGrantCapacityVersion}
    (hv : v ∈ s.versionsOf t g) {holdId : Uuid} (hsource : v.sourceHoldId = some holdId) :
    ∃ h ∈ s.holds, h.id = holdId ∧ h.state = .voided := by
  have hmem : holdId ∈ (s.versionsOf t g).filterMap (·.sourceHoldId) :=
    List.mem_filterMap.mpr ⟨v, hv, hsource⟩
  rw [(capacityFold_of_tracks hs.tracks t g).releaseSources.mem_iff] at hmem
  obtain ⟨h, hh, hid⟩ := List.mem_map.mp hmem
  obtain ⟨hvoided, -⟩ := List.mem_filter.mp hh
  obtain ⟨hrow, hstate⟩ := List.mem_filter.mp hvoided
  exact ⟨h, hrow, hid, of_decide_eq_true hstate⟩

end Reserve

/-! ## Versions that are accepted -/

theorem checkCapacityVersion_eq_ok_iff {v : CreditGrantCapacityVersion} :
    checkCapacityVersion v = .ok () ↔ 0 ≤ v.version ∧
      (0 ≤ v.grantedMinor ∧ 0 ≤ v.reversedMinor ∧ 0 ≤ v.consumedMinor ∧
        0 ≤ v.compensatedMinor ∧ 0 ≤ v.expiredMinor ∧ 0 ≤ v.remainingMinor) ∧
      v.remainingMinor = v.grantedMinor + v.compensatedMinor - v.reversedMinor -
        v.consumedMinor - v.expiredMinor ∧
      0 ≤ v.reservedMinor ∧ v.reservedMinor ≤ v.remainingMinor := by
  simp only [checkCapacityVersion, bind_eq_ok_iff, require_eq_ok_iff, exists_const]
  constructor
  · rintro ⟨hremaining, hreserved, htotals, hversion⟩
    exact ⟨hversion, htotals, hremaining, hreserved⟩
  · rintro ⟨hversion, htotals, hremaining, hreserved⟩
    exact ⟨hremaining, hreserved, htotals, hversion⟩

theorem insertCapacityVersion_of_row {depth : Nat} {s : Db} {new row : CreditGrantCapacityVersion}
    (hbefore : rejectCreditGrantCapacityBaselineInsert s depth new = .ok row)
    (hcheck : checkCapacityVersion row = .ok ()) (hunique : uniqueCapacityVersion s row = .ok ())
    (hforeign : foreignKeysCapacityVersion s row = .ok ()) :
    insertCapacityVersion depth s new = .ok (s.addCapacityVersion row) := by
  simp only [insertCapacityVersion, bind_eq_ok_iff]
  exact ⟨row, hbefore, (), hcheck, (), hunique, (), hforeign, rfl⟩

/-! ### Captures -/

section Capture

variable {now : Timestamp} {s : Db} {new : CreditGrantEntry} {linked : LinkedRows} {holdId : Uuid}

/-- The INSERT of one lineage row. -/
theorem exec_insertCreditGrantEntry :
    (Statement.insertCreditGrantEntries [new]).exec now s = (do
      checkCreditGrantEntry now s new
      appendCreditGrantCapacityVersion (s.addCreditGrantEntry new) new) := by
  simp only [Statement.exec, storeCreditGrantEntries, insertRows, insertEach, List.foldlM_cons,
    List.foldlM_nil, bind_pure]
  cases checkCreditGrantEntry now s new with
  | error e => rfl
  | ok _ => rfl

/-- The validator bounds a capture by what its hold has left, which is reserved. -/
theorem amount_le_reserved (hs : ReserveInvariant s) (haccepted : AcceptedLineage now s new linked)
    (hkind : new.kind = .consumption) (hhold : linked.transaction.holdId = some holdId) :
    new.amountMinor ≤ s.latestMinor new.tenantId new.grantId (·.reservedMinor) := by
  have hlinks := hs.grounded.links
  obtain ⟨hold, hfound, htenant, hheld⟩ := heldHold_of_capture hlinks haccepted hkind hhold
  have hid : hold.id = holdId := key_of_lookup hfound
  have hbound := haccepted.kind
  simp only [AcceptedKind, hkind, hhold] at hbound
  have hallocated := heldAllocation_le hlinks new.tenantId new.grantId holdId
  have hreserved := uncaptured_le_reserved hs (mem_of_lookup hfound) hheld new.grantId
  rw [uncaptured, htenant, hid] at hreserved
  omega

/-- The version of a capture: it consumes what it frees. -/
def captureVersion (s : Db) (new : CreditGrantEntry) : CreditGrantCapacityVersion :=
  let latest := s.latestMinor new.tenantId new.grantId
  { carriedVersion s new with
    consumedMinor := latest (·.consumedMinor) + new.amountMinor
    remainingMinor := latest (·.remainingMinor) - new.amountMinor
    reservedMinor := latest (·.reservedMinor) - new.amountMinor }

/-- The BEFORE trigger returns it. -/
theorem rejectBaseline_capture
    (hfind : s.creditGrantEntries.find? (fun l => l.tenantId = new.tenantId ∧
      l.grantId = new.grantId ∧ l.entryId = new.entryId) = some new)
    (hkind : new.kind = .consumption) (hhold : s.lineageHoldId new = some holdId)
    (hle : new.amountMinor ≤ s.latestMinor new.tenantId new.grantId (·.reservedMinor)) :
    rejectCreditGrantCapacityBaselineInsert s 2
      ((carriedVersion s new).move new.amountMinor new.kind) = .ok (captureVersion s new) := by
  have hnot : ¬ s.latestMinor new.tenantId new.grantId (·.reservedMinor) < new.amountMinor :=
    not_lt.mpr hle
  simp only [rejectCreditGrantCapacityBaselineInsert, move_sourceEntryId, move_sourceAllocationId,
    move_sourceHoldId, move_tenantId, move_grantId, carriedVersion, hfind, hkind, if_true, hhold,
    activeCreditGrantReservation]
  simp [raiseIf, Truth.of, numNonnulls, hnot, captureVersion, carriedVersion,
    CreditGrantCapacityVersion.move, bind, Except.bind]

/-- Its counters pass the CHECK constraints. -/
theorem checkCapacityVersion_capture (hcounters : CountersChecked s new.tenantId new.grantId)
    (hpos : 0 < new.amountMinor)
    (hle : new.amountMinor ≤ s.latestMinor new.tenantId new.grantId (·.reservedMinor)) :
    checkCapacityVersion (captureVersion s new) = .ok () := by
  obtain ⟨hversion, hgranted, hreversed, hconsumed, hcompensated, hexpired, hremaining,
    hreserved⟩ := hcounters
  rw [checkCapacityVersion_eq_ok_iff]
  simp only [captureVersion, carriedVersion]
  refine ⟨?_, ⟨hgranted, hreversed, ?_, hcompensated, hexpired, ?_⟩, ?_, ?_, ?_⟩ <;> omega

/-- No other version has its number or its source. -/
theorem uniqueCapacityVersion_capture (hs : ReserveInvariant s)
    (hgrant : s.creditGrant? new.grantId = some linked.grant)
    (htenant : linked.grant.tenantId = new.tenantId)
    (hfresh : ∀ l ∈ s.creditGrantEntries, ¬ (l.grantId = new.grantId ∧ l.entryId = new.entryId)) :
    uniqueCapacityVersion s (captureVersion s new) = .ok () := by
  have hversions : ∀ v ∈ s.creditGrantCapacityVersions, v.grantId = new.grantId →
      v ∈ s.versionsOf new.tenantId new.grantId := fun v hv hid =>
    htenant ▸ mem_versionsOf_grant hs hgrant hv hid
  simp only [uniqueCapacityVersion, bind_eq_ok_iff, require_eq_ok_iff, exists_const]
  refine ⟨?_, fun _ => ?_, fun hsome => ?_, fun hsome => ?_⟩
  · rintro v hv ⟨hid, hversion⟩
    exact version_ne_next hs (hversions v hv hid) hversion
  · rintro v hv ⟨hid, hsource⟩
    obtain ⟨l, hl, hrow⟩ := exists_lineage_of_source hs (hversions v hv hid) hsource
    exact hfresh l hl hrow
  · simp [captureVersion, carriedVersion] at hsome
  · simp [captureVersion, carriedVersion] at hsome

/-- A capture that the lineage table accepts is accepted by the version table. -/
theorem appendCapture_accepted (hs : ReserveInvariant s)
    (hcheck : checkCreditGrantEntry now s new = .ok ())
    (haccepted : AcceptedLineage now s new linked) (hkind : new.kind = .consumption)
    (hhold : linked.transaction.holdId = some holdId) :
    ∃ s', appendCreditGrantCapacityVersion (s.addCreditGrantEntry new) new = .ok s' := by
  have hstep : RowStep now s (s.addCreditGrantEntry new) := .creditGrantEntry hcheck
  have hrows := hstep.extends.linked haccepted.linkedRows
  have hle := amount_le_reserved hs haccepted hkind hhold
  have hmem : new ∈ (s.addCreditGrantEntry new).creditGrantEntries :=
    List.mem_append_right _ (List.mem_singleton_self new)
  have hgrant := haccepted.linkedRows.grant
  have hfind := find?_lineage (hstep.grounded hs.grounded).keys.creditGrantEntries hmem
  have hbefore := rejectBaseline_capture hfind hkind (hrows.lineageHoldId.trans hhold) hle
  -- the row itself leaves the versions alone
  have hchecks : checkCapacityVersion (captureVersion s new) = .ok () :=
    checkCapacityVersion_capture (countersChecked hs new.tenantId new.grantId)
      haccepted.amountPos hle
  have hunique : uniqueCapacityVersion s (captureVersion s new) = .ok () :=
    uniqueCapacityVersion_capture hs hgrant haccepted.linkedRows.grantTenant haccepted.fresh
  refine ⟨_, insertCapacityVersion_of_row hbefore hchecks hunique ?_⟩
  simp only [foreignKeysCapacityVersion, bind_eq_ok_iff, require_eq_ok_iff, exists_const]
  refine ⟨?_, fun _ => ⟨new, hmem, rfl, rfl⟩, by simp [captureVersion, carriedVersion],
    by simp [captureVersion, carriedVersion]⟩
  refine (Option.any_eq_true _ _).mpr ⟨linked.grant, hgrant, decide_eq_true ?_⟩
  exact ⟨haccepted.linkedRows.grantTenant, haccepted.linkedRows.grantLedger,
    haccepted.linkedRows.grantAccount⟩

end Capture

/-! ### Voids -/

section Void

variable {s s₁ : Db} {old : Hold} {grant : CreditGrant}

/-- The version of a release: the latest one with less reserved. -/
def releaseVersion (latest : CreditGrantCapacityVersion) (holdId : Uuid) (amount : Int) :
    CreditGrantCapacityVersion :=
  { latest with
    sourceEntryId := none
    sourceAllocationId := none
    sourceHoldId := some holdId
    version := latest.version + 1
    reservedMinor := latest.reservedMinor + amount }

/-- Tables in which releases of other grants may have been appended already. -/
structure ReleasedOthers (s s₁ : Db) (t g : Uuid) : Prop where
  tables : SameTables s s₁
  versions : s₁.versionsOf t g = s.versionsOf t g
  grants : VersionsScoped s₁

/-- What the tables still say of the latest version of the grant. -/
structure LatestVersion (s : Db) (t g : Uuid) (latest : CreditGrantCapacityVersion) : Prop where
  found : s.latestVersion t g = some latest
  columns : ∀ column, s.latestMinor t g column = column latest
  grantId : latest.grantId = g

theorem latestVersion_of_some {t g : Uuid} {latest : CreditGrantCapacityVersion}
    (h : s.latestVersion t g = some latest) : LatestVersion s t g latest := by
  refine ⟨h, fun column => ?_, (latestVersion_mem h).2⟩
  rw [Db.latestMinor, h, Option.map_some, Option.getD_some]

/-- The counters of a release pass the CHECK constraints. -/
theorem checkCapacityVersion_release {t g : Uuid} {latest : CreditGrantCapacityVersion}
    (hlatest : LatestVersion s t g latest) (hcounters : CountersChecked s t g) {amount : Int}
    (hneg : amount ≤ 0) (hle : - amount ≤ s.latestMinor t g (·.reservedMinor)) :
    checkCapacityVersion (releaseVersion latest old.id amount) = .ok () := by
  obtain ⟨hversion, hgranted, hreversed, hconsumed, hcompensated, hexpired, hremaining,
    hreserved⟩ := hcounters
  simp only [hlatest.columns] at *
  rw [checkCapacityVersion_eq_ok_iff]
  simp only [releaseVersion]
  refine ⟨?_, ⟨hgranted, hreversed, hconsumed, hcompensated, hexpired, ?_⟩, hremaining, ?_, ?_⟩ <;>
    omega

section Release

variable (hs : ReserveInvariant s) (hmem : old ∈ s.holds) (hheld : old.state = .held)
  (hgrant : s.creditGrant? grant.id = some grant) (htenant : grant.tenantId = old.tenantId)
include hs hmem hheld hgrant htenant

/-- No other version has the number, and the hold is no source of one. -/
theorem uniqueCapacityVersion_release {latest : CreditGrantCapacityVersion} {amount : Int}
    (hothers : ReleasedOthers s s₁ old.tenantId grant.id)
    (hlatest : LatestVersion s old.tenantId grant.id latest) :
    uniqueCapacityVersion s₁ (releaseVersion latest old.id amount) = .ok () := by
  have hversions : ∀ v ∈ s₁.creditGrantCapacityVersions, v.grantId = latest.grantId →
      v ∈ s.versionsOf old.tenantId grant.id := by
    intro v hv hid
    rw [hlatest.grantId] at hid
    obtain ⟨grant', hfound, hscope, -⟩ := hothers.grants v hv
    obtain ⟨versions, rfl⟩ := hothers.tables
    obtain rfl := Option.some.inj (hgrant.symm.trans (hid ▸ hfound))
    rw [← hothers.versions]
    exact List.mem_filter.mpr ⟨hv, decide_eq_true ⟨hscope.symm.trans htenant, hid⟩⟩
  simp only [uniqueCapacityVersion, bind_eq_ok_iff, require_eq_ok_iff, exists_const]
  refine ⟨?_, fun hsome => ?_, fun hsome => ?_, fun _ => ?_⟩
  · rintro v hv ⟨hid, hversion⟩
    rw [releaseVersion, ← hlatest.columns (·.version)] at hversion
    exact version_ne_next hs (hversions v hv hid) hversion
  · simp [releaseVersion] at hsome
  · simp [releaseVersion] at hsome
  · rintro v hv ⟨hid, hsource⟩
    obtain ⟨hold, hhold, hholdId, hvoided⟩ := voided_of_source hs (hversions v hv hid) hsource
    have hsame : hold = old :=
      List.inj_on_of_nodup_map hs.grounded.keys.holds hhold hmem hholdId
    rw [hsame, hheld] at hvoided
    cases hvoided

/-- A release of reserve that is there is appended. -/
theorem appendRelease_accepted {amount : Int} (hneg : amount < 0)
    (hle : - amount ≤ s.latestMinor old.tenantId grant.id (·.reservedMinor))
    (hothers : ReleasedOthers s s₁ old.tenantId grant.id) :
    ∃ s₂, appendCreditGrantReservationVersion 1 s₁ old.tenantId grant.id amount none
      (some old.id) = .ok s₂ := by
  have hunique : ∀ latest, LatestVersion s old.tenantId grant.id latest →
      uniqueCapacityVersion s₁ (releaseVersion latest old.id amount) = .ok () := fun _ hlatest =>
    uniqueCapacityVersion_release hs hmem hheld hgrant htenant hothers hlatest
  have hcounters := countersChecked hs old.tenantId grant.id
  have hsame : s₁.latestVersion old.tenantId grant.id = s.latestVersion old.tenantId grant.id := by
    rw [Db.latestVersion, hothers.versions, Db.latestVersion]
  cases hfound : s.latestVersion old.tenantId grant.id with
  | none =>
      -- without an issuance nothing is reserved
      rw [Db.latestMinor, hfound, Option.map_none, Option.getD_none] at hle
      omega
  | some latest =>
      have hlatest := latestVersion_of_some hfound
      have hrow : latest ∈ s.creditGrantCapacityVersions :=
        (List.mem_filter.mp (latestBy_mem hfound)).1
      have hbefore : rejectCreditGrantCapacityBaselineInsert s₁ 2
          (releaseVersion latest old.id amount) = .ok (releaseVersion latest old.id amount) := rfl
      have hforeign : foreignKeysCapacityVersion s₁ (releaseVersion latest old.id amount) =
          .ok () := by
        obtain ⟨versions, rfl⟩ := hothers.tables
        obtain ⟨grant', hgrant', hscope⟩ := hs.versions latest hrow
        simp only [foreignKeysCapacityVersion, bind_eq_ok_iff, require_eq_ok_iff, exists_const]
        refine ⟨?_, by simp [releaseVersion], by simp [releaseVersion], ?_⟩
        · exact (Option.any_eq_true _ _).mpr ⟨grant', hgrant', decide_eq_true hscope⟩
        · intro id hid
          obtain rfl := Option.some.inj hid
          exact Option.isSome_iff_exists.mpr ⟨old, hold?_of_mem hs.grounded hmem⟩
      have hinsert := insertCapacityVersion_of_row hbefore
        (checkCapacityVersion_release hlatest hcounters hneg.le hle) (hunique latest hlatest)
        hforeign
      have happend : appendCreditGrantReservationVersion 1 s₁ old.tenantId grant.id amount none
          (some old.id) = insertCapacityVersion 2 s₁ (releaseVersion latest old.id amount) := by
        rw [appendCreditGrantReservationVersion, hsame, hfound]
        rfl
      exact ⟨_, happend.trans hinsert⟩

/-- The loop body of a void is not rejected. -/
theorem releaseGrant_accepted (hothers : ReleasedOthers s s₁ old.tenantId grant.id) :
    ∃ s₂, releaseGrant old s₁ grant = .ok s₂ := by
  have hle : s.holdConsumed old.tenantId grant.id old.id ≤
      s.holdAllocated old.tenantId grant.id old.id := hs.within old.tenantId grant.id old.id
  have hreserved := uncaptured_le_reserved hs hmem hheld grant.id
  rw [uncaptured] at hreserved
  have hallocated : s₁.holdAllocated old.tenantId grant.id old.id =
      s.holdAllocated old.tenantId grant.id old.id := by
    obtain ⟨versions, rfl⟩ := hothers.tables
    rfl
  have hconsumed : s₁.holdConsumed old.tenantId grant.id old.id =
      s.holdConsumed old.tenantId grant.id old.id := by
    obtain ⟨versions, rfl⟩ := hothers.tables
    rfl
  simp only [releaseGrant, hallocated, hconsumed, raiseIf_eq_ok_iff, bind_eq_ok_iff]
  by_cases hlt : s.holdConsumed old.tenantId grant.id old.id <
      s.holdAllocated old.tenantId grant.id old.id
  · rw [if_pos hlt]
    obtain ⟨s₂, happend⟩ := appendRelease_accepted hs hmem hheld hgrant htenant
      (sub_neg.mpr hlt) (by omega) hothers
    exact ⟨s₂, (), by simpa [Truth.of] using hle, happend⟩
  · exact ⟨s₁, (), by simpa [Truth.of] using hle, by rw [if_neg hlt]⟩

end Release

/-- The releases of a hold leave the versions of all other grants alone. -/
theorem ReleasedOthers.release {s₂ : Db} {t g : Uuid} (h : ReleasedOthers s s₁ t g)
    (hne : grant.id ≠ g) (hrelease : releaseGrant old s₁ grant = .ok s₂) :
    ReleasedOthers s s₂ t g := by
  refine ⟨h.tables.trans (releaseGrant_step hrelease).2, ?_, releaseGrant_scoped hrelease h.grants⟩
  rcases releaseGrant_ok hrelease with ⟨-, rfl⟩ | ⟨-, happend⟩
  · exact h.versions
  · obtain ⟨v, rfl, -, hid, -⟩ := happend.row
    have hother : ¬ (v.tenantId = t ∧ v.grantId = g) := fun hscope =>
      hne (hid.symm.trans hscope.2)
    rw [versionsOf_addCapacityVersion, if_neg hother, List.append_nil]
    exact h.versions

/-- Nor is the loop, as it visits each grant once. -/
theorem releaseLoop_accepted (hs : ReserveInvariant s) (hmem : old ∈ s.holds)
    (hheld : old.state = .held) {grants : List CreditGrant}
    (hgrants : ∀ g ∈ grants, s.creditGrant? g.id = some g ∧ g.tenantId = old.tenantId)
    (honce : UniqueKey CreditGrant.id grants)
    (hothers : ∀ g ∈ grants, ReleasedOthers s s₁ old.tenantId g.id) :
    ∃ s₂, grants.foldlM (releaseGrant old) s₁ = .ok s₂ := by
  induction grants generalizing s₁ with
  | nil => exact ⟨s₁, rfl⟩
  | cons g rest ih =>
      obtain ⟨hgrant, htenant⟩ := hgrants g List.mem_cons_self
      obtain ⟨mid, hmid⟩ :=
        releaseGrant_accepted hs hmem hheld hgrant htenant (hothers g List.mem_cons_self)
      have hdistinct := List.nodup_cons.mp honce
      obtain ⟨s₂, hrest⟩ := ih (fun g' hg' => hgrants g' (List.mem_cons_of_mem g hg'))
        hdistinct.2 fun g' hg' => by
          refine (hothers g' (List.mem_cons_of_mem g hg')).release (fun hid => ?_) hmid
          exact hdistinct.1 (hid ▸ List.mem_map_of_mem hg')
      exact ⟨s₂, foldlM_cons_eq_ok_iff.mpr ⟨mid, hmid, hrest⟩⟩

/-- A void is not rejected while it releases. -/
theorem releaseGrantHoldReservations_accepted (hs : ReserveInvariant s) (hmem : old ∈ s.holds)
    (hheld : old.state = .held) (new : Hold) :
    ∃ released, releaseGrantHoldReservations s old new = .ok released := by
  unfold releaseGrantHoldReservations
  split
  · exact ⟨s, rfl⟩
  · split
    · exact ⟨s, rfl⟩
    · refine releaseLoop_accepted hs hmem hheld (fun g hg => ?_) (grantsOfHold_once hs.grounded)
        fun g _ => ⟨SameTables.refl s, rfl, hs.versions⟩
      rw [Db.grantsOfHold, List.mem_insertionSort] at hg
      obtain ⟨hrow, hscope⟩ := List.mem_filter.mp hg
      exact ⟨lookup_key hs.grounded.keys.creditGrants hrow, (of_decide_eq_true hscope).1⟩

end Void

/-! ## The guards agree -/

/-- What one guard lets through, the guards behind it let through. -/
structure GuardsAgree (s : Db) : Prop where
  /-- a capture that is rejected is rejected by the lineage table -/
  capture : ∀ now new e, new.kind = .consumption → (s.lineageHoldId new).isSome →
    (Statement.insertCreditGrantEntries [new]).exec now s = .error e →
    checkCreditGrantEntry now s new = .error e
  /-- a void that passes the lifecycle guard is released in full -/
  void : ∀ id old new, s.hold? id = some old → guardHoldUpdate old new = .ok () →
    new.state = .voided → ∃ released, releaseGrantHoldReservations s old new = .ok released

theorem guardsAgree_of_invariant {s : Db} (hs : ReserveInvariant s) : GuardsAgree s := by
  constructor
  · intro now new e hkind hlinked herror
    rw [exec_insertCreditGrantEntry] at herror
    cases hcheck : checkCreditGrantEntry now s new with
    | error e' =>
        rw [hcheck] at herror
        have hsame : (Except.error e' : Except SqlError Db) = .error e := herror
        rw [Except.error.inj hsame]
    | ok _ =>
        obtain ⟨linked, haccepted⟩ := checkCreditGrantEntry_ok hcheck
        rw [haccepted.linkedRows.lineageHoldId] at hlinked
        obtain ⟨holdId, hhold⟩ := Option.isSome_iff_exists.mp hlinked
        obtain ⟨s', happend⟩ := appendCapture_accepted hs hcheck haccepted hkind hhold
        rw [hcheck] at herror
        have hok : Except.ok s' = Except.error e := happend.symm.trans herror
        cases hok
  · intro id old new hfound hguard _
    exact releaseGrantHoldReservations_accepted hs (mem_of_lookup hfound)
      (guardHoldUpdate_ok hguard).held new

/-- The guards agree in every state that accepted statements of any kind lead to; the rows
of one UPDATE of holds pass through such states too. -/
theorem reservation_guards_agree {steps : List (Timestamp × Change)} {s : Db}
    (h : runChanges Db.empty steps = .ok s) : GuardsAgree s :=
  guardsAgree_of_invariant (runChanges_reserveInvariant h)

namespace Sample

/-- A second hold, of 30 of the same grant. -/
def secondReservation : List Statement :=
  [.insertHolds [⟨401, 1, 5, "order 2", "USD", 1, none, .held, 30, 30, 2, none, none⟩],
    .insertHoldEntries [⟨502, 1, 401, 10, 30, 1⟩, ⟨503, 1, 401, 11, -30, 1⟩],
    .insertCreditGrantHoldAllocations [⟨601, 1, 5, 10, 300, 502, 30⟩]]

/-- Both holds are made and 40 of the first is posted, not attributed yet; an asset is
renamed in between. -/
def beforeCapture : List (Timestamp × Change) :=
  twoAssets ++ [renameEuro] ++
    (reservation ++ secondReservation ++ capture.take 2).map fun stmt => (3, .statement stmt)

end Sample

/-- The capture of 40 and the void of the rest are accepted. -/
theorem reservation_guards_agree_sample :
    GuardsAgree (Sample.stateAfterSteps Sample.beforeCapture) ∧
      (runChanges Db.empty (Sample.beforeCapture ++
        ((Sample.capture.drop 2) ++ Sample.void).map fun stmt => (4, .statement stmt))).toBool =
          true :=
  ⟨reservation_guards_agree (Sample.runChanges_stateAfter (by rfl)), by rfl⟩

end LuxLedger.Credit
