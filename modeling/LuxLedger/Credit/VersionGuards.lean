/-
  Credit/VersionGuards.lean --- the capacity versions refuse nothing that the validators
  of lineage and allocations let through.

  A statement of many rows validates each row against the versions as they were when it
  began, and appends the versions of the rows afterwards.  Rows of different grants append
  to different chains, so whatever passed the validators passes the BEFORE trigger, the
  CHECK constraints, the unique indexes and the foreign keys of the version table.
-/
import LuxLedger.Credit.ReservationGuards
import LuxLedger.Relational.Progress

set_option autoImplicit false

namespace LuxLedger.Credit

open LuxLedger.Schema LuxLedger.Relational

/-! ## The next version of a grant -/

/-- Rows are stored, and versions of other grants may have been appended already. -/
structure VersionsKept (s s₁ : Db) (t g : Uuid) : Prop where
  versions : s₁.versionsOf t g = s.versionsOf t g
  grants : s₁.creditGrants = s.creditGrants
  refer : VersionsScoped s₁

section Next

variable {s s₁ : Db} {t g : Uuid}

theorem VersionsKept.latestMinor (h : VersionsKept s s₁ t g)
    (column : CreditGrantCapacityVersion → Int) :
    s₁.latestMinor t g column = s.latestMinor t g column := by
  rw [Db.latestMinor, Db.latestVersion, h.versions]
  rfl

/-- The writers of other grants leave the versions of the grant alone. -/
theorem VersionsKept.append {s₂ : Db} {t' g' : Uuid} {e : CapacityEvent Uuid}
    (h : VersionsKept s s₁ t g) (happend : Appended s₁ t' g' e s₂) (hne : g' ≠ g)
    (hrefer : VersionsScoped s₂) : VersionsKept s s₂ t g := by
  obtain ⟨v, rfl, -, hid, -⟩ := happend.row
  refine ⟨?_, h.grants, hrefer⟩
  have hother : ¬ (v.tenantId = t ∧ v.grantId = g) := fun hscope => hne (hid.symm.trans hscope.2)
  rw [versionsOf_addCapacityVersion, if_neg hother, List.append_nil]
  exact h.versions

/-- A version under the next number with a source of its own is no duplicate. -/
theorem uniqueCapacityVersion_next (hs : ReserveInvariant s) {v : CreditGrantCapacityVersion}
    {grant : CreditGrant} (hgrant : s.creditGrant? g = some grant) (htenant : grant.tenantId = t)
    (hkept : VersionsKept s s₁ t g) (hid : v.grantId = g)
    (hnext : v.version = s.latestMinor t g (·.version) + 1)
    (hentry : ∀ id ∈ v.sourceEntryId, ∀ l ∈ s.creditGrantEntries,
      ¬ (l.grantId = g ∧ l.entryId = id))
    (hallocation : ∀ id ∈ v.sourceAllocationId, ∀ u ∈ s₁.creditGrantCapacityVersions,
      u.sourceAllocationId ≠ some id)
    (hhold : v.sourceHoldId = none) : uniqueCapacityVersion s₁ v = .ok () := by
  have hversions : ∀ u ∈ s₁.creditGrantCapacityVersions, u.grantId = v.grantId →
      u ∈ s.versionsOf t g := by
    intro u hu hsame
    obtain ⟨grant', hfound, hscope, -⟩ := hkept.refer u hu
    rw [Db.creditGrant?, hkept.grants, hsame, hid] at hfound
    obtain rfl := Option.some.inj (hgrant.symm.trans hfound)
    rw [← hkept.versions]
    exact List.mem_filter.mpr ⟨hu, decide_eq_true ⟨hscope.symm.trans htenant, hsame.trans hid⟩⟩
  simp only [uniqueCapacityVersion, bind_eq_ok_iff, require_eq_ok_iff, exists_const]
  refine ⟨?_, fun hsome => ?_, fun hsome => ?_, fun hsome => ?_⟩
  · rintro u hu ⟨hsame, hversion⟩
    exact version_ne_next hs (hversions u hu hsame) (hversion.trans hnext)
  · obtain ⟨id, hsource⟩ := Option.isSome_iff_exists.mp hsome
    rintro u hu ⟨hsame, hsources⟩
    obtain ⟨l, hl, hrow⟩ :=
      exists_lineage_of_source hs (hversions u hu hsame) (hsources.trans hsource)
    exact hentry id hsource l hl hrow
  · obtain ⟨id, hsource⟩ := Option.isSome_iff_exists.mp hsome
    intro u hu
    rw [hsource]
    exact hallocation id hsource u hu
  · rw [hhold] at hsome
    cases hsome

end Next

/-! ## Lineage -/

/-- What the validator has found out about the amount: it is within what is free, or within
what is reserved if it is a capture. -/
def WithinCapacity (s : Db) (l : CreditGrantEntry) (onHold : Bool) : Prop :=
  let latest := s.latestMinor l.tenantId l.grantId
  match l.kind with
  | .issuance | .compensation => True
  | .consumption =>
      if onHold then l.amountMinor ≤ latest (·.reservedMinor)
      else l.amountMinor ≤ latest (·.remainingMinor) - latest (·.reservedMinor)
  | .reversal | .expiration | .refund =>
      l.amountMinor ≤ latest (·.remainingMinor) - latest (·.reservedMinor)

/-- The version of a lineage row as the BEFORE trigger returns it. -/
def lineageVersion (s : Db) (l : CreditGrantEntry) (onHold : Bool) : CreditGrantCapacityVersion :=
  { (carriedVersion s l).move l.amountMinor l.kind with
    reservedMinor := s.latestMinor l.tenantId l.grantId (·.reservedMinor) +
      lineageDelta l.kind l.amountMinor onHold .reserved }

section Columns

variable (s : Db) (l : CreditGrantEntry) (onHold : Bool)

@[simp] theorem lineageVersion_tenantId : (lineageVersion s l onHold).tenantId = l.tenantId :=
  move_tenantId ..

@[simp] theorem lineageVersion_ledgerId : (lineageVersion s l onHold).ledgerId = l.ledgerId := by
  unfold lineageVersion
  cases l.kind <;> rfl

@[simp] theorem lineageVersion_accountId :
    (lineageVersion s l onHold).accountId = l.accountId := by
  unfold lineageVersion
  cases l.kind <;> rfl

@[simp] theorem lineageVersion_grantId : (lineageVersion s l onHold).grantId = l.grantId :=
  move_grantId ..

@[simp] theorem lineageVersion_sourceEntryId :
    (lineageVersion s l onHold).sourceEntryId = some l.entryId :=
  move_sourceEntryId ..

@[simp] theorem lineageVersion_sourceAllocationId :
    (lineageVersion s l onHold).sourceAllocationId = none :=
  move_sourceAllocationId ..

@[simp] theorem lineageVersion_sourceHoldId : (lineageVersion s l onHold).sourceHoldId = none :=
  move_sourceHoldId ..

@[simp] theorem lineageVersion_version : (lineageVersion s l onHold).version =
    s.latestMinor l.tenantId l.grantId (·.version) + 1 :=
  move_version ..

end Columns

section Lineage

variable {now : Timestamp} {s s₁ stored : Db} {l : CreditGrantEntry} {linked : LinkedRows}

theorem rejectBaseline_accepted
    (hfind : s₁.creditGrantEntries.find? (fun l' => l'.tenantId = l.tenantId ∧
      l'.grantId = l.grantId ∧ l'.entryId = l.entryId) = some l)
    (hwithin : WithinCapacity s₁ l (s₁.lineageHoldId l).isSome) :
    rejectCreditGrantCapacityBaselineInsert s₁ 2 ((carriedVersion s₁ l).move l.amountMinor l.kind) =
      .ok (lineageVersion s₁ l (s₁.lineageHoldId l).isSome) := by
  unfold WithinCapacity at hwithin
  simp only [rejectCreditGrantCapacityBaselineInsert, move_sourceEntryId, move_sourceAllocationId,
    move_sourceHoldId, move_tenantId, move_grantId, carriedVersion, hfind,
    activeCreditGrantReservation]
  by_cases hkind : l.kind = .consumption
  · cases hhold : s₁.lineageHoldId l with
    | none =>
        simp [raiseIf, Truth.of, numNonnulls, hkind, lineageVersion, carriedVersion,
          lineageDelta, bind, Except.bind]
    | some holdId =>
        simp only [hkind, hhold, Option.isSome_some, if_true] at hwithin
        simp [raiseIf, Truth.of, numNonnulls, hkind, not_lt.mpr hwithin, lineageVersion,
          carriedVersion, lineageDelta, sub_eq_add_neg, bind, Except.bind]
  · simp [raiseIf, Truth.of, numNonnulls, hkind, lineageVersion, carriedVersion, lineageDelta, bind,
      Except.bind]

theorem checkCapacityVersion_lineage (hs : ReserveInvariant s) (hpos : 0 < l.amountMinor)
    {onHold : Bool} (hwithin : WithinCapacity s l onHold) :
    checkCapacityVersion (lineageVersion s l onHold) = .ok () := by
  obtain ⟨hversion, hgranted, hreversed, hconsumed, hcompensated, hexpired, hremaining,
    hreservedLe⟩ := countersChecked hs l.tenantId l.grantId
  have hreserved := (capacityFold_of_tracks hs.tracks l.tenantId l.grantId).reservedNonneg
  rw [checkCapacityVersion_eq_ok_iff]
  unfold WithinCapacity at hwithin
  cases hkind : l.kind <;> cases onHold <;>
    simp [hkind, lineageVersion, carriedVersion, CreditGrantCapacityVersion.move,
      lineageDelta] at hwithin ⊢ <;> omega

/-- The tables with rows of the statement stored. -/
def Db.withLineage (s : Db) (rows : List CreditGrantEntry) : Db :=
  { s with creditGrantEntries := s.creditGrantEntries ++ rows }

theorem foldl_addCreditGrantEntry (s : Db) (rows : List CreditGrantEntry) :
    rows.foldl Db.addCreditGrantEntry s = Db.withLineage s rows := by
  induction rows generalizing s with
  | nil => simp [Db.withLineage]
  | cons l rest ih =>
      rw [List.foldl_cons, ih]
      simp [Db.withLineage, Db.addCreditGrantEntry]

/-- Whatever rows of the statement are in already, the amount is within the capacity that
the grant had before. -/
theorem withinCapacity_of_accepted {rows : List CreditGrantEntry} (hs : ReserveInvariant s)
    (hsteps : RowSteps now s (Db.withLineage s rows))
    (haccepted : AcceptedLineage now (Db.withLineage s rows) l linked) :
    WithinCapacity s l linked.transaction.holdId.isSome := by
  have hkind := haccepted.kind
  unfold AcceptedKind at hkind
  unfold WithinCapacity
  cases hk : l.kind with
  | issuance | compensation => trivial
  | reversal =>
      simp only [hk] at hkind
      obtain ⟨-, -, -, -, -, hamount, hremaining, hreserved, -⟩ := hkind
      change l.amountMinor = s.latestMinor _ _ _ at hamount
      change s.latestMinor _ _ _ = s.latestMinor _ _ _ at hremaining
      change s.latestMinor _ _ _ = 0 at hreserved
      change _ ≤ s.latestMinor _ _ _ - s.latestMinor _ _ _
      rw [hamount, hremaining, hreserved]
      exact (sub_zero _).ge
  | expiration =>
      simp only [hk] at hkind
      exact hkind.2.2.2.1
  | refund =>
      simp only [hk] at hkind
      exact hkind.2.2.2.2.2.1
  | consumption =>
      cases hhold : linked.transaction.holdId with
      | none =>
          simp only [hk, hhold] at hkind
          exact hkind.2.1
      | some holdId =>
          simp only [hk, hhold] at hkind
          obtain ⟨-, -, hbound⟩ := hkind
          have hgrounded : Grounded (Db.withLineage s rows) := hsteps.grounded hs.grounded
          obtain ⟨hold, hfound, htenant, hheld⟩ :=
            heldHold_of_capture hgrounded.links haccepted hk hhold
          have hid : hold.id = holdId := key_of_lookup hfound
          have hrows : (Db.withLineage s rows).creditGrantEntries = s.creditGrantEntries ++ rows :=
            rfl
          have hconsumed := holdConsumed_extends hs.grounded.links (RowSteps.extends hsteps) hrows
            l.tenantId l.grantId holdId
          have hmore : 0 ≤ sumWhere rows (fun l' => l'.tenantId = l.tenantId ∧
              l'.grantId = l.grantId ∧ l'.kind = .consumption ∧
              (Db.withLineage s rows).lineageHoldId l' = some holdId) (·.amountMinor) :=
            sumWhere_nonneg fun l' hl' _ =>
              (hgrounded.links.amounts l' (List.mem_append_right _ hl')).le
          have hallocated := heldAllocation_le hs.grounded.links l.tenantId l.grantId holdId
          have hreserved := uncaptured_le_reserved hs (mem_of_lookup hfound) hheld l.grantId
          rw [uncaptured, htenant, hid] at hreserved
          change _ ≤ heldAllocation s _ _ _ at hbound
          simp only [Option.isSome_some, if_true]
          omega

theorem VersionsKept.lineageVersion (h : VersionsKept s s₁ l.tenantId l.grantId) (onHold : Bool) :
    lineageVersion s₁ l onHold = lineageVersion s l onHold := by
  simp only [Credit.lineageVersion, carriedVersion, h.latestMinor]

theorem VersionsKept.within {onHold : Bool} (h : VersionsKept s s₁ l.tenantId l.grantId)
    (hwithin : WithinCapacity s l onHold) : WithinCapacity s₁ l onHold := by
  simp only [WithinCapacity, h.latestMinor] at hwithin ⊢
  exact hwithin

/-- What a lineage row finds when its version is due: it is stored and new, its amount is
within the capacity, and at most versions of other grants have been appended. -/
structure LineageReady (s stored s₁ : Db) (l : CreditGrantEntry) : Prop where
  mem : l ∈ stored.creditGrantEntries
  tables : SameTables stored s₁
  kept : VersionsKept s s₁ l.tenantId l.grantId
  within : WithinCapacity s l (stored.lineageHoldId l).isSome
  fresh : ∀ l' ∈ s.creditGrantEntries, ¬ (l'.grantId = l.grantId ∧ l'.entryId = l.entryId)
  grant : ∃ g, s.creditGrant? l.grantId = some g ∧ g.tenantId = l.tenantId ∧
    g.ledgerId = l.ledgerId ∧ g.accountId = l.accountId
  amountPos : 0 < l.amountMinor

/-- Its version is accepted. -/
theorem LineageReady.accepted (hs : ReserveInvariant s) (hgrounded : Grounded stored)
    (h : LineageReady s stored s₁ l) : ∃ s₂, appendCreditGrantCapacityVersion s₁ l = .ok s₂ := by
  obtain ⟨hmem, ⟨versions, rfl⟩, hkept, hwithin, hfresh, ⟨g, hgrant, htenant, hscope⟩, hpos⟩ := h
  have hfind := find?_lineage hgrounded.keys.creditGrantEntries hmem
  have hbefore := @rejectBaseline_accepted { stored with creditGrantCapacityVersions := versions } l
    hfind (hkept.within hwithin)
  rw [hkept.lineageVersion] at hbefore
  have hcheck := checkCapacityVersion_lineage hs hpos hwithin
  have hunique : uniqueCapacityVersion { stored with creditGrantCapacityVersions := versions }
      (lineageVersion s l (stored.lineageHoldId l).isSome) = .ok () := by
    refine uniqueCapacityVersion_next hs hgrant htenant hkept (lineageVersion_grantId ..)
      (lineageVersion_version ..) (fun id hid => ?_) (fun id hid => ?_)
      (lineageVersion_sourceHoldId ..)
    · rw [lineageVersion_sourceEntryId, Option.mem_some_iff] at hid
      exact hid ▸ hfresh
    · rw [lineageVersion_sourceAllocationId] at hid
      cases hid
  refine ⟨_, insertCapacityVersion_of_row hbefore hcheck hunique ?_⟩
  simp only [foreignKeysCapacityVersion, bind_eq_ok_iff, require_eq_ok_iff, exists_const]
  refine ⟨?_, fun _ => ⟨l, hmem, by simp⟩, by simp, by simp⟩
  refine (Option.any_eq_true _ _).mpr ⟨g, ?_, by simp [htenant, hscope]⟩
  rw [lineageVersion_grantId, Db.creditGrant?, hkept.grants]
  exact hgrant

/-- And leaves the rows of other grants ready. -/
theorem LineageReady.keep {s₂ : Db} {l' : CreditGrantEntry} (hgrounded : Grounded stored)
    (h : LineageReady s stored s₁ l) (happend : appendCreditGrantCapacityVersion s₁ l = .ok s₂)
    (hne : l.grantId ≠ l'.grantId) (h' : LineageReady s stored s₁ l') :
    LineageReady s stored s₂ l' := by
  have hsame : SameTables s₁ s₂ := (insertCapacityVersion_step happend).2
  have hrefer : VersionsScoped s₂ := insertCapacityVersion_scoped happend h.kept.refer
  have hfind : s₁.creditGrantEntries.find? (fun l₁ => l₁.tenantId = l.tenantId ∧
      l₁.grantId = l.grantId ∧ l₁.entryId = l.entryId) = some l := by
    obtain ⟨versions, rfl⟩ := h.tables
    exact find?_lineage hgrounded.keys.creditGrantEntries h.mem
  have happended := appendCreditGrantCapacityVersion_ok hfind happend
  exact { h' with
    tables := h'.tables.trans hsame
    kept := h'.kept.append happended hne hrefer }

/-- Lineage of different grants is stored if the validator lets each row through. -/
theorem insertLineage_accepted (hs : ReserveInvariant s) {rows : List CreditGrantEntry}
    (hdistinct : UniqueKey CreditGrantEntry.grantId rows)
    (h : insertEach (checkCreditGrantEntry now) Db.addCreditGrantEntry rows s = .ok stored) :
    ∃ s', (Statement.insertCreditGrantEntries rows).exec now s = .ok s' := by
  have hsteps : ∀ {s₁ s₂ more},
      insertEach (checkCreditGrantEntry now) Db.addCreditGrantEntry more s₁ = .ok s₂ →
      RowSteps now s₁ s₂ :=
    insertEach_steps fun _ _ _ hcheck => .creditGrantEntry hcheck
  have hstored : stored = Db.withLineage s rows :=
    (eq_foldl_of_insertEach h).trans (foldl_addCreditGrantEntry s rows)
  have hgrounded : Grounded stored := RowSteps.grounded (hsteps h) hs.grounded
  have hready : ∀ l ∈ rows, LineageReady s stored stored l := by
    intro l hl
    obtain ⟨before, rest, rfl⟩ := List.append_of_mem hl
    have hcheck := insertEach_checked h
    obtain ⟨hbefore, hrest⟩ := insertEach_split h
    rw [foldl_addCreditGrantEntry] at hcheck hbefore hrest
    obtain ⟨linked, haccepted⟩ := checkCreditGrantEntry_ok hcheck
    have hrows := (RowSteps.extends (hsteps hrest)).linked haccepted.linkedRows
    exact
      { mem := hstored ▸ List.mem_append_right _ hl
        tables := SameTables.refl stored
        kept := hstored ▸ ⟨rfl, rfl, hs.versions⟩
        within := by
          rw [hrows.lineageHoldId]
          exact withinCapacity_of_accepted hs (hsteps hbefore) haccepted
        fresh := fun l' hl' => haccepted.fresh l' (List.mem_append_left _ hl')
        grant := ⟨linked.grant, haccepted.linkedRows.grant, haccepted.linkedRows.grantTenant,
          haccepted.linkedRows.grantLedger, haccepted.linkedRows.grantAccount⟩
        amountPos := haccepted.amountPos }
  have haccepted : ∀ s₁ l, LineageReady s stored s₁ l →
      ∃ s₂, appendCreditGrantCapacityVersion s₁ l = .ok s₂ :=
    fun _ _ hl => hl.accepted hs hgrounded
  obtain ⟨s', hs'⟩ := foldlM_progress haccepted
    (fun _ _ _ _ hl happend hne hl' => hl.keep hgrounded happend hne hl') hdistinct hready
  exact ⟨s', insertRows_eq_ok_iff.mpr ⟨stored, h, hs'⟩⟩

end Lineage

/-! ## Allocations -/

/-- A version made by an allocation has the row. -/
theorem exists_allocation_of_source {s : Db} (hs : ReserveInvariant s)
    {v : CreditGrantCapacityVersion} (hv : v ∈ s.creditGrantCapacityVersions) {id : Uuid}
    (hsource : v.sourceAllocationId = some id) :
    ∃ a ∈ s.creditGrantHoldAllocations, a.id = id := by
  have hmem : id ∈ (s.versionsOf v.tenantId v.grantId).filterMap (·.sourceAllocationId) :=
    List.mem_filterMap.mpr ⟨v, List.mem_filter.mpr ⟨hv, decide_eq_true ⟨rfl, rfl⟩⟩, hsource⟩
  rw [(capacityFold_of_tracks hs.tracks v.tenantId v.grantId).allocationSources.mem_iff] at hmem
  obtain ⟨a, ha, hid⟩ := List.mem_map.mp hmem
  exact ⟨a, (List.mem_filter.mp ha).1, hid⟩

/-- What an allocation finds when its version is due. -/
structure AllocationReady (s stored s₁ : Db) (a : CreditGrantHoldAllocation) : Prop where
  mem : a ∈ stored.creditGrantHoldAllocations
  tables : SameTables stored s₁
  kept : VersionsKept s s₁ a.tenantId a.grantId
  unused : ∀ u ∈ s₁.creditGrantCapacityVersions, u.sourceAllocationId ≠ some a.id
  grant : ∃ g, s.creditGrant? a.grantId = some g ∧ g.tenantId = a.tenantId
  amountLe : a.amountMinor ≤ s.latestMinor a.tenantId a.grantId (·.remainingMinor) -
    s.latestMinor a.tenantId a.grantId (·.reservedMinor)
  amountPos : 0 < a.amountMinor

section Allocation

variable {now : Timestamp} {s s₁ stored : Db} {a : CreditGrantHoldAllocation}

/-- The version of an allocation: the latest one with more reserved. -/
def allocationVersion (latest : CreditGrantCapacityVersion) (a : CreditGrantHoldAllocation) :
    CreditGrantCapacityVersion :=
  { latest with
    sourceEntryId := none
    sourceAllocationId := some a.id
    sourceHoldId := none
    version := latest.version + 1
    reservedMinor := latest.reservedMinor + a.amountMinor }

theorem AllocationReady.accepted (hs : ReserveInvariant s) (hgrounded : Grounded stored)
    (h : AllocationReady s stored s₁ a) :
    ∃ s₂, appendGrantAllocationReservation s₁ a = .ok s₂ := by
  obtain ⟨hmem, ⟨versions, rfl⟩, hkept, hunused, ⟨g, hgrant, htenant⟩, hle, hpos⟩ := h
  cases hfound : s.latestVersion a.tenantId a.grantId with
  | none =>
      -- without an issuance nothing is free
      simp only [Db.latestMinor, hfound, Option.map_none, Option.getD_none] at hle
      omega
  | some latest =>
      have hlatest := latestVersion_of_some hfound
      have hcheck : checkCapacityVersion (allocationVersion latest a) = .ok () := by
        obtain ⟨hversion, hgranted, hreversed, hconsumed, hcompensated, hexpired, hremaining,
          hreservedLe⟩ := countersChecked hs a.tenantId a.grantId
        have hreserved := (capacityFold_of_tracks hs.tracks a.tenantId a.grantId).reservedNonneg
        simp only [hlatest.columns] at *
        rw [checkCapacityVersion_eq_ok_iff]
        simp only [allocationVersion]
        refine ⟨?_, ⟨hgranted, hreversed, hconsumed, hcompensated, hexpired, ?_⟩, hremaining,
          ?_, ?_⟩ <;> omega
      have hunique : uniqueCapacityVersion { stored with creditGrantCapacityVersions := versions }
          (allocationVersion latest a) = .ok () := by
        refine uniqueCapacityVersion_next hs hgrant htenant hkept hlatest.grantId
          (by rw [hlatest.columns]; rfl) (fun id hid => ?_) (fun id hid => ?_) rfl
        · cases hid
        · exact Option.some.inj hid ▸ hunused
      have hforeign : foreignKeysCapacityVersion
          { stored with creditGrantCapacityVersions := versions } (allocationVersion latest a) =
            .ok () := by
        have hrow : latest ∈ s.creditGrantCapacityVersions :=
          (List.mem_filter.mp (latestBy_mem hfound)).1
        obtain ⟨grant', hgrant', hscope⟩ := hs.versions latest hrow
        simp only [foreignKeysCapacityVersion, bind_eq_ok_iff, require_eq_ok_iff, exists_const]
        refine ⟨?_, by simp [allocationVersion], fun id hid => ?_, by simp [allocationVersion]⟩
        · refine (Option.any_eq_true _ _).mpr ⟨grant', ?_, decide_eq_true hscope⟩
          rw [Db.creditGrant?, hkept.grants]
          exact hgrant'
        · obtain rfl := Option.some.inj hid
          exact Option.isSome_iff_exists.mpr ⟨a, lookup_key hgrounded.keys.allocations hmem⟩
      have hbefore : rejectCreditGrantCapacityBaselineInsert
          { stored with creditGrantCapacityVersions := versions } 2 (allocationVersion latest a) =
            .ok (allocationVersion latest a) := rfl
      have hinsert := insertCapacityVersion_of_row hbefore hcheck hunique hforeign
      have happend : appendGrantAllocationReservation
          { stored with creditGrantCapacityVersions := versions } a =
          insertCapacityVersion 2 { stored with creditGrantCapacityVersions := versions }
            (allocationVersion latest a) := by
        have hsame : Db.latestVersion { stored with creditGrantCapacityVersions := versions }
            a.tenantId a.grantId = some latest := by
          rw [Db.latestVersion, hkept.versions]
          exact hfound
        rw [appendGrantAllocationReservation, appendCreditGrantReservationVersion, hsame]
        rfl
      exact ⟨_, happend.trans hinsert⟩

theorem AllocationReady.keep {s₂ : Db} {a' : CreditGrantHoldAllocation}
    (hgrounded : Grounded stored) (h : AllocationReady s stored s₁ a)
    (happend : appendGrantAllocationReservation s₁ a = .ok s₂) (hne : a.grantId ≠ a'.grantId)
    (h' : AllocationReady s stored s₁ a') : AllocationReady s stored s₂ a' := by
  have hsame : SameTables s₁ s₂ := (appendCreditGrantReservationVersion_step happend).2
  have hrefer : VersionsScoped s₂ := appendCreditGrantReservationVersion_scoped happend h.kept.refer
  have happended := appendGrantAllocationReservation_ok happend
  refine { h' with
    tables := h'.tables.trans hsame
    kept := h'.kept.append happended hne hrefer
    unused := ?_ }
  obtain ⟨v, rfl, -, -, hsource, -⟩ := happended.row
  refine forall_mem_concat h'.unused ?_
  rw [hsource.allocation]
  intro hid
  have hids : a.id = a'.id := Option.some.inj hid
  exact hne (congrArg _ (List.inj_on_of_nodup_map hgrounded.keys.allocations h.mem h'.mem hids))

/-- The tables with rows of the statement stored. -/
def Db.withAllocations (s : Db) (rows : List CreditGrantHoldAllocation) : Db :=
  { s with creditGrantHoldAllocations := s.creditGrantHoldAllocations ++ rows }

theorem foldl_addCreditGrantHoldAllocation (s : Db) (rows : List CreditGrantHoldAllocation) :
    rows.foldl Db.addCreditGrantHoldAllocation s = Db.withAllocations s rows := by
  induction rows generalizing s with
  | nil => simp [Db.withAllocations]
  | cons a rest ih =>
      rw [List.foldl_cons, ih]
      simp [Db.withAllocations, Db.addCreditGrantHoldAllocation]

/-- Allocations of different grants are stored if the validator lets each row through. -/
theorem insertAllocations_accepted (hs : ReserveInvariant s)
    {rows : List CreditGrantHoldAllocation}
    (hdistinct : UniqueKey CreditGrantHoldAllocation.grantId rows)
    (h : insertEach (checkCreditGrantHoldAllocation now) Db.addCreditGrantHoldAllocation rows s =
      .ok stored) :
    ∃ s', (Statement.insertCreditGrantHoldAllocations rows).exec now s = .ok s' := by
  have hsteps : RowSteps now s stored :=
    insertEach_steps (fun _ _ _ hcheck => .allocation hcheck) h
  have hgrounded : Grounded stored := hsteps.grounded hs.grounded
  have hstored : stored = Db.withAllocations s rows :=
    (eq_foldl_of_insertEach h).trans (foldl_addCreditGrantHoldAllocation s rows)
  have hready : ∀ a ∈ rows, AllocationReady s stored stored a := by
    intro a ha
    obtain ⟨before, rest, rfl⟩ := List.append_of_mem ha
    have hcheck := insertEach_checked h
    rw [foldl_addCreditGrantHoldAllocation] at hcheck
    obtain ⟨g, he, hold, haccepted⟩ := checkCreditGrantHoldAllocation_ok hcheck
    refine
      { mem := hstored ▸ List.mem_append_right _ ha
        tables := SameTables.refl stored
        kept := hstored ▸ ⟨rfl, rfl, hs.versions⟩
        unused := ?_
        grant := ⟨g, haccepted.grant, haccepted.grantTenant⟩
        amountLe := haccepted.amountLe
        amountPos := haccepted.amountPos }
    intro u hu hsource
    have hversion : u ∈ s.creditGrantCapacityVersions := by
      rw [hstored] at hu
      exact hu
    obtain ⟨a', ha', hid⟩ := exists_allocation_of_source hs hversion hsource
    exact haccepted.freshId a' (List.mem_append_left _ ha') hid
  have haccepted : ∀ s₁ a, AllocationReady s stored s₁ a →
      ∃ s₂, appendGrantAllocationReservation s₁ a = .ok s₂ :=
    fun _ _ ha => ha.accepted hs hgrounded
  obtain ⟨s', hs'⟩ := foldlM_progress haccepted
    (fun _ _ _ _ ha happend hne ha' => ha.keep hgrounded happend hne ha') hdistinct hready
  exact ⟨s', insertRows_eq_ok_iff.mpr ⟨stored, h, hs'⟩⟩

end Allocation

/-! ## The version table decides nothing -/

/-- A statement with rows of different grants is refused only by the checks of its rows. -/
structure VersionsAgree (s : Db) : Prop where
  lineage : ∀ now rows e, UniqueKey CreditGrantEntry.grantId rows →
    ((Statement.insertCreditGrantEntries rows).exec now s = .error e ↔
      insertEach (checkCreditGrantEntry now) Db.addCreditGrantEntry rows s = .error e)
  allocations : ∀ now rows e, UniqueKey CreditGrantHoldAllocation.grantId rows →
    ((Statement.insertCreditGrantHoldAllocations rows).exec now s = .error e ↔
      insertEach (checkCreditGrantHoldAllocation now) Db.addCreditGrantHoldAllocation rows s =
        .error e)

theorem versionsAgree_of_invariant {s : Db} (hs : ReserveInvariant s) : VersionsAgree s where
  lineage _ _ _ hdistinct :=
    insertRows_eq_error_iff fun _ h => insertLineage_accepted hs hdistinct h
  allocations _ _ _ hdistinct :=
    insertRows_eq_error_iff fun _ h => insertAllocations_accepted hs hdistinct h

/-- In every state that accepted statements of any kind lead to, also in the middle of a
database transaction. -/
theorem version_table_agrees {steps : List (Timestamp × Change)} {s : Db}
    (h : runChanges Db.empty steps = .ok s) : VersionsAgree s :=
  versionsAgree_of_invariant (runChanges_reserveInvariant h)

namespace Sample

/-- Transaction 170 debits 60 twice, with nothing attributed yet. -/
def twoDebits : List Statement :=
  [.insertTransactions [⟨170, 1, 5, none, none, none, 1, 2⟩],
    .insertEntries [⟨270, 1, 170, 10, 60, 1⟩, ⟨271, 1, 170, 10, 60, 1⟩]]

/-- Both are attributed to the grant of 100. -/
def sameGrant : List CreditGrantEntry :=
  [⟨1, 5, 10, 300, 270, .consumption, 60⟩, ⟨1, 5, 10, 300, 271, .consumption, 60⟩]

/-- The log up to the attribution. -/
def beforeAttribution : List (Timestamp × Change) :=
  twoAssets ++ twoDebits.map fun stmt => (2, .statement stmt)

end Sample

/-- Rows of one grant pass the validator, each against the capacity of before, and are refused by
the version of the second. -/
theorem version_table_agrees_sample :
    VersionsAgree (Sample.stateAfterSteps Sample.beforeAttribution) ∧
      (insertEach (checkCreditGrantEntry 2) Db.addCreditGrantEntry Sample.sameGrant
        (Sample.stateAfterSteps Sample.beforeAttribution)).toBool = true ∧
      ((Statement.insertCreditGrantEntries Sample.sameGrant).exec 2
        (Sample.stateAfterSteps Sample.beforeAttribution)).toBool = false :=
  ⟨version_table_agrees (Sample.runChanges_stateAfter (by rfl)), by rfl, by rfl⟩

end LuxLedger.Credit
