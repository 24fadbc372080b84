/-
  Credit/CapacityFold.lean --- capacity versions are the fold of the history.

  The events of a grant are read off the tables: one for each lineage row, one for
  each allocation, one for each void that released something.  `Tracks` says that
  the version chain is the fold of exactly these events, and every statement keeps
  it: a multi-row INSERT first stores its rows and then appends their events one by
  one, a void appends its releases before the hold changes.
-/
import LuxLedger.Credit.Chain
import LuxLedger.Credit.Sums

set_option autoImplicit false

namespace LuxLedger.Credit

open LuxLedger.Schema LuxLedger.Relational

/-! ## The events of a grant, read off the tables -/

/-- The voided holds that had reserve of the grant left to release. -/
def releases (s : Db) (tenantId grantId : Uuid) : List Hold :=
  (s.holds.filter fun h => h.state = .voided).filter fun h => h.tenantId = tenantId ∧
    s.holdConsumed tenantId grantId h.id < s.holdAllocated tenantId grantId h.id

/-- What a void released of the grant. -/
def releaseEvent (s : Db) (tenantId grantId : Uuid) (h : Hold) : CapacityEvent Uuid :=
  .release h.id (s.holdAllocated tenantId grantId h.id - s.holdConsumed tenantId grantId h.id)

/-- One event for each lineage row, each allocation and each releasing void. -/
def capacityEvents (s : Db) : Histories := fun tenantId grantId =>
  (s.creditGrantEntries.filter fun l => l.tenantId = tenantId ∧ l.grantId = grantId).map
      (lineageEvent s) ++
    (s.creditGrantHoldAllocations.filter fun a =>
      a.tenantId = tenantId ∧ a.grantId = grantId).map allocationEvent ++
    (releases s tenantId grantId).map (releaseEvent s tenantId grantId)

section Events

variable {now : Timestamp} {s s' : Db}

theorem hold?_of_mem (hs : Grounded s) {h : Hold} (hh : h ∈ s.holds) : s.hold? h.id = some h :=
  lookup_key hs.keys.holds hh

/-- As long as no hold is voided, releases stay what they were. -/
theorem releaseEvents_extends (hs : Grounded s) (hsteps : RowSteps now s s')
    (hvoided : (s'.holds.filter fun h => h.state = .voided) =
      s.holds.filter fun h => h.state = .voided) (t g : Uuid) :
    (releases s' t g).map (releaseEvent s' t g) = (releases s t g).map (releaseEvent s t g) := by
  have hfrozen : ∀ h ∈ s.holds.filter fun h => h.state = .voided, h.tenantId = t →
      s'.holdConsumed t g h.id = s.holdConsumed t g h.id ∧
        s'.holdAllocated t g h.id = s.holdAllocated t g h.id := by
    rintro h hh rfl
    obtain ⟨hmem, hstate⟩ := List.mem_filter.mp hh
    exact hsteps.frozen hs (hold?_of_mem hs hmem) (by simp_all) g
  have hfilter : releases s' t g = releases s t g := by
    unfold releases
    rw [hvoided]
    apply List.filter_congr
    intro h hh
    by_cases htenant : h.tenantId = t
    · rw [(hfrozen h hh htenant).1, (hfrozen h hh htenant).2]
    · simp [htenant]
  rw [hfilter]
  apply List.map_congr_left
  intro h hh
  obtain ⟨hmem, hcondition⟩ := List.mem_filter.mp hh
  have htenant : h.tenantId = t := (of_decide_eq_true hcondition).1
  rw [releaseEvent, releaseEvent, (hfrozen h hmem htenant).1, (hfrozen h hmem htenant).2]

/-- Added rows add their events. -/
theorem capacityEvents_extends (hs : Grounded s) (hsteps : RowSteps now s s')
    (hvoided : (s'.holds.filter fun h => h.state = .voided) =
      s.holds.filter fun h => h.state = .voided)
    {rows : List CreditGrantEntry} {allocations : List CreditGrantHoldAllocation}
    (hrows : s'.creditGrantEntries = s.creditGrantEntries ++ rows)
    (hallocations : s'.creditGrantHoldAllocations =
      s.creditGrantHoldAllocations ++ allocations) (t g : Uuid) :
    (capacityEvents s' t g).Perm (capacityEvents s t g ++
      ((rows.filter fun l => l.tenantId = t ∧ l.grantId = g).map (lineageEvent s') ++
        (allocations.filter fun a => a.tenantId = t ∧ a.grantId = g).map allocationEvent)) := by
  have hold : (s.creditGrantEntries.filter fun l => l.tenantId = t ∧ l.grantId = g).map
      (lineageEvent s') =
      (s.creditGrantEntries.filter fun l => l.tenantId = t ∧ l.grantId = g).map
        (lineageEvent s) := by
    apply List.map_congr_left
    intro l hl
    rw [lineageEvent, lineageEvent,
      lineageHoldId_extends hs.links (RowSteps.extends hsteps) (List.mem_filter.mp hl).1]
  unfold capacityEvents
  rw [releaseEvents_extends hs hsteps hvoided, hrows, hallocations, List.filter_append,
    List.filter_append, List.map_append, List.map_append, hold, List.perm_iff_count]
  intro e
  simp only [List.count_append]
  omega

end Events

/-! ## A sequence of writers -/

theorem Appended.sameTables {s s' : Db} {t g : Uuid} {e : CapacityEvent Uuid}
    (h : Appended s t g e s') : SameTables s s' := by
  obtain ⟨v, rfl, -⟩ := h.row
  exact ⟨_, rfl⟩

/-- Writers that run one after the other append the events of those that write. -/
theorem Tracks.foldlM {ι : Type} {step : Db → ι → Except SqlError Db} {xs : List ι}
    (tenant grant : ι → Uuid) (event : ι → CapacityEvent Uuid) (writes : ι → Bool)
    {s₀ s s' : Db} {events : Histories}
    (hstep : ∀ s₁ x s₂, x ∈ xs → SameTables s₀ s₁ → step s₁ x = .ok s₂ →
      (writes x = false ∧ s₂ = s₁) ∨
        (writes x = true ∧ Appended s₁ (tenant x) (grant x) (event x) s₂))
    (h : xs.foldlM step s = .ok s') (hsame : SameTables s₀ s) (htracks : Tracks s events) :
    Tracks s' fun t g => events t g ++
      (xs.filter fun x => writes x ∧ tenant x = t ∧ grant x = g).map event := by
  induction xs generalizing s events with
  | nil =>
      rw [foldlM_nil_eq_ok_iff] at h
      refine (h ▸ htracks).perm fun t g => ?_
      rw [List.filter_nil, List.map_nil, List.append_nil]
  | cons x rest ih =>
      obtain ⟨mid, hmid, hrest⟩ := foldlM_cons_eq_ok_iff.mp h
      have hstep' := fun s₁ y s₂ hy => hstep s₁ y s₂ (List.mem_cons_of_mem x hy)
      rcases hstep s x mid List.mem_cons_self hsame hmid with ⟨hwrites, rfl⟩ | ⟨hwrites, happend⟩
      · refine (ih hstep' hrest hsame htracks).perm fun t g => ?_
        rw [List.filter_cons_of_neg (by simp [hwrites])]
      · refine (ih hstep' hrest (hsame.trans happend.sameTables)
          (htracks.append happend)).perm fun t g => ?_
        unfold Histories.add
        by_cases hx : tenant x = t ∧ grant x = g
        · rw [if_pos ⟨hx.1.symm, hx.2.symm⟩,
            List.filter_cons_of_pos (by simp [hwrites, hx.1, hx.2])]
          simp
        · rw [if_neg fun heq => hx ⟨heq.1.symm, heq.2.symm⟩,
            List.filter_cons_of_neg (by simp only [decide_eq_true_eq]; tauto)]

/-! ## Every statement keeps the fold -/

section Statements

variable {now : Timestamp} {s s' : Db}

/-- A lineage row is found again under the three columns the guard reads. -/
theorem find?_lineage {l : CreditGrantEntry}
    (hkey : UniqueKey (fun l : CreditGrantEntry => (l.grantId, l.entryId)) s.creditGrantEntries)
    (hl : l ∈ s.creditGrantEntries) :
    s.creditGrantEntries.find? (fun l' => l'.tenantId = l.tenantId ∧ l'.grantId = l.grantId ∧
      l'.entryId = l.entryId) = some l := by
  cases hfind : s.creditGrantEntries.find? (fun l' => l'.tenantId = l.tenantId ∧
      l'.grantId = l.grantId ∧ l'.entryId = l.entryId) with
  | none =>
      have hnone := List.find?_eq_none.mp hfind l hl
      simp at hnone
  | some l' =>
      have hfound := List.find?_some hfind
      simp only [decide_eq_true_eq] at hfound
      rw [List.inj_on_of_nodup_map hkey (List.mem_of_find?_eq_some hfind) hl
        (Prod.ext hfound.2.1 hfound.2.2)]

/-- A statement that stores rows and appends no version. -/
theorem tracks_of_plain (hs : Grounded s) (ht : Tracks s (capacityEvents s))
    (hsteps : RowSteps now s s')
    (hversions : s'.creditGrantCapacityVersions = s.creditGrantCapacityVersions)
    (hrows : s'.creditGrantEntries = s.creditGrantEntries)
    (hallocations : s'.creditGrantHoldAllocations = s.creditGrantHoldAllocations)
    (hvoided : (s'.holds.filter fun h => h.state = .voided) =
      s.holds.filter fun h => h.state = .voided) : Tracks s' (capacityEvents s') := by
  refine (ht.of_versions_eq hversions).perm fun t g => ?_
  have hperm := capacityEvents_extends hs hsteps hvoided
    (hrows.trans (List.append_nil _).symm) (hallocations.trans (List.append_nil _).symm) t g
  rw [List.filter_nil, List.filter_nil, List.map_nil, List.map_nil, List.append_nil,
    List.append_nil] at hperm
  exact hperm.symm

/-- `INSERT INTO credit_grant_entries`: the rows are stored, then their events are
appended. -/
theorem storeCreditGrantEntries_tracks (hs : Grounded s) (ht : Tracks s (capacityEvents s))
    {rows : List CreditGrantEntry} (h : storeCreditGrantEntries now rows s = .ok s') :
    Tracks s' (capacityEvents s') := by
  obtain ⟨stored, hstored, hafter⟩ := insertRows_eq_ok_iff.mp h
  have hsteps : RowSteps now s stored :=
    insertEach_steps (fun _ _ _ hcheck => .creditGrantEntry hcheck) hstored
  have hwf : Grounded stored := RowSteps.grounded hsteps hs
  have hrows : stored.creditGrantEntries = s.creditGrantEntries ++ rows := by
    rw [insertEach_store (Statement.store ∘ .insertCreditGrantEntries)
      (by simp [Statement.store]) (by simp [Statement.store, Db.addCreditGrantEntry]) hstored]
    rfl
  have htracks : Tracks stored (capacityEvents s) :=
    ht.of_versions_eq (insertEach_frame hstored fun _ _ => rfl)
  have hwriter : ∀ s₁ l s₂, l ∈ rows → SameTables stored s₁ →
      appendCreditGrantCapacityVersion s₁ l = .ok s₂ →
      (true = false ∧ s₂ = s₁) ∨
        (true = true ∧ Appended s₁ l.tenantId l.grantId (lineageEvent stored l) s₂) := by
    rintro s₁ l s₂ hl ⟨versions, rfl⟩ happend
    have hmem : l ∈ stored.creditGrantEntries := by
      rw [hrows]
      exact List.mem_append_right _ hl
    exact Or.inr ⟨rfl, appendCreditGrantCapacityVersion_ok
      (find?_lineage hwf.keys.creditGrantEntries hmem) happend⟩
  have hfold := htracks.foldlM (·.tenantId) (·.grantId) (lineageEvent stored) (fun _ => true)
    hwriter hafter (SameTables.refl stored)
  have hholds : stored.holds = s.holds := insertEach_frame hstored fun _ _ => rfl
  have hallocations : stored.creditGrantHoldAllocations = s.creditGrantHoldAllocations ++ [] := by
    rw [List.append_nil]
    exact insertEach_frame hstored fun _ _ => rfl
  have hevents := capacityEvents_extends hs hsteps (by rw [hholds]) hrows hallocations
  obtain ⟨versions, rfl⟩ :=
    SameTables.foldlM (fun _ _ _ hrow => (insertCapacityVersion_step hrow).2) hafter
  refine hfold.perm fun t g => (List.Perm.trans ?_ (hevents t g).symm)
  simp

/-- `INSERT INTO credit_grant_hold_allocations`: likewise. -/
theorem storeCreditGrantHoldAllocations_tracks (hs : Grounded s)
    (ht : Tracks s (capacityEvents s)) {rows : List CreditGrantHoldAllocation}
    (h : storeCreditGrantHoldAllocations now rows s = .ok s') : Tracks s' (capacityEvents s') := by
  obtain ⟨stored, hstored, hafter⟩ := insertRows_eq_ok_iff.mp h
  have hsteps : RowSteps now s stored :=
    insertEach_steps (fun _ _ _ hcheck => .allocation hcheck) hstored
  have htracks : Tracks stored (capacityEvents s) :=
    ht.of_versions_eq (insertEach_frame hstored fun _ _ => rfl)
  have hwriter : ∀ s₁ a s₂, a ∈ rows → SameTables stored s₁ →
      appendGrantAllocationReservation s₁ a = .ok s₂ →
      (true = false ∧ s₂ = s₁) ∨
        (true = true ∧ Appended s₁ a.tenantId a.grantId (allocationEvent a) s₂) :=
    fun s₁ a s₂ _ _ happend => Or.inr ⟨rfl, appendGrantAllocationReservation_ok happend⟩
  have hfold := htracks.foldlM (·.tenantId) (·.grantId) allocationEvent (fun _ => true)
    hwriter hafter (SameTables.refl stored)
  have hholds : stored.holds = s.holds := insertEach_frame hstored fun _ _ => rfl
  have hrows : stored.creditGrantEntries = s.creditGrantEntries ++ [] := by
    rw [List.append_nil]
    exact insertEach_frame hstored fun _ _ => rfl
  have hallocations : stored.creditGrantHoldAllocations =
      s.creditGrantHoldAllocations ++ rows := by
    rw [insertEach_store (Statement.store ∘ .insertCreditGrantHoldAllocations)
      (by simp [Statement.store]) (by simp [Statement.store, Db.addCreditGrantHoldAllocation])
      hstored]
    rfl
  have hevents := capacityEvents_extends hs hsteps (by rw [hholds]) hrows hallocations
  obtain ⟨versions, rfl⟩ := SameTables.foldlM
    (fun _ _ _ hrow => (appendCreditGrantReservationVersion_step hrow).2) hafter
  refine hfold.perm fun t g => (List.Perm.trans ?_ (hevents t g).symm)
  simp

theorem grantsOfHold_once (hs : Grounded s) {t holdId : Uuid} :
    UniqueKey CreditGrant.id (s.grantsOfHold t holdId) := by
  unfold UniqueKey Db.grantsOfHold
  rw [((List.perm_insertionSort _ _).map _).nodup_iff]
  exact hs.keys.creditGrants.sublist List.filter_sublist

/-- The grants of a hold are the grants with an allocation to it, each once. -/
theorem grantsOfHold_filter (hs : Grounded s) {t g holdId : Uuid}
    (hallocated : 0 < s.holdAllocated t g holdId) :
    ∃ grant, (s.grantsOfHold t holdId).filter (fun x => x.id = g) = [grant] := by
  obtain ⟨a, ha, hcondition⟩ := exists_of_sumWhere_pos hallocated
  simp only [decide_eq_true_eq] at hcondition
  obtain ⟨rfl, rfl, hhold⟩ := hcondition
  obtain ⟨grant, he, hlink⟩ := hs.links.allocations a ha
  have hid : grant.id = a.grantId := key_of_lookup hlink.grant
  have hmem : grant ∈ s.grantsOfHold a.tenantId holdId := by
    rw [Db.grantsOfHold, List.mem_insertionSort, List.mem_filter]
    refine ⟨mem_of_lookup hlink.grant, ?_⟩
    simp only [decide_eq_true_eq, List.any_eq_true]
    exact ⟨hlink.grantTenant, a, ha, rfl, hid.symm, hhold⟩
  exact ⟨grant, hid ▸ (grantsOfHold_once hs).filter_eq_singleton hmem⟩

/-- The release loop appends one release for each grant with something left. -/
theorem releaseLoop_tracks (hs : Grounded s) {events : Histories} (ht : Tracks s events)
    {old : Hold} (h : (s.grantsOfHold old.tenantId old.id).foldlM (releaseGrant old) s = .ok s') :
    Tracks s' fun t g => events t g ++
      if old.tenantId = t ∧ s.holdConsumed t g old.id < s.holdAllocated t g old.id then
        [releaseEvent s t g old] else [] := by
  have hwriter : ∀ s₁ grant s₂, grant ∈ s.grantsOfHold old.tenantId old.id → SameTables s s₁ →
      releaseGrant old s₁ grant = .ok s₂ →
      (decide (s.holdConsumed old.tenantId grant.id old.id <
          s.holdAllocated old.tenantId grant.id old.id) = false ∧ s₂ = s₁) ∨
        (decide (s.holdConsumed old.tenantId grant.id old.id <
            s.holdAllocated old.tenantId grant.id old.id) = true ∧
          Appended s₁ old.tenantId grant.id (releaseEvent s old.tenantId grant.id old) s₂) := by
    rintro s₁ grant s₂ - ⟨versions, rfl⟩ hrelease
    rcases releaseGrant_ok hrelease with ⟨hle, rfl⟩ | ⟨hlt, happend⟩
    · exact Or.inl ⟨decide_eq_false hle, rfl⟩
    · exact Or.inr ⟨decide_eq_true hlt, happend⟩
  have hfold := ht.foldlM (fun _ => old.tenantId) CreditGrant.id
    (fun grant => releaseEvent s old.tenantId grant.id old)
    (fun grant => decide (s.holdConsumed old.tenantId grant.id old.id <
      s.holdAllocated old.tenantId grant.id old.id)) hwriter h (SameTables.refl s)
  refine hfold.perm fun t g => List.Perm.append_left _ ?_
  by_cases hgrant : old.tenantId = t ∧ s.holdConsumed t g old.id < s.holdAllocated t g old.id
  · obtain ⟨rfl, hlt⟩ := hgrant
    have hconsumed := holdConsumed_nonneg hs.links old.tenantId g old.id
    obtain ⟨grant, hgrant⟩ := grantsOfHold_filter hs
      (show 0 < s.holdAllocated old.tenantId g old.id by omega)
    have hid : grant.id = g := by
      have hmem : grant ∈ (s.grantsOfHold old.tenantId old.id).filter (fun x => x.id = g) := by
        rw [hgrant]
        exact List.mem_singleton_self grant
      simpa using (List.mem_filter.mp hmem).2
    have hsame : (s.grantsOfHold old.tenantId old.id).filter (fun x => decide
        (decide (s.holdConsumed old.tenantId x.id old.id <
          s.holdAllocated old.tenantId x.id old.id) = true ∧
          old.tenantId = old.tenantId ∧ x.id = g)) =
        (s.grantsOfHold old.tenantId old.id).filter (fun x => x.id = g) := by
      apply List.filter_congr
      intro x _
      by_cases hx : x.id = g
      · simp [hx, hlt]
      · simp [hx]
    rw [hsame, hgrant, if_pos ⟨rfl, hlt⟩, List.map_singleton, hid]
  · rw [if_neg hgrant, List.filter_eq_nil_iff.mpr, List.map_nil]
    intro x _
    simp only [decide_eq_true_eq]
    rintro ⟨hlt, rfl, rfl⟩
    exact hgrant ⟨rfl, hlt⟩

/-- A hold without allocations has nothing to release. -/
theorem holdAllocated_of_none {t g holdId : Uuid}
    (hnone : ¬ s.creditGrantHoldAllocations.any fun a =>
      a.tenantId = t ∧ s.allocationHoldId a = some holdId) : s.holdAllocated t g holdId = 0 := by
  apply sumWhere_eq_zero
  intro a ha hcondition
  simp only [decide_eq_true_eq] at hcondition
  refine absurd ?_ hnone
  rw [List.any_eq_true]
  exact ⟨a, ha, by simp [hcondition.1, hcondition.2.2]⟩

/-- One changed hold: a void appends its releases, anything else appends nothing. -/
theorem updateHold_tracks (hs : Grounded s) (ht : Tracks s (capacityEvents s))
    {change : Uuid × Hold} (h : updateHold s change = .ok s') : Tracks s' (capacityEvents s') := by
  obtain ⟨id, new⟩ := change
  obtain ⟨old, released, hfound, hold, rfl, htransition, hreleased, -, rfl⟩ := updateHold_ok h
  have htenant : new.tenantId = old.tenantId :=
    congrArg HoldIdentity.tenantId htransition.identity
  have hmem : old ∈ s.holds := mem_of_lookup hfound
  -- what the trigger appends, whichever way it goes
  have htracks : Tracks released fun t g => capacityEvents s t g ++
      if new.state = .voided ∧ old.tenantId = t ∧
        s.holdConsumed t g old.id < s.holdAllocated t g old.id then
        [releaseEvent s t g old] else [] := by
    unfold releaseGrantHoldReservations at hreleased
    split at hreleased
    · rename_i hnone
      obtain rfl := Except.ok.inj hreleased
      refine ht.perm fun t g => ?_
      rw [if_neg, List.append_nil]
      rintro ⟨-, rfl, hlt⟩
      have hzero := holdAllocated_of_none (g := g) hnone
      have hconsumed := holdConsumed_nonneg hs.links old.tenantId g old.id
      omega
    · split at hreleased
      · rename_i hstate
        obtain rfl := Except.ok.inj hreleased
        refine ht.perm fun t g => ?_
        rw [if_neg fun hvoided => hstate hvoided.1, List.append_nil]
      · rename_i hstate
        refine (releaseLoop_tracks hs ht hreleased).perm fun t g => ?_
        simp only [not_not.mp hstate, true_and]
        exact List.Perm.refl _
  obtain ⟨-, versions, rfl⟩ := releaseGrantHoldReservations_step hreleased
  refine (htracks.of_versions_eq rfl).perm fun t g => ?_
  have hvoided : ((s.holds.map fun h => if h.id = old.id then new else h).filter fun h =>
      h.state = .voided).Perm ((s.holds.filter fun h => h.state = .voided) ++
        if new.state = .voided then [new] else []) := by
    have hperm := hs.keys.holds.filter_replace_perm (p := fun h => h.state = .voided)
      hmem (by simp [htransition.held]) new
    simpa using hperm
  rw [hold] at hvoided
  have hreleases := (hvoided.filter fun h => h.tenantId = t ∧
    s.holdConsumed t g h.id < s.holdAllocated t g h.id).map (releaseEvent s t g)
  refine (List.Perm.trans ?_ (List.Perm.append_left _ hreleases.symm))
  rw [List.filter_append, List.map_append, ← List.append_assoc]
  refine List.Perm.append_left _ ?_
  have hevent : releaseEvent s t g old = releaseEvent s t g new := by
    rw [releaseEvent, releaseEvent, hold]
  rw [hold, hevent, ← htenant]
  by_cases hstate : new.state = .voided
  · by_cases hgrant : new.tenantId = t ∧ s.holdConsumed t g new.id < s.holdAllocated t g new.id
    · rw [if_pos ⟨hstate, hgrant⟩, if_pos hstate, List.filter_cons_of_pos (by simp [hgrant])]
      exact List.Perm.refl _
    · rw [if_neg fun hvoid => hgrant hvoid.2, if_pos hstate,
        List.filter_cons_of_neg (by simpa using hgrant)]
      exact List.Perm.refl _
  · rw [if_neg fun hvoid => hstate hvoid.1, if_neg hstate]
    exact List.Perm.refl _

/-- The tables that capacity events and versions are in. -/
def capacityTables (s : Db) : List CreditGrantEntry × List Hold ×
    List CreditGrantHoldAllocation × List CreditGrantCapacityVersion :=
  (s.creditGrantEntries, s.holds, s.creditGrantHoldAllocations, s.creditGrantCapacityVersions)

/-- Storing rows of other tables appends no version and voids no hold. -/
theorem insertEach_tracks {ρ : Type} {check : Db → ρ → Except SqlError Unit} {put : Db → ρ → Db}
    {rows : List ρ} (hs : Grounded s) (ht : Tracks s (capacityEvents s))
    (hsteps : RowSteps now s s') (h : insertEach check put rows s = .ok s')
    (hput : ∀ s r, capacityTables (put s r) = capacityTables s) :
    Tracks s' (capacityEvents s') := by
  have hsame := insertEach_frame h hput
  simp only [capacityTables, Prod.mk.injEq] at hsame
  obtain ⟨hrows, hholds, hallocations, hversions⟩ := hsame
  exact tracks_of_plain hs ht hsteps hversions hrows hallocations (by rw [hholds])

/-- New holds start HELD. -/
theorem checkHoldInsert_held {new : Hold} (h : checkHoldInsert s new = .ok ()) :
    new.state = .held := by
  simp only [checkHoldInsert, guardHoldInsert, bind_eq_ok_iff, raiseIf_eq_ok_iff, ne_eq,
    Truth.of_eq_true_iff, not_or, not_not] at h
  obtain ⟨⟨⟩, hguard, -⟩ := h
  exact hguard.1

theorem insertHolds_tracks {rows : List Hold} (hs : Grounded s)
    (ht : Tracks s (capacityEvents s))
    (h : insertEach checkHoldInsert Db.addHold rows s = .ok s') :
    Tracks s' (capacityEvents s') := by
  have hsteps : RowSteps 0 s s' := insertEach_steps (fun _ _ _ hcheck => .hold hcheck) h
  refine tracks_of_plain hs ht hsteps (insertEach_frame h fun _ _ => rfl)
    (insertEach_frame h fun _ _ => rfl) (insertEach_frame h fun _ _ => rfl) ?_
  have hheld : ∀ r ∈ rows, r.state = .held :=
    insertEach_forall (fun s r hcheck => checkHoldInsert_held hcheck) h
  have hnone : (rows.filter fun h => h.state = .voided) = [] := by
    rw [List.filter_eq_nil_iff]
    intro r hr
    simp [hheld r hr]
  rw [insertEach_store (Statement.store ∘ .insertHolds) (by simp [Statement.store])
    (by simp [Statement.store, Db.addHold]) h]
  simp [Statement.store, hnone]

/-- Every accepted statement keeps the version chains in step with the tables. -/
theorem exec_tracks {stmt : Statement} (hs : Grounded s) (ht : Tracks s (capacityEvents s))
    (h : stmt.exec now s = .ok s') : Tracks s' (capacityEvents s') := by
  have hsteps : RowSteps now s s' := exec_steps h
  cases stmt with
  | insertAssets rows => exact insertEach_tracks hs ht hsteps h fun _ _ => rfl
  | insertAccounts rows => exact insertEach_tracks hs ht hsteps h fun _ _ => rfl
  | insertTransactions rows =>
      exact insertEach_tracks hs ht hsteps (insertTransactions_ok h).1 fun _ _ => rfl
  | insertEntries rows => exact insertEach_tracks hs ht hsteps h fun _ _ => rfl
  | insertCreditGrants rows => exact insertEach_tracks hs ht hsteps h fun _ _ => rfl
  | insertCreditGrantEntries rows => exact storeCreditGrantEntries_tracks hs ht h
  | insertHolds rows => exact insertHolds_tracks hs ht h
  | insertHoldEntries rows => exact insertEach_tracks hs ht hsteps h fun _ _ => rfl
  | insertCreditGrantHoldAllocations rows => exact storeCreditGrantHoldAllocations_tracks hs ht h
  | updateHolds changes =>
      have hboth : Grounded s' ∧ Tracks s' (capacityEvents s') := by
        refine foldlM_preserves (P := fun s => Grounded s ∧ Tracks s (capacityEvents s))
          ?_ h ⟨hs, ht⟩
        rintro change - s₁ s₂ hchange ⟨hs₁, ht₁⟩
        have hsteps₁ : RowSteps now s₁ s₂ := updateHold_steps hchange
        exact ⟨RowSteps.grounded hsteps₁ hs₁, updateHold_tracks hs₁ ht₁ hchange⟩
      exact hboth.2
  | insertCapacityVersions rows =>
      cases rows with
      | nil =>
          obtain rfl : s = s' := Except.ok.inj h
          exact ht
      | cons row rest =>
          obtain ⟨mid, hrow, -⟩ := foldlM_cons_eq_ok_iff.mp h
          obtain ⟨e, herror⟩ := insertCapacityVersion_direct s row
          rw [herror] at hrow
          cases hrow
  | updateCapacityVersions targets => exact rejectCreditGrantMutation_ok h ▸ ht
  | deleteCapacityVersions targets => exact rejectCreditGrantMutation_ok h ▸ ht

end Statements

theorem tracks_empty : Tracks Db.empty (capacityEvents Db.empty) :=
  fun _ _ => ⟨[], Chain.nil, List.Perm.refl _⟩

/-- After every sequence of accepted statements. -/
theorem replayStatements_tracks {log : List (Timestamp × Statement)} {s : Db}
    (h : replayStatements log = .ok s) : WellFormed s ∧ Tracks s (capacityEvents s) :=
  run_invariant (P := fun s => WellFormed s ∧ Tracks s (capacityEvents s))
    ⟨WellFormed.empty, tracks_empty⟩
    (fun _ _ _ hexec hs =>
      ⟨RowSteps.wellFormed (exec_steps hexec) hs.1, exec_tracks hs.1.grounded hs.2 hexec⟩) h

theorem replay_tracks {log : List DbTransaction} {s : Db} (h : replay log = .ok s) :
    Tracks s (capacityEvents s) :=
  (replayStatements_tracks (replayStatements_of_replay h)).2

/-! ## The counters as sums over the tables -/

/-- All allocations of a grant. -/
def allocatedTotal (s : Db) (tenantId grantId : Uuid) : Int :=
  sumWhere s.creditGrantHoldAllocations
    (fun a => a.tenantId = tenantId ∧ a.grantId = grantId) (·.amountMinor)

/-- CONSUMPTION of a grant by transactions that carry a hold. -/
def capturedTotal (s : Db) (tenantId grantId : Uuid) : Int :=
  sumWhere s.creditGrantEntries
    (fun l => l.tenantId = tenantId ∧ l.grantId = grantId ∧ l.kind = .consumption ∧
      (s.lineageHoldId l).isSome) (·.amountMinor)

/-- What voids have released of a grant. -/
def releasedTotal (s : Db) (tenantId grantId : Uuid) : Int :=
  ((releases s tenantId grantId).map fun h =>
    s.holdAllocated tenantId grantId h.id - s.holdConsumed tenantId grantId h.id).sum

section Counters

variable {s : Db} {t g : Uuid}

theorem balance_capacityEvents (c : Counter) :
    balance (capacityEvents s t g) c =
      sumWhere s.creditGrantEntries (fun l => l.tenantId = t ∧ l.grantId = g)
        (fun l => lineageDelta l.kind l.amountMinor (s.lineageHoldId l).isSome c) +
      sumWhere s.creditGrantHoldAllocations (fun a => a.tenantId = t ∧ a.grantId = g)
        (fun a => reserveDelta a.amountMinor c) +
      ((releases s t g).map fun h =>
        reserveDelta (-(s.holdAllocated t g h.id - s.holdConsumed t g h.id)) c).sum := by
  unfold capacityEvents
  rw [balance_append, balance_append, balance_map_filter, balance_map_filter]
  simp only [balance, List.map_map]
  rfl

/-- Reservations and releases leave the financial counters alone. -/
theorem balance_financial {c : Counter} (hversion : c ≠ .version) (hreserved : c ≠ .reserved) :
    balance (capacityEvents s t g) c =
      sumWhere s.creditGrantEntries (fun l => l.tenantId = t ∧ l.grantId = g)
        (fun l => lineageDelta l.kind l.amountMinor (s.lineageHoldId l).isSome c) := by
  have hzero : ∀ amount, reserveDelta amount c = 0 := by
    intro amount
    cases c <;> first | contradiction | rfl
  have hallocations : sumWhere s.creditGrantHoldAllocations
      (fun a => a.tenantId = t ∧ a.grantId = g) (fun a => reserveDelta a.amountMinor c) = 0 :=
    sumWhere_eq_zero fun a _ _ => hzero a.amountMinor
  rw [balance_capacityEvents, hallocations]
  simp [hzero]

theorem lineageTotal_eq (kind : CreditGrantEntryKind) :
    sumWhere s.creditGrantEntries (fun l => l.tenantId = t ∧ l.grantId = g)
      (fun l => if l.kind = kind then l.amountMinor else 0) = s.lineageTotal t g kind := by
  rw [Db.lineageTotal, sumWhere_ite]
  refine sumWhere_congr (fun l _ => ?_) fun _ _ _ => rfl
  rw [← Bool.decide_and]
  exact decide_eq_decide.mpr and_assoc

theorem balance_granted :
    balance (capacityEvents s t g) .granted = s.lineageTotal t g .issuance := by
  rw [balance_financial (by decide) (by decide)]
  exact lineageTotal_eq .issuance

theorem balance_consumed :
    balance (capacityEvents s t g) .consumed = s.lineageTotal t g .consumption := by
  rw [balance_financial (by decide) (by decide)]
  exact lineageTotal_eq .consumption

theorem balance_compensated :
    balance (capacityEvents s t g) .compensated = s.lineageTotal t g .compensation := by
  rw [balance_financial (by decide) (by decide)]
  exact lineageTotal_eq .compensation

theorem balance_expired :
    balance (capacityEvents s t g) .expired = s.lineageTotal t g .expiration := by
  rw [balance_financial (by decide) (by decide)]
  exact lineageTotal_eq .expiration

theorem balance_reversed :
    balance (capacityEvents s t g) .reversed =
      s.lineageTotal t g .reversal + s.lineageTotal t g .refund := by
  rw [balance_financial (by decide) (by decide), ← lineageTotal_eq, ← lineageTotal_eq,
    ← sumWhere_add]
  refine sumWhere_congr (fun _ _ => rfl) fun l _ _ => ?_
  cases l.kind <;> simp [lineageDelta]

/-- Captures free what they consume. -/
theorem captured_reserved :
    sumWhere s.creditGrantEntries (fun l => l.tenantId = t ∧ l.grantId = g)
      (fun l => lineageDelta l.kind l.amountMinor (s.lineageHoldId l).isSome .reserved) =
      - capturedTotal s t g := by
  unfold capturedTotal lineageDelta
  rw [← sumWhere_neg, sumWhere_ite]
  refine sumWhere_congr (fun l _ => ?_) fun _ _ _ => rfl
  rw [← Bool.decide_and]
  exact decide_eq_decide.mpr and_assoc

theorem balance_reserved :
    balance (capacityEvents s t g) .reserved =
      allocatedTotal s t g - capturedTotal s t g - releasedTotal s t g := by
  have hreleased : ((releases s t g).map fun h =>
      reserveDelta (-(s.holdAllocated t g h.id - s.holdConsumed t g h.id)) .reserved).sum =
      - releasedTotal s t g := by
    rw [releasedTotal, List.sum_neg, List.map_map]
    rfl
  rw [balance_capacityEvents, captured_reserved, hreleased]
  unfold allocatedTotal
  simp only [reserveDelta]
  omega

end Counters

/-! ## Capacity versions are the fold of the history -/

/-- The version chain of a grant and its latest counters, against the tables. -/
structure CapacityFold (s : Db) (tenantId grantId : Uuid) : Prop where
  /-- version numbers are 1, 2, …, n -/
  numbered : (s.versionsOf tenantId grantId).map (·.version) =
    (List.range (s.versionsOf tenantId grantId).length).map fun i : Nat => (i : Int) + 1
  /-- each version has one source -/
  oneSource : ∀ v ∈ s.versionsOf tenantId grantId,
    numNonnulls [v.sourceEntryId, v.sourceAllocationId, v.sourceHoldId] = 1
  /-- and the sources are the lineage rows, the allocations and the releasing voids, once each -/
  lineageSources : ((s.versionsOf tenantId grantId).filterMap (·.sourceEntryId)).Perm
    ((s.creditGrantEntries.filter fun l =>
      l.tenantId = tenantId ∧ l.grantId = grantId).map (·.entryId))
  allocationSources : ((s.versionsOf tenantId grantId).filterMap (·.sourceAllocationId)).Perm
    ((s.creditGrantHoldAllocations.filter fun a =>
      a.tenantId = tenantId ∧ a.grantId = grantId).map (·.id))
  releaseSources : ((s.versionsOf tenantId grantId).filterMap (·.sourceHoldId)).Perm
    ((releases s tenantId grantId).map (·.id))
  count : (s.versionsOf tenantId grantId).length =
    (s.creditGrantEntries.filter fun l => l.tenantId = tenantId ∧ l.grantId = grantId).length +
      (s.creditGrantHoldAllocations.filter fun a =>
        a.tenantId = tenantId ∧ a.grantId = grantId).length +
      (releases s tenantId grantId).length
  granted : s.latestMinor tenantId grantId (·.grantedMinor) =
    s.lineageTotal tenantId grantId .issuance
  reversed : s.latestMinor tenantId grantId (·.reversedMinor) =
    s.lineageTotal tenantId grantId .reversal + s.lineageTotal tenantId grantId .refund
  consumed : s.latestMinor tenantId grantId (·.consumedMinor) =
    s.lineageTotal tenantId grantId .consumption
  compensated : s.latestMinor tenantId grantId (·.compensatedMinor) =
    s.lineageTotal tenantId grantId .compensation
  expired : s.latestMinor tenantId grantId (·.expiredMinor) =
    s.lineageTotal tenantId grantId .expiration
  reserved : s.latestMinor tenantId grantId (·.reservedMinor) =
    allocatedTotal s tenantId grantId - capturedTotal s tenantId grantId -
      releasedTotal s tenantId grantId
  remaining : s.latestMinor tenantId grantId (·.remainingMinor) =
    s.latestMinor tenantId grantId (·.grantedMinor) +
      s.latestMinor tenantId grantId (·.compensatedMinor) -
      s.latestMinor tenantId grantId (·.reversedMinor) -
      s.latestMinor tenantId grantId (·.consumedMinor) -
      s.latestMinor tenantId grantId (·.expiredMinor)
  reservedNonneg : 0 ≤ s.latestMinor tenantId grantId (·.reservedMinor)
  reservedLe : s.latestMinor tenantId grantId (·.reservedMinor) ≤
    s.latestMinor tenantId grantId (·.remainingMinor)

section Fold

variable {s : Db} {t g : Uuid}

/-- A source column of the versions lists the causes of the events. -/
theorem filterMap_sources {versions : List CreditGrantCapacityVersion}
    {history : List (CapacityEvent Uuid)} {column : CreditGrantCapacityVersion → Option Uuid}
    {source : CapacityEvent Uuid → Option Uuid} (h : List.Forall₂ HasSource versions history)
    (hcolumn : ∀ v e, HasSource v e → column v = source e) :
    versions.filterMap column = history.filterMap source := by
  induction h with
  | nil => rfl
  | cons hsource _ ih => rw [List.filterMap_cons, List.filterMap_cons, hcolumn _ _ hsource, ih]

theorem numNonnulls_of_source {v : CreditGrantCapacityVersion} {e : CapacityEvent Uuid}
    (h : HasSource v e) :
    numNonnulls [v.sourceEntryId, v.sourceAllocationId, v.sourceHoldId] = 1 := by
  rw [h.entry, h.allocation, h.hold]
  cases e <;> rfl

theorem forall_of_forall₂ {versions : List CreditGrantCapacityVersion}
    {history : List (CapacityEvent Uuid)} (h : List.Forall₂ HasSource versions history) :
    ∀ v ∈ versions, ∃ e, HasSource v e := by
  induction h with
  | nil => simp
  | @cons v e _ _ hsource _ ih =>
      intro u hu
      rcases List.mem_cons.mp hu with rfl | hu
      · exact ⟨e, hsource⟩
      · exact ih u hu

/-- The latest counters satisfy the CHECK on the reserve, also where there are none. -/
theorem Tracks.reserved_bounds {events : Histories} (h : Tracks s events) (t g : Uuid) :
    0 ≤ s.latestMinor t g (·.reservedMinor) ∧
      s.latestMinor t g (·.reservedMinor) ≤ s.latestMinor t g (·.remainingMinor) := by
  obtain ⟨history, hchain, -⟩ := h t g
  unfold Db.latestMinor Db.latestVersion
  rcases hchain.latest with ⟨-, hnone⟩ | ⟨v, hv, -, hchecked⟩
  · rw [hnone]
    exact ⟨le_refl _, le_refl _⟩
  · rw [hv]
    exact ⟨hchecked.reservedNonneg, hchecked.reservedLe⟩

/-- A chain that tracks the tables is the fold of them. -/
theorem capacityFold_of_tracks (h : Tracks s (capacityEvents s)) (t g : Uuid) :
    CapacityFold s t g := by
  have hcounter : ∀ c : Counter, s.latestMinor t g c.column = balance (capacityEvents s t g) c :=
    fun c => h.latestMinor t g c
  obtain ⟨hreservedNonneg, hreservedLe⟩ := h.reserved_bounds t g
  obtain ⟨history, hchain, hperm⟩ := h t g
  refine
    { numbered := hchain.numbered
      oneSource := fun v hv => ?_
      lineageSources := ?_
      allocationSources := ?_
      releaseSources := ?_
      count := ?_
      granted := (hcounter .granted).trans balance_granted
      reversed := (hcounter .reversed).trans balance_reversed
      consumed := (hcounter .consumed).trans balance_consumed
      compensated := (hcounter .compensated).trans balance_compensated
      expired := (hcounter .expired).trans balance_expired
      reserved := (hcounter .reserved).trans balance_reserved
      remaining := ?_
      reservedNonneg := hreservedNonneg
      reservedLe := hreservedLe }
  · obtain ⟨e, hsource⟩ := forall_of_forall₂ hchain.sources v hv
    exact numNonnulls_of_source hsource
  · rw [filterMap_sources hchain.sources fun _ _ => HasSource.entry]
    refine (hperm.filterMap _).trans ?_
    simp [capacityEvents, List.filterMap_append, List.filterMap_map, Function.comp_def,
      CapacityEvent.sourceEntry, lineageEvent, allocationEvent, releaseEvent]
  · rw [filterMap_sources hchain.sources fun _ _ => HasSource.allocation]
    refine (hperm.filterMap _).trans ?_
    simp [capacityEvents, List.filterMap_append, List.filterMap_map, Function.comp_def,
      CapacityEvent.sourceAllocation, lineageEvent, allocationEvent, releaseEvent]
  · rw [filterMap_sources hchain.sources fun _ _ => HasSource.hold]
    refine (hperm.filterMap _).trans ?_
    simp [capacityEvents, List.filterMap_append, List.filterMap_map, Function.comp_def,
      CapacityEvent.sourceHold, lineageEvent, allocationEvent, releaseEvent]
  · rw [hchain.length_eq, hperm.length_eq]
    simp only [capacityEvents, List.length_append, List.length_map]
  · have hremaining := balance_remaining (capacityEvents s t g)
    simp only [← hcounter] at hremaining
    exact hremaining

end Fold

/-- For every sequence of accepted statements and every grant: versions are numbered
1 to n, one for each lineage row, each allocation and each release by a void; the
latest one carries the sums of the tables, and its reserve is within what remains. -/
theorem capacity_versions_are_the_fold {log : List (Timestamp × Statement)} {s : Db}
    (h : replayStatements log = .ok s) (tenantId grantId : Uuid) :
    CapacityFold s tenantId grantId :=
  capacityFold_of_tracks (replayStatements_tracks h).2 tenantId grantId

/-- The small run: four versions, of one lineage row, one allocation, one capture and
one void. -/
theorem capacity_versions_are_the_fold_sample :
    CapacityFold (Sample.stateAfter Sample.log) 1 300 ∧
      ((Sample.stateAfter Sample.log).versionsOf 1 300).length = 4 :=
  ⟨capacity_versions_are_the_fold
    (replayStatements_of_replay (Sample.replay_stateAfter (by rfl))) 1 300,
    by rfl⟩

end LuxLedger.Credit
