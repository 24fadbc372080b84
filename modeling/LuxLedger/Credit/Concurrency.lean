/-
  Credit/Concurrency.lean --- no lost update on a grant, whatever the interleaving.

  The committed versions of a grant are the chain of the committed events.  A session
  that has appended a version of a grant did so to the version that was the latest one
  among all committed ones, or its version number is taken and it cannot commit: this is
  what the unique index on `(grant_id, version)` gives, and all the rest follows from it.
-/
import LuxLedger.Credit.Snapshots

set_option autoImplicit false

namespace LuxLedger.Credit

open LuxLedger.Schema LuxLedger.Relational

/-! ## The invariant -/

/-- The lineage rows and the allocations that still await their version. -/
def pendingLineage (pending : List PendingTask) : List CreditGrantEntry :=
  pending.flatMap fun task =>
    match task with
    | .lineage row => [row]
    | _ => []

/-- The allocations whose triggers are still to run. -/
def pendingAllocations (pending : List PendingTask) : List CreditGrantHoldAllocation :=
  pending.flatMap fun task =>
    match task with
    | .allocation row => [row]
    | _ => []

/-- The committed versions are the chain of the committed events. -/
structure CommittedOk (c : Committed) : Prop where
  keys : AppendKeys c.shared
  posted : ∀ l ∈ c.shared.creditGrantEntries, Posted c.shared l
  tracks : Tracks c.shared (committedEvents c)

/-- The committed versions and those of a session are the chain of the committed events
and those of the session, and where it has appended a version it had seen the latest. -/
structure Counted (c : Committed) (session : Session) (released : List Release)
    (causes : Causes) : Prop where
  lineage : writtenLineage session.writes = causes.lineage ++ pendingLineage session.pending
  allocations : writtenAllocations session.writes =
    causes.allocations ++ pendingAllocations session.pending
  released : causes.released = released
  tracks : Tracks (c.shared.place session.writes) fun t g =>
    committedEvents c t g ++ countedEvents (c.shared.place session.writes) causes t g
  fresh : ∀ t g, ownVersions session.writes t g ≠ [] →
    session.snapshot.versionsOf t g = c.shared.versionsOf t g

/-- This holds of a session as long as it could still commit. -/
structure SessionOk (c : Committed) (session : Session) (released : List Release) : Prop where
  grew : Grew session.snapshot c.shared
  posted : ∀ l ∈ writtenLineage session.writes, Posted session.view l
  counted : AppendKeys (c.shared.place session.writes) → ∃ causes, Counted c session released causes

section Session

variable {c : Committed} {session : Session} {released : List Release}

theorem SessionOk.posted_place (hs : SessionOk c session released) {l : CreditGrantEntry}
    (hl : l ∈ writtenLineage session.writes) : Posted (c.shared.place session.writes) l :=
  (hs.posted l hl).mono hs.grew.part_place

theorem sessionOk_begin (hc : CommittedOk c) (now : Timestamp) :
    SessionOk c (Session.begin c.shared now) [] := by
  refine ⟨Grew.refl c.shared, fun _ hl => absurd hl List.not_mem_nil, fun _ => ⟨⟨[], [], []⟩, ?_⟩⟩
  refine ⟨rfl, rfl, rfl, hc.tracks.perm fun t g => ?_, fun _ _ _ => rfl⟩
  exact List.Perm.of_eq (List.append_nil _).symm

theorem sessionOk_refresh (hs : SessionOk c session released) :
    SessionOk c { session with snapshot := c.shared } released := by
  refine ⟨Grew.refl c.shared, fun l hl => hs.posted_place hl, fun hkeys => ?_⟩
  obtain ⟨causes, hcounted⟩ := hs.counted hkeys
  exact ⟨causes, { hcounted with fresh := fun _ _ _ => rfl }⟩

/-- A write that is no capacity version. -/
theorem sessionOk_write (hs : SessionOk c session released) {w : Write} {pending : List PendingTask}
    (hversions : newVersions w = [])
    (hposted : ∀ l ∈ w.statement.newCreditGrantEntries, Posted session.view l)
    (hlineage : pendingLineage pending =
      pendingLineage session.pending ++ w.statement.newCreditGrantEntries)
    (hallocations : pendingAllocations pending =
      pendingAllocations session.pending ++ w.statement.newAllocations) :
    SessionOk c { session with writes := session.writes ++ [w], pending := pending }
      released := by
  have hview : Part session.view (session.snapshot.place (session.writes ++ [w])) :=
    part_place_concat _ _ w
  have hplace := part_place_concat c.shared session.writes w
  have hown : ∀ t g, ownVersions (session.writes ++ [w]) t g = ownVersions session.writes t g := by
    intro t g
    simp [ownVersions, writtenVersions, hversions]
  refine ⟨hs.grew, ?_, fun hkeys => ?_⟩
  · intro l hl
    simp only [writtenLineage, List.flatMap_append, List.flatMap_singleton,
      List.mem_append] at hl
    rcases hl with hold | hnew
    · exact (hs.posted l hold).mono hview
    · exact (hposted l hnew).mono hview
  · obtain ⟨causes, hcounted⟩ := hs.counted (hkeys.of_part hplace)
    have hevents : ∀ l ∈ causes.lineage, lineageEvent (c.shared.place (session.writes ++ [w])) l =
        lineageEvent (c.shared.place session.writes) l := by
      intro l hl
      have hwritten : l ∈ writtenLineage session.writes := by
        rw [hcounted.lineage]
        exact List.mem_append_left _ hl
      exact (hs.posted_place hwritten).lineageEvent_eq hplace hkeys
    have hversionsEq : ∀ t g, (c.shared.place (session.writes ++ [w])).versionsOf t g =
        (c.shared.place session.writes).versionsOf t g := by
      intro t g
      rw [versionsOf_place, versionsOf_place, hown]
    refine ⟨causes, ?_, ?_, hcounted.released, ?_, fun t g hne => ?_⟩
    · simp only [writtenLineage, List.flatMap_append, List.flatMap_singleton, hlineage]
      rw [← List.append_assoc, ← hcounted.lineage]
      rfl
    · simp only [writtenAllocations, List.flatMap_append, List.flatMap_singleton, hallocations]
      rw [← List.append_assoc, ← hcounted.allocations]
      rfl
    · intro t g
      obtain ⟨history, hchain, hperm⟩ := hcounted.tracks t g
      refine ⟨history, hversionsEq t g ▸ hchain, ?_⟩
      dsimp only
      rw [countedEvents_congr causes hevents]
      exact hperm
    · exact hcounted.fresh t g (hown t g ▸ hne)

/-! ## A session appends a version -/

/-- A version number is taken once. -/
theorem AppendKeys.version_fresh {s : Db} {v : CreditGrantCapacityVersion}
    (hkeys : AppendKeys (s.addCapacityVersion v)) :
    ∀ u ∈ s.creditGrantCapacityVersions, ¬ (u.grantId = v.grantId ∧ u.version = v.version) := by
  rintro u hu ⟨hgrant, hversion⟩
  have hnodup := hkeys.versions
  unfold UniqueKey Db.addCapacityVersion at hnodup
  rw [List.map_append, List.nodup_append] at hnodup
  exact hnodup.2.2 _ (List.mem_map_of_mem hu) _
    (List.mem_map_of_mem (List.mem_singleton_self v)) (Prod.ext hgrant hversion)

theorem mem_versionsOf {s : Db} {t g : Uuid} {v : CreditGrantCapacityVersion} :
    v ∈ s.versionsOf t g ↔
      v ∈ s.creditGrantCapacityVersions ∧ v.tenantId = t ∧ v.grantId = g := by
  simp [Db.versionsOf]

/-- The counters that a writer reads are those of the versions it sees. -/
theorem latestMinor_of_versionsOf {s s' : Db} {t g : Uuid}
    (h : s'.versionsOf t g = s.versionsOf t g) (column : CreditGrantCapacityVersion → Int) :
    s'.latestMinor t g column = s.latestMinor t g column := by
  unfold Db.latestMinor Db.latestVersion
  rw [h]

section Append

variable {t g : Uuid} {e : CapacityEvent Uuid} {v : CreditGrantCapacityVersion} {causes : Causes}

theorem Appended.version_row {s : Db} (h : Appended s t g e (s.addCapacityVersion v)) :
    v.tenantId = t ∧ v.grantId = g ∧ HasSource v e ∧ CapacityChecked v ∧
      ∀ k : Counter, k.column v = s.latestMinor t g k.column + e.delta k := by
  obtain ⟨row, heq, hrow⟩ := h.row
  have hversions := congrArg Db.creditGrantCapacityVersions heq
  have hrows : [v] = [row] := List.append_cancel_left hversions
  obtain rfl := List.singleton_injective hrows
  exact hrow

/-- A version whose number no other session has taken was appended to the latest committed
one. -/
theorem latest_seen (hc : CommittedOk c) (hs : SessionOk c session released)
    (hcounted : Counted c session released causes)
    (happend : Appended session.view t g e (session.view.addCapacityVersion v))
    (hkeys : AppendKeys ((c.shared.place session.writes).addCapacityVersion v)) :
    session.snapshot.versionsOf t g = c.shared.versionsOf t g := by
  by_cases hown : ownVersions session.writes t g = []
  · obtain ⟨history, hchain, -⟩ := hc.tracks t g
    obtain ⟨rest, hrest⟩ := hs.grew.versionsOf t g
    cases rest with
    | nil => rw [← hrest, List.append_nil]
    | cons u more =>
        -- the committed version after those it saw has the number of its own
        exfalso
        have hu : u.version = (session.snapshot.versionsOf t g).length + 1 :=
          (hrest ▸ hchain : Chain (_ ++ u :: more) history).version_at
        have hview : session.view.versionsOf t g = session.snapshot.versionsOf t g := by
          rw [Session.view, versionsOf_place, hown, List.append_nil]
        obtain ⟨seen, hseen, -⟩ := hchain.of_prefix _ ⟨u :: more, hrest⟩
        obtain ⟨-, hgrant, -, -, hcounters⟩ := happend.version_row
        have hv : v.version = session.view.latestMinor t g (·.version) + 1 := by
          have hversion := hcounters .version
          rwa [CapacityEvent.delta_version] at hversion
        rw [(hview ▸ hseen : Chain (session.view.versionsOf t g) seen).latest_version,
          hview] at hv
        have hmem : u ∈ c.shared.versionsOf t g :=
          hrest ▸ List.mem_append_right _ List.mem_cons_self
        obtain ⟨hcommitted, -, hugrant⟩ := mem_versionsOf.mp hmem
        have hplaced : u ∈ (c.shared.place session.writes).creditGrantCapacityVersions := by
          rw [place_versions]
          exact List.mem_append_left _ hcommitted
        exact hkeys.version_fresh u hplaced ⟨hugrant.trans hgrant.symm, hu.trans hv.symm⟩
  · exact hcounted.fresh t g hown

/-- So it extends the chain. -/
theorem Counted.append (hc : CommittedOk c) (hs : SessionOk c session released)
    (hcounted : Counted c session released causes)
    (happend : Appended session.view t g e (session.view.addCapacityVersion v))
    (hkeys : AppendKeys (c.shared.place (session.writes ++ [.capacityVersion v])))
    {causes' : Causes} {pending : List PendingTask} {released' : List Release}
    (hlineage : writtenLineage session.writes = causes'.lineage ++ pendingLineage pending)
    (hallocations : writtenAllocations session.writes =
      causes'.allocations ++ pendingAllocations pending)
    (hreleased : causes'.released = released')
    (hevents : ∀ t' g', (countedEvents (c.shared.place session.writes) causes' t' g').Perm
      ((countedEvents (c.shared.place session.writes) causes).add t g e t' g')) :
    Counted c { session with
      writes := session.writes ++ [.capacityVersion v]
      pending := pending } released' causes' := by
  rw [place_concat] at hkeys
  have hseen := latest_seen hc hs hcounted happend hkeys
  have hversions :
      session.view.versionsOf t g = (c.shared.place session.writes).versionsOf t g := by
    rw [Session.view, versionsOf_place, versionsOf_place, hseen]
  obtain ⟨htenant, hgrant, hsource, hchecked, hcounters⟩ := happend.version_row
  have hplaced : Appended (c.shared.place session.writes) t g e
      ((c.shared.place session.writes).addCapacityVersion v) := by
    refine ⟨v, rfl, htenant, hgrant, hsource, hchecked, fun k => ?_⟩
    rw [hcounters k, latestMinor_of_versionsOf hversions]
  refine ⟨?_, ?_, hreleased, ?_, fun t' g' hne => ?_⟩
  · simpa [writtenLineage, Write.statement, Statement.newCreditGrantEntries] using hlineage
  · simpa [writtenAllocations, Write.statement, Statement.newAllocations] using hallocations
  · dsimp only
    rw [place_concat]
    refine (hcounted.tracks.append hplaced).perm fun t' g' => ?_
    have hadd : (countedEvents ((c.shared.place session.writes).put (.capacityVersion v)) causes'
        t' g').Perm ((countedEvents (c.shared.place session.writes) causes).add t g e t' g') :=
      hevents t' g'
    refine List.Perm.trans ?_ (hadd.symm.append_left (committedEvents c t' g'))
    unfold Histories.add
    split
    · rw [List.append_assoc]
    · exact List.Perm.refl _
  · by_cases hsame : v.tenantId = t' ∧ v.grantId = g'
    · rw [← hsame.1, ← hsame.2, htenant, hgrant]
      exact hseen
    · refine hcounted.fresh t' g' fun hnil => hne ?_
      have hown : ownVersions (session.writes ++ [.capacityVersion v]) t' g' =
          ownVersions session.writes t' g' := by
        simp [ownVersions, writtenVersions, newVersions, hsame]
      rw [hown, hnil]

/-- What a writer appends is the one version by which its tables grow. -/
theorem appendedVersions_addCapacityVersion (s : Db) (v : CreditGrantCapacityVersion) :
    appendedVersions s (s.addCapacityVersion v) = [.capacityVersion v] := by
  unfold appendedVersions Db.addCapacityVersion
  rw [List.drop_left, List.map_singleton]

theorem Appended.appendedVersions {s s' : Db} (h : Appended s t g e s') :
    ∃ v, s' = s.addCapacityVersion v ∧ appendedVersions s s' = [.capacityVersion v] := by
  obtain ⟨v, rfl, -⟩ := h.row
  exact ⟨v, rfl, appendedVersions_addCapacityVersion s v⟩

/-- The lineage rows of a session stay posted as it appends a version. -/
theorem SessionOk.posted_append (hs : SessionOk c session released)
    (v : CreditGrantCapacityVersion) :
    ∀ l ∈ writtenLineage (session.writes ++ [.capacityVersion v]),
      Posted (session.snapshot.place (session.writes ++ [.capacityVersion v])) l := by
  intro l hl
  refine (hs.posted l ?_).mono (part_place_concat _ _ _)
  simpa [writtenLineage, Write.statement, Statement.newCreditGrantEntries] using hl

/-- A task that appends a version for one more cause. -/
theorem sessionOk_append (hc : CommittedOk c) (hs : SessionOk c session released) {s' : Db}
    (happend : Appended session.view t g e s') {pending : List PendingTask} (more : Causes)
    (hlineage : pendingLineage session.pending = more.lineage ++ pendingLineage pending)
    (hallocations : pendingAllocations session.pending =
      more.allocations ++ pendingAllocations pending)
    (hevents : ∀ t' g', countedEvents (c.shared.place session.writes) more t' g' =
      if t' = t ∧ g' = g then [e] else []) :
    SessionOk c { session with
      writes := session.writes ++ appendedVersions session.view s'
      pending := pending } (released ++ more.released) := by
  obtain ⟨v, rfl, happended⟩ := happend.appendedVersions
  rw [happended]
  refine ⟨hs.grew, hs.posted_append v, fun hkeys => ?_⟩
  obtain ⟨causes, hcounted⟩ := hs.counted (hkeys.of_part (part_place_concat _ _ _))
  refine ⟨_, hcounted.append hc hs happend hkeys ?_ ?_ ?_ (countedEvents_add hevents)⟩
  · rw [hcounted.lineage, hlineage, List.append_assoc]
  · rw [hcounted.allocations, hallocations, List.append_assoc]
  · rw [hcounted.released]

/-- A session whose keys are taken cannot commit any more, whatever it appends. -/
theorem sessionOk_append_of_taken (hs : SessionOk c session released)
    (htaken : ¬ AppendKeys (c.shared.place session.writes)) (v : CreditGrantCapacityVersion)
    (pending : List PendingTask) (released' : List Release) :
    SessionOk c { session with
      writes := session.writes ++ [.capacityVersion v]
      pending := pending } released' :=
  ⟨hs.grew, hs.posted_append v,
    fun hkeys => absurd (hkeys.of_part (part_place_concat _ _ _)) htaken⟩

end Append

/-! ## Every step of a session -/

/-- A row to be counted is among the writes. -/
theorem SessionOk.mem_of_pending {causes : Causes} (hcounted : Counted c session released causes)
    {l : CreditGrantEntry} (hl : l ∈ pendingLineage session.pending) :
    l ∈ writtenLineage session.writes := by
  rw [hcounted.lineage]
  exact List.mem_append_right _ hl

theorem sessionOk_runTask (hc : CommittedOk c) (hs : SessionOk c session released)
    {task : PendingTask} {rest : List PendingTask} (hpending : session.pending = task :: rest)
    {done : List Write} (h : task.run session.view = .ok done) :
    SessionOk c { session with
      writes := session.writes ++ done
      pending := rest } (released ++ taskRelease session.view task) := by
  cases task with
  | lineage row =>
      simp only [PendingTask.run, bind_eq_ok_iff, pure_eq_ok_iff] at h
      obtain ⟨after, happend, rfl⟩ := h
      by_cases hkeys : AppendKeys (c.shared.place session.writes)
      · obtain ⟨causes, hcounted⟩ := hs.counted hkeys
        have hwritten : row ∈ writtenLineage session.writes :=
          SessionOk.mem_of_pending hcounted (by rw [hpending]; exact List.mem_cons_self)
        have hview : row ∈ session.view.creditGrantEntries := by
          rw [Session.view, place_creditGrantEntries]
          exact List.mem_append_right _ hwritten
        have hpart : Part session.view (c.shared.place session.writes) := hs.grew.part_place
        have hevent : lineageEvent (c.shared.place session.writes) row =
            lineageEvent session.view row :=
          (hs.posted row hwritten).lineageEvent_eq hpart hkeys
        have happended := appendCreditGrantCapacityVersion_ok
          (find?_lineage (hkeys.of_part hpart).creditGrantEntries hview) happend
        refine sessionOk_append hc hs happended ⟨[row], [], []⟩ ?_ ?_ fun t' g' => ?_
        · rw [hpending]
          rfl
        · rw [hpending]
          rfl
        · rw [countedEvents_lineage, hevent]
      · obtain ⟨v, -, -, rfl⟩ := insertCapacityVersion_ok happend
        rw [appendedVersions_addCapacityVersion]
        exact sessionOk_append_of_taken hs hkeys v rest _
  | allocation row =>
      simp only [PendingTask.run, bind_eq_ok_iff, pure_eq_ok_iff] at h
      obtain ⟨after, happend, rfl⟩ := h
      refine sessionOk_append hc hs (appendGrantAllocationReservation_ok happend)
        ⟨[], [row], []⟩ ?_ ?_ (countedEvents_allocation _ row)
      · rw [hpending]
        rfl
      · rw [hpending]
        rfl
  | release old grant =>
      simp only [PendingTask.run, bind_eq_ok_iff, pure_eq_ok_iff] at h
      obtain ⟨after, hrelease, rfl⟩ := h
      have hlineage : pendingLineage session.pending = pendingLineage rest := by
        rw [hpending]
        rfl
      have hallocations : pendingAllocations session.pending = pendingAllocations rest := by
        rw [hpending]
        rfl
      rcases releaseGrant_ok hrelease with ⟨hnone, rfl⟩ | ⟨hsome, happend⟩
      · rw [taskRelease, roundRelease, if_neg hnone, List.append_nil]
        have hempty : appendedVersions session.view session.view = [] := by
          unfold Schema.appendedVersions
          rw [List.drop_length, List.map_nil]
        rw [hempty, List.append_nil]
        refine ⟨hs.grew, hs.posted, fun hkeys => ?_⟩
        obtain ⟨causes, hcounted⟩ := hs.counted hkeys
        exact ⟨causes, { hcounted with
          lineage := hlineage ▸ hcounted.lineage
          allocations := hallocations ▸ hcounted.allocations }⟩
      · rw [taskRelease, roundRelease, if_pos hsome]
        exact sessionOk_append hc hs happend ⟨[], [], [⟨old.tenantId, grant.id, old.id, _⟩]⟩
          hlineage hallocations (countedEvents_release _ _)
  | holdChange old new =>
      simp only [PendingTask.run, bind_eq_ok_iff, pure_eq_ok_iff] at h
      obtain ⟨-, -, rfl⟩ := h
      show SessionOk c _ (released ++ [])
      rw [List.append_nil]
      refine sessionOk_write hs rfl (fun l hl => absurd hl List.not_mem_nil) ?_ ?_
      · rw [hpending]
        exact (List.append_nil _).symm
      · rw [hpending]
        exact (List.append_nil _).symm

theorem pendingLineage_append (pending more : List PendingTask) :
    pendingLineage (pending ++ more) = pendingLineage pending ++ pendingLineage more :=
  List.flatMap_append

theorem pendingAllocations_append (pending more : List PendingTask) :
    pendingAllocations (pending ++ more) = pendingAllocations pending ++ pendingAllocations more :=
  List.flatMap_append

/-- Inserting a row leaves its AFTER trigger to be run. -/
theorem sessionOk_insert (hs : SessionOk c session released) {new : NewRow}
    (hcheck : new.check session.now session.view = .ok ()) :
    SessionOk c { session with
      writes := session.writes ++ [.row new]
      pending := session.pending ++ new.after } released := by
  refine sessionOk_write hs rfl ?_ ?_ ?_
  · intro l hl
    cases new with
    | creditGrantEntry row =>
        obtain rfl := List.mem_singleton.mp hl
        obtain ⟨linked, haccepted⟩ := checkCreditGrantEntry_ok hcheck
        exact posted_of_linked haccepted.linkedRows
    | _ => exact absurd hl List.not_mem_nil
  · rw [pendingLineage_append]
    cases new <;> rfl
  · rw [pendingAllocations_append]
    cases new <;> rfl

/-- The tasks of an updated hold await no version of a row. -/
theorem pending_updateHold (s : Db) (old new : Hold) :
    pendingLineage (releaseTasks s old new ++ [.holdChange old new]) = [] ∧
      pendingAllocations (releaseTasks s old new ++ [.holdChange old new]) = [] := by
  unfold releaseTasks
  split
  · exact ⟨rfl, rfl⟩
  · split
    · exact ⟨rfl, rfl⟩
    · simp [pendingLineage, pendingAllocations, List.flatMap_map]

theorem sessionOk_act (hc : CommittedOk c) (hs : SessionOk c session released) {action : Action}
    {session' : Session} (h : session.act c.shared action = .ok session') :
    SessionOk c session'
      (released ++ (doneTask ⟨session, action⟩).flatMap (taskRelease session.view)) := by
  cases action with
  | insert new =>
      simp only [Session.act, bind_eq_ok_iff, pure_eq_ok_iff] at h
      obtain ⟨⟨⟩, hcheck, rfl⟩ := h
      rw [doneTask, List.flatMap_nil, List.append_nil]
      exact sessionOk_insert hs hcheck
  | updateHold id new =>
      simp only [Session.act] at h
      cases hfound : session.view.hold? id with
      | none =>
          rw [hfound] at h
          cases h
      | some old =>
          simp only [hfound, bind_eq_ok_iff, pure_eq_ok_iff] at h
          obtain ⟨⟨⟩, -, rfl⟩ := h
          obtain ⟨hlineage, hallocations⟩ := pending_updateHold session.view old new
          rw [doneTask, List.flatMap_nil, List.append_nil]
          refine ⟨hs.grew, hs.posted, fun hkeys => ?_⟩
          obtain ⟨causes, hcounted⟩ := hs.counted hkeys
          refine ⟨causes, { hcounted with lineage := ?_, allocations := ?_ }⟩
          · dsimp only
            rw [List.append_assoc, pendingLineage_append, hlineage, List.append_nil]
            exact hcounted.lineage
          · dsimp only
            rw [List.append_assoc, pendingAllocations_append, hallocations, List.append_nil]
            exact hcounted.allocations
  | runTask =>
      simp only [Session.act] at h
      cases hpending : session.pending with
      | nil =>
          rw [hpending] at h
          rw [doneTask, hpending, List.take_nil, List.flatMap_nil, List.append_nil]
          exact Except.ok.inj h ▸ hs
      | cons task rest =>
          simp only [hpending, bind_eq_ok_iff, pure_eq_ok_iff] at h
          obtain ⟨done, hdone, rfl⟩ := h
          rw [doneTask, hpending, List.take_succ_cons, List.take_zero, List.flatMap_singleton]
          exact sessionOk_runTask hc hs hpending hdone
  | refresh =>
      rw [← Except.ok.inj h, doneTask, List.flatMap_nil, List.append_nil]
      exact sessionOk_refresh hs

/-! ## Commit -/

/-- What an accepted commit leaves. -/
structure CommitAccepted (committed : Db) (session : Session) (db : Db) : Prop where
  finished : session.pending = []
  result : db = committed.place session.writes
  indexes : checkUniqueIndexes db = .ok ()

theorem commitAccepted_of_ok {committed db : Db} (h : session.commit committed = .ok db) :
    CommitAccepted committed session db := by
  simp only [Session.commit, bind_eq_ok_iff, require_eq_ok_iff, pure_eq_ok_iff,
    exists_const] at h
  obtain ⟨hfinished, ⟨⟩, -, ⟨⟩, -, db, happlied, ⟨⟩, hindexes, rfl⟩ := h
  exact ⟨hfinished, foldlM_apply happlied, hindexes⟩

theorem CommitAccepted.keys {committed db : Db} (h : CommitAccepted committed session db) :
    AppendKeys (committed.place session.writes) :=
  checkUniqueIndexes_ok (h.result ▸ h.indexes)

/-- What the steps of a session release joins the rest as it commits. -/
theorem committedReleases_commit (db : Db) (steps : List SessionStep) :
    committedReleases ⟨db, c.commits ++ [steps]⟩ = committedReleases c ++ releasesOf steps := by
  simp [committedReleases]

/-- One version for each event. -/
theorem Tracks.length_eq {s : Db} {events : Histories} (h : Tracks s events) (t g : Uuid) :
    (events t g).length = (s.versionsOf t g).length := by
  obtain ⟨history, hchain, hperm⟩ := h t g
  rw [hchain.length_eq, hperm.length_eq]

/-- The events of a session join the committed ones. -/
theorem committedEvents_commit (hc : CommittedOk c) {db : Db} {steps : List SessionStep}
    {causes : Causes} (haccepted : CommitAccepted c.shared session db)
    (hcounted : Counted c session (releasesOf steps) causes) (t g : Uuid) :
    (committedEvents ⟨db, c.commits ++ [steps]⟩ t g).Perm
      (committedEvents c t g ++ countedEvents (c.shared.place session.writes) causes t g) := by
  have hkeys := haccepted.keys
  obtain ⟨hfinished, rfl, -⟩ := haccepted
  have hlineage := hcounted.lineage
  have hallocations := hcounted.allocations
  rw [hfinished] at hlineage hallocations
  have hcauses : committedCauses ⟨c.shared.place session.writes, c.commits ++ [steps]⟩ =
      ⟨(committedCauses c).lineage ++ causes.lineage,
        (committedCauses c).allocations ++ causes.allocations,
        (committedCauses c).released ++ causes.released⟩ := by
    simp only [committedCauses, place_creditGrantEntries, place_allocations, hlineage,
      hallocations, hcounted.released, committedReleases_commit]
    simp [pendingLineage, pendingAllocations]
  unfold committedEvents
  rw [hcauses]
  refine (countedEvents_append _ _ _ t g).trans ?_
  have hsame := countedEvents_congr (committedCauses c)
    (fun l hl => (hc.posted l hl).lineageEvent_eq (grew_place c.shared session.writes).part hkeys)
    t g
  rw [hsame]

theorem committedOk_commit (hc : CommittedOk c) {steps : List SessionStep}
    (hs : SessionOk c session (releasesOf steps)) {db : Db}
    (h : session.commit c.shared = .ok db) : CommittedOk ⟨db, c.commits ++ [steps]⟩ := by
  have haccepted := commitAccepted_of_ok h
  have hkeys := haccepted.keys
  obtain ⟨causes, hcounted⟩ := hs.counted hkeys
  have hevents := committedEvents_commit hc haccepted hcounted
  obtain ⟨-, rfl, -⟩ := haccepted
  refine ⟨hkeys, fun l hl => ?_, hcounted.tracks.perm fun t g => (hevents t g).symm⟩
  rw [place_creditGrantEntries] at hl
  rcases List.mem_append.mp hl with hold | hnew
  · exact (hc.posted l hold).mono (grew_place c.shared session.writes).part
  · exact hs.posted_place hnew

/-- Two sessions that have both appended versions of a grant to the same committed one
cannot both commit. -/
theorem one_appender {writes : List Write} {db db' : Db} {t g : Uuid}
    {history history' : List (CapacityEvent Uuid)}
    (hfirst : Chain (db.versionsOf t g ++ ownVersions writes t g) history)
    (hsecond : Chain (db'.versionsOf t g) history')
    (hgrew : db.versionsOf t g <+: db'.versionsOf t g)
    (hown : ownVersions writes t g ≠ []) (hkeys : AppendKeys (db'.place writes)) :
    db'.versionsOf t g = db.versionsOf t g := by
  obtain ⟨rest, hrest⟩ := hgrew
  cases rest with
  | nil => rw [← hrest, List.append_nil]
  | cons u more =>
      exfalso
      obtain ⟨v, own, hv⟩ := List.exists_cons_of_ne_nil hown
      have huversion : u.version = (db.versionsOf t g).length + 1 :=
        (hrest ▸ hsecond : Chain (_ ++ u :: more) history').version_at
      have hvversion : v.version = (db.versionsOf t g).length + 1 :=
        (hv ▸ hfirst : Chain (_ ++ v :: own) history).version_at
      obtain ⟨hu, -, hugrant⟩ :=
        mem_versionsOf.mp (hrest ▸ List.mem_append_right _ List.mem_cons_self)
      have hvmem : v ∈ ownVersions writes t g := hv ▸ List.mem_cons_self
      obtain ⟨hvwritten, hvgrant⟩ := List.mem_filter.mp hvmem
      have hnodup := hkeys.versions
      unfold UniqueKey at hnodup
      rw [place_versions, List.map_append, List.nodup_append] at hnodup
      refine hnodup.2.2 _ (List.mem_map_of_mem hu) _ (List.mem_map_of_mem hvwritten)
        (Prod.ext ?_ (huversion.trans hvversion.symm))
      exact hugrant.trans (of_decide_eq_true hvgrant).2.symm

/-- What one session commits leaves what is known of the others. -/
theorem sessionOk_stable (hc : CommittedOk c) {steps : List SessionStep}
    (hs : SessionOk c session (releasesOf steps)) {db : Db}
    (h : session.commit c.shared = .ok db) {other : Session} (hother : SessionOk c other released) :
    SessionOk ⟨db, c.commits ++ [steps]⟩ other released := by
  have hc' := committedOk_commit hc hs h
  have haccepted := commitAccepted_of_ok h
  obtain ⟨mine, hmine⟩ := hs.counted haccepted.keys
  have hjoin := committedEvents_commit hc haccepted hmine
  have hgrew : Grew c.shared db := haccepted.result ▸ grew_place c.shared session.writes
  refine ⟨hother.grew.trans hgrew, hother.posted, fun hkeys => ?_⟩
  have hpart : Part (c.shared.place other.writes) (db.place other.writes) := hgrew.part_place
  obtain ⟨causes, hcounted⟩ := hother.counted (hkeys.of_part hpart)
  have hcongr : ∀ t g, countedEvents (db.place other.writes) causes t g =
      countedEvents (c.shared.place other.writes) causes t g := by
    refine countedEvents_congr causes fun l hl => ?_
    have hwritten : l ∈ writtenLineage other.writes := by
      rw [hcounted.lineage]
      exact List.mem_append_left _ hl
    exact (hother.posted_place hwritten).lineageEvent_eq hpart hkeys
  -- of a grant that it has appended to, nobody else has committed a version
  have hunchanged : ∀ t g, ownVersions other.writes t g ≠ [] →
      db.versionsOf t g = c.shared.versionsOf t g := by
    intro t g hown
    obtain ⟨history, hchain, -⟩ := hcounted.tracks t g
    obtain ⟨history', hchain', -⟩ := hc'.tracks t g
    rw [versionsOf_place] at hchain
    exact one_appender hchain hchain' (hgrew.versionsOf t g) hown hkeys
  refine ⟨causes, hcounted.lineage, hcounted.allocations, hcounted.released, fun t g => ?_,
    fun t g hown => (hcounted.fresh t g hown).trans (hunchanged t g hown).symm⟩
  dsimp only
  rw [hcongr, versionsOf_place]
  have hlength := hcounted.tracks.length_eq t g
  rw [versionsOf_place, List.length_append, List.length_append, hc.tracks.length_eq t g] at hlength
  by_cases hown : ownVersions other.writes t g = []
  · -- it has no events of the grant
    obtain ⟨history, hchain, hperm⟩ := hc'.tracks t g
    have hnone : countedEvents (c.shared.place other.writes) causes t g = [] := by
      rw [hown, List.length_nil] at hlength
      exact List.length_eq_zero_iff.mp (by omega)
    rw [hown, hnone, List.append_nil, List.append_nil]
    exact ⟨history, hchain, hperm⟩
  · -- the committing session has none
    obtain ⟨history, hchain, hperm⟩ := hcounted.tracks t g
    have hcommitted := (hjoin t g).length_eq
    rw [hc'.tracks.length_eq t g, hunchanged t g hown, List.length_append,
      hc.tracks.length_eq t g] at hcommitted
    have hnone : countedEvents (c.shared.place session.writes) mine t g = [] :=
      List.length_eq_zero_iff.mp (by omega)
    have hsame : (committedEvents ⟨db, c.commits ++ [steps]⟩ t g).Perm (committedEvents c t g) := by
      have hperm' := hjoin t g
      rwa [hnone, List.append_nil] at hperm'
    rw [hunchanged t g hown]
    rw [versionsOf_place] at hchain
    exact ⟨history, hchain, hperm.trans (hsame.symm.append_right _)⟩

end Session

theorem committedOk_empty : CommittedOk ⟨Db.empty, []⟩ :=
  ⟨⟨List.nodup_nil, List.nodup_nil, List.nodup_nil, List.nodup_nil⟩,
    fun _ hl => absurd hl List.not_mem_nil, fun _ _ => ⟨[], Chain.nil, List.Perm.refl _⟩⟩

/-- In every interleaving the committed versions are the chain of the committed events. -/
theorem interleave_ok {schedule : List (SessionEvent Timestamp Action)}
    {s : Sessions Committed (Recording Session Action)} (h : interleave schedule = .ok s) :
    SessionsOk CommittedOk (fun c r => SessionOk c r.state (releasesOf r.steps)) s := by
  refine sessionRules.recorded.run_ok (fun _ now hc => sessionOk_begin hc now) ?_ ?_ ?_
    committedOk_empty h
  · intro c r action r' hc hs hact
    simp only [SessionRules.recorded, bind_eq_ok_iff, pure_eq_ok_iff] at hact
    obtain ⟨session', hsession, rfl⟩ := hact
    rw [releasesOf_concat]
    exact sessionOk_act hc hs hsession
  · intro c r c' hc hs hcommit
    simp only [SessionRules.recorded, bind_eq_ok_iff, pure_eq_ok_iff] at hcommit
    obtain ⟨db, hdb, rfl⟩ := hcommit
    exact committedOk_commit hc hs hdb
  · intro c r c' other hc hs hcommit hother
    simp only [SessionRules.recorded, bind_eq_ok_iff, pure_eq_ok_iff] at hcommit
    obtain ⟨db, hdb, rfl⟩ := hcommit
    exact sessionOk_stable hc hs hdb hother

/-! ## The counters as sums over the committed rows -/

section Sums

variable {c : Committed} {t g : Uuid}

/-- All that voids have released of a grant. -/
def releasedByVoids (c : Committed) (tenantId grantId : Uuid) : Int :=
  sumWhere (committedReleases c) (fun r => r.tenantId = tenantId ∧ r.grantId = grantId)
    (·.amountMinor)

theorem balance_committedEvents (k : Counter) :
    balance (committedEvents c t g) k =
      sumWhere c.shared.creditGrantEntries (fun l => l.tenantId = t ∧ l.grantId = g)
        (fun l => lineageDelta l.kind l.amountMinor (c.shared.lineageHoldId l).isSome k) +
      sumWhere c.shared.creditGrantHoldAllocations (fun a => a.tenantId = t ∧ a.grantId = g)
        (fun a => reserveDelta a.amountMinor k) +
      sumWhere (committedReleases c) (fun r => r.tenantId = t ∧ r.grantId = g)
        (fun r => reserveDelta (- r.amountMinor) k) := by
  unfold committedEvents countedEvents
  rw [balance_append, balance_append, balance_map_filter, balance_map_filter, balance_map_filter]
  rfl

/-- The financial counters do not depend on what voids have released. -/
theorem balance_committedEvents_financial {k : Counter} (hversion : k ≠ .version)
    (hreserved : k ≠ .reserved) :
    balance (committedEvents c t g) k = balance (capacityEvents c.shared t g) k := by
  have hzero : ∀ amount, reserveDelta amount k = 0 := by
    intro amount
    cases k <;> first | contradiction | rfl
  have hallocations : sumWhere c.shared.creditGrantHoldAllocations
      (fun a => a.tenantId = t ∧ a.grantId = g) (fun a => reserveDelta a.amountMinor k) = 0 :=
    sumWhere_eq_zero fun a _ _ => hzero a.amountMinor
  have hreleased : sumWhere (committedReleases c) (fun r => r.tenantId = t ∧ r.grantId = g)
      (fun r => reserveDelta (- r.amountMinor) k) = 0 :=
    sumWhere_eq_zero fun r _ _ => hzero (- r.amountMinor)
  rw [balance_financial hversion hreserved, balance_committedEvents, hallocations, hreleased,
    Int.add_zero, Int.add_zero]

theorem balance_committedEvents_remaining :
    balance (committedEvents c t g) .remaining =
      c.shared.lineageTotal t g .issuance + c.shared.lineageTotal t g .compensation -
        (c.shared.lineageTotal t g .reversal + c.shared.lineageTotal t g .refund) -
        c.shared.lineageTotal t g .consumption - c.shared.lineageTotal t g .expiration := by
  rw [balance_committedEvents_financial (by decide) (by decide), balance_remaining, balance_granted,
    balance_compensated, balance_reversed, balance_consumed, balance_expired]

theorem balance_committedEvents_reserved :
    balance (committedEvents c t g) .reserved =
      allocatedTotal c.shared t g - capturedTotal c.shared t g - releasedByVoids c t g := by
  have hreleased : sumWhere (committedReleases c) (fun r => r.tenantId = t ∧ r.grantId = g)
      (fun r => reserveDelta (- r.amountMinor) .reserved) = - releasedByVoids c t g :=
    sumWhere_neg
  rw [balance_committedEvents, captured_reserved, hreleased]
  unfold allocatedTotal
  simp only [reserveDelta]
  omega

end Sums

/-! ## No lost update -/

/-- The committed versions of a grant against the committed rows. -/
structure NoLostUpdate (c : Committed) (tenantId grantId : Uuid) : Prop where
  /-- version numbers are 1, 2, …, n -/
  numbered : (c.shared.versionsOf tenantId grantId).map (·.version) =
    (List.range (c.shared.versionsOf tenantId grantId).length).map fun i : Nat => (i : Int) + 1
  /-- the first version is that of its event, each later one extends its predecessor by one -/
  first : ∀ v rest, c.shared.versionsOf tenantId grantId = v :: rest →
    ∃ e ∈ committedEvents c tenantId grantId, HasSource v e ∧
      ∀ k : Counter, k.column v = e.delta k
  extends_previous : ∀ before u v after,
    c.shared.versionsOf tenantId grantId = before ++ u :: v :: after →
      ∃ e ∈ committedEvents c tenantId grantId, HasSource v e ∧
        ∀ k : Counter, k.column v = k.column u + e.delta k
  /-- the holds that are VOIDED have been voided by committed sessions, round by round, and
  what committed sessions release they release for such holds, once for each grant -/
  voids : ∀ h ∈ c.shared.holds, h.state = .voided → ∃ steps ∈ c.commits, VoidedBy steps h
  releases : ∀ steps ∈ c.commits, ∀ r ∈ releasesOf steps, ∃ h ∈ c.shared.holds,
    h.state = .voided ∧ h.id = r.holdId ∧ h.tenantId = r.tenantId ∧ VoidedBy steps h
  releasedOnce : ((c.shared.versionsOf tenantId grantId).filterMap (·.sourceHoldId)).Nodup
  /-- the lineage rows, the allocations and the releases are counted once each -/
  lineageCounted : ((c.shared.versionsOf tenantId grantId).filterMap (·.sourceEntryId)).Perm
    ((c.shared.creditGrantEntries.filter fun l =>
      l.tenantId = tenantId ∧ l.grantId = grantId).map (·.entryId))
  allocationsCounted :
    ((c.shared.versionsOf tenantId grantId).filterMap (·.sourceAllocationId)).Perm
    ((c.shared.creditGrantHoldAllocations.filter fun a =>
      a.tenantId = tenantId ∧ a.grantId = grantId).map (·.id))
  releasesCounted : ((c.shared.versionsOf tenantId grantId).filterMap (·.sourceHoldId)).Perm
    (((committedReleases c).filter fun r =>
      r.tenantId = tenantId ∧ r.grantId = grantId).map (·.holdId))
  count : (c.shared.versionsOf tenantId grantId).length =
    (c.shared.creditGrantEntries.filter fun l =>
        l.tenantId = tenantId ∧ l.grantId = grantId).length +
      (c.shared.creditGrantHoldAllocations.filter fun a =>
        a.tenantId = tenantId ∧ a.grantId = grantId).length +
      ((committedReleases c).filter fun r => r.tenantId = tenantId ∧ r.grantId = grantId).length
  bounds : ∀ v ∈ c.shared.versionsOf tenantId grantId,
    0 ≤ v.reservedMinor ∧ v.reservedMinor ≤ v.remainingMinor
  remaining : c.shared.latestMinor tenantId grantId (·.remainingMinor) =
    c.shared.lineageTotal tenantId grantId .issuance +
        c.shared.lineageTotal tenantId grantId .compensation -
      (c.shared.lineageTotal tenantId grantId .reversal +
        c.shared.lineageTotal tenantId grantId .refund) -
      c.shared.lineageTotal tenantId grantId .consumption -
      c.shared.lineageTotal tenantId grantId .expiration
  reserved : c.shared.latestMinor tenantId grantId (·.reservedMinor) =
    allocatedTotal c.shared tenantId grantId - capturedTotal c.shared tenantId grantId -
      releasedByVoids c tenantId grantId
  /-- so all spending together, and what is reserved, is covered by the capacity -/
  covered : 0 ≤ c.shared.latestMinor tenantId grantId (·.reservedMinor) ∧
    c.shared.latestMinor tenantId grantId (·.reservedMinor) ≤
      c.shared.latestMinor tenantId grantId (·.remainingMinor)

theorem noLostUpdate_of_ok {c : Committed} (hc : CommittedOk c) (hvoids : VoidsOk c) (t g : Uuid) :
    NoLostUpdate c t g := by
  obtain ⟨history, hchain, hperm⟩ := hc.tracks t g
  refine
    { numbered := hchain.numbered
      first := fun v rest hversions => ?_
      extends_previous := fun before u v after hversions => ?_
      voids := hvoids.voided
      releases := fun steps hsteps r hr => ?_
      releasedOnce := hvoids.releasedOnce_grant t g
      lineageCounted := ?_
      allocationsCounted := ?_
      releasesCounted := ?_
      count := ?_
      bounds := fun v hv => ?_
      remaining := (hc.tracks.latestMinor t g .remaining).trans balance_committedEvents_remaining
      reserved := (hc.tracks.latestMinor t g .reserved).trans balance_committedEvents_reserved
      covered := hc.tracks.reserved_bounds t g }
  · obtain ⟨e, he, hrest⟩ := (hversions ▸ hchain).first
    exact ⟨e, hperm.subset he, hrest⟩
  · obtain ⟨e, he, hrest⟩ := (hversions ▸ hchain).extends
    exact ⟨e, hperm.subset he, hrest⟩
  · obtain ⟨h, hvoided, hid, htenant, hv⟩ := hvoids.released steps hsteps r hr
    exact ⟨h, mem_of_lookup (hvoids.kept steps hsteps h hvoided hv), hvoided, hid, htenant, hv⟩
  · rw [filterMap_sources hchain.sources fun _ _ => HasSource.entry]
    refine (hperm.filterMap _).trans ?_
    simp [committedEvents, countedEvents, committedCauses, List.filterMap_append,
      List.filterMap_map, Function.comp_def, CapacityEvent.sourceEntry, lineageEvent,
      allocationEvent, releasedEvent]
  · rw [filterMap_sources hchain.sources fun _ _ => HasSource.allocation]
    refine (hperm.filterMap _).trans ?_
    simp [committedEvents, countedEvents, committedCauses, List.filterMap_append,
      List.filterMap_map, Function.comp_def, CapacityEvent.sourceAllocation, lineageEvent,
      allocationEvent, releasedEvent]
  · rw [filterMap_sources hchain.sources fun _ _ => HasSource.hold]
    refine (hperm.filterMap _).trans ?_
    simp [committedEvents, countedEvents, committedCauses, List.filterMap_append,
      List.filterMap_map, Function.comp_def, CapacityEvent.sourceHold, lineageEvent,
      allocationEvent, releasedEvent]
  · rw [hchain.length_eq, hperm.length_eq]
    simp only [committedEvents, countedEvents, committedCauses, List.length_append,
      List.length_map]
  · have hchecked := hchain.checked v hv
    exact ⟨hchecked.reservedNonneg, hchecked.reservedLe⟩

/-- For any number of sessions and every interleaving of their steps, on snapshots as stale
as they may be: the committed versions of a grant are one chain in which each version
extends its predecessor, everything committed is counted once, and the capacity covers all
that is spent and reserved. -/
theorem no_lost_update {schedule : List (SessionEvent Timestamp Action)}
    {s : Sessions Committed (Recording Session Action)} (h : interleave schedule = .ok s)
    (tenantId grantId : Uuid) : NoLostUpdate s.shared tenantId grantId :=
  noLostUpdate_of_ok (interleave_ok h).shared (interleave_voidsOk h) tenantId grantId

namespace Sample

/-- Insert rows in one session, then run the one trigger that is left. -/
def insertRows (id : Nat) (rows : List NewRow) : List (SessionEvent Timestamp Action) :=
  rows.map (fun row => .act id (.insert row)) ++ [.act id .runTask]

/-- Session 0 issues grant 300 of 100. -/
def issue : List (SessionEvent Timestamp Action) :=
  [.begin 0 1] ++ insertRows 0
    [.asset ⟨1, 1, "USD", 2⟩, .account ⟨10, 1, 5, .credit, .disallow, 1, true⟩,
      .account ⟨11, 1, 5, .debit, .allow, 1, false⟩,
      .transaction ⟨100, 1, 5, none, none, none, 1, 1⟩, .entry ⟨200, 1, 100, 10, -100, 1⟩,
      .entry ⟨201, 1, 100, 11, 100, 1⟩, .creditGrant ⟨300, 1, 5, 10, 11, 100, none, 1⟩,
      .creditGrantEntry ⟨1, 5, 10, 300, 200, .issuance, 100⟩] ++ [.commit 0]

/-- Session 1 reserves 60 of the grant for hold 400. -/
def reserve : List (SessionEvent Timestamp Action) :=
  [.begin 1 2] ++ insertRows 1
    [.hold hold, .holdEntry ⟨500, 1, 400, 10, 60, 1⟩, .holdEntry ⟨501, 1, 400, 11, -60, 1⟩,
      .allocation ⟨600, 1, 5, 10, 300, 500, 60⟩] ++ [.commit 1]

/-- A session voids the hold: the round of the loop for the grant, and the write. -/
def voidHold (id : Nat) : List (SessionEvent Timestamp Action) :=
  [.act id (.updateHold 400
    { hold with state := .voided, remainingAmountMinor := 0, voidedAt := some 3 }),
    .act id .runTask, .act id .runTask]

/-- A session spends 40 of the grant by transaction `n`. -/
def spend (id n : Nat) : List (SessionEvent Timestamp Action) :=
  insertRows id
    [.transaction ⟨n, 1, 5, none, none, none, 1, 3⟩, .entry ⟨n + 100, 1, n, 10, 40, 1⟩,
      .entry ⟨n + 200, 1, n, 11, -40, 1⟩,
      .creditGrantEntry ⟨1, 5, 10, 300, n + 100, .consumption, 40⟩]

/-- Sessions 2, 3 and 4 start from the same snapshot.  One voids the hold and two spend what
is not reserved; the void is committed. -/
def race : List (SessionEvent Timestamp Action) :=
  issue ++ reserve ++ [.begin 2 3, .begin 3 3, .begin 4 3] ++ spend 3 1000 ++ voidHold 2 ++
    spend 4 2000 ++ [.commit 2]

/-- The state after a schedule that is accepted. -/
def interleaved (schedule : List (SessionEvent Timestamp Action)) :
    Sessions Committed (Recording Session Action) :=
  (interleave schedule).toOption.getD (Sessions.idle ⟨Db.empty, []⟩)

theorem interleave_interleaved {schedule : List (SessionEvent Timestamp Action)}
    (h : (interleave schedule).toBool = true) :
    interleave schedule = .ok (interleaved schedule) :=
  eq_ok_getD h _

/-- Sessions 3 and 4 have appended the same version and cannot commit. -/
example : (match interleave (race ++ [.commit 3]) with
    | .error e => some e
    | .ok _ => none) =
      some (.uniqueViolation "credit_grant_capacity_versions_grant_version_uq") := by rfl

end Sample

theorem no_lost_update_sample :
    NoLostUpdate (Sample.interleaved Sample.race).shared 1 300 ∧
      ((Sample.interleaved Sample.race).shared.shared.versionsOf 1 300).map
        (fun v => (v.version, v.remainingMinor, v.reservedMinor, v.sourceHoldId)) =
          [(1, 100, 0, none), (2, 100, 60, none), (3, 100, 0, some 400)] :=
  ⟨no_lost_update (Sample.interleave_interleaved (by rfl)) 1 300, by rfl⟩

end LuxLedger.Credit
