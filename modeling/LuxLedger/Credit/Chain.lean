/-
  Credit/Chain.lean --- the capacity versions of a grant as a refinement of its
  history of events.

  `Chain versions history` says that the stored versions are, one by one, the
  counters after each prefix of the history.  `Tracks` says it of every grant at
  once.  The three writers each append one event (`Appended`), which is all the
  later modules know of them.
-/
import LuxLedger.Schema.Holds
import LuxLedger.Schema.Lineage
import LuxLedger.Credit.Counters

set_option autoImplicit false

namespace LuxLedger.Credit

open LuxLedger.Schema LuxLedger.Relational

/-! ## One grant -/

/-- The column that stores a counter. -/
def Counter.column : Counter → CreditGrantCapacityVersion → Int
  | .version => (·.version)
  | .granted => (·.grantedMinor)
  | .reversed => (·.reversedMinor)
  | .consumed => (·.consumedMinor)
  | .compensated => (·.compensatedMinor)
  | .expired => (·.expiredMinor)
  | .remaining => (·.remainingMinor)
  | .reserved => (·.reservedMinor)

/-- The source columns of a version name what the event comes from. -/
structure HasSource (v : CreditGrantCapacityVersion) (e : CapacityEvent Uuid) : Prop where
  entry : v.sourceEntryId = e.sourceEntry
  allocation : v.sourceAllocationId = e.sourceAllocation
  hold : v.sourceHoldId = e.sourceHold

/-- The versions are the running counters of the history. -/
inductive Chain : List CreditGrantCapacityVersion → List (CapacityEvent Uuid) → Prop
  | nil : Chain [] []
  | snoc {versions history v e} (before : Chain versions history)
      (counters : ∀ c : Counter, c.column v = balance (history ++ [e]) c)
      (source : HasSource v e) (checked : CapacityChecked v) :
      Chain (versions ++ [v]) (history ++ [e])

namespace Chain

variable {versions : List CreditGrantCapacityVersion} {history : List (CapacityEvent Uuid)}

/-- One version for each event. -/
theorem length_eq (h : Chain versions history) : versions.length = history.length := by
  induction h with
  | nil => rfl
  | snoc _ _ _ _ ih => simp [ih]

/-- The latest version carries the counters of the whole history. -/
theorem latest (h : Chain versions history) :
    (history = [] ∧ latestBy CreditGrantCapacityVersion.version versions = none) ∨
      ∃ v, latestBy CreditGrantCapacityVersion.version versions = some v ∧
        (∀ c : Counter, c.column v = balance history c) ∧ CapacityChecked v := by
  induction h with
  | nil => exact Or.inl ⟨rfl, rfl⟩
  | @snoc versions history v e before counters source checked ih =>
      refine Or.inr ⟨v, latestBy_concat ?_, counters, checked⟩
      intro latest hlatest
      have hv : v.version = balance (history ++ [e]) .version := counters .version
      rcases ih with ⟨_, hnone⟩ | ⟨u, hu, hcounters, _⟩
      · rw [hnone] at hlatest
        cases hlatest
      · obtain rfl := Option.some.inj (hu.symm.trans hlatest)
        have hversion : u.version = balance history .version := hcounters .version
        rw [hv, hversion]
        simp

/-- Version numbers are 1, 2, …, n. -/
theorem numbered (h : Chain versions history) :
    versions.map (·.version) = (List.range versions.length).map fun i : Nat => (i : Int) + 1 := by
  induction h with
  | nil => rfl
  | @snoc versions history v e before counters source checked ih =>
      have hv : v.version = balance (history ++ [e]) .version := counters .version
      rw [balance_version] at hv
      rw [List.map_append, ih, List.length_append, List.length_singleton, List.range_succ,
        List.map_append, List.map_singleton, List.map_singleton, hv, before.length_eq]
      simp

/-- Every version passed the CHECK constraints. -/
theorem checked (h : Chain versions history) : ∀ v ∈ versions, CapacityChecked v := by
  induction h with
  | nil => simp
  | snoc _ _ _ checked ih =>
      intro u hu
      rcases List.mem_append.mp hu with hu | hu
      · exact ih u hu
      · rw [List.mem_singleton.mp hu]
        exact checked

/-- The sources of the versions are the causes of the events, in order. -/
theorem sources (h : Chain versions history) : List.Forall₂ HasSource versions history := by
  induction h with
  | nil => exact List.Forall₂.nil
  | snoc _ _ source _ ih =>
      exact List.rel_append ih (List.Forall₂.cons source List.Forall₂.nil)

end Chain

/-! ## All grants -/

/-- The history of every grant, by tenant and grant. -/
abbrev Histories : Type := Uuid → Uuid → List (CapacityEvent Uuid)

/-- Every grant's versions are the chain of its events, in the order in which the
writers ran. -/
def Tracks (s : Db) (events : Histories) : Prop :=
  ∀ tenantId grantId, ∃ history, Chain (s.versionsOf tenantId grantId) history ∧
    history.Perm (events tenantId grantId)

/-- One more event of one grant. -/
def Histories.add (events : Histories) (tenantId grantId : Uuid) (e : CapacityEvent Uuid) :
    Histories :=
  fun t g => if t = tenantId ∧ g = grantId then events t g ++ [e] else events t g

/-- What a writer does: it appends one version, the latest counters of the grant
moved by an event. -/
structure Appended (s : Db) (tenantId grantId : Uuid) (e : CapacityEvent Uuid) (s' : Db) :
    Prop where
  row : ∃ v, s' = s.addCapacityVersion v ∧ v.tenantId = tenantId ∧ v.grantId = grantId ∧
    HasSource v e ∧ CapacityChecked v ∧
    ∀ c : Counter, c.column v = s.latestMinor tenantId grantId c.column + e.delta c

theorem versionsOf_addCapacityVersion (s : Db) (v : CreditGrantCapacityVersion) (t g : Uuid) :
    (s.addCapacityVersion v).versionsOf t g =
      s.versionsOf t g ++ if v.tenantId = t ∧ v.grantId = g then [v] else [] := by
  simp only [Db.versionsOf, Db.addCapacityVersion, List.filter_append]
  congr 1
  by_cases h : v.tenantId = t ∧ v.grantId = g <;> simp [h]

section Tracks

variable {s s' : Db} {events : Histories} {tenantId grantId : Uuid}

theorem Tracks.perm {events' : Histories} (h : Tracks s events)
    (hperm : ∀ t g, (events t g).Perm (events' t g)) : Tracks s events' := by
  intro t g
  obtain ⟨history, hchain, hevents⟩ := h t g
  exact ⟨history, hchain, hevents.trans (hperm t g)⟩

/-- The histories depend on the capacity versions only. -/
theorem Tracks.of_versions_eq (h : Tracks s events)
    (hversions : s'.creditGrantCapacityVersions = s.creditGrantCapacityVersions) :
    Tracks s' events := by
  intro t g
  have heq : s'.versionsOf t g = s.versionsOf t g := by
    unfold Db.versionsOf
    rw [hversions]
  rw [heq]
  exact h t g

/-- Latest counters are the counters of the history. -/
theorem Tracks.latestMinor (h : Tracks s events) (t g : Uuid) (c : Counter) :
    s.latestMinor t g c.column = balance (events t g) c := by
  obtain ⟨history, hchain, hperm⟩ := h t g
  rw [← balance_perm hperm]
  unfold Db.latestMinor Db.latestVersion
  rcases hchain.latest with ⟨rfl, hnone⟩ | ⟨v, hv, hcounters, -⟩
  · rw [hnone]
    rfl
  · rw [hv]
    exact hcounters c

/-- A writer adds its event to the history. -/
theorem Tracks.append (h : Tracks s events) {e : CapacityEvent Uuid}
    (happend : Appended s tenantId grantId e s') :
    Tracks s' (events.add tenantId grantId e) := by
  obtain ⟨v, rfl, rfl, rfl, hsource, hchecked, hcounters⟩ := happend.row
  intro t g
  obtain ⟨history, hchain, hperm⟩ := h t g
  rw [versionsOf_addCapacityVersion]
  unfold Histories.add
  by_cases hgrant : v.tenantId = t ∧ v.grantId = g
  · obtain ⟨rfl, rfl⟩ := hgrant
    rw [if_pos ⟨rfl, rfl⟩, if_pos ⟨rfl, rfl⟩]
    refine ⟨history ++ [e], Chain.snoc hchain ?_ hsource hchecked, hperm.append_right [e]⟩
    intro c
    rw [hcounters c, h.latestMinor, balance_append, balance_singleton, balance_perm hperm]
  · rw [if_neg hgrant, if_neg (fun hgrant' => hgrant ⟨hgrant'.1.symm, hgrant'.2.symm⟩),
      List.append_nil]
    exact ⟨history, hchain, hperm⟩

end Tracks

/-! ## The three writers -/

/-- The event of a lineage row: CONSUMPTION is a capture when its transaction
carries a hold. -/
def lineageEvent (s : Db) (l : CreditGrantEntry) : CapacityEvent Uuid :=
  .lineage l.entryId l.kind l.amountMinor (s.lineageHoldId l).isSome

/-- The event of an allocation. -/
def allocationEvent (a : CreditGrantHoldAllocation) : CapacityEvent Uuid :=
  .allocation a.id a.amountMinor

theorem latestVersion_mem {s : Db} {t g : Uuid} {v : CreditGrantCapacityVersion}
    (h : s.latestVersion t g = some v) : v.tenantId = t ∧ v.grantId = g := by
  have hmem : v ∈ s.versionsOf t g := latestBy_mem h
  simpa [Db.versionsOf] using (List.mem_filter.mp hmem).2

/-- The BEFORE trigger sets the reserve of a version made by a lineage row. -/
theorem rejectBaseline_lineage {s : Db} {new v : CreditGrantCapacityVersion}
    {l : CreditGrantEntry} (hentry : new.sourceEntryId = some l.entryId)
    (hfind : s.creditGrantEntries.find? (fun l' => l'.tenantId = new.tenantId ∧
      l'.grantId = new.grantId ∧ l'.entryId = l.entryId) = some l)
    (h : rejectCreditGrantCapacityBaselineInsert s 2 new = .ok v) :
    v = { new with
      reservedMinor := s.latestMinor new.tenantId new.grantId (·.reservedMinor) +
        lineageDelta l.kind l.amountMinor (s.lineageHoldId l).isSome .reserved } := by
  simp only [rejectCreditGrantCapacityBaselineInsert, bind_eq_ok_iff, hentry, hfind] at h
  obtain ⟨⟨⟩, -, h⟩ := h
  unfold activeCreditGrantReservation at h
  by_cases hkind : l.kind = .consumption
  · rw [if_pos hkind] at h
    cases hhold : s.lineageHoldId l with
    | none =>
        rw [hhold] at h
        simp [← Except.ok.inj h, lineageDelta, hentry]
    | some linkedHold =>
        simp only [hhold, bind_eq_ok_iff] at h
        obtain ⟨⟨⟩, -, h⟩ := h
        simp [← Except.ok.inj h, lineageDelta, hkind, hentry, sub_eq_add_neg]
  · rw [if_neg hkind] at h
    simp [← Except.ok.inj h, lineageDelta, hkind, hentry]

/-- The row that the lineage trigger inserts, column by column. -/
theorem move_column (v : CreditGrantCapacityVersion) (amount : Int) (kind : CreditGrantEntryKind)
    (onHold : Bool) {c : Counter} (hversion : c ≠ .version) (hreserved : c ≠ .reserved) :
    c.column (v.move amount kind) = c.column v + lineageDelta kind amount onHold c := by
  cases c <;> cases kind <;>
    simp [Counter.column, CreditGrantCapacityVersion.move, lineageDelta, sub_eq_add_neg] at *

/-- The lineage trigger appends the event of its row. -/
theorem appendCreditGrantCapacityVersion_ok {s s' : Db} {l : CreditGrantEntry}
    (hfind : s.creditGrantEntries.find? (fun l' => l'.tenantId = l.tenantId ∧
      l'.grantId = l.grantId ∧ l'.entryId = l.entryId) = some l)
    (h : appendCreditGrantCapacityVersion s l = .ok s') :
    Appended s l.tenantId l.grantId (lineageEvent s l) s' := by
  obtain ⟨v, hv, hchecked, rfl⟩ := insertCapacityVersion_ok h
  have hrow := rejectBaseline_lineage (l := l) (move_sourceEntryId ..)
    (by rw [move_tenantId, move_grantId]; exact hfind) hv
  refine ⟨v, rfl, ?_, ?_, ?_, hchecked, ?_⟩
  · rw [hrow]
    exact move_tenantId ..
  · rw [hrow]
    exact move_grantId ..
  · rw [hrow]
    exact ⟨move_sourceEntryId .., move_sourceAllocationId .., move_sourceHoldId ..⟩
  · intro c
    rw [hrow]
    by_cases hversion : c = .version
    · subst hversion
      exact move_version ..
    · by_cases hreserved : c = .reserved
      · subst hreserved
        simp [Counter.column, carriedVersion, lineageEvent, CapacityEvent.delta]
      · have hmove := move_column (carriedVersion s l) l.amountMinor l.kind
          (s.lineageHoldId l).isSome hversion hreserved
        cases c <;> first | contradiction | exact hmove

/-- The reservation writer appends an event that moves the reserve only. -/
theorem appendCreditGrantReservationVersion_ok {s s' : Db} {t g : Uuid} {delta : Int}
    {allocationId holdId : Option Uuid} {e : CapacityEvent Uuid}
    (hdelta : ∀ c, e.delta c = reserveDelta delta c)
    (hsource : ∀ v : CreditGrantCapacityVersion, v.sourceEntryId = none →
      v.sourceAllocationId = allocationId → v.sourceHoldId = holdId → HasSource v e)
    (h : appendCreditGrantReservationVersion 1 s t g delta allocationId holdId = .ok s') :
    Appended s t g e s' := by
  simp only [appendCreditGrantReservationVersion, bind_eq_ok_iff] at h
  obtain ⟨⟨⟩, -, h⟩ := h
  cases hlatest : s.latestVersion t g with
  | none =>
      rw [hlatest] at h
      cases h
  | some latest =>
      rw [hlatest] at h
      obtain ⟨v, hv, hchecked, rfl⟩ := insertCapacityVersion_ok h
      simp only [rejectCreditGrantCapacityBaselineInsert, bind_eq_ok_iff,
        Except.ok.injEq] at hv
      obtain ⟨⟨⟩, -, rfl⟩ := hv
      obtain ⟨htenant, hgrant⟩ := latestVersion_mem hlatest
      refine ⟨_, rfl, htenant, hgrant, hsource _ rfl rfl rfl, hchecked, ?_⟩
      intro c
      rw [hdelta, Db.latestMinor, hlatest]
      cases c <;> simp [Counter.column, reserveDelta]

/-- The allocation trigger appends the event of its row. -/
theorem appendGrantAllocationReservation_ok {s s' : Db} {a : CreditGrantHoldAllocation}
    (h : appendGrantAllocationReservation s a = .ok s') :
    Appended s a.tenantId a.grantId (allocationEvent a) s' :=
  appendCreditGrantReservationVersion_ok (fun _ => rfl)
    (fun _ hentry hallocation hhold => ⟨hentry, hallocation, hhold⟩) h

/-- The void trigger appends the release of what a hold had not consumed. -/
theorem releaseGrant_ok {s s' : Db} {old : Hold} {grant : CreditGrant}
    (h : releaseGrant old s grant = .ok s') :
    (¬ s.holdConsumed old.tenantId grant.id old.id <
        s.holdAllocated old.tenantId grant.id old.id ∧ s' = s) ∨
      (s.holdConsumed old.tenantId grant.id old.id <
          s.holdAllocated old.tenantId grant.id old.id ∧
        Appended s old.tenantId grant.id
          (.release old.id (s.holdAllocated old.tenantId grant.id old.id -
            s.holdConsumed old.tenantId grant.id old.id)) s') := by
  simp only [releaseGrant, bind_eq_ok_iff] at h
  obtain ⟨⟨⟩, -, h⟩ := h
  split at h
  · rename_i hlt
    refine Or.inr ⟨hlt, appendCreditGrantReservationVersion_ok ?_ ?_ h⟩
    · intro c
      cases c <;> simp [CapacityEvent.delta, reserveDelta]
    · intro v hentry hallocation hhold
      exact ⟨hentry, hallocation, hhold⟩
  · rename_i hle
    exact Or.inl ⟨hle, (Except.ok.inj h).symm⟩

end LuxLedger.Credit
