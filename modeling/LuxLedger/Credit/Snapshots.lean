/-
  Credit/Snapshots.lean --- what a session sees beside what is committed.

  A session sees an earlier state of the committed tables with its writes placed on
  them.  The rows it sees are rows of the committed tables with the same writes, so a
  lineage row has the same event in both.  Events are counted by their causes: lineage
  rows, allocations and releases of voids.
-/
import LuxLedger.Credit.CommittedVoids

set_option autoImplicit false

namespace LuxLedger.Credit

open LuxLedger.Schema LuxLedger.Relational

/-! ## The tables with the writes of a session -/

/-- The capacity version of a write. -/
def newVersions : Write → List CreditGrantCapacityVersion
  | .capacityVersion version => [version]
  | _ => []

/-- The capacity versions among the writes. -/
def writtenVersions (writes : List Write) : List CreditGrantCapacityVersion :=
  writes.flatMap newVersions

/-- The lineage rows among the writes. -/
def writtenLineage (writes : List Write) : List CreditGrantEntry :=
  writes.flatMap fun w => w.statement.newCreditGrantEntries

/-- The allocations among the writes. -/
def writtenAllocations (writes : List Write) : List CreditGrantHoldAllocation :=
  writes.flatMap fun w => w.statement.newAllocations

section Place

variable {s s' : Db} {writes more : List Write}

theorem place_append : s.place (writes ++ more) = (s.place writes).place more :=
  List.foldl_append

theorem place_concat (w : Write) : s.place (writes ++ [w]) = (s.place writes).put w :=
  place_append

/-- A table that each write only adds rows to. -/
theorem place_table {ρ : Type} {table : Db → List ρ} {new : Write → List ρ}
    (hput : ∀ s w, table (s.put w) = table s ++ new w) :
    table (s.place writes) = table s ++ writes.flatMap new := by
  unfold Db.place
  induction writes generalizing s with
  | nil => simp
  | cons w rest ih => rw [List.foldl_cons, ih, hput, List.flatMap_cons, List.append_assoc]

theorem put_transactions (s : Db) (w : Write) :
    (s.put w).transactions = s.transactions ++ w.statement.newTransactions := by
  cases w with
  | row new => cases new <;> simp [Db.put, Write.statement, NewRow.statement, Statement.store,
      Statement.newTransactions]
  | holdChange old new => exact (List.append_nil _).symm
  | capacityVersion version => exact (List.append_nil _).symm

theorem put_entries (s : Db) (w : Write) :
    (s.put w).entries = s.entries ++ w.statement.newEntries := by
  cases w with
  | row new => cases new <;> simp [Db.put, Write.statement, NewRow.statement, Statement.store,
      Statement.newEntries]
  | holdChange old new => exact (List.append_nil _).symm
  | capacityVersion version => exact (List.append_nil _).symm

theorem put_creditGrantEntries (s : Db) (w : Write) :
    (s.put w).creditGrantEntries = s.creditGrantEntries ++ w.statement.newCreditGrantEntries := by
  cases w with
  | row new => cases new <;> simp [Db.put, Write.statement, NewRow.statement, Statement.store,
      Statement.newCreditGrantEntries]
  | holdChange old new => exact (List.append_nil _).symm
  | capacityVersion version => exact (List.append_nil _).symm

theorem put_allocations (s : Db) (w : Write) :
    (s.put w).creditGrantHoldAllocations =
      s.creditGrantHoldAllocations ++ w.statement.newAllocations := by
  cases w with
  | row new => cases new <;> simp [Db.put, Write.statement, NewRow.statement, Statement.store,
      Statement.newAllocations]
  | holdChange old new => exact (List.append_nil _).symm
  | capacityVersion version => exact (List.append_nil _).symm

theorem place_transactions : (s.place writes).transactions =
    s.transactions ++ writes.flatMap fun w => w.statement.newTransactions :=
  place_table put_transactions

theorem place_entries : (s.place writes).entries =
    s.entries ++ writes.flatMap fun w => w.statement.newEntries :=
  place_table put_entries

theorem place_creditGrantEntries :
    (s.place writes).creditGrantEntries = s.creditGrantEntries ++ writtenLineage writes :=
  place_table put_creditGrantEntries

theorem place_allocations : (s.place writes).creditGrantHoldAllocations =
    s.creditGrantHoldAllocations ++ writtenAllocations writes :=
  place_table put_allocations

theorem place_versions : (s.place writes).creditGrantCapacityVersions =
    s.creditGrantCapacityVersions ++ writtenVersions writes := by
  refine place_table fun s w => ?_
  cases w with
  | row new => cases new <;> exact (List.append_nil _).symm
  | holdChange old new => exact (List.append_nil _).symm
  | capacityVersion version => rfl

/-- The versions of a grant among the writes. -/
def ownVersions (writes : List Write) (tenantId grantId : Uuid) :
    List CreditGrantCapacityVersion :=
  (writtenVersions writes).filter fun v => v.tenantId = tenantId ∧ v.grantId = grantId

theorem versionsOf_place (t g : Uuid) :
    (s.place writes).versionsOf t g = s.versionsOf t g ++ ownVersions writes t g := by
  unfold Db.versionsOf ownVersions
  rw [place_versions, List.filter_append]

end Place

/-! ## Earlier and later committed tables -/

/-- The tables that the version chain is about have only grown. -/
structure Grew (s s' : Db) : Prop where
  transactions : s.transactions <+: s'.transactions
  entries : s.entries <+: s'.entries
  creditGrantEntries : s.creditGrantEntries <+: s'.creditGrantEntries
  versions : s.creditGrantCapacityVersions <+: s'.creditGrantCapacityVersions

/-- All their rows are rows of the other tables. -/
structure Part (s s' : Db) : Prop where
  transactions : s.transactions.Sublist s'.transactions
  entries : s.entries.Sublist s'.entries
  creditGrantEntries : s.creditGrantEntries.Sublist s'.creditGrantEntries
  versions : s.creditGrantCapacityVersions.Sublist s'.creditGrantCapacityVersions

section Grew

variable {s s' s'' : Db} {writes more : List Write}

theorem Grew.refl (s : Db) : Grew s s :=
  ⟨List.prefix_rfl, List.prefix_rfl, List.prefix_rfl, List.prefix_rfl⟩

theorem Grew.trans (h : Grew s s') (h' : Grew s' s'') : Grew s s'' :=
  ⟨h.transactions.trans h'.transactions, h.entries.trans h'.entries,
    h.creditGrantEntries.trans h'.creditGrantEntries, h.versions.trans h'.versions⟩

theorem grew_place (s : Db) (writes : List Write) : Grew s (s.place writes) := by
  refine ⟨?_, ?_, ?_, ?_⟩
  · exact ⟨_, place_transactions.symm⟩
  · exact ⟨_, place_entries.symm⟩
  · exact ⟨_, place_creditGrantEntries.symm⟩
  · exact ⟨_, place_versions.symm⟩

theorem Grew.versionsOf (h : Grew s s') (t g : Uuid) : s.versionsOf t g <+: s'.versionsOf t g :=
  h.versions.filter _

theorem Grew.part (h : Grew s s') : Part s s' :=
  ⟨h.transactions.sublist, h.entries.sublist, h.creditGrantEntries.sublist, h.versions.sublist⟩

/-- The same writes on later tables. -/
theorem Grew.part_place (h : Grew s s') : Part (s.place writes) (s'.place writes) := by
  refine ⟨?_, ?_, ?_, ?_⟩
  · rw [place_transactions, place_transactions]
    exact h.transactions.sublist.append_right _
  · rw [place_entries, place_entries]
    exact h.entries.sublist.append_right _
  · rw [place_creditGrantEntries, place_creditGrantEntries]
    exact h.creditGrantEntries.sublist.append_right _
  · rw [place_versions, place_versions]
    exact h.versions.sublist.append_right _

theorem part_place_concat (s : Db) (writes : List Write) (w : Write) :
    Part (s.place writes) (s.place (writes ++ [w])) := by
  rw [place_append]
  exact (grew_place _ [w]).part

end Grew

/-! ## Keys and postings -/

/-- The unique indexes that the appenders rely on. -/
structure AppendKeys (s : Db) : Prop where
  transactions : UniqueKey Transaction.id s.transactions
  entries : UniqueKey Entry.id s.entries
  creditGrantEntries : UniqueKey (fun l : CreditGrantEntry => (l.grantId, l.entryId))
    s.creditGrantEntries
  versions : UniqueKey (fun v : CreditGrantCapacityVersion => (v.grantId, v.version))
    s.creditGrantCapacityVersions

/-- The entry of a lineage row and the transaction of the entry. -/
structure PostedBy (s : Db) (l : CreditGrantEntry) (e : Entry) (t : Transaction) : Prop where
  entry : e ∈ s.entries
  entryId : e.id = l.entryId
  entryTenant : e.tenantId = l.tenantId
  transaction : t ∈ s.transactions
  transactionId : t.id = e.transactionId
  transactionTenant : t.tenantId = e.tenantId

/-- They are there. -/
def Posted (s : Db) (l : CreditGrantEntry) : Prop := ∃ e t, PostedBy s l e t

section Posted

variable {s s' : Db} {l : CreditGrantEntry}

theorem AppendKeys.of_part (hkeys : AppendKeys s') (h : Part s s') : AppendKeys s :=
  ⟨hkeys.transactions.sublist h.transactions, hkeys.entries.sublist h.entries,
    hkeys.creditGrantEntries.sublist h.creditGrantEntries, hkeys.versions.sublist h.versions⟩

theorem checkUniqueIndexes_ok (h : checkUniqueIndexes s = .ok ()) : AppendKeys s := by
  simp only [checkUniqueIndexes, bind_eq_ok_iff, require_eq_ok_iff, exists_const] at h
  obtain ⟨-, -, -, htransactions, -, hentries, -, -, hlineage, -, -, -, -, -, -, -, hversions, -⟩ :=
    h
  exact ⟨htransactions, hentries, hlineage, hversions⟩

theorem Posted.mono (h : Posted s l) (hpart : Part s s') : Posted s' l := by
  obtain ⟨e, t, hposted⟩ := h
  exact ⟨e, t, { hposted with
    entry := hpart.entries.subset hposted.entry
    transaction := hpart.transactions.subset hposted.transaction }⟩

theorem posted_of_linked {linked : LinkedRows} (h : Linked s l linked) : Posted s l :=
  ⟨linked.entry, linked.transaction,
    { entry := mem_of_lookup h.entry
      entryId := key_of_lookup h.entry
      entryTenant := h.entryTenant
      transaction := mem_of_lookup h.transaction
      transactionId := key_of_lookup h.transaction
      transactionTenant := h.transactionTenant.trans h.entryTenant.symm }⟩

theorem PostedBy.lineageHoldId {e : Entry} {t : Transaction} (h : PostedBy s l e t)
    (hkeys : AppendKeys s) : s.lineageHoldId l = t.holdId := by
  have hentry : s.lineageEntry? l = some e := Option.filter_eq_some_iff.mpr
    ⟨(lookup_eq_some_iff hkeys.entries).mpr ⟨h.entry, h.entryId⟩, decide_eq_true h.entryTenant⟩
  have htransaction : s.entryTransaction? e = some t := Option.filter_eq_some_iff.mpr
    ⟨(lookup_eq_some_iff hkeys.transactions).mpr ⟨h.transaction, h.transactionId⟩,
      decide_eq_true h.transactionTenant⟩
  rw [Db.lineageHoldId, Db.lineageTransaction?, hentry, Option.bind_some, htransaction,
    Option.bind_some]

/-- The event of a posted lineage row is the same in all later tables. -/
theorem Posted.lineageEvent_eq (h : Posted s l) (hpart : Part s s') (hkeys : AppendKeys s') :
    lineageEvent s' l = lineageEvent s l := by
  obtain ⟨e, t, hposted⟩ := h
  have hlater : PostedBy s' l e t := { hposted with
    entry := hpart.entries.subset hposted.entry
    transaction := hpart.transactions.subset hposted.transaction }
  rw [lineageEvent, lineageEvent, hposted.lineageHoldId (hkeys.of_part hpart),
    hlater.lineageHoldId hkeys]

end Posted

/-! ## Version numbers -/

section Numbers

variable {versions after : List CreditGrantCapacityVersion}
  {history : List (CapacityEvent Uuid)} {v : CreditGrantCapacityVersion}

/-- An initial part of a chain is a chain. -/
theorem Chain.of_prefix {longer : List CreditGrantCapacityVersion} (h : Chain longer history)
    (before : List CreditGrantCapacityVersion) (hinitial : before <+: longer) :
    ∃ shorter, Chain before shorter ∧ shorter <+: history := by
  induction h with
  | nil =>
      rw [List.prefix_nil.mp hinitial]
      exact ⟨[], Chain.nil, List.prefix_rfl⟩
  | @snoc versions history v e hchain counters source checked ih =>
      rcases List.prefix_concat_iff.mp hinitial with heq | hshorter
      · exact ⟨history ++ [e], heq ▸ Chain.snoc hchain counters source checked, List.prefix_rfl⟩
      · obtain ⟨shorter, hshort, hhistory⟩ := ih hshorter
        exact ⟨shorter, hshort, hhistory.trans (List.prefix_append _ _)⟩

/-- The last version of a chain was made by the last event of its history. -/
theorem Chain.last (h : Chain (versions ++ [v]) history) :
    ∃ earlier e, history = earlier ++ [e] ∧ Chain versions earlier ∧ HasSource v e ∧
      ∀ k : Counter, k.column v = balance earlier k + e.delta k := by
  generalize hall : versions ++ [v] = all at h
  cases h with
  | nil => simp at hall
  | @snoc versions' earlier v' e hchain counters source checked =>
      obtain ⟨rfl, hlast⟩ := List.append_inj' hall rfl
      obtain rfl := List.singleton_injective hlast
      refine ⟨earlier, e, rfl, hchain, source, fun k => ?_⟩
      rw [counters k, balance_append, balance_singleton]

/-- The first version of a chain carries the counters of its event. -/
theorem Chain.first (h : Chain (v :: after) history) :
    ∃ e ∈ history, HasSource v e ∧ ∀ k : Counter, k.column v = e.delta k := by
  obtain ⟨shorter, hshort, hinitial⟩ := h.of_prefix [v] ⟨after, rfl⟩
  have hone : Chain ([] ++ [v]) shorter := hshort
  obtain ⟨earlier, e, rfl, hnone, hsource, hcounters⟩ := hone.last
  have hearlier : earlier = [] := List.length_eq_zero_iff.mp hnone.length_eq.symm
  refine ⟨e, hinitial.subset (by simp), hsource, fun k => ?_⟩
  rw [hcounters k, hearlier]
  exact Int.zero_add _

/-- Every other version extends the one before it by one event. -/
theorem Chain.extends {before : List CreditGrantCapacityVersion} {u : CreditGrantCapacityVersion}
    (h : Chain (before ++ u :: v :: after) history) :
    ∃ e ∈ history, HasSource v e ∧ ∀ k : Counter, k.column v = k.column u + e.delta k := by
  obtain ⟨shorter, hshort, hinitial⟩ :=
    h.of_prefix (before ++ [u] ++ [v]) ⟨after, by simp⟩
  obtain ⟨earlier, e, rfl, hearlier, hsource, hcounters⟩ := hshort.last
  obtain ⟨earliest, e', rfl, -, -, hcounters'⟩ := hearlier.last
  refine ⟨e, hinitial.subset (by simp), hsource, fun k => ?_⟩
  rw [hcounters k, hcounters' k, balance_append, balance_singleton]

/-- Its version number is the place of a version in the chain. -/
theorem Chain.version_at {before : List CreditGrantCapacityVersion}
    (h : Chain (before ++ v :: after) history) :
    v.version = before.length + 1 := by
  have hnumbered := congrArg (fun xs => xs[before.length]?) h.numbered
  simpa using hnumbered

/-- The latest version number is the length of the chain. -/
theorem Chain.latest_version {s : Db} {t g : Uuid} (h : Chain (s.versionsOf t g) history) :
    s.latestMinor t g (·.version) = (s.versionsOf t g).length := by
  unfold Db.latestMinor Db.latestVersion
  rcases h.latest with ⟨rfl, hnone⟩ | ⟨latest, hlatest, hcounters, -⟩
  · rw [hnone, h.length_eq]
    rfl
  · have hversion : latest.version = balance history .version := hcounters .version
    rw [hlatest, h.length_eq, ← balance_version, Option.map_some, Option.getD_some, hversion]

end Numbers

/-! ## The events that are counted -/

/-- What versions have been appended for. -/
structure Causes where
  lineage : List CreditGrantEntry
  allocations : List CreditGrantHoldAllocation
  released : List Release

/-- The event of a release. -/
def releasedEvent (r : Release) : CapacityEvent Uuid := .release r.holdId r.amountMinor

/-- Their events, grant by grant. -/
def countedEvents (s : Db) (causes : Causes) : Histories := fun tenantId grantId =>
  (causes.lineage.filter fun l => l.tenantId = tenantId ∧ l.grantId = grantId).map
      (lineageEvent s) ++
    (causes.allocations.filter fun a => a.tenantId = tenantId ∧ a.grantId = grantId).map
      allocationEvent ++
    (causes.released.filter fun r => r.tenantId = tenantId ∧ r.grantId = grantId).map releasedEvent

/-- All that is committed. -/
def committedCauses (c : Committed) : Causes :=
  ⟨c.shared.creditGrantEntries, c.shared.creditGrantHoldAllocations, committedReleases c⟩

/-- The events of all that is committed. -/
def committedEvents (c : Committed) : Histories := countedEvents c.shared (committedCauses c)

section Counted

variable {s s' : Db} {causes : Causes}

theorem countedEvents_congr (causes : Causes)
    (hevent : ∀ l ∈ causes.lineage, lineageEvent s' l = lineageEvent s l) (t g : Uuid) :
    countedEvents s' causes t g = countedEvents s causes t g := by
  unfold countedEvents
  rw [List.map_congr_left fun l hl => hevent l (List.mem_filter.mp hl).1]

/-- The events of two lots of causes together. -/
theorem countedEvents_append (s : Db) (causes more : Causes) (t g : Uuid) :
    (countedEvents s ⟨causes.lineage ++ more.lineage, causes.allocations ++ more.allocations,
      causes.released ++ more.released⟩ t g).Perm
        (countedEvents s causes t g ++ countedEvents s more t g) := by
  rw [List.perm_iff_count]
  intro e
  simp only [countedEvents, List.filter_append, List.map_append, List.count_append]
  omega

/-- One more cause is one more event. -/
theorem countedEvents_add {t g : Uuid} {more : Causes} {e : CapacityEvent Uuid}
    (hmore : ∀ t' g', countedEvents s more t' g' = if t' = t ∧ g' = g then [e] else [])
    (t' g' : Uuid) :
    (countedEvents s ⟨causes.lineage ++ more.lineage, causes.allocations ++ more.allocations,
      causes.released ++ more.released⟩ t' g').Perm
        ((countedEvents s causes).add t g e t' g') := by
  refine (countedEvents_append s causes more t' g').trans ?_
  rw [hmore, Histories.add]
  split
  · exact List.Perm.refl _
  · rw [List.append_nil]

theorem countedEvents_lineage (s : Db) (l : CreditGrantEntry) (t g : Uuid) :
    countedEvents s ⟨[l], [], []⟩ t g =
      if t = l.tenantId ∧ g = l.grantId then [lineageEvent s l] else [] := by
  by_cases h : t = l.tenantId ∧ g = l.grantId
  · simp [countedEvents, h]
  · have hno : ¬ (l.tenantId = t ∧ l.grantId = g) := fun hl => h ⟨hl.1.symm, hl.2.symm⟩
    simp [countedEvents, h, hno]

theorem countedEvents_allocation (s : Db) (a : CreditGrantHoldAllocation) (t g : Uuid) :
    countedEvents s ⟨[], [a], []⟩ t g =
      if t = a.tenantId ∧ g = a.grantId then [allocationEvent a] else [] := by
  by_cases h : t = a.tenantId ∧ g = a.grantId
  · simp [countedEvents, h]
  · have hno : ¬ (a.tenantId = t ∧ a.grantId = g) := fun ha => h ⟨ha.1.symm, ha.2.symm⟩
    simp [countedEvents, h, hno]

theorem countedEvents_release (s : Db) (r : Release) (t g : Uuid) :
    countedEvents s ⟨[], [], [r]⟩ t g =
      if t = r.tenantId ∧ g = r.grantId then [releasedEvent r] else [] := by
  by_cases h : t = r.tenantId ∧ g = r.grantId
  · simp [countedEvents, h]
  · have hno : ¬ (r.tenantId = t ∧ r.grantId = g) := fun hr => h ⟨hr.1.symm, hr.2.symm⟩
    simp [countedEvents, h, hno]

end Counted

end LuxLedger.Credit
