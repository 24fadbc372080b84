/-
  Credit/TenantRows.lean --- the rows of a tenant, and the transactions that write
  no others.

  A database transaction of a tenant leaves what every other tenant sees as it was.
  A session that is confined to a tenant sees the rows of the tenant, and what it
  commits is a transaction of the tenant.
-/
import LuxLedger.Credit.TenantReads
import LuxLedger.Schema.RowSecurity

set_option autoImplicit false

namespace LuxLedger.Credit

open LuxLedger.Schema LuxLedger.Relational

/-! ## The rows of a tenant -/

/-- What the database holds of a tenant. -/
def ofTenant (t : Uuid) (s : Db) : Db where
  assets := s.assets.filter fun a => a.tenantId = t
  accounts := s.accounts.filter fun a => a.tenantId = t
  transactions := s.transactions.filter fun x => x.tenantId = t
  entries := s.entries.filter fun e => e.tenantId = t
  creditGrants := s.creditGrants.filter fun g => g.tenantId = t
  creditGrantEntries := s.creditGrantEntries.filter fun l => l.tenantId = t
  holds := s.holds.filter fun h => h.tenantId = t
  holdEntries := s.holdEntries.filter fun he => he.tenantId = t
  creditGrantHoldAllocations := s.creditGrantHoldAllocations.filter fun a => a.tenantId = t
  creditGrantCapacityVersions := s.creditGrantCapacityVersions.filter fun u => u.tenantId = t

theorem RowSteps.keys {now : Timestamp} {s s' : Db} (h : RowSteps now s s') (hs : Keys s) :
    Keys s' :=
  h.preserves (fun _ _ => RowStep.keys) hs

theorem Keys.ofTenant {s : Db} (hs : Keys s) (t : Uuid) : Keys (ofTenant t s) where
  accounts := hs.accounts.sublist List.filter_sublist
  transactions := hs.transactions.sublist List.filter_sublist
  relations := hs.relations.sublist (List.filter_sublist.filter _)
  entries := hs.entries.sublist List.filter_sublist
  creditGrants := hs.creditGrants.sublist List.filter_sublist
  grantTransactions := hs.grantTransactions.sublist List.filter_sublist
  creditGrantEntries := hs.creditGrantEntries.sublist List.filter_sublist
  holds := hs.holds.sublist List.filter_sublist
  holdEntries := hs.holdEntries.sublist List.filter_sublist
  allocations := hs.allocations.sublist List.filter_sublist

/-! ## The tenants of a transaction -/

/-- Whose rows a statement writes. -/
def tenantIds : Statement → List Uuid
  | .insertAssets rows => rows.map Asset.tenantId
  | .insertAccounts rows => rows.map Account.tenantId
  | .insertTransactions rows => rows.map Transaction.tenantId
  | .insertEntries rows => rows.map Entry.tenantId
  | .insertCreditGrants rows => rows.map CreditGrant.tenantId
  | .insertCreditGrantEntries rows => rows.map CreditGrantEntry.tenantId
  | .insertHolds rows => rows.map Hold.tenantId
  | .insertHoldEntries rows => rows.map HoldEntry.tenantId
  | .insertCreditGrantHoldAllocations rows => rows.map CreditGrantHoldAllocation.tenantId
  | .updateHolds changes => changes.map fun change => change.2.tenantId
  | .insertCapacityVersions rows => rows.map CreditGrantCapacityVersion.tenantId
  | .updateCapacityVersions _ | .deleteCapacityVersions _ => []

/-- Every row that the statement writes is the tenant's. -/
def OfTenant (t : Uuid) (stmt : Statement) : Prop := ∀ id ∈ tenantIds stmt, id = t

instance (t : Uuid) (stmt : Statement) : Decidable (OfTenant t stmt) :=
  inferInstanceAs (Decidable (∀ id ∈ tenantIds stmt, id = t))

/-- The rows that an INSERT of a transaction writes are the tenant's. -/
theorem OfTenant.row {ρ : Type} {t : Uuid} {tenantOf : ρ → Uuid} {rows : List ρ}
    (h : ∀ id ∈ rows.map tenantOf, id = t) {r : ρ} (hr : r ∈ rows) : tenantOf r = t :=
  h _ (List.mem_map_of_mem hr)

/-- Every row that the transaction writes is the tenant's. -/
def TxOfTenant (t : Uuid) (tx : DbTransaction) : Prop := ∀ stmt ∈ tx.statements, OfTenant t stmt

instance (t : Uuid) (tx : DbTransaction) : Decidable (TxOfTenant t tx) :=
  inferInstanceAs (Decidable (∀ stmt ∈ tx.statements, OfTenant t stmt))

/-! ## Other tenants -/

/-- What every other tenant sees is the same. -/
def OthersUnchanged (t : Uuid) (s s' : Db) : Prop :=
  ∀ other, other ≠ t → ofTenant other s' = ofTenant other s

namespace OthersUnchanged

variable {t : Uuid} {s s' s'' : Db}

theorem refl (t : Uuid) (s : Db) : OthersUnchanged t s s := fun _ _ => rfl

theorem trans (h : OthersUnchanged t s s') (h' : OthersUnchanged t s' s'') :
    OthersUnchanged t s s'' := fun other hother => (h' other hother).trans (h other hother)

/-- Steps that leave other tenants alone, one after the other. -/
theorem of_steps (h : Relation.ReflTransGen (OthersUnchanged t) s s') : OthersUnchanged t s s' := by
  induction h with
  | refl => exact refl t s
  | tail _ hstep ih => exact ih.trans hstep

end OthersUnchanged

/-! ## Storing a row, as a tenant sees it -/

section Storing

variable {t : Uuid} {s : Db}

theorem ofTenant_addAsset (new : Asset) : ofTenant t (s.addAsset new) =
    if new.tenantId = t then (ofTenant t s).addAsset new else ofTenant t s := by
  by_cases hnew : new.tenantId = t <;> simp [ofTenant, Db.addAsset, hnew]

theorem ofTenant_addAccount (new : Account) : ofTenant t (s.addAccount new) =
    if new.tenantId = t then (ofTenant t s).addAccount new else ofTenant t s := by
  by_cases hnew : new.tenantId = t <;> simp [ofTenant, Db.addAccount, hnew]

theorem ofTenant_addTransaction (new : Transaction) : ofTenant t (s.addTransaction new) =
    if new.tenantId = t then (ofTenant t s).addTransaction new else ofTenant t s := by
  by_cases hnew : new.tenantId = t <;> simp [ofTenant, Db.addTransaction, hnew]

theorem ofTenant_addEntry (new : Entry) : ofTenant t (s.addEntry new) =
    if new.tenantId = t then (ofTenant t s).addEntry new else ofTenant t s := by
  by_cases hnew : new.tenantId = t <;> simp [ofTenant, Db.addEntry, hnew]

theorem ofTenant_addCreditGrant (new : CreditGrant) : ofTenant t (s.addCreditGrant new) =
    if new.tenantId = t then (ofTenant t s).addCreditGrant new else ofTenant t s := by
  by_cases hnew : new.tenantId = t <;> simp [ofTenant, Db.addCreditGrant, hnew]

theorem ofTenant_addCreditGrantEntry (new : CreditGrantEntry) :
    ofTenant t (s.addCreditGrantEntry new) =
      if new.tenantId = t then (ofTenant t s).addCreditGrantEntry new else ofTenant t s := by
  by_cases hnew : new.tenantId = t <;> simp [ofTenant, Db.addCreditGrantEntry, hnew]

theorem ofTenant_addHold (new : Hold) : ofTenant t (s.addHold new) =
    if new.tenantId = t then (ofTenant t s).addHold new else ofTenant t s := by
  by_cases hnew : new.tenantId = t <;> simp [ofTenant, Db.addHold, hnew]

theorem ofTenant_addHoldEntry (new : HoldEntry) : ofTenant t (s.addHoldEntry new) =
    if new.tenantId = t then (ofTenant t s).addHoldEntry new else ofTenant t s := by
  by_cases hnew : new.tenantId = t <;> simp [ofTenant, Db.addHoldEntry, hnew]

theorem ofTenant_addAllocation (new : CreditGrantHoldAllocation) :
    ofTenant t (s.addCreditGrantHoldAllocation new) =
      if new.tenantId = t then (ofTenant t s).addCreditGrantHoldAllocation new
      else ofTenant t s := by
  by_cases hnew : new.tenantId = t <;> simp [ofTenant, Db.addCreditGrantHoldAllocation, hnew]

theorem ofTenant_addCapacityVersion (new : CreditGrantCapacityVersion) :
    ofTenant t (s.addCapacityVersion new) =
      if new.tenantId = t then (ofTenant t s).addCapacityVersion new else ofTenant t s := by
  by_cases hnew : new.tenantId = t <;> simp [ofTenant, Db.addCapacityVersion, hnew]

/-- A hold is replaced by one of the same tenant. -/
theorem ofTenant_replaceHold {new old : Hold} (hs : Keys s) (hfound : s.hold? new.id = some old)
    (hold : old.tenantId = new.tenantId) : ofTenant t (s.replaceHold new) =
      if new.tenantId = t then (ofTenant t s).replaceHold new else ofTenant t s := by
  have hsame : ∀ h ∈ s.holds, h.id = new.id → h.tenantId = new.tenantId := fun h hh hid => by
    have hfound' := (lookup_eq_some_iff hs.holds).mpr ⟨hh, hid⟩
    rw [← hold, Option.some.inj (hfound.symm.trans hfound')]
  have htenant : ∀ h ∈ s.holds, (if h.id = new.id then new else h).tenantId = h.tenantId :=
    fun h hh => by
      by_cases hid : h.id = new.id
      · rw [if_pos hid, hsame h hh hid]
      · rw [if_neg hid]
  have hholds : (s.holds.map fun h => if h.id = new.id then new else h).filter
        (fun h => decide (h.tenantId = t)) =
      (s.holds.filter fun h => decide (h.tenantId = t)).map
        fun h => if h.id = new.id then new else h := by
    rw [List.filter_map]
    refine congrArg _ (List.filter_congr fun h hh => ?_)
    rw [Function.comp_apply, htenant h hh]
  have hview : ofTenant t (s.replaceHold new) = (ofTenant t s).replaceHold new := by
    simp only [ofTenant, Db.replaceHold, hholds]
  by_cases hnew : new.tenantId = t
  · rw [if_pos hnew, hview]
  · rw [if_neg hnew, hview]
    have hnone : ((ofTenant t s).holds.map fun h => if h.id = new.id then new else h) =
        (ofTenant t s).holds := by
      refine (List.map_congr_left fun h hh => if_neg fun hid => ?_).trans (List.map_id _)
      obtain ⟨hmem, htenant'⟩ := List.mem_filter.mp hh
      exact hnew ((hsame h hmem hid).symm.trans (of_decide_eq_true htenant'))
    rw [Db.replaceHold, hnone]

end Storing

/-! ## Capacity versions -/

/-- What the BEFORE trigger of the capacity versions returns: the row with a reserve of its
own, in the scope of a lineage row of the same tenant where there is a source entry. -/
theorem rejectBaseline_ok {s : Db} {depth : Nat} {new row : CreditGrantCapacityVersion}
    (h : rejectCreditGrantCapacityBaselineInsert s depth new = .ok row) :
    2 ≤ depth ∧ (∃ reserved, row = { new with reservedMinor := reserved }) ∧
      ∀ id ∈ new.sourceEntryId, ∃ l ∈ s.creditGrantEntries,
        l.tenantId = new.tenantId ∧ l.grantId = new.grantId ∧ l.entryId = id := by
  simp only [rejectCreditGrantCapacityBaselineInsert, bind_eq_ok_iff, raiseIf_eq_ok_iff] at h
  obtain ⟨⟨⟩, hguard, h⟩ := h
  have hdepth : 2 ≤ depth := by
    by_contra hlow
    exact hguard (congrArg some (decide_eq_true (Or.inl (Nat.lt_of_not_le hlow))))
  refine ⟨hdepth, ?_⟩
  rcases Option.eq_none_or_eq_some new.sourceEntryId with hsource | ⟨sourceEntryId, hsource⟩
  · rw [hsource] at h
    obtain rfl := Except.ok.inj h
    refine ⟨⟨new.reservedMinor, rfl⟩, fun id hid => ?_⟩
    rw [hsource] at hid
    cases hid
  · rw [hsource]
    simp only [hsource] at h
    cases hfind : s.creditGrantEntries.find? fun l => l.tenantId = new.tenantId ∧
        l.grantId = new.grantId ∧ l.entryId = sourceEntryId with
    | none =>
        rw [hfind] at h
        cases h
    | some lineage =>
        have hlineage := List.find?_some hfind
        rw [decide_eq_true_eq] at hlineage
        simp only [hfind] at h
        refine ⟨?_, fun id hid => ?_⟩
        · split at h
          · split at h
            · exact ⟨_, (Except.ok.inj h).symm⟩
            · simp only [bind_eq_ok_iff] at h
              obtain ⟨⟨⟩, -, h⟩ := h
              exact ⟨_, (Except.ok.inj h).symm⟩
          · exact ⟨_, (Except.ok.inj h).symm⟩
        · obtain rfl := Option.mem_some_iff.mp hid
          exact ⟨lineage, List.mem_of_find?_eq_some hfind, hlineage⟩

section Others

variable {now : Timestamp} {t : Uuid} {s s' : Db}

theorem insertCapacityVersion_others {depth : Nat} {new : CreditGrantCapacityVersion}
    (hnew : new.tenantId = t) (h : insertCapacityVersion depth s new = .ok s') :
    OthersUnchanged t s s' := by
  obtain ⟨row, hrow, -, rfl⟩ := insertCapacityVersion_ok h
  obtain ⟨-, ⟨reserved, rfl⟩, -⟩ := rejectBaseline_ok hrow
  intro other hother
  rw [ofTenant_addCapacityVersion, if_neg]
  exact fun h => hother (h.symm.trans hnew)

theorem appendReservation_others {depth : Nat} {g : Uuid} {delta : Int}
    {allocationId holdId : Option Uuid}
    (h : appendCreditGrantReservationVersion depth s t g delta allocationId holdId = .ok s') :
    OthersUnchanged t s s' := by
  simp only [appendCreditGrantReservationVersion, bind_eq_ok_iff] at h
  obtain ⟨⟨⟩, -, h⟩ := h
  cases hlatest : s.latestVersion t g with
  | none =>
      rw [hlatest] at h
      cases h
  | some latest =>
      rw [hlatest] at h
      have hmem := (List.mem_filter.mp (latestBy_mem hlatest)).2
      rw [decide_eq_true_eq] at hmem
      refine insertCapacityVersion_others (t := t) ?_ h
      exact hmem.1

theorem releaseGrantHoldReservations_others {old new : Hold} (hold : old.tenantId = t)
    (h : releaseGrantHoldReservations s old new = .ok s') : OthersUnchanged t s s' := by
  subst hold
  unfold releaseGrantHoldReservations at h
  split at h
  · exact Except.ok.inj h ▸ OthersUnchanged.refl _ s
  · split at h
    · exact Except.ok.inj h ▸ OthersUnchanged.refl _ s
    · refine foldlM_preserves (P := OthersUnchanged old.tenantId s)
        (fun grant _ s₁ s₂ hgrant hs => hs.trans ?_) h (OthersUnchanged.refl _ s)
      simp only [releaseGrant, bind_eq_ok_iff] at hgrant
      obtain ⟨⟨⟩, -, hgrant⟩ := hgrant
      split at hgrant
      · exact appendReservation_others hgrant
      · exact Except.ok.inj hgrant ▸ OthersUnchanged.refl _ s₁

theorem updateHold_others {change : Uuid × Hold} (hs : Keys s) (hnew : change.2.tenantId = t)
    (h : updateHold s change = .ok s') : OthersUnchanged t s s' := by
  obtain ⟨id, new⟩ := change
  obtain ⟨old, released, hfound, -, rfl, htransition, hreleased, -, rfl⟩ := updateHold_ok h
  have hold : old.tenantId = new.tenantId :=
    (congrArg HoldIdentity.tenantId htransition.identity).symm
  refine (releaseGrantHoldReservations_others (hold.trans hnew) hreleased).trans
    fun other hother => ?_
  obtain ⟨versions, rfl⟩ := (releaseGrantHoldReservations_step hreleased).2
  have hview := ofTenant_replaceHold (t := other)
    (s := { s with creditGrantCapacityVersions := versions }) { hs with } hfound hold
  rw [hview, if_neg]
  exact fun h => hother (h.symm.trans hnew)

/-- Stored rows of the tenant. -/
theorem insertEach_others {ρ : Type} {check : Db → ρ → Except SqlError Unit}
    {put : Db → ρ → Db} {tenantOf : ρ → Uuid} {rows : List ρ}
    (hput : ∀ s r, tenantOf r = t → OthersUnchanged t s (put s r))
    (hrows : ∀ id ∈ rows.map tenantOf, id = t) (h : insertEach check put rows s = .ok s') :
    OthersUnchanged t s s' :=
  OthersUnchanged.of_steps (insertEach_steps
    (fun s r hr _ => hput s r (OfTenant.row hrows hr)) h)

/-- A statement of the tenant leaves the rows of all others as they were. -/
theorem exec_others {stmt : Statement} (hs : Keys s) (hstmt : OfTenant t stmt)
    (h : stmt.exec now s = .ok s') : OthersUnchanged t s s' := by
  have hne : ∀ {id other : Uuid}, id = t → other ≠ t → ¬ id = other :=
    fun hid hother h => hother (h.symm.trans hid)
  cases stmt with
  | insertAssets rows =>
      refine insertEach_others (fun s r hr other hother => ?_) hstmt h
      rw [ofTenant_addAsset, if_neg (hne hr hother)]
  | insertAccounts rows =>
      refine insertEach_others (fun s r hr other hother => ?_) hstmt h
      rw [ofTenant_addAccount, if_neg (hne hr hother)]
  | insertTransactions rows =>
      refine insertEach_others (fun s r hr other hother => ?_) hstmt (insertTransactions_ok h).1
      rw [ofTenant_addTransaction, if_neg (hne hr hother)]
  | insertEntries rows =>
      refine insertEach_others (fun s r hr other hother => ?_) hstmt h
      rw [ofTenant_addEntry, if_neg (hne hr hother)]
  | insertCreditGrants rows =>
      refine insertEach_others (fun s r hr other hother => ?_) hstmt h
      rw [ofTenant_addCreditGrant, if_neg (hne hr hother)]
  | insertCreditGrantEntries rows =>
      obtain ⟨stored, hstored, hafter⟩ := insertRows_eq_ok_iff.mp h
      refine (insertEach_others (fun s r hr other hother => ?_) hstmt hstored).trans ?_
      · rw [ofTenant_addCreditGrantEntry, if_neg (hne hr hother)]
      · refine OthersUnchanged.of_steps (foldlM_steps (fun s r hr s' hrow => .single ?_) hafter)
        exact insertCapacityVersion_others ((move_tenantId ..).trans (OfTenant.row hstmt hr)) hrow
  | insertHolds rows =>
      refine insertEach_others (fun s r hr other hother => ?_) hstmt h
      rw [ofTenant_addHold, if_neg (hne hr hother)]
  | insertHoldEntries rows =>
      refine insertEach_others (fun s r hr other hother => ?_) hstmt h
      rw [ofTenant_addHoldEntry, if_neg (hne hr hother)]
  | insertCreditGrantHoldAllocations rows =>
      obtain ⟨stored, hstored, hafter⟩ := insertRows_eq_ok_iff.mp h
      refine (insertEach_others (fun s r hr other hother => ?_) hstmt hstored).trans ?_
      · rw [ofTenant_addAllocation, if_neg (hne hr hother)]
      · refine OthersUnchanged.of_steps (foldlM_steps (fun s r hr s' hrow => .single ?_) hafter)
        have hr' : r.tenantId = t := OfTenant.row hstmt hr
        subst hr'
        exact appendReservation_others hrow
  | updateHolds changes =>
      refine (foldlM_preserves (P := fun mid => Keys mid ∧ OthersUnchanged t s mid)
        (fun change hchange s₁ s₂ hupdate hP => ?_) h ⟨hs, .refl t s⟩).2
      have hnew : change.2.tenantId = t := hstmt _ (List.mem_map_of_mem hchange)
      have hsteps : RowSteps now s₁ s₂ := updateHold_steps hupdate
      exact ⟨hsteps.keys hP.1, hP.2.trans (updateHold_others hP.1 hnew hupdate)⟩
  | insertCapacityVersions rows =>
      refine OthersUnchanged.of_steps (foldlM_steps (fun s r hr s' hrow => .single ?_) h)
      exact insertCapacityVersion_others (OfTenant.row hstmt hr) hrow
  | updateCapacityVersions targets => exact rejectCreditGrantMutation_ok h ▸ .refl t s
  | deleteCapacityVersions targets => exact rejectCreditGrantMutation_ok h ▸ .refl t s

/-- A transaction of the tenant leaves the rows of all others as they were. -/
theorem commit_others {tx : DbTransaction} (hs : Keys s) (htx : TxOfTenant t tx)
    (h : commit s tx = .ok s') : OthersUnchanged t s s' :=
  (foldlM_preserves (P := fun mid => Keys mid ∧ OthersUnchanged t s mid)
    (fun stmt hstmt _ _ hexec hP => ⟨(exec_steps hexec).keys hP.1,
      hP.2.trans (exec_others hP.1 (htx stmt hstmt) hexec)⟩)
    (commit_eq_ok_iff.mp h).1 ⟨hs, .refl t s⟩).2

end Others

end LuxLedger.Credit
