/-
  Credit/Backing.lean --- every reservation on a grant-enabled account is backed.

  A hold entry is checked at the commit that inserts or updates it, with the row as it
  was left by that statement, and again whenever an allocation is added to it; once it has
  an allocation it is protected.  So between commits a hold entry may be rewritten at will,
  but the last row written is the one that is checked, and from then on it stays.
  It is checked as of an account of its own tenant: a hold entry of another tenant is not
  checked, and never has an allocation.
-/
import LuxLedger.Credit.EditSteps
import LuxLedger.Credit.LiveReserve

set_option autoImplicit false

namespace LuxLedger.Credit

open LuxLedger.Schema LuxLedger.Relational

/-- The allocations to a hold entry. -/
def allocationsTo (s : Db) (he : HoldEntry) : List CreditGrantHoldAllocation :=
  s.creditGrantHoldAllocations.filter fun a => a.holdEntryId = he.id

/-- The reservation is a debit, its allocations add up to it, and each is to a grant of its
account. -/
structure Backed (s : Db) (he : HoldEntry) : Prop where
  debit : 0 < he.signedAmountMinor
  total : ((allocationsTo s he).map (·.amountMinor)).sum = he.signedAmountMinor
  grants : ∀ a ∈ allocationsTo s he, ∃ g, s.creditGrant? a.grantId = some g ∧
    g.accountId = he.accountId

/-- Every reservation on a grant-enabled account is backed. -/
def FullyBacked (s : Db) : Prop :=
  ∀ he ∈ s.holdEntries, isGrantAccount s he.accountId = true → Backed s he

/-- Every reservation on a grant-enabled account of its own tenant is. -/
def TenantBacked (s : Db) : Prop :=
  ∀ he ∈ s.holdEntries, s.grantEnabled he.tenantId he.accountId = true → Backed s he

/-- No hold entry is on a grant-enabled account of another tenant. -/
def HoldEntriesOnOwnAccounts (s : Db) : Prop :=
  ∀ he ∈ s.holdEntries, OwnAccount s he.tenantId he.accountId

/-- The statement is no UPDATE or DELETE of accounts. -/
def keepsAccounts : Change → Bool
  | .edit (.accounts _) => false
  | _ => true

section Grants

variable {s : Db} {he : HoldEntry}

theorem mem_allocationsTo {a : CreditGrantHoldAllocation} :
    a ∈ allocationsTo s he ↔ a ∈ s.creditGrantHoldAllocations ∧ a.holdEntryId = he.id := by
  rw [allocationsTo, List.mem_filter, decide_eq_true_eq]

/-- The hold entry of an allocation is the one row with that id. -/
theorem allocationLink_of_mem (hs : Intact s) (hhe : he ∈ s.holdEntries)
    {a : CreditGrantHoldAllocation} (ha : a ∈ allocationsTo s he) :
    ∃ g, AllocationLink s a g he := by
  obtain ⟨hmem, hid⟩ := mem_allocationsTo.mp ha
  obtain ⟨g, he', hlink⟩ := hs.history.allocations a hmem
  obtain rfl := hlink.unique hs.keys.holdEntries hhe hid
  exact ⟨g, hlink⟩

/-- An allocation is of the tenant of its hold entry. -/
theorem allocationsTo_eq (hs : Intact s) (hhe : he ∈ s.holdEntries) :
    allocationsTo s he = s.creditGrantHoldAllocations.filter fun a =>
      a.tenantId = he.tenantId ∧ a.holdEntryId = he.id := by
  refine List.filter_congr fun a ha => decide_eq_decide.mpr ⟨fun hid => ⟨?_, hid⟩, fun h => h.2⟩
  obtain ⟨g, hlink⟩ := allocationLink_of_mem hs hhe (mem_allocationsTo.mpr ⟨ha, hid⟩)
  exact hlink.stored.2.2.symm

/-- Where the amounts agree, the validator has seen to the rest. -/
theorem tenantBacked_of_exact (hs : Intact s) (hexact : AllocatedExactly s) : TenantBacked s := by
  intro he hhe henabled
  obtain ⟨hdebit, htotal⟩ := hexact he hhe henabled
  refine ⟨hdebit, ?_, fun a ha => ?_⟩
  · rw [allocationsTo_eq hs hhe]
    exact htotal
  · obtain ⟨g, hlink⟩ := allocationLink_of_mem hs hhe ha
    exact ⟨g, hlink.grant, hlink.grantAccount.trans hlink.holdEntryAccount.symm⟩

theorem TenantBacked.exact (hs : Intact s) (h : TenantBacked s) : AllocatedExactly s := by
  intro he hhe henabled
  have hbacked := h he hhe henabled
  have htotal := hbacked.total
  rw [allocationsTo_eq hs hhe] at htotal
  exact ⟨hbacked.debit, htotal⟩

/-- A backed reservation has an allocation. -/
theorem Backed.exists_allocation (h : Backed s he) : ∃ a, a ∈ allocationsTo s he := by
  cases hrows : allocationsTo s he with
  | nil =>
      have htotal := h.total
      rw [hrows, List.map_nil, List.sum_nil] at htotal
      have := h.debit
      omega
  | cons a rest => exact ⟨a, List.mem_cons_self⟩

theorem Backed.hasAllocation (h : Backed s he) (hs : Intact s) (hhe : he ∈ s.holdEntries) :
    s.hasAllocation he = true := by
  obtain ⟨a, ha⟩ := h.exists_allocation
  rw [allocationsTo_eq hs hhe] at ha
  obtain ⟨hmem, hscope⟩ := List.mem_filter.mp ha
  exact List.any_eq_true.mpr ⟨a, hmem, hscope⟩

/-- Only a hold entry on an account of its own tenant can be backed. -/
theorem Backed.own (h : Backed s he) (hs : Intact s) (hhe : he ∈ s.holdEntries) :
    OwnAccount s he.tenantId he.accountId := by
  obtain ⟨a, ha⟩ := h.exists_allocation
  obtain ⟨g, hlink⟩ := allocationLink_of_mem hs hhe ha
  have htenant : g.tenantId = he.tenantId := hlink.grantTenant.trans hlink.stored.2.2.symm
  have haccount : g.accountId = he.accountId :=
    hlink.grantAccount.trans hlink.holdEntryAccount.symm
  have hscope := hs.history.grants g (mem_of_lookup hlink.grant)
  rw [htenant, haccount] at hscope
  intro a' ha' _
  rw [Db.hasAccount, ha', Option.any_some, decide_eq_true_eq] at hscope
  exact hscope.1

/-- Where those on accounts of their own tenant are backed, all are, exactly when there are no
others. -/
theorem fullyBacked_iff_own (hs : Intact s) (hbacked : TenantBacked s) :
    FullyBacked s ↔ HoldEntriesOnOwnAccounts s := by
  constructor
  · intro hfull he hhe a ha henabled
    have hgrant : isGrantAccount s he.accountId = true :=
      isGrantAccount_eq_true_iff.mpr ⟨a, ha, henabled⟩
    exact (hfull he hhe hgrant).own hs hhe a ha henabled
  · intro hown he hhe hgrant
    exact hbacked he hhe ((hown he hhe).enabled hgrant)

end Grants

/-! ## Inside a database transaction -/

section OpenTransaction

variable {s s' : Db} {now : Timestamp}

/-- The hold entries that a statement inserts. -/
def insertedHoldEntries : Change → List HoldEntry
  | .statement stmt => stmt.newHoldEntries
  | .edit _ => []

/-- The allocations that a statement inserts. -/
def insertedAllocations : Change → List CreditGrantHoldAllocation
  | .statement stmt => stmt.newAllocations
  | .edit _ => []

/-- A hold entry after a statement was there before, or is inserted or updated by it. -/
theorem change_holdEntries {c : Change} (h : c.exec now s = .ok s') {he : HoldEntry}
    (hhe : he ∈ s'.holdEntries) :
    he ∈ s.holdEntries ∨ he ∈ insertedHoldEntries c ∨ he ∈ c.updatedHoldEntries s := by
  cases c with
  | statement stmt =>
      rw [(exec_inserted h).holdEntries, List.mem_append] at hhe
      rcases hhe with hold | hnew
      · exact Or.inl hold
      · exact Or.inr (Or.inl hnew)
  | edit e =>
      obtain rfl := exec_eq_store h
      cases e with
      | accounts e =>
          obtain ⟨he₀, hhe₀, rfl⟩ := List.mem_map.mp hhe
          by_cases hsame : he₀.followAccount (e.newKey Account.id s.accounts) = he₀
          · exact Or.inl (hsame.symm ▸ hhe₀)
          · refine Or.inr (Or.inr (List.mem_map_of_mem ?_))
            exact List.mem_filter.mpr ⟨hhe₀, decide_eq_true hsame⟩
      | holdEntries e =>
          rcases TableEdit.mem_apply_iff.mp hhe with ⟨hold, -⟩ | hnew
          · exact Or.inl hold
          · exact Or.inr (Or.inr hnew)
      | _ => exact Or.inl hhe

theorem change_allocations (hs : Intact s) {c : Change} (h : c.exec now s = .ok s') :
    s'.creditGrantHoldAllocations = s.creditGrantHoldAllocations ++ insertedAllocations c := by
  cases c with
  | statement stmt => exact (exec_inserted h).allocations
  | edit e =>
      rw [insertedAllocations, List.append_nil]
      exact (exec_edited hs.keys.toKeys h).allocations

/-- Accounts are only added, unless the statement edits them. -/
theorem change_accounts {c : Change} (hkeeps : keepsAccounts c = true)
    (h : c.exec now s = .ok s') : s.accounts <+: s'.accounts := by
  cases c with
  | statement stmt => exact (RowSteps.extends (exec_steps h)).accounts
  | edit e =>
      obtain rfl := exec_eq_store h
      cases e with
      | accounts e => cases hkeeps
      | _ => exact List.prefix_rfl

/-- What is known of an open transaction that began on `s` and has run `done`. -/
structure Pending (s : Db) (done : List Change) (tx : OpenTransaction) : Prop where
  intact : Intact tx.db
  holdEntries : ∀ he ∈ tx.db.holdEntries, he ∈ s.holdEntries ∨
    he ∈ done.flatMap insertedHoldEntries ∨ he ∈ tx.updatedHoldEntries
  allocations : tx.db.creditGrantHoldAllocations =
    s.creditGrantHoldAllocations ++ done.flatMap insertedAllocations
  accounts : s.accounts <+: tx.db.accounts

theorem Pending.begin (hs : Intact s) : Pending s [] ⟨s, []⟩ :=
  ⟨hs, fun _ hhe => Or.inl hhe, (List.append_nil _).symm, List.prefix_rfl⟩

theorem Pending.exec {done : List Change} {tx tx' : OpenTransaction} {c : Change}
    (hp : Pending s done tx) (hkeeps : keepsAccounts c = true) (h : tx.exec now c = .ok tx') :
    Pending s (done ++ [c]) tx' := by
  obtain ⟨hexec, hupdated⟩ := openTransaction_exec_eq_ok_iff.mp h
  refine ⟨change_intact hp.intact hexec, ?_, ?_, hp.accounts.trans (change_accounts hkeeps hexec)⟩
  · intro he hhe
    rw [hupdated, List.flatMap_append, List.flatMap_singleton, List.mem_append, List.mem_append]
    rcases change_holdEntries hexec hhe with hold | hnew | hnew
    · rcases hp.holdEntries he hold with h | h | h
      · exact Or.inl h
      · exact Or.inr (Or.inl (Or.inl h))
      · exact Or.inr (Or.inr (Or.inl h))
    · exact Or.inr (Or.inl (Or.inr hnew))
    · exact Or.inr (Or.inr (Or.inr hnew))
  · rw [change_allocations hp.intact hexec, hp.allocations, List.flatMap_append,
      List.flatMap_singleton, List.append_assoc]

theorem Pending.run {changes : List Change} {tx : OpenTransaction} (hs : Intact s)
    (hkeeps : ∀ c ∈ changes, keepsAccounts c = true)
    (h : changes.foldlM (OpenTransaction.exec now) ⟨s, []⟩ = .ok tx) : Pending s changes tx := by
  have hrun := run_induction (P := fun done tx =>
    (∀ c ∈ done, keepsAccounts c = true) → Pending s done tx) (fun _ => Pending.begin hs) ?_ h
  · exact hrun hkeeps
  · intro done mid c tx' _ hmid hc hall
    refine (hmid fun c' hc' => hall c' (List.mem_append_left _ hc')).exec (hall c (by simp)) hc

end OpenTransaction

/-! ## Commits -/

section Commit

variable {s s' : Db} {tx : ChangeTransaction}

/-- An inserted hold entry is checked at commit. -/
theorem deferred_insertedHoldEntry {now : Timestamp} {c : Change}
    (h : c.deferred now s = .ok ()) {he : HoldEntry} (hhe : he ∈ insertedHoldEntries c) :
    assertGrantHoldAllocated s he = .ok () := by
  cases c with
  | edit e => cases hhe
  | statement stmt =>
      cases stmt with
      | insertHoldEntries rows =>
          have hrow := checkEach_eq_ok_iff.mp h he hhe
          obtain ⟨⟨⟩, hallocated, -⟩ := bind_eq_ok_iff.mp hrow
          exact hallocated
      | _ => cases hhe

/-- An inserted allocation is checked at commit. -/
theorem deferred_insertedAllocation {now : Timestamp} {c : Change}
    (h : c.deferred now s = .ok ()) {a : CreditGrantHoldAllocation}
    (ha : a ∈ insertedAllocations c) : assertGrantAllocationTotal s a = .ok () := by
  cases c with
  | edit e => cases ha
  | statement stmt =>
      cases stmt with
      | insertCreditGrantHoldAllocations rows => exact checkEach_eq_ok_iff.mp h a ha
      | _ => cases ha

/-- An account that is there keeps its capability while accounts are only added. -/
theorem grantEnabled_of_grown (h : s.accounts <+: s'.accounts) {tenantId accountId : Uuid}
    (ha : (s.account? accountId).isSome) :
    s'.grantEnabled tenantId accountId = s.grantEnabled tenantId accountId := by
  obtain ⟨more, hmore⟩ := h
  obtain ⟨a, hfound⟩ := Option.isSome_iff_exists.mp ha
  rw [Db.grantEnabled, Db.grantEnabled, hfound, Db.account?, ← hmore,
    lookup_append_of_some hfound]

theorem tenantBacked_commit (hs : Intact s) (hbacked : TenantBacked s)
    (hkeeps : ∀ c ∈ tx.changes, keepsAccounts c = true) (h : commitChanges s tx = .ok s') :
    TenantBacked s' := by
  obtain ⟨final, hfinal, rfl, hdeferred, hupdated⟩ := commitChanges_ok h
  have hp : Pending s tx.changes final := Pending.run hs hkeeps hfinal
  refine tenantBacked_of_exact hp.intact fun he hhe henabled => ?_
  rcases hp.holdEntries he hhe with hold | hnew | hnew
  · -- not written: what was there adds up, and an allocation added to it is rechecked
    rw [grantEnabled_of_grown hp.accounts (hs.history.holdEntries he hold)] at henabled
    obtain ⟨hdebit, htotal⟩ := hbacked.exact hs he hold henabled
    refine ⟨hdebit, ?_⟩
    by_cases hmore : ∃ a ∈ tx.changes.flatMap insertedAllocations,
        a.tenantId = he.tenantId ∧ a.holdEntryId = he.id
    · obtain ⟨a, ha, htenant, hid⟩ := hmore
      obtain ⟨c, hc, hinserted⟩ := List.mem_flatMap.mp ha
      refine recheckedTotal hp.intact.keys.holdEntries hhe ?_ htenant hid
        (deferred_insertedAllocation (hdeferred c hc) hinserted)
      rw [hp.allocations]
      exact List.mem_append_right _ ha
    · have hnone : sumWhere (tx.changes.flatMap insertedAllocations)
          (fun a => a.tenantId = he.tenantId ∧ a.holdEntryId = he.id) (·.amountMinor) = 0 :=
        sumWhere_eq_zero fun a ha hcondition => absurd ⟨a, ha, of_decide_eq_true hcondition⟩ hmore
      rw [hp.allocations, sumWhere_append, hnone, add_zero]
      exact htotal
  · obtain ⟨c, hc, hinserted⟩ := List.mem_flatMap.mp hnew
    exact assertGrantHoldAllocated_ok (deferred_insertedHoldEntry (hdeferred c hc) hinserted)
      henabled
  · exact assertGrantHoldAllocated_ok (hupdated he hnew) henabled

theorem commitChanges_accounts (hs : Intact s)
    (hkeeps : ∀ c ∈ tx.changes, keepsAccounts c = true) (h : commitChanges s tx = .ok s') :
    s.accounts <+: s'.accounts := by
  obtain ⟨final, hfinal, rfl, -, -⟩ := commitChanges_ok h
  exact (Pending.run hs hkeeps hfinal).accounts

end Commit

/-! ## Reservations stay -/

section Stay

variable {s s' : Db} {he : HoldEntry}

/-- An allocated hold entry stays, and so do its allocations. -/
theorem change_keepsAllocated {now : Timestamp} {c : Change} (hs : Intact s)
    (hhe : he ∈ s.holdEntries) (hallocated : s.hasAllocation he = true)
    (h : c.exec now s = .ok s') :
    he ∈ s'.holdEntries ∧ allocationsTo s he <+: allocationsTo s' he := by
  have hrows := change_allocations hs h
  refine ⟨?_, ?_⟩
  · cases c with
    | statement stmt =>
        rw [(exec_inserted h).holdEntries]
        exact List.mem_append_left _ hhe
    | edit e => exact (exec_edited hs.keys.toKeys h).holdEntries he hhe hallocated
  · rw [allocationsTo, allocationsTo, hrows, List.filter_append]
    exact List.prefix_append _ _

theorem hasAllocation_of_grown (h : allocationsTo s he <+: allocationsTo s' he)
    (hallocated : s.hasAllocation he = true) : s'.hasAllocation he = true := by
  obtain ⟨a, ha, hcondition⟩ := List.any_eq_true.mp hallocated
  have hscope := of_decide_eq_true hcondition
  obtain ⟨hmem', -⟩ := mem_allocationsTo.mp (h.subset (mem_allocationsTo.mpr ⟨ha, hscope.2⟩))
  exact List.any_eq_true.mpr ⟨a, hmem', hcondition⟩

theorem runChanges_keepsAllocated {steps : List (Timestamp × Change)} (hs : Intact s)
    (hhe : he ∈ s.holdEntries) (hallocated : s.hasAllocation he = true)
    (h : runChanges s steps = .ok s') :
    he ∈ s'.holdEntries ∧ allocationsTo s he <+: allocationsTo s' he := by
  have hrun := run_invariant (P := fun mid => Intact mid ∧ he ∈ mid.holdEntries ∧
    mid.hasAllocation he = true ∧ allocationsTo s he <+: allocationsTo mid he)
    ⟨hs, hhe, hallocated, List.prefix_rfl⟩ ?_ h
  · exact ⟨hrun.2.1, hrun.2.2.2⟩
  · intro mid step mid' hexec hmid
    obtain ⟨hintact, hmem, hmore, hbefore⟩ := hmid
    obtain ⟨hmem', hgrew⟩ := change_keepsAllocated hintact hmem hmore hexec
    exact ⟨change_intact hintact hexec, hmem', hasAllocation_of_grown hgrew hmore,
      hbefore.trans hgrew⟩

/-- Allocations are positive, so none can be added to a total that must stay. -/
theorem allocationsTo_eq_of_grown (hs' : Intact s') (hhe : he ∈ s'.holdEntries)
    (h : allocationsTo s he <+: allocationsTo s' he) (hb : Backed s he) (hb' : Backed s' he) :
    allocationsTo s' he = allocationsTo s he := by
  obtain ⟨more, hmore⟩ := h
  have hsum : (more.map (·.amountMinor)).sum = 0 := by
    have htotal := hb'.total
    rw [← hmore, List.map_append, List.sum_append, hb.total] at htotal
    omega
  cases more with
  | nil => rw [← hmore, List.append_nil]
  | cons a rest =>
      have hpos : ∀ a' ∈ a :: rest, 0 < a'.amountMinor := by
        intro a' ha'
        have hmem : a' ∈ allocationsTo s' he := hmore ▸ List.mem_append_right _ ha'
        obtain ⟨g, hlink⟩ := allocationLink_of_mem hs' hhe hmem
        exact hlink.amountPos
      have hrest : 0 ≤ (rest.map (·.amountMinor)).sum := by
        refine List.sum_nonneg fun x hx => ?_
        obtain ⟨a', ha', rfl⟩ := List.mem_map.mp hx
        exact (hpos a' (List.mem_cons_of_mem _ ha')).le
      rw [List.map_cons, List.sum_cons] at hsum
      have := hpos a List.mem_cons_self
      omega

end Stay

/-! ## Every committed state -/

/-- A log of database transactions none of which edits accounts. -/
def LogKeepsAccounts (log : List ChangeTransaction) : Prop :=
  ∀ tx ∈ log, ∀ c ∈ tx.changes, keepsAccounts c = true

instance (log : List ChangeTransaction) : Decidable (LogKeepsAccounts log) :=
  inferInstanceAs (Decidable (∀ tx ∈ log, ∀ c ∈ tx.changes, keepsAccounts c = true))

/-- Along a log, reservations stay backed and accounts are only added. -/
theorem commits_tenantBacked {s s' : Db} {log : List ChangeTransaction} (hs : Intact s)
    (hbacked : TenantBacked s) (hkeeps : LogKeepsAccounts log)
    (h : run commitChanges s log = .ok s') :
    Intact s' ∧ TenantBacked s' ∧ s.accounts <+: s'.accounts := by
  have hrun := run_induction (P := fun log s' => LogKeepsAccounts log →
    Intact s' ∧ TenantBacked s' ∧ s.accounts <+: s'.accounts)
    (fun _ => ⟨hs, hbacked, List.prefix_rfl⟩) ?_ h
  · exact hrun hkeeps
  · intro log mid tx s'' _ hmid hcommit hall
    obtain ⟨hintact, hmidBacked, haccounts⟩ :=
      hmid fun tx' htx' => hall tx' (List.mem_append_left _ htx')
    have htx : ∀ c ∈ tx.changes, keepsAccounts c = true := hall tx (by simp)
    exact ⟨commitChanges_intact hintact hcommit,
      tenantBacked_commit hintact hmidBacked htx hcommit,
      haccounts.trans (commitChanges_accounts hintact htx hcommit)⟩

/-- The statements of a log. -/
def timedChanges (log : List ChangeTransaction) : List (Timestamp × Change) :=
  log.flatMap fun tx => tx.changes.map fun c => (tx.now, c)

/-- The statements of a log as one run. -/
theorem runChanges_of_log {s s' : Db} {log : List ChangeTransaction}
    (h : run commitChanges s log = .ok s') : runChanges s (timedChanges log) = .ok s' := by
  refine run_induction (P := fun log s' => runChanges s (timedChanges log) = .ok s')
    (run_nil_eq_ok_iff.mpr rfl) ?_ h
  intro log mid tx s'' _ hmid hcommit
  rw [timedChanges, List.flatMap_append, List.flatMap_singleton]
  exact run_append_eq_ok_iff.mpr ⟨mid, hmid, runChanges_of_commit hcommit⟩

theorem TenantBacked.empty : TenantBacked Db.empty := fun _ hhe => absurd hhe List.not_mem_nil

/-- The statement writes no hold entry on a grant-enabled account of another tenant. -/
def WritesOwnHoldEntries (s : Db) (step : Timestamp × Change) : Prop :=
  ∀ he ∈ insertedHoldEntries step.2 ++ step.2.updatedHoldEntries s,
    ∀ a ∈ s.accounts, a.id = he.accountId → a.grantEnabled = true → a.tenantId = he.tenantId

instance (s : Db) (step : Timestamp × Change) : Decidable (WritesOwnHoldEntries s step) :=
  inferInstanceAs (Decidable (∀ he ∈ _, ∀ a ∈ s.accounts, _ → _ → _))

/-- A statement that writes hold entries adds no account. -/
theorem change_writes_accounts {s s' : Db} {now : Timestamp} {c : Change}
    (hkeeps : keepsAccounts c = true) (h : c.exec now s = .ok s') {he : HoldEntry}
    (hhe : he ∈ insertedHoldEntries c ++ c.updatedHoldEntries s) : s'.accounts = s.accounts := by
  cases c with
  | statement stmt =>
      have haccounts := (exec_inserted h).accounts
      rw [Change.updatedHoldEntries, List.append_nil] at hhe
      cases stmt with
      | insertHoldEntries rows => exact haccounts.trans (List.append_nil _)
      | _ => cases hhe
  | edit e =>
      obtain rfl := exec_eq_store h
      cases e with
      | accounts e => cases hkeeps
      | _ => rfl

theorem change_ownHoldEntries {s s' : Db} {now : Timestamp} {c : Change} (hs : Intact s)
    (hown : HoldEntriesOnOwnAccounts s) (hkeeps : keepsAccounts c = true)
    (h : c.exec now s = .ok s') (hwrites : WritesOwnHoldEntries s (now, c)) :
    HoldEntriesOnOwnAccounts s' := by
  intro he hhe
  have hintact : Intact s' := change_intact hs h
  rcases change_holdEntries h hhe with hold | hnew
  · have haccount := hs.history.holdEntries he hold
    obtain ⟨more, hmore⟩ := change_accounts hkeeps h
    obtain ⟨a, hfound⟩ := Option.isSome_iff_exists.mp haccount
    intro a' ha' henabled
    rw [Db.account?, ← hmore, lookup_append_of_some hfound] at ha'
    exact hown he hold a' (hfound.trans ha') henabled
  · have hmem := List.mem_append.mpr hnew
    have hsame := change_writes_accounts hkeeps h hmem
    refine (ownAccount_iff hintact.keys.accounts).mpr fun a ha hid henabled => ?_
    exact hwrites he hmem a (hsame ▸ ha) hid henabled

/-- Along a run whose statements do not, there is none. -/
theorem runChanges_ownHoldEntries {steps : List (Timestamp × Change)} {s : Db}
    (hkeeps : ∀ step ∈ steps, keepsAccounts step.2 = true)
    (h : runChanges Db.empty steps = .ok s)
    (hwrites : AlongRun (fun s step => step.2.exec step.1 s) WritesOwnHoldEntries Db.empty steps) :
    HoldEntriesOnOwnAccounts s := by
  have hrun := run_induction (P := fun steps s => (∀ step ∈ steps, keepsAccounts step.2 = true) →
    AlongRun (fun s step => step.2.exec step.1 s) WritesOwnHoldEntries Db.empty steps →
      Intact s ∧ HoldEntriesOnOwnAccounts s) ?_ ?_ h
  · exact (hrun hkeeps hwrites).2
  · exact fun _ _ => ⟨Intact.empty, fun _ hhe => absurd hhe List.not_mem_nil⟩
  · rintro steps mid ⟨now, c⟩ s' hsteps hmid hexec hall halong
    obtain ⟨hbefore, hstep⟩ := (alongRun_concat_iff hsteps hexec).mp halong
    obtain ⟨hintact, hown⟩ := hmid (fun x hx => hall x (List.mem_append_left _ hx)) hbefore
    exact ⟨change_intact hintact hexec,
      change_ownHoldEntries hintact hown (hall (now, c) (by simp)) hexec hstep⟩

theorem keepsAccounts_timedChanges {log : List ChangeTransaction} (hkeeps : LogKeepsAccounts log) :
    ∀ step ∈ timedChanges log, keepsAccounts step.2 = true := by
  intro step hstep
  obtain ⟨tx, htx, hmem⟩ := List.mem_flatMap.mp hstep
  obtain ⟨c, hc, rfl⟩ := List.mem_map.mp hmem
  exact hkeeps tx htx c hc

/-- In a committed state each reservation on a grant-enabled account is backed exactly when
each is of the account's tenant; so it is where the statements of the log write no others.
No statement accepted later touches a reservation of the account's tenant or its allocations,
and none that is added to them commits. -/
theorem fullyBacked_iff {log : List ChangeTransaction} {s : Db}
    (hkeeps : LogKeepsAccounts log) (h : replayChanges log = .ok s) :
    (FullyBacked s ↔ HoldEntriesOnOwnAccounts s) ∧
      (AlongRun (fun s step => step.2.exec step.1 s) WritesOwnHoldEntries Db.empty
        (timedChanges log) → HoldEntriesOnOwnAccounts s) ∧
      ∀ he ∈ s.holdEntries, isGrantAccount s he.accountId = true →
        OwnAccount s he.tenantId he.accountId →
        (∀ steps s', runChanges s steps = .ok s' →
          he ∈ s'.holdEntries ∧ allocationsTo s he <+: allocationsTo s' he) ∧
        ∀ later s', LogKeepsAccounts later → run commitChanges s later = .ok s' →
          he ∈ s'.holdEntries ∧ allocationsTo s' he = allocationsTo s he := by
  obtain ⟨hintact, hbacked, -⟩ := commits_tenantBacked Intact.empty TenantBacked.empty hkeeps h
  refine ⟨fullyBacked_iff_own hintact hbacked, fun hwrites => ?_, fun he hhe hgrant hown => ?_⟩
  · exact runChanges_ownHoldEntries (keepsAccounts_timedChanges hkeeps) (runChanges_of_log h)
      hwrites
  have henabled := hown.enabled hgrant
  have hb : Backed s he := hbacked he hhe henabled
  have hstays : ∀ steps s', runChanges s steps = .ok s' →
      he ∈ s'.holdEntries ∧ allocationsTo s he <+: allocationsTo s' he := fun steps s' hsteps =>
    runChanges_keepsAllocated hintact hhe (hb.hasAllocation hintact hhe) hsteps
  refine ⟨hstays, fun later s' hlater hcommits => ?_⟩
  obtain ⟨hmem, hgrew⟩ := hstays _ s' (runChanges_of_log hcommits)
  obtain ⟨hintact', hbacked', haccounts⟩ := commits_tenantBacked hintact hbacked hlater hcommits
  have henabled' : s'.grantEnabled he.tenantId he.accountId = true :=
    (grantEnabled_of_grown haccounts (hintact.history.holdEntries he hhe)).trans henabled
  exact ⟨hmem, allocationsTo_eq_of_grown hintact' hmem hgrew hb (hbacked' he hmem henabled')⟩

/-- A hold entry is inserted on the funding account and moved to the prepaid one before it
is allocated. -/
def Sample.movedReservation : List ChangeTransaction :=
  changes [⟨0, accounts⟩, ⟨1, issuance 0 none⟩] ++
    [⟨2, [.statement (.insertHolds [hold]),
      .statement (.insertHoldEntries [⟨500, 1, 400, 11, 60, 1⟩, ⟨501, 1, 400, 11, -60, 1⟩]),
      .edit (.holdEntries (.update [(500, ⟨500, 1, 400, 10, 60, 1⟩)] (by decide))),
      .statement (.insertCreditGrantHoldAllocations [⟨600, 1, 5, 10, 300, 500, 60⟩])]⟩]

/-- The moved hold entry is backed, and stays whatever is accepted later. -/
theorem fullyBacked_iff_sample :
    FullyBacked (Sample.stateAfterChanges Sample.movedReservation) ∧
      ∀ steps s', runChanges (Sample.stateAfterChanges Sample.movedReservation) steps = .ok s' →
        ⟨500, 1, 400, 10, 60, 1⟩ ∈ s'.holdEntries := by
  have hkeeps : LogKeepsAccounts Sample.movedReservation := by decide
  obtain ⟨hiff, hwrites, hstays⟩ :=
    fullyBacked_iff hkeeps (Sample.replayChanges_stateAfter (by rfl))
  have hown : HoldEntriesOnOwnAccounts (Sample.stateAfterChanges Sample.movedReservation) :=
    hwrites (by decide +kernel)
  refine ⟨hiff.mpr hown, fun steps s' hsteps => ?_⟩
  have hmem : ⟨500, 1, 400, 10, 60, 1⟩ ∈
      (Sample.stateAfterChanges Sample.movedReservation).holdEntries := by decide +kernel
  exact ((hstays _ hmem (by rfl) (hown _ hmem)).1 steps s' hsteps).1

/-- Tenant 2 reserves a credit of 60 on account 10 of tenant 1. -/
def Sample.creditedByOther : List ChangeTransaction :=
  changes [⟨0, accounts⟩, ⟨1, otherAsset :: otherReservation (-60)⟩]

/-- The credit is accepted without an allocation. -/
theorem other_reservation_unbacked :
    replayChanges Sample.creditedByOther = .ok (Sample.stateAfterChanges Sample.creditedByOther) ∧
      LogKeepsAccounts Sample.creditedByOther ∧
      ¬ FullyBacked (Sample.stateAfterChanges Sample.creditedByOther) := by
  refine ⟨Sample.replayChanges_stateAfter (by rfl), by decide, fun hbacked => ?_⟩
  have hdebit := (hbacked ⟨580, 2, 480, 10, -60, 2⟩ (by decide +kernel) (by rfl)).debit
  exact absurd hdebit (by decide)

end LuxLedger.Credit
