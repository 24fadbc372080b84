/-
  Credit/EditSteps.lean --- what an UPDATE or a DELETE can do, said once.

  The triggers protect rows one by one: an entry with lineage and its transaction, a
  hold entry with allocations, the asset of an account with entries.  `Edited` collects
  what every accepted edit leaves as it was; the invariants of runs with edits follow
  from it and from the row steps, with no second look at a trigger.
-/
import LuxLedger.Credit.WellFormed
import LuxLedger.Schema.Edits

set_option autoImplicit false

namespace LuxLedger.Credit

open LuxLedger.Schema LuxLedger.Relational

/-! ## Foreign keys at the end of an edit -/

/-- The foreign keys that the proofs read. -/
structure References (s : Db) : Prop where
  grantAccount : ∀ g ∈ s.creditGrants, s.hasAccount g.tenantId g.ledgerId g.accountId = true
  entryTransaction : ∀ e ∈ s.entries, (s.transaction? e.transactionId).isSome
  entryAccount : ∀ e ∈ s.entries, (s.account? e.accountId).isSome
  entryAsset : ∀ e ∈ s.entries, s.hasAsset e.tenantId e.assetId = true
  holdEntryAccount : ∀ he ∈ s.holdEntries, (s.account? he.accountId).isSome

theorem finish_ok {s s' : Db} (h : s.finish = .ok s') : s' = s ∧ References s := by
  simp only [Db.finish, checkReferences, bind_eq_ok_iff, require_eq_ok_iff, pure_eq_ok_iff] at h
  obtain ⟨⟨⟩, ⟨⟨⟩, -, ⟨⟩, hgrant, ⟨⟩, -, ⟨⟩, -, ⟨⟩, -, ⟨⟩, -, ⟨⟩, htransaction, ⟨⟩, haccount,
    ⟨⟩, hasset, ⟨⟩, -, ⟨⟩, hholdEntry, -⟩, rfl⟩ := h
  exact ⟨rfl, hgrant, htransaction, haccount, hasset, hholdEntry⟩

/-! ## The guards -/

theorem checkCascade_ok {ρ : Type} [DecidableEq ρ] {protect : ρ → Except SqlError Unit}
    {follow : ρ → ρ} {rows : List ρ} (h : checkCascade protect follow rows = .ok ()) {r : ρ}
    (hr : r ∈ rows) (hprotected : protect r ≠ .ok ()) : follow r = r := by
  by_contra hne
  refine hprotected (checkEach_eq_ok_iff.mp h r ?_)
  exact List.mem_filter.mpr ⟨hr, decide_eq_true hne⟩

section Protected

variable {s : Db}

theorem protectHistoryEntry_ne_ok {e : Entry} (h : s.hasLineage e.id = true) :
    protectHistoryEntry s e ≠ .ok () := by
  simp [protectHistoryEntry, raiseIf, h]

theorem updateEntry_ne_ok {e : Entry} (h : s.hasLineage e.id = true) (table : List Entry)
    (new : Entry) : updateEntry s table e new ≠ .ok () := by
  intro hok
  simp only [updateEntry, bind_eq_ok_iff] at hok
  obtain ⟨⟨⟩, hguard, -⟩ := hok
  exact protectHistoryEntry_ne_ok h hguard

theorem protectHistoryTransaction_ne_ok {t : Transaction} (h : s.hasLineageEntry t.id = true) :
    protectHistoryTransaction s t ≠ .ok () := by
  simp [protectHistoryTransaction, raiseIf, h]

theorem updateTransaction_ne_ok {t : Transaction} (h : s.hasLineageEntry t.id = true)
    (table : List Transaction) (new : Transaction) : updateTransaction s table t new ≠ .ok () := by
  intro hok
  simp only [updateTransaction, bind_eq_ok_iff] at hok
  obtain ⟨⟨⟩, hguard, -⟩ := hok
  exact protectHistoryTransaction_ne_ok h hguard

theorem protectAllocatedHoldEntry_ne_ok {he : HoldEntry} (h : s.hasAllocation he = true) :
    protectAllocatedHoldEntry s he ≠ .ok () := by
  simp [protectAllocatedHoldEntry, raiseIf, h]

theorem updateHoldEntry_ne_ok {he : HoldEntry} (h : s.hasAllocation he = true)
    (table : List HoldEntry) (new : HoldEntry) : updateHoldEntry s table he new ≠ .ok () := by
  intro hok
  simp only [updateHoldEntry, bind_eq_ok_iff] at hok
  obtain ⟨⟨⟩, hguard, -⟩ := hok
  exact protectAllocatedHoldEntry_ne_ok h hguard

/-- An account with entries keeps its asset. -/
theorem updateAccount_asset {table : List Account} {old new : Account}
    (h : updateAccount s table old new = .ok ()) (hentry : ∃ e ∈ s.entries, e.accountId = old.id) :
    new.assetId = old.assetId := by
  simp only [updateAccount, bind_eq_ok_iff] at h
  obtain ⟨⟨⟩, -, ⟨⟩, hguard, -⟩ := h
  rw [accountAssetHistoryGuard, raiseIf_eq_ok_iff, ne_eq, Truth.of_eq_true_iff] at hguard
  by_contra hne
  exact hguard ⟨hne, Or.inl hentry⟩

end Protected

/-! ## What an edit leaves alone -/

/-- What every accepted edit leaves as it was. -/
structure Edited (s s' : Db) : Prop where
  creditGrants : s'.creditGrants = s.creditGrants
  creditGrantEntries : s'.creditGrantEntries = s.creditGrantEntries
  holds : s'.holds = s.holds
  allocations : s'.creditGrantHoldAllocations = s.creditGrantHoldAllocations
  entries : ∀ e ∈ s.entries, s.hasLineage e.id = true → e ∈ s'.entries
  transactions : ∀ t ∈ s.transactions, s.hasLineageEntry t.id = true → t ∈ s'.transactions
  accounts : ∀ e ∈ s.entries, s.hasLineage e.id = true → ∀ a, s.account? e.accountId = some a →
    ∃ a' ∈ s'.accounts, a'.id = a.id ∧ a'.assetId = a.assetId
  holdEntries : ∀ he ∈ s.holdEntries, s.hasAllocation he = true → he ∈ s'.holdEntries
  nonzero : (∀ e ∈ s.entries, e.signedAmountMinor ≠ 0) → ∀ e ∈ s'.entries, e.signedAmountMinor ≠ 0
  references : s' = s ∨ References s'

theorem Edited.refl (s : Db) : Edited s s :=
  ⟨rfl, rfl, rfl, rfl, fun _ he _ => he, fun _ ht _ => ht,
    fun _ _ _ a ha => ⟨a, mem_of_lookup ha, rfl, rfl⟩, fun _ hhe _ => hhe, id, Or.inl rfl⟩

section Edits

variable {s s' : Db}

theorem editAssets_ok {e : TableEdit Uuid Asset} (h : (Edit.assets e).exec s = .ok s') :
    ∃ assets, e.run Asset.id updateAsset (fun _ => .ok ()) s.assets = .ok assets ∧
      s' = (Edit.assets e).store s ∧ References s' := by
  simp only [Edit.exec, bind_eq_ok_iff] at h
  obtain ⟨assets, hrun, hfinish⟩ := h
  obtain ⟨rfl, hreferences⟩ := finish_ok hfinish
  refine ⟨assets, hrun, ?_, hreferences⟩
  rw [TableEdit.run_eq_apply hrun]
  rfl

theorem editAccounts_ok {e : TableEdit Uuid Account} (h : (Edit.accounts e).exec s = .ok s') :
    ∃ accounts, e.run Account.id (updateAccount s) (fun _ => .ok ()) s.accounts = .ok accounts ∧
      checkCascade (protectHistoryEntry s) (Entry.followAccount (e.newKey Account.id s.accounts))
        s.entries = .ok () ∧
      checkCascade (protectAllocatedHoldEntry s)
        (HoldEntry.followAccount (e.newKey Account.id s.accounts)) s.holdEntries = .ok () ∧
      s' = (Edit.accounts e).store s ∧ References s' := by
  simp only [Edit.exec, bind_eq_ok_iff] at h
  obtain ⟨accounts, hrun, ⟨⟩, hentries, ⟨⟩, hholdEntries, hfinish⟩ := h
  obtain ⟨rfl, hreferences⟩ := finish_ok hfinish
  refine ⟨accounts, hrun, hentries, hholdEntries, ?_, hreferences⟩
  rw [TableEdit.run_eq_apply hrun]
  rfl

theorem editTransactions_ok {e : TableEdit Uuid Transaction}
    (h : (Edit.transactions e).exec s = .ok s') :
    ∃ transactions, e.run Transaction.id (updateTransaction s) (protectHistoryTransaction s)
        s.transactions = .ok transactions ∧
      checkCascade (protectHistoryEntry s)
        (Entry.followTransaction (e.newKey Transaction.id s.transactions)) s.entries = .ok () ∧
      checkCascade (protectHistoryTransaction s)
        (Transaction.followTransaction (e.newKey Transaction.id s.transactions)) transactions =
          .ok () ∧
      UniqueRelations s'.transactions ∧ s' = (Edit.transactions e).store s ∧ References s' := by
  simp only [Edit.exec, bind_eq_ok_iff, require_eq_ok_iff] at h
  obtain ⟨transactions, hrun, ⟨⟩, hentries, ⟨⟩, hrelated, ⟨⟩, hunique, hfinish⟩ := h
  obtain ⟨rfl, hreferences⟩ := finish_ok hfinish
  refine ⟨transactions, hrun, hentries, hrelated, hunique, ?_, hreferences⟩
  rw [TableEdit.run_eq_apply hrun]
  rfl

theorem editEntries_ok {e : TableEdit Uuid Entry} (h : (Edit.entries e).exec s = .ok s') :
    ∃ entries, e.run Entry.id (updateEntry s) (protectHistoryEntry s) s.entries = .ok entries ∧
      s' = (Edit.entries e).store s ∧ References s' := by
  simp only [Edit.exec, bind_eq_ok_iff] at h
  obtain ⟨entries, hrun, hfinish⟩ := h
  obtain ⟨rfl, hreferences⟩ := finish_ok hfinish
  refine ⟨entries, hrun, ?_, hreferences⟩
  rw [TableEdit.run_eq_apply hrun]
  rfl

theorem editHoldEntries_ok {e : TableEdit Uuid HoldEntry}
    (h : (Edit.holdEntries e).exec s = .ok s') :
    ∃ holdEntries, e.run HoldEntry.id (updateHoldEntry s) (protectAllocatedHoldEntry s)
        s.holdEntries = .ok holdEntries ∧
      s' = (Edit.holdEntries e).store s ∧ References s' := by
  simp only [Edit.exec, bind_eq_ok_iff] at h
  obtain ⟨holdEntries, hrun, hfinish⟩ := h
  obtain ⟨rfl, hreferences⟩ := finish_ok hfinish
  refine ⟨holdEntries, hrun, ?_, hreferences⟩
  rw [TableEdit.run_eq_apply hrun]
  rfl

theorem rejectEdit_ok {κ ρ : Type} [DecidableEq κ] {key : ρ → κ} {message : String}
    {rows : List ρ} {e : TableEdit κ ρ} (h : rejectEdit key message s rows e = .ok s') :
    s' = s := by
  simp only [rejectEdit, bind_eq_ok_iff, pure_eq_ok_iff] at h
  obtain ⟨_, -, rfl⟩ := h
  rfl

theorem deleteHolds_ok {ids : List Uuid} (h : (Edit.deleteHolds ids).exec s = .ok s') :
    s' = s := by
  simp only [Edit.exec, bind_eq_ok_iff, pure_eq_ok_iff] at h
  obtain ⟨⟨⟩, -, rfl⟩ := h
  rfl

/-- What an accepted edit leaves, whatever table it is on. -/
theorem exec_eq_store {e : Edit} (h : e.exec s = .ok s') : s' = e.store s := by
  cases e with
  | assets e =>
      obtain ⟨-, -, hstore, -⟩ := editAssets_ok h
      exact hstore
  | accounts e =>
      obtain ⟨-, -, -, -, hstore, -⟩ := editAccounts_ok h
      exact hstore
  | transactions e =>
      obtain ⟨-, -, -, -, -, hstore, -⟩ := editTransactions_ok h
      exact hstore
  | entries e =>
      obtain ⟨-, -, hstore, -⟩ := editEntries_ok h
      exact hstore
  | holdEntries e =>
      obtain ⟨-, -, hstore, -⟩ := editHoldEntries_ok h
      exact hstore
  | creditGrants e => exact rejectEdit_ok h
  | creditGrantEntries e => exact rejectEdit_ok h
  | deleteHolds ids => exact deleteHolds_ok h
  | allocations e => exact rejectEdit_ok h

/-! ### Protected rows are not selected -/

theorem editEntries_not_selects (hs : Keys s) {e : TableEdit Uuid Entry}
    (h : (Edit.entries e).exec s = .ok s') {en : Entry} (hen : en ∈ s.entries)
    (hlineage : s.hasLineage en.id = true) : e.selects Entry.id en = false := by
  obtain ⟨entries, hrun, -, -⟩ := editEntries_ok h
  exact TableEdit.not_selects_of_run hrun hs.entries hen (updateEntry_ne_ok hlineage)
    (protectHistoryEntry_ne_ok hlineage)

theorem editTransactions_not_selects (hs : Keys s) {e : TableEdit Uuid Transaction}
    (h : (Edit.transactions e).exec s = .ok s') {t : Transaction} (ht : t ∈ s.transactions)
    (hlineage : s.hasLineageEntry t.id = true) : e.selects Transaction.id t = false := by
  obtain ⟨transactions, hrun, -, -, -, -, -⟩ := editTransactions_ok h
  exact TableEdit.not_selects_of_run hrun hs.transactions ht (updateTransaction_ne_ok hlineage)
    (protectHistoryTransaction_ne_ok hlineage)

theorem editHoldEntries_not_selects (hs : Keys s) {e : TableEdit Uuid HoldEntry}
    (h : (Edit.holdEntries e).exec s = .ok s') {he : HoldEntry} (hhe : he ∈ s.holdEntries)
    (hallocation : s.hasAllocation he = true) : e.selects HoldEntry.id he = false := by
  obtain ⟨holdEntries, hrun, -, -⟩ := editHoldEntries_ok h
  exact TableEdit.not_selects_of_run hrun hs.holdEntries hhe (updateHoldEntry_ne_ok hallocation)
    (protectAllocatedHoldEntry_ne_ok hallocation)

/-! ### Each table -/

theorem editAssets_edited {e : TableEdit Uuid Asset} (h : (Edit.assets e).exec s = .ok s') :
    Edited s s' := by
  obtain ⟨assets, -, rfl, hreferences⟩ := editAssets_ok h
  exact { Edited.refl s with references := Or.inr hreferences }

theorem editAccounts_edited (hs : Keys s) {e : TableEdit Uuid Account}
    (h : (Edit.accounts e).exec s = .ok s') : Edited s s' := by
  obtain ⟨accounts, hrun, hentries, hholdEntries, rfl, hreferences⟩ := editAccounts_ok h
  -- a protected entry does not follow a renamed account, so its account is not renamed
  have hentry : ∀ en ∈ s.entries, s.hasLineage en.id = true →
      en.followAccount (e.newKey Account.id s.accounts) = en :=
    fun en hen hlineage => checkCascade_ok hentries hen (protectHistoryEntry_ne_ok hlineage)
  refine { Edited.refl s with
    entries := ?_
    accounts := ?_
    holdEntries := ?_
    nonzero := ?_
    references := Or.inr hreferences }
  · intro en hen hlineage
    exact List.mem_map.mpr ⟨en, hen, hentry en hen hlineage⟩
  · intro en hen hlineage a ha
    have hid : a.id = en.accountId := key_of_lookup ha
    have hmem : a ∈ s.accounts := mem_of_lookup ha
    -- the entry still refers to an account with that id
    have hkept : en ∈ ((Edit.accounts e).store s).entries :=
      List.mem_map.mpr ⟨en, hen, hentry en hen hlineage⟩
    obtain ⟨b, hb⟩ := Option.isSome_iff_exists.mp (hreferences.entryAccount en hkept)
    obtain ⟨a', hout⟩ := TableEdit.exists_outcome hs.accounts hmem (mem_of_lookup hb)
      ((key_of_lookup hb).trans hid.symm)
    refine ⟨a', TableEdit.mem_apply.mpr ⟨a, hmem, hout⟩, ?_⟩
    cases hsel : e.selects Account.id a with
    | false =>
        rw [TableEdit.outcome_of_not_selects hsel, Option.some.injEq] at hout
        rw [← hout]
        exact ⟨rfl, rfl⟩
    | true =>
        obtain ⟨table, hchecked⟩ := TableEdit.run_updated hrun hs.accounts hmem hsel hout
        have hsame := congrArg Entry.accountId (hentry en hen hlineage)
        rw [Entry.followAccount, ← hid, TableEdit.newKey_of_mem hs.accounts hmem hout] at hsame
        exact ⟨hsame, updateAccount_asset hchecked ⟨en, hen, hid.symm⟩⟩
  · intro he hhe hallocation
    exact List.mem_map.mpr ⟨he, hhe,
      checkCascade_ok hholdEntries hhe (protectAllocatedHoldEntry_ne_ok hallocation)⟩
  · intro hnonzero en hen
    obtain ⟨en₀, hen₀, rfl⟩ := List.mem_map.mp hen
    exact hnonzero en₀ hen₀

/-- A transaction with lineage is neither selected nor reached by a cascade. -/
theorem editTransactions_edited (hs : Keys s) {e : TableEdit Uuid Transaction}
    (h : (Edit.transactions e).exec s = .ok s') : Edited s s' := by
  have hselects : ∀ t ∈ s.transactions, s.hasLineageEntry t.id = true →
      e.selects Transaction.id t = false :=
    fun _ ht hlineage => editTransactions_not_selects hs h ht hlineage
  obtain ⟨transactions, hrun, hentries, hrelated, -, rfl, hreferences⟩ := editTransactions_ok h
  refine { Edited.refl s with
    entries := ?_
    transactions := ?_
    accounts := ?_
    nonzero := ?_
    references := Or.inr hreferences }
  · intro en hen hlineage
    exact List.mem_map.mpr ⟨en, hen,
      checkCascade_ok hentries hen (protectHistoryEntry_ne_ok hlineage)⟩
  · intro t ht hlineage
    have hmem : t ∈ e.apply Transaction.id s.transactions :=
      TableEdit.mem_apply_of_not_selects ht (hselects t ht hlineage)
    refine List.mem_map.mpr
      ⟨t, hmem, checkCascade_ok hrelated ?_ (protectHistoryTransaction_ne_ok hlineage)⟩
    rw [TableEdit.run_eq_apply hrun]
    exact hmem
  · intro en hen hlineage a ha
    exact ⟨a, mem_of_lookup ha, rfl, rfl⟩
  · intro hnonzero en hen
    obtain ⟨en₀, hen₀, rfl⟩ := List.mem_map.mp hen
    exact hnonzero en₀ hen₀

theorem editEntries_edited (hs : Keys s) {e : TableEdit Uuid Entry}
    (h : (Edit.entries e).exec s = .ok s') : Edited s s' := by
  have hselects : ∀ en ∈ s.entries, s.hasLineage en.id = true → e.selects Entry.id en = false :=
    fun _ hen hlineage => editEntries_not_selects hs h hen hlineage
  obtain ⟨entries, hrun, rfl, hreferences⟩ := editEntries_ok h
  refine { Edited.refl s with
    entries := ?_
    accounts := ?_
    nonzero := ?_
    references := Or.inr hreferences }
  · intro en hen hlineage
    exact TableEdit.mem_apply_of_not_selects hen (hselects en hen hlineage)
  · intro en hen hlineage a ha
    exact ⟨a, mem_of_lookup ha, rfl, rfl⟩
  · intro hnonzero en hen
    rcases TableEdit.mem_apply_iff.mp hen with ⟨hold, -⟩ | hnew
    · exact hnonzero en hold
    · obtain ⟨en₀, hen₀, hsel, hout⟩ := TableEdit.mem_given.mp hnew
      obtain ⟨table, hchecked⟩ := TableEdit.run_updated hrun hs.entries hen₀ hsel hout
      simp only [updateEntry, bind_eq_ok_iff, require_eq_ok_iff] at hchecked
      obtain ⟨⟨⟩, -, ⟨⟩, hamount, -⟩ := hchecked
      exact hamount

theorem editHoldEntries_edited (hs : Keys s) {e : TableEdit Uuid HoldEntry}
    (h : (Edit.holdEntries e).exec s = .ok s') : Edited s s' := by
  have hselects : ∀ he ∈ s.holdEntries, s.hasAllocation he = true →
      e.selects HoldEntry.id he = false :=
    fun _ hhe hallocation => editHoldEntries_not_selects hs h hhe hallocation
  obtain ⟨holdEntries, -, rfl, hreferences⟩ := editHoldEntries_ok h
  refine { Edited.refl s with
    holdEntries := ?_
    references := Or.inr hreferences }
  intro he hhe hallocation
  exact TableEdit.mem_apply_of_not_selects hhe (hselects he hhe hallocation)

theorem exec_edited (hs : Keys s) {e : Edit} (h : e.exec s = .ok s') : Edited s s' := by
  cases e with
  | assets e => exact editAssets_edited h
  | accounts e => exact editAccounts_edited hs h
  | transactions e => exact editTransactions_edited hs h
  | entries e => exact editEntries_edited hs h
  | creditGrants e => exact rejectEdit_ok h ▸ Edited.refl s
  | creditGrantEntries e => exact rejectEdit_ok h ▸ Edited.refl s
  | deleteHolds ids => exact deleteHolds_ok h ▸ Edited.refl s
  | holdEntries e => exact editHoldEntries_edited hs h
  | allocations e => exact rejectEdit_ok h ▸ Edited.refl s

/-! ## Unique keys -/

/-- The unique indexes of all tables that an edit may write. -/
structure TableKeys (s : Db) : Prop extends Keys s where
  assets : UniqueKey Asset.id s.assets
  assetCodes : UniqueKey (fun a : Asset => (a.tenantId, a.code)) s.assets

theorem TableKeys.empty : TableKeys Db.empty :=
  { Keys.empty with
    assets := List.nodup_nil
    assetCodes := List.nodup_nil }

theorem RowStep.tableKeys {now : Timestamp} (h : RowStep now s s') (hs : TableKeys s) :
    TableKeys s' := by
  have hkeys : Keys s' := h.keys hs.toKeys
  cases h with
  | asset check =>
      simp only [checkAsset, bind_eq_ok_iff, require_eq_ok_iff] at check
      obtain ⟨⟨⟩, -, ⟨⟩, -, ⟨⟩, hfresh, hcode⟩ := check
      refine { hkeys with
        assets := hs.assets.append_singleton hfresh
        assetCodes := hs.assetCodes.append_singleton ?_ }
      intro a ha hkey
      exact hcode a ha (Prod.mk.inj hkey)
  | _ => exact { hkeys with assets := hs.assets, assetCodes := hs.assetCodes }

/-- An edit that checks a unique index of its table with every row keeps it. -/
theorem run_uniqueKey {κ κ' ρ : Type} [DecidableEq κ] {key : ρ → κ} {key' : ρ → κ'}
    {onUpdate : List ρ → ρ → ρ → Except SqlError Unit} {onDelete : ρ → Except SqlError Unit}
    {e : TableEdit κ ρ} {rows rows' : List ρ}
    (hcheck : ∀ table old new, onUpdate table old new = .ok () → UniqueKey key' table)
    (h : e.run key onUpdate onDelete rows = .ok rows') (hrows : UniqueKey key' rows) :
    UniqueKey key' (e.apply key rows) := by
  rw [← TableEdit.run_eq_apply h]
  exact TableEdit.run_table (fun _ _ hsub hkey => hkey.sublist hsub) hcheck h hrows

theorem exec_tableKeys (hs : TableKeys s) {e : Edit} (h : e.exec s = .ok s') : TableKeys s' := by
  cases e with
  | assets e =>
      obtain ⟨assets, hrun, rfl, -⟩ := editAssets_ok h
      refine { hs with
        assets := run_uniqueKey ?_ hrun hs.assets
        assetCodes := run_uniqueKey ?_ hrun hs.assetCodes }
      · intro table old new hok
        simp only [updateAsset, bind_eq_ok_iff, require_eq_ok_iff] at hok
        obtain ⟨⟨⟩, -, ⟨⟩, -, ⟨⟩, -, ⟨⟩, hid, -⟩ := hok
        exact hid
      · intro table old new hok
        simp only [updateAsset, bind_eq_ok_iff, require_eq_ok_iff] at hok
        obtain ⟨⟨⟩, -, ⟨⟩, -, ⟨⟩, -, ⟨⟩, -, hcode⟩ := hok
        exact hcode
  | accounts e =>
      obtain ⟨accounts, hrun, -, -, rfl, -⟩ := editAccounts_ok h
      refine { hs with
        accounts := ?_
        entries := hs.entries.map fun _ _ => rfl
        holdEntries := hs.holdEntries.map fun _ _ => rfl }
      refine run_uniqueKey ?_ hrun hs.accounts
      intro table old new hok
      simp only [updateAccount, bind_eq_ok_iff, require_eq_ok_iff] at hok
      obtain ⟨⟨⟩, -, ⟨⟩, -, ⟨⟩, -, hid⟩ := hok
      exact hid
  | transactions e =>
      obtain ⟨transactions, hrun, -, -, hrelations, rfl, -⟩ := editTransactions_ok h
      have hkey : UniqueKey Transaction.id (e.apply Transaction.id s.transactions) := by
        refine run_uniqueKey ?_ hrun hs.transactions
        intro table old new hok
        simp only [updateTransaction, bind_eq_ok_iff, require_eq_ok_iff] at hok
        obtain ⟨⟨⟩, -, ⟨⟩, -, ⟨⟩, hid, -⟩ := hok
        exact hid
      exact { hs with
        transactions := hkey.map fun _ _ => rfl
        relations := hrelations
        entries := hs.entries.map fun _ _ => rfl }
  | entries e =>
      obtain ⟨entries, hrun, rfl, -⟩ := editEntries_ok h
      refine { hs with entries := run_uniqueKey ?_ hrun hs.entries }
      intro table old new hok
      simp only [updateEntry, bind_eq_ok_iff, require_eq_ok_iff] at hok
      obtain ⟨⟨⟩, -, ⟨⟩, -, hid⟩ := hok
      exact hid
  | creditGrants e => exact rejectEdit_ok h ▸ hs
  | creditGrantEntries e => exact rejectEdit_ok h ▸ hs
  | deleteHolds ids => exact deleteHolds_ok h ▸ hs
  | holdEntries e =>
      obtain ⟨holdEntries, hrun, rfl, -⟩ := editHoldEntries_ok h
      refine { hs with
        holdEntries := run_uniqueKey ?_ hrun hs.holdEntries }
      intro table old new hok
      simp only [updateHoldEntry, bind_eq_ok_iff, require_eq_ok_iff] at hok
      obtain ⟨⟨⟩, -, ⟨⟩, -, hid⟩ := hok
      exact hid
  | allocations e => exact rejectEdit_ok h ▸ hs

end Edits

/-! ## The rows that the history refers to -/

/-- An entry, its transaction and its account carry one asset. -/
def OneAsset (linked : LinkedRows) : Prop :=
  linked.entry.assetId = linked.account.assetId ∧
    linked.transaction.assetId = linked.account.assetId

/-- The rows of `rows` refer to rows of `s`, as far as every write keeps it. -/
structure HistoryIn (rows s : Db) : Prop where
  entries : ∀ e ∈ rows.entries, e.signedAmountMinor ≠ 0 ∧
    (s.transaction? e.transactionId).isSome ∧ s.hasAsset e.tenantId e.assetId = true
  lineage : ∀ l ∈ rows.creditGrantEntries, ∃ linked, Linked s l linked ∧ OneAsset linked
  grants : ∀ g ∈ rows.creditGrants, s.hasAccount g.tenantId g.ledgerId g.accountId = true
  holdEntries : ∀ he ∈ rows.holdEntries, (s.account? he.accountId).isSome
  allocations : ∀ a ∈ rows.creditGrantHoldAllocations, ∃ g he, AllocationLink s a g he

/-- Keys are unique, and every row refers to rows of the same database. -/
structure Intact (s : Db) : Prop where
  keys : TableKeys s
  history : HistoryIn s s

theorem Intact.empty : Intact Db.empty := by
  refine ⟨TableKeys.empty, ?_⟩
  constructor <;> intro _ h <;> cases h

theorem hasLineage_of_mem {s : Db} {l : CreditGrantEntry} (hl : l ∈ s.creditGrantEntries)
    {id : Uuid} (hid : id = l.entryId) : s.hasLineage id = true :=
  List.any_eq_true.mpr ⟨l, hl, decide_eq_true hid.symm⟩

theorem hasLineageEntry_of_mem {s : Db} {e : Entry} (he : e ∈ s.entries)
    (h : s.hasLineage e.id = true) {id : Uuid} (hid : id = e.transactionId) :
    s.hasLineageEntry id = true :=
  List.any_eq_true.mpr ⟨e, he, decide_eq_true ⟨hid.symm, h⟩⟩

section RowSteps

variable {now : Timestamp} {s s' rows : Db}

theorem RowStep.assets (h : RowStep now s s') : s.assets <+: s'.assets := by
  cases h with
  | asset _ => exact List.prefix_append _ _
  | _ => exact List.prefix_rfl

theorem hasAsset_of_grown (h : s.assets <+: s'.assets) {tenantId assetId : Uuid}
    (hasset : s.hasAsset tenantId assetId = true) : s'.hasAsset tenantId assetId = true := by
  obtain ⟨more, hmore⟩ := h
  unfold Db.hasAsset at hasset ⊢
  cases hfound : s.asset? assetId with
  | none =>
      rw [hfound] at hasset
      cases hasset
  | some a =>
      rw [hfound] at hasset
      rw [Db.asset?, ← hmore, lookup_append_of_some hfound]
      exact hasset

theorem hasAccount_extends (hext : Extends s s') {t ledgerId accountId : Uuid}
    (h : s.hasAccount t ledgerId accountId = true) : s'.hasAccount t ledgerId accountId = true := by
  obtain ⟨a, ha, hscope⟩ := (Option.any_eq_true _ _).mp h
  exact (Option.any_eq_true _ _).mpr ⟨a, hext.account? ha, hscope⟩

/-- Rows that are there are never lost by a row step. -/
theorem HistoryIn.mono (h : RowStep now s s') (hs : HistoryIn rows s) : HistoryIn rows s' := by
  have hext : Extends s s' := h.extends
  refine ⟨?_, ?_, fun g hg => hasAccount_extends hext (hs.grants g hg), ?_, ?_⟩
  · intro e he
    obtain ⟨hnonzero, htransaction, hasset⟩ := hs.entries e he
    exact ⟨hnonzero, isSome_mono (fun t ht => ⟨t, hext.transaction? ht⟩) htransaction,
      hasAsset_of_grown h.assets hasset⟩
  · intro l hl
    obtain ⟨linked, hlinked, hasset⟩ := hs.lineage l hl
    exact ⟨linked, hext.linked hlinked, hasset⟩
  · intro he hhe
    exact isSome_mono (fun a ha => ⟨a, hext.account? ha⟩) (hs.holdEntries he hhe)
  · intro a ha
    obtain ⟨g, he, hlink⟩ := hs.allocations a ha
    exact ⟨g, he, hext.allocationLink hlink⟩

theorem RowStep.history (h : RowStep now s s') (hs : HistoryIn s s) : HistoryIn s' s' := by
  have hold : HistoryIn s s' := hs.mono h
  have hext : Extends s s' := h.extends
  cases h with
  | entry check =>
      simp only [checkEntry, bind_eq_ok_iff, require_eq_ok_iff] at check
      obtain ⟨⟨⟩, hnonzero, ⟨⟩, -, ⟨⟩, htransaction, ⟨⟩, -, hasset⟩ := check
      exact { hold with
        entries := forall_mem_concat hold.entries ⟨hnonzero, htransaction, hasset⟩ }
  | creditGrantEntry check =>
      obtain ⟨linked, hnew⟩ := checkCreditGrantEntry_ok check
      exact { hold with
        lineage := forall_mem_concat hold.lineage
          ⟨linked, hext.linked hnew.linkedRows, hnew.entryAsset, hnew.transactionAsset⟩ }
  | creditGrant check =>
      simp only [checkCreditGrant, bind_eq_ok_iff, require_eq_ok_iff] at check
      obtain ⟨⟨⟩, -, ⟨⟩, -, ⟨⟩, -, ⟨⟩, -, ⟨⟩, -, ⟨⟩, haccount, -⟩ := check
      exact { hold with grants := forall_mem_concat hold.grants haccount }
  | holdEntry check =>
      simp only [checkHoldEntry, bind_eq_ok_iff, require_eq_ok_iff] at check
      obtain ⟨⟨⟩, -, ⟨⟩, -, ⟨⟩, -, ⟨⟩, haccount, -⟩ := check
      exact { hold with holdEntries := forall_mem_concat hold.holdEntries haccount }
  | allocation check =>
      obtain ⟨g, he, hold', hnew⟩ := checkCreditGrantHoldAllocation_ok check
      exact { hold with
        allocations := forall_mem_concat hold.allocations
          ⟨g, he, hext.allocationLink (allocationLink_of_accepted hnew)⟩ }
  | _ => exact { hold with }

theorem RowStep.intact (h : RowStep now s s') (hs : Intact s) : Intact s' :=
  ⟨h.tableKeys hs.keys, h.history hs.history⟩

end RowSteps

section Edits

variable {s s' : Db}

/-- The rows a lineage row links to stay, its account up to columns that nothing here
reads. -/
theorem Edited.linked (h : Edited s s') (hs' : TableKeys s') (hreferences : References s')
    {l : CreditGrantEntry} {linked : LinkedRows} (hl : l ∈ s.creditGrantEntries)
    (hlinked : Linked s l linked) (hasset : OneAsset linked) :
    ∃ account, account.assetId = linked.account.assetId ∧
      Linked s' l { linked with account } ∧ OneAsset { linked with account } := by
  have hentry : linked.entry ∈ s.entries := mem_of_lookup hlinked.entry
  have hid : linked.entry.id = l.entryId := key_of_lookup hlinked.entry
  have hlineage : s.hasLineage linked.entry.id = true := hasLineage_of_mem hl hid
  have hentry' : s'.entry? l.entryId = some linked.entry := by
    rw [← hid]
    exact lookup_key hs'.entries (h.entries _ hentry hlineage)
  have htid : linked.transaction.id = linked.entry.transactionId :=
    key_of_lookup hlinked.transaction
  have htransaction : linked.transaction ∈ s'.transactions := by
    refine h.transactions _ (mem_of_lookup hlinked.transaction) ?_
    exact hasLineageEntry_of_mem hentry hlineage htid
  obtain ⟨account, hmem, haid, haccount⟩ :=
    h.accounts _ hentry hlineage _ hlinked.account
  have hgrant : linked.grant ∈ s'.creditGrants := by
    rw [h.creditGrants]
    exact mem_of_lookup hlinked.grant
  have haccount' : s'.account? linked.entry.accountId = some account := by
    have hkey : account.id = linked.entry.accountId :=
      haid.trans (key_of_lookup hlinked.account)
    rw [← hkey]
    exact lookup_key hs'.accounts hmem
  -- the scope of the account is that of the grant, by its foreign key
  have hscope := hreferences.grantAccount _ hgrant
  rw [Db.hasAccount, hlinked.grantAccount, ← hlinked.entryAccount, haccount', Option.any_some,
    decide_eq_true_eq, hlinked.grantTenant, hlinked.grantLedger] at hscope
  refine ⟨account, haccount, ?_, ?_⟩
  · exact { hlinked with
      grant := by
        rw [Db.creditGrant?, h.creditGrants]
        exact hlinked.grant
      entry := hentry'
      transaction := by
        rw [← htid]
        exact lookup_key hs'.transactions htransaction
      account := haccount'
      accountTenant := hscope.1
      accountLedger := hscope.2 }
  · exact ⟨hasset.1.trans haccount.symm, hasset.2.trans haccount.symm⟩

/-- A transaction with lineage keeps the entry that carries it. -/
theorem Edited.hasLineageEntry (h : Edited s s') (id : Uuid) (hid : s.hasLineageEntry id = true) :
    s'.hasLineageEntry id = true := by
  obtain ⟨e, he, hcondition⟩ := List.any_eq_true.mp hid
  obtain ⟨htransaction, hlineage⟩ := of_decide_eq_true hcondition
  refine List.any_eq_true.mpr ⟨e, h.entries e he hlineage, decide_eq_true ⟨htransaction, ?_⟩⟩
  rw [Db.hasLineage, h.creditGrantEntries]
  exact hlineage

/-- The hold entry that an allocation is for has an allocation. -/
theorem hasAllocation_of_link {a : CreditGrantHoldAllocation} {g : CreditGrant} {he : HoldEntry}
    (ha : a ∈ s.creditGrantHoldAllocations) (hlink : AllocationLink s a g he) :
    s.hasAllocation he = true := by
  obtain ⟨-, hid, htenant⟩ := hlink.stored
  exact List.any_eq_true.mpr ⟨a, ha, decide_eq_true ⟨htenant.symm, hid.symm⟩⟩

/-- An allocated hold entry stays with its allocation. -/
theorem Edited.allocationLink (h : Edited s s') (hs' : TableKeys s')
    {a : CreditGrantHoldAllocation} {g : CreditGrant} {he : HoldEntry}
    (ha : a ∈ s.creditGrantHoldAllocations) (hlink : AllocationLink s a g he) :
    AllocationLink s' a g he := by
  obtain ⟨hhe, hid, htenant⟩ := hlink.stored
  have hmem : he ∈ s'.holdEntries := h.holdEntries he hhe (hasAllocation_of_link ha hlink)
  refine { hlink with
    grant := ?_
    holdEntry := ?_
    hold := ?_ }
  · rw [Db.creditGrant?, h.creditGrants]
    exact hlink.grant
  · have hlookup : s'.holdEntry? a.holdEntryId = some he := by
      rw [← hid]
      exact lookup_key hs'.holdEntries hmem
    rw [Db.allocationHoldEntry?, hlookup, Option.filter_some, if_pos (decide_eq_true htenant)]
  · rw [Db.hold?, h.holds]
    exact hlink.hold

theorem exec_intact (hs : Intact s) {e : Edit} (h : e.exec s = .ok s') : Intact s' := by
  have hedited : Edited s s' := exec_edited hs.keys.toKeys h
  have hkeys : TableKeys s' := exec_tableKeys hs.keys h
  rcases hedited.references with rfl | hreferences
  · exact hs
  refine ⟨hkeys, ?_, ?_, hreferences.grantAccount, ?_, ?_⟩
  · intro e he
    exact ⟨hedited.nonzero (fun e he => (hs.history.entries e he).1) e he,
      hreferences.entryTransaction e he, hreferences.entryAsset e he⟩
  · intro l hl
    rw [hedited.creditGrantEntries] at hl
    obtain ⟨linked, hlinked, hasset⟩ := hs.history.lineage l hl
    obtain ⟨account, -, hlinked', hasset'⟩ :=
      hedited.linked hkeys hreferences hl hlinked hasset
    exact ⟨_, hlinked', hasset'⟩
  · exact hreferences.holdEntryAccount
  · intro a ha
    rw [hedited.allocations] at ha
    obtain ⟨g, he, hlink⟩ := hs.history.allocations a ha
    exact ⟨g, he, hedited.allocationLink hkeys ha hlink⟩

end Edits

/-! ## Runs of any writes -/

section Runs

variable {s s' : Db} {now : Timestamp}

theorem change_intact {c : Change} (hs : Intact s) (h : c.exec now s = .ok s') : Intact s' := by
  cases c with
  | statement stmt =>
      exact (exec_steps h).preserves (fun _ _ => RowStep.intact) hs
  | edit e => exact exec_intact hs h

theorem runChanges_intact {steps : List (Timestamp × Change)} (hs : Intact s)
    (h : runChanges s steps = .ok s') : Intact s' :=
  run_invariant hs (fun _ _ _ hexec hmid => change_intact hmid hexec) h

/-- What each statement of an open transaction does. -/
theorem openTransaction_exec_eq_ok_iff {tx tx' : OpenTransaction} {c : Change} :
    tx.exec now c = .ok tx' ↔ c.exec now tx.db = .ok tx'.db ∧
      tx'.updatedHoldEntries = tx.updatedHoldEntries ++ c.updatedHoldEntries tx.db := by
  simp only [OpenTransaction.exec, bind_eq_ok_iff, pure_eq_ok_iff]
  constructor
  · intro h
    obtain ⟨db, hdb, rfl⟩ := h
    exact ⟨hdb, rfl⟩
  · intro h
    exact ⟨tx'.db, h.1, by rw [← h.2]⟩

/-- A commit runs the statements and then the deferred triggers. -/
theorem commitChanges_ok {tx : ChangeTransaction} (h : commitChanges s tx = .ok s') :
    ∃ final, tx.changes.foldlM (OpenTransaction.exec tx.now) ⟨s, []⟩ = .ok final ∧
      final.db = s' ∧ (∀ c ∈ tx.changes, c.deferred tx.now s' = .ok ()) ∧
      ∀ he ∈ final.updatedHoldEntries, assertGrantHoldAllocated s' he = .ok () := by
  simp only [commitChanges, bind_eq_ok_iff, checkEach_eq_ok_iff, pure_eq_ok_iff] at h
  obtain ⟨final, hfinal, ⟨⟩, hdeferred, ⟨⟩, hupdated, rfl⟩ := h
  exact ⟨final, hfinal, rfl, hdeferred, hupdated⟩

/-- The statements of an open transaction as a run of statements. -/
theorem runChanges_of_open {changes : List Change} {tx tx' : OpenTransaction}
    (h : changes.foldlM (OpenTransaction.exec now) tx = .ok tx') :
    runChanges tx.db (changes.map fun c => (now, c)) = .ok tx'.db := by
  induction changes generalizing tx with
  | nil =>
      rw [foldlM_nil_eq_ok_iff] at h
      rw [h]
      exact run_nil_eq_ok_iff.mpr rfl
  | cons c rest ih =>
      obtain ⟨mid, hmid, hrest⟩ := foldlM_cons_eq_ok_iff.mp h
      exact foldlM_cons_eq_ok_iff.mpr
        ⟨mid.db, (openTransaction_exec_eq_ok_iff.mp hmid).1, ih hrest⟩

theorem runChanges_of_commit {tx : ChangeTransaction} (h : commitChanges s tx = .ok s') :
    runChanges s (tx.changes.map fun c => (tx.now, c)) = .ok s' := by
  obtain ⟨final, hfinal, rfl, -, -⟩ := commitChanges_ok h
  exact runChanges_of_open hfinal

theorem commitChanges_intact {tx : ChangeTransaction} (hs : Intact s)
    (h : commitChanges s tx = .ok s') : Intact s' :=
  runChanges_intact hs (runChanges_of_commit h)

theorem replayChanges_intact {log : List ChangeTransaction} (h : replayChanges log = .ok s) :
    Intact s :=
  run_invariant Intact.empty (fun _ _ _ hcommit hmid => commitChanges_intact hmid hcommit) h

end Runs

/-! ## Small runs with edits -/

namespace Sample

/-- A log without edits, as one of any statements. -/
def changes (log : List DbTransaction) : List ChangeTransaction :=
  log.map fun tx => ⟨tx.now, tx.statements.map .statement⟩

/-- The state a log leaves, for logs that are accepted. -/
def stateAfterChanges (log : List ChangeTransaction) : Db :=
  (replayChanges log).toOption.getD Db.empty

theorem replayChanges_stateAfter {log : List ChangeTransaction}
    (h : (replayChanges log).toBool = true) : replayChanges log = .ok (stateAfterChanges log) :=
  eq_ok_getD h Db.empty

/-- The last database transaction of an accepted log. -/
theorem commitChanges_stateAfter {log : List ChangeTransaction} {tx : ChangeTransaction}
    (h : (replayChanges (log ++ [tx])).toBool = true) :
    replayChanges log = .ok (stateAfterChanges log) ∧
      commitChanges (stateAfterChanges log) tx = .ok (stateAfterChanges (log ++ [tx])) := by
  obtain ⟨mid, hlog, hcommit⟩ := run_concat_eq_ok_iff.mp (replayChanges_stateAfter h)
  have hmid : stateAfterChanges log = mid := by
    unfold stateAfterChanges replayChanges
    rw [hlog]
    rfl
  rw [hmid]
  exact ⟨hlog, hcommit⟩

end Sample

end LuxLedger.Credit
