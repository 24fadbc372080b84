/-
  Credit/WellFormed.lean --- what holds of every row in every reachable state.

  `Keys` are the unique indexes, `Links` are the rows that a row refers to and what
  was checked of them when it was stored.  Both are invariants of the row steps, so
  they hold in the middle of a database transaction as well as at commit.
-/
import LuxLedger.Credit.Steps

set_option autoImplicit false

namespace LuxLedger.Credit

open LuxLedger.Schema LuxLedger.Relational

/-! ## Unique indexes -/

/-- The unique indexes that reads rely on. -/
structure Keys (s : Db) : Prop where
  accounts : UniqueKey Account.id s.accounts
  transactions : UniqueKey Transaction.id s.transactions
  relations : UniqueKey
    (fun t : Transaction => (t.tenantId, t.relationType, t.relatedTransactionId))
    (s.transactions.filter fun t => t.relatedTransactionId.isSome)
  entries : UniqueKey Entry.id s.entries
  creditGrants : UniqueKey CreditGrant.id s.creditGrants
  grantTransactions : UniqueKey CreditGrant.transactionId s.creditGrants
  creditGrantEntries : UniqueKey (fun l : CreditGrantEntry => (l.grantId, l.entryId))
    s.creditGrantEntries
  holds : UniqueKey Hold.id s.holds
  holdEntries : UniqueKey HoldEntry.id s.holdEntries
  allocations : UniqueKey CreditGrantHoldAllocation.id s.creditGrantHoldAllocations

theorem Keys.empty : Keys Db.empty := by
  constructor <;> exact List.nodup_nil

theorem RowStep.keys {now : Timestamp} {s s' : Db} (h : RowStep now s s') (hs : Keys s) :
    Keys s' := by
  cases h with
  | asset _ => exact { hs with }
  | account check =>
      simp only [checkAccount, bind_eq_ok_iff, require_eq_ok_iff] at check
      obtain ⟨⟨⟩, -, ⟨⟩, hfresh, -⟩ := check
      exact { hs with accounts := hs.accounts.append_singleton hfresh }
  | @transaction new check =>
      simp only [checkTransaction, bind_eq_ok_iff, require_eq_ok_iff] at check
      obtain ⟨⟨⟩, -, ⟨⟩, hfresh, ⟨⟩, hrelation, -⟩ := check
      refine { hs with
        transactions := hs.transactions.append_singleton hfresh
        relations := ?_ }
      change UniqueKey _ ((s.transactions ++ [new]).filter _)
      rw [List.filter_append]
      cases hrelated : new.relatedTransactionId with
      | none =>
          have hnone : ([new].filter fun t => t.relatedTransactionId.isSome) = [] := by
            simp [hrelated]
          rw [hnone, List.append_nil]
          exact hs.relations
      | some related =>
          have hone : ([new].filter fun t => t.relatedTransactionId.isSome) = [new] := by
            simp [hrelated]
          rw [hone]
          refine hs.relations.append_singleton ?_
          intro t ht hkey
          rw [Prod.mk.injEq, Prod.mk.injEq] at hkey
          exact hrelation (by rw [hrelated]; rfl) t (List.mem_filter.mp ht).1 hkey
  | entry check =>
      simp only [checkEntry, bind_eq_ok_iff, require_eq_ok_iff] at check
      obtain ⟨⟨⟩, -, ⟨⟩, hfresh, -⟩ := check
      exact { hs with entries := hs.entries.append_singleton hfresh }
  | creditGrant check =>
      simp only [checkCreditGrant, bind_eq_ok_iff, require_eq_ok_iff] at check
      obtain ⟨⟨⟩, -, ⟨⟩, -, ⟨⟩, -, ⟨⟩, hid, ⟨⟩, htransaction, -⟩ := check
      exact { hs with
        creditGrants := hs.creditGrants.append_singleton hid
        grantTransactions := hs.grantTransactions.append_singleton htransaction }
  | creditGrantEntry check =>
      obtain ⟨linked, hnew⟩ := checkCreditGrantEntry_ok check
      refine { hs with creditGrantEntries := hs.creditGrantEntries.append_singleton ?_ }
      intro l hl hkey
      exact hnew.fresh l hl (Prod.mk.inj hkey)
  | hold check =>
      simp only [checkHoldInsert, bind_eq_ok_iff, require_eq_ok_iff] at check
      obtain ⟨⟨⟩, -, ⟨⟩, -, ⟨⟩, hfresh, -⟩ := check
      exact { hs with holds := hs.holds.append_singleton hfresh }
  | holdEntry check =>
      simp only [checkHoldEntry, bind_eq_ok_iff, require_eq_ok_iff] at check
      obtain ⟨⟨⟩, -, ⟨⟩, hfresh, -⟩ := check
      exact { hs with holdEntries := hs.holdEntries.append_singleton hfresh }
  | allocation check =>
      obtain ⟨g, he, hold, hnew⟩ := checkCreditGrantHoldAllocation_ok check
      exact { hs with allocations := hs.allocations.append_singleton hnew.freshId }
  | capacityVersion _ => exact { hs with }
  | @holdChange old new found _ _ =>
      refine { hs with holds := hs.holds.map ?_ }
      intro h _
      by_cases hid : h.id = new.id
      · rw [if_pos hid, hid]
      · rw [if_neg hid]

/-! ## Links between rows -/

/-- What a lineage row keeps of its checks: the part that no later row affects. -/
def KindLink (l : CreditGrantEntry) (linked : LinkedRows) : Prop :=
  match l.kind with
  | .issuance =>
      linked.entry.signedAmountMinor < 0 ∧ l.amountMinor = linked.entryAmount ∧
        linked.transaction.id = linked.grant.transactionId
  | .reversal =>
      0 < linked.entry.signedAmountMinor ∧ l.amountMinor = linked.entryAmount ∧
        ∀ id ∈ linked.transaction.relatedTransactionId, id = linked.grant.transactionId
  | .consumption => 0 < linked.entry.signedAmountMinor
  | .compensation =>
      linked.entry.signedAmountMinor < 0 ∧
        (∀ r ∈ linked.transaction.relationType, r = .reversal) ∧
        linked.transaction.relatedTransactionId.isSome
  | .expiration =>
      0 < linked.entry.signedAmountMinor ∧ l.amountMinor = linked.entryAmount ∧
        linked.grant.expiresAt.isSome
  | .refund =>
      0 < linked.entry.signedAmountMinor ∧ l.amountMinor = linked.entryAmount ∧
        linked.transaction.holdId = none ∧ linked.transaction.relationType = none

theorem kindLink_of_accepted {now : Timestamp} {s : Db} {l : CreditGrantEntry}
    {linked : LinkedRows} (h : AcceptedLineage now s l linked) : KindLink l linked := by
  have hkind := h.kind
  unfold AcceptedKind at hkind
  unfold KindLink
  cases hk : l.kind with
  | issuance =>
      simp only [hk] at hkind
      exact ⟨hkind.1, hkind.2.1, hkind.2.2.1⟩
  | reversal =>
      simp only [hk] at hkind
      exact ⟨hkind.1, hkind.2.1, hkind.2.2.2.1⟩
  | consumption =>
      simp only [hk] at hkind
      exact hkind.1
  | compensation =>
      simp only [hk] at hkind
      exact ⟨hkind.1, hkind.2.1, hkind.2.2.1⟩
  | expiration =>
      simp only [hk] at hkind
      obtain ⟨hside, hamount, ⟨expiry, hexpiry, -⟩, -⟩ := hkind
      exact ⟨hside, hamount, Option.isSome_iff_exists.mpr ⟨expiry, hexpiry⟩⟩
  | refund =>
      simp only [hk] at hkind
      exact ⟨hkind.1, hkind.2.1, hkind.2.2.1, hkind.2.2.2.1⟩

/-- The rows of a lineage row and what was checked of them. -/
structure LineageLink (s : Db) (l : CreditGrantEntry) (linked : LinkedRows) : Prop where
  rows : Linked s l linked
  amountPos : 0 < l.amountMinor
  amountLe : l.amountMinor ≤ linked.entryAmount
  kind : KindLink l linked

/-- The rows of an allocation and what was checked of them. -/
structure AllocationLink (s : Db) (a : CreditGrantHoldAllocation) (g : CreditGrant)
    (he : HoldEntry) : Prop where
  grant : s.creditGrant? a.grantId = some g
  grantTenant : g.tenantId = a.tenantId
  grantAccount : g.accountId = a.accountId
  holdEntry : s.allocationHoldEntry? a = some he
  holdEntryAccount : he.accountId = a.accountId
  hold : ∃ h, s.hold? he.holdId = some h ∧ h.tenantId = he.tenantId
  debit : 0 < he.signedAmountMinor
  amountPos : 0 < a.amountMinor

section AllocationLink

variable {s : Db} {a : CreditGrantHoldAllocation} {g : CreditGrant} {he : HoldEntry}

/-- The hold entry an allocation links to is stored under the id the allocation has. -/
theorem AllocationLink.stored (h : AllocationLink s a g he) :
    he ∈ s.holdEntries ∧ he.id = a.holdEntryId ∧ he.tenantId = a.tenantId := by
  have hfound := h.holdEntry
  simp only [Db.allocationHoldEntry?, Option.filter_eq_some_iff, decide_eq_true_eq] at hfound
  exact ⟨mem_of_lookup hfound.1, key_of_lookup hfound.1, hfound.2⟩

theorem AllocationLink.allocationHoldId (h : AllocationLink s a g he) :
    s.allocationHoldId a = some he.holdId := by
  rw [Db.allocationHoldId, h.holdEntry, Option.map_some]

/-- And it is the one row with that id. -/
theorem AllocationLink.unique (h : AllocationLink s a g he)
    (hkey : UniqueKey HoldEntry.id s.holdEntries) {he' : HoldEntry} (hmem : he' ∈ s.holdEntries)
    (hid : a.holdEntryId = he'.id) : he = he' := by
  obtain ⟨hstored, hsame, -⟩ := h.stored
  exact List.inj_on_of_nodup_map hkey hstored hmem (hsame.trans hid)

end AllocationLink

/-- The CHECK constraints a stored hold satisfies. -/
structure HoldChecked (h : Hold) : Prop where
  originalPos : 0 < h.originalAmountMinor
  remainingNonneg : 0 ≤ h.remainingAmountMinor
  stateAmount : (h.state = .held ∧ 0 < h.remainingAmountMinor) ∨
    ((h.state = .applied ∨ h.state = .voided) ∧ h.remainingAmountMinor = 0)

theorem holdChecked_of_check {h : Hold} (hcheck : checkHold h = .ok ()) : HoldChecked h := by
  simp only [checkHold, bind_eq_ok_iff, require_eq_ok_iff] at hcheck
  obtain ⟨⟨⟩, hamounts, hstate⟩ := hcheck
  exact ⟨hamounts.1, hamounts.2.1, hstate⟩

/-- The rows of `rows` refer to rows of `s`. -/
structure LinksIn (rows s : Db) : Prop where
  transactions : ∀ t ∈ rows.transactions,
    (t.relatedTransactionId = none ∧ t.relationType = none) ∨
      (t.relatedTransactionId.isSome ∧ t.relationType.isSome)
  entries : ∀ e ∈ rows.entries, e.signedAmountMinor ≠ 0 ∧
    (s.transaction? e.transactionId).isSome ∧ (s.account? e.accountId).isSome
  creditGrants : ∀ g ∈ rows.creditGrants, (s.account? g.accountId).isSome ∧
    s.grantEnabled g.tenantId g.accountId = true
  lineage : ∀ l ∈ rows.creditGrantEntries, ∃ linked, LineageLink s l linked
  holds : ∀ h ∈ rows.holds, HoldChecked h
  holdEntries : ∀ he ∈ rows.holdEntries,
    (s.hold? he.holdId).isSome ∧ (s.account? he.accountId).isSome
  allocations : ∀ a ∈ rows.creditGrantHoldAllocations, ∃ g he, AllocationLink s a g he

/-- Every row refers to rows of the same database. -/
abbrev Links (s : Db) : Prop := LinksIn s s

theorem Links.empty : Links Db.empty := by
  constructor <;> intro _ h <;> cases h

theorem isSome_mono {α β : Type} {x : Option α} {y : Option β}
    (h : ∀ a, x = some a → ∃ b, y = some b) (hx : x.isSome) : y.isSome := by
  obtain ⟨a, ha⟩ := Option.isSome_iff_exists.mp hx
  exact Option.isSome_iff_exists.mpr (h a ha)

section Extends

variable {rows s s' : Db} (h : Extends s s')
include h

theorem Extends.lineageLink {l : CreditGrantEntry} {linked : LinkedRows}
    (hl : LineageLink s l linked) : LineageLink s' l linked :=
  { hl with rows := h.linked hl.rows }

theorem Extends.allocationLink {a : CreditGrantHoldAllocation} {g : CreditGrant} {he : HoldEntry}
    (ha : AllocationLink s a g he) : AllocationLink s' a g he := by
  obtain ⟨hold, hfound, htenant⟩ := ha.hold
  obtain ⟨hold', hfound', hidentity, -⟩ := h.holds _ _ hfound
  refine { ha with
    grant := h.creditGrant? ha.grant
    holdEntry := h.allocationHoldEntry? ha.holdEntry
    hold := ⟨hold', hfound', ?_⟩ }
  exact (congrArg HoldIdentity.tenantId hidentity).trans htenant

/-- Rows that are there are never lost, so a link once made holds on. -/
theorem LinksIn.mono (hs : LinksIn rows s) : LinksIn rows s' := by
  refine { hs with
    entries := ?_
    creditGrants := ?_
    lineage := ?_
    holdEntries := ?_
    allocations := ?_ }
  · intro e he
    obtain ⟨hnonzero, htransaction, haccount⟩ := hs.entries e he
    exact ⟨hnonzero, isSome_mono (fun t ht => ⟨t, h.transaction? ht⟩) htransaction,
      isSome_mono (fun a ha => ⟨a, h.account? ha⟩) haccount⟩
  · intro g hg
    obtain ⟨haccount, henabled⟩ := hs.creditGrants g hg
    exact ⟨isSome_mono (fun a ha => ⟨a, h.account? ha⟩) haccount,
      (h.grantEnabled haccount).trans henabled⟩
  · intro l hl
    obtain ⟨linked, hlinked⟩ := hs.lineage l hl
    exact ⟨linked, h.lineageLink hlinked⟩
  · intro he hhe
    obtain ⟨hhold, haccount⟩ := hs.holdEntries he hhe
    refine ⟨isSome_mono (fun hold hfound => ?_) hhold,
      isSome_mono (fun a ha => ⟨a, h.account? ha⟩) haccount⟩
    obtain ⟨hold', hfound', -⟩ := h.holds _ _ hfound
    exact ⟨hold', hfound'⟩
  · intro a ha
    obtain ⟨g, he, hlink⟩ := hs.allocations a ha
    exact ⟨g, he, h.allocationLink hlink⟩

end Extends

theorem forall_mem_concat {α : Type} {p : α → Prop} {xs : List α} {a : α}
    (hxs : ∀ x ∈ xs, p x) (ha : p a) : ∀ x ∈ xs ++ [a], p x := by
  intro x hx
  rcases List.mem_append.mp hx with hx | hx
  · exact hxs x hx
  · rw [List.mem_singleton.mp hx]
    exact ha

theorem lineageLink_of_accepted {now : Timestamp} {s : Db} {l : CreditGrantEntry}
    {linked : LinkedRows} (h : AcceptedLineage now s l linked) : LineageLink s l linked :=
  ⟨h.linkedRows, h.amountPos, h.amountLe, kindLink_of_accepted h⟩

theorem allocationLink_of_accepted {now : Timestamp} {s : Db}
    {a : CreditGrantHoldAllocation} {g : CreditGrant} {he : HoldEntry} {hold : Hold}
    (h : AcceptedAllocation now s a g he hold) : AllocationLink s a g he := by
  have hhold := h.hold
  simp only [Db.holdEntryHold?, Option.filter_eq_some_iff, decide_eq_true_eq] at hhold
  exact ⟨h.grant, h.grantTenant, h.grantAccount, h.holdEntry, h.holdEntryAccount,
    ⟨hold, hhold.1, hhold.2⟩, h.debit, h.amountPos⟩

theorem RowStep.links {now : Timestamp} {s s' : Db} (h : RowStep now s s') (hs : Links s) :
    Links s' := by
  have hold : LinksIn s s' := LinksIn.mono h.extends hs
  have hext : Extends s s' := h.extends
  cases h with
  | asset _ => exact { hold with }
  | account _ => exact { hold with }
  | transaction check =>
      simp only [checkTransaction, bind_eq_ok_iff, require_eq_ok_iff] at check
      obtain ⟨⟨⟩, hpair, -⟩ := check
      exact { hold with transactions := forall_mem_concat hold.transactions hpair }
  | entry check =>
      simp only [checkEntry, bind_eq_ok_iff, require_eq_ok_iff] at check
      obtain ⟨⟨⟩, hnonzero, ⟨⟩, -, ⟨⟩, htransaction, ⟨⟩, haccount, -⟩ := check
      exact { hold with
        entries := forall_mem_concat hold.entries ⟨hnonzero, htransaction, haccount⟩ }
  | @creditGrant new check =>
      simp only [checkCreditGrant, bind_eq_ok_iff, require_eq_ok_iff] at check
      obtain ⟨⟨⟩, henabled, -⟩ := check
      rw [requireGrantEnabledAccount, raiseIf_eq_ok_iff, ne_eq, Truth.of_eq_true_iff, not_not]
        at henabled
      refine { hold with creditGrants := forall_mem_concat hold.creditGrants ⟨?_, henabled⟩ }
      have haccount : (s.account? new.accountId).isSome := by
        unfold Db.grantEnabled at henabled
        cases hfound : s.account? new.accountId with
        | none =>
            rw [hfound] at henabled
            cases henabled
        | some a => rfl
      exact haccount
  | creditGrantEntry check =>
      obtain ⟨linked, hnew⟩ := checkCreditGrantEntry_ok check
      exact { hold with
        lineage := forall_mem_concat hold.lineage
          ⟨linked, hext.lineageLink (lineageLink_of_accepted hnew)⟩ }
  | hold check =>
      simp only [checkHoldInsert, bind_eq_ok_iff, require_eq_ok_iff] at check
      obtain ⟨⟨⟩, -, ⟨⟩, hchecked, -⟩ := check
      exact { hold with
        holds := forall_mem_concat hold.holds (holdChecked_of_check hchecked) }
  | holdEntry check =>
      simp only [checkHoldEntry, bind_eq_ok_iff, require_eq_ok_iff] at check
      obtain ⟨⟨⟩, -, ⟨⟩, -, ⟨⟩, hhold, ⟨⟩, haccount, -⟩ := check
      exact { hold with holdEntries := forall_mem_concat hold.holdEntries ⟨hhold, haccount⟩ }
  | allocation check =>
      obtain ⟨g, he, hold', hnew⟩ := checkCreditGrantHoldAllocation_ok check
      exact { hold with
        allocations := forall_mem_concat hold.allocations
          ⟨g, he, hext.allocationLink (allocationLink_of_accepted hnew)⟩ }
  | capacityVersion _ => exact { hold with }
  | @holdChange old new found transition check =>
      refine { hold with holds := ?_ }
      intro h hh
      obtain ⟨h₀, hh₀, rfl⟩ := List.mem_map.mp hh
      by_cases hid : h₀.id = new.id
      · rw [if_pos hid]
        exact holdChecked_of_check check
      · rw [if_neg hid]
        exact hold.holds h₀ hh₀

/-- The linked entry is the one entry with the row's id. -/
theorem linked_entry_eq {s : Db} (hs : Keys s) {l : CreditGrantEntry} {linked : LinkedRows}
    (h : Linked s l linked) {e : Entry} (he : e ∈ s.entries) (hid : l.entryId = e.id) :
    linked.entry = e := by
  have hfound : s.entry? e.id = some e := lookup_key hs.entries he
  exact Option.some.inj ((hid ▸ h.entry).symm.trans hfound)

/-- The linked grant is the one grant with the row's id. -/
theorem linked_grant_eq {s : Db} (hs : Keys s) {l : CreditGrantEntry} {linked : LinkedRows}
    (h : Linked s l linked) {g : CreditGrant} (hg : g ∈ s.creditGrants) (hid : l.grantId = g.id) :
    linked.grant = g := by
  have hfound : s.creditGrant? g.id = some g := lookup_key hs.creditGrants hg
  exact Option.some.inj ((hid ▸ h.grant).symm.trans hfound)

/-- The linked transaction is the one transaction with the entry's id. -/
theorem linked_transaction_eq {s : Db} (hs : Keys s) {l : CreditGrantEntry} {linked : LinkedRows}
    (h : Linked s l linked) {t : Transaction} (ht : t ∈ s.transactions)
    (hid : linked.entry.transactionId = t.id) : linked.transaction = t := by
  have hfound : s.transaction? t.id = some t := lookup_key hs.transactions ht
  exact Option.some.inj ((hid ▸ h.transaction).symm.trans hfound)

/-- Keys and links together. -/
structure WellFormed (s : Db) : Prop where
  keys : Keys s
  links : Links s

theorem WellFormed.empty : WellFormed Db.empty := ⟨Keys.empty, Links.empty⟩

theorem RowStep.wellFormed {now : Timestamp} {s s' : Db} (h : RowStep now s s')
    (hs : WellFormed s) : WellFormed s' :=
  ⟨h.keys hs.keys, h.links hs.links⟩

theorem RowSteps.wellFormed {now : Timestamp} {s s' : Db} (h : RowSteps now s s')
    (hs : WellFormed s) : WellFormed s' :=
  h.preserves (fun _ _ => RowStep.wellFormed) hs

/-! ## The part that edits keep as well -/

/-- Each row of the history of a grant links to rows of the same database. -/
structure HistoryLinks (s : Db) : Prop where
  amounts : ∀ l ∈ s.creditGrantEntries, 0 < l.amountMinor
  lineage : ∀ l ∈ s.creditGrantEntries, ∃ linked, Linked s l linked
  allocations : ∀ a ∈ s.creditGrantHoldAllocations, ∃ g he, AllocationLink s a g he

/-- Keys and the links of the history. -/
structure Grounded (s : Db) : Prop where
  keys : Keys s
  links : HistoryLinks s

section Grounded

variable {now : Timestamp} {s s' : Db}

theorem LinksIn.history (hs : Links s) : HistoryLinks s := by
  refine ⟨?_, ?_, hs.allocations⟩
  · intro l hl
    obtain ⟨linked, hlink⟩ := hs.lineage l hl
    exact hlink.amountPos
  · intro l hl
    obtain ⟨linked, hlink⟩ := hs.lineage l hl
    exact ⟨linked, hlink.rows⟩

theorem WellFormed.grounded (hs : WellFormed s) : Grounded s := ⟨hs.keys, hs.links.history⟩

/-- Links of rows that are kept are kept. -/
theorem HistoryLinks.mono (hs : HistoryLinks s) (hext : Extends s s')
    (hrows : s'.creditGrantEntries = s.creditGrantEntries)
    (hallocations : s'.creditGrantHoldAllocations = s.creditGrantHoldAllocations) :
    HistoryLinks s' := by
  constructor
  · rw [hrows]
    exact hs.amounts
  · intro l hl
    rw [hrows] at hl
    obtain ⟨linked, hlinked⟩ := hs.lineage l hl
    exact ⟨linked, hext.linked hlinked⟩
  · intro a ha
    rw [hallocations] at ha
    obtain ⟨g, he, hlink⟩ := hs.allocations a ha
    exact ⟨g, he, hext.allocationLink hlink⟩

theorem RowStep.historyLinks (h : RowStep now s s') (hs : HistoryLinks s) : HistoryLinks s' := by
  have hext : Extends s s' := h.extends
  have hframe := hs.mono hext
  cases h with
  | creditGrantEntry check =>
      obtain ⟨linked, hnew⟩ := checkCreditGrantEntry_ok check
      constructor
      · exact forall_mem_concat hs.amounts hnew.amountPos
      · refine forall_mem_concat (fun l hl => ?_) ⟨linked, hext.linked hnew.linkedRows⟩
        obtain ⟨linked', hlinked⟩ := hs.lineage l hl
        exact ⟨linked', hext.linked hlinked⟩
      · intro a ha
        obtain ⟨g, he, hlink⟩ := hs.allocations a ha
        exact ⟨g, he, hext.allocationLink hlink⟩
  | allocation check =>
      obtain ⟨g, he, hold, hnew⟩ := checkCreditGrantHoldAllocation_ok check
      refine ⟨hs.amounts, ?_, ?_⟩
      · intro l hl
        obtain ⟨linked, hlinked⟩ := hs.lineage l hl
        exact ⟨linked, hext.linked hlinked⟩
      · refine forall_mem_concat (fun a ha => ?_)
          ⟨g, he, hext.allocationLink (allocationLink_of_accepted hnew)⟩
        obtain ⟨g', he', hlink⟩ := hs.allocations a ha
        exact ⟨g', he', hext.allocationLink hlink⟩
  | asset _ | account _ | transaction _ | entry _ | creditGrant _ | hold _ | holdEntry _
  | capacityVersion _ | holdChange _ _ _ =>
      exact hframe rfl rfl

theorem RowStep.grounded (h : RowStep now s s') (hs : Grounded s) : Grounded s' :=
  ⟨h.keys hs.keys, h.historyLinks hs.links⟩

theorem RowSteps.grounded (h : RowSteps now s s') (hs : Grounded s) : Grounded s' :=
  h.preserves (fun _ _ => RowStep.grounded) hs

end Grounded

theorem replay_wellFormed {log : List DbTransaction} {s : Db} (h : replay log = .ok s) :
    WellFormed s :=
  replay_invariant WellFormed.empty (fun _ _ _ => RowStep.wellFormed) h

end LuxLedger.Credit
