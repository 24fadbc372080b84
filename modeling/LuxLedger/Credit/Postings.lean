/-
  Credit/Postings.lean --- a debit of a prepaid account and its lineage.

  Spending, refunding, expiring and capturing all post one debit against another account
  and attribute it to grants of the account.  The transaction and its entries are always
  accepted; each share of the debit is checked by itself, and at commit the shares have to
  make up the debit.

  Sources: `validate_credit_grant_entry` (0007), `assert_grant_entry_attributed` (0002).
-/
import LuxLedger.Credit.FreeCapacity

set_option autoImplicit false

namespace LuxLedger.Credit

open LuxLedger.Schema LuxLedger.Relational

/-! ## The posting -/

/-- A debit of an account against another one, with the ids that are drawn for it. -/
structure Posting where
  transactionId : Uuid
  debitId : Uuid
  creditId : Uuid
  account : Account
  counter : Account
  amountMinor : Int
  effectiveAt : Timestamp
  holdId : Option Uuid
  deriving DecidableEq, Repr

namespace Posting

/-- The transaction of the posting. -/
def transaction (p : Posting) : Transaction where
  id := p.transactionId
  tenantId := p.account.tenantId
  ledgerId := p.account.ledgerId
  holdId := p.holdId
  relatedTransactionId := none
  relationType := none
  assetId := p.account.assetId
  effectiveAt := p.effectiveAt

/-- The debit of the account. -/
def debit (p : Posting) : Entry where
  id := p.debitId
  tenantId := p.account.tenantId
  transactionId := p.transactionId
  accountId := p.account.id
  signedAmountMinor := p.amountMinor
  assetId := p.account.assetId

/-- The credit of the other account. -/
def credit (p : Posting) : Entry where
  id := p.creditId
  tenantId := p.account.tenantId
  transactionId := p.transactionId
  accountId := p.counter.id
  signedAmountMinor := - p.amountMinor
  assetId := p.account.assetId

/-- The lineage of a share of the debit: the grant and its amount. -/
def lineage (p : Posting) (kind : CreditGrantEntryKind) (share : Uuid × Int) :
    CreditGrantEntry where
  tenantId := p.account.tenantId
  ledgerId := p.account.ledgerId
  accountId := p.account.id
  grantId := share.1
  entryId := p.debitId
  kind := kind
  amountMinor := share.2

/-- The accounts are there, and the hold if the posting carries one; the ids are new. -/
structure Fresh (p : Posting) (s : Db) : Prop where
  account : p.account ∈ s.accounts
  counter : p.counter ∈ s.accounts
  amountPos : 0 < p.amountMinor
  transactionNew : ∀ t ∈ s.transactions, t.id ≠ p.transactionId
  debitNew : ∀ e ∈ s.entries, e.id ≠ p.debitId
  creditNew : ∀ e ∈ s.entries, e.id ≠ p.creditId
  distinct : p.debitId ≠ p.creditId
  hold : ∀ id ∈ p.holdId, (s.hold? id).isSome

/-- And the account is prepaid, the other one not. -/
structure Possible (p : Posting) (s : Db) : Prop extends Fresh p s where
  enabled : p.account.grantEnabled = true
  other : p.counter.grantEnabled = false

end Posting

/-! ## The validator on a share -/

/-- Everything that is checked of a lineage row. -/
theorem checkCreditGrantEntry_eq_ok_iff {now : Timestamp} {s : Db} {new : CreditGrantEntry} :
    checkCreditGrantEntry now s new = .ok () ↔ ∃ linked, AcceptedLineage now s new linked := by
  refine ⟨checkCreditGrantEntry_ok, ?_⟩
  rintro ⟨linked, h⟩
  have hvalid : validateCreditGrantEntry s now new = .ok () := by
    rw [validateCreditGrantEntry, linkedRows?_eq_some_iff.mpr h.linkedRows]
    simp only [bind_eq_ok_iff, raiseIf_eq_ok_iff, exists_const, ne_eq, Truth.of_eq_true_iff,
      not_or, not_not, gt_iff_lt, not_lt]
    exact ⟨⟨h.entryAsset, h.transactionAsset, h.amountLe⟩, validateKind_eq_ok_iff.mpr h.kind⟩
  simp only [checkCreditGrantEntry, bind_eq_ok_iff, require_eq_ok_iff, exists_const]
  refine ⟨(), hvalid, h.amountPos, h.fresh, h.oneIssuance, h.oneReversal, ?_, ?_⟩
  · rw [h.linkedRows.grant]
    exact decide_eq_true ⟨h.linkedRows.grantTenant, h.linkedRows.grantLedger,
      h.linkedRows.grantAccount⟩
  · rw [h.linkedRows.entry]
    exact decide_eq_true ⟨h.linkedRows.entryTenant, h.linkedRows.entryAccount⟩

section Posting

variable {s : Db} {p : Posting} {now : Timestamp} {kind : CreditGrantEntryKind}
  {share : Uuid × Int} {before shares : List (Uuid × Int)}

/-- The tables once the transaction and its entries are in. -/
def Posting.posted (p : Posting) (s : Db) : Db :=
  { s with
    transactions := s.transactions ++ [p.transaction]
    entries := s.entries ++ [p.debit, p.credit] }

/-- The rows that the lineage of a share links to. -/
def Posting.linked (p : Posting) (g : CreditGrant) : LinkedRows :=
  ⟨g, p.debit, p.transaction, p.account⟩

/-- And some of the lineage. -/
def Posting.attributed (p : Posting) (s : Db) (kind : CreditGrantEntryKind)
    (shares : List (Uuid × Int)) : Db :=
  Db.withLineage (p.posted s) (shares.map (p.lineage kind))

theorem transaction?_posted (hp : p.Fresh s) :
    (p.posted s).transaction? p.transactionId = some p.transaction := by
  have hnone : s.transaction? p.transactionId = none := lookup_eq_none_iff.mpr hp.transactionNew
  exact (lookup_append_of_none hnone).trans (by simp [lookup, Posting.transaction])

theorem entry?_posted (hp : p.Fresh s) : Db.entry? (p.posted s) p.debitId = some p.debit := by
  have hnone : s.entry? p.debitId = none := lookup_eq_none_iff.mpr hp.debitNew
  exact (lookup_append_of_none hnone).trans (by simp [lookup, Posting.debit])

/-- The lineage of a share links to the posting and to a grant of the account. -/
theorem linked_attributed_iff (hs : Usable s) (hp : p.Possible s) {linked : LinkedRows} :
    Linked (p.attributed s kind before) (p.lineage kind share) linked ↔
      ∃ g ∈ s.creditGrants, linked = p.linked g ∧ g.id = share.1 ∧
        g.tenantId = p.account.tenantId ∧ g.accountId = p.account.id := by
  constructor
  · intro h
    obtain ⟨grant, entry, transaction, account⟩ := linked
    obtain rfl : p.debit = entry := Option.some.inj ((entry?_posted hp.toFresh).symm.trans h.entry)
    obtain rfl : p.transaction = transaction :=
      Option.some.inj ((transaction?_posted hp.toFresh).symm.trans h.transaction)
    obtain rfl : p.account = account :=
      Option.some.inj ((hs.account? hp.account).symm.trans h.account)
    exact ⟨grant, mem_of_lookup h.grant, rfl, key_of_lookup h.grant, h.grantTenant,
      h.grantAccount⟩
  · rintro ⟨g, hg, rfl, hid, htenant, haccount⟩
    exact
      { grant := by
          change s.creditGrant? share.1 = some g
          rw [← hid]
          exact hs.creditGrant? hg
        grantTenant := htenant
        grantLedger := hs.grant_ledger hp.account hg haccount
        grantAccount := haccount
        entry := entry?_posted hp.toFresh
        entryTenant := rfl
        entryAccount := rfl
        transaction := transaction?_posted hp.toFresh
        transactionTenant := rfl
        transactionLedger := rfl
        account := hs.account? hp.account
        accountTenant := rfl
        accountLedger := rfl }

/-- The check of a share, whatever shares are in already. -/
theorem checkLineage_iff (hs : Usable s) (hp : p.Possible s) (hissuance : kind ≠ .issuance)
    (hreversal : kind ≠ .reversal) :
    checkCreditGrantEntry now (p.attributed s kind before) (p.lineage kind share) = .ok () ↔
      (∀ b ∈ before, b.1 ≠ share.1) ∧ 0 < share.2 ∧ share.2 ≤ p.amountMinor ∧
        ∃ g ∈ s.creditGrants, g.id = share.1 ∧ g.tenantId = p.account.tenantId ∧
          g.accountId = p.account.id ∧ AcceptedKind (p.attributed s kind before) now
            (p.lineage kind share) (p.linked g) := by
  have hamount : |p.amountMinor| = p.amountMinor := abs_of_pos hp.amountPos
  rw [checkCreditGrantEntry_eq_ok_iff]
  constructor
  · rintro ⟨linked, h⟩
    obtain ⟨g, hg, rfl, hid, htenant, haccount⟩ :=
      (linked_attributed_iff hs hp).mp h.linkedRows
    have hle : share.2 ≤ |p.amountMinor| := h.amountLe
    refine ⟨fun b hb hsame => ?_, h.amountPos, hle.trans_eq hamount, g, hg, hid, htenant, haccount,
      h.kind⟩
    exact h.fresh (p.lineage kind b) (List.mem_append_right _ (List.mem_map_of_mem hb))
      ⟨hsame, rfl⟩
  · rintro ⟨hnew, hpos, hle, g, hg, hid, htenant, haccount, hkind⟩
    refine ⟨p.linked g, ?_⟩
    exact
      { linkedRows := (linked_attributed_iff hs hp).mpr ⟨g, hg, rfl, hid, htenant, haccount⟩
        entryAsset := rfl
        transactionAsset := rfl
        amountLe := hle.trans_eq hamount.symm
        kind := hkind
        amountPos := hpos
        fresh := by
          rintro l hl ⟨hgrant, hentry⟩
          rcases List.mem_append.mp hl with hl | hl
          · obtain ⟨linked, hlinked⟩ := hs.reserve.grounded.links.lineage l hl
            exact hp.debitNew linked.entry (mem_of_lookup hlinked.entry)
              ((key_of_lookup hlinked.entry).trans hentry)
          · obtain ⟨b, hb, rfl⟩ := List.mem_map.mp hl
            exact hnew b hb hgrant
        oneIssuance := fun h => absurd h hissuance
        oneReversal := fun h => absurd h hreversal }

/-! ## The database transaction -/

theorem exec_transaction (hs : Usable s) (hp : p.Fresh s) :
    (Statement.insertTransactions [p.transaction]).exec now s =
      .ok (s.addTransaction p.transaction) := by
  have hcheck : checkTransaction s p.transaction = .ok () := by
    simp only [checkTransaction, bind_eq_ok_iff, require_eq_ok_iff, exists_const]
    refine ⟨Or.inl ⟨rfl, rfl⟩, hp.transactionNew, fun hrelated => ?_, hp.hold,
      hs.accounts _ hp.account⟩
    cases hrelated
  simp only [Statement.exec, bind_eq_ok_iff, insertEach_cons_eq_ok_iff]
  refine ⟨_, ⟨hcheck, rfl⟩, (), ?_, rfl⟩
  simp [checkRelatedTransaction, Posting.transaction]

theorem exec_entries (hs : Usable s) (hp : p.Fresh s) :
    (Statement.insertEntries [p.debit, p.credit]).exec now (s.addTransaction p.transaction) =
      .ok (p.posted s) := by
  have hnone : s.transaction? p.transactionId = none := lookup_eq_none_iff.mpr hp.transactionNew
  have hfound : lookup Transaction.id (s.transactions ++ [p.transaction]) p.transactionId =
      some p.transaction := transaction?_posted hp
  have hasset : s.hasAsset p.account.tenantId p.account.assetId = true := hs.accounts _ hp.account
  have haccount : (s.account? p.account.id).isSome := by
    rw [hs.account? hp.account]
    rfl
  have hcounter : (s.account? p.counter.id).isSome := by
    rw [hs.account? hp.counter]
    rfl
  have hdebit : checkEntry (s.addTransaction p.transaction) p.debit = .ok () := by
    simp only [checkEntry, bind_eq_ok_iff, require_eq_ok_iff, exists_const]
    exact ⟨hp.amountPos.ne', hp.debitNew, Option.isSome_iff_exists.mpr ⟨_, hfound⟩, haccount,
      hasset⟩
  have hcredit : checkEntry ((s.addTransaction p.transaction).addEntry p.debit) p.credit =
      .ok () := by
    simp only [checkEntry, bind_eq_ok_iff, require_eq_ok_iff, exists_const]
    exact ⟨neg_ne_zero.mpr hp.amountPos.ne', forall_mem_concat hp.creditNew hp.distinct,
      Option.isSome_iff_exists.mpr ⟨_, hfound⟩, hcounter, hasset⟩
  rw [Statement.exec, insertEach_cons_eq_ok_iff, insertEach_cons_eq_ok_iff]
  refine ⟨hdebit, hcredit, ?_⟩
  simp [insertEach, Db.addEntry, Db.addTransaction, Posting.posted]

theorem posted_usable (hs : Usable s) (hp : p.Fresh s) : Usable (p.posted s) :=
  (hs.statement (@exec_transaction s p 0 hs hp)).statement (@exec_entries s p 0 hs hp)

/-- The posting itself is always accepted: what follows it decides. -/
theorem exec_posting (hs : Usable s) (hp : p.Fresh s) (rest : List Statement) :
    (DbTransaction.mk now (.insertTransactions [p.transaction] ::
      .insertEntries [p.debit, p.credit] :: rest)).exec s =
        rest.foldlM (fun s stmt => stmt.exec now s) (p.posted s) := by
  simp only [DbTransaction.exec, List.foldlM_cons]
  rw [exec_transaction hs hp]
  change (Statement.insertEntries _).exec now (s.addTransaction p.transaction) >>= _ = _
  rw [exec_entries hs hp]
  rfl

/-- The lineage is stored exactly if its shares are of different grants and each is good. -/
theorem exec_lineage_iff (hs : Usable s) (hp : p.Possible s) {Good : Uuid × Int → Prop}
    (hgood : ∀ before share,
      checkCreditGrantEntry now (p.attributed s kind before) (p.lineage kind share) = .ok () ↔
        (∀ b ∈ before, b.1 ≠ share.1) ∧ Good share) :
    (∃ s', (Statement.insertCreditGrantEntries (shares.map (p.lineage kind))).exec now
      (p.posted s) = .ok s') ↔ UniqueKey Prod.fst shares ∧ ∀ share ∈ shares, Good share := by
  have hkeys : UniqueKey CreditGrantEntry.grantId (shares.map (p.lineage kind)) ↔
      UniqueKey Prod.fst shares := by
    unfold UniqueKey
    rw [List.map_map]
    rfl
  have hrows : (∃ stored, insertEach (checkCreditGrantEntry now) Db.addCreditGrantEntry
      (shares.map (p.lineage kind)) (p.posted s) = .ok stored) ↔
      UniqueKey CreditGrantEntry.grantId (shares.map (p.lineage kind)) ∧
        ∀ l ∈ shares.map (p.lineage kind), Good (l.grantId, l.amountMinor) := by
    refine insertEach_accepted_iff fun before l hbefore hl => ?_
    have hform : ∀ l' ∈ shares.map (p.lineage kind),
        p.lineage kind (l'.grantId, l'.amountMinor) = l' := by
      intro l' hl'
      obtain ⟨share, -, rfl⟩ := List.mem_map.mp hl'
      rfl
    have hmap : (before.map fun b => (b.grantId, b.amountMinor)).map (p.lineage kind) = before := by
      rw [List.map_map]
      exact (List.map_congr_left fun b hb => hform b (hbefore b hb)).trans (List.map_id _)
    have hcheck := hgood (before.map fun b => (b.grantId, b.amountMinor))
      (l.grantId, l.amountMinor)
    rw [Posting.attributed, hmap, hform l hl] at hcheck
    rw [foldl_addCreditGrantEntry, hcheck, List.forall_mem_map]
  constructor
  · rintro ⟨s', hexec⟩
    obtain ⟨stored, hstored, -⟩ := insertRows_eq_ok_iff.mp hexec
    obtain ⟨hdistinct, hall⟩ := hrows.mp ⟨stored, hstored⟩
    exact ⟨hkeys.mp hdistinct, fun share hshare => hall _ (List.mem_map_of_mem hshare)⟩
  · rintro ⟨hdistinct, hall⟩
    obtain ⟨stored, hstored⟩ := hrows.mpr ⟨hkeys.mpr hdistinct, List.forall_mem_map.mpr hall⟩
    exact insertLineage_accepted (posted_usable hs hp.toFresh).reserve (hkeys.mpr hdistinct) hstored

/-! ## The deferred triggers -/

section Posted

variable {s' : Db}

/-- Nothing is attributed to an entry that is not there. -/
theorem attributed_new (hs : Usable s) {id : Uuid} (hnew : ∀ e ∈ s.entries, e.id ≠ id) (t : Uuid) :
    sumWhere s.creditGrantEntries (fun l => l.tenantId = t ∧ l.entryId = id) (·.amountMinor) =
      0 := by
  refine sumWhere_eq_zero fun l hl hcondition => ?_
  obtain ⟨linked, hlinked⟩ := hs.reserve.grounded.links.lineage l hl
  exact absurd ((key_of_lookup hlinked.entry).trans (of_decide_eq_true hcondition).2)
    (hnew linked.entry (mem_of_lookup hlinked.entry))

theorem entryTransaction?_posted (hp : p.Fresh s)
    (htransactions : s'.transactions = s.transactions ++ [p.transaction]) {e : Entry}
    (htenant : e.tenantId = p.account.tenantId) (htransaction : e.transactionId = p.transactionId) :
    s'.entryTransaction? e = some p.transaction := by
  have hfound : s'.transaction? p.transactionId = some p.transaction := by
    rw [Db.transaction?, htransactions]
    exact transaction?_posted hp
  rw [Db.entryTransaction?, htransaction, hfound, htenant]
  simp [Posting.transaction]

/-- Without a hold there is none to check. -/
theorem checkPostingHold_posted (hp : p.Fresh s) (hnone : p.holdId = none)
    (htransactions : s'.transactions = s.transactions ++ [p.transaction]) {e : Entry}
    (htenant : e.tenantId = p.account.tenantId) (htransaction : e.transactionId = p.transactionId) :
    checkPostingHold s' e = .ok () := by
  have hhold : p.transaction.holdId = none := hnone
  rw [checkPostingHold, entryTransaction?_posted hp htransactions htenant htransaction,
    Option.bind_some, hhold]

theorem grantEnabled_posted (hs : Usable s) (haccounts : s'.accounts = s.accounts) {a : Account}
    (ha : a ∈ s.accounts) (t : Uuid) :
    s'.grantEnabled t a.id = decide (a.tenantId = t ∧ a.grantEnabled = true) := by
  have hfound : s'.account? a.id = some a := by
    rw [Db.account?, haccounts]
    exact hs.account? ha
  rw [Db.grantEnabled, hfound, Option.any_some]

/-- An entry on an account that is not prepaid needs no attribution. -/
theorem assertGrantEntryAttributed_other (hs : Usable s) (haccounts : s'.accounts = s.accounts)
    {a : Account} (ha : a ∈ s.accounts) (hoff : a.grantEnabled = false) {e : Entry}
    (haccount : e.accountId = a.id) : assertGrantEntryAttributed s' e = .ok () := by
  have hother : s'.grantEnabled e.tenantId e.accountId = false := by
    rw [haccount, grantEnabled_posted hs haccounts ha]
    simp [hoff]
  simp [assertGrantEntryAttributed, hother]

end Posted

/-- Tables with the posting and its lineage, whatever else was written. -/
structure Posting.StoredIn (p : Posting) (s : Db) (kind : CreditGrantEntryKind)
    (shares : List (Uuid × Int)) (s' : Db) : Prop where
  accounts : s'.accounts = s.accounts
  transactions : s'.transactions = s.transactions ++ [p.transaction]
  entries : s'.entries = s.entries ++ [p.debit, p.credit]
  lineage : s'.creditGrantEntries = s.creditGrantEntries ++ shares.map (p.lineage kind)

theorem storedIn_of_sameTables {s' : Db} (h : SameTables (p.attributed s kind shares) s') :
    p.StoredIn s kind shares s' := by
  obtain ⟨versions, rfl⟩ := h
  exact ⟨rfl, rfl, rfl, rfl⟩

section Deferred

variable {s' : Db} (hs : Usable s) (hp : p.Possible s) (hstored : p.StoredIn s kind shares s')
include hs hp hstored

/-- What is attributed to the debit are the shares. -/
theorem attributedAmount_debit : s'.attributedAmount p.debit = shareTotal shares := by
  have hnew : sumWhere (s.creditGrantEntries ++ shares.map (p.lineage kind))
      (fun l => l.tenantId = p.account.tenantId ∧ l.entryId = p.debitId) (·.amountMinor) =
        shareTotal shares := by
    rw [sumWhere_append, attributed_new hs hp.debitNew, zero_add, sumWhere_map]
    simp [sumWhere, shareTotal, Posting.lineage]
  rw [Db.attributedAmount, hstored.lineage]
  exact hnew

omit hs in
/-- The lineage carries the hold of the posting. -/
theorem lineageHoldId_stored (share : Uuid × Int) :
    s'.lineageHoldId (p.lineage kind share) = p.holdId := by
  have htransaction : s'.entryTransaction? p.debit = some p.transaction :=
    entryTransaction?_posted hp.toFresh hstored.transactions rfl rfl
  have hentry : s'.lineageEntry? (p.lineage kind share) = some p.debit := by
    have hfound : s'.entry? p.debitId = some p.debit := by
      rw [Db.entry?, hstored.entries]
      exact entry?_posted hp.toFresh
    change (s'.entry? p.debitId).filter _ = _
    rw [hfound]
    simp [Posting.debit, Posting.lineage]
  rw [Db.lineageHoldId, Db.lineageTransaction?, hentry, Option.bind_some, htransaction]
  rfl

theorem assertGrantEntryAttributed_debit_iff :
    assertGrantEntryAttributed s' p.debit = .ok () ↔ shareTotal shares = p.amountMinor := by
  have hamount := attributedAmount_debit hs hp hstored
  have htransaction : s'.entryTransaction? p.debit = some p.transaction :=
    entryTransaction?_posted hp.toFresh hstored.transactions rfl rfl
  have henabled : s'.grantEnabled p.debit.tenantId p.debit.accountId = true :=
    (grantEnabled_posted hs hstored.accounts hp.account _).trans (decide_eq_true ⟨rfl, hp.enabled⟩)
  have habs : |p.debit.signedAmountMinor| = p.amountMinor := abs_of_pos hp.amountPos
  have hrelation : p.transaction.relationType = none := rfl
  simp only [assertGrantEntryAttributed, henabled, htransaction, hamount, habs, Option.bind_some,
    hrelation, if_true, bind_eq_ok_iff, raiseIf_eq_ok_iff, exists_const, ne_eq,
    Truth.of_eq_true_iff, not_not, reduceCtorEq, if_false, and_true]

theorem assertGrantEntryAttributed_credit : assertGrantEntryAttributed s' p.credit = .ok () :=
  assertGrantEntryAttributed_other hs hstored.accounts hp.counter hp.other rfl

end Deferred

end Posting

end LuxLedger.Credit
