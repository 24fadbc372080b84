/-
  Credit/SettledHistory.lean --- UPDATE and DELETE on settled history.

  The triggers guard the rows that carry lineage or an allocation; the other legs of the
  same ledger transaction or hold are free.  So an accepted edit keeps what is settled
  exactly when the rows it writes post as much as the rows they replace: on grant-enabled
  accounts, in every ledger transaction with lineage, and account by account in every hold.
-/
import LuxLedger.Credit.EditSteps
import LuxLedger.Credit.HoldLegs
import LuxLedger.Credit.LiveReserve

set_option autoImplicit false

namespace LuxLedger.Credit

open LuxLedger.Schema LuxLedger.Relational

/-! ## What is settled -/

/-- The statement is an UPDATE or a DELETE on entries, transactions, hold entries, holds,
grants, lineage, allocations or capacity versions. -/
def editsHistory : Change → Bool
  | .statement (.updateHolds _) => true
  | .statement (.updateCapacityVersions _) => true
  | .statement (.deleteCapacityVersions _) => true
  | .statement _ => false
  | .edit (.assets _) => false
  | .edit (.accounts _) => false
  | .edit _ => true

/-- Such a statement, in a database transaction of its own. -/
structure HistoryEdit where
  now : Timestamp
  change : Change
  onHistory : editsHistory change = true
  deriving DecidableEq, Repr

/-- Commit an edit as a database transaction of its own. -/
def HistoryEdit.commit (s : Db) (edit : HistoryEdit) : Except SqlError Db :=
  commitChanges s ⟨edit.now, [edit.change]⟩

/-- An entry on a grant-enabled account that is not fully attributed. -/
structure Unattributed (s : Db) (e : Entry) : Prop where
  stored : e ∈ s.entries
  enabled : isGrantAccount s e.accountId = true
  amount : lineageAmount s e.id ≠ |e.signedAmountMinor|

/-- An entry with what it posts. -/
def entryPosting (e : Entry) : Uuid × Leg := (e.id, e.accountId, e.signedAmountMinor)

/-- What some of the entries post in a ledger transaction. -/
def postingsOf (transactionId : Uuid) (entries : List Entry) : List (Uuid × Leg) :=
  (entries.filter fun e => e.transactionId = transactionId).map entryPosting

/-- Afterwards full attribution, the entries of the ledger transactions with lineage and the
consistency of every hold are still what they were. -/
structure SettledKept (s s' : Db) : Prop where
  attributed : ∀ e', Unattributed s' e' → ∃ e, Unattributed s e ∧ e.id = e'.id
  transactions : ∀ t ∈ s.transactions, s.hasLineageEntry t.id = true →
    t ∈ s'.transactions ∧ s'.hasLineageEntry t.id = true ∧
      (postingsOf t.id s'.entries).Perm (postingsOf t.id s.entries)
  holds : ∀ tenantId holdId, assertGrantHoldConsistent s tenantId holdId = .ok () →
    assertGrantHoldConsistent s' tenantId holdId = .ok ()

theorem SettledKept.refl (s : Db) : SettledKept s s :=
  ⟨fun e' h => ⟨e', h, rfl⟩, fun _ ht hlineage => ⟨ht, hlineage, .refl _⟩, fun _ _ h => h⟩

theorem SettledKept.trans {s s' s'' : Db} (h : SettledKept s s') (h' : SettledKept s' s'') :
    SettledKept s s'' := by
  refine ⟨?_, ?_, fun t holdId hs => h'.holds t holdId (h.holds t holdId hs)⟩
  · intro e'' he''
    obtain ⟨e', he', hid'⟩ := h'.attributed e'' he''
    obtain ⟨e, he, hid⟩ := h.attributed e' he'
    exact ⟨e, he, hid.trans hid'⟩
  · intro t ht hlineage
    obtain ⟨hmem, hmore, hperm⟩ := h.transactions t ht hlineage
    obtain ⟨hmem', hmore', hperm'⟩ := h'.transactions t hmem hmore
    exact ⟨hmem', hmore', hperm'.trans hperm⟩

/-! ## What an edit exchanges -/

/-- The legs that some entries post for a hold. -/
def legsFor (s : Db) (hold : Hold) (entries : List Entry) : List Leg :=
  (entries.filter fun e => carriesHold s hold.tenantId hold.id e).map fun e =>
    (e.accountId, e.signedAmountMinor)

/-- The legs that some hold entries are for a hold. -/
def legsOf (hold : Hold) (holdEntries : List HoldEntry) : List Leg :=
  (holdEntries.filter fun he => he.tenantId = hold.tenantId ∧ he.holdId = hold.id).map fun he =>
    (he.accountId, he.signedAmountMinor)

/-- The entries that an edit writes post on grant-enabled accounts only where they did
before, as much as before in every ledger transaction with lineage, and as much for every
hold. -/
structure EntriesExchange (s : Db) (e : TableEdit Uuid Entry) : Prop where
  enabled : ∀ new ∈ e.given Entry.id s.entries, isGrantAccount s new.accountId = true →
    ∃ old ∈ e.taken Entry.id s.entries, old.id = new.id ∧ isGrantAccount s old.accountId = true
  transactions : ∀ t ∈ s.transactions, s.hasLineageEntry t.id = true →
    (postingsOf t.id (e.given Entry.id s.entries)).Perm
      (postingsOf t.id (e.taken Entry.id s.entries))
  holds : ForEachHold s s.holdEntries fun hold =>
    PostedExchange hold (s.originalLegs hold.tenantId hold.id)
      (s.postedLegs hold.tenantId hold.id) (legsFor s hold (e.taken Entry.id s.entries))
      (legsFor s hold (e.given Entry.id s.entries))

/-- The entries of the transactions that an edit writes. -/
def movedEntries (s : Db) (e : TableEdit Uuid Transaction) : List Entry :=
  s.entries.filter fun en => (s.transaction? en.transactionId).any (e.selects Transaction.id)

/-- The transaction of an entry as an edit leaves it. -/
def transactionAfter? (s : Db) (e : TableEdit Uuid Transaction) (en : Entry) :
    Option Transaction :=
  ((s.transaction? en.transactionId).bind (e.outcome Transaction.id)).filter fun t =>
    t.tenantId = en.tenantId

/-- The legs that some entries post for a hold once their transactions are edited. -/
def legsAfter (s : Db) (e : TableEdit Uuid Transaction) (hold : Hold) (entries : List Entry) :
    List Leg :=
  (entries.filter fun en => en.tenantId = hold.tenantId ∧
    (transactionAfter? s e en).any fun t => t.holdId = some hold.id).map fun en =>
    (en.accountId, en.signedAmountMinor)

/-- The entries of the transactions that an edit writes post as much for every hold. -/
def TransactionsExchange (s : Db) (e : TableEdit Uuid Transaction) : Prop :=
  ForEachHold s s.holdEntries fun hold =>
    PostedExchange hold (s.originalLegs hold.tenantId hold.id)
      (s.postedLegs hold.tenantId hold.id) (legsFor s hold (movedEntries s e))
      (legsAfter s e hold (movedEntries s e))

/-- The hold entries that an edit writes are as much for every hold that keeps an entry on a
grant-enabled account. -/
def HoldEntriesExchange (s : Db) (e : TableEdit Uuid HoldEntry) : Prop :=
  ForEachHold s (e.untouched HoldEntry.id s.holdEntries) fun hold =>
    OriginalExchange (s.postedLegs hold.tenantId hold.id)
      (legsOf hold (e.taken HoldEntry.id s.holdEntries))
      (legsOf hold (e.given HoldEntry.id s.holdEntries))

/-- What an edit of settled history has to meet. -/
def ExchangesEqual (s : Db) : Change → Prop
  | .edit (.entries e) => EntriesExchange s e
  | .edit (.transactions e) => TransactionsExchange s e
  | .edit (.holdEntries e) => HoldEntriesExchange s e
  | _ => True

/-! ## Statements that write nothing settled -/

section Plain

variable {s s' : Db} {now : Timestamp}

theorem commitChanges_singleton {c : Change} (h : commitChanges s ⟨now, [c]⟩ = .ok s') :
    c.exec now s = .ok s' ∧ c.deferred now s' = .ok () ∧
      ∀ he ∈ c.updatedHoldEntries s, assertGrantHoldAllocated s' he = .ok () := by
  obtain ⟨final, hfinal, rfl, hdeferred, hupdated⟩ := commitChanges_ok h
  obtain ⟨mid, hmid, hnil⟩ := foldlM_cons_eq_ok_iff.mp hfinal
  obtain rfl := foldlM_nil_eq_ok_iff.mp hnil
  obtain ⟨hexec, hrows⟩ := openTransaction_exec_eq_ok_iff.mp hmid
  rw [hrows, List.nil_append] at hupdated
  exact ⟨hexec, hdeferred c List.mem_cons_self, hupdated⟩

/-- An UPDATE of holds is checked for every hold it writes, and writes no other row. -/
theorem updateHolds_kept {changes : List (Uuid × Hold)}
    (h : (Statement.updateHolds changes).exec now s = .ok s')
    (hdeferred : (Statement.updateHolds changes).deferred now s' = .ok ()) :
    SettledKept s s' := by
  have hother : ∀ t holdId,
      (∀ w ∈ (Statement.updateHolds changes).writtenHolds, ¬ (w.tenantId = t ∧ w.id = holdId)) →
        s'.tenantHold? t holdId = s.tenantHold? t holdId := fun t holdId => tenantHold?_exec h
  obtain ⟨versions, rfl⟩ := exec_store h
  obtain ⟨holds, hstore⟩ := store_updateHolds (s := s) changes
  rw [hstore] at hother hdeferred ⊢
  refine ⟨fun e' he' => ⟨e', ⟨he'.stored, he'.enabled, he'.amount⟩, rfl⟩,
    fun _ ht hlineage => ⟨ht, hlineage, .refl _⟩, ?_⟩
  intro t holdId hconsistent
  by_cases hwritten : ∃ w ∈ (Statement.updateHolds changes).writtenHolds,
      w.tenantId = t ∧ w.id = holdId
  · obtain ⟨w, hw, rfl, rfl⟩ := hwritten
    obtain ⟨change, hchange, rfl⟩ := List.mem_map.mp hw
    exact checkEach_eq_ok_iff.mp hdeferred change hchange
  · have hsame := hother t holdId fun w hw heq => hwritten ⟨w, hw, heq⟩
    unfold assertGrantHoldConsistent at hconsistent ⊢
    rw [hsame]
    exact hconsistent

end Plain

/-! ## Edits of entries -/

section Entries

variable {s s' : Db} {e : TableEdit Uuid Entry}

theorem lineageAmount_eq_zero {en : Entry} (h : s.hasLineage en.id = false) :
    lineageAmount s en.id = 0 := by
  refine sumWhere_eq_zero fun l hl hcondition => ?_
  have hid : en.id = l.entryId := (of_decide_eq_true hcondition).symm
  rw [hasLineage_of_mem hl hid] at h
  cases h

/-- An entry without lineage is not attributed at all. -/
theorem unattributed_of_unlineaged (hs : Intact s) {en : Entry} (hen : en ∈ s.entries)
    (henabled : isGrantAccount s en.accountId = true)
    (h : s.hasLineage en.id = false) : Unattributed s en := by
  refine ⟨hen, henabled, ?_⟩
  rw [lineageAmount_eq_zero h]
  exact (abs_pos.mpr (hs.history.entries en hen).1).ne

theorem taken_unlineaged (hs : Intact s) (h : (Edit.entries e).exec s = .ok s') {old : Entry}
    (hold : old ∈ e.taken Entry.id s.entries) : s.hasLineage old.id = false := by
  obtain ⟨hmem, hsel⟩ := List.mem_filter.mp hold
  by_contra hlineage
  rw [Bool.not_eq_false] at hlineage
  rw [editEntries_not_selects hs.keys.toKeys h hmem hlineage] at hsel
  cases hsel

/-- No new value takes the id of an entry with lineage. -/
theorem given_unlineaged (hs : Intact s) (h : (Edit.entries e).exec s = .ok s') {new : Entry}
    (hnew : new ∈ e.given Entry.id s.entries) : s.hasLineage new.id = false := by
  by_contra hlineage
  rw [Bool.not_eq_false] at hlineage
  obtain ⟨l, hl, hid⟩ := List.any_eq_true.mp hlineage
  obtain ⟨linked, hlinked, -⟩ := hs.history.lineage l hl
  have hentry : linked.entry.id = new.id :=
    (key_of_lookup hlinked.entry).trans (of_decide_eq_true hid)
  have hmem : linked.entry ∈ s.entries := mem_of_lookup hlinked.entry
  have hkey : UniqueKey Entry.id (e.apply Entry.id s.entries) := by
    have hkeys := (exec_intact hs h).keys.entries
    obtain ⟨-, -, rfl, -⟩ := editEntries_ok h
    exact hkeys
  have hsel : e.selects Entry.id linked.entry = false :=
    editEntries_not_selects hs.keys.toKeys h hmem (hentry ▸ hlineage)
  exact TableEdit.given_key_ne hkey hmem hsel hnew hentry.symm

theorem editEntries_attributed_iff (hs : Intact s) (h : (Edit.entries e).exec s = .ok s') :
    (∀ e', Unattributed s' e' → ∃ e, Unattributed s e ∧ e.id = e'.id) ↔
      ∀ new ∈ e.given Entry.id s.entries, isGrantAccount s new.accountId = true →
        ∃ old ∈ e.taken Entry.id s.entries, old.id = new.id ∧
          isGrantAccount s old.accountId = true := by
  have hs' : Intact s' := exec_intact hs h
  have hgiven : ∀ new ∈ e.given Entry.id s.entries, s.hasLineage new.id = false :=
    fun _ hnew => given_unlineaged hs h hnew
  have htaken : ∀ old ∈ e.taken Entry.id s.entries, s.hasLineage old.id = false :=
    fun _ hold => taken_unlineaged hs h hold
  obtain ⟨-, -, rfl, -⟩ := editEntries_ok h
  constructor
  · intro hkept new hnew henabled
    have hmem : new ∈ e.apply Entry.id s.entries := TableEdit.mem_apply_iff.mpr (Or.inr hnew)
    obtain ⟨old, hold, hid⟩ :=
      hkept new (unattributed_of_unlineaged hs' hmem henabled (hgiven new hnew))
    refine ⟨old, List.mem_filter.mpr ⟨hold.stored, ?_⟩, hid, hold.enabled⟩
    by_contra hsel
    rw [Bool.not_eq_true] at hsel
    exact TableEdit.given_key_ne hs'.keys.entries hold.stored hsel hnew hid.symm
  · intro hall e' he'
    rcases TableEdit.mem_apply_iff.mp he'.stored with ⟨hold, -⟩ | hnew
    · exact ⟨e', ⟨hold, he'.enabled, he'.amount⟩, rfl⟩
    · obtain ⟨old, hold, hid, henabled⟩ := hall e' hnew he'.enabled
      have hmem : old ∈ s.entries := (List.mem_filter.mp hold).1
      exact ⟨old, unattributed_of_unlineaged hs hmem henabled (htaken old hold), hid⟩

/-- What the entries post is what the others post and what those written do. -/
theorem postingsOf_exchange (e : TableEdit Uuid Entry) (entries : List Entry) (id : Uuid) :
    (postingsOf id (e.apply Entry.id entries)).Perm (postingsOf id entries) ↔
      (postingsOf id (e.given Entry.id entries)).Perm (postingsOf id (e.taken Entry.id entries)) :=
  perm_exchange_iff (TableEdit.exchange e entries _ entryPosting)

theorem legsFor_exchange (s : Db) (hold : Hold) (e : TableEdit Uuid Entry) :
    (legsFor s hold (e.apply Entry.id s.entries) ++
        legsFor s hold (e.taken Entry.id s.entries)).Perm
      (s.postedLegs hold.tenantId hold.id ++ legsFor s hold (e.given Entry.id s.entries)) :=
  TableEdit.exchange e s.entries _ _

theorem editEntries_kept_iff (hs : Intact s) (h : (Edit.entries e).exec s = .ok s') :
    SettledKept s s' ↔ EntriesExchange s e := by
  have hattributed := editEntries_attributed_iff hs h
  have hlineaged := (exec_edited hs.keys.toKeys h).hasLineageEntry
  obtain ⟨-, -, rfl, -⟩ := editEntries_ok h
  have hholds := holdsKept_iff s ((Edit.entries e).store s) s.holdEntries
    (fun _ hhe => hhe) (fun _ _ => rfl) (fun _ _ => holdTouchesGrants_eq_true_iff)
    (fun hold hagree => legsAgree_posted_iff hagree (legsFor_exchange s hold e))
  constructor
  · intro hkept
    refine ⟨hattributed.mp hkept.attributed, fun t ht hlineage => ?_, hholds.mp hkept.holds⟩
    exact (postingsOf_exchange e s.entries t.id).mp (hkept.transactions t ht hlineage).2.2
  · intro hall
    refine ⟨hattributed.mpr hall.enabled,
      fun t ht hlineage => ⟨ht, hlineaged t.id hlineage, ?_⟩, hholds.mpr hall.holds⟩
    exact (postingsOf_exchange e s.entries t.id).mpr (hall.transactions t ht hlineage)

end Entries

/-! ## Edits of transactions -/

section Transactions

variable {s s' : Db} {e : TableEdit Uuid Transaction}

/-- An entry refers to what has become of its transaction: a deleted one has no entries. -/
theorem transaction?_after (hs : Intact s) (h : (Edit.transactions e).exec s = .ok s') {en : Entry}
    (hen : en ∈ s.entries) : ∃ t,
      (s.transaction? en.transactionId).bind (e.outcome Transaction.id) = some t ∧
        s'.transaction? (e.newKey Transaction.id s.transactions en.transactionId) =
          some (t.followTransaction (e.newKey Transaction.id s.transactions)) := by
  have hkey' : UniqueKey Transaction.id s'.transactions := (exec_intact hs h).keys.transactions
  obtain ⟨-, -, -, -, -, rfl, hreferences⟩ := editTransactions_ok h
  obtain ⟨t, ht⟩ := Option.isSome_iff_exists.mp (hs.history.entries en hen).2.1
  have hmem : t ∈ s.transactions := mem_of_lookup ht
  have hid : t.id = en.transactionId := key_of_lookup ht
  have hout : ∃ t', e.outcome Transaction.id t = some t' := by
    cases hnone : e.outcome Transaction.id t with
    | some t' => exact ⟨t', rfl⟩
    | none =>
        -- the entry is not renamed, and still refers to a transaction with that id
        have hsame : e.newKey Transaction.id s.transactions en.transactionId =
            en.transactionId := by
          have hfound : lookup Transaction.id s.transactions en.transactionId = some t := ht
          rw [TableEdit.newKey, hfound, Option.bind_some, hnone]
          rfl
        have hsome := hreferences.entryTransaction
          (en.followTransaction (e.newKey Transaction.id s.transactions)) (List.mem_map_of_mem hen)
        rw [Entry.followTransaction, hsame] at hsome
        obtain ⟨t', ht'⟩ := Option.isSome_iff_exists.mp hsome
        obtain ⟨q, hq, rfl⟩ := List.mem_map.mp (mem_of_lookup ht')
        rw [← hnone]
        exact TableEdit.exists_outcome hs.keys.transactions hmem hq
          ((key_of_lookup ht').trans hid.symm)
  obtain ⟨t', hout⟩ := hout
  rw [ht, Option.bind_some]
  refine ⟨t', hout, ?_⟩
  rw [← hid, TableEdit.newKey_of_mem hs.keys.transactions hmem hout]
  exact lookup_key hkey' (List.mem_map_of_mem (TableEdit.mem_apply.mpr ⟨t, hmem, hout⟩))

theorem carriesHold_after (hs : Intact s) (h : (Edit.transactions e).exec s = .ok s') {en : Entry}
    (hen : en ∈ s.entries) (t holdId : Uuid) :
    carriesHold s' t holdId (en.followTransaction (e.newKey Transaction.id s.transactions)) ↔
      en.tenantId = t ∧
        ((transactionAfter? s e en).any fun t => t.holdId = some holdId) = true := by
  obtain ⟨tx, hafter, hfound⟩ := transaction?_after hs h hen
  refine and_congr_right fun _ => ?_
  rw [transactionAfter?, hafter, Db.entryTransaction?, Entry.followTransaction, hfound]
  by_cases htenant : tx.tenantId = en.tenantId <;>
    simp [htenant, Transaction.followTransaction, Option.filter_some]

theorem postedLegs_after (hs : Intact s) (h : (Edit.transactions e).exec s = .ok s') (hold : Hold) :
    s'.postedLegs hold.tenantId hold.id = legsAfter s e hold s.entries := by
  have hentries : s'.entries =
      s.entries.map (Entry.followTransaction (e.newKey Transaction.id s.transactions)) := by
    obtain ⟨-, -, -, -, -, rfl, -⟩ := editTransactions_ok h
    rfl
  rw [Db.postedLegs, hentries, List.filter_map, List.map_map, legsAfter]
  refine congrArg (List.map _) (List.filter_congr fun en hen => ?_)
  exact decide_eq_decide.mpr (carriesHold_after hs h hen hold.tenantId hold.id)

/-- An entry whose transaction is left alone is posted for the hold it was posted for. -/
theorem legsAfter_unmoved (hs : Intact s) (e : TableEdit Uuid Transaction) (hold : Hold)
    {entries : List Entry} (hentries : ∀ en ∈ entries, en ∈ s.entries)
    (hunmoved : ∀ en ∈ entries, (s.transaction? en.transactionId).any (e.selects Transaction.id) =
      false) : legsAfter s e hold entries = legsFor s hold entries := by
  refine congrArg (List.map _) (List.filter_congr fun en hen => ?_)
  obtain ⟨t, ht⟩ := Option.isSome_iff_exists.mp (hs.history.entries en (hentries en hen)).2.1
  have hsel := hunmoved en hen
  rw [ht, Option.any_some] at hsel
  rw [transactionAfter?, ht, Option.bind_some, TableEdit.outcome_of_not_selects hsel]
  refine decide_eq_decide.mpr (and_congr_right fun _ => ?_)
  rw [Db.entryTransaction?, ht]

theorem legsFor_append (s : Db) (hold : Hold) (entries more : List Entry) :
    legsFor s hold (entries ++ more) = legsFor s hold entries ++ legsFor s hold more := by
  rw [legsFor, List.filter_append, List.map_append]
  rfl

theorem legsAfter_append (s : Db) (e : TableEdit Uuid Transaction) (hold : Hold)
    (entries more : List Entry) : legsAfter s e hold (entries ++ more) =
      legsAfter s e hold entries ++ legsAfter s e hold more := by
  rw [legsAfter, List.filter_append, List.map_append]
  rfl

/-- Only the entries of the transactions written may be posted for another hold. -/
theorem legsAfter_exchange (hs : Intact s) (e : TableEdit Uuid Transaction) (hold : Hold) :
    (legsAfter s e hold s.entries ++ legsFor s hold (movedEntries s e)).Perm
      (s.postedLegs hold.tenantId hold.id ++ legsAfter s e hold (movedEntries s e)) := by
  let unmoved := s.entries.filter fun en =>
    !(s.transaction? en.transactionId).any (e.selects Transaction.id)
  have hsplit : (unmoved ++ movedEntries s e).Perm s.entries := by
    have hrows := List.filter_append_perm
      (fun en => !(s.transaction? en.transactionId).any (e.selects Transaction.id)) s.entries
    simp only [Bool.not_not] at hrows
    exact hrows
  have hunmoved : legsAfter s e hold unmoved = legsFor s hold unmoved := by
    refine legsAfter_unmoved hs e hold (fun en hen => (List.mem_filter.mp hen).1) ?_
    intro en hen
    simpa using (List.mem_filter.mp hen).2
  have hafter : (legsFor s hold unmoved ++ legsAfter s e hold (movedEntries s e)).Perm
      (legsAfter s e hold s.entries) := by
    rw [← hunmoved, ← legsAfter_append]
    exact (hsplit.filter _).map _
  have hbefore : (legsFor s hold unmoved ++ legsFor s hold (movedEntries s e)).Perm
      (s.postedLegs hold.tenantId hold.id) := by
    rw [← legsFor_append]
    exact (hsplit.filter _).map _
  exact exchange_of_split hafter hbefore

/-- No other entry comes to a transaction with lineage, and none leaves it. -/
theorem postingsOf_after (hs : Intact s) (h : (Edit.transactions e).exec s = .ok s')
    {t : Transaction} (ht : t ∈ s.transactions) (hlineage : s.hasLineageEntry t.id = true) :
    postingsOf t.id s'.entries = postingsOf t.id s.entries := by
  have hkeys : UniqueKey Transaction.id s'.transactions := (exec_intact hs h).keys.transactions
  have hsel : e.selects Transaction.id t = false :=
    editTransactions_not_selects hs.keys.toKeys h ht hlineage
  obtain ⟨-, -, -, -, -, rfl, -⟩ := editTransactions_ok h
  have hkey' : UniqueKey Transaction.id (e.apply Transaction.id s.transactions) := by
    have hmapped : ((Edit.transactions e).store s).transactions.map Transaction.id =
        (e.apply Transaction.id s.transactions).map Transaction.id := List.map_map
    rw [UniqueKey, hmapped] at hkeys
    exact hkeys
  have hentries : ((Edit.transactions e).store s).entries = s.entries.map
      (Entry.followTransaction (e.newKey Transaction.id s.transactions)) := rfl
  rw [postingsOf, hentries, List.filter_map, List.map_map]
  refine congrArg (List.map _) (List.filter_congr fun en _ => ?_)
  exact decide_eq_decide.mpr (TableEdit.newKey_eq_iff hs.keys.transactions hkey' ht hsel)

theorem editTransactions_kept_iff (hs : Intact s) (h : (Edit.transactions e).exec s = .ok s') :
    SettledKept s s' ↔ TransactionsExchange s e := by
  have htransactions := (exec_edited hs.keys.toKeys h).transactions
  have hlineaged := (exec_edited hs.keys.toKeys h).hasLineageEntry
  have hpostings : ∀ t ∈ s.transactions, s.hasLineageEntry t.id = true →
      postingsOf t.id s'.entries = postingsOf t.id s.entries :=
    fun _ ht hlineage => postingsOf_after hs h ht hlineage
  have hlegs := postedLegs_after hs h
  obtain ⟨-, -, -, -, -, rfl, -⟩ := editTransactions_ok h
  have hholds := holdsKept_iff s ((Edit.transactions e).store s) s.holdEntries
    (fun _ hhe => hhe) (fun _ _ => rfl) (fun _ _ => holdTouchesGrants_eq_true_iff)
    (fun hold hagree => legsAgree_posted_iff hagree (hlegs hold ▸ legsAfter_exchange hs e hold))
  constructor
  · intro hkept
    exact hholds.mp hkept.holds
  · intro hall
    refine ⟨fun e' he' => ?_, fun t ht hlineage =>
      ⟨htransactions t ht hlineage, hlineaged t.id hlineage, ?_⟩, hholds.mpr hall⟩
    · -- an entry that follows its transaction is on the same account, with the same lineage
      obtain ⟨en, hen, rfl⟩ := List.mem_map.mp he'.stored
      exact ⟨en, ⟨hen, he'.enabled, he'.amount⟩, rfl⟩
    · rw [hpostings t ht hlineage]

end Transactions

/-! ## Edits of hold entries -/

section HoldEntries

variable {s s' : Db} {e : TableEdit Uuid HoldEntry}

/-- A new value has no allocations: those there are belong to rows left alone. -/
theorem given_unallocated (hs : Intact s) (h : (Edit.holdEntries e).exec s = .ok s')
    {new : HoldEntry} (hnew : new ∈ e.given HoldEntry.id s.holdEntries)
    {a : CreditGrantHoldAllocation} (ha : a ∈ s.creditGrantHoldAllocations) :
    a.holdEntryId ≠ new.id := by
  have hkeys := (exec_intact hs h).keys.holdEntries
  obtain ⟨g, he, hlink⟩ := hs.history.allocations a ha
  obtain ⟨hmem, hid, -⟩ := hlink.stored
  have hsel : e.selects HoldEntry.id he = false :=
    editHoldEntries_not_selects hs.keys.toKeys h hmem (hasAllocation_of_link ha hlink)
  obtain ⟨-, -, rfl, -⟩ := editHoldEntries_ok h
  rw [← hid]
  exact (TableEdit.given_key_ne hkeys hmem hsel hnew).symm

/-- So no new value can be on a grant-enabled account. -/
theorem given_not_enabled (hs : Intact s) (h : (Edit.holdEntries e).exec s = .ok s')
    {new : HoldEntry} (hnew : new ∈ e.given HoldEntry.id s.holdEntries)
    (hchecked : assertGrantHoldAllocated s' new = .ok ()) :
    s'.grantEnabled new.tenantId new.accountId = false := by
  by_contra henabled
  rw [Bool.not_eq_false] at henabled
  obtain ⟨hdebit, htotal⟩ := assertGrantHoldAllocated_ok hchecked henabled
  rw [← htotal, (exec_edited hs.keys.toKeys h).allocations] at hdebit
  obtain ⟨a, ha, hcondition⟩ := exists_of_sumWhere_pos hdebit
  exact given_unallocated hs h hnew ha (of_decide_eq_true hcondition).2

theorem legsOf_exchange (s : Db) (hold : Hold) (e : TableEdit Uuid HoldEntry) :
    (legsOf hold (e.apply HoldEntry.id s.holdEntries) ++
        legsOf hold (e.taken HoldEntry.id s.holdEntries)).Perm
      (s.originalLegs hold.tenantId hold.id ++
        legsOf hold (e.given HoldEntry.id s.holdEntries)) :=
  TableEdit.exchange e s.holdEntries _ _

theorem editHoldEntries_kept_iff (hs : Intact s) (h : (Edit.holdEntries e).exec s = .ok s')
    (hchecked : ∀ he ∈ e.given HoldEntry.id s.holdEntries,
      assertGrantHoldAllocated s' he = .ok ()) :
    SettledKept s s' ↔ HoldEntriesExchange s e := by
  have hgiven : ∀ new ∈ e.given HoldEntry.id s.holdEntries,
      s'.grantEnabled new.tenantId new.accountId = false :=
    fun new hnew => given_not_enabled hs h hnew (hchecked new hnew)
  obtain ⟨-, -, rfl, -⟩ := editHoldEntries_ok h
  have htouches : ∀ t holdId, ((Edit.holdEntries e).store s).holdTouchesGrants t holdId = true ↔
      ∃ he ∈ e.untouched HoldEntry.id s.holdEntries, he.tenantId = t ∧ he.holdId = holdId ∧
        s.grantEnabled he.tenantId he.accountId = true := by
    intro t holdId
    rw [holdTouchesGrants_eq_true_iff]
    constructor
    · intro htouch
      obtain ⟨he, hhe, htenant, hid, henabled⟩ := htouch
      rcases TableEdit.mem_apply_iff.mp hhe with ⟨hmem, hsel⟩ | hnew
      · exact ⟨he, List.mem_filter.mpr ⟨hmem, by simp [hsel]⟩, htenant, hid, henabled⟩
      · rw [hgiven he hnew] at henabled
        cases henabled
    · intro htouch
      obtain ⟨he, hhe, hscope⟩ := htouch
      obtain ⟨hmem, hsel⟩ := List.mem_filter.mp hhe
      exact ⟨he, TableEdit.mem_apply_of_not_selects hmem (by simpa using hsel), hscope⟩
  have hholds := holdsKept_iff s ((Edit.holdEntries e).store s)
    (e.untouched HoldEntry.id s.holdEntries) (fun _ hhe => (List.mem_filter.mp hhe).1)
    (fun _ _ => rfl) htouches
    (fun hold hagree => legsAgree_original_iff hagree (legsOf_exchange s hold e))
  constructor
  · intro hkept
    exact hholds.mp hkept.holds
  · intro hall
    exact ⟨fun e' he' => ⟨e', ⟨he'.stored, he'.enabled, he'.amount⟩, rfl⟩,
      fun _ ht hlineage => ⟨ht, hlineage, .refl _⟩, hholds.mpr hall⟩

end HoldEntries

/-! ## Any edit of settled history -/

theorem commit_kept_iff {s s' : Db} (hs : Intact s) {edit : HistoryEdit}
    (h : edit.commit s = .ok s') : SettledKept s s' ↔ ExchangesEqual s edit.change := by
  obtain ⟨now, c, hhistory⟩ := edit
  obtain ⟨hexec, hdeferred, hupdated⟩ := commitChanges_singleton h
  cases c with
  | statement stmt =>
      refine iff_of_true ?_ trivial
      cases stmt with
      | updateHolds changes =>
          have hrun : (Statement.updateHolds changes).exec now s = .ok s' := hexec
          exact updateHolds_kept hrun hdeferred
      | updateCapacityVersions targets =>
          exact rejectCreditGrantMutation_ok hexec ▸ SettledKept.refl s
      | deleteCapacityVersions targets =>
          exact rejectCreditGrantMutation_ok hexec ▸ SettledKept.refl s
      | _ => cases hhistory
  | edit e =>
      cases e with
      | assets e => cases hhistory
      | accounts e => cases hhistory
      | transactions e => exact editTransactions_kept_iff hs hexec
      | entries e => exact editEntries_kept_iff hs hexec
      | holdEntries e => exact editHoldEntries_kept_iff hs hexec hupdated
      | creditGrants e =>
          exact iff_of_true (rejectEdit_ok hexec ▸ SettledKept.refl s) trivial
      | creditGrantEntries e =>
          exact iff_of_true (rejectEdit_ok hexec ▸ SettledKept.refl s) trivial
      | deleteHolds ids =>
          exact iff_of_true (deleteHolds_ok hexec ▸ SettledKept.refl s) trivial
      | allocations e =>
          exact iff_of_true (rejectEdit_ok hexec ▸ SettledKept.refl s) trivial

/-- From any committed state, however many UPDATEs and DELETEs on settled history are
accepted: they keep it exactly when the rows that each of them writes post as much as those
they replace. -/
theorem settledKept_iff {log : List ChangeTransaction} {edits : List HistoryEdit} {s s' : Db}
    (h : replayChanges log = .ok s) (hedits : run HistoryEdit.commit s edits = .ok s') :
    KeptAlong HistoryEdit.commit SettledKept s edits ↔
      AlongRun HistoryEdit.commit (fun s edit => ExchangesEqual s edit.change) s edits := by
  refine keptAlong_iff (fun _ s _ => SettledKept.refl s) (fun _ _ _ => SettledKept.trans) ?_ hedits
  intro before mid edit mid' hbefore hcommit
  refine commit_kept_iff ?_ hcommit
  exact run_invariant (replayChanges_intact h)
    (fun _ _ _ hstep hs => commitChanges_intact hs hstep) hbefore

namespace Sample

/-- A grant of 100, of which a hold reserves 60. -/
def reserved : List ChangeTransaction :=
  changes [⟨0, accounts⟩, ⟨1, issuance 0 none⟩, ⟨2, reservation⟩]

/-- The funding leg of the hold takes another id. -/
def renameLeg : TableEdit Uuid HoldEntry :=
  .update [(501, ⟨502, 1, 400, 11, -60, 1⟩)] (by decide)

/-- The funding leg of the issuance is deleted. -/
def deleteFundingLeg : TableEdit Uuid Entry := .delete [201]

end Sample

/-- The leg under its new id is the same leg. -/
theorem settledKept_iff_sample :
    KeptAlong HistoryEdit.commit SettledKept (Sample.stateAfterChanges Sample.reserved)
      [⟨3, .edit (.holdEntries Sample.renameLeg), rfl⟩] := by
  have hrun : (replayChanges (Sample.reserved ++
      [⟨3, [.edit (.holdEntries Sample.renameLeg)]⟩])).toBool = true := by rfl
  obtain ⟨hlog, hcommit⟩ := Sample.commitChanges_stateAfter hrun
  have hedit : HistoryEdit.commit (Sample.stateAfterChanges Sample.reserved)
      ⟨3, .edit (.holdEntries Sample.renameLeg), rfl⟩ = .ok _ := hcommit
  refine (settledKept_iff hlog (foldlM_cons_eq_ok_iff.mpr
    ⟨_, hedit, foldlM_nil_eq_ok_iff.mpr rfl⟩)).mpr ?_
  rw [AlongRun, hedit]
  refine ⟨fun he _ _ hold _ _ => OriginalExchange.of_eq ?_, trivial⟩
  have htaken : Sample.renameLeg.taken HoldEntry.id
      (Sample.stateAfterChanges Sample.reserved).holdEntries = [⟨501, 1, 400, 11, -60, 1⟩] := by
    decide +kernel
  have hgiven : Sample.renameLeg.given HoldEntry.id
      (Sample.stateAfterChanges Sample.reserved).holdEntries = [⟨502, 1, 400, 11, -60, 1⟩] := by
    decide +kernel
  -- the columns that a leg is made of are the same in both rows
  rw [htaken, hgiven, legsOf, legsOf, List.filter_cons, List.filter_cons]
  split <;> rfl

/-- An entry without lineage is deleted from a ledger transaction with lineage: the issuance
is left with its credit alone. -/
theorem funding_leg_deleted :
    ∃ s', HistoryEdit.commit (Sample.stateAfterChanges Sample.reserved)
        ⟨3, .edit (.entries Sample.deleteFundingLeg), rfl⟩ = .ok s' ∧
      replayChanges Sample.reserved = .ok (Sample.stateAfterChanges Sample.reserved) ∧
      ¬ SettledKept (Sample.stateAfterChanges Sample.reserved) s' := by
  have hrun : (replayChanges (Sample.reserved ++
      [⟨3, [.edit (.entries Sample.deleteFundingLeg)]⟩])).toBool = true := by rfl
  obtain ⟨hlog, hcommit⟩ := Sample.commitChanges_stateAfter hrun
  refine ⟨_, hcommit, hlog, fun hkept => ?_⟩
  have hperm := (hkept.transactions ⟨100, 1, 5, none, none, none, 1, 1⟩ (by decide +kernel)
    (by decide +kernel)).2.2
  have hlength := hperm.length_eq
  revert hlength
  decide +kernel

end LuxLedger.Credit
