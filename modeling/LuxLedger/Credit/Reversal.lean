/-
  Credit/Reversal.lean --- reversals give back what the original took.

  Three checks meet here.  The row validator bounds what a reversal restores to a
  grant by what the original consumed of it; the deferred check on entries makes the
  credits of the reversal on an account equal the debits of the original; and
  attribution is full.  Summed over the grants of the account the bounds are
  equalities.  A unique index lets a transaction be reversed once, so restored
  capacity never exceeds consumed capacity.
-/
import LuxLedger.Credit.Attribution

set_option autoImplicit false

namespace LuxLedger.Credit

open LuxLedger.Schema LuxLedger.Relational

/-! ## Restored within consumed, reversal by reversal -/

/-- Of no grant does a transaction restore more than its original has consumed. -/
def CompensationBounded (s : Db) : Prop :=
  ∀ t g, ∀ reversal ∈ s.transactions,
    s.transactionLineage t g .compensation (some reversal.id) ≤
      s.transactionLineage t g .consumption reversal.relatedTransactionId

/-- Lineage refers to transactions that are there, so a fresh one has none. -/
theorem transactionLineage_fresh {s : Db} (hs : Links s) {t g : Uuid} {kind : CreditGrantEntryKind}
    {id : Uuid} (hfresh : ∀ x ∈ s.transactions, x.id ≠ id) :
    s.transactionLineage t g kind (some id) = 0 := by
  refine sumWhere_eq_zero fun l hl hcondition => ?_
  obtain ⟨linked, hlink⟩ := hs.lineage l hl
  simp only [decide_eq_true_eq, hlink.rows.lineageEntry, Option.any_some, Option.some.injEq]
    at hcondition
  have hid := key_of_lookup hlink.rows.transaction
  exact absurd (hid.trans hcondition.2.2.2.symm)
    (hfresh _ (mem_of_lookup hlink.rows.transaction))

theorem RowStep.compensationBounded {now : Timestamp} {s s' : Db} (h : RowStep now s s')
    (hs : WellFormed s) (hbounded : CompensationBounded s) : CompensationBounded s' := by
  have hext : Extends s s' := h.extends
  have hsame : s'.creditGrantEntries = s.creditGrantEntries → ∀ t g kind id,
      s'.transactionLineage t g kind id = s.transactionLineage t g kind id := by
    intro hrows t g kind id
    have hnil : s'.creditGrantEntries = s.creditGrantEntries ++ [] := by
      rw [hrows, List.append_nil]
    rw [transactionLineage_extends hs.links.history hext hnil, sumWhere_nil, add_zero]
  have hframe : s'.creditGrantEntries = s.creditGrantEntries →
      s'.transactions = s.transactions → CompensationBounded s' := by
    intro hrows htransactions t g reversal hreversal
    rw [hsame hrows, hsame hrows]
    exact hbounded t g reversal (htransactions ▸ hreversal)
  cases h with
  | @transaction new check =>
      simp only [checkTransaction, bind_eq_ok_iff, require_eq_ok_iff] at check
      obtain ⟨⟨⟩, -, ⟨⟩, hfresh, -⟩ := check
      intro t g reversal hreversal
      rw [hsame rfl, hsame rfl]
      rcases List.mem_append.mp hreversal with hold | hnew
      · exact hbounded t g reversal hold
      · rw [List.mem_singleton.mp hnew, transactionLineage_fresh hs.links hfresh]
        exact transactionLineage_nonneg hs.links.history t g _ _
  | @creditGrantEntry new check =>
      obtain ⟨linked, hnew⟩ := checkCreditGrantEntry_ok check
      have hrows := hext.linked hnew.linkedRows
      intro t g reversal hreversal
      have hle := hbounded t g reversal hreversal
      have hpos := hnew.amountPos
      rw [transactionLineage_extends hs.links.history hext rfl,
        transactionLineage_extends hs.links.history hext rfl, sumWhere_singleton,
        sumWhere_singleton]
      by_cases hcompensates : new.tenantId = t ∧ new.grantId = g ∧ new.kind = .compensation ∧
          linked.entry.transactionId = reversal.id
      · -- the validator compared with the consumption at this very moment
        obtain ⟨rfl, rfl, hkind, hid⟩ := hcompensates
        have htransaction : linked.transaction = reversal :=
          linked_transaction_eq hs.keys hnew.linkedRows hreversal hid
        have haccepted := hnew.kind
        simp only [AcceptedKind, hkind, htransaction] at haccepted
        have hbound := haccepted.2.2.2.2
        rw [if_pos (by simp [hrows.lineageEntry, hkind, hid]), if_neg (by simp [hkind])]
        omega
      · rw [if_neg (by
          simp only [decide_eq_true_eq, hrows.lineageEntry, Option.any_some, Option.some.injEq]
          tauto)]
        split <;> omega
  | asset _ | account _ | entry _ | creditGrant _ | hold _ | holdEntry _ | allocation _
  | capacityVersion _ | holdChange _ _ _ =>
      exact hframe rfl rfl

/-! ## Restored within consumed, in total -/

section Totals

variable {s : Db} (hs : WellFormed s)
include hs

/-- The reversals of a tenant. -/
def reversals (s : Db) (tenantId : Uuid) : List Transaction :=
  s.transactions.filter fun t => t.tenantId = tenantId ∧ t.relationType = some .reversal ∧
    t.relatedTransactionId.isSome

/-- The transaction that a lineage row posts to. -/
def postedBy (s : Db) (l : CreditGrantEntry) : Option Uuid :=
  (s.lineageEntry? l).map (·.transactionId)

/-- No transaction is reversed twice. -/
theorem reversals_related_unique (t : Uuid) :
    UniqueKey Transaction.relatedTransactionId (reversals s t) := by
  have hnodup : (reversals s t).Nodup := (hs.keys.transactions.of_map _).filter _
  refine hnodup.map_on fun x hx y hy hrelated => ?_
  obtain ⟨hx, hxkind⟩ := List.mem_filter.mp hx
  obtain ⟨hy, hykind⟩ := List.mem_filter.mp hy
  obtain ⟨hxtenant, hxtype, hxsome⟩ := of_decide_eq_true hxkind
  obtain ⟨hytenant, hytype, hysome⟩ := of_decide_eq_true hykind
  refine List.inj_on_of_nodup_map hs.keys.relations (List.mem_filter.mpr ⟨hx, hxsome⟩)
    (List.mem_filter.mpr ⟨hy, hysome⟩) ?_
  rw [hxtenant, hytenant, hxtype, hytype, hrelated]

/-- The relation columns are set together, so what the validator says of a compensating
transaction makes it a reversal. -/
theorem mem_reversals {l : CreditGrantEntry} {linked : LinkedRows} (hrows : Linked s l linked)
    (htype : ∀ r ∈ linked.transaction.relationType, r = .reversal)
    (hrelated : linked.transaction.relatedTransactionId.isSome) :
    linked.transaction ∈ reversals s l.tenantId := by
  have hmem := mem_of_lookup hrows.transaction
  refine List.mem_filter.mpr ⟨hmem, ?_⟩
  rcases hs.links.transactions _ hmem with ⟨hnone, -⟩ | ⟨-, hsome⟩
  · rw [hnone] at hrelated
    cases hrelated
  · obtain ⟨relation, hrelation⟩ := Option.isSome_iff_exists.mp hsome
    rw [htype relation hrelation] at hrelation
    simp [hrelation, hrelated, hrows.transactionTenant]

/-- What is restored to a grant, reversal by reversal. -/
theorem compensation_by_reversal (t g : Uuid) :
    s.lineageTotal t g .compensation = sumWhere (reversals s t) (fun _ => true)
      (fun r => s.transactionLineage t g .compensation (some r.id)) := by
  have hids : UniqueKey Transaction.id (reversals s t) :=
    hs.keys.transactions.sublist List.filter_sublist
  rw [Db.lineageTotal, ← sumWhere_groups (postedBy s) (fun r : Transaction => some r.id)
    (fun _ => true) hids.some]
  · refine sumWhere_congr (fun _ _ => rfl) fun r _ _ => ?_
    refine sumWhere_congr (fun l hl => ?_) fun _ _ _ => rfl
    obtain ⟨linked, hlink⟩ := hs.links.lineage l hl
    rw [postedBy, hlink.rows.lineageEntry, Option.map_some, ← Bool.decide_and]
    refine decide_eq_decide.mpr ?_
    rw [Option.any_some, decide_eq_true_eq]
    tauto
  · intro l hl hcompensation
    obtain ⟨linked, hlink⟩ := hs.links.lineage l hl
    obtain ⟨htenant, -, hkind⟩ := of_decide_eq_true hcompensation
    have hlinked := hlink.kind
    simp only [KindLink, hkind] at hlinked
    obtain ⟨-, htype, hrelated⟩ := hlinked
    refine ⟨linked.transaction, htenant ▸ mem_reversals hs hlink.rows htype hrelated, rfl, ?_⟩
    have hid : linked.transaction.id = linked.entry.transactionId :=
      key_of_lookup hlink.rows.transaction
    rw [postedBy, hlink.rows.lineageEntry, Option.map_some, hid]

/-- What the originals of reversals have consumed is part of what was consumed. -/
theorem reversed_consumption_le (t g : Uuid) :
    sumWhere (reversals s t) (fun _ => true)
        (fun r => s.transactionLineage t g .consumption r.relatedTransactionId) ≤
      s.lineageTotal t g .consumption := by
  have hsplit : sumWhere (reversals s t) (fun _ => true)
      (fun r => s.transactionLineage t g .consumption r.relatedTransactionId) =
      sumWhere s.creditGrantEntries (fun l => decide (l.tenantId = t ∧ l.grantId = g ∧
        l.kind = .consumption) &&
          (reversals s t).any fun r => r.relatedTransactionId = postedBy s l)
        (·.amountMinor) := by
    rw [← sumWhere_groups (postedBy s) Transaction.relatedTransactionId (fun _ => true)
      (reversals_related_unique hs t)]
    · refine sumWhere_congr (fun _ _ => rfl) fun r hr _ => ?_
      refine sumWhere_congr (fun l hl => ?_) fun _ _ _ => rfl
      obtain ⟨linked, hlink⟩ := hs.links.lineage l hl
      rw [Bool.eq_iff_iff, postedBy, hlink.rows.lineageEntry, Option.map_some, Option.any_some]
      simp only [decide_eq_true_eq, Bool.and_eq_true, List.any_eq_true]
      constructor
      · rintro ⟨htenant, hgrant, hkind, hrelated⟩
        exact ⟨⟨⟨htenant, hgrant, hkind⟩, r, hr, hrelated⟩, hrelated.symm⟩
      · rintro ⟨⟨⟨htenant, hgrant, hkind⟩, -⟩, hrelated⟩
        exact ⟨htenant, hgrant, hkind, hrelated.symm⟩
    · intro l _ hcondition
      obtain ⟨r, hr, hrelated⟩ := List.any_eq_true.mp (Bool.and_eq_true_iff.mp hcondition).2
      exact ⟨r, hr, rfl, of_decide_eq_true hrelated⟩
  rw [hsplit]
  exact sumWhere_le_sumWhere (fun _ _ hcondition => (Bool.and_eq_true_iff.mp hcondition).1)
    (fun _ _ _ => le_refl _) fun _ hl _ => (amountMinor_pos hs.links.history hl).le

theorem compensation_le_consumption (hbounded : CompensationBounded s) (t g : Uuid) :
    s.lineageTotal t g .compensation ≤ s.lineageTotal t g .consumption := by
  rw [compensation_by_reversal hs]
  refine le_trans ?_ (reversed_consumption_le hs t g)
  exact sumWhere_le_sumWhere (fun _ _ h => h)
    (fun r hr _ => hbounded t g r (List.mem_filter.mp hr).1)
    fun _ _ _ => transactionLineage_nonneg hs.links.history t g _ _

/-- Where everything consumed is restored, every reversal has restored all it can. -/
theorem restored_exactly (hbounded : CompensationBounded s) {t g : Uuid}
    (hrestored : s.lineageTotal t g .compensation = s.lineageTotal t g .consumption) :
    ∀ r ∈ reversals s t, s.transactionLineage t g .compensation (some r.id) =
      s.transactionLineage t g .consumption r.relatedTransactionId := by
  intro r hr
  rw [compensation_by_reversal hs] at hrestored
  refine eq_of_sumWhere_le (p := fun _ => true)
    (f := fun r => s.transactionLineage t g .compensation (some r.id))
    (g := fun r => s.transactionLineage t g .consumption r.relatedTransactionId) ?_ ?_ r hr rfl
  · exact fun r hr _ => hbounded t g r (List.mem_filter.mp hr).1
  · rw [hrestored]
    exact reversed_consumption_le hs t g

end Totals

theorem replayStatements_bounded {steps : List (Timestamp × Statement)} {s : Db}
    (h : replayStatements steps = .ok s) : WellFormed s ∧ CompensationBounded s :=
  replayStatements_invariant (P := fun s => WellFormed s ∧ CompensationBounded s)
    ⟨WellFormed.empty, fun _ _ _ hr => absurd hr List.not_mem_nil⟩
    (fun _ _ _ hstep hs => ⟨hstep.wellFormed hs.1, hstep.compensationBounded hs.1 hs.2⟩) h

/-- After every sequence of accepted statements. -/
theorem compensated_le_consumed {steps : List (Timestamp × Statement)} {s : Db}
    (h : replayStatements steps = .ok s) (t g : Uuid) :
    s.latestMinor t g (·.compensatedMinor) ≤ s.latestMinor t g (·.consumedMinor) ∧
      s.latestMinor t g (·.remainingMinor) ≤ s.latestMinor t g (·.grantedMinor) := by
  obtain ⟨hs, hbounded⟩ := replayStatements_bounded h
  have hfold := capacityFold_of_tracks (replayStatements_tracks h).2 t g
  have hle : s.latestMinor t g (·.compensatedMinor) ≤ s.latestMinor t g (·.consumedMinor) := by
    rw [hfold.compensated, hfold.consumed]
    exact compensation_le_consumption hs hbounded t g
  have hnonneg : ∀ kind, 0 ≤ s.lineageTotal t g kind :=
    fun kind => sumWhere_nonneg fun _ hl _ => (amountMinor_pos hs.links.history hl).le
  have hreversed := hfold.reversed
  have hexpired := hfold.expired
  have hremaining := hfold.remaining
  have hreversal := hnonneg .reversal
  have hrefund := hnonneg .refund
  have hexpiration := hnonneg .expiration
  exact ⟨hle, by omega⟩

/-! ## Reversals mirror their originals

The deferred check compares the two transactions once, when the reversal commits.  It
stays true when transactions are inserted whole: neither gets an entry later. -/

/-- Every ledger transaction of the database transaction is inserted with its entries
and they with their lineage. -/
structure InsertsWhole (tx : DbTransaction) : Prop where
  entries : ∀ e ∈ tx.newEntries, ∃ t ∈ tx.newTransactions, t.id = e.transactionId
  lineage : AttributesOwnEntries tx

instance (tx : DbTransaction) : Decidable (InsertsWhole tx) :=
  decidable_of_iff (_ ∧ _) ⟨fun h => ⟨h.1, h.2⟩, fun h => ⟨h.entries, h.lineage⟩⟩

/-- A related transaction exists. -/
def RelatedExist (s : Db) : Prop :=
  ∀ t ∈ s.transactions, ∀ id ∈ t.relatedTransactionId, (s.transaction? id).isSome

/-- A reversal posts on a side of a grant-enabled account what its original posted on the
other side. -/
def Mirrored (s : Db) : Prop :=
  ∀ e ∈ s.entries, s.grantEnabled e.tenantId e.accountId = true →
    (s.entryTransaction? e).bind (·.relationType) = some .reversal →
      reversalAmount s e =
        originalAmount s e ((s.entryTransaction? e).bind (·.relatedTransactionId))

theorem exec_relatedExist {now : Timestamp} {s s' : Db} {stmt : Statement}
    (h : stmt.exec now s = .ok s') (hs : RelatedExist s) : RelatedExist s' := by
  have hext : Extends s s' := RowSteps.extends (exec_steps h)
  intro t ht id hid
  rw [(exec_inserted h).transactions] at ht
  rcases List.mem_append.mp ht with hold | hnew
  · exact isSome_mono (fun t' ht' => ⟨t', hext.transaction? ht'⟩) (hs t hold id hid)
  · cases stmt with
    | insertTransactions rows =>
        have hchecked := (insertTransactions_ok h).2 t hnew
        rw [checkRelatedTransaction, require_eq_ok_iff] at hchecked
        exact hchecked id hid
    | _ => cases hnew

theorem commit_relatedExist {s s' : Db} {tx : DbTransaction} (h : commit s tx = .ok s')
    (hs : RelatedExist s) : RelatedExist s' :=
  foldlM_preserves (fun _ _ _ _ hexec => exec_relatedExist hexec) (commit_eq_ok_iff.mp h).1 hs

section Commit

variable {s s' : Db} {tx : DbTransaction}

/-- Transactions that are there get no further entries. -/
theorem newEntry_transaction_ne (hs : WellFormed s) (h : commit s tx = .ok s')
    (hwhole : InsertsWhole tx) {id : Uuid} (hid : (s.transaction? id).isSome) :
    ∀ e ∈ tx.newEntries, e.transactionId ≠ id := by
  rintro e he rfl
  obtain ⟨t, ht, htid⟩ := hwhole.entries e he
  obtain ⟨t', ht'⟩ := Option.isSome_iff_exists.mp hid
  have hkeys := (RowSteps.wellFormed (commit_steps h) hs).keys.transactions
  rw [UniqueKey, commit_transactions h, List.map_append, List.nodup_append] at hkeys
  exact hkeys.2.2 _ (List.mem_map_of_mem (mem_of_lookup ht')) _ (List.mem_map_of_mem ht)
    ((key_of_lookup ht').trans htid.symm)

/-- A sum over entries that no new entry takes part in. -/
theorem sumWhere_entries_commit (h : commit s tx = .ok s') {p : Entry → Bool} {f : Entry → Int}
    (hnew : ∀ e ∈ tx.newEntries, p e = false) :
    sumWhere s'.entries p f = sumWhere s.entries p f := by
  have hzero : sumWhere tx.newEntries p f = 0 :=
    sumWhere_eq_zero fun e he hp => absurd hp (by rw [hnew e he]; exact Bool.false_ne_true)
  rw [commit_entries h, sumWhere_append, hzero, add_zero]

theorem mirrored_commit (hs : WellFormed s) (hrelated : RelatedExist s) (hmirrored : Mirrored s)
    (h : commit s tx = .ok s') (hwhole : InsertsWhole tx) : Mirrored s' := by
  intro e he henabled hreversal
  rw [commit_entries h] at he
  rcases List.mem_append.mp he with hold | hnew
  · obtain ⟨-, htransaction, -⟩ := hs.links.entries e hold
    have hsame := (RowSteps.extends (commit_steps h)).entryTransaction? htransaction
    rw [grantEnabled_commit hs h hold] at henabled
    rw [hsame] at hreversal ⊢
    have hbefore := hmirrored e hold henabled hreversal
    have hreversed : reversalAmount s' e = reversalAmount s e := by
      refine sumWhere_entries_commit h fun e' he' => decide_eq_false ?_
      exact fun hcondition => newEntry_transaction_ne hs h hwhole htransaction e' he' hcondition.2.1
    have horiginal : originalAmount s' e ((s.entryTransaction? e).bind (·.relatedTransactionId)) =
        originalAmount s e ((s.entryTransaction? e).bind (·.relatedTransactionId)) := by
      refine sumWhere_entries_commit h fun e' he' => decide_eq_false ?_
      rintro ⟨-, hid, -⟩
      obtain ⟨t, ht, hrelation⟩ := Option.bind_eq_some_iff.mp hid.symm
      simp only [Db.entryTransaction?, Option.filter_eq_some_iff] at ht
      exact newEntry_transaction_ne hs h hwhole
        (hrelated t (mem_of_lookup ht.1) _ hrelation) e' he' rfl
    rw [hreversed, horiginal, hbefore]
  · exact ((assertGrantEntryAttributed_ok (deferred_entry h hnew).1 henabled).2 hreversal).2

end Commit

/-- Along a run of whole transactions attribution is full and reversals mirror. -/
theorem replay_mirrored {log : List DbTransaction} {s : Db} (h : replay log = .ok s)
    (hwhole : ∀ tx ∈ log, InsertsWhole tx) : TenantAttributed s ∧ Mirrored s := by
  have hinvariant : WellFormed s ∧ RelatedExist s ∧ ((∀ tx ∈ log, InsertsWhole tx) →
      TenantAttributed s ∧ Mirrored s) := by
    refine run_induction (P := fun log s => WellFormed s ∧ RelatedExist s ∧
      ((∀ tx ∈ log, InsertsWhole tx) → TenantAttributed s ∧ Mirrored s)) ?_ ?_ h
    · exact ⟨WellFormed.empty, fun _ ht => absurd ht List.not_mem_nil, fun _ =>
        ⟨fun _ he => absurd he List.not_mem_nil, fun _ he => absurd he List.not_mem_nil⟩⟩
    · rintro log s tx s' - ⟨hs, hrelated, hbefore⟩ hcommit
      refine ⟨RowSteps.wellFormed (commit_steps hcommit) hs,
        commit_relatedExist hcommit hrelated, ?_⟩
      intro hall
      have hlast : InsertsWhole tx := hall tx (by simp)
      obtain ⟨hfull, hmirrored⟩ := hbefore fun x hx => hall x (List.mem_append_left _ hx)
      exact ⟨tenantAttributed_commit hs hfull hcommit hlast.lineage,
        mirrored_commit hs hrelated hmirrored hcommit hlast⟩
  exact hinvariant.2.2 hwhole

/-! ## Grant by grant -/

/-- What a reversal gives back on an account, against what its original took. -/
structure ReversalExact (s : Db) (original reversal : Transaction) (accountId : Uuid) : Prop where
  restored : ∀ g ∈ s.creditGrants, g.accountId = accountId →
    s.transactionLineage g.tenantId g.id .compensation (some reversal.id) =
      s.transactionLineage g.tenantId g.id .consumption (some original.id)
  /-- every debit of the original is attributed, and all its lineage is CONSUMPTION -/
  consumed : ∀ e ∈ s.entries, e.transactionId = original.id → e.accountId = accountId →
    0 < e.signedAmountMinor → lineageAmount s e.id = e.signedAmountMinor ∧
      ∀ l ∈ s.creditGrantEntries, l.entryId = e.id → l.kind = .consumption

/-- The same within the tenant of the reversal. -/
structure TenantReversalExact (s : Db) (original reversal : Transaction) (accountId : Uuid) :
    Prop where
  restored : ∀ g ∈ s.creditGrants, g.tenantId = reversal.tenantId → g.accountId = accountId →
    s.transactionLineage reversal.tenantId g.id .compensation (some reversal.id) =
      s.transactionLineage reversal.tenantId g.id .consumption (some original.id)
  consumed : ∀ l ∈ s.creditGrantEntries, ∀ e, s.lineageEntry? l = some e →
    e.tenantId = reversal.tenantId → e.transactionId = original.id → e.accountId = accountId →
      0 < e.signedAmountMinor → l.kind = .consumption

/-- A transaction debits the account. -/
def Debits (s : Db) (t : Transaction) (accountId : Uuid) : Prop :=
  ∃ e ∈ s.entries, e.transactionId = t.id ∧ e.accountId = accountId ∧ 0 < e.signedAmountMinor

/-- A transaction credits the account. -/
def Credits (s : Db) (t : Transaction) (accountId : Uuid) : Prop :=
  ∃ e ∈ s.entries, e.transactionId = t.id ∧ e.accountId = accountId ∧ e.signedAmountMinor < 0

/-- The debits of the original on the account are of the account's tenant, and if there are
any, so is a credit of the reversal. -/
structure OwnReversal (s : Db) (original reversal : Transaction) (a : Account) : Prop where
  debits : ∀ e ∈ s.entries, e.transactionId = original.id → e.accountId = a.id →
    0 < e.signedAmountMinor → e.tenantId = a.tenantId
  credit : Debits s original a.id → ∃ e ∈ s.entries, e.transactionId = reversal.id ∧
    e.accountId = a.id ∧ e.signedAmountMinor < 0 ∧ e.tenantId = a.tenantId

/-- Lineage of a kind that a transaction has on an account. -/
def accountLineage (s : Db) (tenantId accountId : Uuid) (kind : CreditGrantEntryKind)
    (transactionId : Uuid) : Int :=
  sumWhere s.creditGrantEntries (fun l => l.tenantId = tenantId ∧ l.accountId = accountId ∧
    l.kind = kind ∧ (s.lineageEntry? l).any fun e => e.transactionId = transactionId)
    (·.amountMinor)

section Exact

variable {s : Db} (hs : WellFormed s)
include hs

/-- Under full attribution the lineage of some entries sums to their amounts. -/
theorem lineage_of_entries (hfull : TenantAttributed s) {p : Entry → Bool}
    (hp : ∀ e ∈ s.entries, p e = true → s.grantEnabled e.tenantId e.accountId = true) :
    sumWhere s.creditGrantEntries (fun l => (s.lineageEntry? l).any p) (·.amountMinor) =
      sumWhere s.entries p (fun e => |e.signedAmountMinor|) := by
  rw [lineage_by_entry hs]
  exact sumWhere_congr (fun _ _ => rfl) fun e he hpe => hfull e he (hp e he hpe)

/-- Lineage on an account, grant by grant. -/
theorem accountLineage_by_grant (t a : Uuid) (kind : CreditGrantEntryKind) (id : Uuid) :
    accountLineage s t a kind id =
      sumWhere s.creditGrants (fun g => g.tenantId = t ∧ g.accountId = a)
        (fun g => s.transactionLineage t g.id kind (some id)) := by
  unfold accountLineage Db.transactionLineage
  simp only [Option.some.injEq, eq_comm (a := id)]
  exact lineage_by_grant hs t a _

/-- The credits of a transaction that issues no grant are all restored capacity. -/
theorem credit_lineage (t a : Uuid) {id : Uuid} {side : Int} (hside : side < 0)
    (hissues : ∀ g ∈ s.creditGrants, g.transactionId ≠ id) :
    sumWhere s.creditGrantEntries (fun l => (s.lineageEntry? l).any fun e => e.tenantId = t ∧
        e.transactionId = id ∧ e.accountId = a ∧ sameSide e.signedAmountMinor side)
        (·.amountMinor) = accountLineage s t a .compensation id := by
  refine sumWhere_congr (fun l hl => ?_) fun _ _ _ => rfl
  obtain ⟨linked, hlink⟩ := hs.links.lineage l hl
  have hkind := hlink.kind
  have htransaction : linked.transaction.id = linked.entry.transactionId :=
    key_of_lookup hlink.rows.transaction
  rw [hlink.rows.lineageEntry, Option.any_some, Option.any_some]
  refine decide_eq_decide.mpr ?_
  rw [hlink.rows.entryTenant, hlink.rows.entryAccount, decide_eq_true_eq]
  unfold sameSide
  constructor
  · rintro ⟨htenant, hid, haccount, hsame⟩
    have hcredit : linked.entry.signedAmountMinor < 0 := by omega
    refine ⟨htenant, haccount, ?_, hid⟩
    cases hk : l.kind with
    | compensation => rfl
    | issuance =>
        simp only [KindLink, hk] at hkind
        exact absurd (hkind.2.2.symm.trans (htransaction.trans hid))
          (hissues _ (mem_of_lookup hlink.rows.grant))
    | reversal | expiration | refund =>
        simp only [KindLink, hk] at hkind
        exact absurd hkind.1 (by omega)
    | consumption =>
        simp only [KindLink, hk] at hkind
        exact absurd hkind (by omega)
  · rintro ⟨htenant, haccount, hk, hid⟩
    simp only [KindLink, hk] at hkind
    exact ⟨htenant, hid, haccount, Or.inr ⟨hkind.1, hside⟩⟩

/-- CONSUMPTION is lineage of debits. -/
theorem debit_of_consumption (t a id : Uuid) {side : Int} (hside : side < 0)
    {l : CreditGrantEntry} (hl : l ∈ s.creditGrantEntries)
    (hconsumption : decide (l.tenantId = t ∧ l.accountId = a ∧ l.kind = .consumption ∧
      (s.lineageEntry? l).any fun e => e.transactionId = id) = true) :
    ((s.lineageEntry? l).any fun e => e.tenantId = t ∧ some e.transactionId = some id ∧
      e.accountId = a ∧ oppositeSides e.signedAmountMinor side) = true := by
  obtain ⟨linked, hlink⟩ := hs.links.lineage l hl
  obtain ⟨htenant, haccount, hkind, hid⟩ := of_decide_eq_true hconsumption
  rw [hlink.rows.lineageEntry, Option.any_some, decide_eq_true_eq] at hid
  have hdebit := hlink.kind
  simp only [KindLink, hkind] at hdebit
  rw [hlink.rows.lineageEntry, Option.any_some, decide_eq_true_eq, hlink.rows.entryTenant,
    hlink.rows.entryAccount]
  exact ⟨htenant, congrArg some hid, haccount, Or.inr ⟨hdebit, hside⟩⟩

/-- The transaction of an attributed entry is of the entry's tenant. -/
theorem entryTransaction_of_attributed (hfull : TenantAttributed s) {e : Entry} (he : e ∈ s.entries)
    (henabled : s.grantEnabled e.tenantId e.accountId = true) {t : Transaction}
    (ht : t ∈ s.transactions) (hid : e.transactionId = t.id) :
    s.entryTransaction? e = some t ∧ t.tenantId = e.tenantId := by
  have hpos : 0 < s.attributedAmount e := by
    rw [hfull e he henabled]
    exact abs_pos.mpr (hs.links.entries e he).1
  obtain ⟨l, hl, hscope⟩ := exists_of_sumWhere_pos hpos
  obtain ⟨htenant, hentryId⟩ := of_decide_eq_true hscope
  obtain ⟨linked, hlink⟩ := hs.links.lineage l hl
  have hentry := linked_entry_eq hs.keys hlink.rows he hentryId
  have htransaction : linked.transaction = t :=
    linked_transaction_eq hs.keys hlink.rows ht (hentry ▸ hid)
  have hsame : t.tenantId = e.tenantId := by
    rw [← htransaction, hlink.rows.transactionTenant, htenant]
  have hfound : s.transaction? t.id = some t := lookup_key hs.keys.transactions ht
  refine ⟨?_, hsame⟩
  rw [Db.entryTransaction?, hid, hfound, Option.filter_some, if_pos (by simpa using hsame)]

/-- What a reversal that issues no grant posts on an account is restored capacity. -/
theorem compensation_eq_reversalAmount (hfull : TenantAttributed s) {e : Entry}
    (hcredit : e.signedAmountMinor < 0)
    (henabled : s.grantEnabled e.tenantId e.accountId = true)
    (hissues : ∀ g ∈ s.creditGrants, g.transactionId ≠ e.transactionId) :
    accountLineage s e.tenantId e.accountId .compensation e.transactionId =
      reversalAmount s e := by
  rw [← credit_lineage hs e.tenantId e.accountId hcredit hissues,
    lineage_of_entries hs hfull ?_, reversalAmount]
  intro e' _ hcondition
  obtain ⟨htenant, -, haccount, -⟩ := of_decide_eq_true hcondition
  rw [htenant, haccount]
  exact henabled

/-- What the original posted on the other side is attributed. -/
theorem debitLineage_eq_originalAmount (hfull : TenantAttributed s) {e : Entry}
    (henabled : s.grantEnabled e.tenantId e.accountId = true) (id : Uuid) :
    sumWhere s.creditGrantEntries (fun l => (s.lineageEntry? l).any fun e' =>
      e'.tenantId = e.tenantId ∧ some e'.transactionId = some id ∧
        e'.accountId = e.accountId ∧ oppositeSides e'.signedAmountMinor e.signedAmountMinor)
      (·.amountMinor) = originalAmount s e (some id) := by
  rw [lineage_of_entries hs hfull ?_, originalAmount]
  intro e' _ hcondition
  obtain ⟨htenant, -, haccount, -⟩ := of_decide_eq_true hcondition
  rw [htenant, haccount]
  exact henabled

/-- The bounds of the single grants of an account add up. -/
theorem accountCompensation_le (t a : Uuid) {id original : Uuid}
    (hgrants : ∀ g ∈ s.creditGrants, decide (g.tenantId = t ∧ g.accountId = a) = true →
      s.transactionLineage t g.id .compensation (some id) ≤
        s.transactionLineage t g.id .consumption (some original)) :
    accountLineage s t a .compensation id ≤ accountLineage s t a .consumption original := by
  rw [accountLineage_by_grant hs, accountLineage_by_grant hs]
  exact sumWhere_le_sumWhere (fun _ _ h => h) hgrants
    fun g _ _ => transactionLineage_nonneg hs.links.history _ _ _ _

/-- The bounds of the single grants add up to an equality, so each is one. -/
theorem tenantReversalExact_of_mirrored (hbounded : CompensationBounded s)
    (hfull : TenantAttributed s) (hmirrored : Mirrored s) {original reversal : Transaction}
    (hreversal : reversal ∈ s.transactions) (htype : reversal.relationType = some .reversal)
    (hrelated : reversal.relatedTransactionId = some original.id)
    (hissues : ∀ g ∈ s.creditGrants, g.transactionId ≠ reversal.id) {e : Entry}
    (he : e ∈ s.entries) (hid : e.transactionId = reversal.id) (hcredit : e.signedAmountMinor < 0)
    (henabled : s.grantEnabled e.tenantId e.accountId = true) :
    TenantReversalExact s original reversal e.accountId := by
  obtain ⟨htransaction, htenant⟩ :=
    entryTransaction_of_attributed hs hfull he henabled hreversal hid
  have hmirror : reversalAmount s e = originalAmount s e (some original.id) := by
    have hsides := hmirrored e he henabled (by rw [htransaction]; exact htype)
    rw [htransaction, Option.bind_some, hrelated] at hsides
    exact hsides
  have hcredits := compensation_eq_reversalAmount hs hfull hcredit henabled (hid ▸ hissues)
  rw [hid] at hcredits
  have hdebits := debitLineage_eq_originalAmount hs hfull henabled original.id
  have hpart := fun l (hl : l ∈ s.creditGrantEntries) =>
    debit_of_consumption hs e.tenantId e.accountId original.id hcredit hl
  have hpositive : ∀ l ∈ s.creditGrantEntries, 0 < l.amountMinor :=
    fun l hl => amountMinor_pos hs.links.history hl
  have hconsumption : accountLineage s e.tenantId e.accountId .consumption original.id ≤
      originalAmount s e (some original.id) :=
    hdebits ▸ sumWhere_le_sumWhere hpart (fun _ _ _ => le_refl _) fun l hl _ => (hpositive l hl).le
  have hgrants : ∀ g ∈ s.creditGrants, decide (g.tenantId = e.tenantId ∧
      g.accountId = e.accountId) = true →
      s.transactionLineage e.tenantId g.id .compensation (some reversal.id) ≤
        s.transactionLineage e.tenantId g.id .consumption (some original.id) := by
    intro g _ _
    rw [← hrelated]
    exact hbounded e.tenantId g.id reversal hreversal
  have hbound := accountCompensation_le hs e.tenantId e.accountId hgrants
  -- restored ≤ consumed ≤ debits = credits = restored
  have hequal : accountLineage s e.tenantId e.accountId .consumption original.id ≤
      accountLineage s e.tenantId e.accountId .compensation reversal.id := by omega
  constructor
  · intro g hg hgtenant haccount
    rw [htenant]
    rw [accountLineage_by_grant hs, accountLineage_by_grant hs] at hequal
    exact eq_of_sumWhere_le hgrants hequal g hg (by simp [hgtenant, haccount, htenant])
  · intro l hl e' hentry htenant' hid' haccount' hdebit
    have hwhole : originalAmount s e (some original.id) ≤
        accountLineage s e.tenantId e.accountId .consumption original.id := by
      omega
    have hrow := holds_of_sumWhere_le (fun l hl _ => hpositive l hl) hpart
      (hdebits.trans_le hwhole) l hl (by
        rw [hentry, Option.any_some, decide_eq_true_eq]
        exact ⟨htenant'.trans htenant, congrArg some hid', haccount', Or.inr ⟨hdebit, hcredit⟩⟩)
    exact (of_decide_eq_true hrow).2.2.1

end Exact

/-! ## Over all tenants -/

section AllTenants

variable {s : Db} (hs : WellFormed s) {original reversal : Transaction} {a : Account}
include hs

/-- Lineage that a transaction has of a grant is on one of its entries on the account. -/
theorem transactionLineage_pos_iff {g : CreditGrant} (hg : g ∈ s.creditGrants)
    {kind : CreditGrantEntryKind} {id : Uuid} :
    0 < s.transactionLineage g.tenantId g.id kind (some id) ↔
      ∃ l ∈ s.creditGrantEntries, ∃ linked, LineageLink s l linked ∧ linked.grant = g ∧
        l.kind = kind ∧ linked.entry.transactionId = id := by
  constructor
  · intro hpos
    obtain ⟨l, hl, hcondition⟩ := exists_of_sumWhere_pos hpos
    obtain ⟨linked, hlink⟩ := hs.links.lineage l hl
    simp only [hlink.rows.lineageEntry, Option.any_some, decide_eq_true_eq, Option.some.injEq]
      at hcondition
    obtain ⟨-, hgrant, hkind, hid⟩ := hcondition
    exact ⟨l, hl, linked, hlink, linked_grant_eq hs.keys hlink.rows hg hgrant, hkind, hid.symm⟩
  · rintro ⟨l, hl, linked, hlink, rfl, hkind, hid⟩
    refine (amountMinor_pos hs.links.history hl).trans_le
      (le_sumWhere (f := (·.amountMinor)) hl ?_ fun l' hl' _ => ?_)
    · have hgrant : linked.grant.id = l.grantId := key_of_lookup hlink.rows.grant
      simp [hlink.rows.lineageEntry, hlink.rows.grantTenant, hgrant, hkind, hid]
    · exact (amountMinor_pos hs.links.history hl').le

theorem transactionLineage_eq_zero {g : CreditGrant} (hg : g ∈ s.creditGrants)
    {kind : CreditGrantEntryKind} {id : Uuid}
    (hnone : ∀ l ∈ s.creditGrantEntries, ∀ linked, LineageLink s l linked → linked.grant = g →
      l.kind = kind → linked.entry.transactionId ≠ id) :
    s.transactionLineage g.tenantId g.id kind (some id) = 0 := by
  refine le_antisymm (not_lt.mp fun hpos => ?_)
    (transactionLineage_nonneg hs.links.history _ _ _ _)
  obtain ⟨l, hl, linked, hlink, hgrant, hkind, hid⟩ :=
    (transactionLineage_pos_iff hs hg).mp hpos
  exact hnone l hl linked hlink hgrant hkind hid

/-- Entries with lineage are of the tenant of their account. -/
theorem linked_own (ha : a ∈ s.accounts) {l : CreditGrantEntry} {linked : LinkedRows}
    (hlink : LineageLink s l linked) (haccount : linked.entry.accountId = a.id) :
    linked.entry.tenantId = a.tenantId := by
  have hfound : s.account? a.id = some a := lookup_key hs.keys.accounts ha
  have hlooked := hlink.rows.account
  rw [haccount, hfound] at hlooked
  rw [hlink.rows.entryTenant, ← hlink.rows.accountTenant, Option.some.inj hlooked]

/-- Where a credit of the reversal is of the account's tenant, only debits of other tenants
are missing. -/
theorem reversalExact_of_own (hfull : TenantAttributed s) (ha : a ∈ s.accounts)
    (henabled : a.grantEnabled = true)
    (htenant : reversal.tenantId = a.tenantId)
    (hexact : TenantReversalExact s original reversal a.id)
    (hdebits : ∀ e ∈ s.entries, e.transactionId = original.id → e.accountId = a.id →
      0 < e.signedAmountMinor → e.tenantId = a.tenantId) :
    ReversalExact s original reversal a.id := by
  have hfound : s.account? a.id = some a := lookup_key hs.keys.accounts ha
  constructor
  · intro g hg haccount
    obtain ⟨a', hfound', hgtenant, -⟩ :=
      grantEnabled_eq_true_iff.mp (hs.links.creditGrants g hg).2
    rw [haccount, hfound] at hfound'
    have hsame : g.tenantId = reversal.tenantId := by
      rw [htenant, ← hgtenant, Option.some.inj hfound']
    rw [hsame]
    exact hexact.restored g hg hsame haccount
  · intro e he hid haccount hdebit
    have hown := hdebits e he hid haccount hdebit
    constructor
    · have hattributed := hfull e he
        (grantEnabled_eq_true_iff.mpr ⟨a, haccount ▸ hfound, hown.symm, henabled⟩)
      rw [lineageAmount_eq hs he, hattributed, abs_of_pos hdebit]
    · intro l hl hentry
      obtain ⟨linked, hlink⟩ := hs.links.lineage l hl
      have hlinked := linked_entry_eq hs.keys hlink.rows he hentry
      refine hexact.consumed l hl e ?_ (hown.trans htenant.symm) hid haccount hdebit
      rw [hlink.rows.lineageEntry, hlinked]

/-- With no debit there is nothing to restore, and without a credit of its tenant nothing is. -/
theorem reversalExact_of_no_debit (hdebits : ¬ Debits s original a.id)
    (hcredits : ¬ ∃ e ∈ s.entries, e.transactionId = reversal.id ∧ e.accountId = a.id ∧
      e.signedAmountMinor < 0 ∧ e.tenantId = a.tenantId) (ha : a ∈ s.accounts) :
    ReversalExact s original reversal a.id := by
  constructor
  · rintro g hg haccount
    rw [transactionLineage_eq_zero hs hg, transactionLineage_eq_zero hs hg]
    · rintro l hl linked hlink rfl hkind hid
      have hdebit := hlink.kind
      simp only [KindLink, hkind] at hdebit
      refine hdebits ⟨linked.entry, mem_of_lookup hlink.rows.entry, hid, ?_, hdebit⟩
      rw [hlink.rows.entryAccount, ← hlink.rows.grantAccount, haccount]
    · rintro l hl linked hlink rfl hkind hid
      have hcredit := hlink.kind
      simp only [KindLink, hkind] at hcredit
      have hsame : linked.entry.accountId = a.id := by
        rw [hlink.rows.entryAccount, ← hlink.rows.grantAccount, haccount]
      exact hcredits ⟨linked.entry, mem_of_lookup hlink.rows.entry, hid, hsame, hcredit.1,
        linked_own hs ha hlink hsame⟩
  · exact fun e he hid haccount hdebit => absurd ⟨e, he, hid, haccount, hdebit⟩ hdebits

/-- An exact reversal has no debit of another tenant to reverse, and credits what it does. -/
theorem ReversalExact.own (h : ReversalExact s original reversal a.id) (ha : a ∈ s.accounts)
    (henabled : a.grantEnabled = true) : OwnReversal s original reversal a := by
  have hfound : s.account? a.id = some a := lookup_key hs.keys.accounts ha
  have hdebits : ∀ e ∈ s.entries, e.transactionId = original.id → e.accountId = a.id →
      0 < e.signedAmountMinor → e.tenantId = a.tenantId := by
    intro e he hid haccount hdebit
    by_contra htenant
    have hnone := lineageAmount_foreign hs he fun hown =>
      htenant (hown a (haccount ▸ hfound) henabled).symm
    have hamount := (h.consumed e he hid haccount hdebit).1
    omega
  refine ⟨hdebits, ?_⟩
  rintro ⟨e, he, hid, haccount, hdebit⟩
  obtain ⟨hamount, hkinds⟩ := h.consumed e he hid haccount hdebit
  obtain ⟨l, hl, hentry⟩ := exists_of_sumWhere_pos (hamount.symm ▸ hdebit)
  obtain ⟨linked, hlink⟩ := hs.links.lineage l hl
  have hlinked := linked_entry_eq hs.keys hlink.rows he (of_decide_eq_true hentry)
  have hg : linked.grant ∈ s.creditGrants := mem_of_lookup hlink.rows.grant
  have hgrant : linked.grant.accountId = a.id := by
    rw [hlink.rows.grantAccount, ← hlink.rows.entryAccount, hlinked, haccount]
  have hpos : 0 < s.transactionLineage linked.grant.tenantId linked.grant.id .consumption
      (some original.id) := (transactionLineage_pos_iff hs hg).mpr
    ⟨l, hl, linked, hlink, rfl, hkinds l hl (of_decide_eq_true hentry), hlinked ▸ hid⟩
  rw [← h.restored _ hg hgrant] at hpos
  obtain ⟨l', -, linked', hlink', hgrant', hkind', hid'⟩ :=
    (transactionLineage_pos_iff hs hg).mp hpos
  have hcredit := hlink'.kind
  simp only [KindLink, hkind'] at hcredit
  have hsame : linked'.entry.accountId = a.id := by
    rw [hlink'.rows.entryAccount, ← hlink'.rows.grantAccount, hgrant', hgrant]
  exact ⟨linked'.entry, mem_of_lookup hlink'.rows.entry, hid', hsame, hcredit.1,
    linked_own hs ha hlink' hsame⟩

end AllTenants

/-- In a run of whole transactions a reversal that is not itself an issuance and credits a
grant-enabled account gives back to every grant of the account what its original took, exactly
when the debits of the original are of the account's tenant and a credit of the reversal is
too; and nowhere in the run has a grant more restored than consumed, or more remaining than it
was issued. -/
theorem reversalExact_iff {log : List DbTransaction} {s : Db} (h : replay log = .ok s)
    (hwhole : ∀ tx ∈ log, InsertsWhole tx) :
    (∀ original ∈ s.transactions, ∀ reversal ∈ s.transactions,
      reversal.relationType = some .reversal →
      reversal.relatedTransactionId = some original.id →
      (∀ g ∈ s.creditGrants, g.transactionId ≠ reversal.id) →
      ∀ a ∈ s.accounts, a.grantEnabled = true → Credits s reversal a.id →
        (ReversalExact s original reversal a.id ↔ OwnReversal s original reversal a)) ∧
      ∀ steps s', steps <+: timedStatements log → replayStatements steps = .ok s' →
        ∀ tenantId grantId,
          s'.latestMinor tenantId grantId (·.compensatedMinor) ≤
              s'.latestMinor tenantId grantId (·.consumedMinor) ∧
            s'.latestMinor tenantId grantId (·.remainingMinor) ≤
              s'.latestMinor tenantId grantId (·.grantedMinor) := by
  obtain ⟨hfull, hmirrored⟩ := replay_mirrored h hwhole
  have hs := replay_wellFormed h
  have hbounded := (replayStatements_bounded (replayStatements_of_replay h)).2
  constructor
  · intro original _ reversal hreversal htype hrelated hissues a ha henabled _
    refine ⟨fun hexact => hexact.own hs ha henabled, fun hown => ?_⟩
    by_cases hcredits : ∃ e ∈ s.entries, e.transactionId = reversal.id ∧ e.accountId = a.id ∧
        e.signedAmountMinor < 0 ∧ e.tenantId = a.tenantId
    · obtain ⟨e, he, hid, haccount, hcredit, htenant⟩ := hcredits
      have hfound : s.account? a.id = some a := lookup_key hs.keys.accounts ha
      have hsees : s.grantEnabled e.tenantId e.accountId = true :=
        grantEnabled_eq_true_iff.mpr ⟨a, haccount ▸ hfound, htenant.symm, henabled⟩
      have hexact := tenantReversalExact_of_mirrored hs hbounded hfull hmirrored hreversal htype
        hrelated hissues he hid hcredit hsees
      have hreversalTenant := (entryTransaction_of_attributed hs hfull he hsees hreversal hid).2
      rw [haccount] at hexact
      exact reversalExact_of_own hs hfull ha henabled (hreversalTenant.trans htenant) hexact
        hown.debits
    · exact reversalExact_of_no_debit hs (fun hdebits => hcredits (hown.credit hdebits)) hcredits ha
  · intro steps s' _ hsteps tenantId grantId
    exact compensated_le_consumed hsteps tenantId grantId

/-- A posting of 40 and its reversal. -/
def Sample.reversed : List DbTransaction :=
  [⟨0, accounts⟩, ⟨1, issuance 0 none⟩, ⟨2, spending⟩,
    ⟨3, [.insertTransactions [⟨151, 1, 5, none, some 150, some .reversal, 1, 3⟩],
      .insertEntries [⟨252, 1, 151, 10, -40, 1⟩, ⟨253, 1, 151, 11, 40, 1⟩],
      .insertCreditGrantEntries [⟨1, 5, 10, 300, 252, .compensation, 40⟩]]⟩]

/-- The reversal gives its 40 back. -/
theorem reversalExact_iff_sample :
    ReversalExact (Sample.stateAfter Sample.reversed) ⟨150, 1, 5, none, none, none, 1, 2⟩
        ⟨151, 1, 5, none, some 150, some .reversal, 1, 3⟩ 10 ∧
      (Sample.stateAfter Sample.reversed).transactionLineage 1 300 .compensation (some 151) = 40 :=
  ⟨((reversalExact_iff (Sample.replay_stateAfter (by rfl)) (by decide)).1
      ⟨150, 1, 5, none, none, none, 1, 2⟩ (by decide +kernel)
      ⟨151, 1, 5, none, some 150, some .reversal, 1, 3⟩ (by decide +kernel) rfl rfl
      (by decide +kernel) ⟨10, 1, 5, .credit, .disallow, 1, true⟩ (by decide +kernel) rfl
      ⟨⟨252, 1, 151, 10, -40, 1⟩, by decide +kernel⟩).mpr
      ⟨by decide +kernel, fun _ => ⟨⟨252, 1, 151, 10, -40, 1⟩, by decide +kernel⟩⟩,
    by rfl⟩

/-- The same posting also has a leg of tenant 2 that debits account 10 by 10; the reversal
mirrors the legs of tenant 1. -/
def Sample.otherLeg : List DbTransaction :=
  [⟨0, accounts⟩, ⟨1, issuance 0 none⟩,
    ⟨2, otherAsset :: spending ++ [.insertEntries [⟨280, 2, 150, 10, 10, 2⟩]]⟩,
    ⟨3, [.insertTransactions [⟨151, 1, 5, none, some 150, some .reversal, 1, 3⟩],
      .insertEntries [⟨252, 1, 151, 10, -40, 1⟩, ⟨253, 1, 151, 11, 40, 1⟩],
      .insertCreditGrantEntries [⟨1, 5, 10, 300, 252, .compensation, 40⟩]]⟩]

/-- Both are accepted, and a debit of 10 on account 10 was not CONSUMPTION. -/
theorem other_leg_reversed :
    replay Sample.otherLeg = .ok (Sample.stateAfter Sample.otherLeg) ∧
      (∀ tx ∈ Sample.otherLeg, InsertsWhole tx) ∧
      Credits (Sample.stateAfter Sample.otherLeg)
        ⟨151, 1, 5, none, some 150, some .reversal, 1, 3⟩ 10 ∧
      ¬ ReversalExact (Sample.stateAfter Sample.otherLeg) ⟨150, 1, 5, none, none, none, 1, 2⟩
        ⟨151, 1, 5, none, some 150, some .reversal, 1, 3⟩ 10 := by
  refine ⟨Sample.replay_stateAfter (by rfl), by decide,
    ⟨⟨252, 1, 151, 10, -40, 1⟩, by decide +kernel⟩, fun hexact => ?_⟩
  have hdebit := (hexact.consumed ⟨280, 2, 150, 10, 10, 2⟩ (by decide +kernel) rfl rfl
    (by decide)).1
  revert hdebit
  decide +kernel

end LuxLedger.Credit
