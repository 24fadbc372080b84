/-
  Credit/Issuing.lean --- issuing a grant.

  An issuance credits a prepaid account out of a funding account and attributes the credit
  to a new grant.  It is accepted exactly if the grant is live, and the purse then has one
  more grant with the amount free.

  Sources: `credit_grants` and its triggers (0000), `validate_credit_grant_entry` (0007).
-/
import LuxLedger.Credit.Postings
import LuxLedger.Credit.Voiding

set_option autoImplicit false

namespace LuxLedger.Credit

open LuxLedger.Schema LuxLedger.Relational

/-! ## The issuance -/

/-- A debit of a funding account against a prepaid one, and the grant that the credit is for. -/
structure Issue extends Posting where
  grantId : Uuid
  expiresAt : Option Timestamp
  createdAt : Timestamp

namespace Issue

/-- The grant that is issued. -/
def grant (i : Issue) : CreditGrant where
  id := i.grantId
  tenantId := i.account.tenantId
  ledgerId := i.account.ledgerId
  accountId := i.counter.id
  fundingAccountId := i.account.id
  transactionId := i.transactionId
  expiresAt := i.expiresAt
  createdAt := i.createdAt

/-- The lineage of the credit. -/
def issuance (i : Issue) : CreditGrantEntry where
  tenantId := i.account.tenantId
  ledgerId := i.account.ledgerId
  accountId := i.counter.id
  grantId := i.grantId
  entryId := i.creditId
  kind := .issuance
  amountMinor := i.amountMinor

/-- The database transaction that issues the grant. -/
def issue (i : Issue) (now : Timestamp) : DbTransaction where
  now := now
  statements := [.insertTransactions [i.transaction], .insertEntries [i.debit, i.credit],
    .insertCreditGrants [i.grant], .insertCreditGrantEntries [i.issuance]]

/-- The two accounts are of one ledger and one asset, and the grant is new. -/
structure Possible (i : Issue) (s : Db) : Prop extends i.toPosting.Fresh s where
  enabled : i.counter.grantEnabled = true
  other : i.account.grantEnabled = false
  tenant : i.counter.tenantId = i.account.tenantId
  ledger : i.counter.ledgerId = i.account.ledgerId
  asset : i.counter.assetId = i.account.assetId
  none : i.holdId = none
  grantNew : ∀ g ∈ s.creditGrants, g.id ≠ i.grantId ∧ g.transactionId ≠ i.transactionId

/-- The tables once the grant is in. -/
def granted (i : Issue) (s : Db) : Db := (i.posted s).addCreditGrant i.grant

end Issue

/-- The purse with a new grant. -/
def Purse.issue (w : Purse) (g : CreditGrant) (amountMinor : Int) : Purse :=
  { w with
    grants := w.grants ++ [g]
    free := fun t id => w.free t id + if t = g.tenantId ∧ id = g.id then amountMinor else 0 }

/-- A new grant adds its amount to what its account can spend while the grant is live. -/
theorem Purse.spendable_issue {w : Purse} {g : CreditGrant} {amountMinor : Int}
    (hnew : ∀ g' ∈ w.grants, g'.id ≠ g.id) (hnone : w.free g.tenantId g.id = 0)
    (time : Timestamp) (t a : Uuid) :
    (w.issue g amountMinor).spendable time t a = w.spendable time t a +
      if g.tenantId = t ∧ g.accountId = a ∧ g.LiveAt time then amountMinor else 0 := by
  have hkept : sumWhere w.grants
      (fun g' => g'.tenantId = t ∧ g'.accountId = a ∧ g'.LiveAt time)
      (fun g' => (w.issue g amountMinor).free g'.tenantId g'.id) = w.spendable time t a := by
    refine sumWhere_congr (fun _ _ => rfl) fun g' hg' _ => ?_
    have hother : ¬ (g'.tenantId = g.tenantId ∧ g'.id = g.id) := fun hsame => hnew g' hg' hsame.2
    simp [issue, hother]
  have hadded : (w.issue g amountMinor).free g.tenantId g.id = amountMinor := by
    simp [issue, hnone]
  rw [spendable]
  change sumWhere (w.grants ++ [g]) _ _ = _
  rw [sumWhere_append, hkept, sumWhere_singleton, hadded]
  simp only [decide_eq_true_eq]

section Issue

variable {s : Db} {i : Issue} {now : Timestamp}

/-! ## The grant -/

theorem creditEntry?_posted (hi : i.Possible s) :
    Db.entry? (i.posted s) i.creditId = some i.credit := by
  have hnone : s.entry? i.creditId = none := lookup_eq_none_iff.mpr hi.creditNew
  have hdistinct : ¬ i.debitId = i.creditId := hi.distinct
  exact (lookup_append_of_none hnone).trans
    (by simp [lookup, Posting.debit, Posting.credit, hdistinct])

/-- No grant is on the funding account, which is not grant-enabled. -/
theorem grant_ne_funding (hs : Committed s) (hi : i.Possible s) :
    ∀ g ∈ s.creditGrants, ¬ (g.tenantId = i.account.tenantId ∧ g.accountId = i.account.id) := by
  rintro g hg ⟨htenant, haccount⟩
  have henabled := (hs.invariants.wellFormed.links.creditGrants g hg).2
  rw [Db.grantEnabled, haccount, hs.account? hi.account, Option.any_some] at henabled
  have hon := (of_decide_eq_true henabled).2
  rw [hi.other] at hon
  cases hon

theorem account_ne_counter (hs : Committed s) (hi : i.Possible s) :
    i.counter.id ≠ i.account.id := by
  intro hsame
  have hcounter : s.account? i.account.id = some i.counter := by
    rw [← hsame]
    exact hs.account? hi.counter
  have heq : i.account = i.counter :=
    Option.some.inj ((hs.account? hi.account).symm.trans hcounter)
  have hon := hi.enabled
  rw [← heq, hi.other] at hon
  cases hon

theorem exec_grant (hs : Committed s) (hi : i.Possible s) :
    (Statement.insertCreditGrants [i.grant]).exec now (i.posted s) = .ok (i.granted s) := by
  have haccount : ∀ a ∈ s.accounts, a.tenantId = i.account.tenantId →
      a.ledgerId = i.account.ledgerId →
        s.hasAccount i.account.tenantId i.account.ledgerId a.id = true := by
    intro a ha htenant hledger
    exact (Option.any_eq_true _ _).mpr ⟨a, hs.account? ha, decide_eq_true ⟨htenant, hledger⟩⟩
  have henabled : Db.grantEnabled (i.posted s) i.account.tenantId i.counter.id = true :=
    (Option.any_eq_true _ _).mpr
      ⟨i.counter, hs.account? hi.counter, decide_eq_true ⟨hi.tenant, hi.enabled⟩⟩
  have hfunding : rejectExpiringGrantEnabledFunding (i.posted s) i.grant = .ok () := by
    rw [rejectExpiringGrantEnabledFunding]
    split_ifs with hexpires
    · rfl
    · refine raiseIf_eq_ok_iff.mpr fun hraised => ?_
      obtain ⟨g, hg, hon⟩ := Truth.of_eq_true_iff.mp hraised
      exact grant_ne_funding hs hi g hg hon
  have hcheck : checkCreditGrant (i.posted s) i.grant = .ok () := by
    simp only [checkCreditGrant, bind_eq_ok_iff, require_eq_ok_iff, exists_const,
      requireGrantEnabledAccount, raiseIf_eq_ok_iff]
    refine ⟨fun hraised => Truth.of_eq_true_iff.mp hraised henabled, (), hfunding,
      account_ne_counter hs hi, fun g hg => (hi.grantNew g hg).1, fun g hg => (hi.grantNew g hg).2,
      haccount _ hi.counter hi.tenant hi.ledger, haccount _ hi.account rfl rfl, ?_⟩
    exact (Option.any_eq_true _ _).mpr
      ⟨_, transaction?_posted hi.toFresh, decide_eq_true ⟨rfl, rfl⟩⟩
  rw [Statement.exec, insertEach_cons_eq_ok_iff]
  exact ⟨hcheck, rfl⟩

theorem granted_usable (hs : Committed s) (hi : i.Possible s) : Usable (i.granted s) :=
  (posted_usable hs.toUsable hi.toFresh).statement (@exec_grant s i 0 hs hi)

/-! ## Its lineage -/

theorem linked_issuance (hs : Usable s) (hi : i.Possible s) :
    Linked (i.granted s) i.issuance ⟨i.grant, i.credit, i.transaction, i.counter⟩ :=
  { grant := by
      have hnone : s.creditGrant? i.grantId = none :=
        lookup_eq_none_iff.mpr fun g hg => (hi.grantNew g hg).1
      exact (lookup_append_of_none hnone).trans (by simp [lookup, Issue.grant])
    grantTenant := rfl
    grantLedger := rfl
    grantAccount := rfl
    entry := creditEntry?_posted hi
    entryTenant := rfl
    entryAccount := rfl
    transaction := transaction?_posted hi.toFresh
    transactionTenant := rfl
    transactionLedger := rfl
    account := hs.account? hi.counter
    accountTenant := hi.tenant
    accountLedger := hi.ledger }

/-- The validator asks only that the grant is live. -/
theorem checkIssuance_iff (hs : Usable s) (hi : i.Possible s) :
    checkCreditGrantEntry now (i.granted s) i.issuance = .ok () ↔ i.grant.LiveAt now := by
  have hlinked := linked_issuance hs hi
  have hpos := hi.amountPos
  have hamount : |-i.amountMinor| = i.amountMinor := (abs_neg _).trans (abs_of_pos hpos)
  rw [checkCreditGrantEntry_eq_ok_iff]
  constructor
  · rintro ⟨linked, h⟩
    obtain rfl := Option.some.inj ((linkedRows?_eq_some_iff.mpr hlinked).symm.trans
      (linkedRows?_eq_some_iff.mpr h.linkedRows))
    exact h.kind.2.2.2
  · intro hlive
    -- rows that are there already link to grants and entries that are there already
    have hknown : ∀ l ∈ s.creditGrantEntries, l.grantId ≠ i.grantId := by
      intro l hl hsame
      obtain ⟨linked, h⟩ := hs.reserve.grounded.links.lineage l hl
      exact (hi.grantNew linked.grant (mem_of_lookup h.grant)).1
        ((key_of_lookup h.grant).trans hsame)
    refine ⟨⟨i.grant, i.credit, i.transaction, i.counter⟩, ?_⟩
    exact
      { linkedRows := hlinked
        entryAsset := hi.asset.symm
        transactionAsset := hi.asset.symm
        amountLe := hamount.ge
        kind := ⟨neg_lt_zero.mpr hpos, hamount.symm, rfl, hlive⟩
        amountPos := hpos
        fresh := fun l hl hsame => hknown l hl hsame.1
        oneIssuance := fun _ l hl hsame => hknown l hl hsame.2
        oneReversal := fun hkind => by cases hkind }

theorem exec_issue (hs : Committed s) (hi : i.Possible s) :
    (i.issue now).exec s =
      (Statement.insertCreditGrantEntries [i.issuance]).exec now (i.granted s) := by
  refine (exec_posting hs.toUsable hi.toFresh _).trans ?_
  simp only [List.foldlM_cons, List.foldlM_nil, bind_pure]
  rw [exec_grant hs hi]
  rfl

theorem exec_issue_iff (hs : Committed s) (hi : i.Possible s) :
    (∃ s', (i.issue now).exec s = .ok s') ↔ i.grant.LiveAt now := by
  have husable := granted_usable hs hi
  rw [exec_issue hs hi, ← checkIssuance_iff hs.toUsable hi]
  constructor
  · rintro ⟨s', hexec⟩
    obtain ⟨stored, hstored, -⟩ := insertRows_eq_ok_iff.mp hexec
    exact (insertEach_cons_eq_ok_iff.mp hstored).1
  · intro hcheck
    exact insertLineage_accepted husable.reserve (List.nodup_singleton _)
      (insertEach_cons_eq_ok_iff.mpr ⟨hcheck, rfl⟩)

section Outcome

variable {s' : Db} (hs : Committed s) (hi : i.Possible s) (h : (i.issue now).exec s = .ok s')
include hs hi h

theorem sameTables_issue : SameTables (Db.withLineage (i.granted s) [i.issuance]) s' := by
  rw [exec_issue hs hi] at h
  exact exec_store h

theorem issue_usable : Usable s' := by
  rw [exec_issue hs hi] at h
  exact (granted_usable hs hi).statement h

/-- What is attributed to the credit is the issuance. -/
theorem attributedAmount_credit : s'.attributedAmount i.credit = i.amountMinor := by
  obtain ⟨versions, rfl⟩ := sameTables_issue hs hi h
  change sumWhere (s.creditGrantEntries ++ [i.issuance])
    (fun l => l.tenantId = i.account.tenantId ∧ l.entryId = i.creditId) (·.amountMinor) = _
  rw [sumWhere_append, attributed_new hs.toUsable hi.creditNew, zero_add, sumWhere_singleton]
  simp [Issue.issuance]

/-- The credit is attributed to the grant, and nothing else is asked at the end. -/
theorem deferred_issue : ∀ stmt ∈ (i.issue now).statements, stmt.deferred now s' = .ok () := by
  have hattributed := attributedAmount_credit hs hi h
  obtain ⟨haccounts, htransactions⟩ : s'.accounts = s.accounts ∧
      s'.transactions = s.transactions ++ [i.transaction] := by
    obtain ⟨versions, rfl⟩ := sameTables_issue hs hi h
    exact ⟨rfl, rfl⟩
  have hposting : ∀ e : Entry, e.tenantId = i.account.tenantId →
      e.transactionId = i.transactionId → checkPostingHold s' e = .ok () :=
    fun e htenant hid => checkPostingHold_posted hi.toFresh hi.none htransactions htenant hid
  have hdebit : assertGrantEntryAttributed s' i.debit = .ok () :=
    assertGrantEntryAttributed_other hs.toUsable haccounts hi.account hi.other rfl
  have hcredit : assertGrantEntryAttributed s' i.credit = .ok () := by
    have henabled : s'.grantEnabled i.credit.tenantId i.credit.accountId = true :=
      (grantEnabled_posted hs.toUsable haccounts hi.counter _).trans
        (decide_eq_true ⟨hi.tenant, hi.enabled⟩)
    have habs : |i.credit.signedAmountMinor| = i.amountMinor :=
      (abs_neg _).trans (abs_of_pos hi.amountPos)
    have hfound : s'.entryTransaction? i.credit = some i.transaction :=
      entryTransaction?_posted hi.toFresh htransactions rfl rfl
    have hrelation : i.transaction.relationType = none := rfl
    simp [assertGrantEntryAttributed, henabled, hattributed, habs, hfound, hrelation, raiseIf,
      Truth.of]
  have hentries : (Statement.insertEntries [i.debit, i.credit]).deferred now s' = .ok () := by
    simp only [Statement.deferred, checkEach_eq_ok_iff, List.forall_mem_cons, bind_eq_ok_iff,
      exists_const, hdebit, hcredit, hposting i.debit rfl rfl, hposting i.credit rfl rfl,
      List.not_mem_nil, IsEmpty.forall_iff, implies_true, and_true]
  simp only [Issue.issue, List.forall_mem_cons, hentries, List.not_mem_nil, IsEmpty.forall_iff,
    implies_true, and_true, true_and]
  exact ⟨rfl, rfl, rfl⟩

/-- The grant has the amount free, the others what they had. -/
theorem freeMinor_issue (t g : Uuid) :
    freeMinor s' t g = freeMinor s t g +
      if t = i.account.tenantId ∧ g = i.grantId then i.amountMinor else 0 := by
  have hsame := sameTables_issue hs hi h
  have hadded := @latestMinor_added now s s' [i.issuance] [] hs.reserve
    (issue_usable hs hi h).reserve (txExec_steps h)
    (by obtain ⟨versions, rfl⟩ := hsame; rfl) (by obtain ⟨versions, rfl⟩ := hsame; rfl)
    (by obtain ⟨versions, rfl⟩ := hsame; exact (List.append_nil _).symm) t g
  have hdelta : (lineageEvent s' i.issuance).delta .remaining = i.amountMinor ∧
      (lineageEvent s' i.issuance).delta .reserved = 0 := by
    simp [lineageEvent, CapacityEvent.delta, lineageDelta, Issue.issuance]
  have hremaining := hadded .remaining
  have hreserved := hadded .reserved
  rw [sumWhere_singleton, sumWhere_nil, add_zero, hdelta.1] at hremaining
  rw [sumWhere_singleton, sumWhere_nil, add_zero, hdelta.2, ite_self, add_zero] at hreserved
  have hscope : (i.issuance.tenantId = t ∧ i.issuance.grantId = g) ↔
      t = i.account.tenantId ∧ g = i.grantId := and_congr eq_comm eq_comm
  simp only [Counter.column, decide_eq_true_eq, hscope] at hremaining hreserved
  unfold freeMinor activeCreditGrantReservation
  omega

theorem leftMinor_issue (id g : Uuid) : leftMinor s' id g = leftMinor s id g := by
  have hsame : s'.hold? id = s.hold? id ∧
      s'.creditGrantEntries = s.creditGrantEntries ++ [i.issuance] ∧
      s'.creditGrantHoldAllocations = s.creditGrantHoldAllocations ++ [] := by
    obtain ⟨versions, rfl⟩ := sameTables_issue hs hi h
    exact ⟨rfl, rfl, (List.append_nil _).symm⟩
  refine leftMinor_congr hsame.1 g fun hold _ => ?_
  rw [uncaptured_added hs.reserve (txExec_steps h) hsame.2.1 hsame.2.2, sumWhere_nil,
    sumWhere_eq_zero, sub_zero, add_zero]
  intro l hl hcondition
  obtain rfl := List.mem_singleton.mp hl
  have hkind : CreditGrantEntryKind.issuance = .consumption :=
    (of_decide_eq_true hcondition).2.2.1
  cases hkind

theorem purse_issue : purse s' = (purse s).issue i.grant i.amountMinor := by
  ext t g
  · obtain ⟨versions, rfl⟩ := sameTables_issue hs hi h
    rfl
  · exact freeMinor_issue hs hi h t g
  · exact leftMinor_issue hs hi h t g

end Outcome

/-- Nothing is free of a grant that is not there. -/
theorem freeMinor_unknown (hs : ReserveInvariant s) {g : Uuid}
    (hnew : ∀ grant ∈ s.creditGrants, grant.id ≠ g) (t : Uuid) : freeMinor s t g = 0 := by
  have hversions : s.versionsOf t g = [] := by
    refine List.filter_eq_nil_iff.mpr fun v hv hcondition => ?_
    obtain ⟨grant, hfound, -⟩ := hs.versions v hv
    exact hnew grant (mem_of_lookup hfound)
      ((key_of_lookup hfound).trans (of_decide_eq_true hcondition).2)
  simp [freeMinor, activeCreditGrantReservation, Db.latestMinor, Db.latestVersion, hversions,
    latestBy]

theorem commit_issue_iff (hs : Committed s) (hi : i.Possible s) :
    (∃ s', commit s (i.issue now) = .ok s') ↔ i.grant.LiveAt now := by
  rw [← exec_issue_iff hs hi]
  constructor
  · rintro ⟨s', hcommit⟩
    exact ⟨s', (commit_eq_ok_iff.mp hcommit).1⟩
  · rintro ⟨s', hexec⟩
    exact ⟨s', commit_eq_ok_iff.mpr ⟨hexec, deferred_issue hs hi hexec⟩⟩

/-- In every committed state a grant can be issued exactly if it is live, and its account can
then spend the amount more, until the grant expires. -/
theorem issuable_iff {log : List DbTransaction} (h : replay log = .ok s) (hi : i.Possible s) :
    ((∃ s', commit s (i.issue now) = .ok s') ↔ i.grant.LiveAt now) ∧
      ∀ s', commit s (i.issue now) = .ok s' →
        purse s' = (purse s).issue i.grant i.amountMinor ∧ ∀ time t a,
          (purse s').spendable time t a = (purse s).spendable time t a +
            if i.account.tenantId = t ∧ i.counter.id = a ∧ i.grant.LiveAt time
              then i.amountMinor else 0 := by
  have hs : Committed s := replay_committed h
  have hnew : ∀ g ∈ s.creditGrants, g.id ≠ i.grantId := fun g hg => (hi.grantNew g hg).1
  refine ⟨commit_issue_iff hs hi, fun s' hcommit => ?_⟩
  have hpurse := purse_issue hs hi (commit_eq_ok_iff.mp hcommit).1
  refine ⟨hpurse, fun time t a => ?_⟩
  rw [hpurse]
  exact Purse.spendable_issue hnew (freeMinor_unknown hs.reserve hnew _) time t a

end Issue

namespace Sample

/-- A second grant of 25, next to grant 300. -/
def bonus : Issue where
  transactionId := 170
  debitId := 270
  creditId := 271
  account := funding
  counter := prepaid
  amountMinor := 25
  effectiveAt := 6
  holdId := none
  grantId := 370
  expiresAt := some 90
  createdAt := 6

theorem bonus_possible : bonus.Possible (stateAfter log) := by
  refine ⟨?_, rfl, rfl, rfl, rfl, rfl, rfl, ?_⟩
  · constructor <;> decide +kernel
  · decide +kernel

end Sample

/-- It can be issued until it has expired. -/
theorem issuable_sample :
    (∃ s', commit (Sample.stateAfter Sample.log) (Sample.bonus.issue 89) = .ok s') ∧
      ¬ ∃ s', commit (Sample.stateAfter Sample.log) (Sample.bonus.issue 90) = .ok s' := by
  have hiff := fun now => (@issuable_iff _ _ now _ (Sample.replay_stateAfter (by rfl))
    Sample.bonus_possible).1
  exact ⟨(hiff 89).mpr (by decide), fun h => absurd ((hiff 90).mp h) (by decide)⟩

end LuxLedger.Credit
