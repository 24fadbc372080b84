/-
  Credit/Funding.lean --- refunds and expirations return value to whoever funded
  the grant.

  `validate_credit_grant_entry` compares the amount of an EXPIRATION or REFUND with
  what its tenant credits to the funding account in its transaction, once, while the lineage
  row is inserted.  Entries that are inserted later only add credits, so the two stay equal
  exactly as long as no later entry credits that account in that transaction; and they are
  equal at first when no other tenant has.
-/
import LuxLedger.Credit.Sums

set_option autoImplicit false

namespace LuxLedger.Credit

open LuxLedger.Schema LuxLedger.Relational

/-! ## What a returning row promises -/

/-- The row takes capacity back from the grant, for whoever funded it. -/
def Returning (l : CreditGrantEntry) : Prop := l.kind = .expiration ∨ l.kind = .refund

instance (l : CreditGrantEntry) : Decidable (Returning l) := inferInstanceAs (Decidable (_ ∨ _))

/-- What a transaction credits to an account, by entries of whatever tenant. -/
def accountCredit (s : Db) (transactionId accountId : Uuid) : Int :=
  sumWhere s.entries (fun e => e.transactionId = transactionId ∧ e.accountId = accountId ∧
    e.signedAmountMinor < 0) (fun e => - e.signedAmountMinor)

/-- The transaction of the row credits the funding account with the amount of the row,
and the entry of the row is a debit of the grant's account of that amount. -/
structure ReturnsValue (s : Db) (l : CreditGrantEntry) (linked : LinkedRows) : Prop where
  rows : Linked s l linked
  credited : accountCredit s linked.transaction.id linked.grant.fundingAccountId = l.amountMinor
  account : linked.entry.accountId = linked.grant.accountId
  debited : linked.entry.signedAmountMinor = l.amountMinor
  positive : 0 < l.amountMinor

/-- Every EXPIRATION and REFUND returns its value. -/
def FundingReturned (s : Db) : Prop :=
  ∀ l ∈ s.creditGrantEntries, Returning l → ∃ linked, ReturnsValue s l linked

/-- The entry credits the funding account of the row's grant in the row's transaction. -/
def CreditsFunder (s : Db) (l : CreditGrantEntry) (e : Entry) : Prop :=
  e.signedAmountMinor < 0 ∧
    (s.lineageEntry? l).any (fun debit => e.transactionId = debit.transactionId) ∧
    (s.creditGrant? l.grantId).any fun g => e.accountId = g.fundingAccountId

instance (s : Db) (l : CreditGrantEntry) (e : Entry) : Decidable (CreditsFunder s l e) :=
  inferInstanceAs (Decidable (_ ∧ _))

/-- The statement inserts no entry that credits the funder of a row that is already there,
and no row whose funder an entry of another tenant credits already. -/
structure CreditsOnce (s : Db) (step : Timestamp × Statement) : Prop where
  late : ∀ e ∈ step.2.newEntries, ∀ l ∈ s.creditGrantEntries, Returning l → ¬ CreditsFunder s l e
  own : ∀ l ∈ step.2.newCreditGrantEntries, Returning l → ∀ e ∈ s.entries, CreditsFunder s l e →
    e.tenantId = l.tenantId

instance (s : Db) (step : Timestamp × Statement) : Decidable (CreditsOnce s step) :=
  decidable_of_iff (_ ∧ _) ⟨fun h => ⟨h.1, h.2⟩, fun h => ⟨h.late, h.own⟩⟩

/-! ## One statement -/

/-- The debit of a returning row never falls short or changes; the credits of its
transaction never fall below it. -/
structure ReturnStarted (s : Db) (l : CreditGrantEntry) (linked : LinkedRows) : Prop where
  rows : Linked s l linked
  credited : l.amountMinor ≤
    accountCredit s linked.transaction.id linked.grant.fundingAccountId
  debited : linked.entry.signedAmountMinor = l.amountMinor
  positive : 0 < l.amountMinor

/-- Every returning row was checked when it was inserted. -/
def ReturnsStarted (s : Db) : Prop :=
  ∀ l ∈ s.creditGrantEntries, Returning l → ∃ linked, ReturnStarted s l linked

section Statement

variable {now : Timestamp} {s s' : Db} {stmt : Statement} {l : CreditGrantEntry}
  {linked : LinkedRows}

theorem ReturnStarted.returnsValue_iff (h : ReturnStarted s l linked) :
    (∃ linked, ReturnsValue s l linked) ↔
      accountCredit s linked.transaction.id linked.grant.fundingAccountId = l.amountMinor := by
  constructor
  · rintro ⟨linked', hvalue⟩
    obtain rfl : linked' = linked := Option.some.inj
      ((linkedRows?_eq_some_iff.mpr hvalue.rows).symm.trans (linkedRows?_eq_some_iff.mpr h.rows))
    exact hvalue.credited
  · intro hcredited
    exact ⟨linked, h.rows, hcredited, h.rows.entryAccount.trans h.rows.grantAccount.symm,
      h.debited, h.positive⟩

/-- Credits among some entries are none exactly when no entry is one. -/
theorem credits_eq_zero_iff {rows : List Entry} {p : Entry → Bool}
    (hp : ∀ e ∈ rows, p e = true → e.signedAmountMinor < 0) :
    sumWhere rows p (fun e => - e.signedAmountMinor) = 0 ↔ ∀ e ∈ rows, p e = false := by
  constructor
  · intro hzero e he
    by_contra hcredit
    have hcredit : p e = true := by simpa using hcredit
    have hle : - e.signedAmountMinor ≤ sumWhere rows p (fun e => - e.signedAmountMinor) := by
      refine le_sumWhere (f := fun e : Entry => - e.signedAmountMinor) he hcredit
        fun e' he' hcredit' => ?_
      have hnegative := hp e' he' hcredit'
      omega
    have hnegative := hp e he hcredit
    omega
  · intro hnone
    exact sumWhere_eq_zero fun e he hcredit => absurd hcredit (by simp [hnone e he])

theorem credits_nonneg {rows : List Entry} {p : Entry → Bool}
    (hp : ∀ e ∈ rows, p e = true → e.signedAmountMinor < 0) :
    0 ≤ sumWhere rows p (fun e => - e.signedAmountMinor) := by
  refine sumWhere_nonneg fun e he hcredit => ?_
  have hnegative := hp e he hcredit
  omega

theorem creditsFunder_iff (h : Linked s l linked) (e : Entry) :
    CreditsFunder s l e ↔ e.transactionId = linked.transaction.id ∧
      e.accountId = linked.grant.fundingAccountId ∧ e.signedAmountMinor < 0 := by
  have htransaction : linked.transaction.id = linked.entry.transactionId :=
    key_of_lookup h.transaction
  rw [CreditsFunder, h.lineageEntry, h.grant, Option.any_some, Option.any_some, htransaction,
    decide_eq_true_eq, decide_eq_true_eq]
  tauto

/-- The validator compared the amount with the credits of its tenant that were there. -/
theorem returnStarted_of_accepted (h : AcceptedLineage now s l linked) (hreturning : Returning l) :
    ReturnStarted s l linked ∧
      (accountCredit s linked.transaction.id linked.grant.fundingAccountId = l.amountMinor ↔
        ∀ e ∈ s.entries, CreditsFunder s l e → e.tenantId = l.tenantId) := by
  have hkind := h.kind
  unfold AcceptedKind at hkind
  have hdebit : 0 < linked.entry.signedAmountMinor ∧ l.amountMinor = linked.entryAmount ∧
      fundingCredit s l.tenantId linked.transaction.id linked.grant.fundingAccountId =
        l.amountMinor := by
    rcases hreturning with hk | hk
    · simp only [hk] at hkind
      exact ⟨hkind.1, hkind.2.1, hkind.2.2.2.2⟩
    · simp only [hk] at hkind
      exact ⟨hkind.1, hkind.2.1, hkind.2.2.2.2.2.2.2.2⟩
  obtain ⟨hpos, hamount, hcredited⟩ := hdebit
  have hentry : linked.entry.signedAmountMinor = l.amountMinor := by
    rw [hamount, LinkedRows.entryAmount, abs_of_pos hpos]
  -- the credits split into those of the row's tenant and the others
  have hall : accountCredit s linked.transaction.id linked.grant.fundingAccountId =
      l.amountMinor + sumWhere s.entries (fun e =>
        decide (CreditsFunder s l e) && !decide (e.tenantId = l.tenantId))
        (fun e => - e.signedAmountMinor) := by
    rw [← hcredited, accountCredit, sumWhere_split fun e => e.tenantId = l.tenantId]
    congr 1
    · refine sumWhere_congr (fun e _ => ?_) fun _ _ _ => rfl
      rw [← Bool.decide_and]
      exact decide_eq_decide.mpr and_comm
    · refine sumWhere_congr (fun e _ => ?_) fun _ _ _ => rfl
      rw [decide_eq_decide.mpr (creditsFunder_iff h.linkedRows e)]
  have hother : ∀ e ∈ s.entries, (decide (CreditsFunder s l e) &&
      !decide (e.tenantId = l.tenantId)) = true → e.signedAmountMinor < 0 :=
    fun e _ hcredit => (of_decide_eq_true (Bool.and_eq_true_iff.mp hcredit).1).1
  refine ⟨⟨h.linkedRows, ?_, hentry, h.amountPos⟩, ?_⟩
  · have hnonneg := credits_nonneg hother
    omega
  · have hzero := credits_eq_zero_iff hother
    rw [hall, add_eq_left, hzero]
    refine forall₂_congr fun e _ => ?_
    simp

/-- New entries add their credits. -/
theorem accountCredit_exec (h : stmt.exec now s = .ok s') (id a : Uuid) :
    accountCredit s' id a = accountCredit s id a + sumWhere stmt.newEntries
      (fun e => e.transactionId = id ∧ e.accountId = a ∧ e.signedAmountMinor < 0)
      (fun e => - e.signedAmountMinor) := by
  rw [accountCredit, (exec_inserted h).entries, sumWhere_append]
  rfl

/-- A row that was there keeps its value over a statement exactly when the statement
credits its funder nothing. -/
theorem ReturnStarted.exec (hl : ReturnStarted s l linked) (h : stmt.exec now s = .ok s') :
    ReturnStarted s' l linked ∧
      ((∃ linked, ReturnsValue s' l linked) ↔ (∃ linked, ReturnsValue s l linked) ∧
        ∀ e ∈ stmt.newEntries, ¬ CreditsFunder s l e) := by
  have hcredit := accountCredit_exec h linked.transaction.id linked.grant.fundingAccountId
  have hnegative : ∀ e ∈ stmt.newEntries, decide (e.transactionId = linked.transaction.id ∧
      e.accountId = linked.grant.fundingAccountId ∧ e.signedAmountMinor < 0) = true →
      e.signedAmountMinor < 0 := fun e _ hcredit => (of_decide_eq_true hcredit).2.2
  have hnonneg := credits_nonneg hnegative
  have hlate := credits_eq_zero_iff hnegative
  have hstarted : ReturnStarted s' l linked :=
    { hl with
      rows := (RowSteps.extends (exec_steps h)).linked hl.rows
      credited := by
        have hle := hl.credited
        omega }
  refine ⟨hstarted, ?_⟩
  rw [hstarted.returnsValue_iff, hl.returnsValue_iff]
  simp only [creditsFunder_iff hl.rows, decide_eq_false_iff_not] at hlate ⊢
  rw [← hlate]
  have hle := hl.credited
  omega

/-- A row that the statement inserts returns its value when the statement ends, exactly when
only its own tenant credits the funder. -/
theorem returnStarted_new (h : stmt.exec now s = .ok s') (hl : l ∈ stmt.newCreditGrantEntries)
    (hreturning : Returning l) :
    (∃ linked, ReturnStarted s' l linked) ∧ ((∃ linked, ReturnsValue s' l linked) ↔
      ∀ e ∈ s.entries, CreditsFunder s l e → e.tenantId = l.tenantId) := by
  cases stmt with
  | insertCreditGrantEntries rows =>
      obtain ⟨stored, hstored, hafter⟩ := insertRows_eq_ok_iff.mp h
      obtain ⟨before, rest, rfl⟩ := List.append_of_mem hl
      have hcheck := insertEach_checked hstored
      obtain ⟨hbefore, -⟩ := insertEach_split hstored
      obtain ⟨linked, haccepted⟩ := checkCreditGrantEntry_ok hcheck
      obtain ⟨hstarted, hcredited⟩ := returnStarted_of_accepted haccepted hreturning
      -- the rows before it are lineage, so the entries and grants are those of the statement
      have hmid : (before.foldl Db.addCreditGrantEntry s).entries = s.entries :=
        insertEach_frame hbefore fun _ _ => rfl
      have hgrants : (before.foldl Db.addCreditGrantEntry s).creditGrants = s.creditGrants :=
        insertEach_frame hbefore fun _ _ => rfl
      have hentries : s'.entries = (before.foldl Db.addCreditGrantEntry s).entries := by
        rw [(exec_inserted h).entries, hmid]
        exact List.append_nil _
      have hsteps : RowSteps now (before.foldl Db.addCreditGrantEntry s) s' :=
        (insertEach_steps (fun _ _ _ hcheck => .creditGrantEntry hcheck)
          (insertEach_split hstored).2).trans
          (foldlM_steps (fun _ _ _ _ hrow => (insertCapacityVersion_step hrow).1 now) hafter)
      have hsame : accountCredit s' linked.transaction.id linked.grant.fundingAccountId =
          accountCredit (before.foldl Db.addCreditGrantEntry s) linked.transaction.id
            linked.grant.fundingAccountId := by
        rw [accountCredit, accountCredit, hentries]
      have hstarted' : ReturnStarted s' l linked :=
        ⟨(RowSteps.extends hsteps).linked hstarted.rows, hsame.symm ▸ hstarted.credited,
          hstarted.debited, hstarted.positive⟩
      refine ⟨⟨linked, hstarted'⟩, ?_⟩
      rw [hstarted'.returnsValue_iff, hsame, hcredited, hmid]
      refine forall₂_congr fun e _ => imp_congr_left ?_
      simp only [CreditsFunder, Db.lineageEntry?, Db.entry?, Db.creditGrant?, hmid, hgrants]
  | _ => cases hl

/-- All values are returned after a statement exactly when they were before it and it
credits funders once. -/
theorem fundingReturned_exec (hs : ReturnsStarted s) (h : stmt.exec now s = .ok s') :
    ReturnsStarted s' ∧ (FundingReturned s' ↔ FundingReturned s ∧ CreditsOnce s (now, stmt)) := by
  have hrows := (exec_inserted h).creditGrantEntries
  constructor
  · intro l hl hreturning
    rw [hrows] at hl
    rcases List.mem_append.mp hl with hold | hnew
    · obtain ⟨linked, hstarted⟩ := hs l hold hreturning
      exact ⟨linked, (hstarted.exec h).1⟩
    · exact (returnStarted_new h hnew hreturning).1
  · constructor
    · intro hreturned
      have hrow : ∀ l ∈ s.creditGrantEntries, Returning l →
          (∃ linked, ReturnsValue s l linked) ∧ ∀ e ∈ stmt.newEntries, ¬ CreditsFunder s l e := by
        intro l hl hreturning
        obtain ⟨linked, hstarted⟩ := hs l hl hreturning
        rw [← (hstarted.exec h).2]
        exact hreturned l (hrows ▸ List.mem_append_left _ hl) hreturning
      refine ⟨fun l hl hreturning => (hrow l hl hreturning).1,
        fun e he l hl hreturning => (hrow l hl hreturning).2 e he, fun l hl hreturning => ?_⟩
      exact (returnStarted_new h hl hreturning).2.mp
        (hreturned l (hrows ▸ List.mem_append_right _ hl) hreturning)
    · rintro ⟨hreturned, honce⟩ l hl hreturning
      rw [hrows] at hl
      rcases List.mem_append.mp hl with hold | hnew
      · obtain ⟨linked, hstarted⟩ := hs l hold hreturning
        exact (hstarted.exec h).2.mpr
          ⟨hreturned l hold hreturning, fun e he => honce.late e he l hold hreturning⟩
      · exact (returnStarted_new h hnew hreturning).2.mpr (honce.own l hnew hreturning)

end Statement

/-! ## Runs -/

theorem runStatements_fundingReturned {steps : List (Timestamp × Statement)} {s : Db}
    (h : replayStatements steps = .ok s) :
    ReturnsStarted s ∧ (FundingReturned s ↔
      AlongRun (fun s step => step.2.exec step.1 s) CreditsOnce Db.empty steps) := by
  refine run_induction (P := fun steps s => ReturnsStarted s ∧ (FundingReturned s ↔
    AlongRun (fun s step => step.2.exec step.1 s) CreditsOnce Db.empty steps)) ?_ ?_ h
  · exact ⟨fun _ hl => absurd hl List.not_mem_nil,
      fun _ => trivial, fun _ _ hl => absurd hl List.not_mem_nil⟩
  · rintro steps s ⟨now, stmt⟩ s' hsteps ⟨hs, hreturned⟩ hexec
    obtain ⟨hs', hiff⟩ := fundingReturned_exec hs hexec
    refine ⟨hs', ?_⟩
    rw [alongRun_concat_iff hsteps hexec, hiff, hreturned]

/-- Refunds and expirations have returned their value in a committed state exactly when
no statement so far has credited a funder after the lineage row, or inserted a lineage row
whose funder another tenant had credited. -/
theorem fundingReturned_iff {log : List DbTransaction} {s : Db} (h : replay log = .ok s) :
    FundingReturned s ↔ AlongRun (fun s step => step.2.exec step.1 s) CreditsOnce Db.empty
      (timedStatements log) :=
  (runStatements_fundingReturned (replayStatements_of_replay h)).2

/-- In the small run with a late capture the rest of the grant expires, funded in full. -/
def Sample.expired : List DbTransaction :=
  [⟨0, accounts⟩, ⟨1, issuance 0 (some 50)⟩,
    ⟨61, [.insertTransactions [⟨170, 1, 5, none, none, none, 1, 61⟩],
      .insertEntries [⟨270, 1, 170, 10, 100, 1⟩, ⟨271, 1, 170, 11, -100, 1⟩],
      .insertCreditGrantEntries [⟨1, 5, 10, 300, 270, .expiration, 100⟩]]⟩]

theorem fundingReturned_iff_sample :
    FundingReturned (Sample.stateAfter Sample.expired) ∧
      (Sample.stateAfter Sample.expired).lineageTotal 1 300 .expiration = 100 :=
  ⟨(fundingReturned_iff (Sample.replay_stateAfter (by rfl))).mpr (by decide +kernel), by rfl⟩

/-- A later entry credits the funding account 30 more in the same transaction. -/
def Sample.lateCredit : List DbTransaction :=
  Sample.expired ++ [⟨62, [.insertEntries [⟨272, 1, 170, 11, -30, 1⟩]]⟩]

/-- The entry is accepted, and 130 are credited for the 100 that expired. -/
theorem late_credit_accepted :
    replay Sample.lateCredit = .ok (Sample.stateAfter Sample.lateCredit) ∧
      ¬ FundingReturned (Sample.stateAfter Sample.lateCredit) := by
  have hreplay : replay Sample.lateCredit = .ok (Sample.stateAfter Sample.lateCredit) :=
    Sample.replay_stateAfter (by rfl)
  refine ⟨hreplay, fun hreturned => ?_⟩
  have hrow : (⟨1, 5, 10, 300, 270, .expiration, 100⟩ : CreditGrantEntry) ∈
      (Sample.stateAfter Sample.lateCredit).creditGrantEntries := by decide +kernel
  obtain ⟨linked, hvalue⟩ := hreturned _ hrow (Or.inl rfl)
  have hcredited := hvalue.credited
  obtain rfl : linked = ⟨⟨300, 1, 5, 10, 11, 100, some 50, 1⟩, ⟨270, 1, 170, 10, 100, 1⟩,
      ⟨170, 1, 5, none, none, none, 1, 61⟩, ⟨10, 1, 5, .credit, .disallow, 1, true⟩⟩ :=
    Option.some.inj ((linkedRows?_eq_some_iff.mpr hvalue.rows).symm.trans (by rfl))
  exact absurd hcredited (by decide +kernel)

end LuxLedger.Credit
