/-
  Credit/Attribution.lean --- entries on grant-enabled accounts and their lineage.

  The deferred trigger on entries sees an entry once, at the commit that inserts it;
  nothing looks at the entry again when lineage is added later.  It sees an account of
  another tenant as one that is not grant-enabled.  So attribution is full exactly as long
  as every database transaction attributes its own entries only and none is on an account
  of another tenant, and then the balance of an account is what remains of its grants.
-/
import LuxLedger.Credit.CapacityFold
import LuxLedger.Credit.OtherTenants

set_option autoImplicit false

namespace LuxLedger.Credit

open LuxLedger.Schema LuxLedger.Relational

/-! ## Full attribution -/

/-- Every entry on a grant-enabled account has lineage for exactly its amount. -/
def FullyAttributed (s : Db) : Prop :=
  ∀ e ∈ s.entries, isGrantAccount s e.accountId = true →
    lineageAmount s e.id = |e.signedAmountMinor|

/-- Every entry on a grant-enabled account of its own tenant has. -/
def TenantAttributed (s : Db) : Prop :=
  ∀ e ∈ s.entries, s.grantEnabled e.tenantId e.accountId = true →
    s.attributedAmount e = |e.signedAmountMinor|

/-- Every lineage row is inserted with the entry it attributes. -/
def AttributesOwnEntries (tx : DbTransaction) : Prop :=
  ∀ l ∈ tx.newCreditGrantEntries, ∃ e ∈ tx.newEntries, e.id = l.entryId

instance (tx : DbTransaction) : Decidable (AttributesOwnEntries tx) :=
  inferInstanceAs (Decidable (∀ l ∈ tx.newCreditGrantEntries, _))

/-- No entry on a grant-enabled account has too little lineage. -/
def Covered (s : Db) : Prop :=
  ∀ e ∈ s.entries, s.grantEnabled e.tenantId e.accountId = true →
    |e.signedAmountMinor| ≤ s.attributedAmount e

/-- Some entry on a grant-enabled account has too much. -/
def OverAttributed (s : Db) : Prop :=
  ∃ e ∈ s.entries, s.grantEnabled e.tenantId e.accountId = true ∧
    |e.signedAmountMinor| < s.attributedAmount e

theorem assertGrantEntryAttributed_ok {s : Db} {e : Entry}
    (h : assertGrantEntryAttributed s e = .ok ())
    (henabled : s.grantEnabled e.tenantId e.accountId = true) :
    s.attributedAmount e = |e.signedAmountMinor| ∧
      ((s.entryTransaction? e).bind (·.relationType) = some .reversal →
        originalAmount s e ((s.entryTransaction? e).bind (·.relatedTransactionId)) ≠ 0 ∧
          reversalAmount s e =
            originalAmount s e ((s.entryTransaction? e).bind (·.relatedTransactionId))) := by
  simp only [assertGrantEntryAttributed, henabled, if_true, bind_eq_ok_iff, raiseIf_eq_ok_iff,
    ne_eq, Truth.of_eq_true_iff, not_not] at h
  obtain ⟨⟨⟩, hattributed, hmirror⟩ := h
  refine ⟨hattributed, fun hreversal => ?_⟩
  rw [if_pos hreversal, raiseIf_eq_ok_iff, ne_eq, Truth.of_eq_true_iff, not_or, not_not]
    at hmirror
  exact hmirror

section Commit

variable {s s' : Db} {tx : DbTransaction}

/-- What an old entry gains in a database transaction. -/
theorem attributedAmount_commit (h : commit s tx = .ok s') (e : Entry) :
    s'.attributedAmount e = s.attributedAmount e + sumWhere tx.newCreditGrantEntries
      (fun l => l.tenantId = e.tenantId ∧ l.entryId = e.id) (·.amountMinor) := by
  rw [Db.attributedAmount, commit_creditGrantEntries h, sumWhere_append]
  rfl

theorem newAmount_pos (hs : WellFormed s) (h : commit s tx = .ok s') {l : CreditGrantEntry}
    (hl : l ∈ tx.newCreditGrantEntries) : 0 < l.amountMinor := by
  refine amountMinor_pos (RowSteps.wellFormed (commit_steps h) hs).links.history ?_
  rw [commit_creditGrantEntries h]
  exact List.mem_append_right _ hl

/-- An entry that is there keeps the capability of its account. -/
theorem grantEnabled_commit (hs : WellFormed s) (h : commit s tx = .ok s') {e : Entry}
    (he : e ∈ s.entries) :
    s'.grantEnabled e.tenantId e.accountId = s.grantEnabled e.tenantId e.accountId :=
  (RowSteps.extends (commit_steps h)).grantEnabled (hs.links.entries e he).2.2

theorem covered_commit (hs : WellFormed s) (hcovered : Covered s) (h : commit s tx = .ok s') :
    Covered s' := by
  intro e he henabled
  rw [commit_entries h] at he
  rcases List.mem_append.mp he with hold | hnew
  · rw [grantEnabled_commit hs h hold] at henabled
    have hle := hcovered e hold henabled
    have hgain : 0 ≤ sumWhere tx.newCreditGrantEntries
        (fun l => l.tenantId = e.tenantId ∧ l.entryId = e.id) (·.amountMinor) :=
      sumWhere_nonneg fun l hl _ => (newAmount_pos hs h hl).le
    rw [attributedAmount_commit h e]
    omega
  · exact (assertGrantEntryAttributed_ok (deferred_entry h hnew).1 henabled).1.ge

/-- A database transaction that attributes its own entries leaves the old ones alone. -/
theorem tenantAttributed_commit (hs : WellFormed s) (hfull : TenantAttributed s)
    (h : commit s tx = .ok s') (hown : AttributesOwnEntries tx) : TenantAttributed s' := by
  intro e he henabled
  have hkeys := (RowSteps.wellFormed (commit_steps h) hs).keys.entries
  rw [commit_entries h] at he
  rcases List.mem_append.mp he with hold | hnew
  · rw [grantEnabled_commit hs h hold] at henabled
    have hgain : sumWhere tx.newCreditGrantEntries
        (fun l => l.tenantId = e.tenantId ∧ l.entryId = e.id) (·.amountMinor) = 0 := by
      apply sumWhere_eq_zero
      intro l hl hcondition
      obtain ⟨e', he', hid⟩ := hown l hl
      have hsame : e'.id = e.id := hid.trans (of_decide_eq_true hcondition).2
      -- ids are unique over the old and the new entries
      rw [UniqueKey, commit_entries h, List.map_append] at hkeys
      exact absurd hsame.symm ((List.nodup_append.mp hkeys).2.2 _ (List.mem_map_of_mem hold) _
        (List.mem_map_of_mem he'))
    rw [attributedAmount_commit h e, hgain, add_zero]
    exact hfull e hold henabled
  · exact (assertGrantEntryAttributed_ok (deferred_entry h hnew).1 henabled).1

/-- A late lineage row attributes an old entry beyond its amount. -/
theorem overAttributed_of_late (hs : WellFormed s) (hcovered : Covered s)
    (h : commit s tx = .ok s') (hlate : ¬ AttributesOwnEntries tx) : OverAttributed s' := by
  unfold AttributesOwnEntries at hlate
  push Not at hlate
  obtain ⟨l, hl, hother⟩ := hlate
  have hlinks := (RowSteps.wellFormed (commit_steps h) hs).links
  have hmem : l ∈ s'.creditGrantEntries := by
    rw [commit_creditGrantEntries h]
    exact List.mem_append_right _ hl
  obtain ⟨linked, hlink⟩ := hlinks.lineage l hmem
  have hrows := hlink.rows
  have hid : linked.entry.id = l.entryId := key_of_lookup hrows.entry
  have hentry : linked.entry ∈ s.entries := by
    have hany : linked.entry ∈ s'.entries := mem_of_lookup hrows.entry
    rw [commit_entries h] at hany
    rcases List.mem_append.mp hany with hold | hnew
    · exact hold
    · exact absurd hid (hother _ hnew)
  have henabled : s'.grantEnabled linked.entry.tenantId linked.entry.accountId = true := by
    have hgrant := (hlinks.creditGrants _ (mem_of_lookup hrows.grant)).2
    rw [hrows.entryTenant, hrows.entryAccount, ← hrows.grantTenant, ← hrows.grantAccount]
    exact hgrant
  have hle := hcovered _ hentry ((grantEnabled_commit hs h hentry) ▸ henabled)
  have hgain : l.amountMinor ≤ sumWhere tx.newCreditGrantEntries
      (fun l => l.tenantId = linked.entry.tenantId ∧ l.entryId = linked.entry.id)
      (·.amountMinor) :=
    le_sumWhere hl (by simp [hid, hrows.entryTenant]) fun l' hl' _ => (newAmount_pos hs h hl').le
  have hpos := newAmount_pos hs h hl
  refine ⟨linked.entry, mem_of_lookup hrows.entry, henabled, ?_⟩
  rw [attributedAmount_commit h]
  omega

theorem overAttributed_commit (hs : WellFormed s) (hover : OverAttributed s)
    (h : commit s tx = .ok s') : OverAttributed s' := by
  obtain ⟨e, he, henabled, hlt⟩ := hover
  have hgain : 0 ≤ sumWhere tx.newCreditGrantEntries
      (fun l => l.tenantId = e.tenantId ∧ l.entryId = e.id) (·.amountMinor) :=
    sumWhere_nonneg fun l hl _ => (newAmount_pos hs h hl).le
  refine ⟨e, ?_, (grantEnabled_commit hs h he).trans henabled, ?_⟩
  · rw [commit_entries h]
    exact List.mem_append_left _ he
  · rw [attributedAmount_commit h]
    omega

end Commit

/-- Along a run: entries are covered, and either every database transaction has
attributed its own entries and attribution is full, or one has not and some entry is
over-attributed. -/
theorem replay_attribution {log : List DbTransaction} {s : Db} (h : replay log = .ok s) :
    WellFormed s ∧ Covered s ∧ (((∀ tx ∈ log, AttributesOwnEntries tx) ∧ TenantAttributed s) ∨
      ((¬ ∀ tx ∈ log, AttributesOwnEntries tx) ∧ OverAttributed s)) := by
  refine run_induction (P := fun log s => WellFormed s ∧ Covered s ∧
    (((∀ tx ∈ log, AttributesOwnEntries tx) ∧ TenantAttributed s) ∨
      ((¬ ∀ tx ∈ log, AttributesOwnEntries tx) ∧ OverAttributed s))) ?_ ?_ h
  · exact ⟨WellFormed.empty, fun _ he => absurd he List.not_mem_nil,
      Or.inl ⟨fun _ hx => absurd hx List.not_mem_nil, fun _ he => absurd he List.not_mem_nil⟩⟩
  · rintro log s tx s' - ⟨hs, hcovered, hattribution⟩ hcommit
    refine ⟨RowSteps.wellFormed (commit_steps hcommit) hs, covered_commit hs hcovered hcommit, ?_⟩
    rcases hattribution with ⟨hall, hfull⟩ | ⟨hlate, hover⟩
    · by_cases hown : AttributesOwnEntries tx
      · exact Or.inl ⟨forall_mem_concat hall hown, tenantAttributed_commit hs hfull hcommit hown⟩
      · refine Or.inr ⟨fun hconcat => hown (hconcat tx (by simp)), ?_⟩
        exact overAttributed_of_late hs hcovered hcommit hown
    · refine Or.inr ⟨fun hconcat => hlate fun x hx => hconcat x (List.mem_append_left _ hx), ?_⟩
      exact overAttributed_commit hs hover hcommit

theorem replay_tenantAttributed {log : List DbTransaction} {s : Db} (h : replay log = .ok s)
    (hown : ∀ tx ∈ log, AttributesOwnEntries tx) : TenantAttributed s := by
  obtain ⟨-, -, ⟨-, hfull⟩ | ⟨hlate, -⟩⟩ := replay_attribution h
  · exact hfull
  · exact absurd hown hlate

/-- Within each tenant attribution is full in a committed state exactly when every database
transaction so far has attributed only entries it inserted itself. -/
theorem tenantAttributed_iff {log : List DbTransaction} {s : Db} (h : replay log = .ok s) :
    TenantAttributed s ↔ ∀ tx ∈ log, AttributesOwnEntries tx := by
  obtain ⟨-, -, hattribution⟩ := replay_attribution h
  rcases hattribution with ⟨hall, hfull⟩ | ⟨hlate, e, he, henabled, hlt⟩
  · exact ⟨fun _ => hall, fun _ => hfull⟩
  · refine ⟨fun hfull => ?_, fun hall => absurd hall hlate⟩
    have heq := hfull e he henabled
    omega

/-- Over all tenants it is full when besides no entry is on the account of another. -/
theorem fullyAttributed_iff_tenant {s : Db} (hs : WellFormed s) :
    FullyAttributed s ↔ TenantAttributed s ∧ EntriesOnOwnAccounts s := by
  constructor
  · intro hfull
    refine ⟨fun e he henabled => ?_, fun e he a ha henabled => ?_⟩
    · rw [← lineageAmount_eq hs he]
      exact hfull e he (isGrantAccount_of_enabled henabled)
    · have hgrant : isGrantAccount s e.accountId = true :=
        isGrantAccount_eq_true_iff.mpr ⟨a, ha, henabled⟩
      by_contra htenant
      have hnone : lineageAmount s e.id = 0 :=
        lineageAmount_foreign hs he fun hown => htenant (hown a ha henabled)
      have hamount := hfull e he hgrant
      rw [hnone] at hamount
      exact (hs.links.entries e he).1 (abs_eq_zero.mp hamount.symm)
  · rintro ⟨hfull, hown⟩ e he hgrant
    rw [lineageAmount_eq hs he]
    exact hfull e he ((hown e he).enabled hgrant)

/-- Attribution is full in a committed state exactly when every database transaction so far
has attributed only entries it inserted itself, and none has inserted an entry on a
grant-enabled account of another tenant. -/
theorem fullyAttributed_iff {log : List DbTransaction} {s : Db} (h : replay log = .ok s) :
    FullyAttributed s ↔ (∀ tx ∈ log, AttributesOwnEntries tx) ∧ OwnTenantEntries log := by
  rw [fullyAttributed_iff_tenant (replay_wellFormed h), tenantAttributed_iff h,
    ownTenantEntries_iff h]

/-- In the small run every database transaction attributes its own entries. -/
theorem fullyAttributed_iff_sample :
    FullyAttributed (Sample.stateAfter Sample.log) ∧
      (∀ tx ∈ Sample.log, AttributesOwnEntries tx) ∧ OwnTenantEntries Sample.log := by
  have hown : (∀ tx ∈ Sample.log, AttributesOwnEntries tx) ∧ OwnTenantEntries Sample.log := by
    decide
  exact ⟨(fullyAttributed_iff (Sample.replay_stateAfter (by rfl))).mpr hown, hown⟩

/-- Two grants, a posting of 40 on the first, and later a lineage row of the second
grant for the same posting. -/
def Sample.lateLineage : List DbTransaction :=
  [⟨0, accounts⟩, ⟨1, issuance 0 none⟩, ⟨1, issuance 1 none⟩, ⟨2, spending⟩,
    ⟨3, [.insertCreditGrantEntries [⟨1, 5, 10, 301, 250, .consumption, 40⟩]]⟩]

/-- The late row is accepted, and the posting of 40 is then attributed for 80. -/
theorem late_lineage_overattributes :
    replay Sample.lateLineage = .ok (Sample.stateAfter Sample.lateLineage) ∧
      ¬ FullyAttributed (Sample.stateAfter Sample.lateLineage) := by
  refine ⟨Sample.replay_stateAfter (by rfl), ?_⟩
  intro hfull
  have hentry := hfull ⟨250, 1, 150, 10, 40, 1⟩ (by decide +kernel) (by rfl)
  revert hentry
  decide +kernel

/-! ## Lineage by entry and by grant -/

section Groups

variable {s : Db} (hs : WellFormed s)
include hs

/-- The lineage of some entries is what is attributed to them. -/
theorem lineage_by_entry (p : Entry → Bool) :
    sumWhere s.creditGrantEntries (fun l => (s.lineageEntry? l).any p) (·.amountMinor) =
      sumWhere s.entries p s.attributedAmount := by
  rw [← sumWhere_groups CreditGrantEntry.entryId Entry.id p hs.keys.entries]
  · refine sumWhere_congr (fun _ _ => rfl) fun e he hpe => ?_
    refine sumWhere_congr (fun l hl => ?_) fun _ _ _ => rfl
    obtain ⟨linked, hlink⟩ := hs.links.lineage l hl
    by_cases hid : l.entryId = e.id
    · have hentry := linked_entry_eq hs.keys hlink.rows he hid
      have htenant := hlink.rows.entryTenant
      rw [hentry] at htenant
      simp [hlink.rows.lineageEntry, hentry, hpe, hid, htenant]
    · simp [hid]
  · intro l hl hcondition
    obtain ⟨linked, hlink⟩ := hs.links.lineage l hl
    rw [hlink.rows.lineageEntry, Option.any_some] at hcondition
    exact ⟨linked.entry, mem_of_lookup hlink.rows.entry, hcondition, key_of_lookup hlink.rows.entry⟩

/-- The lineage of an account is that of its grants. -/
theorem lineage_by_grant (t a : Uuid) (q : CreditGrantEntry → Prop) [DecidablePred q] :
    sumWhere s.creditGrantEntries (fun l => l.tenantId = t ∧ l.accountId = a ∧ q l)
        (·.amountMinor) =
      sumWhere s.creditGrants (fun g => g.tenantId = t ∧ g.accountId = a) (fun g =>
        sumWhere s.creditGrantEntries (fun l => l.tenantId = t ∧ l.grantId = g.id ∧ q l)
          (·.amountMinor)) := by
  rw [← sumWhere_groups CreditGrantEntry.grantId CreditGrant.id
    (fun g => g.tenantId = t ∧ g.accountId = a) hs.keys.creditGrants]
  · refine sumWhere_congr (fun _ _ => rfl) fun g hg hscope => ?_
    refine sumWhere_congr (fun l hl => ?_) fun _ _ _ => rfl
    obtain ⟨linked, hlink⟩ := hs.links.lineage l hl
    rw [← Bool.decide_and]
    refine decide_eq_decide.mpr ⟨fun h => ⟨h.1.1, h.2, h.1.2.2⟩, ?_⟩
    rintro ⟨htenant, hgrant, hq⟩
    have haccount := hlink.rows.grantAccount
    rw [linked_grant_eq hs.keys hlink.rows hg hgrant, (of_decide_eq_true hscope).2] at haccount
    exact ⟨⟨htenant, haccount.symm, hq⟩, hgrant⟩
  · intro l hl hcondition
    obtain ⟨linked, hlink⟩ := hs.links.lineage l hl
    obtain ⟨htenant, haccount, -⟩ := of_decide_eq_true hcondition
    refine ⟨linked.grant, mem_of_lookup hlink.rows.grant, ?_, key_of_lookup hlink.rows.grant⟩
    simp [hlink.rows.grantTenant, hlink.rows.grantAccount, htenant, haccount]

end Groups

/-! ## Conservation -/

/-- The sum of the signed amounts of all entries on an account. -/
def accountBalance (s : Db) (accountId : Uuid) : Int :=
  sumWhere s.entries (fun e => e.accountId = accountId) (·.signedAmountMinor)

/-- What remains of the grants of an account, by their latest capacity versions. -/
def remainingTotal (s : Db) (accountId : Uuid) : Int :=
  sumWhere s.creditGrants (fun g => g.accountId = accountId)
    (fun g => s.latestMinor g.tenantId g.id (·.remainingMinor))

/-- The part of the balance that a tenant has posted. -/
def tenantBalance (s : Db) (tenantId accountId : Uuid) : Int :=
  sumWhere s.entries (fun e => e.tenantId = tenantId ∧ e.accountId = accountId)
    (·.signedAmountMinor)

/-- The part of the balance that other tenants have posted. -/
def otherBalance (entries : List Entry) (a : Account) : Int :=
  sumWhere entries (fun e => e.accountId = a.id ∧ e.tenantId ≠ a.tenantId) (·.signedAmountMinor)

/-- What remains of the grants that a tenant has on an account. -/
def tenantRemaining (s : Db) (tenantId accountId : Uuid) : Int :=
  sumWhere s.creditGrants (fun g => g.tenantId = tenantId ∧ g.accountId = accountId)
    (fun g => s.latestMinor tenantId g.id (·.remainingMinor))

/-- Minus the balance of every grant-enabled account is what remains of its grants, and none
is overdrawn. -/
def CreditConserved (s : Db) : Prop :=
  ∀ a ∈ s.accounts, a.grantEnabled = true →
    - accountBalance s a.id = remainingTotal s a.id ∧ accountBalance s a.id ≤ 0

/-- On every grant-enabled account the entries that other tenants insert sum to zero. -/
def OthersCancel (log : List DbTransaction) : Prop :=
  ∀ a ∈ log.flatMap DbTransaction.newAccounts, a.grantEnabled = true →
    otherBalance (log.flatMap DbTransaction.newEntries) a = 0

instance (log : List DbTransaction) : Decidable (OthersCancel log) :=
  inferInstanceAs (Decidable (∀ a ∈ log.flatMap DbTransaction.newAccounts, _))

/-- The sign of a kind in what remains is against the sign of its posting. -/
theorem lineageDelta_remaining {l : CreditGrantEntry} {linked : LinkedRows}
    (h : KindLink l linked) (onHold : Bool) :
    lineageDelta l.kind l.amountMinor onHold .remaining =
      if linked.entry.signedAmountMinor < 0 then l.amountMinor else - l.amountMinor := by
  unfold KindLink at h
  unfold lineageDelta
  cases hk : l.kind with
  | issuance =>
      simp only [hk] at h
      simp [h.1]
  | compensation =>
      simp only [hk] at h
      simp [h.1]
  | reversal =>
      simp only [hk] at h
      simp [not_lt.mpr h.1.le]
  | consumption =>
      simp only [hk] at h
      simp [not_lt.mpr h.le]
  | expiration =>
      simp only [hk] at h
      simp [not_lt.mpr h.1.le]
  | refund =>
      simp only [hk] at h
      simp [not_lt.mpr h.1.le]

section Conservation

variable {s : Db} (hs : WellFormed s) (t a : Uuid)
include hs

/-- What remains of the grants of an account, row by row of its lineage. -/
theorem tenantRemaining_eq_lineage (htracks : Tracks s (capacityEvents s)) :
    tenantRemaining s t a =
      sumWhere s.creditGrantEntries (fun l => l.tenantId = t ∧ l.accountId = a)
        (fun l => lineageDelta l.kind l.amountMinor (s.lineageHoldId l).isSome .remaining) := by
  rw [← sumWhere_groups CreditGrantEntry.grantId CreditGrant.id
    (fun g => g.tenantId = t ∧ g.accountId = a) hs.keys.creditGrants]
  · unfold tenantRemaining
    refine sumWhere_congr (fun _ _ => rfl) fun g hg hscope => ?_
    have hlatest : s.latestMinor t g.id (·.remainingMinor) =
        balance (capacityEvents s t g.id) .remaining := htracks.latestMinor t g.id .remaining
    rw [hlatest, balance_financial (by decide) (by decide)]
    refine sumWhere_congr (fun l hl => ?_) fun _ _ _ => rfl
    obtain ⟨linked, hlink⟩ := hs.links.lineage l hl
    by_cases hid : l.grantId = g.id
    · have hgrant : linked.grant = g := linked_grant_eq hs.keys hlink.rows hg hid
      have haccount : l.accountId = a := by
        rw [← hlink.rows.grantAccount, hgrant]
        exact (of_decide_eq_true hscope).2
      simp [hid, haccount]
    · simp [hid]
  · intro l hl hscope
    obtain ⟨linked, hlink⟩ := hs.links.lineage l hl
    obtain ⟨htenant, haccount⟩ := of_decide_eq_true hscope
    refine ⟨linked.grant, mem_of_lookup hlink.rows.grant, ?_, key_of_lookup hlink.rows.grant⟩
    simp [hlink.rows.grantTenant, hlink.rows.grantAccount, htenant, haccount]

/-- The same rows, entry by entry, are minus the balance when attribution is full. -/
theorem lineage_eq_tenantBalance (hfull : TenantAttributed s)
    (henabled : s.grantEnabled t a = true) :
    sumWhere s.creditGrantEntries (fun l => l.tenantId = t ∧ l.accountId = a)
        (fun l => lineageDelta l.kind l.amountMinor (s.lineageHoldId l).isSome .remaining) =
      - tenantBalance s t a := by
  rw [← sumWhere_groups CreditGrantEntry.entryId Entry.id
    (fun e => e.tenantId = t ∧ e.accountId = a) hs.keys.entries]
  · unfold tenantBalance
    rw [← sumWhere_neg]
    refine sumWhere_congr (fun _ _ => rfl) fun e he hscope => ?_
    obtain ⟨rfl, rfl⟩ := of_decide_eq_true hscope
    have hattributed := hfull e he henabled
    have hsigned : sumWhere s.creditGrantEntries
        (fun l => decide (l.tenantId = e.tenantId ∧ l.accountId = e.accountId) &&
          decide (l.entryId = e.id))
        (fun l => lineageDelta l.kind l.amountMinor (s.lineageHoldId l).isSome .remaining) =
        sumWhere s.creditGrantEntries (fun l => l.tenantId = e.tenantId ∧ l.entryId = e.id)
          (fun l => if e.signedAmountMinor < 0 then l.amountMinor else - l.amountMinor) := by
      refine sumWhere_congr (fun l hl => ?_) fun l hl hl' => ?_
      · obtain ⟨linked, hlink⟩ := hs.links.lineage l hl
        by_cases hid : l.entryId = e.id
        · have hentry : linked.entry = e := linked_entry_eq hs.keys hlink.rows he hid
          have haccount : l.accountId = e.accountId := by
            rw [← hentry, hlink.rows.entryAccount]
          simp [hid, haccount]
        · simp [hid]
      · obtain ⟨linked, hlink⟩ := hs.links.lineage l hl
        obtain ⟨-, hid⟩ := of_decide_eq_true hl'
        have hentry : linked.entry = e := linked_entry_eq hs.keys hlink.rows he hid
        rw [lineageDelta_remaining hlink.kind, hentry]
    rw [hsigned]
    by_cases hneg : e.signedAmountMinor < 0
    · simp only [if_pos hneg]
      rw [abs_of_neg hneg] at hattributed
      exact hattributed
    · simp only [if_neg hneg]
      rw [sumWhere_neg]
      rw [abs_of_nonneg (not_lt.mp hneg)] at hattributed
      exact congrArg Neg.neg hattributed
  · intro l hl hscope
    obtain ⟨linked, hlink⟩ := hs.links.lineage l hl
    obtain ⟨htenant, haccount⟩ := of_decide_eq_true hscope
    refine ⟨linked.entry, mem_of_lookup hlink.rows.entry, ?_, key_of_lookup hlink.rows.entry⟩
    simp [hlink.rows.entryTenant, hlink.rows.entryAccount, htenant, haccount]

end Conservation

section Accounts

variable {log : List DbTransaction} {s : Db} {a : Account}

/-- Within a tenant, minus the balance of a grant-enabled account is what remains of its
grants. -/
theorem tenantBalance_conserved (h : replay log = .ok s)
    (hown : ∀ tx ∈ log, AttributesOwnEntries tx) {tenantId accountId : Uuid}
    (henabled : s.grantEnabled tenantId accountId = true) :
    - tenantBalance s tenantId accountId = tenantRemaining s tenantId accountId := by
  have hs := replay_wellFormed h
  rw [tenantRemaining_eq_lineage hs _ _ (replay_tracks h),
    lineage_eq_tenantBalance hs _ _ (replay_tenantAttributed h hown) henabled]

/-- All grants of an account are of its tenant. -/
theorem remainingTotal_eq (hs : WellFormed s) (ha : a ∈ s.accounts) :
    remainingTotal s a.id = tenantRemaining s a.tenantId a.id := by
  have htenant : ∀ g ∈ s.creditGrants, g.accountId = a.id → g.tenantId = a.tenantId := by
    intro g hg haccount
    obtain ⟨a', hfound, htenant, -⟩ := grantEnabled_eq_true_iff.mp (hs.links.creditGrants g hg).2
    have hsame : s.account? a.id = some a := lookup_key hs.keys.accounts ha
    rw [haccount, hsame] at hfound
    rw [← htenant, Option.some.inj hfound]
  refine sumWhere_congr (fun g hg => ?_) fun g hg hscope => ?_
  · exact decide_eq_decide.mpr ⟨fun hid => ⟨htenant g hg hid, hid⟩, fun hscope => hscope.2⟩
  · rw [htenant g hg (of_decide_eq_true hscope).2]

/-- The entries of an account are those of its tenant and those of the others. -/
theorem accountBalance_eq (s : Db) (a : Account) :
    accountBalance s a.id = tenantBalance s a.tenantId a.id + otherBalance s.entries a := by
  unfold accountBalance tenantBalance otherBalance
  rw [sumWhere_split fun e => e.tenantId = a.tenantId]
  congr 1
  · exact sumWhere_congr (fun e _ => by simp [Bool.and_comm]) fun _ _ _ => rfl
  · exact sumWhere_congr (fun e _ => by simp) fun _ _ _ => rfl

theorem remainingTotal_nonneg (h : replay log = .ok s) (accountId : Uuid) :
    0 ≤ remainingTotal s accountId := by
  refine sumWhere_nonneg fun g _ _ => ?_
  have hbounds := (replay_tracks h).reserved_bounds g.tenantId g.id
  exact hbounds.1.trans hbounds.2

/-- Conservation of prepaid credit: where every database transaction attributes its own
entries, minus the balance of every grant-enabled account is what remains of its grants,
exactly when what other tenants have posted on it cancels. -/
theorem creditConserved_iff (h : replay log = .ok s)
    (hown : ∀ tx ∈ log, AttributesOwnEntries tx) : CreditConserved s ↔ OthersCancel log := by
  have hs := replay_wellFormed h
  unfold CreditConserved OthersCancel
  rw [← replay_accounts h, ← replay_entries h]
  refine forall₂_congr fun a ha => imp_congr_right fun henabled => ?_
  have hfound : s.account? a.id = some a := lookup_key hs.keys.accounts ha
  have hconserved := tenantBalance_conserved h hown
    (grantEnabled_eq_true_iff.mpr ⟨a, hfound, rfl, henabled⟩)
  have hremaining := remainingTotal_eq hs ha
  have hnonneg := remainingTotal_nonneg h a.id
  have hbalance := accountBalance_eq s a
  omega

end Accounts

/-- In the small run 60 remain. -/
theorem creditConserved_iff_sample :
    CreditConserved (Sample.stateAfter Sample.log) ∧
      remainingTotal (Sample.stateAfter Sample.log) 10 = 60 :=
  ⟨(creditConserved_iff (Sample.replay_stateAfter (by rfl)) (by decide)).mpr (by decide), by rfl⟩

/-- Tenant 2 debits account 10 of tenant 1 by 150, of which a grant of 100 was issued. -/
def Sample.overdraft : List DbTransaction :=
  [⟨0, accounts⟩, ⟨1, issuance 0 none⟩, ⟨2, otherAsset :: otherPosting 180 150⟩]

/-- The debit is accepted, and the account is overdrawn by 50. -/
theorem other_tenant_overdraws :
    replay Sample.overdraft = .ok (Sample.stateAfter Sample.overdraft) ∧
      (∀ tx ∈ Sample.overdraft, AttributesOwnEntries tx) ∧
      accountBalance (Sample.stateAfter Sample.overdraft) 10 = 50 ∧
      ¬ CreditConserved (Sample.stateAfter Sample.overdraft) := by
  have hbalance : accountBalance (Sample.stateAfter Sample.overdraft) 10 = 50 := by rfl
  refine ⟨Sample.replay_stateAfter (by rfl), by decide, hbalance, fun hconserved => ?_⟩
  have haccount := hconserved ⟨10, 1, 5, .credit, .disallow, 1, true⟩ (by decide +kernel) rfl
  rw [hbalance] at haccount
  exact absurd haccount.2 (by decide)

end LuxLedger.Credit
