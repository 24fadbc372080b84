/-
  Credit/Expiry.lean --- grants that expire.

  From its expiry on a grant is allocated, consumed without a hold and refunded no
  more: the validators compare the expiry with the transaction timestamp.  Captures
  of holds go on, within what was allocated before.  What expires goes back to the
  funding account, which must not itself need attribution.
-/
import LuxLedger.Credit.CapacityFold
import LuxLedger.Credit.OtherTenants

set_option autoImplicit false

namespace LuxLedger.Credit

open LuxLedger.Schema LuxLedger.Relational

/-! ## Before and after the expiry -/

/-- Lineage inserted by the database transactions at the times that satisfy `p`. -/
def lineageAt (log : List DbTransaction) (p : Timestamp → Bool) : List CreditGrantEntry :=
  (log.filter fun tx => p tx.now).flatMap DbTransaction.newCreditGrantEntries

/-- Allocations inserted by the database transactions at these times. -/
def allocationsAt (log : List DbTransaction) (p : Timestamp → Bool) :
    List CreditGrantHoldAllocation :=
  (log.filter fun tx => p tx.now).flatMap DbTransaction.newAllocations

/-- CONSUMPTION of a grant inserted at or after a time. -/
def lateConsumption (log : List DbTransaction) (g : CreditGrant) (expiry : Timestamp) : Int :=
  sumWhere (lineageAt log (expiry ≤ ·))
    (fun l => l.tenantId = g.tenantId ∧ l.grantId = g.id ∧ l.kind = .consumption) (·.amountMinor)

/-- CONSUMPTION of a grant by transactions that carry a hold, inserted before a time. -/
def earlyCapture (s : Db) (log : List DbTransaction) (g : CreditGrant) (expiry : Timestamp) : Int :=
  sumWhere (lineageAt log (· < expiry))
    (fun l => l.tenantId = g.tenantId ∧ l.grantId = g.id ∧ l.kind = .consumption ∧
      (s.lineageHoldId l).isSome) (·.amountMinor)

/-- Allocations of a grant to holds, inserted before a time. -/
def earlyAllocation (log : List DbTransaction) (g : CreditGrant) (expiry : Timestamp) : Int :=
  sumWhere (allocationsAt log (· < expiry))
    (fun a => a.tenantId = g.tenantId ∧ a.grantId = g.id) (·.amountMinor)

section Split

variable {ρ : Type} {log : List DbTransaction} {new : DbTransaction → List ρ} {p : ρ → Bool}
  {value : ρ → Int}

/-- A sum over the rows of a log, split by the time of their database transactions. -/
theorem sumWhere_log_split (q : Timestamp → Bool) :
    sumWhere (log.flatMap new) p value =
      sumWhere ((log.filter fun tx => q tx.now).flatMap new) p value +
        sumWhere ((log.filter fun tx => !q tx.now).flatMap new) p value := by
  induction log with
  | nil => rfl
  | cons tx rest ih =>
      rw [List.flatMap_cons, sumWhere_append, ih]
      cases hq : q tx.now with
      | true =>
          simp only [List.filter_cons, hq, Bool.not_true, if_true, Bool.false_eq_true, if_false,
            List.flatMap_cons, sumWhere_append]
          omega
      | false =>
          simp only [List.filter_cons, hq, Bool.not_false, if_true, Bool.false_eq_true, if_false,
            List.flatMap_cons, sumWhere_append]
          omega

theorem sumWhere_before_after (expiry : Timestamp) :
    sumWhere (log.flatMap new) p value =
      sumWhere ((log.filter fun tx => tx.now < expiry).flatMap new) p value +
        sumWhere ((log.filter fun tx => expiry ≤ tx.now).flatMap new) p value := by
  rw [sumWhere_log_split (· < expiry)]
  congr 3
  refine List.filter_congr fun tx _ => ?_
  rw [← decide_not]
  exact decide_eq_decide.mpr not_lt

end Split

/-! ## What the validators admit from the expiry on -/

section Late

variable {s : Db} {log : List DbTransaction} {tx : DbTransaction} {g : CreditGrant}
  {expiry : Timestamp}

/-- No allocation from the expiry on. -/
theorem no_late_allocation (h : replay log = .ok s) (hg : s.creditGrant? g.id = some g)
    (hexpiry : g.expiresAt = some expiry) (htx : tx ∈ log) (hlate : expiry ≤ tx.now) :
    ∀ a ∈ tx.newAllocations, a.grantId ≠ g.id := by
  intro a ha hid
  obtain ⟨before, after, s₁, s₂, -, -, hcommit, hext⟩ := replay_mem h htx
  obtain ⟨mid, -, hcheck, hrest⟩ := commit_checked_allocation hcommit ha
  obtain ⟨g', he, hold, haccepted⟩ := checkCreditGrantHoldAllocation_ok hcheck
  have hsame : g' = g := by
    have hfound := ((RowSteps.extends hrest).trans hext).creditGrant? haccepted.grant
    rw [hid] at hfound
    exact Option.some.inj (hfound.symm.trans hg)
  exact absurd hlate (not_le.mpr (haccepted.live expiry (hsame ▸ hexpiry)))

/-- From the expiry on CONSUMPTION needs a hold, and there is no REFUND. -/
theorem late_lineage (h : replay log = .ok s) (hg : s.creditGrant? g.id = some g)
    (hexpiry : g.expiresAt = some expiry) (htx : tx ∈ log) (hlate : expiry ≤ tx.now) :
    ∀ l ∈ tx.newCreditGrantEntries, l.grantId = g.id →
      (l.kind = .consumption → (s.lineageHoldId l).isSome) ∧ l.kind ≠ .refund := by
  intro l hl hid
  obtain ⟨before, after, s₁, s₂, -, -, hcommit, hext⟩ := replay_mem h htx
  obtain ⟨mid, -, hcheck, hrest⟩ := commit_checked_lineage hcommit hl
  obtain ⟨linked, haccepted⟩ := checkCreditGrantEntry_ok hcheck
  have hextends := (RowSteps.extends hrest).trans hext
  have hrows := hextends.linked haccepted.linkedRows
  have hsame : linked.grant = g := by
    have hfound := hrows.grant
    rw [hid] at hfound
    exact Option.some.inj (hfound.symm.trans hg)
  have hexpired : ¬ linked.grant.LiveAt tx.now :=
    fun hlive => absurd hlate (not_le.mpr (hlive expiry (hsame ▸ hexpiry)))
  have hkind := haccepted.kind
  unfold AcceptedKind at hkind
  refine ⟨fun hconsumption => ?_, fun hrefund => ?_⟩
  · rw [hrows.lineageHoldId]
    simp only [hconsumption] at hkind
    cases hhold : linked.transaction.holdId with
    | none =>
        simp only [hhold] at hkind
        exact absurd hkind.2.2.2 hexpired
    | some holdId => rfl
  · simp only [hrefund] at hkind
    exact hexpired hkind.2.2.2.2.2.2.2.1

/-- Captures never exceed allocations. -/
theorem captured_le_allocated (h : replay log = .ok s) (t id : Uuid) :
    capturedTotal s t id ≤ allocatedTotal s t id := by
  have htracks := replay_tracks h
  have hreserved : s.latestMinor t id (·.reservedMinor) =
      balance (capacityEvents s t id) .reserved := htracks.latestMinor t id .reserved
  rw [balance_reserved] at hreserved
  have hnonneg := (htracks.reserved_bounds t id).1
  have hreleased : 0 ≤ releasedTotal s t id := by
    refine List.sum_nonneg fun x hx => ?_
    obtain ⟨hold, hhold, rfl⟩ := List.mem_map.mp hx
    have hlt := (of_decide_eq_true (List.mem_filter.mp hhold).2).2
    omega
  omega

/-- Late captures stay within the early allocations that were not captured early. -/
theorem late_consumption_le (h : replay log = .ok s) (hg : s.creditGrant? g.id = some g)
    (hexpiry : g.expiresAt = some expiry) :
    lateConsumption log g expiry ≤ earlyAllocation log g expiry - earlyCapture s log g expiry := by
  have hle := captured_le_allocated h g.tenantId g.id
  have hallocated : allocatedTotal s g.tenantId g.id = earlyAllocation log g expiry := by
    rw [allocatedTotal, replay_allocations h, sumWhere_before_after expiry]
    refine (congrArg (earlyAllocation log g expiry + ·) ?_).trans (add_zero _)
    refine sumWhere_eq_zero fun a ha hscope => ?_
    obtain ⟨tx, htx, hnew⟩ := List.mem_flatMap.mp ha
    obtain ⟨hmem, hlate⟩ := List.mem_filter.mp htx
    exact absurd (of_decide_eq_true hscope).2
      (no_late_allocation h hg hexpiry hmem (of_decide_eq_true hlate) a hnew)
  have hcaptured : capturedTotal s g.tenantId g.id =
      earlyCapture s log g expiry + lateConsumption log g expiry := by
    rw [capturedTotal, replay_creditGrantEntries h, sumWhere_before_after expiry]
    -- late CONSUMPTION is all on holds
    refine congrArg (earlyCapture s log g expiry + ·) ?_
    refine sumWhere_congr (fun l hl => ?_) fun _ _ _ => rfl
    obtain ⟨tx, htx, hnew⟩ := List.mem_flatMap.mp hl
    obtain ⟨hmem, hlate⟩ := List.mem_filter.mp htx
    have hlineage := late_lineage h hg hexpiry hmem (of_decide_eq_true hlate) l hnew
    refine decide_eq_decide.mpr ⟨fun hcapture => ⟨hcapture.1, hcapture.2.1, hcapture.2.2.1⟩, ?_⟩
    rintro ⟨htenant, hid, hkind⟩
    exact ⟨htenant, hid, hkind, (hlineage hid).1 hkind⟩
  omega

/-- A commit from the expiry on that restores or removes capacity of the grant leaves
nothing of it free. -/
theorem free_capacity_removed {s₁ s' : Db} (h : commit s₁ tx = .ok s') (hs : WellFormed s₁)
    (hext : Extends s' s) (hg : s.creditGrant? g.id = some g) (hexpiry : g.expiresAt = some expiry)
    (hlate : expiry ≤ tx.now) {l : CreditGrantEntry} (hl : l ∈ tx.newCreditGrantEntries)
    (hid : l.grantId = g.id) (hkind : l.kind = .compensation ∨ l.kind = .expiration) :
    s'.latestMinor g.tenantId g.id (·.remainingMinor) =
      s'.latestMinor g.tenantId g.id (·.reservedMinor) := by
  have hmem : l ∈ s'.creditGrantEntries := by
    rw [commit_creditGrantEntries h]
    exact List.mem_append_right _ hl
  obtain ⟨linked, hlink⟩ := (RowSteps.wellFormed (commit_steps h) hs).links.lineage l hmem
  have hsame : linked.grant = g := by
    have hfound := hext.creditGrant? hlink.rows.grant
    rw [hid] at hfound
    exact Option.some.inj (hfound.symm.trans hg)
  subst hsame
  have htenant : linked.grant.tenantId = l.tenantId := hlink.rows.grantTenant
  have hremoved := (deferred_lineage h hl).2
  have hexpiration : ((s'.creditGrant? l.grantId).filter fun g =>
      g.tenantId = l.tenantId).bind (·.expiresAt) = some expiry := by
    rw [hlink.rows.grant, Option.filter_some, if_pos (by simpa using htenant), Option.bind_some,
      hexpiry]
  unfold assertExpiredGrantCapacityRemoved at hremoved
  rw [if_neg (by tauto)] at hremoved
  simp only [hexpiration] at hremoved
  rw [if_neg (by simpa [Truth.or_eq_true_iff] using hlate), raiseIf_eq_ok_iff, ne_eq,
    Truth.of_eq_true_iff, ne_eq, not_not, ← htenant, hid] at hremoved
  exact hremoved

end Late

/-- What may still happen to a grant from its expiry on. -/
structure Expired (log : List DbTransaction) (s : Db) (g : CreditGrant) (expiry : Timestamp) :
    Prop where
  allocation : ∀ tx ∈ log, expiry ≤ tx.now → ∀ a ∈ tx.newAllocations, a.grantId ≠ g.id
  /-- CONSUMPTION is of a hold, and there is no REFUND -/
  lineage : ∀ tx ∈ log, expiry ≤ tx.now → ∀ l ∈ tx.newCreditGrantEntries, l.grantId = g.id →
    (l.kind = .consumption → (s.lineageHoldId l).isSome) ∧ l.kind ≠ .refund
  captures : lateConsumption log g expiry ≤
    earlyAllocation log g expiry - earlyCapture s log g expiry
  /-- capacity handed back is removed in the same commit -/
  removed : ∀ before tx after s', log = before ++ tx :: after →
    replay (before ++ [tx]) = .ok s' → expiry ≤ tx.now →
    (∃ l ∈ tx.newCreditGrantEntries, l.grantId = g.id ∧
      (l.kind = .compensation ∨ l.kind = .expiration)) →
    s'.latestMinor g.tenantId g.id (·.remainingMinor) =
      s'.latestMinor g.tenantId g.id (·.reservedMinor)

/-- Expired credit is never spendable again, in any run and whatever the order of its
timestamps. -/
theorem expired_credit_not_spendable {log : List DbTransaction} {s : Db} (h : replay log = .ok s)
    {g : CreditGrant} (hg : g ∈ s.creditGrants) {expiry : Timestamp}
    (hexpiry : g.expiresAt = some expiry) : Expired log s g expiry := by
  have hs := replay_wellFormed h
  have hfound : s.creditGrant? g.id = some g := lookup_key hs.keys.creditGrants hg
  refine
    { allocation := fun tx htx hlate => no_late_allocation h hfound hexpiry htx hlate
      lineage := fun tx htx hlate => late_lineage h hfound hexpiry htx hlate
      captures := late_consumption_le h hfound hexpiry
      removed := ?_ }
  rintro before tx after s' rfl hreplay hlate ⟨l, hl, hid, hkind⟩
  obtain ⟨s₁, hbefore, hcommit⟩ := run_concat_eq_ok_iff.mp hreplay
  have hext : Extends s' s := by
    obtain ⟨s₁', hbefore', hrest⟩ := run_append_eq_ok_iff.mp h
    obtain rfl := Except.ok.inj (hbefore.symm.trans hbefore')
    obtain ⟨s₂, hcommit', hafter⟩ := foldlM_cons_eq_ok_iff.mp hrest
    obtain rfl := Except.ok.inj (hcommit.symm.trans hcommit')
    exact replay_extends hafter
  exact free_capacity_removed hcommit (replay_wellFormed hbefore) hext hfound hexpiry hlate hl hid
    hkind

/-- The small run with a late capture, and the rest of the grant removed after it. -/
def Sample.lateCapture : List DbTransaction :=
  [⟨0, accounts⟩, ⟨1, issuance 0 (some 50)⟩, ⟨2, reservation⟩, ⟨60, capture⟩,
    ⟨61, [.insertTransactions [⟨170, 1, 5, none, none, none, 1, 61⟩],
      .insertEntries [⟨270, 1, 170, 10, 40, 1⟩, ⟨271, 1, 170, 11, -40, 1⟩],
      .insertCreditGrantEntries [⟨1, 5, 10, 300, 270, .expiration, 40⟩]]⟩]

/-- 40 of the 60 that were allocated are captured late. -/
theorem expired_credit_not_spendable_sample :
    Expired Sample.lateCapture (Sample.stateAfter Sample.lateCapture)
        ⟨300, 1, 5, 10, 11, 100, some 50, 1⟩ 50 ∧
      lateConsumption Sample.lateCapture ⟨300, 1, 5, 10, 11, 100, some 50, 1⟩ 50 = 40 :=
  ⟨expired_credit_not_spendable (Sample.replay_stateAfter (by rfl)) (by decide +kernel) (by rfl),
    by rfl⟩

/-! ## Expiring back to the funding account -/

/-- An expiring grant has a funding account that is not grant-enabled, so no posting on
that account needs attribution. -/
def FundingUnattributed (s : Db) : Prop :=
  ∀ g ∈ s.creditGrants, g.expiresAt.isSome →
    isGrantAccount s g.fundingAccountId = false ∧
      ∀ e : Entry, e.accountId = g.fundingAccountId → assertGrantEntryAttributed s e = .ok ()

/-- The row is a grant that expires to a grant-enabled account. -/
def ExpiresToGrantAccount (s : Db) (new : CreditGrant) : Prop :=
  new.expiresAt.isSome ∧ isGrantAccount s new.fundingAccountId = true

/-- The row is a grant that expires, and its funding account has a grant: what
`reject_expiring_grant_enabled_funding` looks for. -/
def GuardFindsGrant (s : Db) (new : CreditGrant) : Prop :=
  new.expiresAt.isSome ∧
    ∃ g ∈ s.creditGrants, g.tenantId = new.tenantId ∧ g.accountId = new.fundingAccountId

/-- The row would be refused without its expiry. -/
def OtherwiseRefused (s : Db) (new : CreditGrant) : Prop :=
  checkCreditGrant s { new with expiresAt := none } ≠ .ok ()

instance (s : Db) (new : CreditGrant) : Decidable (ExpiresToGrantAccount s new) :=
  inferInstanceAs (Decidable (_ ∧ _))

instance (s : Db) (new : CreditGrant) : Decidable (GuardFindsGrant s new) :=
  inferInstanceAs (Decidable (_ ∧ _))

instance (s : Db) (new : CreditGrant) : Decidable (OtherwiseRefused s new) :=
  inferInstanceAs (Decidable (_ ≠ _))

/-- If a statement attempts to insert a grant that expires to a grant-enabled account, then
it has a row that the guard refuses for a grant it finds, or that another check refuses. -/
def GrantsGuarded (s : Db) (step : Timestamp × Statement) : Prop :=
  (∀ p ∈ insertPoints Db.addCreditGrant step.2.newCreditGrants s,
    ¬ ExpiresToGrantAccount p.1 p.2) ∨
  ∃ p ∈ insertPoints Db.addCreditGrant step.2.newCreditGrants s,
    GuardFindsGrant p.1 p.2 ∨ OtherwiseRefused p.1 p.2

instance (s : Db) (step : Timestamp × Statement) : Decidable (GrantsGuarded s step) :=
  inferInstanceAs (Decidable (_ ∨ _))

/-- The state after statements that were executed one after the other; one that is refused
has no effect. -/
def attempts (steps : List (Timestamp × Statement)) : Db :=
  steps.foldl (attempt fun s step => step.2.exec step.1 s) Db.empty

/-- Every funding account exists. -/
def FundersExist (s : Db) : Prop := ∀ g ∈ s.creditGrants, (s.account? g.fundingAccountId).isSome

section Funding

variable {s s' : Db} {now : Timestamp} {stmt : Statement} {g : CreditGrant}

/-- The checks of a grant are those that do not look at its expiry, and the guard. -/
theorem checkCreditGrant_eq_ok_iff :
    checkCreditGrant s g = .ok () ↔ ¬ OtherwiseRefused s g ∧ ¬ GuardFindsGrant s g := by
  rw [OtherwiseRefused, ne_eq, not_not]
  simp only [checkCreditGrant, bind_eq_ok_iff, require_eq_ok_iff, exists_const,
    requireGrantEnabledAccount, rejectExpiringGrantEnabledFunding, GuardFindsGrant]
  cases hexpires : g.expiresAt with
  | none => simp
  | some expiry =>
      simp only [Option.isNone_some, Bool.false_eq_true, if_false, raiseIf_eq_ok_iff, ne_eq,
        Truth.of_eq_true_iff, Option.isNone_none, if_true, true_and, Option.isSome_some,
        exists_const]
      tauto

/-- Grants that are inserted leave the accounts alone. -/
theorem insertPoints_accounts {rows : List CreditGrant} {p : Db × CreditGrant}
    (h : p ∈ insertPoints Db.addCreditGrant rows s) : p.1.accounts = s.accounts := by
  have hput : ∀ (s : Db) (g : CreditGrant), (s.addCreditGrant g).accounts = s.accounts :=
    fun _ _ => rfl
  exact insertPoints_frame (fun s : Db => s.accounts) hput h

/-- The foreign key of the funding account. -/
theorem fundingAccount_of_check (h : checkCreditGrant s g = .ok ()) :
    (s.account? g.fundingAccountId).isSome := by
  simp only [checkCreditGrant, bind_eq_ok_iff, require_eq_ok_iff, exists_const] at h
  obtain ⟨⟨⟩, -, ⟨⟩, -, -, -, -, -, hfunding, -⟩ := h
  obtain ⟨a, ha, -⟩ := (Option.any_eq_true _ _).mp hfunding
  exact ha ▸ rfl

/-- A statement whose grants are all accepted where they are checked is executed. -/
theorem checked_of_exec (h : stmt.exec now s = .ok s') :
    ∀ p ∈ insertPoints Db.addCreditGrant stmt.newCreditGrants s,
      checkCreditGrant p.1 p.2 = .ok () := by
  cases stmt with
  | insertCreditGrants rows => exact insertEach_checked_iff.mp ⟨s', h⟩
  | _ => exact fun _ hp => absurd hp List.not_mem_nil

/-- Where it is not executed, a row is refused; other statements than INSERTs of grants
attempt no grant. -/
theorem grantsGuarded_of_error {e : SqlError} (h : stmt.exec now s = .error e) :
    GrantsGuarded s (now, stmt) := by
  cases stmt with
  | insertCreditGrants rows =>
      right
      by_contra hnone
      push Not at hnone
      have hchecked : ∃ s', insertEach checkCreditGrant Db.addCreditGrant rows s = .ok s' :=
        insertEach_checked_iff.mpr fun p hp =>
          checkCreditGrant_eq_ok_iff.mpr ⟨(hnone p hp).2, (hnone p hp).1⟩
      obtain ⟨s', hs'⟩ := hchecked
      have hexec : (Statement.insertCreditGrants rows).exec now s = .ok s' := hs'
      rw [h] at hexec
      cases hexec
  | _ => exact Or.inl fun _ hp => absurd hp List.not_mem_nil

/-- An INSERT that is executed has no row that anything refuses. -/
theorem grantsGuarded_iff_of_exec (h : stmt.exec now s = .ok s') :
    GrantsGuarded s (now, stmt) ↔ ∀ new ∈ stmt.newCreditGrants, ¬ ExpiresToGrantAccount s new := by
  have hsame : ∀ p ∈ insertPoints Db.addCreditGrant stmt.newCreditGrants s,
      (ExpiresToGrantAccount p.1 p.2 ↔ ExpiresToGrantAccount s p.2) := by
    intro p hp
    rw [ExpiresToGrantAccount, ExpiresToGrantAccount, isGrantAccount, isGrantAccount, Db.account?,
      Db.account?, insertPoints_accounts hp]
  constructor
  · rintro (hplain | ⟨p, hp, hrefused⟩) new hnew
    · obtain ⟨s₀, hpoint⟩ := exists_insertPoint Db.addCreditGrant s hnew
      exact fun hexpires => hplain _ hpoint ((hsame _ hpoint).mpr hexpires)
    · obtain ⟨haccepted, hunguarded⟩ := checkCreditGrant_eq_ok_iff.mp (checked_of_exec h p hp)
      exact absurd hrefused (not_or.mpr ⟨hunguarded, haccepted⟩)
  · exact fun hplain => Or.inl fun p hp hexpires =>
      hplain p.2 (row_of_insertPoints hp) ((hsame p hp).mp hexpires)

/-- The funding accounts of the grants that a statement leaves were there before it. -/
theorem funders_of_exec (h : stmt.exec now s = .ok s') (hs : FundersExist s) :
    ∀ g ∈ s.creditGrants ++ stmt.newCreditGrants, (s.account? g.fundingAccountId).isSome := by
  intro g hg
  rcases List.mem_append.mp hg with hold | hnew
  · exact hs g hold
  · obtain ⟨s₀, hpoint⟩ := exists_insertPoint Db.addCreditGrant s hnew
    have hfunding := fundingAccount_of_check (checked_of_exec h _ hpoint)
    rwa [Db.account?, insertPoints_accounts hpoint] at hfunding

theorem exec_fundersExist (h : stmt.exec now s = .ok s') (hs : FundersExist s) :
    FundersExist s' := by
  have hext : Extends s s' := RowSteps.extends (exec_steps h)
  intro g hg
  rw [(exec_inserted h).creditGrants] at hg
  exact isSome_mono (fun a ha => ⟨a, hext.account? ha⟩) (funders_of_exec h hs g hg)

/-- Postings on a plain account need no attribution. -/
theorem assertGrantEntryAttributed_plain {e : Entry}
    (h : isGrantAccount s e.accountId = false) : assertGrantEntryAttributed s e = .ok () := by
  have hplain : s.grantEnabled e.tenantId e.accountId = false := by
    rw [Bool.eq_false_iff]
    exact fun henabled => Bool.eq_false_iff.mp h (isGrantAccount_of_enabled henabled)
  rw [assertGrantEntryAttributed, hplain]
  rfl

theorem fundingUnattributed_iff_plain :
    FundingUnattributed s ↔ ∀ g ∈ s.creditGrants, ¬ ExpiresToGrantAccount s g := by
  constructor
  · rintro hplain g hg ⟨hexpires, hgrant⟩
    rw [(hplain g hg hexpires).1] at hgrant
    cases hgrant
  · intro hplain g hg hexpires
    have hgrant : isGrantAccount s g.fundingAccountId = false :=
      Bool.eq_false_iff.mpr fun hgrant => hplain g hg ⟨hexpires, hgrant⟩
    exact ⟨hgrant, fun e haccount => assertGrantEntryAttributed_plain (haccount ▸ hgrant)⟩

/-- Over an executed statement. -/
theorem fundingUnattributed_exec (hs : FundersExist s) (h : stmt.exec now s = .ok s') :
    FundingUnattributed s' ↔ FundingUnattributed s ∧ GrantsGuarded s (now, stmt) := by
  have hext : Extends s s' := RowSteps.extends (exec_steps h)
  have hsame : ∀ g ∈ s.creditGrants ++ stmt.newCreditGrants,
      (ExpiresToGrantAccount s' g ↔ ExpiresToGrantAccount s g) := fun g hg => by
    rw [ExpiresToGrantAccount, ExpiresToGrantAccount,
      isGrantAccount_extends hext (funders_of_exec h hs g hg)]
  rw [fundingUnattributed_iff_plain, fundingUnattributed_iff_plain, grantsGuarded_iff_of_exec h,
    (exec_inserted h).creditGrants, ← List.forall_mem_append]
  exact forall₂_congr fun g hg => not_congr (hsame g hg)

end Funding

/-- After statements attempted in any order, the funding accounts of all expiring grants are
out of attribution exactly when every attempt to insert an expiring grant with a grant-enabled
funding account was guarded, or refused anyway. -/
theorem fundingUnattributed_iff (steps : List (Timestamp × Statement)) :
    FundingUnattributed (attempts steps) ↔
      AlongAttempts (fun s step => step.2.exec step.1 s) GrantsGuarded Db.empty steps := by
  have hempty : FundersExist Db.empty := fun _ hg => absurd hg List.not_mem_nil
  have hplain : FundingUnattributed Db.empty := fun _ hg => absurd hg List.not_mem_nil
  refine (alongAttempts_iff hempty (fun s step hs => ?_) steps).trans (and_iff_right hplain)
  obtain ⟨now, stmt⟩ := step
  cases h : stmt.exec now s with
  | error e =>
      have hsame : attempt (fun s step => step.2.exec step.1 s) s (now, stmt) = s :=
        attempt_of_error h
      rw [hsame]
      exact ⟨hs, (and_iff_left (grantsGuarded_of_error h)).symm⟩
  | ok s' =>
      have hnext : attempt (fun s step => step.2.exec step.1 s) s (now, stmt) = s' :=
        attempt_of_ok h
      rw [hnext]
      exact ⟨exec_fundersExist h hs, fundingUnattributed_exec hs h⟩

namespace Sample

/-- Two grant-enabled accounts, and an expiring grant of the first that the second funds:
the second has no grant yet, so the guard lets the grant pass. -/
def enabledFunding : List (Timestamp × Statement) :=
  timedStatements [⟨0, [.insertAssets [⟨1, 1, "USD", 2⟩],
    .insertAccounts [⟨10, 1, 5, .credit, .disallow, 1, true⟩,
      ⟨11, 1, 5, .credit, .disallow, 1, true⟩]]⟩,
   ⟨1, [.insertTransactions [⟨100, 1, 5, none, none, none, 1, 1⟩],
    .insertCreditGrants [⟨300, 1, 5, 10, 11, 100, some 50, 1⟩]]⟩]

/-- The other order: the second account has a grant first, so the guard refuses. -/
def guardedFunding : List (Timestamp × Statement) :=
  timedStatements [⟨0, [.insertAssets [⟨1, 1, "USD", 2⟩],
    .insertAccounts [⟨10, 1, 5, .credit, .disallow, 1, true⟩,
      ⟨11, 1, 5, .credit, .disallow, 1, true⟩]]⟩,
   ⟨1, [.insertTransactions [⟨100, 1, 5, none, none, none, 1, 1⟩,
      ⟨101, 1, 5, none, none, none, 1, 1⟩],
    .insertCreditGrants [⟨301, 1, 5, 11, 10, 101, none, 1⟩],
    .insertCreditGrants [⟨300, 1, 5, 10, 11, 100, some 50, 1⟩]]⟩]

end Sample

/-- In the other order the expiring grant is refused, and the non-expiring one stays. -/
example : FundingUnattributed (attempts Sample.guardedFunding) ∧
    ((attempts Sample.guardedFunding).creditGrants.map (·.id)) = [301] :=
  ⟨by rw [fundingUnattributed_iff_plain]; decide +kernel, by decide +kernel⟩

/-- The grant is accepted, and its funding account is grant-enabled. -/
theorem enabled_funding_accepted :
    runStatements Db.empty Sample.enabledFunding = .ok (attempts Sample.enabledFunding) ∧
      ¬ FundingUnattributed (attempts Sample.enabledFunding) := by
  refine ⟨by rfl, fun hplain => ?_⟩
  have hfunding := (hplain ⟨300, 1, 5, 10, 11, 100, some 50, 1⟩ (by decide +kernel) (by rfl)).1
  revert hfunding
  decide +kernel

end LuxLedger.Credit
