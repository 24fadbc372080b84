/-
  Credit/HoldAccounting.lean --- holds on grant-enabled accounts against their
  postings.

  `assert_grant_hold_consistent` reads the hold, its entries and what the
  transactions carrying it have posted.  Every statement that writes one of these
  rows defers the check of that hold to commit, and a hold that no row of the
  database transaction touches reads as it did before.  So the check passes for
  every hold in every committed state.  It reads the rows of the hold's tenant only, which
  need not be all of them.
-/
import LuxLedger.Credit.OtherTenants
import LuxLedger.Credit.Sums

set_option autoImplicit false

namespace LuxLedger.Credit

open LuxLedger.Schema LuxLedger.Relational

/-! ## What the check reads of a hold -/

/-- The check passes for every hold. -/
def HoldsConsistent (s : Db) : Prop :=
  ∀ tenantId holdId, assertGrantHoldConsistent s tenantId holdId = .ok ()

theorem holdsConsistent_empty : HoldsConsistent Db.empty := fun _ _ => rfl

section Reads

variable {s : Db} {t holdId : Uuid}

theorem tenantHold?_eq_some {hold : Hold} (h : s.tenantHold? t holdId = some hold) :
    hold ∈ s.holds ∧ hold.tenantId = t ∧ hold.id = holdId := by
  simp only [Db.tenantHold?, Option.filter_eq_some_iff, decide_eq_true_eq] at h
  exact ⟨mem_of_lookup h.1, h.2, key_of_lookup h.1⟩

theorem holdTouchesGrants_eq_true_iff :
    s.holdTouchesGrants t holdId = true ↔ ∃ he ∈ s.holdEntries, he.tenantId = t ∧
      he.holdId = holdId ∧ s.grantEnabled he.tenantId he.accountId = true := by
  rw [Db.holdTouchesGrants, List.any_eq_true]
  exact exists_congr fun he => and_congr_right fun _ => decide_eq_true_iff

theorem holdTouchesGrants_of_mem {he : HoldEntry} (hhe : he ∈ s.holdEntries)
    (henabled : s.grantEnabled he.tenantId he.accountId = true) :
    s.holdTouchesGrants he.tenantId he.holdId = true :=
  holdTouchesGrants_eq_true_iff.mpr ⟨he, hhe, rfl, rfl, henabled⟩

end Reads

section Frame

variable {now : Timestamp} {s s' : Db} {t holdId : Uuid}

/-- A changed hold is another row to the holds it is not. -/
theorem tenantHold?_updateHold {change : Uuid × Hold} (h : updateHold s change = .ok s')
    (hother : ¬ (change.2.tenantId = t ∧ change.2.id = holdId)) :
    s'.tenantHold? t holdId = s.tenantHold? t holdId := by
  obtain ⟨id, new⟩ := change
  obtain ⟨old, released, hfound, -, rfl, htransition, hreleased, -, rfl⟩ := updateHold_ok h
  obtain ⟨-, versions, rfl⟩ := releaseGrantHoldReservations_step hreleased
  have hlookup : ∀ id, (Db.replaceHold { s with creditGrantCapacityVersions := versions } new).hold?
      id = if id = new.id then some new else s.hold? id := hold?_replaceHold hfound
  rw [Db.tenantHold?, Db.tenantHold?, hlookup]
  by_cases hid : holdId = new.id
  · subst hid
    have htenant : old.tenantId = new.tenantId :=
      (congrArg HoldIdentity.tenantId htransition.identity).symm
    have hne : new.tenantId ≠ t := fun heq => hother ⟨heq, rfl⟩
    rw [if_pos rfl, hfound, Option.filter_some, Option.filter_some, htenant]
    simp [hne]
  · rw [if_neg hid]

/-- A statement that does not write a hold leaves it as it was, or absent. -/
theorem tenantHold?_exec {stmt : Statement} (h : stmt.exec now s = .ok s')
    (hother : ∀ w ∈ stmt.writtenHolds, ¬ (w.tenantId = t ∧ w.id = holdId)) :
    s'.tenantHold? t holdId = s.tenantHold? t holdId := by
  cases stmt with
  | insertHolds rows =>
      obtain ⟨versions, rfl⟩ := exec_store h
      change (lookup Hold.id (s.holds ++ rows) holdId).filter _ = _
      cases hfound : s.hold? holdId with
      | some hold =>
          rw [lookup_append_of_some hfound, Db.tenantHold?, hfound]
      | none =>
          rw [lookup_append_of_none hfound, Db.tenantHold?, hfound, Option.filter_none,
            Option.filter_eq_none_iff]
          intro w hw
          simpa [key_of_lookup hw] using hother w (mem_of_lookup hw)
  | updateHolds changes =>
      refine foldlM_preserves (P := fun s₁ => s₁.tenantHold? t holdId = s.tenantHold? t holdId)
        (fun change hchange s₁ s₂ hupdate hs => ?_) h rfl
      exact (tenantHold?_updateHold hupdate
        (hother change.2 (List.mem_map_of_mem hchange))).trans hs
  | _ =>
      obtain ⟨versions, rfl⟩ := exec_store h
      rfl

theorem tenantHold?_commit {tx : DbTransaction} (h : commit s tx = .ok s')
    (hother : ∀ w ∈ tx.writtenHolds, ¬ (w.tenantId = t ∧ w.id = holdId)) :
    s'.tenantHold? t holdId = s.tenantHold? t holdId := by
  refine foldlM_preserves (P := fun s₁ => s₁.tenantHold? t holdId = s.tenantHold? t holdId)
    (fun stmt hstmt s₁ s₂ hexec hs => ?_) (commit_eq_ok_iff.mp h).1 rfl
  exact (tenantHold?_exec hexec fun w hw =>
    hother w (List.mem_flatMap.mpr ⟨stmt, hstmt, hw⟩)).trans hs

end Frame

section Commit

variable {s s' : Db} {tx : DbTransaction} {t holdId : Uuid}

/-- Whether an entry is posted by a transaction that carries the hold. -/
def carriesHold (s : Db) (t holdId : Uuid) (e : Entry) : Prop :=
  e.tenantId = t ∧ ((s.entryTransaction? e).any fun t => t.holdId = some holdId) = true

instance (s : Db) (t holdId : Uuid) (e : Entry) : Decidable (carriesHold s t holdId e) :=
  inferInstanceAs (Decidable (_ ∧ _))

theorem originalLegs_commit (h : commit s tx = .ok s')
    (hother : ∀ he ∈ tx.newHoldEntries, ¬ (he.tenantId = t ∧ he.holdId = holdId)) :
    s'.originalLegs t holdId = s.originalLegs t holdId := by
  have hnone : (tx.newHoldEntries.filter fun he => he.tenantId = t ∧ he.holdId = holdId) = [] := by
    rw [List.filter_eq_nil_iff]
    intro he hhe
    simpa using hother he hhe
  rw [Db.originalLegs, commit_holdEntries h, List.filter_append, hnone, List.append_nil]
  rfl

theorem holdTouchesGrants_commit (hs : WellFormed s) (h : commit s tx = .ok s')
    (hother : ∀ he ∈ tx.newHoldEntries, ¬ (he.tenantId = t ∧ he.holdId = holdId)) :
    s'.holdTouchesGrants t holdId = s.holdTouchesGrants t holdId := by
  have hext : Extends s s' := RowSteps.extends (commit_steps h)
  have hnone : (tx.newHoldEntries.any fun he => he.tenantId = t ∧ he.holdId = holdId ∧
      s'.grantEnabled he.tenantId he.accountId) = false := by
    rw [List.any_eq_false]
    intro he hhe hcondition
    obtain ⟨htenant, hid, -⟩ := of_decide_eq_true hcondition
    exact hother he hhe ⟨htenant, hid⟩
  rw [Db.holdTouchesGrants, commit_holdEntries h, List.any_append, hnone, Bool.or_false,
    Db.holdTouchesGrants]
  rw [Bool.eq_iff_iff, List.any_eq_true, List.any_eq_true]
  refine exists_congr fun he => and_congr_right fun hhe => ?_
  rw [hext.grantEnabled (hs.links.holdEntries he hhe).2]

theorem postedLegs_commit (hs : WellFormed s) (h : commit s tx = .ok s')
    (hother : ∀ e ∈ tx.newEntries, ¬ carriesHold s' t holdId e) :
    s'.postedLegs t holdId = s.postedLegs t holdId := by
  have hext : Extends s s' := RowSteps.extends (commit_steps h)
  have hnone : (tx.newEntries.filter fun e => e.tenantId = t ∧
      (s'.entryTransaction? e).any fun t => t.holdId = some holdId) = [] := by
    rw [List.filter_eq_nil_iff]
    intro e he hcondition
    exact hother e he (of_decide_eq_true hcondition)
  rw [Db.postedLegs, commit_entries h, List.filter_append, hnone, List.append_nil, Db.postedLegs]
  congr 1
  refine List.filter_congr fun e he => ?_
  rw [hext.entryTransaction? (hs.links.entries e he).2.1]

/-- The check of a hold is deferred for every row that touches it. -/
theorem holdsConsistent_commit (hs : WellFormed s) (hconsistent : HoldsConsistent s)
    (h : commit s tx = .ok s') : HoldsConsistent s' := by
  intro t holdId
  by_cases hhold : ∃ w ∈ tx.writtenHolds, w.tenantId = t ∧ w.id = holdId
  · obtain ⟨w, hw, rfl, rfl⟩ := hhold
    exact deferred_hold h hw
  by_cases hentry : ∃ he ∈ tx.newHoldEntries, he.tenantId = t ∧ he.holdId = holdId
  · obtain ⟨he, hhe, rfl, rfl⟩ := hentry
    exact (deferred_holdEntry h hhe).2
  by_cases hposting : ∃ e ∈ tx.newEntries, carriesHold s' t holdId e
  · obtain ⟨e, he, rfl, hcarries⟩ := hposting
    obtain ⟨transaction, hfound, hid⟩ := (Option.any_eq_true _ _).mp hcarries
    have hchecked := (deferred_entry h he).2
    rw [checkPostingHold, hfound, Option.bind_some, of_decide_eq_true hid] at hchecked
    exact hchecked
  -- no row of the database transaction touches the hold
  have hsame := hconsistent t holdId
  unfold assertGrantHoldConsistent at hsame ⊢
  rw [holdTouchesGrants_commit hs h fun he hhe htouch => hentry ⟨he, hhe, htouch⟩,
    tenantHold?_commit h fun w hw hwritten => hhold ⟨w, hw, hwritten⟩,
    originalLegs_commit h fun he hhe htouch => hentry ⟨he, hhe, htouch⟩,
    postedLegs_commit hs h fun e he hcarries => hposting ⟨e, he, hcarries⟩]
  exact hsame

end Commit

theorem replay_holdsConsistent {log : List DbTransaction} {s : Db} (h : replay log = .ok s) :
    WellFormed s ∧ HoldsConsistent s :=
  run_invariant (P := fun s => WellFormed s ∧ HoldsConsistent s)
    ⟨WellFormed.empty, holdsConsistent_empty⟩
    (fun _ _ _ hcommit hs =>
      ⟨RowSteps.wellFormed (commit_steps hcommit) hs.1,
        holdsConsistent_commit hs.1 hs.2 hcommit⟩) h

/-! ## What the check says -/

/-- The entries of a hold, of whatever tenant. -/
def holdLegs (s : Db) (holdId : Uuid) : List Leg :=
  (s.holdEntries.filter fun he => he.holdId = holdId).map
    fun he => (he.accountId, he.signedAmountMinor)

/-- What the transactions that carry a hold have posted, of whatever tenant. -/
def capturedLegs (s : Db) (holdId : Uuid) : List Leg :=
  (s.entries.filter fun e =>
    (s.transaction? e.transactionId).any fun t => t.holdId = some holdId).map
    fun e => (e.accountId, e.signedAmountMinor)

/-- What the transactions that carry a hold have debited. -/
def capturedAmount (s : Db) (h : Hold) : Int := debitTotal (capturedLegs s h.id)

/-- What one transaction has debited. -/
def transactionDebit (s : Db) (t : Transaction) : Int :=
  sumWhere s.entries (fun e => e.transactionId = t.id ∧ 0 < e.signedAmountMinor)
    (·.signedAmountMinor)

/-- Legs of a hold and legs that are posted for it, against the hold. -/
structure LegsAccount (h : Hold) (original posted : List Leg) : Prop where
  total : debitTotal original = h.originalAmountMinor
  balanced : netTotal original = 0
  postedBalanced : netTotal posted = 0
  /-- posted / held = captured / original, for every account and sign -/
  proportional : ∀ account side, sideTotal posted account side * h.originalAmountMinor =
    sideTotal original account side * debitTotal posted
  capturedNonneg : 0 ≤ debitTotal posted
  capturedLe : debitTotal posted ≤ h.originalAmountMinor
  held : h.state = .held →
    h.remainingAmountMinor = h.originalAmountMinor - debitTotal posted ∧
      0 < h.originalAmountMinor - debitTotal posted
  applied : h.state = .applied → ∀ account side,
    sideTotal posted account side = sideTotal original account side
  voided : h.state = .voided →
    debitTotal posted < h.originalAmountMinor ∧ h.remainingAmountMinor = 0

/-- A hold against its entries and against what the transactions carrying it have
posted. -/
structure HoldAccounts (s : Db) (h : Hold) : Prop where
  legs : LegsAccount h (holdLegs s h.id) (capturedLegs s h.id)
  /-- every capture is deducted from the remainder once -/
  deducted : sumWhere s.transactions (fun t => t.holdId = some h.id) (transactionDebit s) =
    capturedAmount s h

/-- What the log inserts for a hold is of the hold's tenant, and one of its hold entries is on
a grant-enabled account of this tenant. -/
structure OwnTenantHold (log : List DbTransaction) (h : Hold) : Prop where
  account : ∃ he ∈ log.flatMap DbTransaction.newHoldEntries, he.holdId = h.id ∧
    ∃ a ∈ log.flatMap DbTransaction.newAccounts,
      a.id = he.accountId ∧ a.tenantId = h.tenantId ∧ a.grantEnabled = true
  entries : ∀ he ∈ log.flatMap DbTransaction.newHoldEntries, he.holdId = h.id →
    he.tenantId = h.tenantId
  postings : ∀ t ∈ log.flatMap DbTransaction.newTransactions, t.holdId = some h.id →
    ∀ e ∈ log.flatMap DbTransaction.newEntries, e.transactionId = t.id →
      t.tenantId = h.tenantId ∧ e.tenantId = h.tenantId

theorem sideTotal_eq_zero {legs : List Leg} {account : Uuid} {side : SignType}
    (h : ∀ leg ∈ legs, ¬ (leg.1 = account ∧ SignType.sign leg.2 = side)) :
    sideTotal legs account side = 0 :=
  sumWhere_eq_zero fun leg hleg hcondition => absurd (of_decide_eq_true hcondition) (h leg hleg)

/-- A hold against the legs it was made with and against those that are posted for it. -/
structure LegsAgree (hold : Hold) (original posted : List Leg) : Prop where
  total : debitTotal original = hold.originalAmountMinor
  balanced : netTotal original = 0
  postedBalanced : netTotal posted = 0
  postedLe : debitTotal posted ≤ hold.originalAmountMinor
  held : hold.state = .held →
    hold.remainingAmountMinor = hold.originalAmountMinor - debitTotal posted
  applied : hold.state = .applied → debitTotal posted = hold.originalAmountMinor
  voided : hold.state = .voided → debitTotal posted < hold.originalAmountMinor
  proportional : ∀ account side,
    sideTotal posted account side * hold.originalAmountMinor =
      sideTotal original account side * debitTotal posted

/-- The check of a hold that touches grants, branch by branch. -/
theorem assertGrantHoldConsistent_eq_ok_iff {s : Db} {t holdId : Uuid}
    (htouches : s.holdTouchesGrants t holdId = true) :
    assertGrantHoldConsistent s t holdId = .ok () ↔ ∃ hold, s.tenantHold? t holdId = some hold ∧
      LegsAgree hold (s.originalLegs t holdId) (s.postedLegs t holdId) := by
  unfold assertGrantHoldConsistent
  rw [if_neg (by simpa using htouches)]
  cases hhold : s.tenantHold? t holdId with
  | none => simp
  | some hold =>
      simp only [bind_eq_ok_iff, raiseIf_eq_ok_iff, ne_eq, Truth.of_eq_true_iff, not_or,
        not_not, not_and, not_exists, exists_const, gt_iff_lt, ge_iff_le, not_lt, not_le,
        Option.some.injEq, exists_eq_left']
      constructor
      · intro h
        obtain ⟨⟨horiginal, hnet⟩, ⟨hposted, hle, hheld, happlied, hvoided⟩, hlegs⟩ := h
        rw [horiginal] at hle hheld happlied hvoided hlegs
        refine ⟨horiginal, hnet, hposted, hle, hheld, happlied, hvoided, fun account side => ?_⟩
        -- an account and sign without a leg has both totals zero
        by_cases hleg : ∃ leg ∈ s.originalLegs t holdId ++ s.postedLegs t holdId,
            leg.1 = account ∧ SignType.sign leg.2 = side
        · obtain ⟨leg, hmem, rfl, rfl⟩ := hleg
          exact hlegs leg hmem
        · have hnone : ∀ leg ∈ s.originalLegs t holdId ++ s.postedLegs t holdId,
              ¬ (leg.1 = account ∧ SignType.sign leg.2 = side) :=
            fun leg hmem hleg' => hleg ⟨leg, hmem, hleg'⟩
          rw [sideTotal_eq_zero fun leg hmem => hnone leg (List.mem_append_right _ hmem),
            sideTotal_eq_zero fun leg hmem => hnone leg (List.mem_append_left _ hmem)]
          ring
      · intro h
        rw [h.total]
        exact ⟨⟨rfl, h.balanced⟩, ⟨h.postedBalanced, h.postedLe, h.held, h.applied, h.voided⟩,
          fun leg _ => h.proportional _ _⟩

/-- What the transactions carrying a hold have debited, transaction by transaction. -/
theorem sum_transactionDebit {s : Db} (hs : WellFormed s) (h : Hold) :
    sumWhere s.transactions (fun t => t.holdId = some h.id) (transactionDebit s) =
      capturedAmount s h := by
  rw [capturedAmount, debitTotal, capturedLegs, sumWhere_map, sumWhere_filter,
    ← sumWhere_groups Entry.transactionId Transaction.id (fun t => t.holdId = some h.id)
      hs.keys.transactions]
  · refine sumWhere_congr (fun _ _ => rfl) fun t ht hcarries => ?_
    refine sumWhere_congr (fun e _ => ?_) fun _ _ _ => rfl
    have hfound : s.transaction? t.id = some t := lookup_key hs.keys.transactions ht
    by_cases hid : e.transactionId = t.id
    · simp [hfound, hid, of_decide_eq_true hcarries]
    · simp [hid]
  · intro e _ hcondition
    simp only [Bool.and_eq_true, decide_eq_true_eq, Option.any_eq_true] at hcondition
    obtain ⟨-, t, hfound, hhold⟩ := hcondition
    exact ⟨t, mem_of_lookup hfound, decide_eq_true hhold, key_of_lookup hfound⟩

/-- The check and the CHECK constraints together. -/
theorem legsAccount_of_consistent {s : Db} (hs : WellFormed s) (hconsistent : HoldsConsistent s)
    {hold : Hold} (hhold : hold ∈ s.holds) {he : HoldEntry} (hhe : he ∈ s.holdEntries)
    (hentry : he.holdId = hold.id) (henabled : s.grantEnabled he.tenantId he.accountId = true) :
    LegsAccount hold (s.originalLegs hold.tenantId hold.id)
      (s.postedLegs hold.tenantId hold.id) := by
  have htouches : s.holdTouchesGrants he.tenantId he.holdId = true :=
    holdTouchesGrants_of_mem hhe henabled
  obtain ⟨hold', hfound, hagree⟩ :=
    (assertGrantHoldConsistent_eq_ok_iff htouches).mp (hconsistent he.tenantId he.holdId)
  obtain ⟨hmem, htenant, hid⟩ := tenantHold?_eq_some hfound
  have hsame : hold' = hold :=
    List.inj_on_of_nodup_map hs.keys.holds hmem hhold (hid.trans hentry)
  subst hsame
  rw [hentry, ← htenant] at hagree
  have hchecked := hs.links.holds hold' hhold
  have hstate := hchecked.stateAmount
  have hpos := hchecked.originalPos
  refine
    { total := hagree.total
      balanced := hagree.balanced
      postedBalanced := hagree.postedBalanced
      proportional := hagree.proportional
      capturedNonneg := sumWhere_nonneg fun _ _ hdebit => (of_decide_eq_true hdebit).le
      capturedLe := hagree.postedLe
      held := fun hheld' => ?_
      applied := fun happlied' account side => ?_
      voided := fun hvoided' => ⟨hagree.voided hvoided', ?_⟩ }
  · have hremaining := hagree.held hheld'
    refine ⟨hremaining, ?_⟩
    rcases hstate with ⟨-, hremains⟩ | ⟨hfinal, -⟩
    · exact hremaining ▸ hremains
    · simp [hheld'] at hfinal
  · have hproportion := hagree.proportional account side
    rw [hagree.applied happlied'] at hproportion
    exact Int.eq_of_mul_eq_mul_right hpos.ne' hproportion
  · rcases hstate with ⟨hheld', -⟩ | ⟨-, hzero⟩
    · simp [hvoided'] at hheld'
    · exact hzero

/-! ## All tenants -/

section AllTenants

variable {log : List DbTransaction} {s : Db} (h : replay log = .ok s) {hold : Hold}
  (hown : OwnTenantHold log hold)
include h hown

theorem holdLegs_eq : holdLegs s hold.id = s.originalLegs hold.tenantId hold.id := by
  have hentries := hown.entries
  rw [← replay_holdEntries h] at hentries
  unfold holdLegs Db.originalLegs
  congr 1
  refine List.filter_congr fun he hhe => decide_eq_decide.mpr ?_
  exact ⟨fun hid => ⟨hentries he hhe hid, hid⟩, fun hscope => hscope.2⟩

theorem capturedLegs_eq : capturedLegs s hold.id = s.postedLegs hold.tenantId hold.id := by
  have hpostings := hown.postings
  rw [← replay_transactions h, ← replay_entries h] at hpostings
  unfold capturedLegs Db.postedLegs
  congr 1
  refine List.filter_congr fun e he => ?_
  cases hfound : s.transaction? e.transactionId with
  | none => simp [Db.entryTransaction?, hfound]
  | some t =>
      rw [Db.entryTransaction?, hfound, Option.any_some]
      by_cases hcarries : t.holdId = some hold.id
      · obtain ⟨htenant, hentry⟩ := hpostings t (mem_of_lookup hfound) hcarries e he
          (key_of_lookup hfound).symm
        simp [hcarries, htenant, hentry]
      · by_cases hsame : t.tenantId = e.tenantId
        · simp [hcarries, hsame]
        · simp [hcarries, hsame]

end AllTenants

/-- For every hold with an entry on a grant-enabled account, in every committed state: where
what the run has inserted for the hold is of the hold's tenant, what its transactions have
posted is the captured part of the hold, in proportion for every account and sign, and the
remainder is what the state says. -/
theorem holdAccounts_of_own {log : List DbTransaction} {s : Db} (h : replay log = .ok s)
    {hold : Hold} (hhold : hold ∈ s.holds) (hown : OwnTenantHold log hold) :
    HoldAccounts s hold := by
  obtain ⟨hs, hconsistent⟩ := replay_holdsConsistent h
  obtain ⟨he, hhe, hentry, a, ha, haccount, htenant, henabled⟩ := hown.account
  have hsame := hown.entries he hhe hentry
  rw [← replay_holdEntries h] at hhe
  rw [← replay_accounts h] at ha
  have hfound : s.account? a.id = some a := lookup_key hs.keys.accounts ha
  have hlegs := legsAccount_of_consistent hs hconsistent hhold hhe hentry
    (grantEnabled_eq_true_iff.mpr ⟨a, haccount ▸ hfound, htenant.trans hsame.symm, henabled⟩)
  rw [← holdLegs_eq h hown, ← capturedLegs_eq h hown] at hlegs
  exact ⟨hlegs, sum_transactionDebit hs hold⟩

/-- In the small run 40 of 60 were captured before the rest was voided. -/
theorem holdAccounts_of_own_sample :
    HoldAccounts (Sample.stateAfter Sample.log)
        { Sample.hold with state := .voided, remainingAmountMinor := 0, voidedAt := some 4 } ∧
      capturedAmount (Sample.stateAfter Sample.log) Sample.hold = 40 :=
  ⟨holdAccounts_of_own (Sample.replay_stateAfter (by rfl)) (by decide +kernel)
    ⟨⟨⟨500, 1, 400, 10, 60, 1⟩, by decide, rfl,
        ⟨10, 1, 5, .credit, .disallow, 1, true⟩, by decide⟩, by decide, by decide⟩, by rfl⟩

/-- Tenant 2 holds 60 on account 10 of tenant 1. -/
def Sample.heldByOther : List DbTransaction :=
  [⟨0, accounts⟩, ⟨1, otherAsset :: otherReservation 60⟩]

/-- The hold is accepted with this single entry, so its entries do not net to zero. -/
theorem other_hold_unbalanced :
    replay Sample.heldByOther = .ok (Sample.stateAfter Sample.heldByOther) ∧
      Sample.otherHold ∈ (Sample.stateAfter Sample.heldByOther).holds ∧
      isGrantAccount (Sample.stateAfter Sample.heldByOther) 10 = true ∧
      holdLegs (Sample.stateAfter Sample.heldByOther) 480 = [(10, 60)] ∧
      ¬ HoldAccounts (Sample.stateAfter Sample.heldByOther) Sample.otherHold := by
  have hlegs : holdLegs (Sample.stateAfter Sample.heldByOther) Sample.otherHold.id = [(10, 60)] :=
    by rfl
  refine ⟨Sample.replay_stateAfter (by rfl), by decide +kernel, by rfl, hlegs, fun haccounts => ?_⟩
  have hbalanced := haccounts.legs.balanced
  rw [hlegs] at hbalanced
  exact absurd hbalanced (by decide)

end LuxLedger.Credit
