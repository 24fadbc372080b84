/-
  Credit/Capturing.lean --- capturing a hold.

  A capture posts a part of what a hold reserves and attributes it to grants that are
  allocated to the hold.  It is accepted exactly if the hold is HELD, the amount is within
  what remains of the hold and each share within what the hold has left of its grant.
  Whether the grants are live still, or have anything free, does not matter.  So what was
  reserved can be captured, whatever is done in between.

  Sources: `validate_credit_grant_entry` (0007), `guard_hold_lifecycle`,
  `assert_grant_hold_consistent` (0004).
-/
import LuxLedger.Credit.Postings
import LuxLedger.Credit.Voiding

set_option autoImplicit false

namespace LuxLedger.Credit

open LuxLedger.Schema LuxLedger.Relational

/-! ## The capture -/

/-- A hold after a further amount of it is captured. -/
def capturedHold (now : Timestamp) (hold : Hold) (amountMinor : Int) : Hold :=
  if amountMinor < hold.remainingAmountMinor then
    { hold with
      remainingAmountMinor := hold.remainingAmountMinor - amountMinor
      appliedAt := none
      voidedAt := none }
  else
    { hold with
      state := .applied
      remainingAmountMinor := 0
      appliedAt := some now
      voidedAt := none }

/-- The database transaction that captures the amount of a posting. -/
def Posting.capture (p : Posting) (now : Timestamp) (hold : Hold) (shares : List (Uuid × Int)) :
    DbTransaction where
  now := now
  statements := [.insertTransactions [p.transaction], .insertEntries [p.debit, p.credit],
    .insertCreditGrantEntries (shares.map (p.lineage .consumption)),
    .updateHolds [(hold.id, capturedHold now hold p.amountMinor)]]

/-- The posting carries the hold, which reserves on the same two accounts, by two entries. -/
structure Posting.Captures (p : Posting) (s : Db) (hold : Hold) : Prop where
  stored : hold ∈ s.holds
  tenant : hold.tenantId = p.account.tenantId
  carries : p.holdId = some hold.id
  legs : (s.originalLegs hold.tenantId hold.id).Perm
    [(p.account.id, hold.originalAmountMinor), (p.counter.id, - hold.originalAmountMinor)]

/-- The hold has a share left of a grant of the account. -/
def Posting.Draws (p : Posting) (w : Purse) (hold : Hold) (share : Uuid × Int) : Prop :=
  0 < share.2 ∧ share.2 ≤ p.amountMinor ∧ ∃ g ∈ w.grants, g.id = share.1 ∧
    g.tenantId = p.account.tenantId ∧ g.accountId = p.account.id ∧
    share.2 ≤ w.left hold.id share.1

section Row

variable {now : Timestamp} {hold : Hold} {amountMinor : Int}

theorem capturedHold_identity : (capturedHold now hold amountMinor).identity = hold.identity := by
  unfold capturedHold
  split <;> rfl

theorem capturedHold_id : (capturedHold now hold amountMinor).id = hold.id :=
  congrArg HoldIdentity.id capturedHold_identity

theorem capturedHold_tenantId : (capturedHold now hold amountMinor).tenantId = hold.tenantId :=
  congrArg HoldIdentity.tenantId capturedHold_identity

theorem capturedHold_original :
    (capturedHold now hold amountMinor).originalAmountMinor = hold.originalAmountMinor :=
  congrArg HoldIdentity.originalAmountMinor capturedHold_identity

theorem capturedHold_ne_voided (hheld : hold.state = .held) :
    (capturedHold now hold amountMinor).state ≠ .voided := by
  unfold capturedHold
  split <;> simp [hheld]

/-- The lifecycle guard lets a capture of a HELD hold through. -/
theorem guardHoldUpdate_captured (hheld : hold.state = .held) (hpos : 0 < amountMinor) :
    guardHoldUpdate hold (capturedHold now hold amountMinor) = .ok () := by
  simp only [guardHoldUpdate, capturedHold_identity, hheld, bind_eq_ok_iff, raiseIf_eq_ok_iff,
    ne_eq, Truth.of_eq_true_iff, not_true_eq_false, not_false_eq_true, exists_const, true_and]
  unfold capturedHold
  by_cases hpart : amountMinor < hold.remainingAmountMinor
  · rw [if_pos hpart, if_pos]
    exact ⟨hheld, sub_pos.mpr hpart, sub_lt_self _ hpos, rfl, rfl⟩
  · rw [if_neg hpart, if_neg (fun hpartial => by cases hpartial.1), if_pos]
    exact ⟨rfl, rfl, rfl, rfl⟩

theorem checkHold_captured (hheld : hold.state = .held) (hpos : 0 < amountMinor)
    (hremaining : 0 < hold.remainingAmountMinor)
    (hle : hold.remainingAmountMinor ≤ hold.originalAmountMinor) :
    checkHold (capturedHold now hold amountMinor) = .ok () := by
  have horiginal : 0 < hold.originalAmountMinor := hremaining.trans_le hle
  unfold capturedHold
  simp only [checkHold, bind_eq_ok_iff, require_eq_ok_iff, exists_const]
  by_cases hpart : amountMinor < hold.remainingAmountMinor
  · rw [if_pos hpart]
    exact ⟨⟨horiginal, (sub_pos.mpr hpart).le, (sub_le_self _ hpos.le).trans hle⟩,
      Or.inl ⟨hheld, sub_pos.mpr hpart⟩⟩
  · rw [if_neg hpart]
    exact ⟨⟨horiginal, le_refl _, horiginal.le⟩, Or.inr ⟨Or.inl rfl, rfl⟩⟩

/-- Only a void releases anything. -/
theorem releaseGrantHoldReservations_kept {s : Db} {old new : Hold} (h : new.state ≠ .voided) :
    releaseGrantHoldReservations s old new = .ok s := by
  rw [releaseGrantHoldReservations, if_pos h, ite_self]

end Row

/-- A debit and a credit of an amount. -/
theorem sideTotal_pair {debited credited : Uuid} {amountMinor : Int} (hpos : 0 < amountMinor)
    (account : Uuid) (side : SignType) :
    sideTotal [(debited, amountMinor), (credited, - amountMinor)] account side =
      amountMinor * ((if debited = account ∧ 1 = side then 1 else 0) +
        if credited = account ∧ -1 = side then 1 else 0) := by
  rw [sideTotal, sumWhere_cons, sumWhere_singleton, abs_neg, abs_of_pos hpos, sign_pos hpos,
    sign_neg (neg_neg_of_pos hpos)]
  simp only [decide_eq_true_eq, mul_add, mul_ite, mul_one, mul_zero]

/-! ## The validator on a share -/

/-- What the validator counts as allocated to a HELD hold is all that is. -/
theorem heldAllocation_eq {s : Db} (hs : Grounded s) {hold : Hold} (hhold : hold ∈ s.holds)
    (hheld : hold.state = .held) (t g : Uuid) :
    heldAllocation s t g hold.id = s.holdAllocated t g hold.id := by
  refine sumWhere_congr (fun a ha => ?_) fun _ _ _ => rfl
  obtain ⟨g', he, hlink⟩ := hs.links.allocations a ha
  obtain ⟨h, hfound, htenant⟩ := hlink.hold
  have hentry : (s.allocationHoldEntry? a).bind s.holdEntryHold? = some h := by
    rw [hlink.holdEntry, Option.bind_some, Db.holdEntryHold?, hfound, Option.filter_some,
      if_pos (decide_eq_true htenant)]
  have hid : h.id = he.holdId := key_of_lookup hfound
  rw [hentry, Option.any_some, hlink.allocationHoldId, ← hid]
  refine decide_eq_decide.mpr (and_congr_right fun _ => and_congr_right fun _ => ?_)
  rw [decide_eq_true_eq, Option.some.injEq]
  refine and_iff_left_of_imp fun hsame => ?_
  obtain rfl := List.inj_on_of_nodup_map hs.keys.holds (mem_of_lookup hfound) hhold hsame
  exact hheld

section Capture

variable {s : Db} {p : Posting} {now : Timestamp} {hold : Hold} {share : Uuid × Int}
  {before shares : List (Uuid × Int)}

theorem Posting.Captures.touches (hc : p.Captures s hold) (hs : Committed s)
    (hp : p.Possible s) : s.holdTouchesGrants hold.tenantId hold.id = true := by
  have hleg : (p.account.id, hold.originalAmountMinor) ∈ s.originalLegs hold.tenantId hold.id :=
    hc.legs.mem_iff.mpr List.mem_cons_self
  obtain ⟨he, hmem, hpair⟩ := List.mem_map.mp hleg
  obtain ⟨hhe, hscope⟩ := List.mem_filter.mp hmem
  obtain ⟨htenant, hid⟩ := of_decide_eq_true hscope
  have henabled : s.grantEnabled he.tenantId he.accountId = true := by
    rw [htenant, hc.tenant, (Prod.mk.inj hpair).1]
    refine (Option.any_eq_true _ _).mpr ⟨p.account, hs.account? hp.account, ?_⟩
    exact decide_eq_true ⟨rfl, hp.enabled⟩
  have htouches := holdTouchesGrants_of_mem hhe henabled
  rwa [htenant, hid] at htouches

theorem Posting.Captures.sideTotal_original (hc : p.Captures s hold)
    (hpos : 0 < hold.originalAmountMinor) (account : Uuid) (side : SignType) :
    sideTotal (s.originalLegs hold.tenantId hold.id) account side =
      hold.originalAmountMinor * ((if p.account.id = account ∧ 1 = side then 1 else 0) +
        if p.counter.id = account ∧ -1 = side then 1 else 0) :=
  (sumWhere_perm hc.legs).trans (sideTotal_pair hpos account side)

/-- The hold agrees with its legs. -/
theorem Posting.Captures.agree (hc : p.Captures s hold) (hs : Committed s) (hp : p.Possible s) :
    LegsAgree hold (s.originalLegs hold.tenantId hold.id)
      (s.postedLegs hold.tenantId hold.id) := by
  obtain ⟨hold', hfound, hagree⟩ :=
    (assertGrantHoldConsistent_eq_ok_iff (hc.touches hs hp)).mp
      (hs.invariants.consistent hold.tenantId hold.id)
  obtain rfl := Option.some.inj ((hold?_of_mem hs.reserve.grounded hc.stored).symm.trans
    (Option.filter_eq_some_iff.mp hfound).1)
  exact hagree

theorem Posting.Captures.remaining (hc : p.Captures s hold) (hs : Committed s)
    (hp : p.Possible s) (hheld : hold.state = .held) :
    0 < hold.remainingAmountMinor ∧ hold.remainingAmountMinor ≤ hold.originalAmountMinor := by
  have hposted : 0 ≤ debitTotal (s.postedLegs hold.tenantId hold.id) :=
    sumWhere_nonneg fun _ _ hdebit => (of_decide_eq_true hdebit).le
  have hremaining := (hc.agree hs hp).held hheld
  rcases (hs.invariants.wellFormed.links.holds hold hc.stored).stateAmount with
    ⟨-, hpos⟩ | ⟨hfinal, -⟩
  · exact ⟨hpos, by omega⟩
  · simp [hheld] at hfinal

theorem attributed_extends (s : Db) (p : Posting) (kind : CreditGrantEntryKind)
    (shares : List (Uuid × Int)) : Extends s (p.attributed s kind shares) where
  accounts := List.prefix_rfl
  transactions := List.prefix_append _ _
  entries := List.prefix_append _ _
  creditGrants := List.prefix_rfl
  creditGrantEntries := List.prefix_append _ _
  holdEntries := List.prefix_rfl
  creditGrantHoldAllocations := List.prefix_rfl
  holds := fun _ h hfound => ⟨h, hfound, rfl, fun _ => rfl⟩

/-- Shares of other grants leave alone what the hold has consumed of a grant. -/
theorem holdConsumed_attributed (hs : Usable s) (hnew : ∀ b ∈ before, b.1 ≠ share.1) (t h : Uuid) :
    (p.attributed s .consumption before).holdConsumed t share.1 h =
      s.holdConsumed t share.1 h := by
  have hrows : (p.attributed s .consumption before).creditGrantEntries =
      s.creditGrantEntries ++ before.map (p.lineage .consumption) := rfl
  rw [holdConsumed_extends hs.reserve.grounded.links (attributed_extends s p _ before) hrows,
    sumWhere_eq_zero, add_zero]
  intro l hl hcondition
  obtain ⟨b, hb, rfl⟩ := List.mem_map.mp hl
  exact absurd (of_decide_eq_true hcondition).2.1 (hnew b hb)

/-- What the CONSUMPTION branch asks of a posting that carries a HELD hold. -/
theorem acceptedKind_capture_iff (hs : Usable s) (hp : p.Possible s) (hc : p.Captures s hold)
    (hheld : hold.state = .held) (hnew : ∀ b ∈ before, b.1 ≠ share.1) {g : CreditGrant} :
    AcceptedKind (p.attributed s .consumption before) now (p.lineage .consumption share)
      (p.linked g) ↔ share.2 ≤ leftMinor s hold.id share.1 := by
  have hdebit : 0 < p.debit.signedAmountMinor := hp.amountPos
  have hkind : (p.lineage .consumption share).kind = .consumption := rfl
  have hhold : (p.linked g).transaction.holdId = some hold.id := hc.carries
  have hconsumed : (p.attributed s .consumption before).holdConsumed p.account.tenantId share.1
      hold.id = s.holdConsumed p.account.tenantId share.1 hold.id :=
    holdConsumed_attributed hs hnew _ _
  have hallocated : heldAllocation (p.attributed s .consumption before) p.account.tenantId share.1
      hold.id = s.holdAllocated p.account.tenantId share.1 hold.id :=
    heldAllocation_eq hs.reserve.grounded hc.stored hheld _ _
  have hstate : hold.state ≠ .voided := by simp [hheld]
  have hleft : uncaptured s share.1 hold = s.holdAllocated p.account.tenantId share.1 hold.id -
      s.holdConsumed p.account.tenantId share.1 hold.id := by
    rw [uncaptured, hc.tenant]
  have hreserved := uncaptured_le_reserved hs.reserve hc.stored hheld share.1
  have hremaining := (countersChecked hs.reserve hold.tenantId share.1).reservedLe
  rw [hc.tenant] at hreserved hremaining
  simp only [AcceptedKind, hkind, hhold]
  change 0 < p.debit.signedAmountMinor ∧
    share.2 ≤ s.latestMinor p.account.tenantId share.1 (·.remainingMinor) ∧
    (p.attributed s .consumption before).holdConsumed p.account.tenantId share.1 hold.id +
      share.2 ≤ heldAllocation (p.attributed s .consumption before) p.account.tenantId share.1
        hold.id ↔ _
  rw [hconsumed, hallocated, leftMinor_of_mem hs.reserve hc.stored hstate]
  constructor
  · rintro ⟨-, -, hle⟩
    omega
  · intro hle
    exact ⟨hdebit, by omega, by omega⟩

/-- The check of a share, whatever shares are in already. -/
theorem checkCapture_iff (hs : Usable s) (hp : p.Possible s) (hc : p.Captures s hold)
    (hheld : hold.state = .held) :
    checkCreditGrantEntry now (p.attributed s .consumption before) (p.lineage .consumption share) =
      .ok () ↔ (∀ b ∈ before, b.1 ≠ share.1) ∧ p.Draws (purse s) hold share := by
  refine (@checkLineage_iff s p now .consumption share before hs hp (by decide)
    (by decide)).trans ?_
  refine and_congr_right fun hnew => and_congr_right fun _ => and_congr_right fun _ => ?_
  refine exists_congr fun g => and_congr_right fun _ => and_congr_right fun _ => ?_
  refine and_congr_right fun _ => and_congr_right fun _ => ?_
  exact acceptedKind_capture_iff hs hp hc hheld hnew

/-! ## The database transaction -/

theorem exec_capture (hs : Usable s) (hp : p.Possible s) :
    (p.capture now hold shares).exec s =
      (Statement.insertCreditGrantEntries (shares.map (p.lineage .consumption))).exec now
        (p.posted s) >>=
          fun mid => updateHold mid (hold.id, capturedHold now hold p.amountMinor) := by
  have hupdate : ∀ mid, (Statement.updateHolds [(hold.id, capturedHold now hold
      p.amountMinor)]).exec now mid = updateHold mid (hold.id, capturedHold now hold
        p.amountMinor) := by
    intro mid
    simp only [Statement.exec, List.foldlM_cons, List.foldlM_nil, bind_pure]
  refine (exec_posting hs hp.toFresh _).trans ?_
  simp only [List.foldlM_cons, List.foldlM_nil, bind_pure, hupdate]

/-- The UPDATE of the hold after its lineage is stored. -/
theorem updateHold_captured_iff (hs : Committed s) (hp : p.Possible s) (hc : p.Captures s hold)
    {mid s' : Db} (hmid : SameTables (p.attributed s .consumption shares) mid) :
    updateHold mid (hold.id, capturedHold now hold p.amountMinor) = .ok s' ↔
      hold.state = .held ∧ s' = mid.replaceHold (capturedHold now hold p.amountMinor) := by
  have hfound : mid.hold? hold.id = some hold := by
    obtain ⟨versions, rfl⟩ := hmid
    exact hold?_of_mem hs.reserve.grounded hc.stored
  constructor
  · intro hupdate
    obtain ⟨old, released, hold?, -, -, htransition, hreleased, -, rfl⟩ := updateHold_ok hupdate
    obtain rfl := Option.some.inj (hfound.symm.trans hold?)
    have hheld := htransition.held
    rw [releaseGrantHoldReservations_kept (capturedHold_ne_voided hheld)] at hreleased
    exact ⟨hheld, by rw [Except.ok.inj hreleased]⟩
  · rintro ⟨hheld, rfl⟩
    obtain ⟨hremaining, hle⟩ := hc.remaining hs hp hheld
    simp only [updateHold, hfound, bind_eq_ok_iff]
    exact ⟨(), guardHoldUpdate_captured hheld hp.amountPos, mid,
      releaseGrantHoldReservations_kept (capturedHold_ne_voided hheld), (),
      checkHold_captured hheld hp.amountPos hremaining hle, rfl⟩

/-- The capture goes through, up to commit, exactly if the hold is HELD and its shares are of
different grants, of each of which the hold has its share left. -/
theorem exec_capture_iff (hs : Committed s) (hp : p.Possible s) (hc : p.Captures s hold) :
    (∃ s', (p.capture now hold shares).exec s = .ok s') ↔ hold.state = .held ∧
      UniqueKey Prod.fst shares ∧ ∀ share ∈ shares, p.Draws (purse s) hold share := by
  rw [exec_capture hs.toUsable hp]
  have hlineage : hold.state = .held → ((∃ mid, (Statement.insertCreditGrantEntries
      (shares.map (p.lineage .consumption))).exec now (p.posted s) = .ok mid) ↔
        UniqueKey Prod.fst shares ∧ ∀ share ∈ shares, p.Draws (purse s) hold share) := fun hheld =>
    exec_lineage_iff hs.toUsable hp fun _ _ => checkCapture_iff hs.toUsable hp hc hheld
  simp only [bind_eq_ok_iff]
  constructor
  · rintro ⟨s', mid, hmid, hupdate⟩
    have hheld := ((updateHold_captured_iff hs hp hc (exec_store hmid)).mp hupdate).1
    exact ⟨hheld, (hlineage hheld).mp ⟨mid, hmid⟩⟩
  · rintro ⟨hheld, hshares⟩
    obtain ⟨mid, hmid⟩ := (hlineage hheld).mpr hshares
    exact ⟨_, mid, hmid, (updateHold_captured_iff hs hp hc (exec_store hmid)).mpr ⟨hheld, rfl⟩⟩

/-! ## The deferred triggers -/

section Deferred

variable {s' : Db} (hs : Committed s) (hp : p.Possible s) (hc : p.Captures s hold)
  (hexec : (p.capture now hold shares).exec s = .ok s')
include hs hp hc hexec

/-- The tables after the capture, capacity versions left aside. -/
theorem sameTables_capture : SameTables ((p.attributed s .consumption shares).replaceHold
    (capturedHold now hold p.amountMinor)) s' := by
  rw [exec_capture hs.toUsable hp, bind_eq_ok_iff] at hexec
  obtain ⟨mid, hmid, hupdate⟩ := hexec
  have hsame : SameTables (p.attributed s .consumption shares) mid := exec_store hmid
  obtain ⟨-, rfl⟩ := (updateHold_captured_iff hs hp hc hsame).mp hupdate
  exact hsame.replaceHold

theorem storedIn_capture : p.StoredIn s .consumption shares s' := by
  obtain ⟨versions, rfl⟩ := sameTables_capture hs hp hc hexec
  exact ⟨rfl, rfl, rfl, rfl⟩

theorem tenantHold?_capture : s'.tenantHold? hold.tenantId hold.id =
    some (capturedHold now hold p.amountMinor) := by
  have hfound : s.hold? hold.id = some hold := hold?_of_mem hs.reserve.grounded hc.stored
  have hreplaced : ((p.attributed s .consumption shares).replaceHold
      (capturedHold now hold p.amountMinor)).hold? hold.id =
        some (capturedHold now hold p.amountMinor) := by
    refine (@hold?_replaceHold (p.attributed s .consumption shares)
      (capturedHold now hold p.amountMinor) hold ?_ hold.id).trans (if_pos capturedHold_id.symm)
    rw [capturedHold_id]
    exact hfound
  obtain ⟨versions, rfl⟩ := sameTables_capture hs hp hc hexec
  exact Option.filter_eq_some_iff.mpr ⟨hreplaced, decide_eq_true capturedHold_tenantId⟩

/-- The legs of the posting are posted for the hold, after those that were. -/
theorem postedLegs_capture : s'.postedLegs hold.tenantId hold.id =
    s.postedLegs hold.tenantId hold.id ++
      [(p.account.id, p.amountMinor), (p.counter.id, - p.amountMinor)] := by
  have hstored := storedIn_capture hs hp hc hexec
  have hold' : (s.entries.filter fun e => e.tenantId = hold.tenantId ∧
      (s'.entryTransaction? e).any fun t => t.holdId = some hold.id) =
      s.entries.filter fun e => e.tenantId = hold.tenantId ∧
        (s.entryTransaction? e).any fun t => t.holdId = some hold.id := by
    refine List.filter_congr fun e he => ?_
    obtain ⟨t, ht⟩ := Option.isSome_iff_exists.mp (hs.reserve.intact.history.entries e he).2.1
    have hsame : s'.entryTransaction? e = s.entryTransaction? e := by
      rw [Db.entryTransaction?, Db.transaction?, hstored.transactions,
        lookup_append_of_some ht, Db.entryTransaction?, ht]
    rw [hsame]
  have hdebit : s'.entryTransaction? p.debit = some p.transaction :=
    entryTransaction?_posted hp.toFresh hstored.transactions rfl rfl
  have hcredit : s'.entryTransaction? p.credit = some p.transaction :=
    entryTransaction?_posted hp.toFresh hstored.transactions rfl rfl
  have hnew : ([p.debit, p.credit].filter fun e => e.tenantId = hold.tenantId ∧
      (s'.entryTransaction? e).any fun t => t.holdId = some hold.id) = [p.debit, p.credit] := by
    have hcarries : (some p.transaction).any (fun t => t.holdId = some hold.id) = true :=
      decide_eq_true hc.carries
    refine List.filter_eq_self.mpr (List.forall_mem_cons.mpr ⟨?_, List.forall_mem_singleton.mpr ?_⟩)
    · exact decide_eq_true ⟨hc.tenant.symm, hdebit ▸ hcarries⟩
    · exact decide_eq_true ⟨hc.tenant.symm, hcredit ▸ hcarries⟩
  rw [Db.postedLegs, hstored.entries, List.filter_append, hold', hnew, List.map_append]
  rfl

/-- The hold agrees with its legs exactly if no more is captured than remained. -/
theorem assertGrantHoldConsistent_capture_iff (hheld : hold.state = .held) :
    assertGrantHoldConsistent s' hold.tenantId hold.id = .ok () ↔
      p.amountMinor ≤ hold.remainingAmountMinor := by
  have hfound := tenantHold?_capture hs hp hc hexec
  have hposted := postedLegs_capture hs hp hc hexec
  have htouches : s'.holdTouchesGrants hold.tenantId hold.id = true := by
    obtain ⟨versions, rfl⟩ := sameTables_capture hs hp hc hexec
    exact hc.touches hs hp
  have horiginal : s'.originalLegs hold.tenantId hold.id =
      s.originalLegs hold.tenantId hold.id := by
    obtain ⟨versions, rfl⟩ := sameTables_capture hs hp hc hexec
    rfl
  have hpos := hp.amountPos
  have hagree := hc.agree hs hp
  have hremaining := hagree.held hheld
  have horiginalPos := (hs.invariants.wellFormed.links.holds hold hc.stored).originalPos
  have hdebit : debitTotal (s'.postedLegs hold.tenantId hold.id) =
      debitTotal (s.postedLegs hold.tenantId hold.id) + p.amountMinor := by
    rw [hposted, debitTotal, sumWhere_append]
    simp [debitTotal, sumWhere_cons, hpos, hpos.le]
  rw [assertGrantHoldConsistent_eq_ok_iff htouches]
  constructor
  · rintro ⟨row, hrow, hagree'⟩
    obtain rfl := Option.some.inj (hfound.symm.trans hrow)
    by_contra hmore
    -- more than remains would count as the whole rest
    have happlied := hagree'.applied (by
      rw [capturedHold, if_neg fun hlt => hmore hlt.le])
    rw [capturedHold_original, hdebit] at happlied
    omega
  · intro hle
    refine ⟨_, hfound, ?_⟩
    rw [horiginal]
    refine
      { total := hagree.total.trans capturedHold_original.symm
        balanced := hagree.balanced
        postedBalanced := ?_
        postedLe := ?_
        held := ?_
        applied := ?_
        voided := fun hvoided => absurd hvoided (capturedHold_ne_voided hheld)
        proportional := ?_ }
    · have hbalanced := hagree.postedBalanced
      rw [hposted, netTotal, sumWhere_append]
      rw [netTotal] at hbalanced
      rw [hbalanced]
      simp [sumWhere_cons]
    · rw [hdebit, capturedHold_original]
      omega
    · rw [hdebit, capturedHold_original]
      unfold capturedHold
      split
      · intro _
        change hold.remainingAmountMinor - p.amountMinor = _
        omega
      · intro hstate
        cases hstate
    · rw [hdebit, capturedHold_original]
      unfold capturedHold
      split
      · intro happlied
        change hold.state = _ at happlied
        rw [hheld] at happlied
        cases happlied
      · intro _
        omega
    · intro account side
      have hproportional := hagree.proportional account side
      rw [hdebit, capturedHold_original, mul_add, ← hproportional, hposted, sideTotal,
        sumWhere_append, add_mul]
      congr 1
      change sideTotal [(p.account.id, p.amountMinor), (p.counter.id, - p.amountMinor)] account
        side * hold.originalAmountMinor = _
      rw [sideTotal_pair hpos, hc.sideTotal_original horiginalPos]
      ring

theorem checkPostingHold_capture {e : Entry} (htenant : e.tenantId = p.account.tenantId)
    (htransaction : e.transactionId = p.transactionId) :
    checkPostingHold s' e = assertGrantHoldConsistent s' hold.tenantId hold.id := by
  have hstored := storedIn_capture hs hp hc hexec
  have hcarries : p.transaction.holdId = some hold.id := hc.carries
  have hfound := entryTransaction?_posted hp.toFresh hstored.transactions htenant htransaction
  rw [checkPostingHold, hfound, Option.bind_some, hcarries, htenant, hc.tenant]

/-- The deferred triggers want the shares to make up the amount, and the amount to be within what
remained. -/
theorem deferred_capture_iff (hheld : hold.state = .held) :
    (∀ stmt ∈ (p.capture now hold shares).statements, stmt.deferred now s' = .ok ()) ↔
      shareTotal shares = p.amountMinor ∧ p.amountMinor ≤ hold.remainingAmountMinor := by
  have hstored := storedIn_capture hs hp hc hexec
  have hdebit := assertGrantEntryAttributed_debit_iff hs.toUsable hp hstored
  have hcredit := assertGrantEntryAttributed_credit hs.toUsable hp hstored
  have hconsistent := assertGrantHoldConsistent_capture_iff hs hp hc hexec hheld
  have hposting : checkPostingHold s' p.debit = .ok () ↔
      p.amountMinor ≤ hold.remainingAmountMinor := by
    rw [checkPostingHold_capture hs hp hc hexec rfl rfl, hconsistent]
  have hposting' : checkPostingHold s' p.credit = .ok () ↔
      p.amountMinor ≤ hold.remainingAmountMinor := by
    rw [checkPostingHold_capture hs hp hc hexec rfl rfl, hconsistent]
  have hentries : (Statement.insertEntries [p.debit, p.credit]).deferred now s' = .ok () ↔
      shareTotal shares = p.amountMinor ∧ p.amountMinor ≤ hold.remainingAmountMinor := by
    simp only [Statement.deferred, checkEach_eq_ok_iff, List.forall_mem_cons, bind_eq_ok_iff,
      exists_const, hdebit, hcredit, hposting, hposting', List.not_mem_nil, IsEmpty.forall_iff,
      implies_true, and_true, true_and]
    exact ⟨fun h => h.1, fun h => ⟨h, h.2⟩⟩
  have hlineage : (Statement.insertCreditGrantEntries
      (shares.map (p.lineage .consumption))).deferred now s' = .ok () := by
    refine checkEach_eq_ok_iff.mpr (List.forall_mem_map.mpr fun share _ => ?_)
    rfl
  have hholds : (Statement.updateHolds
      [(hold.id, capturedHold now hold p.amountMinor)]).deferred now s' = .ok () ↔
        p.amountMinor ≤ hold.remainingAmountMinor := by
    rw [← hconsistent, Statement.deferred, checkEach_eq_ok_iff, List.forall_mem_singleton,
      capturedHold_tenantId, capturedHold_id]
  simp only [Posting.capture, List.forall_mem_cons, hentries, hlineage, hholds, List.not_mem_nil,
    IsEmpty.forall_iff, implies_true, and_true, true_and]
  exact ⟨fun h => h.2.1, fun h => ⟨rfl, h, h.2⟩⟩

end Deferred

/-! ## What a capture moves -/

section Outcome

variable {s' : Db} (hs : Committed s) (hp : p.Possible s) (hc : p.Captures s hold)
  (hexec : (p.capture now hold shares).exec s = .ok s')
include hs hp hc hexec

theorem voided_capture (hheld : hold.state = .held) :
    (s'.holds.filter fun h => h.state = .voided) = s.holds.filter fun h => h.state = .voided := by
  obtain ⟨versions, rfl⟩ := sameTables_capture hs hp hc hexec
  have hrow : ∀ h ∈ s.holds, h.id = (capturedHold now hold p.amountMinor).id → h = hold :=
    fun h hh hid => List.inj_on_of_nodup_map hs.reserve.grounded.keys.holds hh hc.stored
      (hid.trans capturedHold_id)
  have hnew : (capturedHold now hold p.amountMinor).state ≠ .voided :=
    capturedHold_ne_voided hheld
  change (s.holds.map fun h => if h.id = (capturedHold now hold p.amountMinor).id then
    capturedHold now hold p.amountMinor else h).filter _ = _
  rw [List.filter_map]
  have hsame : (s.holds.filter ((fun h : Hold => decide (h.state = .voided)) ∘ fun h =>
      if h.id = (capturedHold now hold p.amountMinor).id then
        capturedHold now hold p.amountMinor else h)) =
      s.holds.filter fun h => h.state = .voided := by
    refine List.filter_congr fun h hh => ?_
    by_cases hid : h.id = (capturedHold now hold p.amountMinor).id
    · obtain rfl := hrow h hh hid
      simp [hid, hnew, hheld]
    · simp [hid]
  rw [hsame]
  refine (List.map_congr_left fun h hh => ?_).trans (List.map_id _)
  obtain ⟨hrow', hvoided⟩ := List.mem_filter.mp hh
  refine if_neg fun hid => ?_
  rw [hrow h hrow' hid, hheld] at hvoided
  simp at hvoided

/-- What is free stays: a capture is of the reserve. -/
theorem freeMinor_capture (t g : Uuid) : freeMinor s' t g = freeMinor s t g := by
  obtain ⟨hheld, -⟩ := (exec_capture_iff hs hp hc).mp ⟨s', hexec⟩
  have hstored := storedIn_capture hs hp hc hexec
  have hs' : Usable s' := foldlM_preserves (fun _ _ _ _ hstep hmid => hmid.statement hstep)
    hexec hs.toUsable
  have hallocations : s'.creditGrantHoldAllocations = s.creditGrantHoldAllocations ++ [] := by
    obtain ⟨versions, rfl⟩ := sameTables_capture hs hp hc hexec
    exact (List.append_nil _).symm
  have hadded := latestMinor_added hs.reserve hs'.reserve (txExec_steps hexec)
    (voided_capture hs hp hc hexec hheld) hstored.lineage hallocations t g
  have hdelta : ∀ l ∈ shares.map (p.lineage .consumption),
      (lineageEvent s' l).delta .remaining = - l.amountMinor ∧
        (lineageEvent s' l).delta .reserved = - l.amountMinor := by
    intro l hl
    obtain ⟨share, -, rfl⟩ := List.mem_map.mp hl
    rw [lineageEvent, lineageHoldId_stored hp hstored, hc.carries]
    simp [CapacityEvent.delta, lineageDelta, Posting.lineage]
  have hremaining := hadded .remaining
  rw [sumWhere_congr (fun _ _ => rfl) fun l hl _ => (hdelta l hl).1, sumWhere_nil] at hremaining
  have hreserved := hadded .reserved
  rw [sumWhere_congr (fun _ _ => rfl) fun l hl _ => (hdelta l hl).2, sumWhere_nil] at hreserved
  simp only [Counter.column] at hremaining hreserved
  unfold freeMinor activeCreditGrantReservation
  omega

/-- The shares are taken from what the hold has not captured, and nothing from other holds. -/
theorem uncaptured_capture (h : Hold) (g : Uuid) :
    uncaptured s' g h = uncaptured s g h -
      if h.tenantId = hold.tenantId ∧ h.id = hold.id then shareOf shares g else 0 := by
  have hstored := storedIn_capture hs hp hc hexec
  have hallocations : s'.creditGrantHoldAllocations = s.creditGrantHoldAllocations ++ [] := by
    obtain ⟨versions, rfl⟩ := sameTables_capture hs hp hc hexec
    exact (List.append_nil _).symm
  have hshares : sumWhere (shares.map (p.lineage .consumption)) (fun l =>
      l.tenantId = h.tenantId ∧ l.grantId = g ∧ l.kind = .consumption ∧
        s'.lineageHoldId l = some h.id) (·.amountMinor) =
      if h.tenantId = hold.tenantId ∧ h.id = hold.id then shareOf shares g else 0 := by
    rw [sumWhere_map, shareOf]
    simp only [lineageHoldId_stored hp hstored, hc.carries]
    split_ifs with hsame
    · exact sumWhere_congr (fun share _ => by simp [Posting.lineage, hsame, hc.tenant])
        fun _ _ _ => rfl
    · refine sumWhere_eq_zero fun share _ hcondition => ?_
      obtain ⟨htenant, -, -, hid⟩ := of_decide_eq_true hcondition
      exact absurd ⟨htenant.symm.trans hc.tenant.symm, (Option.some.inj hid).symm⟩ hsame
  rw [uncaptured_added hs.reserve (txExec_steps hexec) hstored.lineage hallocations, hshares,
    sumWhere_nil, zero_sub, sub_eq_add_neg]

theorem leftMinor_capture (id g : Uuid) :
    leftMinor s' id g = leftMinor s id g - if id = hold.id then shareOf shares g else 0 := by
  obtain ⟨hheld, -⟩ := (exec_capture_iff hs hp hc).mp ⟨s', hexec⟩
  have huncaptured := fun h => uncaptured_capture hs hp hc hexec h g
  by_cases hid : id = hold.id
  · subst hid
    have hstate : hold.state ≠ .voided := by simp [hheld]
    have hstate' : (capturedHold now hold p.amountMinor).state ≠ .voided :=
      capturedHold_ne_voided hheld
    have hfound : s'.hold? hold.id = some (capturedHold now hold p.amountMinor) :=
      (Option.filter_eq_some_iff.mp (tenantHold?_capture hs hp hc hexec)).1
    rw [leftMinor_of_mem hs.reserve hc.stored hstate, leftMinor, hfound]
    simp only [hstate', if_false, if_true]
    rw [huncaptured, uncaptured, capturedHold_tenantId, capturedHold_id, if_pos ⟨rfl, rfl⟩]
    rfl
  · rw [if_neg hid, sub_zero]
    have hlookup : s'.hold? id = s.hold? id := by
      have hfound : (p.attributed s .consumption shares).hold?
          (capturedHold now hold p.amountMinor).id = some hold := by
        rw [capturedHold_id]
        exact hold?_of_mem hs.reserve.grounded hc.stored
      have hreplaced := hold?_replaceHold hfound id
      rw [capturedHold_id, if_neg hid] at hreplaced
      obtain ⟨versions, rfl⟩ := sameTables_capture hs hp hc hexec
      exact hreplaced
    refine leftMinor_congr hlookup g fun h hfound => ?_
    rw [huncaptured, if_neg, sub_zero]
    rw [key_of_lookup hfound]
    exact fun hsame => hid hsame.2

theorem purse_capture : purse s' = (purse s).draw hold.id shares := by
  ext t g
  · obtain ⟨versions, rfl⟩ := sameTables_capture hs hp hc hexec
    rfl
  · exact freeMinor_capture hs hp hc hexec t g
  · exact leftMinor_capture hs hp hc hexec t g

end Outcome

/-! ## Captures -/

/-- The hold is HELD with the amount remaining, and shares of different grants that the hold has
left make up the amount. -/
structure Posting.Capturable (p : Posting) (w : Purse) (hold : Hold)
    (shares : List (Uuid × Int)) : Prop where
  held : hold.state = .held
  amountLe : p.amountMinor ≤ hold.remainingAmountMinor
  distinct : UniqueKey Prod.fst shares
  draws : ∀ share ∈ shares, p.Draws w hold share
  total : shareTotal shares = p.amountMinor

theorem commit_capture_iff (hs : Committed s) (hp : p.Possible s) (hc : p.Captures s hold) :
    (∃ s', commit s (p.capture now hold shares) = .ok s') ↔ p.Capturable (purse s) hold shares := by
  constructor
  · rintro ⟨s', hcommit⟩
    obtain ⟨hexec, hdeferred⟩ := commit_eq_ok_iff.mp hcommit
    obtain ⟨hheld, hdistinct, hdraws⟩ := (exec_capture_iff hs hp hc).mp ⟨s', hexec⟩
    obtain ⟨htotal, hle⟩ := (deferred_capture_iff hs hp hc hexec hheld).mp hdeferred
    exact ⟨hheld, hle, hdistinct, hdraws, htotal⟩
  · rintro ⟨hheld, hle, hdistinct, hdraws, htotal⟩
    obtain ⟨s', hexec⟩ := (exec_capture_iff hs hp hc).mpr ⟨hheld, hdistinct, hdraws⟩
    exact ⟨s', commit_eq_ok_iff.mpr
      ⟨hexec, (deferred_capture_iff hs hp hc hexec hheld).mpr ⟨htotal, hle⟩⟩⟩

/-! ## What was reserved can be captured -/

theorem sideTotal_le_debitTotal (legs : List Leg) (account : Uuid) :
    sideTotal legs account 1 ≤ debitTotal legs := by
  refine sumWhere_le_sumWhere (fun leg _ hside => ?_) (fun leg _ hside => ?_) fun leg _ hdebit => ?_
  · exact decide_eq_true (sign_eq_one_iff.mp (of_decide_eq_true hside).2)
  · exact (abs_of_pos (sign_eq_one_iff.mp (of_decide_eq_true hside).2)).le
  · exact (of_decide_eq_true hdebit).le

/-- What remains of a HELD hold, it has left of the grants of its account: all of it was
allocated, and no more consumed than posted. -/
theorem remaining_le_uncaptured (hs : Committed s) (hfull : TenantAttributed s) (hp : p.Possible s)
    (hc : p.Captures s hold) (hheld : hold.state = .held) :
    hold.remainingAmountMinor ≤ sumWhere s.creditGrants
      (fun g => g.tenantId = p.account.tenantId ∧ g.accountId = p.account.id)
      (fun g => uncaptured s g.id hold) := by
  have hwell := hs.invariants.wellFormed
  have henabled : s.grantEnabled hold.tenantId p.account.id = true := by
    rw [hc.tenant]
    refine (Option.any_eq_true _ _).mpr ⟨p.account, hs.account? hp.account, ?_⟩
    exact decide_eq_true ⟨rfl, hp.enabled⟩
  have hpos := (hwell.links.holds hold hc.stored).originalPos
  have hallocated : accountAllocated s hold.tenantId p.account.id hold.id =
      hold.originalAmountMinor := by
    rw [accountAllocated_eq hwell hs.invariants.exact henabled, hc.sideTotal_original hpos]
    simp
  have hattributed : sumWhere s.creditGrantEntries
      (fun l => (s.lineageEntry? l).any (holdDebit s hold.tenantId p.account.id hold.id))
      (·.amountMinor) = sideTotal (s.postedLegs hold.tenantId hold.id) p.account.id 1 := by
    rw [attributed_holdDebit hwell, sideTotal_posted]
    refine sumWhere_congr (fun _ _ => rfl) fun e he hdebit => ?_
    exact hfull e he (holdDebit_enabled henabled e he hdebit)
  have hcaptured : accountCaptured s hold.tenantId p.account.id hold.id ≤
      sideTotal (s.postedLegs hold.tenantId hold.id) p.account.id 1 := by
    rw [← hattributed, accountCaptured_rows hwell]
    refine sumWhere_le_sumWhere (fun l hl hcondition => ?_) (fun _ _ _ => le_refl _)
      fun l hl _ => (amountMinor_pos hwell.links.history hl).le
    obtain ⟨htenant, haccount, hkind, hhold⟩ := of_decide_eq_true hcondition
    exact (lineage_of_holdDebit hwell hl).mpr ⟨⟨htenant, haccount, hhold⟩, Or.inl hkind⟩
  have hposted := sideTotal_le_debitTotal (s.postedLegs hold.tenantId hold.id) p.account.id
  have hremaining := (hc.agree hs hp).held hheld
  have hsum : sumWhere s.creditGrants
      (fun g => g.tenantId = p.account.tenantId ∧ g.accountId = p.account.id)
      (fun g => uncaptured s g.id hold) =
      accountAllocated s hold.tenantId p.account.id hold.id -
        accountCaptured s hold.tenantId p.account.id hold.id := by
    rw [accountAllocated, accountCaptured, ← sumWhere_sub, ← hc.tenant]
    rfl
  rw [hsum]
  omega

/-- In every committed state a capture is accepted exactly if the hold is HELD with the amount
remaining and has left the shares that make it up, and it draws them from what the hold has
left. -/
theorem capture_accepted_iff {log : List DbTransaction} (h : replay log = .ok s)
    (hp : p.Possible s) (hc : p.Captures s hold) :
    ((∃ s', commit s (p.capture now hold shares) = .ok s') ↔ p.Capturable (purse s) hold shares) ∧
      ∀ s', commit s (p.capture now hold shares) = .ok s' →
        purse s' = (purse s).draw hold.id shares := by
  have hs : Committed s := replay_committed h
  refine ⟨commit_capture_iff hs hp hc, fun s' hcommit => ?_⟩
  exact purse_capture hs hp hc (commit_eq_ok_iff.mp hcommit).1

/-- As long as no entry is attributed after its own database transaction, what remains of a HELD
hold can be captured, in one or in many parts and at any time. -/
theorem hold_capturable_iff {log : List DbTransaction} (h : replay log = .ok s)
    (hown : ∀ tx ∈ log, AttributesOwnEntries tx) (hp : p.Possible s) (hc : p.Captures s hold) :
    (∃ shares s', commit s (p.capture now hold shares) = .ok s') ↔
      hold.state = .held ∧ p.amountMinor ≤ hold.remainingAmountMinor := by
  have hs : Committed s := replay_committed h
  constructor
  · rintro ⟨shares, hcommit⟩
    have hcapturable := (commit_capture_iff hs hp hc).mp hcommit
    exact ⟨hcapturable.held, hcapturable.amountLe⟩
  · rintro ⟨hheld, hle⟩
    have hleft := remaining_le_uncaptured hs (replay_tenantAttributed h hown) hp hc hheld
    obtain ⟨shares, hdistinct, hdraws, htotal⟩ := exists_shares
      hs.reserve.grounded.keys.creditGrants
      (fun g _ _ => uncaptured_nonneg hs.invariants g.id) hp.amountPos.le (hle.trans hleft)
    refine ⟨shares, (commit_capture_iff hs hp hc).mpr ⟨hheld, hle, hdistinct, ?_, htotal⟩⟩
    intro share hshare
    obtain ⟨hpos, g, hg, hscope, hid, hwithin⟩ := hdraws share hshare
    obtain ⟨htenant, haccount⟩ := of_decide_eq_true hscope
    have hpart : share.2 ≤ shareTotal shares :=
      le_shareTotal (fun share' hshare' => (hdraws share' hshare').1.le) hshare
    have hstate : hold.state ≠ .voided := by simp [hheld]
    refine ⟨hpos, hpart.trans_eq htotal, g, hg, hid, htenant, haccount, ?_⟩
    rw [← hid]
    exact hwithin.trans_eq (leftMinor_of_mem hs.reserve hc.stored hstate g.id).symm

end Capture

namespace Sample

/-- Transaction 160 posts a part of hold 400. -/
def captureOf (amountMinor : Int) : Posting :=
  ⟨160, 260, 261, prepaid, funding, amountMinor, 70, some 400⟩

theorem captureOf_possible {amountMinor : Int} (hpos : 0 < amountMinor) :
    (captureOf amountMinor).Possible (stateAfter (log.take 3)) :=
  { account := (by decide +kernel : prepaid ∈ (stateAfter (log.take 3)).accounts)
    counter := (by decide +kernel : funding ∈ (stateAfter (log.take 3)).accounts)
    enabled := rfl
    other := rfl
    amountPos := hpos
    transactionNew := (by decide +kernel : ∀ t ∈ (stateAfter (log.take 3)).transactions, t.id ≠ 160)
    debitNew := (by decide +kernel : ∀ e ∈ (stateAfter (log.take 3)).entries, e.id ≠ 260)
    creditNew := (by decide +kernel : ∀ e ∈ (stateAfter (log.take 3)).entries, e.id ≠ 261)
    distinct := (by decide : (260 : Uuid) ≠ 261)
    hold := (by decide +kernel :
      ∀ id ∈ some 400, ((stateAfter (log.take 3)).hold? id).isSome = true) }

theorem captureOf_captures (amountMinor : Int) :
    (captureOf amountMinor).Captures (stateAfter (log.take 3)) hold :=
  { stored := by decide +kernel
    tenant := rfl
    carries := rfl
    legs := .of_eq (by decide +kernel :
      (stateAfter (log.take 3)).originalLegs 1 400 = [(10, 60), (11, -60)]) }

end Sample

/-- The grant expires at 50, and 60 of it can still be captured at 70. -/
theorem hold_capturable_sample :
    (∃ shares s', commit (Sample.stateAfter (Sample.log.take 3))
      ((Sample.captureOf 60).capture 70 Sample.hold shares) = .ok s') ∧
    ¬ ∃ shares s', commit (Sample.stateAfter (Sample.log.take 3))
      ((Sample.captureOf 61).capture 70 Sample.hold shares) = .ok s' := by
  have hown : ∀ tx ∈ Sample.log.take 3, AttributesOwnEntries tx := by decide
  have hlog : replay (Sample.log.take 3) = .ok (Sample.stateAfter (Sample.log.take 3)) :=
    Sample.replay_stateAfter (by rfl)
  refine ⟨(hold_capturable_iff hlog hown (Sample.captureOf_possible (by decide))
    (Sample.captureOf_captures 60)).mpr ⟨rfl, le_refl 60⟩, fun hcapture => ?_⟩
  have hle := ((hold_capturable_iff hlog hown (Sample.captureOf_possible (by decide))
    (Sample.captureOf_captures 61)).mp hcapture).2
  exact absurd hle (by decide)

theorem capture_accepted_sample :
    ∃ s', commit (Sample.stateAfter (Sample.log.take 3))
      ((Sample.captureOf 60).capture 70 Sample.hold [(300, 60)]) = .ok s' := by
  refine (capture_accepted_iff (Sample.replay_stateAfter (by rfl))
    (Sample.captureOf_possible (by decide)) (Sample.captureOf_captures 60)).1.mpr ?_
  refine ⟨rfl, le_refl 60, by decide, ?_, rfl⟩
  unfold Posting.Draws
  decide +kernel

end LuxLedger.Credit
