/-
  Credit/LiveReserve.lean --- whose reserve the reserved capacity of a grant is.

  A void releases what is left of a hold; an APPLIED hold is left alone, in the
  belief that its postings have consumed all of its allocations.  They have when its
  debits on grant-enabled accounts are attributed as CONSUMPTION, because then the
  postings, the hold entries and the allocations have one total on every account.
-/
import LuxLedger.Credit.Attribution
import LuxLedger.Credit.HoldAccounting

set_option autoImplicit false

namespace LuxLedger.Credit

open LuxLedger.Schema LuxLedger.Relational

/-! ## Captured within allocated, hold by hold -/

/-- No hold has captured more of a grant than it was allocated. -/
def CapturedWithin (s : Db) : Prop :=
  ∀ t g h, s.holdConsumed t g h ≤ s.holdAllocated t g h

/-- Allocations to a HELD hold are allocations to the hold. -/
theorem heldAllocation_le {s : Db} (hs : HistoryLinks s) (t g h : Uuid) :
    heldAllocation s t g h ≤ s.holdAllocated t g h := by
  refine sumWhere_le_sumWhere (fun a _ hcondition => ?_) (fun _ _ _ => le_refl _)
    fun _ ha _ => (allocation_amountMinor_pos hs ha).le
  obtain ⟨htenant, hgrant, hheld⟩ := of_decide_eq_true hcondition
  obtain ⟨hold, hfound, hid⟩ := (Option.any_eq_true _ _).mp hheld
  obtain ⟨he, hentry, hhold⟩ := Option.bind_eq_some_iff.mp hfound
  simp only [Db.holdEntryHold?, Option.filter_eq_some_iff] at hhold
  have hholdId : he.holdId = h := (key_of_lookup hhold.1).symm.trans (of_decide_eq_true hid).1
  rw [decide_eq_true_eq, Db.allocationHoldId, hentry, Option.map_some, hholdId]
  exact ⟨htenant, hgrant, rfl⟩

theorem RowStep.capturedWithin {now : Timestamp} {s s' : Db} (h : RowStep now s s')
    (hs : Grounded s) (hwithin : CapturedWithin s) : CapturedWithin s' := by
  have hext : Extends s s' := h.extends
  have hframe : s'.creditGrantEntries = s.creditGrantEntries →
      s'.creditGrantHoldAllocations = s.creditGrantHoldAllocations → CapturedWithin s' := by
    intro hrows hallocations t g hold
    rw [holdConsumed_extends hs.links hext (hrows.trans (List.append_nil _).symm),
      holdAllocated_extends hs.links hext (hallocations.trans (List.append_nil _).symm)]
    exact add_le_add (hwithin t g hold) (le_refl _)
  cases h with
  | @creditGrantEntry new check =>
      obtain ⟨linked, hnew⟩ := checkCreditGrantEntry_ok check
      have hrows := hext.linked hnew.linkedRows
      intro t g hold
      rw [holdConsumed_extends hs.links hext rfl,
        holdAllocated_extends hs.links hext (List.append_nil _).symm, sumWhere_singleton,
        sumWhere_nil]
      have hle := hwithin t g hold
      by_cases hcaptures : new.tenantId = t ∧ new.grantId = g ∧ new.kind = .consumption ∧
          linked.transaction.holdId = some hold
      · -- the validator compared with the allocations at this very moment
        obtain ⟨rfl, rfl, hkind, hholdId⟩ := hcaptures
        have haccepted := hnew.kind
        simp only [AcceptedKind, hkind, hholdId] at haccepted
        have hbound := heldAllocation_le hs.links new.tenantId new.grantId hold
        rw [if_pos (by simp [hkind, hrows.lineageHoldId, hholdId])]
        omega
      · rw [if_neg (by simpa [hrows.lineageHoldId] using hcaptures)]
        omega
  | @allocation new check =>
      obtain ⟨grant, he, hold', hnew⟩ := checkCreditGrantHoldAllocation_ok check
      intro t g hold
      rw [holdConsumed_extends hs.links hext (List.append_nil _).symm,
        holdAllocated_extends hs.links hext rfl, sumWhere_singleton, sumWhere_nil]
      have hle := hwithin t g hold
      have hpos := hnew.amountPos
      split <;> omega
  | asset _ | account _ | transaction _ | entry _ | creditGrant _ | hold _ | holdEntry _
  | capacityVersion _ | holdChange _ _ _ =>
      exact hframe rfl rfl

/-! ## The reserve, hold by hold -/

/-- What a hold has been allocated of a grant and has not captured. -/
def uncaptured (s : Db) (grantId : Uuid) (h : Hold) : Int :=
  s.holdAllocated h.tenantId grantId h.id - s.holdConsumed h.tenantId grantId h.id

theorem sumWhere_by_state (holds : List Hold) (t : Uuid) (value : Hold → Int) :
    sumWhere holds (fun h => h.tenantId = t) value =
      sumWhere holds (fun h => h.tenantId = t ∧ h.state = .held) value +
        sumWhere holds (fun h => h.tenantId = t ∧ h.state = .applied) value +
          sumWhere holds (fun h => h.tenantId = t ∧ h.state = .voided) value := by
  induction holds with
  | nil => rfl
  | cons h rest ih =>
      simp only [sumWhere_cons, ih]
      cases hstate : h.state <;> by_cases htenant : h.tenantId = t <;> simp [htenant] <;> omega

section Holds

variable {s : Db} (hs : Grounded s) (hwithin : CapturedWithin s)
include hs

/-- Allocations of a grant, hold by hold. -/
theorem allocatedTotal_by_hold (t g : Uuid) :
    allocatedTotal s t g =
      sumWhere s.holds (fun h => h.tenantId = t) (fun h => s.holdAllocated t g h.id) := by
  rw [allocatedTotal, ← sumWhere_groups s.allocationHoldId (fun h : Hold => some h.id)
    (fun h => h.tenantId = t) hs.keys.holds.some]
  · refine sumWhere_congr (fun _ _ => rfl) fun h _ _ => ?_
    refine sumWhere_congr (fun a _ => ?_) fun _ _ _ => rfl
    rw [← Bool.decide_and]
    exact decide_eq_decide.mpr and_assoc
  · intro a ha hcondition
    obtain ⟨g', he, hlink⟩ := hs.links.allocations a ha
    obtain ⟨h, hfound, htenant⟩ := hlink.hold
    obtain ⟨-, -, hentry⟩ := hlink.stored
    refine ⟨h, mem_of_lookup hfound, ?_, ?_⟩
    · rw [decide_eq_true_eq, htenant, hentry]
      exact (of_decide_eq_true hcondition).1
    · rw [hlink.allocationHoldId]
      exact congrArg some (key_of_lookup hfound)

include hwithin

/-- Captures of a grant, hold by hold: a capture is of an allocation, and that of a
hold of the tenant. -/
theorem capturedTotal_by_hold (t g : Uuid) :
    capturedTotal s t g =
      sumWhere s.holds (fun h => h.tenantId = t) (fun h => s.holdConsumed t g h.id) := by
  rw [capturedTotal, ← sumWhere_groups s.lineageHoldId (fun h : Hold => some h.id)
    (fun h => h.tenantId = t) hs.keys.holds.some]
  · refine sumWhere_congr (fun _ _ => rfl) fun h _ _ => ?_
    refine sumWhere_congr (fun l _ => ?_) fun _ _ _ => rfl
    rw [← Bool.decide_and]
    refine decide_eq_decide.mpr ⟨fun h => ⟨h.1.1, h.1.2.1, h.1.2.2.1, h.2⟩, ?_⟩
    rintro ⟨htenant, hgrant, hkind, hhold⟩
    exact ⟨⟨htenant, hgrant, hkind, by simp [hhold]⟩, hhold⟩
  · intro l hl hcondition
    obtain ⟨htenant, hgrant, hkind, hhold⟩ := of_decide_eq_true hcondition
    obtain ⟨holdId, hholdId⟩ := Option.isSome_iff_exists.mp hhold
    have hpos := amountMinor_pos hs.links hl
    have hcaptured : l.amountMinor ≤ s.holdConsumed t g holdId :=
      le_sumWhere hl (by simp [htenant, hgrant, hkind, hholdId])
        fun l' hl' _ => (amountMinor_pos hs.links hl').le
    have hle := hwithin t g holdId
    have hallocated : 0 < s.holdAllocated t g holdId := by omega
    obtain ⟨a, ha, hscope⟩ := exists_of_sumWhere_pos hallocated
    obtain ⟨hatenant, -, hahold⟩ := of_decide_eq_true hscope
    obtain ⟨g', he, hlink⟩ := hs.links.allocations a ha
    obtain ⟨h, hfound, hhtenant⟩ := hlink.hold
    obtain ⟨-, -, hentry⟩ := hlink.stored
    rw [hlink.allocationHoldId, Option.some.injEq] at hahold
    refine ⟨h, mem_of_lookup hfound, ?_, ?_⟩
    · rw [decide_eq_true_eq, hhtenant, hentry, hatenant]
    · rw [hholdId, ← hahold]
      exact congrArg some (key_of_lookup hfound)

omit hs in
theorem releasedTotal_by_hold (t g : Uuid) :
    releasedTotal s t g =
      sumWhere s.holds (fun h => h.tenantId = t ∧ h.state = .voided) (uncaptured s g) := by
  have hreleases : releasedTotal s t g = sumWhere s.holds
      (fun h => h.tenantId = t ∧ h.state = .voided)
      (fun h =>
        if s.holdConsumed t g h.id < s.holdAllocated t g h.id then uncaptured s g h else 0) := by
    unfold releasedTotal releases
    rw [sumWhere_ite, sumWhere, List.filter_filter]
    have hfilter : (s.holds.filter fun h => (decide (h.tenantId = t ∧
        s.holdConsumed t g h.id < s.holdAllocated t g h.id) && decide (h.state = .voided))) =
        s.holds.filter fun h => (decide (h.tenantId = t ∧ h.state = .voided) &&
          decide (s.holdConsumed t g h.id < s.holdAllocated t g h.id)) := by
      refine List.filter_congr fun h _ => ?_
      rw [← Bool.decide_and, ← Bool.decide_and]
      exact decide_eq_decide.mpr (by tauto)
    rw [hfilter]
    congr 1
    refine List.map_congr_left fun h hh => ?_
    have htenant := (of_decide_eq_true (Bool.and_eq_true_iff.mp (List.mem_filter.mp hh).2).1).1
    rw [uncaptured, htenant]
  rw [hreleases]
  refine sumWhere_congr (fun _ _ => rfl) fun h _ hscope => ?_
  have htenant := (of_decide_eq_true hscope).1
  have hle := hwithin t g h.id
  rw [uncaptured, htenant]
  split <;> omega

/-- The reserve of a grant is what holds that were not voided have left uncaptured. -/
theorem reserved_by_hold (htracks : Tracks s (capacityEvents s)) (t g : Uuid) :
    s.latestMinor t g (·.reservedMinor) =
      sumWhere s.holds (fun h => h.tenantId = t ∧ h.state = .held) (uncaptured s g) +
        sumWhere s.holds (fun h => h.tenantId = t ∧ h.state = .applied) (uncaptured s g) := by
  have hreserved : s.latestMinor t g (·.reservedMinor) =
      balance (capacityEvents s t g) .reserved := htracks.latestMinor t g .reserved
  rw [hreserved, balance_reserved, allocatedTotal_by_hold hs, capturedTotal_by_hold hs hwithin,
    releasedTotal_by_hold hwithin, ← sumWhere_sub]
  have hall : sumWhere s.holds (fun h => h.tenantId = t)
      (fun h => s.holdAllocated t g h.id - s.holdConsumed t g h.id) =
      sumWhere s.holds (fun h => h.tenantId = t) (uncaptured s g) := by
    refine sumWhere_congr (fun _ _ => rfl) fun h _ htenant => ?_
    rw [uncaptured, of_decide_eq_true htenant]
  rw [hall, sumWhere_by_state]
  omega

end Holds

/-! ## Allocations cover hold entries -/

/-- The allocations of a hold entry on a grant-enabled account are for its whole amount. -/
def AllocatedExactly (s : Db) : Prop :=
  ∀ he ∈ s.holdEntries, s.grantEnabled he.tenantId he.accountId = true →
    0 < he.signedAmountMinor ∧ sumWhere s.creditGrantHoldAllocations
      (fun a => a.tenantId = he.tenantId ∧ a.holdEntryId = he.id) (·.amountMinor) =
        he.signedAmountMinor

theorem assertGrantHoldAllocated_ok {s : Db} {he : HoldEntry}
    (h : assertGrantHoldAllocated s he = .ok ())
    (henabled : s.grantEnabled he.tenantId he.accountId = true) :
    0 < he.signedAmountMinor ∧ sumWhere s.creditGrantHoldAllocations
      (fun a => a.tenantId = he.tenantId ∧ a.holdEntryId = he.id) (·.amountMinor) =
        he.signedAmountMinor := by
  simp only [assertGrantHoldAllocated, henabled, if_true, bind_eq_ok_iff, raiseIf_eq_ok_iff,
    exists_const, ne_eq, Truth.of_eq_true_iff, not_le, not_not] at h
  exact h

/-- The recheck when allocations are appended. -/
theorem assertGrantAllocationTotal_ok {s : Db} {a : CreditGrantHoldAllocation} {he : HoldEntry}
    (h : assertGrantAllocationTotal s a = .ok ()) (ha : a ∈ s.creditGrantHoldAllocations)
    (hentry : s.allocationHoldEntry? a = some he) :
    sumWhere s.creditGrantHoldAllocations
      (fun a' => a'.tenantId = a.tenantId ∧ a'.holdEntryId = a.holdEntryId) (·.amountMinor) =
        he.signedAmountMinor := by
  have hmem : a ∈ s.creditGrantHoldAllocations.filter fun a' =>
      a'.tenantId = a.tenantId ∧ a'.holdEntryId = a.holdEntryId :=
    List.mem_filter.mpr ⟨ha, by simp⟩
  have hnonempty : (s.creditGrantHoldAllocations.filter fun a' =>
      a'.tenantId = a.tenantId ∧ a'.holdEntryId = a.holdEntryId).isEmpty = false := by
    rw [Bool.eq_false_iff, ne_eq, List.isEmpty_iff]
    exact List.ne_nil_of_mem hmem
  simp only [assertGrantAllocationTotal, raiseIf_eq_ok_iff, ne_eq, Truth.of_eq_true_iff, not_not,
    hnonempty, hentry, Option.map_some, Bool.false_eq_true, if_false, Option.some.injEq] at h
  exact h

/-- A recheck for one allocation of a hold entry checks all of them. -/
theorem recheckedTotal {s : Db} (hkeys : UniqueKey HoldEntry.id s.holdEntries) {he : HoldEntry}
    (hhe : he ∈ s.holdEntries) {a : CreditGrantHoldAllocation}
    (ha : a ∈ s.creditGrantHoldAllocations) (htenant : a.tenantId = he.tenantId)
    (hid : a.holdEntryId = he.id) (h : assertGrantAllocationTotal s a = .ok ()) :
    sumWhere s.creditGrantHoldAllocations
      (fun a => a.tenantId = he.tenantId ∧ a.holdEntryId = he.id) (·.amountMinor) =
        he.signedAmountMinor := by
  have hlookup : s.holdEntry? a.holdEntryId = some he := by
    rw [hid]
    exact lookup_key hkeys hhe
  have hentry : s.allocationHoldEntry? a = some he := by
    rw [Db.allocationHoldEntry?, hlookup, Option.filter_some,
      if_pos (decide_eq_true htenant.symm)]
  rw [← htenant, ← hid]
  exact assertGrantAllocationTotal_ok h ha hentry

theorem allocatedExactly_commit {s s' : Db} {tx : DbTransaction} (hs : WellFormed s)
    (hexact : AllocatedExactly s) (h : commit s tx = .ok s') : AllocatedExactly s' := by
  have hs' := RowSteps.wellFormed (commit_steps h) hs
  intro he hhe henabled
  have hrows := commit_allocations h
  rw [commit_holdEntries h] at hhe
  rcases List.mem_append.mp hhe with hold | hnew
  · rw [(RowSteps.extends (commit_steps h)).grantEnabled (hs.links.holdEntries he hold).2]
      at henabled
    obtain ⟨hdebit, htotal⟩ := hexact he hold henabled
    refine ⟨hdebit, ?_⟩
    by_cases hmore : ∃ a ∈ tx.newAllocations, a.tenantId = he.tenantId ∧ a.holdEntryId = he.id
    · obtain ⟨a, ha, htenant, hid⟩ := hmore
      have hmem : a ∈ s'.creditGrantHoldAllocations := hrows ▸ List.mem_append_right _ ha
      have hkept : he ∈ s'.holdEntries := commit_holdEntries h ▸ List.mem_append_left _ hold
      exact recheckedTotal hs'.keys.holdEntries hkept hmem htenant hid (deferred_allocation h ha)
    · have hnone : sumWhere tx.newAllocations
          (fun a => a.tenantId = he.tenantId ∧ a.holdEntryId = he.id) (·.amountMinor) = 0 :=
        sumWhere_eq_zero fun a ha hcondition => absurd ⟨a, ha, of_decide_eq_true hcondition⟩ hmore
      rw [hrows, sumWhere_append, hnone, add_zero]
      exact htotal
  · exact assertGrantHoldAllocated_ok (deferred_holdEntry h hnew).1 henabled

/-! ## One account of a hold -/

/-- Allocations of the grants of an account to a hold. -/
def accountAllocated (s : Db) (t a holdId : Uuid) : Int :=
  sumWhere s.creditGrants (fun g => g.tenantId = t ∧ g.accountId = a)
    (fun g => s.holdAllocated t g.id holdId)

/-- CONSUMPTION of the grants of an account by the transactions that carry a hold. -/
def accountCaptured (s : Db) (t a holdId : Uuid) : Int :=
  sumWhere s.creditGrants (fun g => g.tenantId = t ∧ g.accountId = a)
    (fun g => s.holdConsumed t g.id holdId)

/-- A debit on an account by a transaction that carries a hold. -/
def holdDebit (s : Db) (t a holdId : Uuid) (e : Entry) : Bool :=
  decide (e.tenantId = t ∧ e.accountId = a ∧ 0 < e.signedAmountMinor) &&
    (s.entryTransaction? e).any fun t => t.holdId = some holdId

section Account

variable {s : Db} (hs : WellFormed s) {t a holdId : Uuid}
include hs

theorem accountAllocated_rows :
    accountAllocated s t a holdId = sumWhere s.creditGrantHoldAllocations
      (fun x => x.tenantId = t ∧ x.accountId = a ∧ s.allocationHoldId x = some holdId)
      (·.amountMinor) := by
  rw [accountAllocated, ← sumWhere_groups CreditGrantHoldAllocation.grantId CreditGrant.id
    (fun g => g.tenantId = t ∧ g.accountId = a) hs.keys.creditGrants]
  · refine sumWhere_congr (fun _ _ => rfl) fun g hg hscope => ?_
    refine sumWhere_congr (fun x hx => ?_) fun _ _ _ => rfl
    obtain ⟨g', he, hlink⟩ := hs.links.allocations x hx
    rw [← Bool.decide_and]
    refine decide_eq_decide.mpr ⟨?_, fun h => ⟨h.1.1, h.2, h.1.2.2⟩⟩
    rintro ⟨htenant, hgrant, hhold⟩
    have hfound : s.creditGrant? g.id = some g := lookup_key hs.keys.creditGrants hg
    have hsame : g' = g := Option.some.inj ((hgrant ▸ hlink.grant).symm.trans hfound)
    have haccount := hlink.grantAccount
    rw [hsame, (of_decide_eq_true hscope).2] at haccount
    exact ⟨⟨htenant, haccount.symm, hhold⟩, hgrant⟩
  · intro x hx hcondition
    obtain ⟨g', he, hlink⟩ := hs.links.allocations x hx
    obtain ⟨htenant, haccount, -⟩ := of_decide_eq_true hcondition
    refine ⟨g', mem_of_lookup hlink.grant, ?_, key_of_lookup hlink.grant⟩
    simp [hlink.grantTenant, hlink.grantAccount, htenant, haccount]

/-- The allocations of an account sum to the hold's debits on it. -/
theorem accountAllocated_eq (hexact : AllocatedExactly s) (henabled : s.grantEnabled t a = true) :
    accountAllocated s t a holdId = sideTotal (s.originalLegs t holdId) a 1 := by
  rw [accountAllocated_rows hs, sideTotal, Db.originalLegs, sumWhere_map, sumWhere_filter,
    ← sumWhere_groups CreditGrantHoldAllocation.holdEntryId HoldEntry.id
      (fun he => decide (he.accountId = a ∧ SignType.sign he.signedAmountMinor = 1) &&
        decide (he.tenantId = t ∧ he.holdId = holdId)) hs.keys.holdEntries]
  · refine sumWhere_congr (fun _ _ => rfl) fun he hhe hscope => ?_
    obtain ⟨hleg, hof⟩ := Bool.and_eq_true_iff.mp hscope
    have haccount : he.accountId = a := (of_decide_eq_true hleg).1
    obtain ⟨htenant, hhold⟩ := of_decide_eq_true hof
    obtain ⟨hdebit, htotal⟩ := hexact he hhe (by rw [htenant, haccount]; exact henabled)
    rw [abs_of_pos hdebit, ← htotal]
    refine sumWhere_congr (fun x hx => ?_) fun _ _ _ => rfl
    rw [← Bool.decide_and]
    refine decide_eq_decide.mpr ⟨fun h => ⟨h.1.1.trans htenant.symm, h.2⟩, ?_⟩
    rintro ⟨hxtenant, hid⟩
    obtain ⟨g', he', hlink⟩ := hs.links.allocations x hx
    have hsame : he' = he := hlink.unique hs.keys.holdEntries hhe hid
    refine ⟨⟨hxtenant.trans htenant, ?_, ?_⟩, hid⟩
    · rw [← hlink.holdEntryAccount, hsame, haccount]
    · rw [hlink.allocationHoldId, hsame, hhold]
  · intro x hx hcondition
    obtain ⟨g', he, hlink⟩ := hs.links.allocations x hx
    obtain ⟨htenant, haccount, hhold⟩ := of_decide_eq_true hcondition
    obtain ⟨hmem, hid, hentry⟩ := hlink.stored
    rw [hlink.allocationHoldId, Option.some.injEq] at hhold
    refine ⟨he, hmem, ?_, hid⟩
    simp [hlink.holdEntryAccount, haccount, hentry, htenant, hhold, sign_pos hlink.debit]

omit hs in
theorem sideTotal_posted :
    sideTotal (s.postedLegs t holdId) a 1 =
      sumWhere s.entries (holdDebit s t a holdId) (fun e => |e.signedAmountMinor|) := by
  rw [sideTotal, Db.postedLegs, sumWhere_map, sumWhere_filter]
  refine sumWhere_congr (fun e _ => ?_) fun _ _ _ => rfl
  rw [Bool.eq_iff_iff]
  simp only [holdDebit, Bool.and_eq_true, decide_eq_true_eq, sign_eq_one_iff]
  tauto

theorem accountCaptured_rows :
    accountCaptured s t a holdId = sumWhere s.creditGrantEntries (fun l => l.tenantId = t ∧
      l.accountId = a ∧ (l.kind = .consumption ∧ s.lineageHoldId l = some holdId))
      (·.amountMinor) :=
  (lineage_by_grant hs t a _).symm

/-- The lineage of the hold's debits on an account is CONSUMPTION, REVERSAL and
EXPIRATION of its grants. -/
theorem lineage_of_holdDebit {l : CreditGrantEntry} (hl : l ∈ s.creditGrantEntries) :
    (s.lineageEntry? l).any (holdDebit s t a holdId) = true ↔
      (l.tenantId = t ∧ l.accountId = a ∧ s.lineageHoldId l = some holdId) ∧
        (l.kind = .consumption ∨ l.kind = .reversal ∨ l.kind = .expiration) := by
  obtain ⟨linked, hlink⟩ := hs.links.lineage l hl
  have htransaction : s.entryTransaction? linked.entry = some linked.transaction := by
    have hfound := hlink.rows.lineageTransaction
    rw [Db.lineageTransaction?, hlink.rows.lineageEntry, Option.bind_some] at hfound
    exact hfound
  have hkind := hlink.kind
  unfold KindLink at hkind
  rw [hlink.rows.lineageEntry, Option.any_some, hlink.rows.lineageHoldId]
  simp only [holdDebit, htransaction, Option.any_some, hlink.rows.entryTenant,
    hlink.rows.entryAccount, Bool.and_eq_true, decide_eq_true_eq]
  cases hk : l.kind with
  | issuance | compensation =>
      simp only [hk] at hkind
      have hcredit := hkind.1
      simp only [reduceCtorEq, or_self, and_false, iff_false]
      omega
  | reversal | expiration =>
      simp only [hk] at hkind
      have hdebit := hkind.1
      simp only [reduceCtorEq, or_true, true_or, and_true]
      tauto
  | consumption =>
      simp only [hk] at hkind
      simp only [true_or, and_true]
      tauto
  | refund =>
      simp only [hk] at hkind
      have hnone := hkind.2.2.1
      simp [hnone]

/-- What is attributed to the hold's debits on an account. -/
theorem attributed_holdDebit :
    sumWhere s.creditGrantEntries (fun l => (s.lineageEntry? l).any (holdDebit s t a holdId))
        (·.amountMinor) = sumWhere s.entries (holdDebit s t a holdId) s.attributedAmount :=
  lineage_by_entry hs _

omit hs in
theorem holdDebit_enabled (henabled : s.grantEnabled t a = true) :
    ∀ e ∈ s.entries, holdDebit s t a holdId e = true →
      s.grantEnabled e.tenantId e.accountId = true := by
  intro e _ hdebit
  obtain ⟨htenant, haccount, -⟩ := of_decide_eq_true (Bool.and_eq_true_iff.mp hdebit).1
  rw [htenant, haccount]
  exact henabled

end Account

/-! ## Settled holds -/

/-- The hold retains no reserve on any grant. -/
def Settled (s : Db) (h : Hold) : Prop := ∀ g, uncaptured s g h = 0

/-- Every debit of the hold's transactions that is attributed is attributed as
CONSUMPTION. -/
def SettledByConsumption (s : Db) (h : Hold) : Prop :=
  ∀ l ∈ s.creditGrantEntries, l.tenantId = h.tenantId → s.lineageHoldId l = some h.id →
    l.kind ≠ .reversal ∧ l.kind ≠ .expiration

/-- What holds of every committed state. -/
structure HoldInvariants (s : Db) : Prop where
  wellFormed : WellFormed s
  consistent : HoldsConsistent s
  covered : Covered s
  within : CapturedWithin s
  exact : AllocatedExactly s

section Settled

variable {s : Db} (hs : HoldInvariants s) {h : Hold} (hmem : h ∈ s.holds)
include hs hmem

theorem legsAccount_of_touches (htouches : s.holdTouchesGrants h.tenantId h.id = true) :
    LegsAccount h (s.originalLegs h.tenantId h.id) (s.postedLegs h.tenantId h.id) := by
  obtain ⟨he, hhe, hcondition⟩ := List.any_eq_true.mp htouches
  obtain ⟨-, hid, henabled⟩ := of_decide_eq_true hcondition
  exact legsAccount_of_consistent hs.wellFormed hs.consistent hmem hhe hid henabled

/-- On one account, held = posted ≤ attributed when the hold is APPLIED. -/
theorem allocated_le_attributed (htouches : s.holdTouchesGrants h.tenantId h.id = true)
    (happlied : h.state = .applied) {a : Uuid} (henabled : s.grantEnabled h.tenantId a = true) :
    accountAllocated s h.tenantId a h.id ≤ sumWhere s.creditGrantEntries
      (fun l => (s.lineageEntry? l).any (holdDebit s h.tenantId a h.id)) (·.amountMinor) := by
  have haccounts := legsAccount_of_touches hs hmem htouches
  rw [attributed_holdDebit hs.wellFormed, accountAllocated_eq hs.wellFormed hs.exact henabled,
    ← haccounts.applied happlied a 1, sideTotal_posted]
  exact sumWhere_le_sumWhere (fun _ _ hdebit => hdebit)
    (fun e he hdebit => hs.covered e he (holdDebit_enabled henabled e he hdebit))
    fun e he hdebit => (abs_nonneg _).trans
      (hs.covered e he (holdDebit_enabled henabled e he hdebit))

omit hmem in
theorem uncaptured_nonneg (g : Uuid) : 0 ≤ uncaptured s g h :=
  sub_nonneg.mpr (hs.within h.tenantId g h.id)

/-- An APPLIED hold whose debits were all consumption is settled. -/
theorem settled_of_consumption (happlied : h.state = .applied)
    (hconsumption : s.holdTouchesGrants h.tenantId h.id = true → SettledByConsumption s h) :
    Settled s h := by
  intro g
  have hnonneg := uncaptured_nonneg hs (h := h) g
  have hconsumed := holdConsumed_nonneg hs.wellFormed.links.history h.tenantId g h.id
  by_cases hallocated : 0 < s.holdAllocated h.tenantId g h.id
  · obtain ⟨x, hx, hcondition⟩ := exists_of_sumWhere_pos hallocated
    obtain ⟨hxtenant, hxgrant, hxhold⟩ := of_decide_eq_true hcondition
    obtain ⟨grant, he, hlink⟩ := hs.wellFormed.links.allocations x hx
    have hgrant : grant ∈ s.creditGrants := mem_of_lookup hlink.grant
    have hgrantId : grant.id = g := (key_of_lookup hlink.grant).trans hxgrant
    have hgrantTenant : grant.tenantId = h.tenantId := hlink.grantTenant.trans hxtenant
    have henabled : s.grantEnabled h.tenantId grant.accountId = true :=
      hgrantTenant ▸ (hs.wellFormed.links.creditGrants grant hgrant).2
    have htouches : s.holdTouchesGrants h.tenantId h.id = true := by
      obtain ⟨hstored, -, hentry⟩ := hlink.stored
      rw [hlink.allocationHoldId, Option.some.injEq] at hxhold
      refine holdTouchesGrants_eq_true_iff.mpr ⟨he, hstored, ?_⟩
      rw [hentry, hxtenant, hlink.holdEntryAccount, ← hlink.grantAccount]
      exact ⟨rfl, hxhold, henabled⟩
    have hrows : sumWhere s.creditGrantEntries
        (fun l => (s.lineageEntry? l).any (holdDebit s h.tenantId grant.accountId h.id))
        (·.amountMinor) = accountCaptured s h.tenantId grant.accountId h.id := by
      rw [accountCaptured_rows hs.wellFormed]
      refine sumWhere_congr (fun l hl => ?_) fun _ _ _ => rfl
      have hstranded := hconsumption htouches l hl
      rw [Bool.eq_iff_iff, lineage_of_holdDebit hs.wellFormed hl, decide_eq_true_eq]
      tauto
    have hle : accountAllocated s h.tenantId grant.accountId h.id ≤
        accountCaptured s h.tenantId grant.accountId h.id :=
      hrows ▸ allocated_le_attributed hs hmem htouches happlied henabled
    have hequal := eq_of_sumWhere_le
      (fun g _ _ => hs.within h.tenantId g.id h.id) hle grant hgrant (by simp [hgrantTenant])
    rw [hgrantId] at hequal
    unfold uncaptured
    omega
  · unfold uncaptured at hnonneg ⊢
    omega

/-- Under full attribution an APPLIED hold with a debit that was not consumption is not
settled. -/
theorem not_settled_of_stranded (hfull : TenantAttributed s) (happlied : h.state = .applied)
    (htouches : s.holdTouchesGrants h.tenantId h.id = true) {l : CreditGrantEntry}
    (hl : l ∈ s.creditGrantEntries) (htenant : l.tenantId = h.tenantId)
    (hhold : s.lineageHoldId l = some h.id) (hkind : l.kind = .reversal ∨ l.kind = .expiration) :
    ¬ Settled s h := by
  intro hsettled
  obtain ⟨linked, hlink⟩ := hs.wellFormed.links.lineage l hl
  have henabled : s.grantEnabled h.tenantId l.accountId = true := by
    have hgrant := (hs.wellFormed.links.creditGrants _ (mem_of_lookup hlink.rows.grant)).2
    rw [hlink.rows.grantTenant, hlink.rows.grantAccount, htenant] at hgrant
    exact hgrant
  have haccounts := legsAccount_of_touches hs hmem htouches
  have hposted : accountAllocated s h.tenantId l.accountId h.id = sumWhere s.creditGrantEntries
      (fun l' => (s.lineageEntry? l').any (holdDebit s h.tenantId l.accountId h.id))
      (·.amountMinor) := by
    rw [attributed_holdDebit hs.wellFormed, accountAllocated_eq hs.wellFormed hs.exact henabled,
      ← haccounts.applied happlied l.accountId 1, sideTotal_posted]
    exact sumWhere_congr (fun _ _ => rfl) fun e he hdebit =>
      (hfull e he (holdDebit_enabled henabled e he hdebit)).symm
  have hequal : accountAllocated s h.tenantId l.accountId h.id =
      accountCaptured s h.tenantId l.accountId h.id :=
    sumWhere_congr (fun _ _ => rfl) fun g _ _ => sub_eq_zero.mp (hsettled g.id)
  rw [accountCaptured_rows hs.wellFormed] at hequal
  have hconsumption := holds_of_sumWhere_le
    (fun l' hl' _ => amountMinor_pos hs.wellFormed.links.history hl') (fun l' hl' hcaptures => ?_)
    (hposted.symm.trans hequal).le l hl
    ((lineage_of_holdDebit hs.wellFormed hl).mpr ⟨⟨htenant, rfl, hhold⟩, Or.inr hkind⟩)
  · have hconsumes := (of_decide_eq_true hconsumption).2.2.1
    rcases hkind with hkind | hkind <;> simp [hkind] at hconsumes
  · obtain ⟨htenant', haccount', hconsumes, hhold'⟩ := of_decide_eq_true hcaptures
    exact (lineage_of_holdDebit hs.wellFormed hl').mpr
      ⟨⟨htenant', haccount', hhold'⟩, Or.inl hconsumes⟩

end Settled

/-! ## One commit -/

section Commit

variable {s s' : Db} {tx : DbTransaction} (hs : HoldInvariants s) (h : commit s tx = .ok s')

include hs h in
theorem HoldInvariants.commit : HoldInvariants s' := by
  have hwithin : WellFormed s' ∧ CapturedWithin s' :=
    RowSteps.preserves (P := fun s => WellFormed s ∧ CapturedWithin s)
      (fun _ _ hstep hs => ⟨hstep.wellFormed hs.1, hstep.capturedWithin hs.1.grounded hs.2⟩)
      (commit_steps h) ⟨hs.wellFormed, hs.within⟩
  exact
    { wellFormed := hwithin.1
      consistent := holdsConsistent_commit hs.wellFormed hs.consistent h
      covered := covered_commit hs.wellFormed hs.covered h
      within := hwithin.2
      exact := allocatedExactly_commit hs.wellFormed hs.exact h }

/-- A statement leaves a hold that it writes as final in the table, at some point. -/
theorem exec_written {now : Timestamp} {stmt : Statement} (h : stmt.exec now s = .ok s')
    {w : Hold} (hw : w ∈ stmt.writtenHolds) :
    ∃ mid, RowSteps now s mid ∧ (w.state ≠ .held → mid.hold? w.id = some w) ∧
      RowSteps now mid s' := by
  cases stmt with
  | insertHolds rows =>
      have hheld : w.state = .held :=
        insertEach_forall (q := fun w => w.state = .held)
          (fun _ _ => checkHoldInsert_held) h w hw
      exact ⟨s, .refl, fun hfinal => absurd hheld hfinal, exec_steps h⟩
  | updateHolds changes =>
      obtain ⟨⟨id, new⟩, hchange, rfl⟩ := List.mem_map.mp hw
      obtain ⟨before, after, s₁, s₂, -, hbefore, hupdate, hafter⟩ := foldlM_mem h hchange
      have hsteps : RowSteps now s s₁ := foldlM_steps (fun _ _ _ _ => updateHold_steps) hbefore
      refine ⟨s₂, hsteps.trans (updateHold_steps hupdate), fun _ => ?_,
        foldlM_steps (fun _ _ _ _ => updateHold_steps) hafter⟩
      obtain ⟨old, released, hfound, -, rfl, -, hreleased, -, rfl⟩ := updateHold_ok hupdate
      obtain ⟨-, versions, rfl⟩ := releaseGrantHoldReservations_step hreleased
      exact (hold?_replaceHold hfound _).trans (if_pos rfl)
  | _ => cases hw

include h in
/-- A hold written as final is in the table as it was written. -/
theorem hold?_of_written {w : Hold} (hw : w ∈ tx.writtenHolds) (hfinal : w.state ≠ .held) :
    s'.hold? w.id = some w := by
  obtain ⟨mid, -, hmid, hrest⟩ :=
    commit_written (Q := fun mid w => w.state ≠ .held → mid.hold? w.id = some w)
      (fun _ _ _ hexec _ => exec_written hexec) h hw
  obtain ⟨w', hfound, -, hsame⟩ := (RowSteps.extends hrest).holds _ _ (hmid hfinal)
  rw [hfound, hsame hfinal]

include h in
/-- A hold that was not written was there before. -/
theorem mem_or_written {w : Hold} (hw : w ∈ s'.holds) : w ∈ s.holds ∨ w ∈ tx.writtenHolds := by
  refine foldlM_preserves (P := fun s₁ => ∀ w ∈ s₁.holds, w ∈ s.holds ∨ w ∈ tx.writtenHolds)
    (fun stmt hstmt s₁ s₂ hexec hs₁ => ?_) (commit_eq_ok_iff.mp h).1 (fun _ hw => Or.inl hw) w hw
  have hwritten : ∀ w ∈ stmt.writtenHolds, w ∈ s.holds ∨ w ∈ tx.writtenHolds :=
    fun w hw => Or.inr (List.mem_flatMap.mpr ⟨stmt, hstmt, hw⟩)
  cases stmt with
  | insertHolds rows =>
      obtain ⟨versions, rfl⟩ := exec_store hexec
      intro w hw
      rcases List.mem_append.mp hw with hold | hnew
      · exact hs₁ w hold
      · exact hwritten w hnew
  | updateHolds changes =>
      refine foldlM_preserves
        (P := fun s₁ => ∀ w ∈ s₁.holds, w ∈ s.holds ∨ w ∈ tx.writtenHolds)
        (fun change hchange s₃ s₄ hupdate hs₃ => ?_) hexec hs₁
      obtain ⟨id, new⟩ := change
      obtain ⟨old, released, -, -, -, -, hreleased, -, rfl⟩ := updateHold_ok hupdate
      obtain ⟨-, versions, rfl⟩ := releaseGrantHoldReservations_step hreleased
      intro w hw
      obtain ⟨w', hw', rfl⟩ := List.mem_map.mp hw
      by_cases hid : w'.id = new.id
      · rw [if_pos hid]
        exact hwritten new (List.mem_map_of_mem hchange)
      · rw [if_neg hid]
        exact hs₃ w' hw'
  | _ =>
      obtain ⟨versions, rfl⟩ := exec_store hexec
      exact hs₁

include hs h in
/-- What a final hold retains, it retains. -/
theorem settled_commit_iff {w : Hold} (hw : w ∈ s.holds) (hfinal : w.state ≠ .held) :
    Settled s' w ↔ Settled s w := by
  refine forall_congr' fun g => ?_
  obtain ⟨hconsumed, hallocated⟩ := (commit_steps h).frozen hs.wellFormed.grounded
    (hold?_of_mem hs.wellFormed.grounded hw) hfinal g
  rw [uncaptured, hconsumed, hallocated, uncaptured]

end Commit

/-! ## Runs -/

/-- A hold on grants that a database transaction sets to APPLIED has its debits
attributed as CONSUMPTION, by the rows there were and the rows it inserts. -/
def AppliedByConsumption (s : Db) (tx : DbTransaction) : Prop :=
  ∀ h ∈ tx.writtenHolds, h.state = .applied →
    (tx.store s).holdTouchesGrants h.tenantId h.id = true → SettledByConsumption (tx.store s) h

instance (s : Db) (tx : DbTransaction) : Decidable (AppliedByConsumption s tx) :=
  inferInstanceAs (Decidable (∀ h ∈ tx.writtenHolds, h.state = .applied →
    (tx.store s).holdTouchesGrants h.tenantId h.id = true →
      ∀ l ∈ (tx.store s).creditGrantEntries, _))

/-- The condition in the committed state: it reads no capacity version. -/
theorem appliedByConsumption_iff {s s' : Db} {tx : DbTransaction} (h : commit s tx = .ok s') :
    AppliedByConsumption s tx ↔ ∀ w ∈ tx.writtenHolds, w.state = .applied →
      s'.holdTouchesGrants w.tenantId w.id = true → SettledByConsumption s' w := by
  obtain ⟨versions, rfl⟩ := commit_store h
  exact Iff.rfl

/-- Every APPLIED hold is settled. -/
def AppliedSettled (s : Db) : Prop := ∀ h ∈ s.holds, h.state = .applied → Settled s h

section Step

variable {s s' : Db} {tx : DbTransaction} (hs : HoldInvariants s) (h : commit s tx = .ok s')
include hs h

theorem appliedSettled_commit (hsettled : AppliedSettled s)
    (hconsumption : AppliedByConsumption s tx) : AppliedSettled s' := by
  rw [appliedByConsumption_iff h] at hconsumption
  intro w hw happlied
  rcases mem_or_written h hw with hold | hnew
  · exact (settled_commit_iff hs h hold (by simp [happlied])).mpr (hsettled w hold happlied)
  · exact settled_of_consumption (hs.commit h) hw happlied (hconsumption w hnew happlied)

/-- Conversely, when attribution is full. -/
theorem consumption_of_appliedSettled (hfull : TenantAttributed s') (hsettled : AppliedSettled s') :
    AppliedSettled s ∧ AppliedByConsumption s tx := by
  rw [appliedByConsumption_iff h]
  constructor
  · intro w hw happlied
    have hfinal : w.state ≠ .held := by simp [happlied]
    obtain ⟨w', hfound, -, hsame⟩ := (RowSteps.extends (commit_steps h)).holds _ _
      (hold?_of_mem hs.wellFormed.grounded hw)
    rw [hsame hfinal] at hfound
    exact (settled_commit_iff hs h hw hfinal).mp (hsettled w (mem_of_lookup hfound) happlied)
  · intro w hw happlied htouches l hl htenant hhold
    have hmem : w ∈ s'.holds := mem_of_lookup (hold?_of_written h hw (by simp [happlied]))
    rw [← not_or]
    exact fun hkind => not_settled_of_stranded (hs.commit h) hmem hfull happlied htouches hl
      htenant hhold hkind (hsettled w hmem happlied)

end Step

theorem HoldInvariants.empty : HoldInvariants Db.empty where
  wellFormed := WellFormed.empty
  consistent := holdsConsistent_empty
  covered := fun _ he => absurd he List.not_mem_nil
  within := fun _ _ _ => le_refl _
  exact := fun _ hhe => absurd hhe List.not_mem_nil

theorem replay_holdInvariants {log : List DbTransaction} {s : Db} (h : replay log = .ok s) :
    HoldInvariants s :=
  run_invariant HoldInvariants.empty (fun _ _ _ hcommit hs => hs.commit hcommit) h

theorem replay_appliedSettled {log : List DbTransaction} {s : Db} (h : replay log = .ok s) :
    (AlongRun commit AppliedByConsumption Db.empty log → AppliedSettled s) ∧
      ((∀ tx ∈ log, AttributesOwnEntries tx) → AppliedSettled s →
        AlongRun commit AppliedByConsumption Db.empty log) := by
  refine run_induction (P := fun log s =>
    (AlongRun commit AppliedByConsumption Db.empty log → AppliedSettled s) ∧
      ((∀ tx ∈ log, AttributesOwnEntries tx) → AppliedSettled s →
        AlongRun commit AppliedByConsumption Db.empty log)) ?_ ?_ h
  · exact ⟨fun _ _ hh => absurd hh List.not_mem_nil, fun _ _ => trivial⟩
  · rintro log s tx s' hlog ⟨hsettled, halong⟩ hcommit
    have hs := replay_holdInvariants hlog
    rw [alongRun_concat_iff hlog hcommit]
    refine ⟨fun hconsumption => appliedSettled_commit hs hcommit (hsettled hconsumption.1)
      hconsumption.2, fun hown hsettled' => ?_⟩
    have hfull : TenantAttributed s' :=
      replay_tenantAttributed (run_concat_eq_ok_iff.mpr ⟨s, hlog, hcommit⟩) hown
    obtain ⟨hbefore, hconsumption⟩ := consumption_of_appliedSettled hs hcommit hfull hsettled'
    exact ⟨halong (fun tx htx => hown tx (List.mem_append_left _ htx)) hbefore, hconsumption⟩

/-! ## Reserve belongs to live holds -/

/-- The reserve of a grant is what the HELD holds have left uncaptured of it, each a
non-negative amount, and an APPLIED hold retains nothing. -/
structure ReserveOfLiveHolds (s : Db) : Prop where
  reserved : ∀ t g, s.latestMinor t g (·.reservedMinor) =
    sumWhere s.holds (fun h => h.tenantId = t ∧ h.state = .held) (uncaptured s g)
  nonneg : ∀ h ∈ s.holds, h.state = .held → ∀ g, 0 ≤ uncaptured s g h
  applied : ∀ h ∈ s.holds, h.state = .applied → ∀ g, uncaptured s g h = 0

theorem reserveOfLiveHolds_iff {s : Db} (hs : HoldInvariants s)
    (htracks : Tracks s (capacityEvents s)) : ReserveOfLiveHolds s ↔ AppliedSettled s := by
  refine ⟨fun hlive => hlive.applied, fun hsettled => ?_⟩
  refine ⟨fun t g => ?_, fun _ _ _ g => uncaptured_nonneg hs g, hsettled⟩
  have hnone : sumWhere s.holds (fun h => h.tenantId = t ∧ h.state = .applied)
      (uncaptured s g) = 0 :=
    sumWhere_eq_zero fun w hw happlied => hsettled w hw (of_decide_eq_true happlied).2 g
  rw [reserved_by_hold hs.wellFormed.grounded hs.within htracks, hnone, add_zero]

/-- Reserve belongs to live holds when every hold was consumed by the database
transaction that sets it to APPLIED; and only then, as long as database transactions
attribute their own entries. -/
theorem reserve_of_live_holds {log : List DbTransaction} {s : Db} (h : replay log = .ok s) :
    (AlongRun commit AppliedByConsumption Db.empty log → ReserveOfLiveHolds s) ∧
      ((∀ tx ∈ log, AttributesOwnEntries tx) → ReserveOfLiveHolds s →
        AlongRun commit AppliedByConsumption Db.empty log) := by
  rw [reserveOfLiveHolds_iff (replay_holdInvariants h) (replay_tracks h)]
  exact replay_appliedSettled h

/-- Hold 400 is captured in two parts, 40 and then the remaining 20. -/
def Sample.appliedLog : List DbTransaction :=
  [⟨0, accounts⟩, ⟨1, issuance 0 none⟩, ⟨2, reservation⟩, ⟨3, capture⟩,
    ⟨4, [.insertTransactions [⟨170, 1, 5, some 400, none, none, 1, 4⟩],
      .insertEntries [⟨270, 1, 170, 10, 20, 1⟩, ⟨271, 1, 170, 11, -20, 1⟩],
      .insertCreditGrantEntries [⟨1, 5, 10, 300, 270, .consumption, 20⟩],
      .updateHolds [(400,
        { hold with state := .applied, remainingAmountMinor := 0, appliedAt := some 4 })]]⟩]

/-- Nothing is reserved after it. -/
theorem reserve_of_live_holds_sample :
    ReserveOfLiveHolds (Sample.stateAfter Sample.appliedLog) ∧
      (Sample.stateAfter Sample.appliedLog).latestMinor 1 300 (·.reservedMinor) = 0 :=
  ⟨(reserve_of_live_holds (Sample.replay_stateAfter (by rfl))).1 (by decide +kernel), by rfl⟩

/-- Hold 400 is allocated to grant 300, which does not expire; its debit is then posted
as the EXPIRATION of another grant of the account, whose other 40 expire beside it. -/
def Sample.strandedLog : List DbTransaction :=
  [⟨0, accounts⟩, ⟨1, issuance 0 none⟩, ⟨1, issuance 1 (some 3)⟩, ⟨2, reservation⟩,
    ⟨4, [.insertTransactions [⟨160, 1, 5, some 400, none, none, 1, 4⟩,
        ⟨161, 1, 5, none, none, none, 1, 4⟩],
      .insertEntries [⟨260, 1, 160, 10, 60, 1⟩, ⟨261, 1, 160, 11, -60, 1⟩,
        ⟨262, 1, 161, 10, 40, 1⟩, ⟨263, 1, 161, 11, -40, 1⟩],
      .insertCreditGrantEntries [⟨1, 5, 10, 301, 260, .expiration, 60⟩,
        ⟨1, 5, 10, 301, 262, .expiration, 40⟩],
      .updateHolds [(400,
        { hold with state := .applied, remainingAmountMinor := 0, appliedAt := some 4 })]]⟩]

/-- The run is accepted, no hold is HELD after it, and 60 of grant 300 stay reserved. -/
theorem applied_hold_retains_reserve :
    replay Sample.strandedLog = .ok (Sample.stateAfter Sample.strandedLog) ∧
      ¬ ReserveOfLiveHolds (Sample.stateAfter Sample.strandedLog) := by
  refine ⟨Sample.replay_stateAfter (by rfl), fun hlive => ?_⟩
  have hreserved := hlive.reserved 1 300
  revert hreserved
  decide +kernel

end LuxLedger.Credit
