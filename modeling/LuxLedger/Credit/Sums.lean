/-
  Credit/Sums.lean --- how the sums that the triggers read grow with the database.

  A row keeps the hold and the transaction it is counted under, so a sum over a
  larger database is the old sum plus the sum over the rows that were added.  A
  hold that is final gets no further allocation and no further capture.
-/
import LuxLedger.Credit.WellFormed

set_option autoImplicit false

namespace LuxLedger.Credit

open LuxLedger.Schema LuxLedger.Relational

/-! ## Rows are counted where they were -/

section Growth

variable {s s' : Db} (hs : HistoryLinks s) (hext : Extends s s')
include hs hext

theorem lineageEntry?_extends {l : CreditGrantEntry} (hl : l ∈ s.creditGrantEntries) :
    s'.lineageEntry? l = s.lineageEntry? l := by
  obtain ⟨linked, hlink⟩ := hs.lineage l hl
  rw [hlink.lineageEntry, (hext.linked hlink).lineageEntry]

theorem lineageHoldId_extends {l : CreditGrantEntry} (hl : l ∈ s.creditGrantEntries) :
    s'.lineageHoldId l = s.lineageHoldId l := by
  obtain ⟨linked, hlink⟩ := hs.lineage l hl
  rw [hlink.lineageHoldId, (hext.linked hlink).lineageHoldId]

theorem allocationHoldId_extends {a : CreditGrantHoldAllocation}
    (ha : a ∈ s.creditGrantHoldAllocations) : s'.allocationHoldId a = s.allocationHoldId a := by
  obtain ⟨g, he, hlink⟩ := hs.allocations a ha
  rw [Db.allocationHoldId, Db.allocationHoldId, hlink.holdEntry,
    hext.allocationHoldEntry? hlink.holdEntry]

theorem holdConsumed_extends {rows : List CreditGrantEntry}
    (hrows : s'.creditGrantEntries = s.creditGrantEntries ++ rows) (t g h : Uuid) :
    s'.holdConsumed t g h = s.holdConsumed t g h + sumWhere rows
      (fun l => l.tenantId = t ∧ l.grantId = g ∧ l.kind = .consumption ∧
        s'.lineageHoldId l = some h) (·.amountMinor) := by
  rw [Db.holdConsumed, hrows, sumWhere_append]
  congr 1
  refine sumWhere_congr ?_ fun _ _ _ => rfl
  intro l hl
  rw [lineageHoldId_extends hs hext hl]

theorem holdAllocated_extends {rows : List CreditGrantHoldAllocation}
    (hrows : s'.creditGrantHoldAllocations = s.creditGrantHoldAllocations ++ rows)
    (t g h : Uuid) :
    s'.holdAllocated t g h = s.holdAllocated t g h + sumWhere rows
      (fun a => a.tenantId = t ∧ a.grantId = g ∧ s'.allocationHoldId a = some h)
      (·.amountMinor) := by
  rw [Db.holdAllocated, hrows, sumWhere_append]
  congr 1
  refine sumWhere_congr ?_ fun _ _ _ => rfl
  intro a ha
  rw [allocationHoldId_extends hs hext ha]

theorem transactionLineage_extends {rows : List CreditGrantEntry}
    (hrows : s'.creditGrantEntries = s.creditGrantEntries ++ rows) (t g : Uuid)
    (kind : CreditGrantEntryKind) (transactionId : Option Uuid) :
    s'.transactionLineage t g kind transactionId = s.transactionLineage t g kind transactionId +
      sumWhere rows (fun l => l.tenantId = t ∧ l.grantId = g ∧ l.kind = kind ∧
        (s'.lineageEntry? l).any fun e => transactionId = some e.transactionId)
        (·.amountMinor) := by
  rw [Db.transactionLineage, hrows, sumWhere_append]
  congr 1
  refine sumWhere_congr ?_ fun _ _ _ => rfl
  intro l hl
  rw [lineageEntry?_extends hs hext hl]

end Growth

/-! ## Signs -/

section Signs

variable {s : Db} (hs : HistoryLinks s)
include hs

theorem amountMinor_pos {l : CreditGrantEntry} (hl : l ∈ s.creditGrantEntries) :
    0 < l.amountMinor :=
  hs.amounts l hl

theorem allocation_amountMinor_pos {a : CreditGrantHoldAllocation}
    (ha : a ∈ s.creditGrantHoldAllocations) : 0 < a.amountMinor := by
  obtain ⟨g, he, hlink⟩ := hs.allocations a ha
  exact hlink.amountPos

theorem holdConsumed_nonneg (t g h : Uuid) : 0 ≤ s.holdConsumed t g h :=
  sumWhere_nonneg fun _ hl _ => (amountMinor_pos hs hl).le

theorem transactionLineage_nonneg (t g : Uuid) (kind : CreditGrantEntryKind)
    (transactionId : Option Uuid) : 0 ≤ s.transactionLineage t g kind transactionId :=
  sumWhere_nonneg fun _ hl _ => (amountMinor_pos hs hl).le

/-- A capture needs a hold of its tenant that is still HELD. -/
theorem heldHold_of_capture {now : Timestamp} {l : CreditGrantEntry} {linked : LinkedRows}
    {holdId : Uuid} (haccepted : AcceptedLineage now s l linked) (hkind : l.kind = .consumption)
    (hhold : linked.transaction.holdId = some holdId) :
    ∃ h, s.hold? holdId = some h ∧ h.tenantId = l.tenantId ∧ h.state = .held := by
  have hk := haccepted.kind
  simp only [AcceptedKind, hkind, hhold] at hk
  have hconsumed := holdConsumed_nonneg hs l.tenantId l.grantId holdId
  have hpos := haccepted.amountPos
  have hallocated : 0 < heldAllocation s l.tenantId l.grantId holdId := by omega
  unfold heldAllocation at hallocated
  obtain ⟨a, -, ha⟩ := exists_of_sumWhere_pos hallocated
  simp only [decide_eq_true_eq, Option.any_eq_true] at ha
  obtain ⟨htenant, -, h, hfound, rfl, hstate⟩ := ha
  obtain ⟨he, hhe, hh⟩ := Option.bind_eq_some_iff.mp hfound
  simp only [Db.allocationHoldEntry?, Db.holdEntryHold?, Option.filter_eq_some_iff,
    decide_eq_true_eq] at hhe hh
  refine ⟨h, ?_, hh.2.trans (hhe.2.trans htenant), hstate⟩
  rw [show h.id = he.holdId from key_of_lookup hh.1]
  exact hh.1

end Signs

/-! ## Final holds are frozen -/

/-- No step adds to what a final hold has been allocated or has consumed. -/
theorem RowStep.frozen {now : Timestamp} {s s' : Db} (h : RowStep now s s') (hs : Grounded s)
    {hold : Hold} (hfound : s.hold? hold.id = some hold) (hfinal : hold.state ≠ .held)
    (g : Uuid) :
    s'.holdConsumed hold.tenantId g hold.id = s.holdConsumed hold.tenantId g hold.id ∧
      s'.holdAllocated hold.tenantId g hold.id = s.holdAllocated hold.tenantId g hold.id := by
  have hext : Extends s s' := h.extends
  have hlinks := hs.links
  have hsame : s'.creditGrantEntries = s.creditGrantEntries →
      s'.holdConsumed hold.tenantId g hold.id = s.holdConsumed hold.tenantId g hold.id := by
    intro hrows
    have hnil : s'.creditGrantEntries = s.creditGrantEntries ++ [] := by
      rw [hrows, List.append_nil]
    rw [holdConsumed_extends hlinks hext hnil, sumWhere_nil, add_zero]
  have hsame' : s'.creditGrantHoldAllocations = s.creditGrantHoldAllocations →
      s'.holdAllocated hold.tenantId g hold.id = s.holdAllocated hold.tenantId g hold.id := by
    intro hrows
    have hnil : s'.creditGrantHoldAllocations = s.creditGrantHoldAllocations ++ [] := by
      rw [hrows, List.append_nil]
    rw [holdAllocated_extends hlinks hext hnil, sumWhere_nil, add_zero]
  cases h with
  | @creditGrantEntry new check =>
      refine ⟨?_, hsame' rfl⟩
      obtain ⟨linked, hnew⟩ := checkCreditGrantEntry_ok check
      rw [holdConsumed_extends hlinks hext rfl, sumWhere_singleton, if_neg, add_zero]
      simp only [decide_eq_true_eq, not_and]
      -- the new row would be a capture of a hold that is still HELD
      intro htenant _ hkind hhold
      rw [(hext.linked hnew.linkedRows).lineageHoldId] at hhold
      obtain ⟨hold', hfound', -, hheld⟩ := heldHold_of_capture hlinks hnew hkind hhold
      obtain rfl := Option.some.inj (hfound.symm.trans hfound')
      exact hfinal hheld
  | @allocation new check =>
      refine ⟨hsame rfl, ?_⟩
      obtain ⟨grant, he, hold', hnew⟩ := checkCreditGrantHoldAllocation_ok check
      rw [holdAllocated_extends hlinks hext rfl, sumWhere_singleton, if_neg, add_zero]
      simp only [decide_eq_true_eq, not_and]
      intro _ _ hid
      rw [Db.allocationHoldId, hext.allocationHoldEntry? hnew.holdEntry, Option.map_some,
        Option.some.injEq] at hid
      have hfound' := hnew.hold
      simp only [Db.holdEntryHold?, Option.filter_eq_some_iff] at hfound'
      rw [hid] at hfound'
      obtain rfl := Option.some.inj (hfound.symm.trans hfound'.1)
      exact hfinal hnew.held
  | asset _ | account _ | transaction _ | entry _ | creditGrant _ | hold _ | holdEntry _
  | capacityVersion _ | holdChange _ _ _ =>
      exact ⟨hsame rfl, hsame' rfl⟩

theorem RowSteps.frozen {now : Timestamp} {s s' : Db} (h : RowSteps now s s') (hs : Grounded s)
    {hold : Hold} (hfound : s.hold? hold.id = some hold) (hfinal : hold.state ≠ .held)
    (g : Uuid) :
    s'.holdConsumed hold.tenantId g hold.id = s.holdConsumed hold.tenantId g hold.id ∧
      s'.holdAllocated hold.tenantId g hold.id = s.holdAllocated hold.tenantId g hold.id := by
  induction h with
  | refl => exact ⟨rfl, rfl⟩
  | @tail mid last hsteps hlast ih =>
      obtain ⟨hold', hfound', -, hsame⟩ := (RowSteps.extends hsteps).holds _ _ hfound
      obtain rfl := hsame hfinal
      have hstep := hlast.frozen (RowSteps.grounded hsteps hs) hfound' hfinal g
      exact ⟨hstep.1.trans ih.1, hstep.2.trans ih.2⟩

end LuxLedger.Credit
