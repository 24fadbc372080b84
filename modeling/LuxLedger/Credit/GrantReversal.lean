/-
  Credit/GrantReversal.lean --- the reversal of a whole grant.

  The guard of REVERSAL is a conjunction under a NOT, and two of its comparisons read
  nullable columns: UNKNOWN does not raise.  It also reads the latest version as it
  was before the statement.  What it leaves of the grant is nothing: capacity is
  exhausted, everything consumed is restored, and no later row of the grant passes.
-/
import LuxLedger.Credit.Reversal

set_option autoImplicit false

namespace LuxLedger.Credit

open LuxLedger.Schema LuxLedger.Relational

/-! ## Spent grants -/

/-- The grant was issued and reversed, nothing remains of it, and everything consumed
was restored. -/
structure Spent (s : Db) (tenantId grantId : Uuid) : Prop where
  issued : ∃ l ∈ s.creditGrantEntries,
    l.tenantId = tenantId ∧ l.grantId = grantId ∧ l.kind = .issuance
  reversed : ∃ l ∈ s.creditGrantEntries,
    l.tenantId = tenantId ∧ l.grantId = grantId ∧ l.kind = .reversal
  restored : s.lineageTotal tenantId grantId .compensation =
    s.lineageTotal tenantId grantId .consumption
  exhausted : s.lineageTotal tenantId grantId .issuance =
    s.lineageTotal tenantId grantId .reversal + s.lineageTotal tenantId grantId .refund +
      s.lineageTotal tenantId grantId .expiration

theorem lineageTotal_append {s s' : Db} {rows : List CreditGrantEntry}
    (hrows : s'.creditGrantEntries = s.creditGrantEntries ++ rows) (t g : Uuid)
    (kind : CreditGrantEntryKind) :
    s'.lineageTotal t g kind = s.lineageTotal t g kind + sumWhere rows
      (fun l => l.tenantId = t ∧ l.grantId = g ∧ l.kind = kind) (·.amountMinor) := by
  rw [Db.lineageTotal, hrows, sumWhere_append]
  rfl

/-- Rows of other grants leave a spent grant spent. -/
theorem Spent.append {s s' : Db} {t g : Uuid} {rows : List CreditGrantEntry} (h : Spent s t g)
    (hrows : s'.creditGrantEntries = s.creditGrantEntries ++ rows)
    (hother : ∀ l ∈ rows, l.grantId ≠ g) : Spent s' t g := by
  have hsame : ∀ kind, s'.lineageTotal t g kind = s.lineageTotal t g kind := by
    intro kind
    rw [lineageTotal_append hrows, sumWhere_eq_zero fun l hl hcondition => ?_, add_zero]
    exact absurd (of_decide_eq_true hcondition).2.1 (hother l hl)
  obtain ⟨issuance, hissuance, hissued⟩ := h.issued
  obtain ⟨reversal, hreversal, hreversed⟩ := h.reversed
  refine ⟨⟨issuance, ?_, hissued⟩, ⟨reversal, ?_, hreversed⟩, ?_, ?_⟩
  · rw [hrows]
    exact List.mem_append_left _ hissuance
  · rw [hrows]
    exact List.mem_append_left _ hreversal
  · rw [hsame, hsame]
    exact h.restored
  · rw [hsame, hsame, hsame, hsame]
    exact h.exhausted

/-- The latest version of a spent grant has nothing left, free or reserved. -/
theorem Spent.latest {s : Db} {t g : Uuid} (h : Spent s t g)
    (htracks : Tracks s (capacityEvents s)) :
    s.latestMinor t g (·.remainingMinor) = 0 ∧ activeCreditGrantReservation s t g = 0 := by
  have hfold := capacityFold_of_tracks htracks t g
  have hremaining := hfold.remaining
  rw [hfold.granted, hfold.compensated, hfold.reversed, hfold.consumed, hfold.expired] at hremaining
  have hrestored := h.restored
  have hexhausted := h.exhausted
  have hzero : s.latestMinor t g (·.remainingMinor) = 0 := by omega
  have hnonneg := hfold.reservedNonneg
  have hle := hfold.reservedLe
  exact ⟨hzero, by unfold activeCreditGrantReservation; omega⟩

section Rejected

variable {now : Timestamp} {s : Db} {t g : Uuid} (hs : WellFormed s) (hspent : Spent s t g)
  (hzero : s.latestMinor t g (·.remainingMinor) = 0)
  (hreserved : activeCreditGrantReservation s t g = 0)
include hs hspent hzero hreserved

omit hzero hreserved in
/-- The grant of a spent id is of the tenant. -/
theorem Spent.tenant {grant : CreditGrant} (hgrant : s.creditGrant? g = some grant) :
    grant.tenantId = t := by
  obtain ⟨l, hl, htenant, hid, -⟩ := hspent.reversed
  obtain ⟨linked, hlink⟩ := hs.links.lineage l hl
  have hfound := hlink.rows.grant
  rw [hid, hgrant] at hfound
  rw [Option.some.inj hfound, hlink.rows.grantTenant, htenant]

/-- No lineage row of a spent grant is accepted. -/
theorem Spent.rejects_lineage (hbounded : CompensationBounded s) {new : CreditGrantEntry}
    (h : checkCreditGrantEntry now s new = .ok ()) : new.grantId ≠ g := by
  rintro rfl
  obtain ⟨linked, hnew⟩ := checkCreditGrantEntry_ok h
  have hrows := hnew.linkedRows
  have htenant : new.tenantId = t :=
    hrows.grantTenant.symm.trans (hspent.tenant hs hrows.grant)
  subst htenant
  have hpos := hnew.amountPos
  have hkind := hnew.kind
  unfold AcceptedKind at hkind
  cases hk : new.kind with
  | issuance =>
      obtain ⟨l, hl, -, hid, hissuance⟩ := hspent.issued
      exact hnew.oneIssuance hk l hl ⟨hissuance, hid⟩
  | reversal =>
      obtain ⟨l, hl, -, hid, hreversal⟩ := hspent.reversed
      exact hnew.oneReversal hk l hl ⟨hreversal, hid⟩
  | consumption =>
      simp only [hk] at hkind
      cases hhold : linked.transaction.holdId with
      | none =>
          simp only [hhold] at hkind
          omega
      | some holdId =>
          simp only [hhold] at hkind
          omega
  | compensation =>
      simp only [hk] at hkind
      obtain ⟨-, htype, hrelated, -, hle⟩ := hkind
      have hexact := restored_exactly hs hbounded hspent.restored _
        (mem_reversals hs hrows htype hrelated)
      omega
  | expiration =>
      simp only [hk] at hkind
      omega
  | refund =>
      simp only [hk] at hkind
      omega

/-- Nor is an allocation of it. -/
theorem Spent.rejects_allocation {new : CreditGrantHoldAllocation}
    (h : checkCreditGrantHoldAllocation now s new = .ok ()) : new.grantId ≠ g := by
  rintro rfl
  obtain ⟨grant, holdEntry, hold, hnew⟩ := checkCreditGrantHoldAllocation_ok h
  have htenant : new.tenantId = t := hnew.grantTenant.symm.trans (hspent.tenant hs hnew.grant)
  subst htenant
  have hpos := hnew.amountPos
  have hle := hnew.amountLe
  omega

end Rejected

/-! ## Spent for ever -/

/-- What every statement finds. -/
structure Reached (s : Db) : Prop where
  wellFormed : WellFormed s
  bounded : CompensationBounded s
  tracks : Tracks s (capacityEvents s)

theorem replayStatements_reached {steps : List (Timestamp × Statement)} {s : Db}
    (h : replayStatements steps = .ok s) : Reached s :=
  ⟨(replayStatements_bounded h).1, (replayStatements_bounded h).2, (replayStatements_tracks h).2⟩

theorem exec_reached {now : Timestamp} {s s' : Db} {stmt : Statement} (hs : Reached s)
    (h : stmt.exec now s = .ok s') : Reached s' := by
  refine ⟨(exec_steps h).wellFormed hs.wellFormed, ?_,
    exec_tracks hs.wellFormed.grounded hs.tracks h⟩
  have hboth : WellFormed s' ∧ CompensationBounded s' :=
    (exec_steps h).preserves (P := fun s => WellFormed s ∧ CompensationBounded s)
      (fun _ _ hstep hs => ⟨hstep.wellFormed hs.1, hstep.compensationBounded hs.1 hs.2⟩)
      ⟨hs.wellFormed, hs.bounded⟩
  exact hboth.2

theorem latestMinor_congr {s s' : Db}
    (h : s'.creditGrantCapacityVersions = s.creditGrantCapacityVersions) (t g : Uuid)
    (column : CreditGrantCapacityVersion → Int) :
    s'.latestMinor t g column = s.latestMinor t g column := by
  rw [Db.latestMinor, Db.latestMinor, Db.latestVersion, Db.latestVersion, Db.versionsOf,
    Db.versionsOf, h]

section Terminal

variable {now : Timestamp} {s s' : Db} {t g : Uuid}

/-- A statement carries no row of a spent grant, and leaves it spent. -/
theorem exec_spent {stmt : Statement} (hs : Reached s) (hspent : Spent s t g)
    (h : stmt.exec now s = .ok s') :
    (∀ l ∈ stmt.newCreditGrantEntries, l.grantId ≠ g) ∧
      (∀ a ∈ stmt.newAllocations, a.grantId ≠ g) ∧ Spent s' t g := by
  obtain ⟨hzero, hreserved⟩ := hspent.latest hs.tracks
  have hrows : ∀ l ∈ stmt.newCreditGrantEntries, l.grantId ≠ g := by
    cases stmt with
    | insertCreditGrantEntries rows =>
        obtain ⟨stored, hstored, -⟩ := insertRows_eq_ok_iff.mp h
        refine (insertEach_invariant (P := fun m => (WellFormed m ∧ CompensationBounded m) ∧
          Spent m t g ∧ m.creditGrantCapacityVersions = s.creditGrantCapacityVersions)
          (q := fun l => l.grantId ≠ g) ?_ hstored
          ⟨⟨hs.wellFormed, hs.bounded⟩, hspent, rfl⟩).1
        rintro m l hcheck ⟨⟨hm, hbounded⟩, hspent', hversions⟩
        have hother : l.grantId ≠ g := hspent'.rejects_lineage hm
          ((latestMinor_congr hversions t g _).trans hzero)
          ((latestMinor_congr hversions t g _).trans hreserved) hbounded hcheck
        have hstep : RowStep now m (m.addCreditGrantEntry l) := .creditGrantEntry hcheck
        refine ⟨hother, ⟨hstep.wellFormed hm, hstep.compensationBounded hm hbounded⟩, ?_, hversions⟩
        exact hspent'.append rfl fun l' hl' => List.mem_singleton.mp hl' ▸ hother
    | _ => exact fun _ hl => absurd hl List.not_mem_nil
  have hallocations : ∀ a ∈ stmt.newAllocations, a.grantId ≠ g := by
    cases stmt with
    | insertCreditGrantHoldAllocations rows =>
        obtain ⟨stored, hstored, -⟩ := insertRows_eq_ok_iff.mp h
        refine (insertEach_invariant (P := fun m => WellFormed m ∧ Spent m t g ∧
          m.creditGrantCapacityVersions = s.creditGrantCapacityVersions)
          (q := fun a => a.grantId ≠ g) ?_ hstored ⟨hs.wellFormed, hspent, rfl⟩).1
        rintro m a hcheck ⟨hm, hspent', hversions⟩
        have hother : a.grantId ≠ g := hspent'.rejects_allocation hm
          ((latestMinor_congr hversions t g _).trans hzero)
          ((latestMinor_congr hversions t g _).trans hreserved) hcheck
        have hstep : RowStep now m (m.addCreditGrantHoldAllocation a) := .allocation hcheck
        refine ⟨hother, hstep.wellFormed hm, ?_, hversions⟩
        exact hspent'.append (List.append_nil _).symm fun _ hl => absurd hl List.not_mem_nil
    | _ => exact fun _ ha => absurd ha List.not_mem_nil
  exact ⟨hrows, hallocations, hspent.append (exec_inserted h).creditGrantEntries hrows⟩

/-- Whatever follows, no row of a spent grant is accepted. -/
theorem spent_for_ever (hs : Reached s) (hspent : Spent s t g)
    {more : List (Timestamp × Statement)}
    (h : runStatements s more = .ok s') :
    ∀ step ∈ more, (∀ l ∈ step.2.newCreditGrantEntries, l.grantId ≠ g) ∧
      ∀ a ∈ step.2.newAllocations, a.grantId ≠ g := by
  intro step hstep
  obtain ⟨before, after, s₁, s₂, -, hbefore, hexec, -⟩ := foldlM_mem h hstep
  have hreached : Reached s₁ ∧ Spent s₁ t g :=
    foldlM_preserves (P := fun s => Reached s ∧ Spent s t g)
      (fun _ _ _ _ hnext hs => ⟨exec_reached hs.1 hnext, (exec_spent hs.1 hs.2 hnext).2.2⟩)
      hbefore ⟨hs, hspent⟩
  obtain ⟨hrows, hallocations, -⟩ := exec_spent hreached.1 hreached.2 hexec
  exact ⟨hrows, hallocations⟩

end Terminal

/-! ## The statement that reverses a grant -/

section Reversing

variable {now : Timestamp} {s s' : Db} {rows : List CreditGrantEntry} {l : CreditGrantEntry}

/-- The validator saw the row with the versions from before the statement. -/
theorem reversal_accepted (h : (Statement.insertCreditGrantEntries rows).exec now s = .ok s')
    (hl : l ∈ rows) (hkind : l.kind = .reversal) :
    ∃ linked, Linked s l linked ∧ linked.entryAmount = l.amountMinor ∧ 0 < l.amountMinor ∧
      (∀ r ∈ linked.transaction.relationType, r = .reversal) ∧
      (∀ id ∈ linked.transaction.relatedTransactionId, id = linked.grant.transactionId) ∧
      l.amountMinor = s.latestMinor l.tenantId l.grantId (·.grantedMinor) ∧
      s.latestMinor l.tenantId l.grantId (·.remainingMinor) =
        s.latestMinor l.tenantId l.grantId (·.grantedMinor) ∧
      s.latestMinor l.tenantId l.grantId (·.consumedMinor) = 0 ∧
      s.latestMinor l.tenantId l.grantId (·.expiredMinor) = 0 := by
  obtain ⟨stored, hstored, -⟩ := insertRows_eq_ok_iff.mp h
  obtain ⟨before, rest, rfl⟩ := List.append_of_mem hl
  obtain ⟨hbefore, hrest⟩ := insertEach_split hstored
  have hmid : before.foldl Db.addCreditGrantEntry s =
      { s with creditGrantEntries := s.creditGrantEntries ++ before } :=
    insertEach_store (Statement.store ∘ .insertCreditGrantEntries) (by simp [Statement.store])
      (by simp [Statement.store, Db.addCreditGrantEntry]) hbefore
  rw [hmid] at hrest
  obtain ⟨linked, haccepted⟩ := checkCreditGrantEntry_ok (insertEach_cons_eq_ok_iff.mp hrest).1
  have hrows := haccepted.linkedRows
  have hlinked : Linked s l linked :=
    { hrows with
      grant := hrows.grant
      entry := hrows.entry
      transaction := hrows.transaction
      account := hrows.account }
  have hguard := haccepted.kind
  simp only [AcceptedKind, hkind] at hguard
  obtain ⟨-, hamount, htype, hrelated, -, hwhole, hremaining, -, hconsumed, hexpired⟩ := hguard
  exact ⟨linked, hlinked, hamount.symm, haccepted.amountPos, htype, hrelated, hwhole, hremaining,
    hconsumed, hexpired⟩

/-- Once a grant is issued, no statement issues it again. -/
theorem no_second_issuance (h : (Statement.insertCreditGrantEntries rows).exec now s = .ok s')
    {g : Uuid} (hissued : ∃ l ∈ s.creditGrantEntries, l.grantId = g ∧ l.kind = .issuance) :
    ∀ l ∈ rows, l.grantId = g → l.kind ≠ .issuance := by
  intro l hl hid hkind
  obtain ⟨stored, hstored, -⟩ := insertRows_eq_ok_iff.mp h
  obtain ⟨mid, hsteps, hcheck, -⟩ := insertEach_mem (R := RowStep now)
    (fun _ _ _ hcheck => .creditGrantEntry hcheck) hstored hl
  obtain ⟨linked, haccepted⟩ := checkCreditGrantEntry_ok hcheck
  obtain ⟨first, hfirst, hgrant, hissuance⟩ := hissued
  exact haccepted.oneIssuance hkind first
    ((RowSteps.extends hsteps).creditGrantEntries.subset hfirst) ⟨hissuance, hgrant.trans hid.symm⟩

/-- Before the statement the grant is issued for the amount of the row, and untouched. -/
theorem untouched_before (hs : Reached s)
    (h : (Statement.insertCreditGrantEntries rows).exec now s = .ok s') (hl : l ∈ rows)
    (hkind : l.kind = .reversal) :
    0 < l.amountMinor ∧ s.lineageTotal l.tenantId l.grantId .issuance = l.amountMinor ∧
      ∀ kind, kind ≠ .issuance → s.lineageTotal l.tenantId l.grantId kind = 0 := by
  obtain ⟨linked, -, -, hpos, -, -, hwhole, hremaining, hconsumed, hexpired⟩ :=
    reversal_accepted h hl hkind
  have hnonneg : ∀ kind, 0 ≤ s.lineageTotal l.tenantId l.grantId kind :=
    fun kind => sumWhere_nonneg fun _ hl _ => (amountMinor_pos hs.wellFormed.links.history hl).le
  have hfold := capacityFold_of_tracks hs.tracks l.tenantId l.grantId
  have hsum := hfold.remaining
  rw [hremaining, hfold.granted, hfold.compensated, hfold.reversed, hfold.consumed, hfold.expired]
    at hsum
  rw [hfold.consumed] at hconsumed
  rw [hfold.expired] at hexpired
  rw [hfold.granted] at hwhole
  have hcompensation := compensation_le_consumption hs.wellFormed hs.bounded l.tenantId l.grantId
  have hreversal := hnonneg .reversal
  have hrefund := hnonneg .refund
  have hcompensated := hnonneg .compensation
  refine ⟨hpos, hwhole.symm, fun kind hother => ?_⟩
  cases kind with
  | issuance => exact absurd rfl hother
  | reversal | consumption | compensation | expiration | refund => omega

/-- What the statement leaves of the grant: it is spent, and consumed as far as rows of the
statement itself consume it. -/
theorem reversal_spends (hs : Reached s)
    (h : (Statement.insertCreditGrantEntries rows).exec now s = .ok s') (hl : l ∈ rows)
    (hkind : l.kind = .reversal) :
    Spent s' l.tenantId l.grantId ∧ l.amountMinor = s'.lineageTotal l.tenantId l.grantId .issuance ∧
      s'.lineageTotal l.tenantId l.grantId .refund = 0 ∧
      s'.lineageTotal l.tenantId l.grantId .expiration = 0 ∧
      s'.lineageTotal l.tenantId l.grantId .consumption = sumWhere rows
        (fun l' => l'.tenantId = l.tenantId ∧ l'.grantId = l.grantId ∧ l'.kind = .consumption)
        (·.amountMinor) := by
  obtain ⟨hpos, hwhole, huntouched⟩ := untouched_before hs h hl hkind
  have hs' := exec_reached hs h
  have hrows : s'.creditGrantEntries = s.creditGrantEntries ++ rows :=
    (exec_inserted h).creditGrantEntries
  have hpositive : ∀ l' ∈ rows, 0 < l'.amountMinor := fun l' hl' =>
    amountMinor_pos hs'.wellFormed.links.history (hrows ▸ List.mem_append_right _ hl')
  have hgain : ∀ kind, 0 ≤ sumWhere rows (fun l' => l'.tenantId = l.tenantId ∧
      l'.grantId = l.grantId ∧ l'.kind = kind) (·.amountMinor) :=
    fun kind => sumWhere_nonneg fun l' hl' _ => (hpositive l' hl').le
  -- it stays issued for the same amount
  obtain ⟨first, hfirst, hscope⟩ := exists_of_sumWhere_pos (hwhole.symm ▸ hpos)
  obtain ⟨htenant, hid, hissuance⟩ := of_decide_eq_true hscope
  have hissued : sumWhere rows (fun l' => l'.tenantId = l.tenantId ∧ l'.grantId = l.grantId ∧
      l'.kind = .issuance) (·.amountMinor) = 0 := by
    refine sumWhere_eq_zero fun l' hl' hcondition => ?_
    obtain ⟨-, hgrant, hkind'⟩ := of_decide_eq_true hcondition
    exact absurd hkind' (no_second_issuance h ⟨first, hfirst, hid, hissuance⟩ l' hl' hgrant)
  -- the reversal takes all of it, so the remainder of the CHECK is nothing
  have hfold := capacityFold_of_tracks hs'.tracks l.tenantId l.grantId
  have hsum := hfold.remaining
  have hbounds := hfold.reservedNonneg.trans hfold.reservedLe
  rw [hfold.granted, hfold.compensated, hfold.reversed, hfold.consumed, hfold.expired] at hsum
  have hcompensation := compensation_le_consumption hs'.wellFormed hs'.bounded l.tenantId l.grantId
  have htotal := lineageTotal_append hrows l.tenantId l.grantId
  have hgained : ∀ kind, kind ≠ .issuance → s'.lineageTotal l.tenantId l.grantId kind =
      sumWhere rows (fun l' => l'.tenantId = l.tenantId ∧ l'.grantId = l.grantId ∧
        l'.kind = kind) (·.amountMinor) := fun kind hother => by
    rw [htotal, huntouched kind hother, zero_add]
  have hreversal : l.amountMinor ≤ s'.lineageTotal l.tenantId l.grantId .reversal := by
    rw [hgained .reversal (by decide)]
    exact le_sumWhere hl (by simp [hkind]) fun l' hl' _ => (hpositive l' hl').le
  have hissuance' := htotal .issuance
  have hrefund := hgained .refund (by decide) ▸ hgain .refund
  have hexpiration := hgained .expiration (by decide) ▸ hgain .expiration
  rw [hissued, add_zero] at hissuance'
  refine ⟨⟨⟨first, ?_, htenant, hid, hissuance⟩, ⟨l, ?_, rfl, rfl, hkind⟩, by omega, by omega⟩,
    by omega, by omega, by omega, hgained .consumption (by decide)⟩
  · rw [hrows]
    exact List.mem_append_left _ hfirst
  · rw [hrows]
    exact List.mem_append_right _ hl

/-- With a relation type the guard is decided: the row reverses the grant's issuance. -/
theorem reverses_issuance_iff (hs : Reached s)
    (h : (Statement.insertCreditGrantEntries rows).exec now s = .ok s') (hl : l ∈ rows)
    (hkind : l.kind = .reversal) :
    (∃ t g, s.lineageTransaction? l = some t ∧ s.creditGrant? l.grantId = some g ∧
        t.relationType = some .reversal ∧ t.relatedTransactionId = some g.transactionId) ↔
      (s.lineageTransaction? l).any (fun t => t.relationType.isSome) = true := by
  obtain ⟨linked, hlinked, -, -, htype, hrelated, -⟩ := reversal_accepted h hl hkind
  constructor
  · rintro ⟨t, -, htransaction, -, hrelation, -⟩
    simp [htransaction, hrelation]
  · intro hrelation
    rw [hlinked.lineageTransaction, Option.any_some] at hrelation
    have hrelatedSome : linked.transaction.relatedTransactionId.isSome := by
      have hpair := hs.wellFormed.links.transactions _ (mem_of_lookup hlinked.transaction)
      rcases hpair with ⟨-, hnone⟩ | ⟨hsome, -⟩
      · rw [hnone] at hrelation
        cases hrelation
      · exact hsome
    obtain ⟨relation, hrelation⟩ := Option.isSome_iff_exists.mp hrelation
    obtain ⟨id, hid⟩ := Option.isSome_iff_exists.mp hrelatedSome
    refine ⟨linked.transaction, linked.grant, hlinked.lineageTransaction, hlinked.grant, ?_, ?_⟩
    · rw [hrelation, htype relation hrelation]
    · rw [hid, hrelated id hid]

/-- The grant is left unconsumed when no row of the statement consumes it. -/
theorem unconsumed_iff (hs : Reached s)
    (h : (Statement.insertCreditGrantEntries rows).exec now s = .ok s') (hl : l ∈ rows)
    (hkind : l.kind = .reversal) :
    s'.latestMinor l.tenantId l.grantId (·.consumedMinor) = 0 ↔
      ∀ l' ∈ rows, l'.grantId = l.grantId → l'.kind ≠ .consumption := by
  have hs' := exec_reached hs h
  obtain ⟨hspent, -, -, -, hconsumption⟩ := reversal_spends hs h hl hkind
  have hfold := capacityFold_of_tracks hs'.tracks l.tenantId l.grantId
  have hrows : s'.creditGrantEntries = s.creditGrantEntries ++ rows :=
    (exec_inserted h).creditGrantEntries
  rw [hfold.consumed, hconsumption]
  constructor
  · intro hzero l' hl' hgrant hconsumes
    have hmem : l' ∈ s'.creditGrantEntries := hrows ▸ List.mem_append_right _ hl'
    obtain ⟨linked', hlink'⟩ := hs'.wellFormed.links.lineage l' hmem
    have htenant : l'.tenantId = l.tenantId := by
      rw [← hlink'.rows.grantTenant]
      exact hspent.tenant hs'.wellFormed (hgrant ▸ hlink'.rows.grant)
    have hle : l'.amountMinor ≤ sumWhere rows (fun l' => l'.tenantId = l.tenantId ∧
        l'.grantId = l.grantId ∧ l'.kind = .consumption) (·.amountMinor) :=
      le_sumWhere hl' (by simp [htenant, hgrant, hconsumes]) fun l'' hl'' _ =>
        (amountMinor_pos hs'.wellFormed.links.history (hrows ▸ List.mem_append_right _ hl'')).le
    have hpos := hlink'.amountPos
    omega
  · intro hunconsumed
    refine sumWhere_eq_zero fun l' hl' hcondition => ?_
    obtain ⟨-, hgrant, hconsumes⟩ := of_decide_eq_true hcondition
    exact absurd hconsumes (hunconsumed l' hl' hgrant)

end Reversing

/-- The row `l`, inserted between `s` and `s'`, reverses its grant as the reversal of its
own issuance, untouched, and for ever. -/
structure GrantReversed (s s' : Db) (l : CreditGrantEntry) : Prop where
  linked : ∃ t g, s.lineageTransaction? l = some t ∧ s.creditGrant? l.grantId = some g ∧
    t.relationType = some .reversal ∧ t.relatedTransactionId = some g.transactionId
  whole : l.amountMinor = s'.latestMinor l.tenantId l.grantId (·.grantedMinor)
  unconsumed : s'.latestMinor l.tenantId l.grantId (·.consumedMinor) = 0
  unrefunded : s'.lineageTotal l.tenantId l.grantId .refund = 0
  unexpired : s'.latestMinor l.tenantId l.grantId (·.expiredMinor) = 0
  unreserved : s'.latestMinor l.tenantId l.grantId (·.reservedMinor) = 0
  /-- no continuation of the run has another row of the grant -/
  final : ∀ more s'', runStatements s' more = .ok s'' →
    ∀ step ∈ more, (∀ l' ∈ step.2.newCreditGrantEntries, l'.grantId ≠ l.grantId) ∧
      ∀ a ∈ step.2.newAllocations, a.grantId ≠ l.grantId

/-- An accepted REVERSAL does so exactly when its transaction has a relation type at all
and its statement has no CONSUMPTION of the grant. -/
theorem grantReversed_iff {steps : List (Timestamp × Statement)} {now : Timestamp} {s s' : Db}
    (h : replayStatements steps = .ok s) {rows : List CreditGrantEntry}
    (hexec : (Statement.insertCreditGrantEntries rows).exec now s = .ok s')
    {l : CreditGrantEntry} (hl : l ∈ rows) (hkind : l.kind = .reversal) :
    GrantReversed s s' l ↔
      (s.lineageTransaction? l).any (fun t => t.relationType.isSome) = true ∧
        ∀ l' ∈ rows, l'.grantId = l.grantId → l'.kind ≠ .consumption := by
  have hs := replayStatements_reached h
  have hs' := exec_reached hs hexec
  obtain ⟨hspent, hwhole, hrefund, hexpiration, -⟩ := reversal_spends hs hexec hl hkind
  have hfold := capacityFold_of_tracks hs'.tracks l.tenantId l.grantId
  rw [← reverses_issuance_iff hs hexec hl hkind, ← unconsumed_iff hs hexec hl hkind]
  constructor
  · exact fun hreversed => ⟨hreversed.linked, hreversed.unconsumed⟩
  · rintro ⟨hlinked, hunconsumed⟩
    exact
      { linked := hlinked
        whole := hwhole.trans hfold.granted.symm
        unconsumed := hunconsumed
        unrefunded := hrefund
        unexpired := hfold.expired.trans hexpiration
        unreserved := (hspent.latest hs'.tracks).2
        final := fun more s'' hmore => spent_for_ever hs' hspent hmore }

/-- Grant 300 is issued by transaction 100 and reversed by transaction 170, which has the
given relation. -/
def Sample.grantReversal (related : Option Uuid) (relation : Option TransactionRelationType) :
    List DbTransaction :=
  [⟨0, accounts⟩, ⟨1, issuance 0 none⟩,
    ⟨3, [.insertTransactions [⟨170, 1, 5, none, related, relation, 1, 3⟩],
      .insertEntries [⟨270, 1, 170, 10, 100, 1⟩, ⟨271, 1, 170, 11, -100, 1⟩],
      .insertCreditGrantEntries [⟨1, 5, 10, 300, 270, .reversal, 100⟩]]⟩]

/-- The state before the last statement of a log. -/
def Sample.stateBefore (log : List DbTransaction) : Db :=
  (replayStatements (timedStatements log).dropLast).toOption.getD Db.empty

/-- With the relation to the issuance the grant is reversed for good. -/
theorem grantReversed_iff_sample :
    GrantReversed (Sample.stateBefore (Sample.grantReversal (some 100) (some .reversal)))
        (Sample.stateAfter (Sample.grantReversal (some 100) (some .reversal)))
        ⟨1, 5, 10, 300, 270, .reversal, 100⟩ := by
  have hbefore : replayStatements
      (timedStatements (Sample.grantReversal (some 100) (some .reversal))).dropLast =
      .ok (Sample.stateBefore (Sample.grantReversal (some 100) (some .reversal))) := by rfl
  have hexec : (Statement.insertCreditGrantEntries [⟨1, 5, 10, 300, 270, .reversal, 100⟩]).exec 3
      (Sample.stateBefore (Sample.grantReversal (some 100) (some .reversal))) =
      .ok (Sample.stateAfter (Sample.grantReversal (some 100) (some .reversal))) := by rfl
  exact (grantReversed_iff hbefore hexec (List.mem_singleton.mpr rfl) rfl).mpr
    ⟨by rfl, by decide⟩

/-- Without any relation the same row is accepted and commits. -/
theorem unrelated_reversal_accepted :
    replay (Sample.grantReversal none none) =
        .ok (Sample.stateAfter (Sample.grantReversal none none)) ∧
      (Statement.insertCreditGrantEntries [⟨1, 5, 10, 300, 270, .reversal, 100⟩]).exec 3
          (Sample.stateBefore (Sample.grantReversal none none)) =
        .ok (Sample.stateAfter (Sample.grantReversal none none)) ∧
      ¬ GrantReversed (Sample.stateBefore (Sample.grantReversal none none))
        (Sample.stateAfter (Sample.grantReversal none none))
        ⟨1, 5, 10, 300, 270, .reversal, 100⟩ := by
  refine ⟨Sample.replay_stateAfter (by rfl), by rfl, fun hreversed => ?_⟩
  obtain ⟨t, g, htransaction, -, hrelation, -⟩ := hreversed.linked
  have hplain : (Sample.stateBefore (Sample.grantReversal none none)).lineageTransaction?
      ⟨1, 5, 10, 300, 270, .reversal, 100⟩ = some ⟨170, 1, 5, none, none, none, 1, 3⟩ := by rfl
  rw [hplain] at htransaction
  obtain rfl := Option.some.inj htransaction
  cases hrelation

/-- One statement that consumes 40, compensates them and reverses the grant. -/
def Sample.consumedReversal : List DbTransaction :=
  [⟨0, accounts⟩, ⟨1, issuance 0 none⟩,
    ⟨3, [.insertTransactions [⟨150, 1, 5, none, none, none, 1, 3⟩,
        ⟨151, 1, 5, none, some 150, some .reversal, 1, 3⟩,
        ⟨170, 1, 5, none, some 100, some .reversal, 1, 3⟩],
      .insertEntries [⟨250, 1, 150, 10, 40, 1⟩, ⟨251, 1, 150, 11, -40, 1⟩,
        ⟨252, 1, 151, 10, -40, 1⟩, ⟨253, 1, 151, 11, 40, 1⟩,
        ⟨270, 1, 170, 10, 100, 1⟩, ⟨271, 1, 170, 11, -100, 1⟩],
      .insertCreditGrantEntries [⟨1, 5, 10, 300, 250, .consumption, 40⟩,
        ⟨1, 5, 10, 300, 252, .compensation, 40⟩, ⟨1, 5, 10, 300, 270, .reversal, 100⟩]]⟩]

example : ((replay Sample.consumedReversal).toOption.map fun s =>
    s.latestMinor 1 300 (·.consumedMinor)) = some 40 := by rfl

end LuxLedger.Credit
