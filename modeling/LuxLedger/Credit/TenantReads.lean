/-
  Credit/TenantReads.lean --- what a trigger reads for a row of a tenant.

  Every query of the triggers keeps to the rows of the tenant of the row it is made
  for.  So on two databases that have the same rows of a tenant the triggers decide
  alike about a row of that tenant, function by function below: which rows it is linked
  to, the counters and sums of its grant, and with them the validators and the deferred
  constraint triggers.
-/
import LuxLedger.Relational.Agreement
import LuxLedger.Credit.WellFormed

set_option autoImplicit false

namespace LuxLedger.Credit

open LuxLedger.Schema LuxLedger.Relational

/-- Two databases with the same rows of a tenant. -/
structure SameTenant (t : Uuid) (s v : Db) : Prop where
  accounts : AgreeOn (fun a : Account => a.tenantId = t) s.accounts v.accounts
  transactions : AgreeOn (fun x : Transaction => x.tenantId = t) s.transactions v.transactions
  entries : AgreeOn (fun e : Entry => e.tenantId = t) s.entries v.entries
  creditGrants : AgreeOn (fun g : CreditGrant => g.tenantId = t) s.creditGrants v.creditGrants
  creditGrantEntries : AgreeOn (fun l : CreditGrantEntry => l.tenantId = t)
    s.creditGrantEntries v.creditGrantEntries
  holds : AgreeOn (fun h : Hold => h.tenantId = t) s.holds v.holds
  holdEntries : AgreeOn (fun he : HoldEntry => he.tenantId = t) s.holdEntries v.holdEntries
  allocations : AgreeOn (fun a : CreditGrantHoldAllocation => a.tenantId = t)
    s.creditGrantHoldAllocations v.creditGrantHoldAllocations
  versions : AgreeOn (fun u : CreditGrantCapacityVersion => u.tenantId = t)
    s.creditGrantCapacityVersions v.creditGrantCapacityVersions
  keys : Keys s
  keys' : Keys v

namespace SameTenant

variable {t : Uuid} {s v : Db}

theorem symm (h : SameTenant t s v) : SameTenant t v s where
  accounts := h.accounts.symm
  transactions := h.transactions.symm
  entries := h.entries.symm
  creditGrants := h.creditGrants.symm
  creditGrantEntries := h.creditGrantEntries.symm
  holds := h.holds.symm
  holdEntries := h.holdEntries.symm
  allocations := h.allocations.symm
  versions := h.versions.symm
  keys := h.keys'
  keys' := h.keys

/-! ## Reads through the primary keys -/

section Lookups

variable (h : SameTenant t s v)
include h

theorem account? (id : Uuid) {q : Account → Bool} (hq : ∀ a, q a = true → a.tenantId = t) :
    (s.account? id).filter q = (v.account? id).filter q :=
  h.accounts.lookup_filter_eq h.keys.accounts h.keys'.accounts
    fun a ha => decide_eq_true (hq a ha)

theorem transaction? (id : Uuid) {q : Transaction → Bool}
    (hq : ∀ x, q x = true → x.tenantId = t) :
    (s.transaction? id).filter q = (v.transaction? id).filter q :=
  h.transactions.lookup_filter_eq h.keys.transactions h.keys'.transactions
    fun x hx => decide_eq_true (hq x hx)

theorem entry? (id : Uuid) {q : Entry → Bool} (hq : ∀ e, q e = true → e.tenantId = t) :
    (s.entry? id).filter q = (v.entry? id).filter q :=
  h.entries.lookup_filter_eq h.keys.entries h.keys'.entries fun e he => decide_eq_true (hq e he)

theorem creditGrant? (id : Uuid) {q : CreditGrant → Bool}
    (hq : ∀ g, q g = true → g.tenantId = t) :
    (s.creditGrant? id).filter q = (v.creditGrant? id).filter q :=
  h.creditGrants.lookup_filter_eq h.keys.creditGrants h.keys'.creditGrants
    fun g hg => decide_eq_true (hq g hg)

theorem hold? (id : Uuid) {q : Hold → Bool} (hq : ∀ x, q x = true → x.tenantId = t) :
    (s.hold? id).filter q = (v.hold? id).filter q :=
  h.holds.lookup_filter_eq h.keys.holds h.keys'.holds fun x hx => decide_eq_true (hq x hx)

theorem holdEntry? (id : Uuid) {q : HoldEntry → Bool} (hq : ∀ x, q x = true → x.tenantId = t) :
    (s.holdEntry? id).filter q = (v.holdEntry? id).filter q :=
  h.holdEntries.lookup_filter_eq h.keys.holdEntries h.keys'.holdEntries
    fun x hx => decide_eq_true (hq x hx)

theorem lineageEntry? {l : CreditGrantEntry} (hl : l.tenantId = t) :
    s.lineageEntry? l = v.lineageEntry? l :=
  h.entry? _ fun _ he => (of_decide_eq_true he).trans hl

theorem entryTransaction? {e : Entry} (he : e.tenantId = t) :
    s.entryTransaction? e = v.entryTransaction? e :=
  h.transaction? _ fun _ hx => (of_decide_eq_true hx).trans he

theorem lineageTransaction? {l : CreditGrantEntry} (hl : l.tenantId = t) :
    s.lineageTransaction? l = v.lineageTransaction? l := by
  rw [Db.lineageTransaction?, Db.lineageTransaction?, h.lineageEntry? hl]
  cases hentry : v.lineageEntry? l with
  | none => rfl
  | some e =>
      have he : e.tenantId = t := by
        rw [Db.lineageEntry?, Option.filter_eq_some_iff] at hentry
        exact (of_decide_eq_true hentry.2).trans hl
      exact h.entryTransaction? he

theorem allocationHoldEntry? {a : CreditGrantHoldAllocation} (ha : a.tenantId = t) :
    s.allocationHoldEntry? a = v.allocationHoldEntry? a :=
  h.holdEntry? _ fun _ he => (of_decide_eq_true he).trans ha

theorem holdEntryHold? {he : HoldEntry} (hhe : he.tenantId = t) :
    s.holdEntryHold? he = v.holdEntryHold? he :=
  h.hold? _ fun _ hx => (of_decide_eq_true hx).trans hhe

theorem lineageHoldId {l : CreditGrantEntry} (hl : l.tenantId = t) :
    s.lineageHoldId l = v.lineageHoldId l := by
  rw [Db.lineageHoldId, Db.lineageHoldId, h.lineageTransaction? hl]

theorem allocationHoldId {a : CreditGrantHoldAllocation} (ha : a.tenantId = t) :
    s.allocationHoldId a = v.allocationHoldId a := by
  rw [Db.allocationHoldId, Db.allocationHoldId, h.allocationHoldEntry? ha]

theorem grantEnabled (accountId : Uuid) :
    s.grantEnabled t accountId = v.grantEnabled t accountId := by
  have hread := h.account? accountId
    (q := fun a => decide (a.tenantId = t ∧ a.grantEnabled = true))
    fun a ha => (of_decide_eq_true ha).1
  rw [Db.grantEnabled, Db.grantEnabled, ← Option.isSome_filter, ← Option.isSome_filter, hread]

end Lookups

/-! ## Rows and sums -/

section Sums

variable (h : SameTenant t s v)
include h

theorem versionsOf (grantId : Uuid) : s.versionsOf t grantId = v.versionsOf t grantId :=
  h.versions.filter_eq (fun _ hu => decide_eq_true (of_decide_eq_true hu).1)
    (fun _ hu => decide_eq_true (of_decide_eq_true hu).1) fun _ _ => rfl

theorem latestVersion (grantId : Uuid) : s.latestVersion t grantId = v.latestVersion t grantId := by
  rw [Db.latestVersion, Db.latestVersion, h.versionsOf]

theorem latestMinor (grantId : Uuid) (column : CreditGrantCapacityVersion → Int) :
    s.latestMinor t grantId column = v.latestMinor t grantId column := by
  rw [Db.latestMinor, Db.latestMinor, h.latestVersion]

theorem activeCreditGrantReservation (grantId : Uuid) :
    activeCreditGrantReservation s t grantId = activeCreditGrantReservation v t grantId :=
  h.latestMinor grantId _

theorem holdConsumed (grantId holdId : Uuid) :
    s.holdConsumed t grantId holdId = v.holdConsumed t grantId holdId := by
  refine h.creditGrantEntries.sumWhere_eq
    (fun _ hl => decide_eq_true (of_decide_eq_true hl).1)
    (fun _ hl => decide_eq_true (of_decide_eq_true hl).1) fun l hl => ?_
  rw [h.lineageHoldId (of_decide_eq_true hl)]

theorem holdAllocated (grantId holdId : Uuid) :
    s.holdAllocated t grantId holdId = v.holdAllocated t grantId holdId := by
  refine h.allocations.sumWhere_eq
    (fun _ ha => decide_eq_true (of_decide_eq_true ha).1)
    (fun _ ha => decide_eq_true (of_decide_eq_true ha).1) fun a ha => ?_
  rw [h.allocationHoldId (of_decide_eq_true ha)]

theorem heldAllocation (grantId holdId : Uuid) :
    heldAllocation s t grantId holdId = heldAllocation v t grantId holdId := by
  refine h.allocations.sumWhere_eq
    (fun _ ha => decide_eq_true (of_decide_eq_true ha).1)
    (fun _ ha => decide_eq_true (of_decide_eq_true ha).1) fun a ha => ?_
  have hhold : (s.allocationHoldEntry? a).bind s.holdEntryHold? =
      (v.allocationHoldEntry? a).bind v.holdEntryHold? := by
    rw [h.allocationHoldEntry? (of_decide_eq_true ha)]
    cases hentry : v.allocationHoldEntry? a with
    | none => rfl
    | some he =>
        rw [Db.allocationHoldEntry?, Option.filter_eq_some_iff] at hentry
        exact h.holdEntryHold? ((of_decide_eq_true hentry.2).trans (of_decide_eq_true ha))
  rw [hhold]

theorem transactionLineage (grantId : Uuid) (kind : CreditGrantEntryKind)
    (transactionId : Option Uuid) :
    s.transactionLineage t grantId kind transactionId =
      v.transactionLineage t grantId kind transactionId := by
  refine h.creditGrantEntries.sumWhere_eq
    (fun _ hl => decide_eq_true (of_decide_eq_true hl).1)
    (fun _ hl => decide_eq_true (of_decide_eq_true hl).1) fun l hl => ?_
  rw [h.lineageEntry? (of_decide_eq_true hl)]

theorem fundingCredit (transactionId fundingAccountId : Uuid) :
    fundingCredit s t transactionId fundingAccountId =
      fundingCredit v t transactionId fundingAccountId :=
  h.entries.sumWhere_eq (fun _ he => decide_eq_true (of_decide_eq_true he).1)
    (fun _ he => decide_eq_true (of_decide_eq_true he).1) fun _ _ => rfl

theorem attributedAmount {e : Entry} (he : e.tenantId = t) :
    s.attributedAmount e = v.attributedAmount e :=
  h.creditGrantEntries.sumWhere_eq
    (fun _ hl => decide_eq_true ((of_decide_eq_true hl).1.trans he))
    (fun _ hl => decide_eq_true ((of_decide_eq_true hl).1.trans he)) fun _ _ => rfl

theorem originalAmount {e : Entry} (he : e.tenantId = t) (related : Option Uuid) :
    originalAmount s e related = originalAmount v e related :=
  h.entries.sumWhere_eq (fun _ hx => decide_eq_true ((of_decide_eq_true hx).1.trans he))
    (fun _ hx => decide_eq_true ((of_decide_eq_true hx).1.trans he)) fun _ _ => rfl

theorem reversalAmount {e : Entry} (he : e.tenantId = t) :
    reversalAmount s e = reversalAmount v e :=
  h.entries.sumWhere_eq (fun _ hx => decide_eq_true ((of_decide_eq_true hx).1.trans he))
    (fun _ hx => decide_eq_true ((of_decide_eq_true hx).1.trans he)) fun _ _ => rfl

theorem originalLegs (holdId : Uuid) : s.originalLegs t holdId = v.originalLegs t holdId := by
  rw [Db.originalLegs, Db.originalLegs, h.holdEntries.filter_eq
    (fun _ he => decide_eq_true (of_decide_eq_true he).1)
    (fun _ he => decide_eq_true (of_decide_eq_true he).1) fun _ _ => rfl]

theorem postedLegs (holdId : Uuid) : s.postedLegs t holdId = v.postedLegs t holdId := by
  have hfilter := h.entries.filter_eq
    (p := fun e => decide (e.tenantId = t ∧
      (s.entryTransaction? e).any fun x => x.holdId = some holdId))
    (q := fun e => decide (e.tenantId = t ∧
      (v.entryTransaction? e).any fun x => x.holdId = some holdId))
    (fun _ he => decide_eq_true (of_decide_eq_true he).1)
    (fun _ he => decide_eq_true (of_decide_eq_true he).1) fun e he => by
      rw [h.entryTransaction? (of_decide_eq_true he)]
  rw [Db.postedLegs, Db.postedLegs, hfilter]

theorem holdTouchesGrants (holdId : Uuid) :
    s.holdTouchesGrants t holdId = v.holdTouchesGrants t holdId := by
  refine h.holdEntries.any_eq (fun _ he => decide_eq_true (of_decide_eq_true he).1)
    (fun _ he => decide_eq_true (of_decide_eq_true he).1) fun e he => ?_
  rw [of_decide_eq_true he, h.grantEnabled]

theorem tenantHold? (holdId : Uuid) : s.tenantHold? t holdId = v.tenantHold? t holdId :=
  h.hold? holdId fun _ hx => of_decide_eq_true hx

theorem grantsOfHold (holdId : Uuid) : s.grantsOfHold t holdId = v.grantsOfHold t holdId := by
  have hany : ∀ g : CreditGrant,
      (s.creditGrantHoldAllocations.any fun a => a.tenantId = t ∧ a.grantId = g.id ∧
          s.allocationHoldId a = some holdId) =
        v.creditGrantHoldAllocations.any fun a => a.tenantId = t ∧ a.grantId = g.id ∧
          v.allocationHoldId a = some holdId := fun g =>
    h.allocations.any_eq (fun _ ha => decide_eq_true (of_decide_eq_true ha).1)
      (fun _ ha => decide_eq_true (of_decide_eq_true ha).1) fun a ha => by
        rw [h.allocationHoldId (of_decide_eq_true ha)]
  simp only [Db.grantsOfHold, hany]
  rw [h.creditGrants.filter_eq (fun _ hg => ?_) (fun _ hg => ?_) fun _ _ => rfl] <;>
    exact decide_eq_true (of_decide_eq_true hg).1

end Sums

/-! ## Triggers -/

section Triggers

variable (h : SameTenant t s v)
include h

theorem linkedRows? {l : CreditGrantEntry} (hl : l.tenantId = t) :
    s.linkedRows? l = v.linkedRows? l := by
  simp only [Db.linkedRows?]
  rw [h.creditGrant? l.grantId fun g hg => (of_decide_eq_true hg).1.trans hl,
    h.entry? l.entryId fun e he => (of_decide_eq_true he).1.trans hl]
  refine Option.bind_congr fun g _ => Option.bind_congr fun e _ => ?_
  rw [h.transaction? e.transactionId fun x hx => (of_decide_eq_true hx).1.trans hl,
    h.account? e.accountId fun a ha => (of_decide_eq_true ha).1.trans hl]

theorem validateCreditGrantEntry {now : Timestamp} {l : CreditGrantEntry} (hl : l.tenantId = t) :
    validateCreditGrantEntry s now l = validateCreditGrantEntry v now l := by
  subst hl
  have hkind : ∀ linked, validateKind s now l linked = validateKind v now l linked := by
    intro linked
    simp only [validateKind, reversalLink, validateConsumption, validateCompensation,
      validateExpiration, validateRefund, h.latestMinor, h.activeCreditGrantReservation,
      h.holdConsumed, h.heldAllocation, h.transactionLineage, h.fundingCredit]
  rw [Schema.validateCreditGrantEntry, Schema.validateCreditGrantEntry, h.linkedRows? rfl]
  simp only [hkind]

theorem validateCreditGrantHoldAllocation {now : Timestamp} {a : CreditGrantHoldAllocation}
    (ha : a.tenantId = t) :
    validateCreditGrantHoldAllocation s now a = validateCreditGrantHoldAllocation v now a := by
  subst ha
  have hgrant : s.allocationGrant? a = v.allocationGrant? a :=
    h.creditGrant? a.grantId fun g hg => (of_decide_eq_true hg).1
  have hheld : s.heldEntry? a = v.heldEntry? a := by
    simp only [Db.heldEntry?]
    rw [h.allocationHoldEntry? rfl]
    refine Option.bind_congr fun he hmem => ?_
    rw [Option.filter_eq_some_iff, Db.allocationHoldEntry?, Option.filter_eq_some_iff] at hmem
    rw [h.holdEntryHold? (of_decide_eq_true hmem.1.2)]
  simp only [Schema.validateCreditGrantHoldAllocation, hgrant, hheld, h.latestMinor,
    h.activeCreditGrantReservation]

theorem requireGrantEnabledAccount {g : CreditGrant} (hg : g.tenantId = t) :
    requireGrantEnabledAccount s g = requireGrantEnabledAccount v g := by
  subst hg
  rw [Schema.requireGrantEnabledAccount, Schema.requireGrantEnabledAccount, h.grantEnabled]

theorem rejectExpiringGrantEnabledFunding {g : CreditGrant} (hg : g.tenantId = t) :
    rejectExpiringGrantEnabledFunding s g = rejectExpiringGrantEnabledFunding v g := by
  subst hg
  have hany := h.creditGrants.any_eq
    (p := fun x => decide (x.tenantId = g.tenantId ∧ x.accountId = g.fundingAccountId))
    (q := fun x => decide (x.tenantId = g.tenantId ∧ x.accountId = g.fundingAccountId))
    (fun _ hx => decide_eq_true (of_decide_eq_true hx).1)
    (fun _ hx => decide_eq_true (of_decide_eq_true hx).1) fun _ _ => rfl
  have hexists : (∃ x ∈ s.creditGrants, x.tenantId = g.tenantId ∧
        x.accountId = g.fundingAccountId) ↔
      ∃ x ∈ v.creditGrants, x.tenantId = g.tenantId ∧ x.accountId = g.fundingAccountId := by
    simpa [List.any_eq_true] using congrArg (· = true) hany
  simp only [Schema.rejectExpiringGrantEnabledFunding, hexists]

theorem rejectCreditGrantCapacityBaselineInsert (depth : Nat) {u : CreditGrantCapacityVersion}
    (hu : u.tenantId = t) :
    rejectCreditGrantCapacityBaselineInsert s depth u =
      rejectCreditGrantCapacityBaselineInsert v depth u := by
  subst hu
  have hfind : ∀ id, (s.creditGrantEntries.find? fun l => l.tenantId = u.tenantId ∧
        l.grantId = u.grantId ∧ l.entryId = id) =
      v.creditGrantEntries.find? fun l => l.tenantId = u.tenantId ∧
        l.grantId = u.grantId ∧ l.entryId = id := fun id =>
    h.creditGrantEntries.find?_eq (fun _ hl => decide_eq_true (of_decide_eq_true hl).1)
      (fun _ hl => decide_eq_true (of_decide_eq_true hl).1) fun _ _ => rfl
  rw [Schema.rejectCreditGrantCapacityBaselineInsert,
    Schema.rejectCreditGrantCapacityBaselineInsert]
  cases u.sourceEntryId with
  | none => rfl
  | some id =>
      simp only [h.activeCreditGrantReservation, hfind]
      cases hlineage : v.creditGrantEntries.find? fun l => l.tenantId = u.tenantId ∧
          l.grantId = u.grantId ∧ l.entryId = id with
      | none => rfl
      | some l =>
          have hl := List.find?_some hlineage
          rw [decide_eq_true_eq] at hl
          simp only [h.lineageHoldId hl.1]

theorem carriedVersion {l : CreditGrantEntry} (hl : l.tenantId = t) :
    carriedVersion s l = carriedVersion v l := by
  subst hl
  simp only [Schema.carriedVersion, h.latestMinor]

theorem assertGrantEntryAttributed {e : Entry} (he : e.tenantId = t) :
    assertGrantEntryAttributed s e = assertGrantEntryAttributed v e := by
  subst he
  simp only [Schema.assertGrantEntryAttributed, h.grantEnabled, h.attributedAmount rfl,
    h.entryTransaction? rfl, h.originalAmount rfl, h.reversalAmount rfl]

theorem assertGrantHoldConsistent (holdId : Uuid) :
    assertGrantHoldConsistent s t holdId = assertGrantHoldConsistent v t holdId := by
  simp only [Schema.assertGrantHoldConsistent, h.holdTouchesGrants, h.tenantHold?,
    h.originalLegs, h.postedLegs]

theorem checkPostingHold {e : Entry} (he : e.tenantId = t) :
    checkPostingHold s e = checkPostingHold v e := by
  subst he
  simp only [Schema.checkPostingHold, h.entryTransaction? rfl, h.assertGrantHoldConsistent]

theorem assertGrantCompensationComplete {l : CreditGrantEntry} (hl : l.tenantId = t) :
    assertGrantCompensationComplete s l = assertGrantCompensationComplete v l := by
  subst hl
  simp only [Schema.assertGrantCompensationComplete, h.lineageTransaction? rfl,
    h.transactionLineage]

theorem assertExpiredGrantCapacityRemoved {now : Timestamp} {l : CreditGrantEntry}
    (hl : l.tenantId = t) :
    assertExpiredGrantCapacityRemoved now s l = assertExpiredGrantCapacityRemoved now v l := by
  subst hl
  have hgrant := h.creditGrant? l.grantId (q := fun g => decide (g.tenantId = l.tenantId))
    fun g hg => of_decide_eq_true hg
  simp only [Schema.assertExpiredGrantCapacityRemoved, hgrant, h.latestMinor,
    h.activeCreditGrantReservation]

theorem assertGrantHoldAllocated {he : HoldEntry} (hhe : he.tenantId = t) :
    assertGrantHoldAllocated s he = assertGrantHoldAllocated v he := by
  subst hhe
  have hsum := h.allocations.sumWhere_eq (f := fun a => a.amountMinor)
    (p := fun a => decide (a.tenantId = he.tenantId ∧ a.holdEntryId = he.id))
    (q := fun a => decide (a.tenantId = he.tenantId ∧ a.holdEntryId = he.id))
    (fun _ ha => decide_eq_true (of_decide_eq_true ha).1)
    (fun _ ha => decide_eq_true (of_decide_eq_true ha).1) fun _ _ => rfl
  simp only [Schema.assertGrantHoldAllocated, h.grantEnabled, hsum]

theorem assertGrantAllocationTotal {a : CreditGrantHoldAllocation} (ha : a.tenantId = t) :
    assertGrantAllocationTotal s a = assertGrantAllocationTotal v a := by
  subst ha
  have hfilter := h.allocations.filter_eq
    (p := fun x => decide (x.tenantId = a.tenantId ∧ x.holdEntryId = a.holdEntryId))
    (q := fun x => decide (x.tenantId = a.tenantId ∧ x.holdEntryId = a.holdEntryId))
    (fun _ hx => decide_eq_true (of_decide_eq_true hx).1)
    (fun _ hx => decide_eq_true (of_decide_eq_true hx).1) fun _ _ => rfl
  simp only [Schema.assertGrantAllocationTotal, h.allocationHoldEntry? rfl, hfilter]

end Triggers

end SameTenant

end LuxLedger.Credit
