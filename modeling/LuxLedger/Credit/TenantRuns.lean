/-
  Credit/TenantRuns.lean --- a tenant as if it were alone in the database.

  Foreign keys and unique indexes are checked against whole tables, but a check that
  passes there passes on the rows of a tenant, as long as the rows of the tenant refer
  to rows of the tenant (`OwnReferences`).  So whatever other sessions commit in
  between, what a tenant sees after a run is what its own transactions leave when they
  run alone.
-/
import LuxLedger.Credit.RowSecurity

set_option autoImplicit false

namespace LuxLedger.Credit

open LuxLedger.Schema LuxLedger.Relational

/-! ## References within a tenant -/

/-- The rows of a tenant refer to rows of the tenant, in the columns whose foreign key has
no tenant in it. -/
structure OwnReferences (t : Uuid) (s : Db) : Prop where
  transactionHold : ∀ x ∈ s.transactions, x.tenantId = t →
    ∀ id ∈ x.holdId, ∀ h ∈ s.hold? id, h.tenantId = t
  relatedTransaction : ∀ x ∈ s.transactions, x.tenantId = t →
    ∀ id ∈ x.relatedTransactionId, ∀ x' ∈ s.transaction? id, x'.tenantId = t
  entryTransaction : ∀ e ∈ s.entries, e.tenantId = t →
    ∀ x ∈ s.transaction? e.transactionId, x.tenantId = t
  entryAccount : ∀ e ∈ s.entries, e.tenantId = t →
    ∀ a ∈ s.account? e.accountId, a.tenantId = t
  holdEntryHold : ∀ he ∈ s.holdEntries, he.tenantId = t →
    ∀ h ∈ s.hold? he.holdId, h.tenantId = t
  holdEntryAccount : ∀ he ∈ s.holdEntries, he.tenantId = t →
    ∀ a ∈ s.account? he.accountId, a.tenantId = t

/-- A row that refers within its tenant at the end did so before. -/
theorem OwnReferences.of_extends {t : Uuid} {s s' : Db} (h : Extends s s')
    (hs' : OwnReferences t s') : OwnReferences t s := by
  have hhold : ∀ {id : Uuid} {x : Hold}, x ∈ s.hold? id →
      (∀ x' ∈ s'.hold? id, x'.tenantId = t) → x.tenantId = t := fun hx hown => by
    obtain ⟨x', hx', hidentity, -⟩ := h.holds _ _ hx
    exact (congrArg HoldIdentity.tenantId hidentity).symm.trans (hown x' hx')
  constructor
  · intro x hx htenant id hid hold hhold'
    exact hhold hhold' (hs'.transactionHold x (h.transactions.subset hx) htenant id hid)
  · intro x hx htenant id hid x' hx'
    exact hs'.relatedTransaction x (h.transactions.subset hx) htenant id hid x' (h.transaction? hx')
  · intro e he htenant x hx
    exact hs'.entryTransaction e (h.entries.subset he) htenant x (h.transaction? hx)
  · intro e he htenant a ha
    exact hs'.entryAccount e (h.entries.subset he) htenant a (h.account? ha)
  · intro he hhe htenant hold hhold'
    exact hhold hhold' (hs'.holdEntryHold he (h.holdEntries.subset hhe) htenant)
  · intro he hhe htenant a ha
    exact hs'.holdEntryAccount he (h.holdEntries.subset hhe) htenant a (h.account? ha)

/-! ## Lookups and constraints on the rows of a tenant -/

section Constraints

variable {t : Uuid} {s : Db}

theorem sameTenant_ofTenant (hs : Keys s) : SameTenant t s (ofTenant t s) where
  accounts := .of_filter fun _ h => h
  transactions := .of_filter fun _ h => h
  entries := .of_filter fun _ h => h
  creditGrants := .of_filter fun _ h => h
  creditGrantEntries := .of_filter fun _ h => h
  holds := .of_filter fun _ h => h
  holdEntries := .of_filter fun _ h => h
  allocations := .of_filter fun _ h => h
  versions := .of_filter fun _ h => h
  keys := hs
  keys' := hs.ofTenant t

/-- A reference that is found, and found within the tenant. -/
theorem isSome_of_own {α : Type} {key : α → Uuid} {tenantOf : α → Uuid} {rows : List α} {id : Uuid}
    (hfound : (lookup key rows id).isSome) (hown : ∀ r ∈ lookup key rows id, tenantOf r = t) :
    (lookup key (rows.filter fun r => tenantOf r = t) id).isSome := by
  obtain ⟨r, hr⟩ := Option.isSome_iff_exists.mp hfound
  rw [AgreeOn.lookup_filter_of_part hr (decide_eq_true (hown r hr))]
  rfl

/-- A reference whose foreign key names the tenant. -/
theorem any_of_own {α : Type} {key : α → Uuid} {tenantOf : α → Uuid} {rows : List α} {id : Uuid}
    {q : α → Bool} (hq : ∀ r, q r = true → tenantOf r = t)
    (hfound : (lookup key rows id).any q = true) :
    (lookup key (rows.filter fun r => tenantOf r = t) id).any q = true := by
  obtain ⟨r, hr, hqr⟩ := (Option.any_eq_true _ _).mp hfound
  rw [AgreeOn.lookup_filter_of_part hr (decide_eq_true (hq r hqr))]
  exact hqr

/-- What no row of a table has no row of the tenant has. -/
theorem forall_of_own {α : Type} {tenantOf : α → Uuid} {rows : List α} {p : α → Prop}
    (h : ∀ r ∈ rows, p r) : ∀ r ∈ rows.filter fun r => tenantOf r = t, p r :=
  fun r hr => h r (List.mem_filter.mp hr).1

theorem hasAsset_own {assetId : Uuid} (h : s.hasAsset t assetId = true) :
    (ofTenant t s).hasAsset t assetId = true :=
  any_of_own (fun _ ha => of_decide_eq_true ha) h

theorem hasAccount_own {ledgerId accountId : Uuid} (h : s.hasAccount t ledgerId accountId = true) :
    (ofTenant t s).hasAccount t ledgerId accountId = true :=
  any_of_own (fun _ ha => (of_decide_eq_true ha).1) h

theorem checkAsset_own {new : Asset} (h : checkAsset s new = .ok ()) :
    checkAsset (ofTenant t s) new = .ok () := by
  simp only [checkAsset, bind_eq_ok_iff, require_eq_ok_iff, exists_const] at h ⊢
  obtain ⟨hcode, hscale, hid, hunique⟩ := h
  exact ⟨hcode, hscale, forall_of_own hid, forall_of_own hunique⟩

theorem checkAccount_own {new : Account} (hnew : new.tenantId = t)
    (h : checkAccount s new = .ok ()) : checkAccount (ofTenant t s) new = .ok () := by
  subst hnew
  simp only [checkAccount, bind_eq_ok_iff, require_eq_ok_iff, exists_const] at h ⊢
  obtain ⟨hshape, hid, hasset⟩ := h
  exact ⟨hshape, forall_of_own hid, hasAsset_own hasset⟩

theorem checkTransaction_own {new : Transaction} (hnew : new.tenantId = t)
    (hhold : ∀ id ∈ new.holdId, ∀ h ∈ s.hold? id, h.tenantId = t)
    (h : checkTransaction s new = .ok ()) : checkTransaction (ofTenant t s) new = .ok () := by
  subst hnew
  simp only [checkTransaction, bind_eq_ok_iff, require_eq_ok_iff, exists_const] at h ⊢
  obtain ⟨hpair, hid, hrelation, hfound, hasset⟩ := h
  exact ⟨hpair, forall_of_own hid, fun hrelated => forall_of_own (hrelation hrelated),
    fun id hmem => isSome_of_own (hfound id hmem) (hhold id hmem), hasAsset_own hasset⟩

theorem checkRelatedTransaction_own {new : Transaction}
    (hrelated : ∀ id ∈ new.relatedTransactionId, ∀ x ∈ s.transaction? id, x.tenantId = t)
    (h : checkRelatedTransaction s new = .ok ()) :
    checkRelatedTransaction (ofTenant t s) new = .ok () := by
  rw [checkRelatedTransaction, require_eq_ok_iff] at h ⊢
  exact fun id hmem => isSome_of_own (h id hmem) (hrelated id hmem)

theorem checkEntry_own {new : Entry} (hnew : new.tenantId = t)
    (htransaction : ∀ x ∈ s.transaction? new.transactionId, x.tenantId = t)
    (haccount : ∀ a ∈ s.account? new.accountId, a.tenantId = t)
    (h : checkEntry s new = .ok ()) : checkEntry (ofTenant t s) new = .ok () := by
  subst hnew
  simp only [checkEntry, bind_eq_ok_iff, require_eq_ok_iff, exists_const] at h ⊢
  obtain ⟨hamount, hid, hfound, hfound', hasset⟩ := h
  exact ⟨hamount, forall_of_own hid, isSome_of_own hfound htransaction,
    isSome_of_own hfound' haccount, hasAsset_own hasset⟩

theorem checkHoldEntry_own {new : HoldEntry} (hnew : new.tenantId = t)
    (hhold : ∀ h ∈ s.hold? new.holdId, h.tenantId = t)
    (haccount : ∀ a ∈ s.account? new.accountId, a.tenantId = t)
    (h : checkHoldEntry s new = .ok ()) : checkHoldEntry (ofTenant t s) new = .ok () := by
  subst hnew
  simp only [checkHoldEntry, bind_eq_ok_iff, require_eq_ok_iff, exists_const] at h ⊢
  obtain ⟨hamount, hid, hfound, hfound', hasset⟩ := h
  exact ⟨hamount, forall_of_own hid, isSome_of_own hfound hhold,
    isSome_of_own hfound' haccount, hasAsset_own hasset⟩

theorem checkHoldInsert_own {new : Hold} (hnew : new.tenantId = t)
    (h : checkHoldInsert s new = .ok ()) : checkHoldInsert (ofTenant t s) new = .ok () := by
  subst hnew
  simp only [checkHoldInsert, bind_eq_ok_iff, require_eq_ok_iff, exists_const] at h ⊢
  obtain ⟨u, hguard, u', hcheck, hid, hreference, hasset⟩ := h
  exact ⟨u, hguard, u', hcheck, forall_of_own hid, forall_of_own hreference, hasAsset_own hasset⟩

section Validated

variable (hs : Keys s) {now : Timestamp}
include hs

theorem checkCreditGrant_own {new : CreditGrant} (hnew : new.tenantId = t)
    (h : checkCreditGrant s new = .ok ()) : checkCreditGrant (ofTenant t s) new = .ok () := by
  subst hnew
  have hsame := sameTenant_ofTenant (t := new.tenantId) hs
  simp only [checkCreditGrant, bind_eq_ok_iff, require_eq_ok_iff, exists_const,
    hsame.requireGrantEnabledAccount rfl, hsame.rejectExpiringGrantEnabledFunding rfl] at h ⊢
  obtain ⟨u, henabled, u', hfunding, haccounts, hid, htransaction, haccount, hfundingAccount,
    hissuing⟩ := h
  exact ⟨u, henabled, u', hfunding, haccounts, forall_of_own hid, forall_of_own htransaction,
    hasAccount_own haccount, hasAccount_own hfundingAccount,
    any_of_own (fun _ hx => (of_decide_eq_true hx).1) hissuing⟩

theorem checkCreditGrantEntry_own {new : CreditGrantEntry} (hnew : new.tenantId = t)
    (h : checkCreditGrantEntry now s new = .ok ()) :
    checkCreditGrantEntry now (ofTenant t s) new = .ok () := by
  subst hnew
  have hsame := sameTenant_ofTenant (t := new.tenantId) hs
  simp only [checkCreditGrantEntry, bind_eq_ok_iff, require_eq_ok_iff, exists_const,
    hsame.validateCreditGrantEntry rfl] at h ⊢
  obtain ⟨u, hvalid, hamount, hid, hissuance, hreversal, hgrant, hentry⟩ := h
  exact ⟨u, hvalid, hamount, forall_of_own hid, fun hkind => forall_of_own (hissuance hkind),
    fun hkind => forall_of_own (hreversal hkind),
    any_of_own (fun _ hg => (of_decide_eq_true hg).1) hgrant,
    any_of_own (fun _ he => (of_decide_eq_true he).1) hentry⟩

theorem checkAllocation_own {new : CreditGrantHoldAllocation} (hnew : new.tenantId = t)
    (h : checkCreditGrantHoldAllocation now s new = .ok ()) :
    checkCreditGrantHoldAllocation now (ofTenant t s) new = .ok () := by
  subst hnew
  have hsame := sameTenant_ofTenant (t := new.tenantId) hs
  have hgrant : s.allocationGrant? new = (ofTenant new.tenantId s).allocationGrant? new :=
    hsame.creditGrant? _ fun _ hg => (of_decide_eq_true hg).1
  simp only [checkCreditGrantHoldAllocation, bind_eq_ok_iff, require_eq_ok_iff, exists_const,
    hsame.validateCreditGrantHoldAllocation rfl, hgrant, hsame.allocationHoldEntry? rfl] at h ⊢
  obtain ⟨u, hvalid, hamount, hid, hunique, hfound, hfound'⟩ := h
  exact ⟨u, hvalid, hamount, forall_of_own hid, forall_of_own hunique, hfound, hfound'⟩

/-- A version whose sources the tenant has. -/
theorem insertCapacityVersion_own {depth : Nat} {new : CreditGrantCapacityVersion} {s' : Db}
    (hnew : new.tenantId = t)
    (hallocation : ∀ id ∈ new.sourceAllocationId, ((ofTenant t s).allocation? id).isSome)
    (hhold : ∀ id ∈ new.sourceHoldId, ((ofTenant t s).hold? id).isSome)
    (h : insertCapacityVersion depth s new = .ok s') :
    insertCapacityVersion depth (ofTenant t s) new = .ok (ofTenant t s') := by
  simp only [insertCapacityVersion, bind_eq_ok_iff] at h ⊢
  obtain ⟨row, hrow, u, hcheck, u', hunique, u'', hforeign, hstore⟩ := h
  rw [(sameTenant_ofTenant hs).rejectCreditGrantCapacityBaselineInsert depth hnew] at hrow
  obtain ⟨-, ⟨reserved, rfl⟩, hlineage⟩ := rejectBaseline_ok hrow
  refine ⟨_, hrow, u, hcheck, (), ?_, (), ?_, ?_⟩
  · simp only [uniqueCapacityVersion, bind_eq_ok_iff, require_eq_ok_iff, exists_const]
      at hunique ⊢
    obtain ⟨hversion, hentry, hsource, hsource'⟩ := hunique
    exact ⟨forall_of_own hversion, fun hsome => forall_of_own (hentry hsome),
      fun hsome => forall_of_own (hsource hsome), fun hsome => forall_of_own (hsource' hsome)⟩
  · simp only [foreignKeysCapacityVersion, bind_eq_ok_iff, require_eq_ok_iff, exists_const]
      at hforeign ⊢
    obtain ⟨hgrant, -⟩ := hforeign
    refine ⟨any_of_own (fun _ hg => (of_decide_eq_true hg).1.trans hnew) hgrant, fun hsome => ?_,
      hallocation, hhold⟩
    obtain ⟨id, hid⟩ := Option.isSome_iff_exists.mp hsome
    obtain ⟨l, hl, -, hgrant', hentry⟩ := hlineage id hid
    exact ⟨l, hl, hgrant', hentry ▸ hid.symm⟩
  · rw [← Except.ok.inj hstore, ofTenant_addCapacityVersion, if_pos hnew]

theorem appendReservation_own {depth : Nat} {g : Uuid} {delta : Int}
    {allocationId holdId : Option Uuid} {s' : Db}
    (hallocation : ∀ id ∈ allocationId, ((ofTenant t s).allocation? id).isSome)
    (hhold : ∀ id ∈ holdId, ((ofTenant t s).hold? id).isSome)
    (h : appendCreditGrantReservationVersion depth s t g delta allocationId holdId = .ok s') :
    appendCreditGrantReservationVersion depth (ofTenant t s) t g delta allocationId holdId =
      .ok (ofTenant t s') := by
  simp only [appendCreditGrantReservationVersion, bind_eq_ok_iff] at h ⊢
  obtain ⟨u, hdepth, h⟩ := h
  rw [(sameTenant_ofTenant hs).latestVersion] at h
  refine ⟨u, hdepth, ?_⟩
  cases hlatest : (ofTenant t s).latestVersion t g with
  | none =>
      rw [hlatest] at h
      cases h
  | some latest =>
      rw [hlatest] at h
      have hmem := (List.mem_filter.mp (latestBy_mem hlatest)).2
      rw [decide_eq_true_eq] at hmem
      exact insertCapacityVersion_own hs hmem.1 hallocation hhold h

theorem releaseGrantHoldReservations_own {old new : Hold} {s' : Db} (hold : old.tenantId = t)
    (hfound : s.hold? old.id = some old)
    (h : releaseGrantHoldReservations s old new = .ok s') :
    releaseGrantHoldReservations (ofTenant t s) old new = .ok (ofTenant t s') := by
  subst hold
  have hsame := sameTenant_ofTenant (t := old.tenantId) hs
  have hany : (s.creditGrantHoldAllocations.any fun a =>
        a.tenantId = old.tenantId ∧ s.allocationHoldId a = some old.id) =
      (ofTenant old.tenantId s).creditGrantHoldAllocations.any fun a =>
        a.tenantId = old.tenantId ∧
          (ofTenant old.tenantId s).allocationHoldId a = some old.id :=
    hsame.allocations.any_eq (fun _ ha => decide_eq_true (of_decide_eq_true ha).1)
      (fun _ ha => decide_eq_true (of_decide_eq_true ha).1) fun a ha => by
        rw [hsame.allocationHoldId (of_decide_eq_true ha)]
  rw [releaseGrantHoldReservations, hany, hsame.grantsOfHold] at h
  rw [releaseGrantHoldReservations]
  split at h
  · next hnone => rw [if_pos hnone, Except.ok.inj h]
  · next hsome =>
    rw [if_neg hsome]
    split at h
    · next hstate => rw [if_pos hstate, Except.ok.inj h]
    · next hstate =>
      rw [if_neg hstate]
      -- the hold stays in view while its grants are released
      refine (foldlM_view (P := fun mid => Keys mid ∧ mid.hold? old.id = some old)
        (Q := fun _ => True) (fun grant _ s₁ s₂ hgrant hP => ?_)
        (fun grant _ s₁ s₂ hP hgrant _ => ⟨trivial, ?_⟩) h ⟨hs, hfound⟩ trivial).2
      · obtain ⟨hsteps, versions, rfl⟩ := releaseGrant_step hgrant
        exact ⟨(hsteps 0).keys hP.1, hP.2⟩
      · have hsame₁ := sameTenant_ofTenant (t := old.tenantId) hP.1
        have hseen : ((ofTenant old.tenantId s₁).hold? old.id).isSome := by
          rw [Db.hold?, ofTenant, AgreeOn.lookup_filter_of_part hP.2 (decide_eq_true rfl)]
          rfl
        simp only [releaseGrant, bind_eq_ok_iff, hsame₁.holdAllocated, hsame₁.holdConsumed]
          at hgrant ⊢
        obtain ⟨u, hguard, hgrant⟩ := hgrant
        refine ⟨u, hguard, ?_⟩
        split at hgrant
        · next hmore =>
          rw [if_pos hmore]
          refine appendReservation_own hP.1 (fun _ hid => by cases hid) ?_ hgrant
          rintro id ⟨⟩
          exact hseen
        · next hless => rw [if_neg hless, Except.ok.inj hgrant]

theorem updateHold_own {change : Uuid × Hold} {s' : Db} (hnew : change.2.tenantId = t)
    (h : updateHold s change = .ok s') :
    updateHold (ofTenant t s) change = .ok (ofTenant t s') := by
  obtain ⟨id, new⟩ := change
  obtain ⟨old, released, hfound, hid, hid', htransition, hreleased, -, -⟩ := updateHold_ok h
  obtain ⟨old', hguard, hfound', released', hreleased', hcheck, rfl⟩ := updateHold_eq_ok_iff.mp h
  obtain rfl := Option.some.inj (hfound.symm.trans hfound')
  have hold : old.tenantId = new.tenantId :=
    (congrArg HoldIdentity.tenantId htransition.identity).symm
  subst hid
  have hseen : (ofTenant t s).hold? old.id = some old :=
    AgreeOn.lookup_filter_of_part hfound (decide_eq_true (hold.trans hnew))
  have hstored := releaseGrantHoldReservations_own hs (hold.trans hnew) hfound hreleased'
  refine updateHold_eq_ok_iff.mpr ⟨old, hguard, hseen, _, hstored, hcheck, ?_⟩
  obtain ⟨hsteps, versions, rfl⟩ := releaseGrantHoldReservations_step hreleased'
  have hview := ofTenant_replaceHold (t := t)
    (s := { s with creditGrantCapacityVersions := versions }) { hs with } (hid'.symm ▸ hfound) hold
  rw [if_pos hnew] at hview
  exact hview.symm

end Validated

end Constraints

/-! ## Statements of the tenant on its own rows -/

section Statements

variable {t : Uuid} {s s' : Db}

/-- An INSERT of the tenant on its own rows. -/
theorem insertEach_own {ρ : Type} {check : Db → ρ → Except SqlError Unit} {put : Db → ρ → Db}
    {rows : List ρ} (now : Timestamp) (hstep : ∀ s r, check s r = .ok () → RowStep now s (put s r))
    (hcheck : ∀ s, ∀ r ∈ rows, Keys s → OwnReferences t (put s r) → check s r = .ok () →
      check (ofTenant t s) r = .ok ())
    (hput : ∀ s, ∀ r ∈ rows, ofTenant t (put s r) = put (ofTenant t s) r)
    (hs : Keys s) (hown : OwnReferences t s') (h : insertEach check put rows s = .ok s') :
    insertEach check put rows (ofTenant t s) = .ok (ofTenant t s') :=
  (insertEach_view (P := Keys) (Q := OwnReferences t)
    (fun s r _ hkeys hr => (hstep s r hr).keys hkeys)
    (fun s r hr hkeys hchecked hrefers => ⟨hrefers.of_extends (hstep s r hchecked).extends,
      hcheck s r hr hkeys hrefers hchecked, hput s r hr⟩) h hs hown).2

/-- A direct write that selects no version selects none of the tenant. -/
theorem rejectCreditGrantMutation_own {targets : List (Uuid × Int)}
    (h : rejectCreditGrantMutation targets s = .ok s') :
    rejectCreditGrantMutation targets (ofTenant t s) = .ok (ofTenant t s') := by
  obtain rfl := rejectCreditGrantMutation_ok h
  unfold rejectCreditGrantMutation at h ⊢
  split at h
  · cases h
  · next hnone =>
    rw [if_neg]
    intro hany
    obtain ⟨u, hu, hnamed⟩ := List.any_eq_true.mp hany
    exact hnone (List.any_eq_true.mpr ⟨u, (List.mem_filter.mp hu).1, hnamed⟩)

/-- A statement of the tenant is accepted on its own rows, and does there what it does
to them in the whole database. -/
theorem exec_own {stmt : Statement} {now : Timestamp} (hs : Keys s) (hstmt : OfTenant t stmt)
    (hown : OwnReferences t s') (h : stmt.exec now s = .ok s') :
    stmt.exec now (ofTenant t s) = .ok (ofTenant t s') := by
  cases stmt with
  | insertAssets rows =>
      refine insertEach_own now (fun _ _ => .asset) (fun s r hr _ _ => checkAsset_own)
        (fun s r hr => ?_) hs hown h
      rw [ofTenant_addAsset, if_pos (OfTenant.row hstmt hr)]
  | insertAccounts rows =>
      refine insertEach_own now (fun _ _ => .account)
        (fun s r hr _ _ => checkAccount_own (OfTenant.row hstmt hr)) (fun s r hr => ?_) hs hown h
      rw [ofTenant_addAccount, if_pos (OfTenant.row hstmt hr)]
  | insertTransactions rows =>
      obtain ⟨hstored, hrelated⟩ := insertTransactions_ok h
      have hinserted := exec_inserted h
      simp only [Statement.exec, bind_eq_ok_iff, checkEach_eq_ok_iff]
      refine ⟨ofTenant t s', insertEach_own now (fun _ _ => .transaction)
        (fun s r hr _ hrefers => checkTransaction_own (OfTenant.row hstmt hr)
          (hrefers.transactionHold r (List.mem_append_right _ List.mem_cons_self)
            (OfTenant.row hstmt hr)))
        (fun s r hr => ?_) hs hown hstored, (), fun r hr => ?_, rfl⟩
      · rw [ofTenant_addTransaction, if_pos (OfTenant.row hstmt hr)]
      · refine checkRelatedTransaction_own (hown.relatedTransaction r ?_ (OfTenant.row hstmt hr))
          (hrelated r hr)
        rw [hinserted.transactions]
        exact List.mem_append_right _ hr
  | insertEntries rows =>
      refine insertEach_own now (fun _ _ => .entry) (fun s r hr _ hrefers => ?_) (fun s r hr => ?_)
        hs hown h
      · have hmem : r ∈ (s.addEntry r).entries := List.mem_append_right _ List.mem_cons_self
        exact checkEntry_own (OfTenant.row hstmt hr)
          (hrefers.entryTransaction r hmem (OfTenant.row hstmt hr))
          (hrefers.entryAccount r hmem (OfTenant.row hstmt hr))
      · rw [ofTenant_addEntry, if_pos (OfTenant.row hstmt hr)]
  | insertCreditGrants rows =>
      refine insertEach_own now (fun _ _ => .creditGrant)
        (fun s r hr hkeys _ => checkCreditGrant_own hkeys (OfTenant.row hstmt hr))
        (fun s r hr => ?_) hs hown h
      rw [ofTenant_addCreditGrant, if_pos (OfTenant.row hstmt hr)]
  | insertCreditGrantEntries rows =>
      obtain ⟨stored, hstored, hafter⟩ := insertRows_eq_ok_iff.mp h
      have hsteps : RowSteps now stored s' :=
        foldlM_steps (fun _ _ _ _ hrow => (insertCapacityVersion_step hrow).1 now) hafter
      have hkeys : Keys stored :=
        RowSteps.keys (insertEach_steps (fun _ _ _ hcheck => .creditGrantEntry hcheck) hstored) hs
      refine insertRows_eq_ok_iff.mpr ⟨ofTenant t stored,
        insertEach_own now (fun _ _ => .creditGrantEntry)
          (fun s r hr hkeys _ => checkCreditGrantEntry_own hkeys (OfTenant.row hstmt hr))
          (fun s r hr => ?_) hs (hown.of_extends hsteps.extends) hstored,
        (foldlM_view (P := Keys) (Q := fun _ => True)
          (fun r _ s s' hrow => RowSteps.keys ((insertCapacityVersion_step hrow).1 now))
          (fun r hr s s' hkeys hrow _ => ⟨trivial, ?_⟩) hafter hkeys trivial).2⟩
      · rw [ofTenant_addCreditGrantEntry, if_pos (OfTenant.row hstmt hr)]
      · have hr' : r.tenantId = t := OfTenant.row hstmt hr
        have hview := insertCapacityVersion_own hkeys ((move_tenantId ..).trans hr')
          (fun id hid => by rw [move_sourceAllocationId] at hid; cases hid)
          (fun id hid => by rw [move_sourceHoldId] at hid; cases hid) hrow
        rw [(sameTenant_ofTenant hkeys).carriedVersion hr'] at hview
        exact hview
  | insertHolds rows =>
      refine insertEach_own now (fun _ _ => .hold)
        (fun s r hr _ _ => checkHoldInsert_own (OfTenant.row hstmt hr))
        (fun s r hr => ?_) hs hown h
      rw [ofTenant_addHold, if_pos (OfTenant.row hstmt hr)]
  | insertHoldEntries rows =>
      refine insertEach_own now (fun _ _ => .holdEntry) (fun s r hr _ hrefers => ?_)
        (fun s r hr => ?_) hs hown h
      · have hmem : r ∈ (s.addHoldEntry r).holdEntries :=
          List.mem_append_right _ List.mem_cons_self
        exact checkHoldEntry_own (OfTenant.row hstmt hr)
          (hrefers.holdEntryHold r hmem (OfTenant.row hstmt hr))
          (hrefers.holdEntryAccount r hmem (OfTenant.row hstmt hr))
      · rw [ofTenant_addHoldEntry, if_pos (OfTenant.row hstmt hr)]
  | insertCreditGrantHoldAllocations rows =>
      obtain ⟨stored, hstored, hafter⟩ := insertRows_eq_ok_iff.mp h
      have hsteps : RowSteps now stored s' := foldlM_steps
        (fun _ _ _ _ hrow => (appendCreditGrantReservationVersion_step hrow).1 now) hafter
      have hkeys : Keys stored :=
        RowSteps.keys (insertEach_steps (fun _ _ _ hcheck => .allocation hcheck) hstored) hs
      have hin : ∀ r ∈ rows, r ∈ stored.creditGrantHoldAllocations := fun r hr => by
        rw [insertEach_store (Statement.store ∘ .insertCreditGrantHoldAllocations)
          (by simp [Statement.store]) (by simp [Statement.store, Db.addCreditGrantHoldAllocation])
          hstored]
        exact List.mem_append_right _ hr
      refine insertRows_eq_ok_iff.mpr ⟨ofTenant t stored,
        insertEach_own now (fun _ _ => .allocation)
          (fun s r hr hkeys _ => checkAllocation_own hkeys (OfTenant.row hstmt hr))
          (fun s r hr => ?_) hs (hown.of_extends hsteps.extends) hstored,
        (foldlM_view
          (P := fun mid => Keys mid ∧ ∀ r ∈ rows, r ∈ mid.creditGrantHoldAllocations)
          (Q := fun _ => True) (fun r _ s s' hrow hP => ?_)
          (fun r hr s s' hP hrow _ => ⟨trivial, ?_⟩) hafter ⟨hkeys, hin⟩ trivial).2⟩
      · rw [ofTenant_addAllocation, if_pos (OfTenant.row hstmt hr)]
      · obtain ⟨hmoved, versions, rfl⟩ := appendCreditGrantReservationVersion_step hrow
        exact ⟨(hmoved now).keys hP.1, hP.2⟩
      · have hr' : r.tenantId = t := OfTenant.row hstmt hr
        rw [appendGrantAllocationReservation] at hrow ⊢
        rw [hr'] at hrow ⊢
        refine appendReservation_own hP.1 ?_ (fun _ hid => by cases hid) hrow
        rintro id ⟨⟩
        rw [Db.allocation?, lookup_key (hP.1.ofTenant t).allocations
          (List.mem_filter.mpr ⟨hP.2 r hr, decide_eq_true hr'⟩)]
        rfl
  | updateHolds changes =>
      refine (foldlM_view (P := Keys) (Q := fun _ => True) (fun change _ s s' hchange => ?_)
        (fun change hchange s s' hkeys hupdate _ => ⟨trivial, ?_⟩) h hs trivial).2
      · have hsteps : RowSteps now s s' := updateHold_steps hchange
        exact hsteps.keys
      · exact updateHold_own hkeys (hstmt _ (List.mem_map_of_mem hchange)) hupdate
  | insertCapacityVersions rows =>
      cases rows with
      | nil =>
          obtain rfl := Except.ok.inj h
          rfl
      | cons r rest =>
          obtain ⟨mid, hr, -⟩ := foldlM_cons_eq_ok_iff.mp h
          obtain ⟨e, he⟩ := insertCapacityVersion_direct s r
          cases he.symm.trans hr
  | updateCapacityVersions targets => exact rejectCreditGrantMutation_own h
  | deleteCapacityVersions targets => exact rejectCreditGrantMutation_own h

end Statements

/-! ## Runs of many sessions -/

/-- The session of a tenant. -/
def tenantSession (t : Uuid) : SessionRole := ⟨false, false, some t⟩

theorem confined_tenantSession (t : Uuid) : Confined (tenantSession t) t := ⟨rfl, rfl, rfl⟩

/-- A tenant and the transaction that its session commits. -/
def commitSession (s : Db) (x : Uuid × DbTransaction) : Except SqlError Db :=
  commitAs (tenantSession x.1) s x.2

/-- The state after what the sessions of tenants have committed. -/
def replaySessions (log : List (Uuid × DbTransaction)) : Except SqlError Db :=
  run commitSession Db.empty log

section Sessions

variable {role : SessionRole} {t : Uuid} (hrole : Confined role t) {now : Timestamp} {s s' : Db}
include hrole

theorem visible_of_confined : s.visible role = ofTenant t s := by
  simp only [Db.visible, ofTenant, hrole.sees]

/-- A statement of a confined session does what it does without row-level security, or, a
direct write that selects no version in sight, nothing. -/
theorem execAs_or_nothing {stmt : Statement} (hs : Keys s)
    (h : stmt.execAs role now s = .ok s') : stmt.exec now s = .ok s' ∨ s' = s := by
  have hreject : ∀ targets : List (Uuid × Int),
      rejectCreditGrantMutationAs role targets s = .ok s' → s' = s := fun targets hdone => by
    obtain ⟨-, -, hstore⟩ := bind_eq_ok_iff.mp hdone
    exact (Except.ok.inj hstore).symm
  cases stmt with
  | updateCapacityVersions targets => exact .inr (hreject targets h)
  | deleteCapacityVersions targets => exact .inr (hreject targets h)
  | _ =>
      exact .inl ((execAs_ok_iff hrole.tenant hs (hrole.ofTenant h)
        fun _ _ hnamed => absurd hnamed List.not_mem_nil).mp h)

theorem execAs_steps {stmt : Statement} (hs : Keys s) (h : stmt.execAs role now s = .ok s') :
    RowSteps now s s' ∧ OthersUnchanged t s s' := by
  rcases execAs_or_nothing hrole hs h with hexec | rfl
  · exact ⟨exec_steps hexec, exec_others hs (hrole.ofTenant h) hexec⟩
  · exact ⟨.refl, .refl t _⟩

/-- A statement of a confined session on the rows of its tenant. -/
theorem execAs_own {stmt : Statement} (hs : Keys s) (hown : OwnReferences t s')
    (h : stmt.execAs role now s = .ok s') :
    stmt.exec now (ofTenant t s) = .ok (ofTenant t s') := by
  have hreject : ∀ targets : List (Uuid × Int),
      rejectCreditGrantMutationAs role targets s = .ok s' →
        rejectCreditGrantMutation targets (ofTenant t s) = .ok (ofTenant t s') :=
    fun targets hdone => by
      obtain ⟨seen, hseen, hstore⟩ := bind_eq_ok_iff.mp hdone
      obtain rfl := Except.ok.inj hstore
      rw [visible_of_confined hrole] at hseen
      rw [hseen, rejectCreditGrantMutation_ok hseen]
  cases stmt with
  | updateCapacityVersions targets => exact hreject targets h
  | deleteCapacityVersions targets => exact hreject targets h
  | _ =>
      exact exec_own hs (hrole.ofTenant h) hown ((execAs_ok_iff hrole.tenant hs
        (hrole.ofTenant h) fun _ _ hnamed => absurd hnamed List.not_mem_nil).mp h)

theorem commitAs_steps {tx : DbTransaction} (hs : Keys s) (h : commitAs role s tx = .ok s') :
    RowSteps tx.now s s' ∧ OthersUnchanged t s s' := by
  refine (foldlM_preserves
    (P := fun mid => Keys mid ∧ RowSteps tx.now s mid ∧ OthersUnchanged t s mid)
    (fun stmt _ s₁ s₂ hexec hP => ?_) (commitAs_eq_ok_iff.mp h).1 ⟨hs, .refl, .refl t s⟩).2
  obtain ⟨hsteps, hothers⟩ := execAs_steps hrole hP.1 hexec
  exact ⟨hsteps.keys hP.1, hP.2.1.trans hsteps, hP.2.2.trans hothers⟩

/-- What a confined session commits is committed on the rows of its tenant alone. -/
theorem commitAs_own {tx : DbTransaction} (hs : Keys s) (hown : OwnReferences t s')
    (h : commitAs role s tx = .ok s') : commit (ofTenant t s) tx = .ok (ofTenant t s') := by
  obtain ⟨hexec, hdeferred⟩ := commitAs_eq_ok_iff.mp h
  rw [visible_of_confined hrole] at hdeferred
  refine commit_eq_ok_iff.mpr ⟨?_, hdeferred⟩
  refine (foldlM_view (P := Keys) (Q := OwnReferences t) (fun stmt _ s₁ s₂ hstep hkeys => ?_)
    (fun stmt _ s₁ s₂ hkeys hstep hrefers => ?_) hexec hs hown).2
  · exact (execAs_steps hrole hkeys hstep).1.keys hkeys
  · exact ⟨hrefers.of_extends (execAs_steps hrole hkeys hstep).1.extends,
      execAs_own hrole hkeys hrefers hstep⟩

end Sessions

/-- However the sessions of tenants are interleaved, a tenant sees at the end what its own
transactions leave when they run alone on a fresh database: no other tenant's work makes
them fail, succeed or end differently.  The rows of the tenant have to refer to its own rows
where a foreign key leaves the tenant out. -/
theorem tenant_alone {log : List (Uuid × DbTransaction)} {s : Db} {t : Uuid}
    (h : replaySessions log = .ok s) (hown : OwnReferences t s) :
    replay ((log.filter fun x => x.1 = t).map (·.2)) = .ok (ofTenant t s) := by
  let alone : Db → Uuid × DbTransaction → Except SqlError Db := fun s x => commit s x.2
  have hrun : OwnReferences t Db.empty ∧
      (log.filter fun x => x.1 = t).foldlM alone (ofTenant t Db.empty) = .ok (ofTenant t s) :=
    foldlM_filter_view (ofTenant t) (fun x => decide (x.1 = t)) (P := Keys)
      (Q := OwnReferences t) (fun x _ s s' hx hkeys => ?_)
      (fun x _ hx s s' hkeys hcommit hrefers => ?_)
      (fun x _ hx s s' hkeys hcommit hrefers => ?_) h Keys.empty hown
  · rw [replay, run, List.foldlM_map]
    exact hrun.2
  · exact (commitAs_steps (confined_tenantSession x.1) hkeys hx).1.keys hkeys
  · have hsteps := (commitAs_steps (confined_tenantSession x.1) hkeys hcommit).1
    refine ⟨hrefers.of_extends hsteps.extends, ?_⟩
    obtain rfl := of_decide_eq_true hx
    exact commitAs_own (confined_tenantSession x.1) hkeys hrefers hcommit
  · have hsteps := commitAs_steps (confined_tenantSession x.1) hkeys hcommit
    refine ⟨hrefers.of_extends hsteps.1.extends, hsteps.2 t fun heq => ?_⟩
    exact of_decide_eq_false hx heq.symm

/-- Two tenants: one issues a grant and reserves from it, the other opens accounts and
posts between them. -/
def interleaved : List (Uuid × DbTransaction) :=
  [(1, ⟨0, Sample.accounts⟩),
    (2, ⟨1, [.insertAssets [⟨2, 2, "EUR", 2⟩],
      .insertAccounts [⟨20, 2, 7, .debit, .allow, 2, false⟩,
        ⟨21, 2, 7, .credit, .allow, 2, false⟩]]⟩),
    (1, ⟨2, Sample.issuance 0 none⟩),
    (2, ⟨3, [.insertTransactions [⟨170, 2, 7, none, none, none, 2, 3⟩],
      .insertEntries [⟨270, 2, 170, 20, 5, 2⟩, ⟨271, 2, 170, 21, -5, 2⟩]]⟩),
    (1, ⟨4, Sample.reservation⟩)]

theorem tenant_alone_interleaved :
    replay [⟨0, Sample.accounts⟩, ⟨2, Sample.issuance 0 none⟩, ⟨4, Sample.reservation⟩] =
      .ok (ofTenant 1 ((replaySessions interleaved).toOption.getD Db.empty)) := by
  have hreach : replaySessions interleaved =
      .ok ((replaySessions interleaved).toOption.getD Db.empty) := eq_ok_getD (by rfl) Db.empty
  have hown : OwnReferences 1 ((replaySessions interleaved).toOption.getD Db.empty) :=
    ⟨by decide, by decide, by decide, by decide, by decide, by decide⟩
  exact tenant_alone hreach hown

end LuxLedger.Credit
