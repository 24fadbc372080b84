/-
  Migration/GrantCapability.lean --- migration 0001 and the accounts that have a
  grant.

  0001 keys the protection of an account on a new column whose default is false and
  which never changes.  So no account that exists at the migration is protected
  afterwards, whatever grants it has.
-/
import LuxLedger.Migration.ValidatorGenerations

set_option autoImplicit false

namespace LuxLedger.Migration

open LuxLedger.Schema LuxLedger.Relational

/-! ## The state after the migration -/

/-- `ADD COLUMN "grant_enabled" boolean DEFAULT false NOT NULL`: the accounts that are
there get the default, those inserted later any value. -/
def NewColumn (grantEnabled : Uuid → Bool) (s : Initial.Db) : Prop :=
  ∀ a ∈ s.accounts, grantEnabled a.id = false

/-- The states that statements lead to after the migration. -/
def Later (grantEnabled : Uuid → Bool) (s later : Initial.Db) : Prop :=
  ∃ steps, run (fun s (step : Timestamp × Initial.Statement) =>
    step.2.exec (.capability grantEnabled) step.1 s) s steps = .ok later

section Kept

variable (s : Initial.Db)

/-- Entries that 0000 refuses on an account that has a grant at the migration, 0001 and the last
migration refuse too. -/
def PostingsKept : Prop :=
  ∀ g ∈ s.creditGrants, ∀ grantEnabled later, NewColumn grantEnabled s →
    Later grantEnabled s later → ∀ e : Initial.Entry,
      e.tenantId = g.tenantId → e.accountId = g.accountId →
      Initial.assertGrantEntryAttributed .initial later e ≠ .ok () →
      Initial.assertGrantEntryAttributed (.capability grantEnabled) later e ≠ .ok () ∧
        assertGrantEntryAttributed (upgrade grantEnabled later) (signedEntry e) ≠ .ok ()

/-- So are the hold entries that 0000 refuses. -/
def HoldsKept : Prop :=
  ∀ g ∈ s.creditGrants, ∀ grantEnabled later, NewColumn grantEnabled s →
    Later grantEnabled s later → ∀ he : Initial.HoldEntry,
      he.tenantId = g.tenantId → he.accountId = g.accountId →
      Initial.rejectGrantAccountHold .initial later he ≠ .ok () →
      Initial.rejectGrantAccountHold (.capability grantEnabled) later he ≠ .ok () ∧
        assertGrantHoldAllocated (upgrade grantEnabled later) (signedHoldEntry he) ≠ .ok ()

/-- New grants on the account are still accepted. -/
def GrantsKept : Prop :=
  ∀ g ∈ s.creditGrants, ∀ grantEnabled later, NewColumn grantEnabled s →
    Later grantEnabled s later → ∀ new : CreditGrant,
      new.tenantId = g.tenantId → new.accountId = g.accountId →
      Initial.requireGrantEnabledAccount (.capability grantEnabled) later new = .ok () ∧
        requireGrantEnabledAccount (upgrade grantEnabled later) new = .ok ()

/-- What 0000 refuses on an account that has a grant at the migration, 0001 and the last
migration refuse too, and new grants on it are still accepted. -/
structure ProtectionKept : Prop where
  postings : PostingsKept s
  holds : HoldsKept s
  grants : GrantsKept s

end Kept

/-! ## Nothing is protected -/

section Unprotected

variable {grantEnabled : Uuid → Bool} {accountId : Uuid}

/-- An account that is there at the migration is not enabled in any later state. -/
theorem grantEnabled_eq_false (hdisabled : grantEnabled accountId = false) (later : Initial.Db)
    (tenantId : Uuid) : later.grantEnabled grantEnabled tenantId accountId = false := by
  unfold Initial.Db.grantEnabled
  cases hfound : later.account? accountId with
  | none => rfl
  | some found =>
      have hid : found.id = accountId := key_of_lookup hfound
      simp [hid, hdisabled]

/-- Under 0001 every entry on it passes, attributed or not. -/
theorem posting_accepted {e : Initial.Entry} (hdisabled : grantEnabled e.accountId = false)
    (later : Initial.Db) :
    Initial.assertGrantEntryAttributed (.capability grantEnabled) later e = .ok () := by
  rw [Initial.assertGrantEntryAttributed, Initial.Db.protects,
    grantEnabled_eq_false hdisabled later e.tenantId]
  rfl

/-- Under 0001 every hold entry on it passes. -/
theorem hold_accepted {he : Initial.HoldEntry} (hdisabled : grantEnabled he.accountId = false)
    (later : Initial.Db) :
    Initial.rejectGrantAccountHold (.capability grantEnabled) later he = .ok () := by
  rw [Initial.rejectGrantAccountHold, Initial.Db.protects,
    grantEnabled_eq_false hdisabled later he.tenantId, raiseIf_eq_ok_iff]
  decide

/-- Since 0001 every grant on it is refused. -/
theorem grant_refused {new : CreditGrant} (hdisabled : grantEnabled new.accountId = false)
    (later : Initial.Db) :
    Initial.requireGrantEnabledAccount (.capability grantEnabled) later new ≠ .ok () := by
  rw [Initial.requireGrantEnabledAccount, grantEnabled_eq_false hdisabled later new.tenantId, ne_eq,
    raiseIf_eq_ok_iff]
  decide

end Unprotected

/-! ## What 0000 protects -/

section Protected

variable {s : Initial.Db} {g : CreditGrant}

theorem hasCreditGrant_of_mem (hg : g ∈ s.creditGrants) :
    s.hasCreditGrant g.tenantId g.accountId = true :=
  List.any_eq_true.mpr ⟨g, hg, decide_eq_true ⟨rfl, rfl⟩⟩

/-- An entry of more than is attributed to it is refused on the account of a grant. -/
theorem posting_refused (hg : g ∈ s.creditGrants) {e : Initial.Entry}
    (htenant : e.tenantId = g.tenantId) (haccount : e.accountId = g.accountId)
    (hmore : s.attributedAmount e ≠ e.amountMinor) :
    Initial.assertGrantEntryAttributed .initial s e ≠ .ok () := by
  rw [Initial.assertGrantEntryAttributed, Initial.Db.protects, htenant, haccount,
    hasCreditGrant_of_mem hg, if_pos rfl, Initial.assertAttributed, ne_eq, bind_eq_ok_iff]
  rintro ⟨_, hattributed, _⟩
  rw [raiseIf_eq_ok_iff] at hattributed
  exact hattributed (Truth.of_eq_true_iff.mpr hmore)

/-- So is every hold entry. -/
theorem hold_refused (hg : g ∈ s.creditGrants) {he : Initial.HoldEntry}
    (htenant : he.tenantId = g.tenantId) (haccount : he.accountId = g.accountId) :
    Initial.rejectGrantAccountHold .initial s he ≠ .ok () := by
  rw [Initial.rejectGrantAccountHold, Initial.Db.protects, htenant, haccount,
    hasCreditGrant_of_mem hg, ne_eq, raiseIf_eq_ok_iff]
  decide

end Protected

/-! ## What is kept -/

section Iff

variable (s : Initial.Db)

/-- The protection of postings alone is lost as soon as there is a grant. -/
theorem postingsKept_iff : PostingsKept s ↔ s.creditGrants = [] := by
  constructor
  · intro hkept
    refine List.eq_nil_iff_forall_not_mem.mpr fun g hg => ?_
    let e : Initial.Entry := ⟨0, g.tenantId, 0, g.accountId, .debit, 0, 0⟩
    have hrefused : Initial.assertGrantEntryAttributed .initial s
        { e with amountMinor := s.attributedAmount e + 1 } ≠ .ok () :=
      posting_refused hg rfl rfl (lt_add_one (s.attributedAmount e)).ne
    exact (hkept g hg (fun _ => false) s (fun _ _ => rfl) ⟨[], rfl⟩ _ rfl rfl hrefused).1
      (posting_accepted rfl s)
  · intro hnone g hg
    exact absurd hg (List.eq_nil_iff_forall_not_mem.mp hnone g)

/-- So is that of holds. -/
theorem holdsKept_iff : HoldsKept s ↔ s.creditGrants = [] := by
  constructor
  · intro hkept
    refine List.eq_nil_iff_forall_not_mem.mpr fun g hg => ?_
    let he : Initial.HoldEntry := ⟨0, g.tenantId, 0, g.accountId, .debit, 1, 0⟩
    have hrefused : Initial.rejectGrantAccountHold .initial s he ≠ .ok () :=
      hold_refused hg rfl rfl
    exact (hkept g hg (fun _ => false) s (fun _ _ => rfl) ⟨[], rfl⟩ he rfl rfl hrefused).1
      (hold_accepted rfl s)
  · intro hnone g hg
    exact absurd hg (List.eq_nil_iff_forall_not_mem.mp hnone g)

/-- No account that has a grant is granted a further one. -/
theorem grantsKept_iff : GrantsKept s ↔ s.creditGrants = [] := by
  constructor
  · intro hkept
    refine List.eq_nil_iff_forall_not_mem.mpr fun g hg => ?_
    exact grant_refused rfl s
      (hkept g hg (fun _ => false) s (fun _ _ => rfl) ⟨[], rfl⟩ g rfl rfl).1
  · intro hnone g hg
    exact absurd hg (List.eq_nil_iff_forall_not_mem.mp hnone g)

/-- Nothing is weakened exactly where no grant is there at the migration. -/
theorem protectionKept_iff (s : Initial.Db) : ProtectionKept s ↔ s.creditGrants = [] :=
  ⟨fun hkept => (postingsKept_iff s).mp hkept.postings, fun hnone =>
    ⟨(postingsKept_iff s).mpr hnone, (holdsKept_iff s).mpr hnone, (grantsKept_iff s).mpr hnone⟩⟩

end Iff

namespace Sample

/-- An unattributed posting on the account of grant 300, under 0000 and 0001 and after
the last migration. -/
def posting : Initial.DbTransaction := ⟨2, Initial.Sample.posting⟩

/-- The same posting in the tables of the last migration. -/
def currentPosting : DbTransaction :=
  ⟨2, [.insertTransactions [⟨150, 1, 5, none, none, none, 1, 2⟩],
    .insertEntries [⟨250, 1, 150, 10, 40, 1⟩, ⟨251, 1, 150, 11, -40, 1⟩]]⟩

/-- A hold on the account, without an allocation. -/
def hold : Initial.DbTransaction :=
  ⟨2, [.insertHolds [⟨400, 1, 5, "order", "USD", 1, none, .held, 60, 60, 2, none, none⟩],
    .insertHoldEntries [⟨500, 1, 400, 10, .debit, 60, 1⟩, ⟨501, 1, 400, 11, .credit, 60, 1⟩]]⟩

/-- The same hold in the tables of the last migration. -/
def currentHold : DbTransaction :=
  ⟨2, [.insertHolds [⟨400, 1, 5, "order", "USD", 1, none, .held, 60, 60, 2, none, none⟩],
    .insertHoldEntries [⟨500, 1, 400, 10, 60, 1⟩, ⟨501, 1, 400, 11, -60, 1⟩]]⟩

/-- One more grant on the account. -/
def grant : Initial.DbTransaction :=
  ⟨2, [.insertTransactions [⟨101, 1, 5, none, none, none, 1, 2⟩],
    .insertEntries [⟨202, 1, 101, 10, .credit, 100, 1⟩, ⟨203, 1, 101, 11, .debit, 100, 1⟩],
    .insertCreditGrants [⟨301, 1, 5, 10, 11, 101, none, 2⟩],
    .insertCreditGrantEntries [⟨1, 5, 10, 301, 202, .issuance, 100⟩]]⟩

end Sample

/-- On an account with a grant, what 0000 refuses is accepted afterwards, and a new grant
that 0000 accepts is refused. -/
theorem capability_unprotects :
    Initial.replay [⟨0, Initial.Sample.accounts⟩, ⟨1, Initial.Sample.issuance⟩] =
        .ok Sample.issued ∧
      Initial.commit .initial Sample.issued Sample.posting = .error (raiseException
        "grant-enabled account entry requires complete grant attribution") ∧
      (Initial.commit (.capability fun _ => false) Sample.issued Sample.posting).toBool = true ∧
      (commit (upgrade (fun _ => false) Sample.issued) Sample.currentPosting).toBool = true ∧
      Initial.commit .initial Sample.issued Sample.hold = .error (raiseException
        "grant-enabled account holds require grant allocation") ∧
      (Initial.commit (.capability fun _ => false) Sample.issued Sample.hold).toBool = true ∧
      (commit (upgrade (fun _ => false) Sample.issued) Sample.currentHold).toBool = true ∧
      (Initial.commit .initial Sample.issued Sample.grant).toBool = true ∧
      Initial.commit (.capability fun _ => false) Sample.issued Sample.grant =
        .error (raiseException "credit grants require a grant-enabled account") ∧
      ¬ ProtectionKept Sample.issued := by
  refine ⟨Initial.Sample.replay_stateAfter (by rfl), by rfl, by rfl, by rfl, by rfl, by rfl, by rfl,
    by rfl, by rfl, fun hkept => ?_⟩
  have hgrant : (⟨300, 1, 5, 10, 11, 100, none, 1⟩ : CreditGrant) ∈ Sample.issued.creditGrants := by
    decide +kernel
  have hnew : NewColumn (fun _ => false) Sample.issued := fun _ _ => rfl
  have hkept := (hkept.grants _ hgrant (fun _ => false) Sample.issued hnew ⟨[], rfl⟩ _ rfl rfl).1
  revert hkept
  decide +kernel

end LuxLedger.Migration
