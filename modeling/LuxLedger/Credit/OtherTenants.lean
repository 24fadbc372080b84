/-
  Credit/OtherTenants.lean --- rows on accounts of another tenant.

  Entries and hold entries refer to their account by its id alone, and every trigger looks
  for the account under the tenant of the row that it checks.  So a row of one tenant may
  stand on a grant-enabled account of another, and the trigger takes the account for one
  that is not grant-enabled.
-/
import LuxLedger.Credit.WellFormed

set_option autoImplicit false

namespace LuxLedger.Credit

open LuxLedger.Schema LuxLedger.Relational

/-! ## Grant-enabled accounts by their id -/

/-- The account is grant-enabled, whichever tenant it belongs to. -/
def isGrantAccount (s : Db) (accountId : Uuid) : Bool :=
  (s.account? accountId).any fun a => a.grantEnabled

/-- If the account is grant-enabled, it belongs to the tenant. -/
def OwnAccount (s : Db) (tenantId accountId : Uuid) : Prop :=
  ∀ a, s.account? accountId = some a → a.grantEnabled = true → a.tenantId = tenantId

section Accounts

variable {s s' : Db} {t id : Uuid}

theorem grantEnabled_eq_true_iff :
    s.grantEnabled t id = true ↔
      ∃ a, s.account? id = some a ∧ a.tenantId = t ∧ a.grantEnabled = true := by
  rw [Db.grantEnabled, Option.any_eq_true]
  exact exists_congr fun a => and_congr_right fun _ => decide_eq_true_iff

theorem isGrantAccount_eq_true_iff :
    isGrantAccount s id = true ↔ ∃ a, s.account? id = some a ∧ a.grantEnabled = true :=
  Option.any_eq_true _ _

theorem isGrantAccount_of_enabled (h : s.grantEnabled t id = true) :
    isGrantAccount s id = true := by
  obtain ⟨a, ha, -, henabled⟩ := grantEnabled_eq_true_iff.mp h
  exact isGrantAccount_eq_true_iff.mpr ⟨a, ha, henabled⟩

theorem ownAccount_of_enabled (h : s.grantEnabled t id = true) : OwnAccount s t id := by
  obtain ⟨a, ha, htenant, -⟩ := grantEnabled_eq_true_iff.mp h
  intro a' ha' _
  obtain rfl := Option.some.inj (ha.symm.trans ha')
  exact htenant

/-- On an account of its own tenant a trigger sees the capability. -/
theorem OwnAccount.enabled (h : OwnAccount s t id) (hgrant : isGrantAccount s id = true) :
    s.grantEnabled t id = true := by
  obtain ⟨a, ha, henabled⟩ := isGrantAccount_eq_true_iff.mp hgrant
  exact grantEnabled_eq_true_iff.mpr ⟨a, ha, h a ha henabled, henabled⟩

theorem ownAccount_iff (hkeys : UniqueKey Account.id s.accounts) :
    OwnAccount s t id ↔
      ∀ a ∈ s.accounts, a.id = id → a.grantEnabled = true → a.tenantId = t := by
  constructor
  · intro h a ha hid henabled
    exact h a ((lookup_eq_some_iff hkeys).mpr ⟨ha, hid⟩) henabled
  · intro h a ha henabled
    exact h a (mem_of_lookup ha) (key_of_lookup ha) henabled

/-- An account that is there stays what it is. -/
theorem isGrantAccount_extends (h : Extends s s') (ha : (s.account? id).isSome) :
    isGrantAccount s' id = isGrantAccount s id := by
  obtain ⟨a, ha⟩ := Option.isSome_iff_exists.mp ha
  rw [isGrantAccount, isGrantAccount, ha, h.account? ha]

/-- What has lineage is on an account of its tenant. -/
theorem linked_enabled (hs : Links s) {l : CreditGrantEntry} {linked : LinkedRows}
    (h : Linked s l linked) :
    s.grantEnabled linked.entry.tenantId linked.entry.accountId = true := by
  have hgrant := (hs.creditGrants _ (mem_of_lookup h.grant)).2
  rwa [h.grantTenant, h.grantAccount, ← h.entryTenant, ← h.entryAccount] at hgrant

end Accounts

/-! ## Entries -/

/-- Every entry on a grant-enabled account is of the account's tenant. -/
def EntriesOnOwnAccounts (s : Db) : Prop :=
  ∀ e ∈ s.entries, OwnAccount s e.tenantId e.accountId

/-- The log inserts no entry on a grant-enabled account of another tenant. -/
def OwnTenantEntries (log : List DbTransaction) : Prop :=
  ∀ e ∈ log.flatMap DbTransaction.newEntries, ∀ a ∈ log.flatMap DbTransaction.newAccounts,
    a.id = e.accountId → a.grantEnabled = true → a.tenantId = e.tenantId

instance (log : List DbTransaction) : Decidable (OwnTenantEntries log) :=
  inferInstanceAs (Decidable (∀ e ∈ log.flatMap DbTransaction.newEntries, ∀ a ∈ _, _))

/-- The entries of a committed state are those of its log. -/
theorem ownTenantEntries_iff {log : List DbTransaction} {s : Db} (h : replay log = .ok s) :
    OwnTenantEntries log ↔ EntriesOnOwnAccounts s := by
  unfold OwnTenantEntries EntriesOnOwnAccounts
  rw [← replay_entries h, ← replay_accounts h]
  exact forall₂_congr fun e _ => (ownAccount_iff (replay_wellFormed h).keys.accounts).symm

/-- All lineage of an entry, of whatever grant and tenant. -/
def lineageAmount (s : Db) (entryId : Uuid) : Int :=
  sumWhere s.creditGrantEntries (fun l => l.entryId = entryId) (·.amountMinor)

section Lineage

variable {s : Db} (hs : WellFormed s) {e : Entry} (he : e ∈ s.entries)
include hs he

/-- Lineage has the tenant of its entry. -/
theorem lineageAmount_eq : lineageAmount s e.id = s.attributedAmount e := by
  refine sumWhere_congr (fun l hl => ?_) fun _ _ _ => rfl
  obtain ⟨linked, hlink⟩ := hs.links.lineage l hl
  refine decide_eq_decide.mpr ⟨fun hid => ⟨?_, hid⟩, fun h => h.2⟩
  rw [← linked_entry_eq hs.keys hlink.rows he hid, hlink.rows.entryTenant]

/-- An entry on a grant-enabled account of another tenant has none. -/
theorem lineageAmount_foreign (hforeign : ¬ OwnAccount s e.tenantId e.accountId) :
    lineageAmount s e.id = 0 := by
  refine sumWhere_eq_zero fun l hl hcondition => absurd ?_ hforeign
  obtain ⟨linked, hlink⟩ := hs.links.lineage l hl
  have henabled := linked_enabled hs.links hlink.rows
  rw [linked_entry_eq hs.keys hlink.rows he (of_decide_eq_true hcondition)] at henabled
  exact ownAccount_of_enabled henabled

end Lineage

namespace Sample

/-- Tenant 2 has an asset of its own. -/
def otherAsset : Statement := .insertAssets [⟨2, 2, "USD", 2⟩]

/-- Its transaction has one entry, on account 10 of tenant 1. -/
def otherPosting (id : Uuid) (amount : Int) : List Statement :=
  [.insertTransactions [⟨id, 2, 6, none, none, none, 2, 2⟩],
    .insertEntries [⟨id + 100, 2, id, 10, amount, 2⟩]]

/-- Its hold 480 of 60. -/
def otherHold : Hold := ⟨480, 2, 6, "other", "USD", 2, none, .held, 60, 60, 2, none, none⟩

/-- The hold has one hold entry, on account 10 of tenant 1. -/
def otherReservation (amount : Int) : List Statement :=
  [.insertHolds [otherHold],
    .insertHoldEntries [⟨580, 2, 480, 10, amount, 2⟩]]

end Sample

end LuxLedger.Credit
