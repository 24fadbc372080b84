/-
  Demo/SandboxReplace.lean --- replacing a sandbox when calls fail.
-/
import LuxLedger.Demo.Sandbox

set_option autoImplicit false

namespace LuxLedger.Demo

open Foundation Relational Schema Awaited Javascript
open Http (FixedWindowLimiter)

/-! ## Provisioning -/

section Provision

variable {schedule : Schedule} {db : DemoDb} {tenantId ledgerId : Uuid} {profile : SandboxProfile}

/-- The sessions and keys are as they were. -/
def KeysOf (db : DemoDb) (s : DemoDb) : Prop :=
  s.apiKeys = db.apiKeys ∧ s.demoSessions = db.demoSessions ∧ s.now = db.now

theorem KeysOf.trans {s s' : DemoDb} (h : KeysOf db s) (h' : KeysOf s s') : KeysOf db s' :=
  ⟨h'.1.trans h.1, h'.2.1.trans h.2.1, h'.2.2.trans h.2.2⟩

/-- The database with the accounts of a loop over roles. -/
def DemoDb.withRoles (tenantId ledgerId : Uuid) (profile : SandboxProfile) :
    List RoleAccount → DemoDb → DemoDb
  | [], db => db
  | account :: rest, db =>
      withRoles tenantId ledgerId profile rest
        (db.withAccount (account.new tenantId ledgerId profile))

/-- The ids of the loop, which hands out those from `n` on. -/
def roleIds : List RoleAccount → Uuid → (SandboxRole → Uuid) → SandboxRole → Uuid
  | [], _, ids => ids
  | account :: rest, n, ids => roleIds rest (n + 1) (Function.update ids account.role n)

/-- The accounts of the loop. -/
def roleRows (tenantId ledgerId : Uuid) (profile : SandboxProfile) :
    List RoleAccount → Uuid → List AccountEntity
  | [], _ => []
  | account :: rest, n =>
      ⟨account.new tenantId ledgerId profile, n⟩ :: roleRows tenantId ledgerId profile rest (n + 1)

theorem withRoles_eq (accounts : List RoleAccount) (db : DemoDb) :
    db.withRoles tenantId ledgerId profile accounts = { db with
      accounts := db.accounts ++ roleRows tenantId ledgerId profile accounts db.nextId
      nextId := db.nextId + accounts.length } := by
  induction accounts generalizing db with
  | nil =>
      rw [DemoDb.withRoles, roleRows, List.append_nil]
      rfl
  | cons account rest ih =>
      rw [DemoDb.withRoles, ih, roleRows]
      simp only [DemoDb.withAccount, List.length_cons, Nat.add_assoc, Nat.add_comm 1,
        List.append_assoc, List.singleton_append]

/-- The database with the rows of one currency. -/
def DemoDb.withProfile (db : DemoDb) (tenantId : Uuid) (profile : SandboxProfile) : DemoDb :=
  let opened := (db.withAsset tenantId profile.code 2).withLedger tenantId
    (profile.code ++ " product ledger")
  (opened.withRoles tenantId (db.nextId + 1) profile roleAccounts).withTransaction
    (profile.opening tenantId (db.nextId + 1) (db.nextId + 2) (db.nextId + 3))

theorem withProfile_eq (db : DemoDb) :
    db.withProfile tenantId profile = { db with
      assets := db.assets ++ [⟨db.nextId, tenantId, profile.code, 2⟩]
      ledgers := db.ledgers ++ [⟨db.nextId + 1, tenantId, profile.code ++ " product ledger"⟩]
      accounts := db.accounts ++
        roleRows tenantId (db.nextId + 1) profile roleAccounts (db.nextId + 2)
      transactions := db.transactions ++ [⟨profile.opening tenantId (db.nextId + 1) (db.nextId + 2)
        (db.nextId + 3), db.nextId + 8, db.now⟩]
      nextId := db.nextId + 9 } := by
  rw [DemoDb.withProfile, withRoles_eq]
  rfl

theorem keysOf_withProfile (db : DemoDb) : KeysOf db (db.withProfile tenantId profile) := by
  rw [withProfile_eq]
  exact ⟨rfl, rfl, rfl⟩

/-- A ledger has the accounts and the opening posting of a currency, and nothing else. -/
structure ProfileStocked (tenantId ledgerId : Uuid) (profile : SandboxProfile) (db : DemoDb) :
    Prop where
  ledger : ⟨ledgerId, tenantId, profile.code ++ " product ledger"⟩ ∈ db.ledgers
  accounts : (db.accountsOf tenantId ledgerId none).map (·.toNewAccount) =
    roleAccounts.map (·.new tenantId ledgerId profile)
  opening : ∃ funding ∈ db.accountsOf tenantId ledgerId none,
    ∃ primary ∈ db.accountsOf tenantId ledgerId none,
      funding.name = profile.names .funding ∧ primary.name = profile.names .primary ∧
      (db.transactionsOf tenantId ledgerId).map (·.toNewTransaction) =
        [profile.opening tenantId ledgerId funding.id primary.id]

/-- The tenant has the assets, ledgers, accounts and opening postings of both currencies,
and nothing else. -/
structure Provisioned (tenantId : Uuid) (db : DemoDb) : Prop where
  assets : (db.assets.filter (·.tenantId = tenantId)).map (·.code) = ["USD", "EUR"]
  ledgers : (db.ledgers.filter (·.tenantId = tenantId)).map (·.name) =
    ["USD product ledger", "EUR product ledger"]
  accounts : (db.accounts.filter (·.tenantId = tenantId)).length = 12
  transactions : (db.transactions.filter (·.tenantId = tenantId)).length = 2
  profiles : ∀ profile ∈ sandboxProfiles, ∃ ledgerId, ProfileStocked tenantId ledgerId profile db

theorem accountsOf_withProfile (hledger : ledgerId ≠ db.nextId + 1) :
    (db.withProfile tenantId profile).accountsOf tenantId ledgerId none =
      db.accountsOf tenantId ledgerId none := by
  rw [withProfile_eq]
  simp [DemoDb.accountsOf, List.filter_append, roleRows, roleAccounts, RoleAccount.new,
    hledger.symm]

theorem transactionsOf_withProfile (hledger : ledgerId ≠ db.nextId + 1) :
    (db.withProfile tenantId profile).transactionsOf tenantId ledgerId =
      db.transactionsOf tenantId ledgerId := by
  rw [withProfile_eq]
  simp [DemoDb.transactionsOf, List.filter_append, SandboxProfile.opening, hledger.symm]

theorem profileStocked_withProfile (haccounts : db.accountsOf tenantId (db.nextId + 1) none = [])
    (htransactions : db.transactionsOf tenantId (db.nextId + 1) = []) :
    ProfileStocked tenantId (db.nextId + 1) profile (db.withProfile tenantId profile) := by
  have hrows : (db.withProfile tenantId profile).accountsOf tenantId (db.nextId + 1) none =
      roleRows tenantId (db.nextId + 1) profile roleAccounts (db.nextId + 2) := by
    rw [withProfile_eq, DemoDb.accountsOf, List.filter_append]
    rw [DemoDb.accountsOf] at haccounts
    rw [haccounts]
    simp [roleRows, roleAccounts, RoleAccount.new]
  have hposted : (db.withProfile tenantId profile).transactionsOf tenantId (db.nextId + 1) =
      [⟨profile.opening tenantId (db.nextId + 1) (db.nextId + 2) (db.nextId + 3), db.nextId + 8,
        db.now⟩] := by
    rw [withProfile_eq, DemoDb.transactionsOf, List.filter_append]
    rw [DemoDb.transactionsOf] at htransactions
    rw [htransactions]
    simp [SandboxProfile.opening]
  constructor
  · rw [withProfile_eq]
    simp
  · rw [hrows]
    rfl
  · rw [hrows, hposted]
    exact ⟨_, List.mem_cons_self, _, List.mem_cons_of_mem _ List.mem_cons_self, rfl, rfl, rfl⟩

theorem ProfileStocked.withProfile {profile' : SandboxProfile}
    (h : ProfileStocked tenantId ledgerId profile db) (hledger : ledgerId ≠ db.nextId + 1) :
    ProfileStocked tenantId ledgerId profile (db.withProfile tenantId profile') := by
  constructor
  · rw [withProfile_eq]
    exact List.mem_append_left _ h.ledger
  · rw [accountsOf_withProfile hledger]
    exact h.accounts
  · rw [accountsOf_withProfile hledger, transactionsOf_withProfile hledger]
    exact h.opening

/-- No row is of a tenant or ledger whose id is still to be given. -/
structure Fresh (db : DemoDb) : Prop where
  assets : ∀ a ∈ db.assets, a.tenantId < db.nextId
  ledgers : ∀ l ∈ db.ledgers, l.tenantId < db.nextId
  accounts : ∀ a ∈ db.accounts, a.tenantId < db.nextId ∧ a.ledgerId < db.nextId
  transactions : ∀ t ∈ db.transactions, t.tenantId < db.nextId ∧ t.ledgerId < db.nextId

theorem provisioned_of_withProfile (hassets : ∀ a ∈ db.assets, a.tenantId ≠ tenantId)
    (hledgers : ∀ l ∈ db.ledgers, l.tenantId ≠ tenantId)
    (haccounts : ∀ a ∈ db.accounts, a.tenantId ≠ tenantId)
    (htransactions : ∀ t ∈ db.transactions, t.tenantId ≠ tenantId) :
    Provisioned tenantId
      ((db.withProfile tenantId profileUSD).withProfile tenantId profileEUR) := by
  have hassets' : db.assets.filter (·.tenantId = tenantId) = [] := by
    simpa [List.filter_eq_nil_iff] using hassets
  have hledgers' : db.ledgers.filter (·.tenantId = tenantId) = [] := by
    simpa [List.filter_eq_nil_iff] using hledgers
  have haccounts' : db.accounts.filter (·.tenantId = tenantId) = [] := by
    simpa [List.filter_eq_nil_iff] using haccounts
  have htransactions' : db.transactions.filter (·.tenantId = tenantId) = [] := by
    simpa [List.filter_eq_nil_iff] using htransactions
  have haccountsOf : ∀ ledgerId, db.accountsOf tenantId ledgerId none = [] := by
    intro ledgerId
    rw [DemoDb.accountsOf, List.filter_eq_nil_iff]
    exact fun a ha h => haccounts a ha (of_decide_eq_true h).1
  have htransactionsOf : ∀ ledgerId, db.transactionsOf tenantId ledgerId = [] := by
    intro ledgerId
    rw [DemoDb.transactionsOf, List.filter_eq_nil_iff]
    exact fun t ht h => htransactions t ht (of_decide_eq_true h).1
  have hnext : (db.withProfile tenantId profileUSD).nextId = db.nextId + 9 := by
    rw [withProfile_eq]
  have hne : db.nextId + 1 ≠ (db.withProfile tenantId profileUSD).nextId + 1 := by
    rw [hnext]
    exact Nat.ne_of_lt (Nat.succ_lt_succ (Nat.lt_add_of_pos_right (Nat.succ_pos 8)))
  refine ⟨?_, ?_, ?_, ?_, ?_⟩
  · simp [withProfile_eq, List.filter_append, hassets', profileUSD, profileEUR]
  · simp [withProfile_eq, List.filter_append, hledgers', profileUSD, profileEUR]
  · simp [withProfile_eq, List.filter_append, haccounts', roleRows, roleAccounts, RoleAccount.new]
  · simp [withProfile_eq, List.filter_append, htransactions', SandboxProfile.opening]
  · intro profile hprofile
    rcases List.mem_cons.mp hprofile with rfl | hprofile
    · exact ⟨db.nextId + 1, (profileStocked_withProfile (haccountsOf _)
        (htransactionsOf _)).withProfile hne⟩
    · rw [List.mem_singleton.mp hprofile]
      exact ⟨_, profileStocked_withProfile
        ((accountsOf_withProfile hne.symm).trans (haccountsOf _))
        ((transactionsOf_withProfile hne.symm).trans (htransactionsOf _))⟩

end Provision

/-! ## Sessions and keys -/

/-- What the tables guarantee between requests: every session has a key of its own, and no
row refers to an id that is still to be given. -/
structure SandboxStore (db : DemoDb) : Prop extends Fresh db where
  keyIds : UniqueKey ApiKey.id db.apiKeys
  ownKeys : UniqueKey DemoSession.apiKeyId db.demoSessions
  keys : ∀ k ∈ db.apiKeys, k.id < db.nextId
  sessions : ∀ s ∈ db.demoSessions, s.apiKeyId < db.nextId

section Store

variable {host : SandboxHost} {drawn : Drawn} {schedule : Schedule} {db : DemoDb}
  {tenantId ledgerId : Uuid} {ids : List Uuid} {profile : SandboxProfile}

/-- A new row that is older than the next id. -/
theorem forall_concat {ρ : Type} {ref : ρ → Uuid} {rows : List ρ} {new : ρ} {n m : Uuid}
    (hrows : ∀ r ∈ rows, ref r < n) (hnew : ref new < m) (hle : n ≤ m) :
    ∀ r ∈ rows ++ [new], ref r < m := by
  intro r hr
  rcases List.mem_append.mp hr with hr | hr
  · exact Nat.lt_of_lt_of_le (hrows r hr) hle
  · rw [List.mem_singleton.mp hr]
    exact hnew

/-- The next id grows, and the rows of before keep theirs. -/
theorem Fresh.mono {rows : DemoDb} (h : Fresh db) (hassets : rows.assets = db.assets)
    (hledgers : rows.ledgers = db.ledgers) (haccounts : rows.accounts = db.accounts)
    (htransactions : rows.transactions = db.transactions) (hle : db.nextId ≤ rows.nextId) :
    Fresh rows where
  assets := hassets ▸ fun a ha => Nat.lt_of_lt_of_le (h.assets a ha) hle
  ledgers := hledgers ▸ fun l hl => Nat.lt_of_lt_of_le (h.ledgers l hl) hle
  accounts := haccounts ▸ fun a ha =>
    ⟨Nat.lt_of_lt_of_le (h.accounts a ha).1 hle, Nat.lt_of_lt_of_le (h.accounts a ha).2 hle⟩
  transactions := htransactions ▸ fun t ht =>
    ⟨Nat.lt_of_lt_of_le (h.transactions t ht).1 hle, Nat.lt_of_lt_of_le (h.transactions t ht).2 hle⟩

/-- Nothing is to be said of the keys where they stay. -/
theorem SandboxStore.grow {s : DemoDb} (h : SandboxStore db) (hkeys : KeysOf db s)
    (hle : db.nextId ≤ s.nextId) (hfresh : Fresh s) : SandboxStore s where
  toFresh := hfresh
  keyIds := hkeys.1 ▸ h.keyIds
  ownKeys := hkeys.2.1 ▸ h.ownKeys
  keys := hkeys.1 ▸ fun k hk => Nat.lt_of_lt_of_le (h.keys k hk) hle
  sessions := hkeys.2.1 ▸ fun s hs => Nat.lt_of_lt_of_le (h.sessions s hs) hle

theorem SandboxStore.withSession (h : SandboxStore db) :
    SandboxStore (db.withSession host drawn) where
  toFresh := h.toFresh.mono rfl rfl rfl rfl (Nat.le_add_right _ 3)
  keyIds := h.keyIds.append_singleton fun k hk => Nat.ne_of_lt (Nat.lt_succ_of_lt (h.keys k hk))
  ownKeys := h.ownKeys.append_singleton fun s hs =>
    Nat.ne_of_lt (Nat.lt_succ_of_lt (h.sessions s hs))
  keys := forall_concat h.keys (Nat.add_lt_add_left (by decide : 1 < 3) _) (Nat.le_add_right _ 3)
  sessions := forall_concat h.sessions (Nat.add_lt_add_left (by decide : 1 < 3) _)
    (Nat.le_add_right _ 3)

theorem SandboxStore.revoke (h : SandboxStore db) : SandboxStore (db.revoke ids) where
  toFresh := h.toFresh.mono rfl rfl rfl rfl le_rfl
  keyIds := h.keyIds.map fun k _ => by split <;> rfl
  ownKeys := h.ownKeys
  keys := by
    intro k hk
    obtain ⟨k', hk', rfl⟩ := List.mem_map.mp hk
    split
    · exact h.keys k' hk'
    · exact h.keys k' hk'
  sessions := h.sessions

/-- The tenant is there, and the ledger has an id, for rows to refer to. -/
structure Has (tenantId ledgerId : Uuid) (db : DemoDb) : Prop extends SandboxStore db where
  there : ∃ t ∈ db.tenants, t.id = tenantId
  tenant : tenantId < db.nextId
  ledger : ledgerId < db.nextId

theorem Has.bump (h : Has tenantId ledgerId db) {s : DemoDb} (hkeys : KeysOf db s)
    (htenants : s.tenants = db.tenants) (hnext : s.nextId = db.nextId + 1) (hfresh : Fresh s) :
    Has tenantId ledgerId s where
  toSandboxStore := h.toSandboxStore.grow hkeys (hnext ▸ Nat.le_succ _) hfresh
  there := htenants ▸ h.there
  tenant := hnext ▸ Nat.lt_succ_of_lt h.tenant
  ledger := hnext ▸ Nat.lt_succ_of_lt h.ledger

theorem Fresh.bump (h : Fresh db) : Fresh { db with nextId := db.nextId + 1 } :=
  h.mono rfl rfl rfl rfl (Nat.le_succ _)

theorem Has.withAsset {code : String} {scale : Nat} (h : Has tenantId ledgerId db) :
    Has tenantId ledgerId (db.withAsset tenantId code scale) :=
  h.bump ⟨rfl, rfl, rfl⟩ rfl rfl { h.toFresh.bump with
    assets := forall_concat h.assets (Nat.lt_succ_of_lt h.tenant) (Nat.le_succ _) }

/-- A new ledger is there for its accounts. -/
theorem Has.withLedger {name : String} (h : Has tenantId ledgerId db) :
    Has tenantId db.nextId (db.withLedger tenantId name) := by
  have hkept : Has tenantId ledgerId (db.withLedger tenantId name) :=
    h.bump ⟨rfl, rfl, rfl⟩ rfl rfl { h.toFresh.bump with
      ledgers := forall_concat h.ledgers (Nat.lt_succ_of_lt h.tenant) (Nat.le_succ _) }
  exact { hkept with ledger := Nat.lt_succ_self _ }

theorem Has.withAccount {account : NewAccount} (h : Has tenantId ledgerId db)
    (htenant : account.tenantId = tenantId) (hledger : account.ledgerId = ledgerId) :
    Has tenantId ledgerId (db.withAccount account) :=
  h.bump ⟨rfl, rfl, rfl⟩ rfl rfl { h.toFresh.bump with
    accounts := fun a ha => ⟨forall_concat (fun a ha => (h.accounts a ha).1)
        (htenant ▸ Nat.lt_succ_of_lt h.tenant) (Nat.le_succ _) a ha,
      forall_concat (fun a ha => (h.accounts a ha).2)
        (hledger ▸ Nat.lt_succ_of_lt h.ledger) (Nat.le_succ _) a ha⟩ }

theorem Has.withRoles (h : Has tenantId ledgerId db) (accounts : List RoleAccount) :
    Has tenantId ledgerId (db.withRoles tenantId ledgerId profile accounts) := by
  induction accounts generalizing db with
  | nil => exact h
  | cons account rest ih => exact ih (h.withAccount rfl rfl)

theorem Has.withTransaction {new : NewTransaction} (h : Has tenantId ledgerId db)
    (htenant : new.tenantId = tenantId) (hledger : new.ledgerId = ledgerId) :
    Has tenantId ledgerId (db.withTransaction new) :=
  h.bump ⟨rfl, rfl, rfl⟩ rfl rfl { h.toFresh.bump with
    transactions := fun t ht => ⟨forall_concat (fun t ht => (h.transactions t ht).1)
        (htenant ▸ Nat.lt_succ_of_lt h.tenant) (Nat.le_succ _) t ht,
      forall_concat (fun t ht => (h.transactions t ht).2)
        (hledger ▸ Nat.lt_succ_of_lt h.ledger) (Nat.le_succ _) t ht⟩ }

theorem Has.withProfile (h : Has tenantId ledgerId db) :
    Has tenantId (db.nextId + 1) (db.withProfile tenantId profile) :=
  (h.withAsset.withLedger.withRoles roleAccounts).withTransaction rfl rfl

/-! ## Provisioning when calls fail -/

/-- A write that leaves what holds before it true, whether its reply arrives or not. -/
theorem spec_keep {α : Type} {P P' : DemoDb → Prop} {change : DemoDb → α × DemoDb}
    (hkeep : ∀ db, P db → P (change db).2) (hP : ∀ db, P db → P' db) :
    Spec schedule P (writing change) (fun _ => P) (fun _ => P') :=
  spec_update (fun db hdb => ⟨hkeep db hdb, fun _ => hP _ (hkeep db hdb)⟩) fun db hdb _ => hP db hdb

/-- What holds where provisioning throws. -/
def KeptBy (db s : DemoDb) : Prop := KeysOf db s ∧ SandboxStore s

theorem makes_createRoleAccounts (hlaws : host.Lawful) (accounts : List RoleAccount)
    (ids : SandboxRole → Uuid) (h : Has tenantId ledgerId db)
    (hledger : ∃ l ∈ db.ledgers, l.tenantId = tenantId ∧ l.id = ledgerId)
    (hcurrency : ∃ a ∈ db.assets, a.tenantId = tenantId ∧ a.code = profile.code)
    (hroles : (accounts.map fun account => account.role.code).Nodup)
    (hnew : ∀ account ∈ accounts, ∀ a ∈ db.accounts, a.tenantId = tenantId →
      a.ledgerId = ledgerId → a.code ≠ some account.role.code) :
    Makes accounts.length (· = db) (createRoleAccounts host tenantId ledgerId profile accounts ids)
      (fun ids' s => s = db.withRoles tenantId ledgerId profile accounts ∧
        ids' = roleIds accounts db.nextId ids)
      (KeptBy db) := by
  induction accounts generalizing db ids with
  | nil => exact makes_pure fun _ hs => ⟨hs, rfl⟩
  | cons account rest ih =>
      obtain ⟨hfirst, hroles⟩ := List.nodup_cons.mp hroles
      have hadmits : AdmitsAccount db (account.new tenantId ledgerId profile) :=
        ⟨hledger, hcurrency, fun _ a ha => hnew account List.mem_cons_self a ha⟩
      have hcreated : Has tenantId ledgerId
          (db.withAccount (account.new tenantId ledgerId profile)) :=
        h.withAccount rfl rfl
      rw [List.length_cons, Nat.add_comm]
      refine makes_call_bind (hlaws.createAccount _ _ hadmits)
        ⟨⟨rfl, rfl, rfl⟩, h.toSandboxStore⟩ ⟨⟨rfl, rfl, rfl⟩, hcreated.toSandboxStore⟩ ?_
      refine ih _ hcreated hledger hcurrency hroles fun account' haccount a ha htenant hsame => ?_
      rcases List.mem_append.mp ha with ha | ha
      · exact hnew account' (List.mem_cons_of_mem _ haccount) a ha htenant hsame
      · rw [List.mem_singleton.mp ha]
        intro hcode
        exact hfirst (List.mem_map.mpr ⟨account', haccount, (Option.some.inj hcode).symm⟩)

/-- A tenant has nothing of a currency yet. -/
structure NewProfile (tenantId : Uuid) (profile : SandboxProfile) (db : DemoDb) : Prop where
  asset : ∀ a ∈ db.assets, a.tenantId = tenantId → a.code ≠ profile.code
  opening : ∀ t ∈ db.transactions, t.tenantId = tenantId →
    t.reference ≠ "sandbox-" ++ profile.code ++ "-opening"

/-- The accounts of the ledger take its opening posting. -/
theorem admits_opening {s : DemoDb} (hledger : 0 < profile.openingMinor)
    (hs : s.accounts = db.accounts ++
      roleRows tenantId ledgerId profile roleAccounts (db.nextId + 2))
    (hnew : ∀ t ∈ s.transactions, t.tenantId = tenantId →
      t.reference ≠ "sandbox-" ++ profile.code ++ "-opening") :
    AdmitsTransaction s (profile.opening tenantId ledgerId (db.nextId + 2) (db.nextId + 3)) where
  reference := hnew
  balanced := by simp [SandboxProfile.opening]
  entries := by
    intro e he
    rcases List.mem_cons.mp he with rfl | he
    · refine ⟨Int.ne_of_gt hledger, _, hs ▸ List.mem_append_right _ List.mem_cons_self, ?_⟩
      exact ⟨rfl, rfl, rfl, ⟨rfl, rfl⟩, rfl, Or.inl rfl⟩
    · rw [List.mem_singleton.mp he]
      refine ⟨by simpa using Int.ne_of_gt hledger, _,
        hs ▸ List.mem_append_right _ (List.mem_cons_of_mem _ List.mem_cons_self), ?_⟩
      exact ⟨rfl, rfl, rfl, ⟨rfl, rfl⟩, rfl, Or.inr ⟨rfl, Int.neg_neg_of_pos hledger⟩⟩

theorem makes_provisionProfile (hlaws : host.Lawful) (h : Has tenantId ledgerId db)
    (hopening : 0 < profile.openingMinor) (hnew : NewProfile tenantId profile db) :
    Makes 9 (· = db) (provisionProfile host tenantId profile)
      (fun _ s => s = db.withProfile tenantId profile) (KeptBy db) := by
  have hasset : Has tenantId ledgerId (db.withAsset tenantId profile.code 2) := h.withAsset
  have hledger : Has tenantId (db.nextId + 1) ((db.withAsset tenantId profile.code 2).withLedger
      tenantId (profile.code ++ " product ledger")) := hasset.withLedger
  have hroles := @Has.withRoles _ _ _ profile hledger roleAccounts
  have hwith := @withRoles_eq tenantId (db.nextId + 1) profile roleAccounts
    ((db.withAsset tenantId profile.code 2).withLedger tenantId
      (profile.code ++ " product ledger"))
  have hmade := @makes_createRoleAccounts host _ tenantId (db.nextId + 1) profile hlaws
    roleAccounts (fun _ => 0) hledger
    ⟨_, List.mem_append_right _ (List.mem_singleton_self _), rfl, rfl⟩
    ⟨_, List.mem_append_right _ (List.mem_singleton_self _), rfl, rfl⟩ (by decide) ?_
  · have hadmits := @admits_opening db tenantId (db.nextId + 1) profile _ hopening
      (congrArg DemoDb.accounts hwith) (by rw [hwith]; exact hnew.opening)
    show Makes (1 + (1 + (6 + (1 + 0)))) _ _ _ _
    refine makes_call_bind (hlaws.createAsset _ _ _ _ ⟨h.there, hnew.asset⟩)
      ⟨⟨rfl, rfl, rfl⟩, h.toSandboxStore⟩ ⟨⟨rfl, rfl, rfl⟩, hasset.toSandboxStore⟩ ?_
    refine makes_call_bind (hlaws.createLedger _ _ _ h.there)
      ⟨⟨rfl, rfl, rfl⟩, hasset.toSandboxStore⟩ ⟨⟨rfl, rfl, rfl⟩, hledger.toSandboxStore⟩ ?_
    refine makes_bind_of_eq hmade ?_
    refine makes_call_bind (hlaws.createTransaction _ _ hadmits)
      ⟨⟨?_, ?_, ?_⟩, hroles.toSandboxStore⟩ ⟨keysOf_withProfile db, h.withProfile.toSandboxStore⟩
      (makes_pure fun s hs => hs)
    all_goals rw [hwith]; rfl
  · -- no account is of the new ledger
    intro account _ a ha _ hsame
    have hold : a.ledgerId < db.nextId := (h.accounts a ha).2
    exact absurd (hsame ▸ hold) (Nat.not_lt.mpr (Nat.le_succ _))

theorem makes_provision (hlaws : host.Lawful) (h : Has tenantId ledgerId db)
    (hassets : ∀ a ∈ db.assets, a.tenantId ≠ tenantId)
    (htransactions : ∀ t ∈ db.transactions, t.tenantId ≠ tenantId) :
    Makes 18 (· = db) (sandboxProfiles.forM (provisionProfile host tenantId))
      (fun _ s => s = (db.withProfile tenantId profileUSD).withProfile tenantId profileEUR)
      (KeptBy db) := by
  have hfirst : NewProfile tenantId profileUSD db :=
    ⟨fun a ha htenant => absurd htenant (hassets a ha),
      fun t ht htenant => absurd htenant (htransactions t ht)⟩
  have hsecond : NewProfile tenantId profileEUR (db.withProfile tenantId profileUSD) := by
    rw [withProfile_eq]
    refine ⟨fun a ha htenant => ?_, fun t ht htenant => ?_⟩
    · rcases List.mem_append.mp ha with ha | ha
      · exact absurd htenant (hassets a ha)
      · rw [List.mem_singleton.mp ha]
        exact (by decide : profileUSD.code ≠ profileEUR.code)
    · rcases List.mem_append.mp ht with ht | ht
      · exact absurd htenant (htransactions t ht)
      · rw [List.mem_singleton.mp ht]
        exact (by decide : "sandbox-" ++ profileUSD.code ++ "-opening" ≠
          "sandbox-" ++ profileEUR.code ++ "-opening")
  have hkeys := @keysOf_withProfile tenantId profileUSD db
  have hnext := makes_provisionProfile hlaws h.withProfile (by decide) hsecond
  show Makes (9 + (9 + 0)) _ _ _ _
  refine makes_bind (makes_provisionProfile hlaws h (by decide) hfirst) fun _ => ?_
  refine makes_bind (R := fun _ s =>
    s = (db.withProfile tenantId profileUSD).withProfile tenantId profileEUR) ?_
    fun _ => makes_pure fun s hs => hs
  exact makes_consequence hnext (fun _ _ hs => hs) fun s hs => ⟨hkeys.trans hs.1, hs.2⟩

/-- The state with both currencies provisioned. -/
def DemoDb.withSandbox (db : DemoDb) (host : SandboxHost) (drawn : Drawn) : DemoDb :=
  ((db.withSession host drawn).withProfile db.nextId profileUSD).withProfile db.nextId profileEUR

theorem keysOf_withSandbox : KeysOf (db.withSession host drawn) (db.withSandbox host drawn) :=
  (keysOf_withProfile _).trans (keysOf_withProfile _)

theorem Has.withSession (h : SandboxStore db) :
    Has db.nextId db.nextId (db.withSession host drawn) where
  toSandboxStore := h.withSession
  there := ⟨_, List.mem_append_right _ (List.mem_singleton_self _), rfl⟩
  tenant := Nat.lt_add_of_pos_right (Nat.succ_pos 2)
  ledger := Nat.lt_add_of_pos_right (Nat.succ_pos 2)

/-- The calls that provision a new tenant. -/
theorem makes_sandbox (hlaws : host.Lawful) (hstore : SandboxStore db) :
    Makes 18 (· = db.withSession host drawn)
      (sandboxProfiles.forM (provisionProfile host db.nextId))
      (fun _ s => s = db.withSandbox host drawn) (KeptBy (db.withSession host drawn)) :=
  makes_provision hlaws (Has.withSession hstore)
    (fun a ha => Nat.ne_of_lt (hstore.assets a ha))
    fun t ht => Nat.ne_of_lt (hstore.transactions t ht).1

/-- What the handler does after the creating transaction keeps what every step of it keeps. -/
theorem spec_openSandbox {request : SandboxRequest} (hlaws : host.Lawful)
    (hstore : SandboxStore db) {I : DemoDb → Prop} {Q : SandboxReply → Prop}
    (hbefore : I db) (hprovisioning : ∀ s, KeptBy (db.withSession host drawn) s → I s)
    (hrevoke : ∀ s ids, I s → I (s.revoke ids))
    (hcreated : ∀ body : SessionPayload, body.tenantId = db.nextId →
      body.accessToken = host.issueAccessToken db.nextId (db.nextId + 1) .service →
      body.sessionExpiresAt = db.now + SESSION_SECONDS * 1000 →
      Q (.created (setCookie request drawn.secret) body))
    (hfailed : ∀ error, Q (.failed (setCookie request drawn.secret) error)) :
    Spec schedule (· = db) (openSandbox host request drawn) (fun reply s => I s ∧ Q reply)
      fun _ => I := by
  have hsession : KeptBy (db.withSession host drawn) (db.withSession host drawn) :=
    ⟨⟨rfl, rfl, rfl⟩, hstore.withSession⟩
  refine spec_bind_of_eq (b := newSession host drawn db)
    (T := (· = db.withSession host drawn)) ?_ ?_
  · refine spec_call ?_ ?_ ?_
    · rintro s row s' rfl hrun
      split_ifs at hrun
      cases hrun
      exact ⟨⟨rfl, rfl⟩, fun _ => hprovisioning _ hsession⟩
    · rintro s e rfl hrun
      exact hbefore
    · rintro s rfl _
      exact hbefore
  have hprovision : Spec schedule (· = db.withSession host drawn)
      (tryCatch (sandboxProfiles.forM (provisionProfile host (newSession host drawn db).tenantId))
        fun error => do
          revokeKey (newSession host drawn db).apiKeyId
          throw error)
      (fun _ => I) (fun _ => I) := by
    refine spec_tryCatch (spec_consequence (makes_sandbox hlaws hstore).spec (fun _ hs => hs)
      (fun _ s hs => ?_) fun _ s hs => hprovisioning s hs) fun e => ?_
    · rw [hs]
      exact hprovisioning _ ⟨keysOf_withSandbox,
        (Has.withSession hstore).withProfile.withProfile.toSandboxStore⟩
    · exact spec_bind (spec_keep (fun s hs => hrevoke s _ hs) fun _ hs => hs)
        fun _ => spec_throw fun _ hs => hs
  refine spec_bind hprovision fun _ => ?_
  refine spec_bind (R := fun _ => I) ?_ fun _ => ?_
  · unfold revokePrevious
    split
    · exact spec_pure fun _ hs => hs
    · exact spec_keep (fun s hs => hrevoke s _ hs) fun _ hs => hs
  · refine spec_tryCatch (D := fun _ => I) ?_ fun e => spec_pure fun _ hs => ⟨hs, hfailed e⟩
    refine spec_bind (R := fun body s => I s ∧ Q (.created (setCookie request drawn.secret) body))
      ?_ fun body => spec_pure fun _ hs => hs
    refine spec_bind (spec_query (Q := fun _ => I) (fun _ _ hs _ => hs)
      (fun _ _ hs _ => hs) fun _ hs _ => hs) fun _ => spec_pure fun _ hs => ⟨hs, ?_⟩
    exact hcreated _ rfl rfl rfl

/-- Whatever a request meets, what the tables guarantee lasts. -/
theorem keeps_openSandbox {request : SandboxRequest} (hlaws : host.Lawful)
    (hstore : SandboxStore db) :
    SandboxStore ((openSandbox host request drawn).run schedule db).2 :=
  (spec_post (spec_openSandbox (Q := fun _ => True) hlaws hstore hstore (fun _ hs => hs.2)
    (fun _ _ hs => hs.revoke) (fun _ _ _ _ => trivial) fun _ => trivial)
    fun _ _ hs => hs.1).always rfl

theorem sandboxStore_of_postSession {request : SandboxRequest} (hlaws : host.Lawful)
    (hstore : SandboxStore db) (limiter : FixedWindowLimiter) (nowMs : Int)
    (schedule : Schedule) :
    SandboxStore ((postSession host limiter nowMs request drawn).2.run schedule db).2 := by
  unfold postSession
  split
  · exact hstore
  · split
    · exact hstore
    · dsimp only
      split
      · exact keeps_openSandbox hlaws hstore
      · exact hstore

end Store

section Claim

variable (host : SandboxHost) (request : SandboxRequest) (drawn : Drawn)

/-- The value of the cookie, if the request has one. -/
def previousCookie : Option String := (cookieValue request).filter (· ≠ "")

/-- The keys of the sessions that it names. -/
def previousKeys (db : DemoDb) : List Uuid :=
  match previousCookie request with
  | none => []
  | some previous => db.sessionKeys (host.hash previous)

/-- The session that the cookie of the request names. -/
def Previous (session : DemoSession) : Prop :=
  ∃ previous, previousCookie request = some previous ∧ session.tokenHash = host.hash previous

/-- The key is there, and not revoked. -/
def DemoDb.Live (db : DemoDb) (keyId : Uuid) : Prop :=
  ∃ k ∈ db.apiKeys, k.id = keyId ∧ k.revokedAt = none

/-- The 256 bits drawn are new: no session, no key and not the cookie has them. -/
structure DrawnNew (db : DemoDb) : Prop where
  token : ∀ s ∈ db.demoSessions, s.tokenHash ≠ host.hash drawn.secret
  key : ∀ k ∈ db.apiKeys, k.keyHash ≠ host.hash drawn.apiKey
  cookie : ∀ previous, previousCookie request = some previous →
    host.hash previous ≠ host.hash drawn.secret

/-- Status 201. -/
def IsCreated : Except DemoError SandboxReply → Prop
  | .ok (.created _ _) => True
  | _ => False

/-- Replacing the sandbox, from one database to another, is failure-atomic. -/
structure FailureAtomic (db : DemoDb) (result : Except DemoError SandboxReply) (db' : DemoDb) :
    Prop where
  kept : ¬ IsCreated result → ∀ s ∈ db.demoSessions, Previous host request s →
    db.Live s.apiKeyId → db'.Live s.apiKeyId
  replaced : IsCreated result →
    (∀ keyId, db.Live keyId →
      (¬ db'.Live keyId ↔ ∃ s ∈ db.demoSessions, Previous host request s ∧ s.apiKeyId = keyId)) ∧
    ∃ body, result = .ok (.created (setCookie request drawn.secret) body) ∧
      ∃ s ∈ db'.demoSessions, s.tokenHash = host.hash drawn.secret ∧ s.tenantId = body.tenantId ∧
        db'.Live s.apiKeyId ∧ Provisioned s.tenantId db'
  others : ∀ s ∈ db.demoSessions, ¬ Previous host request s →
    ∀ k, k.id = s.apiKeyId → (k ∈ db'.apiKeys ↔ k ∈ db.apiKeys)

/-- The request passes the origin checks and the limiter. -/
def Admitted (limiter : FixedWindowLimiter) (nowMs : Int) : Prop :=
  request.secFetchSite ≠ some "cross-site" ∧ sameOrigin host request = true ∧
    (limiter.consume request.ip SESSION_LIMIT nowMs).1.allowed = true

/-- All calls up to the revocation of the previous key are answered, and then the reply of
that call is lost or the call after it fails. -/
def BreaksOff (schedule : Schedule) : Prop :=
  (∀ n < 19, schedule n = none) ∧
    (schedule 19 = some .lost ∨ schedule 19 = none ∧ schedule 20 ≠ none)

end Claim

/-! ## The run -/

section Run

variable {host : SandboxHost} {request : SandboxRequest} {drawn : Drawn} {schedule : Schedule}
  {db s : DemoDb} {ids : List Uuid}

/-- The keys of before are as if just those of the ids had been revoked. -/
def KeysAfter (ids : List Uuid) (db s : DemoDb) : Prop :=
  ∀ k, k.id < db.nextId → (k ∈ s.apiKeys ↔ k ∈ (db.revoke ids).apiKeys)

theorem revoke_of_not_mem (hids : ∀ k ∈ db.apiKeys, k.id ∉ ids) :
    (db.revoke ids).apiKeys = db.apiKeys := by
  rw [DemoDb.revoke]
  exact (List.map_congr_left fun k hk => if_neg (hids k hk)).trans (List.map_id _)

theorem keysAfter_revoke (hkeys : KeysOf (db.withSession host drawn) s) :
    KeysAfter ids db (s.revoke ids) := by
  intro k hk
  obtain ⟨hapi, _, hnow⟩ := hkeys
  rw [DemoDb.revoke, hapi, hnow]
  simp only [DemoDb.withSession, DemoDb.revoke, List.map_append, List.map_cons, List.map_nil,
    List.mem_append, List.mem_singleton]
  refine or_iff_left fun heq => ?_
  have hid : k.id = db.nextId + 1 := by
    rw [heq]
    split <;> rfl
  rw [hid] at hk
  exact absurd hk (Nat.not_lt.mpr (Nat.le_succ _))

theorem revoke_nil : s.revoke [] = s := by
  simp [DemoDb.revoke]

theorem keysAfter_of_keysOf (hkeys : KeysOf (db.withSession host drawn) s) : KeysAfter [] db s := by
  have hrevoked : KeysAfter [] db (s.revoke []) := keysAfter_revoke hkeys
  rw [revoke_nil] at hrevoked
  exact hrevoked

/-- Revoking the new key changes none of the others. -/
theorem keysAfter_revoke_new (hstore : SandboxStore db)
    (hkeys : KeysOf (db.withSession host drawn) s) :
    KeysAfter [] db (s.revoke [db.nextId + 1]) := by
  have hnew : (db.revoke [db.nextId + 1]).apiKeys = (db.revoke []).apiKeys := by
    rw [revoke_nil, revoke_of_not_mem fun k hk hid => ?_]
    rw [List.mem_singleton] at hid
    exact Nat.ne_of_lt (Nat.lt_succ_of_lt (hstore.keys k hk)) hid
  intro k hk
  rw [← hnew]
  exact keysAfter_revoke hkeys k hk

theorem keysAfter_self : KeysAfter [] db db := by
  intro k _
  rw [revoke_nil]

/-- How a run of the handler may end. -/
inductive Outcome (host : SandboxHost) (request : SandboxRequest) (drawn : Drawn)
    (schedule : Schedule) (db : DemoDb) : Except DemoError SandboxReply → DemoDb → Prop where
  | kept {result : Except DemoError SandboxReply} {s : DemoDb} (failed : ¬ IsCreated result)
      (keys : KeysAfter [] db s)
      (whole : ¬ (BreaksOff schedule ∧ previousCookie request ≠ none)) :
      Outcome host request drawn schedule db result s
  | broken {result : Except DemoError SandboxReply} {s : DemoDb} (failed : ¬ IsCreated result)
      (keys : KeysAfter (previousKeys host request db) db s)
      (breaks : BreaksOff schedule) (cookie : previousCookie request ≠ none) :
      Outcome host request drawn schedule db result s
  | created {body : SessionPayload} {s : DemoDb}
      (keys : KeysAfter (previousKeys host request db) db s)
      (whole : ¬ (BreaksOff schedule ∧ previousCookie request ≠ none))
      (session : newSession host drawn db ∈ s.demoSessions) (live : s.Live (db.nextId + 1))
      (tenant : body.tenantId = db.nextId) (provisioned : Provisioned db.nextId s) :
      Outcome host request drawn schedule db
        (.ok (.created (setCookie request drawn.secret) body)) s

/-! ### Running the steps -/

theorem writing_run {α : Type} (change : DemoDb → α × DemoDb) (n : Nat) (s : DemoDb) :
    (schedule n = none ∧ writing change schedule n s = (.ok (change s).1, n + 1, (change s).2)) ∨
    (schedule n = some .lost ∧
      writing change schedule n s = (.error .unavailable, n + 1, (change s).2)) ∨
    (schedule n = some .refused ∧
      writing change schedule n s = (.error .unavailable, n + 1, s)) := by
  simp only [writing, update, call]
  cases hn : schedule n with
  | none => exact Or.inl ⟨rfl, rfl⟩
  | some fault =>
      cases fault with
      | lost => exact Or.inr (Or.inl ⟨rfl, rfl⟩)
      | refused => exact Or.inr (Or.inr ⟨rfl, rfl⟩)

theorem reading_run {α : Type} (answer : DemoDb → α) (n : Nat) (s : DemoDb) :
    (schedule n = none ∧ reading answer schedule n s = (.ok (answer s), n + 1, s)) ∨
    (schedule n ≠ none ∧ reading answer schedule n s = (.error .unavailable, n + 1, s)) := by
  simp only [reading, query, call, Except.map]
  cases hn : schedule n with
  | none => exact Or.inl ⟨rfl, rfl⟩
  | some fault =>
      refine Or.inr ⟨Option.some_ne_none fault, ?_⟩
      cases fault <;> rfl

theorem sendPayload_run (cookie : String) (row : DemoSession) (n : Nat) (s : DemoDb) :
    (schedule n = none ∧ ∃ body, body.tenantId = row.tenantId ∧
      sendPayload host cookie row schedule n s = (.ok (.created cookie body), n + 1, s)) ∨
    (schedule n ≠ none ∧
      sendPayload host cookie row schedule n s =
        (.ok (.failed cookie .unavailable), n + 1, s)) := by
  rcases reading_run (host.listAssets row.tenantId 200 none) n s with ⟨hn, hrun⟩ | ⟨hn, hrun⟩
  · exact Or.inl ⟨hn, _, rfl, tryCatch_of_ok (bind_of_ok (bind_of_ok hrun))⟩
  · exact Or.inr ⟨hn, tryCatch_of_error (bind_of_error (bind_of_error hrun))⟩

theorem createSession_run (hnew : DrawnNew host request drawn db) (n : Nat) :
    (schedule n = none ∧ createSession host drawn schedule n db =
      (.ok (newSession host drawn db), n + 1, db.withSession host drawn)) ∨
    (schedule n ≠ none ∧ ∃ s, KeysAfter [] db s ∧
      createSession host drawn schedule n db = (.error .unavailable, n + 1, s)) := by
  have hkey : ¬ ∃ k ∈ db.apiKeys, k.keyHash = host.hash drawn.apiKey :=
    fun ⟨k, hk, h⟩ => hnew.key k hk h
  have htoken : ¬ ∃ s ∈ db.demoSessions, s.tokenHash = host.hash drawn.secret :=
    fun ⟨s, hs, h⟩ => hnew.token s hs h
  simp only [createSession, call, if_neg hkey, if_neg htoken]
  cases hn : schedule n with
  | none => exact Or.inl ⟨rfl, rfl⟩
  | some fault =>
      refine Or.inr ⟨Option.some_ne_none fault, ?_⟩
      cases fault with
      | refused => exact ⟨db, keysAfter_self, rfl⟩
      | lost => exact ⟨_, keysAfter_of_keysOf ⟨rfl, rfl, rfl⟩, rfl⟩

theorem provisioned_withSandbox (hstore : SandboxStore db) :
    Provisioned db.nextId (db.withSandbox host drawn) :=
  provisioned_of_withProfile (fun a ha => Nat.ne_of_lt (hstore.assets a ha))
    (fun l hl => Nat.ne_of_lt (hstore.ledgers l hl))
    (fun a ha => Nat.ne_of_lt (hstore.accounts a ha).1)
    fun t ht => Nat.ne_of_lt (hstore.transactions t ht).1

theorem Provisioned.revoke {tenantId : Uuid} (h : Provisioned tenantId s) :
    Provisioned tenantId (s.revoke ids) where
  assets := h.assets
  ledgers := h.ledgers
  accounts := h.accounts
  transactions := h.transactions
  profiles := fun profile hprofile =>
    (h.profiles profile hprofile).imp fun _ hstocked =>
      ⟨hstocked.ledger, hstocked.accounts, hstocked.opening⟩

theorem previousKeys_lt (hstore : SandboxStore db) :
    ∀ id ∈ previousKeys host request db, id < db.nextId := by
  intro id hid
  unfold previousKeys at hid
  split at hid
  · cases hid
  · obtain ⟨session, hsession, rfl⟩ := List.mem_map.mp hid
    exact hstore.sessions session (List.mem_of_mem_filter hsession)

/-- The new session is there, and its key live. -/
theorem live_withSandbox (hids : ∀ id ∈ ids, id < db.nextId) :
    ((db.withSandbox host drawn).revoke ids).Live (db.nextId + 1) := by
  refine ⟨newKey host drawn db, ?_, rfl, rfl⟩
  rw [DemoDb.revoke, keysOf_withSandbox.1]
  refine List.mem_map.mpr ⟨newKey host drawn db, List.mem_append_right _
    (List.mem_singleton_self _), if_neg fun hid => ?_⟩
  exact absurd (hids _ hid) (Nat.not_lt.mpr (Nat.le_succ _))

theorem session_withSandbox :
    newSession host drawn db ∈ ((db.withSandbox host drawn).revoke ids).demoSessions := by
  show newSession host drawn db ∈ (db.withSandbox host drawn).demoSessions
  rw [keysOf_withSandbox.2.1]
  exact List.mem_append_right _ (List.mem_singleton_self _)

/-- The sessions that the cookie names are those of before. -/
theorem sessionKeys_withSandbox (hnew : DrawnNew host request drawn db) {previous : String}
    (hcookie : previousCookie request = some previous) :
    (db.withSandbox host drawn).sessionKeys (host.hash previous) =
      previousKeys host request db := by
  have hother : (newSession host drawn db).tokenHash ≠ host.hash previous :=
    (hnew.cookie previous hcookie).symm
  rw [previousKeys, hcookie, DemoDb.sessionKeys, keysOf_withSandbox.2.1, DemoDb.withSession,
    List.filter_append, List.filter_singleton]
  simp [hother, DemoDb.sessionKeys]

/-- The revocation, and what the call count says of the schedule after it. -/
theorem revokePrevious_run (hnew : DrawnNew host request drawn db) :
    (previousCookie request = none ∧
      revokePrevious host request schedule 19 (db.withSandbox host drawn) =
        (.ok ⟨⟩, 19, (db.withSandbox host drawn).revoke (previousKeys host request db))) ∨
    (previousCookie request ≠ none ∧ schedule 19 = none ∧
      revokePrevious host request schedule 19 (db.withSandbox host drawn) =
        (.ok ⟨⟩, 20, (db.withSandbox host drawn).revoke (previousKeys host request db))) ∨
    (previousCookie request ≠ none ∧ schedule 19 = some .lost ∧
      revokePrevious host request schedule 19 (db.withSandbox host drawn) =
        (.error .unavailable, 20,
          (db.withSandbox host drawn).revoke (previousKeys host request db))) ∨
    (previousCookie request ≠ none ∧ schedule 19 = some .refused ∧
      revokePrevious host request schedule 19 (db.withSandbox host drawn) =
        (.error .unavailable, 20, db.withSandbox host drawn)) := by
  cases hcookie : previousCookie request with
  | none =>
      refine Or.inl ⟨rfl, ?_⟩
      rw [previousKeys, hcookie, revoke_nil, revokePrevious]
      rw [previousCookie] at hcookie
      rw [hcookie]
      rfl
  | some previous =>
      have hsome : some previous ≠ none := Option.some_ne_none previous
      rw [← sessionKeys_withSandbox hnew hcookie, revokePrevious]
      rw [previousCookie] at hcookie
      rw [hcookie]
      rcases writing_run (fun s : DemoDb =>
          (PUnit.unit, s.revoke (s.sessionKeys (host.hash previous)))) 19
          (db.withSandbox host drawn) with ⟨hn, hrun⟩ | ⟨hn, hrun⟩ | ⟨hn, hrun⟩
      · exact Or.inr (Or.inl ⟨hsome, hn, hrun⟩)
      · exact Or.inr (Or.inr (Or.inl ⟨hsome, hn, hrun⟩))
      · exact Or.inr (Or.inr (Or.inr ⟨hsome, hn, hrun⟩))

/-- The rest of the handler, once the sandbox is provisioned. -/
theorem finish_run (hstore : SandboxStore db) (hnew : DrawnNew host request drawn db)
    (hanswered : ∀ n < 19, schedule n = none) :
    ∃ result n s, (do
        revokePrevious host request
        sendPayload host (setCookie request drawn.secret) (newSession host drawn db) :
          DemoProgram SandboxReply) schedule 19 (db.withSandbox host drawn) = (result, n, s) ∧
      Outcome host request drawn schedule db result s := by
  have hkeys : KeysAfter (previousKeys host request db) db
      ((db.withSandbox host drawn).revoke (previousKeys host request db)) :=
    keysAfter_revoke keysOf_withSandbox
  have hcreated : ∀ body : SessionPayload, body.tenantId = db.nextId →
      ¬ (BreaksOff schedule ∧ previousCookie request ≠ none) →
      Outcome host request drawn schedule db
        (.ok (.created (setCookie request drawn.secret) body))
        ((db.withSandbox host drawn).revoke (previousKeys host request db)) :=
    fun _ htenant hwhole => .created hkeys hwhole session_withSandbox
      (live_withSandbox (previousKeys_lt hstore)) htenant (provisioned_withSandbox hstore).revoke
  rcases revokePrevious_run hnew with ⟨hcookie, hrun⟩ | ⟨hcookie, hn, hrun⟩ |
    ⟨hcookie, hn, hrun⟩ | ⟨hcookie, hn, hrun⟩
  · have hwhole : ¬ (BreaksOff schedule ∧ previousCookie request ≠ none) := fun h => h.2 hcookie
    rcases sendPayload_run (setCookie request drawn.secret) (newSession host drawn db) 19 _ with
      ⟨_, body, htenant, hsent⟩ | ⟨_, hsent⟩
    · exact ⟨_, _, _, (bind_of_ok hrun).trans hsent, hcreated body htenant hwhole⟩
    · refine ⟨_, _, _, (bind_of_ok hrun).trans hsent, .kept (fun h => h) ?_ hwhole⟩
      rw [previousKeys, hcookie] at hkeys ⊢
      exact hkeys
  · rcases sendPayload_run (setCookie request drawn.secret) (newSession host drawn db) 20 _ with
      ⟨hn', body, htenant, hsent⟩ | ⟨hn', hsent⟩
    · refine ⟨_, _, _, (bind_of_ok hrun).trans hsent, hcreated body htenant ?_⟩
      rintro ⟨⟨_, hlost | ⟨_, hfault⟩⟩, _⟩
      · cases hn.symm.trans hlost
      · exact hfault hn'
    · exact ⟨_, _, _, (bind_of_ok hrun).trans hsent,
        .broken (fun h => h) hkeys ⟨hanswered, Or.inr ⟨hn, hn'⟩⟩ hcookie⟩
  · exact ⟨_, _, _, bind_of_error hrun,
      .broken (fun h => h) hkeys ⟨hanswered, Or.inl hn⟩ hcookie⟩
  · refine ⟨_, _, _, bind_of_error hrun,
      .kept (fun h => h) (keysAfter_of_keysOf keysOf_withSandbox) ?_⟩
    rintro ⟨⟨_, hlost | ⟨hnone, _⟩⟩, _⟩
    · cases hn.symm.trans hlost
    · cases hn.symm.trans hnone

/-- What the catch clause leaves, when provisioning has thrown. -/
theorem catch_run (hstore : SandboxStore db) (hkeys : KeysOf (db.withSession host drawn) s)
    (e : DemoError) (n : Nat) :
    ∃ e' n' s', (do
        revokeKey (newSession host drawn db).apiKeyId
        throw e : DemoProgram PUnit) schedule n s = (.error e', n', s') ∧ KeysAfter [] db s' := by
  rcases writing_run (fun s : DemoDb => (PUnit.unit, s.revoke [db.nextId + 1])) n s with
    ⟨_, hrun⟩ | ⟨_, hrun⟩ | ⟨_, hrun⟩
  · exact ⟨_, _, _, bind_of_ok hrun, keysAfter_revoke_new hstore hkeys⟩
  · exact ⟨_, _, _, bind_of_error hrun, keysAfter_revoke_new hstore hkeys⟩
  · exact ⟨_, _, _, bind_of_error hrun, keysAfter_of_keysOf hkeys⟩

/-- The handler, from an admitted request on. -/
theorem openSandbox_outcome (hlaws : host.Lawful) (hstore : SandboxStore db)
    (hnew : DrawnNew host request drawn db) :
    Outcome host request drawn schedule db
      ((openSandbox host request drawn).run schedule db).1
      ((openSandbox host request drawn).run schedule db).2 := by
  suffices ∃ result n s, openSandbox host request drawn schedule 0 db = (result, n, s) ∧
      Outcome host request drawn schedule db result s by
    obtain ⟨result, n, s, hrun, houtcome⟩ := this
    rw [Awaited.run, hrun]
    exact houtcome
  rcases createSession_run hnew 0 with ⟨hfirst, hcreate⟩ | ⟨hfirst, s, hkeys, hcreate⟩
  · rcases makes_sandbox hlaws hstore schedule 1 (db.withSession host drawn) rfl with
      ⟨hrest, _, s, hprovision, rfl⟩ | ⟨⟨i, hi, hfault⟩, e, n, s, hprovision, hkeys⟩
    · have hanswered : ∀ n < 19, schedule n = none := by
        intro n hn
        cases n with
        | zero => exact hfirst
        | succ n =>
            rw [Nat.add_comm]
            exact hrest n (Nat.lt_of_succ_lt_succ hn)
      obtain ⟨result, n, s', hfinish, houtcome⟩ := finish_run hstore hnew hanswered
      exact ⟨result, n, s', (bind_of_ok hcreate).trans
        ((bind_of_ok (tryCatch_of_ok hprovision)).trans hfinish), houtcome⟩
    · obtain ⟨e', n', s', hcatch, hkeys⟩ := catch_run hstore hkeys.1 e n
      refine ⟨_, _, _, (bind_of_ok hcreate).trans
        (bind_of_error ((tryCatch_of_error hprovision).trans hcatch)),
        .kept (fun h => h) hkeys ?_⟩
      rintro ⟨⟨hanswered, _⟩, _⟩
      exact hfault (hanswered (1 + i) (by omega))
  · refine ⟨_, _, _, bind_of_error hcreate, .kept (fun h => h) hkeys ?_⟩
    rintro ⟨⟨hanswered, _⟩, _⟩
    exact hfirst (hanswered 0 (Nat.succ_pos 18))

end Run

/-! ## The claim about failures -/

section Atomic

variable {host : SandboxHost} {request : SandboxRequest} {drawn : Drawn} {schedule : Schedule}
  {db s : DemoDb} {ids : List Uuid} {result : Except DemoError SandboxReply} {keyId : Uuid}

theorem mem_previousKeys :
    keyId ∈ previousKeys host request db ↔
      ∃ s ∈ db.demoSessions, Previous host request s ∧ s.apiKeyId = keyId := by
  unfold previousKeys Previous
  cases previousCookie request with
  | none => simp
  | some previous =>
      simp only [DemoDb.sessionKeys, List.mem_map, List.mem_filter, decide_eq_true_eq,
        Option.some.injEq, exists_eq_left', and_assoc]

theorem mem_revoke_of_not_mem {k : ApiKey} (hk : k.id ∉ ids) :
    k ∈ (db.revoke ids).apiKeys ↔ k ∈ db.apiKeys := by
  rw [DemoDb.revoke, List.mem_map]
  constructor
  · rintro ⟨k', hk', heq⟩
    by_cases hid : k'.id ∈ ids
    · rw [if_pos hid] at heq
      rw [← heq] at hk
      exact absurd hid hk
    · rw [if_neg hid] at heq
      exact heq ▸ hk'
  · exact fun h => ⟨k, h, if_neg hk⟩

/-- Revoking leaves exactly the other keys live. -/
theorem live_revoke : (db.revoke ids).Live keyId ↔ db.Live keyId ∧ keyId ∉ ids := by
  constructor
  · rintro ⟨k, hk, rfl, hlive⟩
    have hid : k.id ∉ ids := by
      intro hid
      obtain ⟨k', _, heq⟩ := List.mem_map.mp hk
      by_cases hid' : k'.id ∈ ids
      · rw [if_pos hid'] at heq
        rw [← heq] at hlive
        cases hlive
      · rw [if_neg hid'] at heq
        exact hid' (heq ▸ hid)
    exact ⟨⟨k, (mem_revoke_of_not_mem hid).mp hk, rfl, hlive⟩, hid⟩
  · rintro ⟨⟨k, hk, rfl, hlive⟩, hid⟩
    exact ⟨k, (mem_revoke_of_not_mem hid).mpr hk, rfl, hlive⟩

theorem live_of_keysAfter (hkeys : KeysAfter ids db s) (hid : keyId < db.nextId) :
    s.Live keyId ↔ db.Live keyId ∧ keyId ∉ ids := by
  rw [← live_revoke]
  constructor
  · rintro ⟨k, hk, rfl, hlive⟩
    exact ⟨k, (hkeys k hid).mp hk, rfl, hlive⟩
  · rintro ⟨k, hk, rfl, hlive⟩
    exact ⟨k, (hkeys k hid).mpr hk, rfl, hlive⟩

/-- The keys of third sessions are left alone. -/
theorem others_of_keysAfter (hstore : SandboxStore db)
    (hids : ∀ id ∈ ids, id ∈ previousKeys host request db) (hkeys : KeysAfter ids db s) :
    ∀ session ∈ db.demoSessions, ¬ Previous host request session →
      ∀ k, k.id = session.apiKeyId → (k ∈ s.apiKeys ↔ k ∈ db.apiKeys) := by
  intro session hsession hthird k hk
  have hnot : k.id ∉ ids := by
    intro hid
    obtain ⟨session', hsession', hprevious, hkey⟩ := mem_previousKeys.mp (hids _ hid)
    have hsame := List.inj_on_of_nodup_map hstore.ownKeys hsession' hsession (hkey.trans hk)
    exact hthird (hsame ▸ hprevious)
  rw [hkeys k (hk ▸ hstore.sessions session hsession), mem_revoke_of_not_mem hnot]

/-- What neither answers 201 nor changes a key is failure-atomic. -/
theorem failureAtomic_of_kept (hstore : SandboxStore db) (hresult : ¬ IsCreated result)
    (hkeys : KeysAfter [] db s) : FailureAtomic host request drawn db result s where
  kept := fun _ session hsession _ hlive =>
    (live_of_keysAfter hkeys (hstore.sessions session hsession)).mpr ⟨hlive, List.not_mem_nil⟩
  replaced := fun h => absurd h hresult
  others := others_of_keysAfter hstore (fun _ h => absurd h List.not_mem_nil) hkeys

theorem Outcome.failureAtomic_iff (hstore : SandboxStore db)
    (houtcome : Outcome host request drawn schedule db result s) :
    FailureAtomic host request drawn db result s ↔
      ¬ (BreaksOff schedule ∧ ∃ s ∈ db.demoSessions, Previous host request s ∧
        db.Live s.apiKeyId) := by
  have hcookie : ∀ {session}, Previous host request session → previousCookie request ≠ none := by
    rintro session ⟨previous, hprevious, _⟩
    rw [hprevious]
    exact Option.some_ne_none previous
  cases houtcome with
  | kept hfailed hkeys hwhole =>
      refine iff_of_true (failureAtomic_of_kept hstore hfailed hkeys) ?_
      rintro ⟨hbreaks, _, _, hprevious, _⟩
      exact hwhole ⟨hbreaks, hcookie hprevious⟩
  | broken hfailed hkeys hbreaks _ =>
      constructor
      · rintro hatomic ⟨_, session, hsession, hprevious, hlive⟩
        have hkept := hatomic.kept hfailed session hsession hprevious hlive
        rw [live_of_keysAfter hkeys (hstore.sessions session hsession)] at hkept
        exact hkept.2 (mem_previousKeys.mpr ⟨session, hsession, hprevious, rfl⟩)
      · intro hnone
        exact {
          kept := fun _ session hsession hprevious hlive =>
            absurd ⟨hbreaks, session, hsession, hprevious, hlive⟩ hnone
          replaced := fun h => absurd h hfailed
          others := others_of_keysAfter hstore (fun _ h => h) hkeys }
  | created hkeys hwhole hsession hlive htenant hprovisioned =>
      refine iff_of_true ?_ ?_
      · exact {
          kept := fun h => absurd trivial h
          replaced := fun _ => by
            refine ⟨fun keyId hbefore => ?_, _, rfl, _, hsession, rfl, htenant.symm, hlive,
              hprovisioned⟩
            obtain ⟨k, hk, hid, _⟩ := id hbefore
            rw [live_of_keysAfter hkeys (hid ▸ hstore.keys k hk), ← mem_previousKeys]
            exact ⟨fun h => not_not.mp fun hnot => h ⟨hbefore, hnot⟩, fun h h' => h'.2 h⟩
          others := others_of_keysAfter hstore (fun _ h => h) hkeys }
      · rintro ⟨hbreaks, _, _, hprevious, _⟩
        exact hwhole ⟨hbreaks, hcookie hprevious⟩

/-- Replacing a sandbox is failure-atomic unless an admitted request, whose cookie names a
session with a live key, breaks off between the revocation of that key and its reply. -/
theorem postSession_failureAtomic_iff (host : SandboxHost) (limiter : FixedWindowLimiter)
    (nowMs : Int) (request : SandboxRequest) (drawn : Drawn) (schedule : Schedule) (db : DemoDb)
    (hlaws : host.Lawful) (hstore : SandboxStore db) (hnew : DrawnNew host request drawn db) :
    FailureAtomic host request drawn db
        ((postSession host limiter nowMs request drawn).2.run schedule db).1
        ((postSession host limiter nowMs request drawn).2.run schedule db).2 ↔
      ¬ (Admitted host request limiter nowMs ∧ BreaksOff schedule ∧
        ∃ s ∈ db.demoSessions, Previous host request s ∧ db.Live s.apiKeyId) := by
  unfold postSession Admitted
  by_cases hcross : request.secFetchSite = some "cross-site"
  · rw [if_pos hcross]
    exact iff_of_true (failureAtomic_of_kept hstore (fun h => h) keysAfter_self)
      fun h => h.1.1 hcross
  · rw [if_neg hcross]
    by_cases horigin : sameOrigin host request = true
    · rw [if_neg (not_not.mpr horigin)]
      by_cases hallowed : (limiter.consume request.ip SESSION_LIMIT nowMs).1.allowed = true
      · dsimp only
        rw [if_pos hallowed, (openSandbox_outcome hlaws hstore hnew).failureAtomic_iff hstore]
        exact not_congr ⟨fun h => ⟨⟨hcross, horigin, hallowed⟩, h⟩, fun h => h.2⟩
      · dsimp only
        rw [if_neg hallowed]
        exact iff_of_true (failureAtomic_of_kept hstore (fun h => h) keysAfter_self)
          fun h => hallowed h.1.2.2
    · rw [if_pos horigin]
      exact iff_of_true (failureAtomic_of_kept hstore (fun h => h) keysAfter_self)
        fun h => horigin h.1.2.1

section Sample

/-- A host whose hash is its input with a mark. -/
def sampleHost : SandboxHost where
  toServices := tableServices fun s => "sha256 " ++ s
  hash := fun s => "sha256 " ++ s
  localeLe := fun a b => a ≤ b
  urlHost := fun _ => none
  issueAccessToken := fun _ _ _ => "token"
  accessTokenTtlSeconds := 900

theorem sampleHost_lawful : sampleHost.Lawful := tableServices_lawful rfl

/-- A request of a browser that has a sandbox. -/
def sampleRequest : SandboxRequest where
  ip := "127.0.0.1"
  secFetchSite := some "same-origin"
  origin := none
  host := none
  cookie := some "theme=dark; luxledger_sandbox=old"
  protocol := "https"
  xForwardedProto := none

/-- What a request draws. -/
def sampleDrawn : Drawn := ⟨"new", "key"⟩

/-- Its sandbox. -/
def sampleDb : DemoDb :=
  { DemoDb.empty 0 with
    tenants := [⟨1, "Interactive sandbox"⟩]
    apiKeys := [⟨2, 1, "Sandbox service", .service, "sha256 old key", none⟩]
    demoSessions := [⟨3, "sha256 old", 1, 2, 1000⟩]
    nextId := 4 }

theorem sampleDb_store : SandboxStore sampleDb where
  assets := by decide
  ledgers := by decide
  accounts := by decide
  transactions := by decide
  keyIds := by decide
  ownKeys := by decide
  keys := by decide
  sessions := by decide

theorem previousCookie_sample : previousCookie sampleRequest = some "old" := by decide +kernel

theorem sampleDrawn_new : DrawnNew sampleHost sampleRequest sampleDrawn sampleDb where
  token := by decide +kernel
  key := by decide +kernel
  cookie := by
    intro previous hprevious
    rw [previousCookie_sample, Option.some.injEq] at hprevious
    rw [← hprevious]
    decide +kernel

/-- Without a fault the old sandbox is replaced whole. -/
theorem postSession_failureAtomic_reliable :
    FailureAtomic sampleHost sampleRequest sampleDrawn sampleDb
      ((postSession sampleHost .new 0 sampleRequest sampleDrawn).2.run reliable sampleDb).1
      ((postSession sampleHost .new 0 sampleRequest sampleDrawn).2.run reliable sampleDb).2 := by
  rw [postSession_failureAtomic_iff sampleHost .new 0 sampleRequest sampleDrawn reliable sampleDb
    sampleHost_lawful sampleDb_store sampleDrawn_new]
  rintro ⟨_, ⟨_, hlost | ⟨_, hfault⟩⟩, _⟩
  · cases hlost
  · exact hfault rfl

/-- The listing of the assets for the reply does not come through. -/
def replyFails : Schedule := fun n => if n = 20 then some .refused else none

/-- The error reply carries the cookie of the new sandbox. -/
example : ((postSession sampleHost .new 0 sampleRequest sampleDrawn).2.run replyFails
    sampleDb).1.toOption = some (.failed (setCookie sampleRequest "new") .unavailable) := by
  decide +kernel

/-- The request fails, and the key of the old sandbox is revoked. -/
theorem postSession_fails_and_revokes :
    ¬ FailureAtomic sampleHost sampleRequest sampleDrawn sampleDb
      ((postSession sampleHost .new 0 sampleRequest sampleDrawn).2.run replyFails sampleDb).1
      ((postSession sampleHost .new 0 sampleRequest sampleDrawn).2.run replyFails sampleDb).2 := by
  intro hatomic
  have hfailed : ((postSession sampleHost .new 0 sampleRequest sampleDrawn).2.run replyFails
      sampleDb).1.toOption = some (.failed (setCookie sampleRequest "new") .unavailable) := by
    decide +kernel
  have hkeys : ∀ k ∈ ((postSession sampleHost .new 0 sampleRequest sampleDrawn).2.run replyFails
      sampleDb).2.apiKeys, k.id = 2 → k.revokedAt ≠ none := by decide +kernel
  obtain ⟨k, hk, hid, hlive⟩ := hatomic.kept
    (fun hcreated => by
      generalize ((postSession sampleHost .new 0 sampleRequest sampleDrawn).2.run replyFails
        sampleDb).1 = result at hfailed hcreated
      cases result with
      | error e => exact hcreated
      | ok reply =>
          rw [Option.some.inj hfailed] at hcreated
          exact hcreated)
    ⟨3, "sha256 old", 1, 2, 1000⟩ (by decide) ⟨"old", previousCookie_sample, rfl⟩
    ⟨⟨2, 1, "Sandbox service", .service, "sha256 old key", none⟩, by decide, rfl, rfl⟩
  exact hkeys k hk hid hlive

end Sample

end Atomic

end LuxLedger.Demo
