/-
  Demo/SeedResume.lean --- what a seed leaves behind when it stops, and what a further
  one makes of that.
-/
import LuxLedger.Demo.Seed

set_option autoImplicit false

namespace LuxLedger.Demo

open Foundation Relational Schema Awaited

variable {α : Type}

/-! ## What a seed has built -/

section Built

variable (host : Host) (config : DemoConfig)

/-- The opening posting. -/
def openingFunding (tenantId ledgerId fundingId aliceId : Uuid) : NewTransaction where
  tenantId := tenantId
  ledgerId := ledgerId
  reference := SEED_REFERENCE
  currency := CURRENCY
  description := "Fund wallet:alice"
  metadata := none
  entries := [entry fundingId 10000, entry aliceId (-10000)]

/-- The database has an account of that name. -/
def DemoDb.Has (db : DemoDb) (name : String) : Prop := ∃ a ∈ db.accounts, a.name = name

/-- The opening posting is the only transaction. -/
def Posted (tenantId ledgerId : Uuid) (db : DemoDb) : Prop :=
  ∃ funding ∈ db.accounts, ∃ alice ∈ db.accounts, funding.name = FUNDING_ADDRESS ∧
    alice.name = "wallet:alice" ∧ ∃ id createdAt, db.transactions =
      [⟨openingFunding tenantId ledgerId funding.id alice.id, id, createdAt⟩]

/-- A seed has created the tenant with its key, and may have gone on to the asset, the
ledger, some of the accounts and, once it has all of them, the opening posting. -/
structure Begun (tenantId : Uuid) (db : DemoDb) : Prop where
  tenants : db.tenants = [⟨tenantId, config.tenantName⟩]
  apiKeys : ∃ id, db.apiKeys =
    [⟨id, tenantId, config.adminKeyName, .admin, host.hash config.adminApiKey, none⟩]
  assets : db.assets = [] ∨ ∃ id, db.assets = [⟨id, tenantId, CURRENCY, 2⟩]
  ledgers : db.ledgers = [] ∨ ∃ id, db.ledgers = [⟨id, tenantId, LEDGER_NAME⟩]
  assetFirst : db.ledgers ≠ [] → db.assets ≠ []
  accounts : ∀ a ∈ db.accounts, ∃ ledger ∈ db.ledgers, ∃ account ∈ seedAccounts,
    a.toNewAccount = account.new tenantId ledger.id
  names : UniqueKey (fun a => a.name) db.accounts
  ids : UniqueKey AccountEntity.id db.accounts
  fresh : ∀ a ∈ db.accounts, a.id < db.nextId
  transactions : db.transactions = [] ∨ (∀ account ∈ seedAccounts, db.Has account.name) ∧
    ∃ ledger ∈ db.ledgers, Posted tenantId ledger.id db

/-- A seed of an empty database has stopped here. -/
def SeedPoint (db : DemoDb) : Prop :=
  (∃ now, db = .empty now) ∨ ∃ tenantId, Begun host config tenantId db

/-- The demo is there: the tenant with its key, the USD asset, the ledger, the three
accounts, and the opening posting alone. -/
def Seeded (db : DemoDb) : Prop :=
  ∃ tenantId ledgerId, db.tenants = [⟨tenantId, config.tenantName⟩] ∧
    (∃ id, db.apiKeys =
      [⟨id, tenantId, config.adminKeyName, .admin, host.hash config.adminApiKey, none⟩]) ∧
    (∃ id, db.assets = [⟨id, tenantId, CURRENCY, 2⟩]) ∧
    db.ledgers = [⟨ledgerId, tenantId, LEDGER_NAME⟩] ∧
    (db.accounts.map (·.toNewAccount)).Perm (seedAccounts.map (·.new tenantId ledgerId)) ∧
    Posted tenantId ledgerId db

/-- The ledger is there. -/
structure Opened (tenantId ledgerId : Uuid) (db : DemoDb) : Prop
    extends Begun host config tenantId db where
  ledger : db.ledgers = [⟨ledgerId, tenantId, LEDGER_NAME⟩]

end Built

/-! ## Reading -/

section Reading

variable {host : Host} {config : DemoConfig} {schedule : Schedule} {tenantId ledgerId : Uuid}
  {db : DemoDb}

theorem spec_authenticate (hlaws : host.Lawful) (hbegun : Begun host config tenantId db) :
    Spec schedule (· = db) (query .unavailable (host.authenticate config.adminApiKey))
      (fun key s => s = db ∧ key.tenantId = tenantId) (Down schedule (· = db)) := by
  obtain ⟨id, hkeys⟩ := hbegun.apiKeys
  have hfound := hlaws.authenticate config.adminApiKey db
    ⟨id, tenantId, config.adminKeyName, .admin, host.hash config.adminApiKey, none⟩ (by
      rw [hkeys, List.find?_singleton, if_pos (by simp)])
  refine spec_query ?_ ?_ fun s hs hfault => ⟨hs, hfault⟩
  · rintro s key rfl hkey
    rw [hfound] at hkey
    exact ⟨rfl, Except.ok.inj hkey ▸ rfl⟩
  · rintro s e rfl he
    rw [hfound] at he
    cases he

theorem Opened.accountsOf_eq (hopened : Opened host config tenantId ledgerId db)
    (name : Option String) :
    db.accountsOf tenantId ledgerId name = db.accounts.filter fun a => name.all (a.name = ·) := by
  apply List.filter_congr
  intro a ha
  obtain ⟨ledger, hledger, account, _, hnew⟩ := hopened.accounts a ha
  rw [hopened.ledger, List.mem_singleton] at hledger
  rw [hnew, hledger]
  simp [SeedAccount.new]

theorem Opened.transactionsOf_eq (hopened : Opened host config tenantId ledgerId db) :
    db.transactionsOf tenantId ledgerId = db.transactions := by
  rcases hopened.transactions with hnone | ⟨_, ledger, hledger, funding, _, alice, _, _, _, id,
    createdAt, hposted⟩
  · rw [DemoDb.transactionsOf, hnone, List.filter_nil]
  · rw [hopened.ledger, List.mem_singleton] at hledger
    rw [DemoDb.transactionsOf, hposted, hledger]
    simp [openingFunding]

theorem Opened.head?_ledgers (hopened : Opened host config tenantId ledgerId db) :
    (page LedgerEntity.id 1 none (db.ledgers.filter fun l =>
      l.tenantId = tenantId ∧ l.name = LEDGER_NAME)).data.head? =
        some ⟨ledgerId, tenantId, LEDGER_NAME⟩ := by
  rw [hopened.ledger]
  simp [page, rowsPast]

theorem head?_ledgers_nil (hledgers : db.ledgers = []) :
    (page LedgerEntity.id 1 none (db.ledgers.filter fun l =>
      l.tenantId = tenantId ∧ l.name = LEDGER_NAME)).data.head? = none := by
  rw [hledgers]
  simp [page, rowsPast]

/-- With the ledger there, `context` finds it, unless a call does not come through. -/
theorem spec_context (hlaws : host.Lawful) (hopened : Opened host config tenantId ledgerId db) :
    Spec schedule (· = db) (context host config)
      (fun here s => s = db ∧ here = ⟨tenantId, ledgerId⟩) (Down schedule (· = db)) := by
  refine spec_bind_and (p := fun key => key.tenantId = tenantId) (T := (· = db)) ?_
    fun key htenant => ?_
  · exact spec_tryCatch (spec_authenticate hlaws hopened.toBegun) fun _ => spec_throw fun _ hs => hs
  · refine spec_reading_bind (fun _ hfault => ⟨rfl, hfault⟩) ?_
    rw [htenant, hlaws.listLedgers, hopened.head?_ledgers]
    exact spec_pure fun _ hs => ⟨hs, rfl⟩

/-- Without it, it never succeeds, and says that the demo is not ready. -/
theorem spec_context_notReady (hlaws : host.Lawful) (hledgers : db.ledgers = []) :
    Spec schedule (· = db) (context host config) (fun _ _ => False)
      (fun e s => s = db ∧ (e = .notReady ∨ schedule ≠ reliable)) := by
  refine spec_bind (R := fun _ s => s = db) ?_ fun key => ?_
  · have hauthenticate : Spec schedule (· = db)
        (query .unavailable (host.authenticate config.adminApiKey))
        (fun _ s => s = db) (fun _ s => s = db) :=
      spec_query (fun _ _ hs _ => hs) (fun _ _ hs _ => hs) fun _ hs _ => hs
    exact spec_tryCatch hauthenticate fun _ => spec_throw fun _ hs => ⟨hs, .inl rfl⟩
  · refine spec_reading_bind (fun _ hfault => ⟨rfl, .inr hfault⟩) ?_
    rw [hlaws.listLedgers, head?_ledgers_nil hledgers]
    exact spec_throw fun _ hs => ⟨hs, .inl rfl⟩

theorem spec_accountsFrom (hlaws : host.Lawful) (pages : Nat) (cursor : Option Uuid) :
    Spec schedule (· = db) (accountsFrom host tenantId ledgerId pages cursor)
      (fun views s => s = db ∧ views = (returned (follow AccountEntity.id cursor
        (List.replicate pages (db.accountsOf tenantId ledgerId none, 100)))).map db.view)
      (Down schedule (· = db)) := by
  induction pages generalizing cursor with
  | zero => exact spec_pure fun _ hs => ⟨hs, rfl⟩
  | succ pages ih =>
      refine spec_reading_bind (fun _ hfault => ⟨rfl, hfault⟩) ?_
      rw [hlaws.listAccounts, List.replicate_succ, follow, returned, List.flatMap_cons,
        List.map_append]
      dsimp only
      cases (page AccountEntity.id 100 cursor (db.accountsOf tenantId ledgerId none)).next with
      | none => exact spec_pure fun _ hs => ⟨hs, (List.append_nil _).symm⟩
      | some next =>
          refine spec_bind (ih (some next)) fun views => ?_
          exact spec_pure fun _ hs => ⟨hs.1, by rw [hs.2]; rfl⟩

/-- The loop comes to the end of the listing, and has all of it. -/
theorem returned_accounts (hopened : Opened host config tenantId ledgerId db) (name : String) :
    (∃ v ∈ (returned (follow AccountEntity.id none (List.replicate (db.accounts.length + 1)
        (db.accountsOf tenantId ledgerId none, 100)))).map db.view, v.name = name) ↔
      db.Has name := by
  have hrows : db.accountsOf tenantId ledgerId none = db.accounts := by
    rw [hopened.accountsOf_eq]
    simp
  rw [hrows]
  have hreads : ∀ {q : List AccountEntity × Nat → Prop}, q (db.accounts, 100) →
      ∀ read ∈ List.replicate (db.accounts.length + 1) (db.accounts, 100), q read :=
    fun hq read hread => List.eq_of_mem_replicate hread ▸ hq
  have hlimits : ∀ read ∈ List.replicate (db.accounts.length + 1) (db.accounts, 100), 0 < read.2 :=
    hreads (Nat.succ_pos 99)
  have hkeys : ∀ read ∈ List.replicate (db.accounts.length + 1) (db.accounts, 100),
      UniqueKey AccountEntity.id read.1 := hreads hopened.ids
  have hmany : (db.accounts.map (·.id)).length <
      (List.replicate (db.accounts.length + 1) (db.accounts, 100)).length := by
    rw [List.length_map, List.length_replicate]
    exact Nat.lt_succ_self _
  have hended : Ended (follow AccountEntity.id none
      (List.replicate (db.accounts.length + 1) (db.accounts, 100))) :=
    ended_of_lt hlimits hkeys (hreads fun a ha => List.mem_map_of_mem ha) hmany
  have hmem : ∀ a ∈ returned (follow AccountEntity.id none
      (List.replicate (db.accounts.length + 1) (db.accounts, 100))), a ∈ db.accounts := by
    intro a ha
    obtain ⟨page, hpage, ha⟩ := List.mem_flatMap.mp ha
    obtain ⟨read, hread⟩ := exists_read_of_page hpage
    have hread' := mem_of_returned hlimits hkeys hread a ha
    rw [List.eq_of_mem_replicate (List.of_mem_zip hread).1] at hread'
    exact hread'
  constructor
  · rintro ⟨v, hv, rfl⟩
    obtain ⟨a, ha, rfl⟩ := List.mem_map.mp hv
    exact ⟨a, hmem a ha, rfl⟩
  · rintro ⟨a, ha, rfl⟩
    have hid : a.id ∈ (returned (follow AccountEntity.id none (List.replicate
        (db.accounts.length + 1) (db.accounts, 100)))).map AccountEntity.id :=
      returned_of_ended hlimits hkeys hended (fun _ hc => (by cases hc))
        (hreads (List.mem_map_of_mem ha))
    obtain ⟨a', ha', heq⟩ := List.mem_map.mp hid
    obtain rfl := List.inj_on_of_nodup_map hopened.ids (hmem a' ha') ha heq
    exact ⟨db.view a', List.mem_map_of_mem ha', rfl⟩

/-- The accounts of the ledger, all of them. -/
theorem spec_accounts (hlaws : host.Lawful) (hopened : Opened host config tenantId ledgerId db) :
    Spec schedule (· = db) (accounts host tenantId ledgerId)
      (fun views s => s = db ∧ ∀ name, (∃ v ∈ views, v.name = name) ↔ db.Has name)
      (Down schedule (· = db)) := by
  intro n s hs
  subst hs
  refine spec_post (spec_accountsFrom hlaws (s.accounts.length + 1) none) ?_ n s rfl
  rintro views _ ⟨rfl, rfl⟩
  exact ⟨rfl, returned_accounts hopened⟩

/-- `getState` only reads. -/
theorem spec_getState (hlaws : host.Lawful) (hopened : Opened host config tenantId ledgerId db) :
    Spec schedule (· = db) (getState host config) (fun _ s => s = db)
      (Down schedule (· = db)) := by
  refine spec_bind_of_eq (spec_context hlaws hopened) ?_
  refine spec_bind_and (spec_accounts hlaws hopened) fun listed _ => ?_
  refine spec_reading_bind (fun _ hfault => ⟨rfl, hfault⟩) ?_
  refine spec_reading_bind (fun _ hfault => ⟨rfl, hfault⟩) ?_
  refine spec_reading_bind (fun _ hfault => ⟨rfl, hfault⟩) ?_
  exact spec_pure fun _ hs => hs

end Reading

/-! ## The steps of a seed -/

section Steps

variable {host : Host} {config : DemoConfig} {schedule : Schedule} {tenantId ledgerId : Uuid}
  {db : DemoDb}

/-- What holds where a seed throws. -/
abbrev Stopped (host : Host) (config : DemoConfig) (schedule : Schedule) :
    DemoError → DemoDb → Prop :=
  Down schedule (SeedPoint host config)

theorem Begun.seedPoint (hbegun : Begun host config tenantId db) : SeedPoint host config db :=
  Or.inr ⟨tenantId, hbegun⟩

/-- A program that leaves the state as it is stops where it was. -/
theorem stopped_of_unchanged {program : DemoProgram α} {Q : α → DemoDb → Prop}
    (hdb : SeedPoint host config db)
    (h : Spec schedule (· = db) program Q (Down schedule (· = db))) :
    Spec schedule (· = db) program Q (Stopped host config schedule) :=
  spec_post_error h fun _ _ hs => ⟨hs.1 ▸ hdb, hs.2⟩

theorem begun_empty (now : Timestamp) :
    Begun host config 1 { DemoDb.empty now with
      tenants := [⟨1, config.tenantName⟩]
      apiKeys := [⟨2, 1, config.adminKeyName, .admin, host.hash config.adminApiKey, none⟩]
      nextId := 3 } where
  tenants := rfl
  apiKeys := ⟨2, rfl⟩
  assets := Or.inl rfl
  ledgers := Or.inl rfl
  assetFirst := fun h => absurd rfl h
  accounts := fun _ ha => (by cases ha)
  names := .nil
  ids := .nil
  fresh := fun _ ha => (by cases ha)
  transactions := Or.inl rfl

/-- A tenant that is there is found by its key. -/
theorem seedTenant_there (hlaws : host.Lawful)
    (hbegun : Begun host config tenantId db) :
    Spec schedule (· = db) (seedTenant host config) (fun t s => s = db ∧ t = tenantId)
      (Down schedule (· = db)) := by
  obtain ⟨id, hkeys⟩ := hbegun.apiKeys
  have hsome : db.apiKeys ≠ [] := by
    rw [hkeys]
    exact List.cons_ne_nil _ _
  refine spec_bind_of_eq (b := none) (T := (· = db)) ?_ ?_
  · refine spec_writing ?_ (fun _ hs => hs) fun _ _ hs => hs.1
    rintro s rfl
    rw [hlaws.bootstrapInitialAdmin, if_neg hsome]
    exact ⟨rfl, rfl⟩
  · refine spec_bind (spec_authenticate hlaws hbegun) fun key => ?_
    exact spec_pure fun s hs => hs

theorem spec_seedTenant (hlaws : host.Lawful) :
    Spec schedule (SeedPoint host config) (seedTenant host config)
      (fun tenantId db => Begun host config tenantId db) (Stopped host config schedule) := by
  apply spec_of_state
  rintro db (⟨now, rfl⟩ | ⟨tenantId, hbegun⟩)
  · refine spec_bind (R := fun created db => created = some 1 ∧ Begun host config 1 db) ?_
      fun created => spec_of_imp (fun _ hs => hs.1) ?_
    · refine spec_writing ?_ (fun s hs => hs ▸ Or.inl ⟨now, rfl⟩) fun _ s hs => hs.2.seedPoint
      rintro s rfl
      rw [hlaws.bootstrapInitialAdmin]
      exact ⟨rfl, begun_empty now⟩
    · rintro rfl
      exact spec_pure fun _ hs => hs.2
  · refine spec_post (stopped_of_unchanged hbegun.seedPoint (seedTenant_there hlaws hbegun)) ?_
    rintro t s ⟨rfl, rfl⟩
    exact hbegun

theorem seedAsset_there (hlaws : host.Lawful) (hbegun : Begun host config tenantId db)
    (hasset : db.assets ≠ []) :
    Spec schedule (· = db) (seedAsset host tenantId) (fun _ s => s = db)
      (Down schedule (· = db)) := by
  obtain ⟨id, hassets⟩ := hbegun.assets.resolve_left hasset
  refine spec_reading_bind (fun _ hfault => ⟨rfl, hfault⟩) ?_
  rw [if_neg]
  · exact spec_pure fun _ hs => hs
  · rw [hlaws.listAssets, page_eq_nil_iff Nat.one_pos, hassets]
    simp

theorem Begun.tenant_mem (hbegun : Begun host config tenantId db) :
    ∃ t ∈ db.tenants, t.id = tenantId := by
  rw [hbegun.tenants]
  exact ⟨_, List.mem_singleton_self _, rfl⟩

theorem Begun.admitsAsset (hbegun : Begun host config tenantId db) (hassets : db.assets = []) :
    AdmitsAsset db tenantId CURRENCY where
  tenant := hbegun.tenant_mem
  code := by
    rw [hassets]
    exact fun _ ha => absurd ha List.not_mem_nil

theorem Begun.withAsset (hbegun : Begun host config tenantId db) (hassets : db.assets = []) :
    Begun host config tenantId (db.withAsset tenantId CURRENCY 2) ∧
      (db.withAsset tenantId CURRENCY 2).assets ≠ [] := by
  have hasset : (db.withAsset tenantId CURRENCY 2).assets =
      [⟨db.nextId, tenantId, CURRENCY, 2⟩] := by
    rw [DemoDb.withAsset, hassets, List.nil_append]
  have hsome : (db.withAsset tenantId CURRENCY 2).assets ≠ [] := by
    rw [hasset]
    exact List.cons_ne_nil _ _
  exact ⟨{ hbegun with
    assets := Or.inr ⟨db.nextId, hasset⟩
    assetFirst := fun _ => hsome
    fresh := fun a ha => Nat.lt_succ_of_lt (hbegun.fresh a ha) }, hsome⟩

theorem spec_seedAsset (hlaws : host.Lawful) :
    Spec schedule (Begun host config tenantId) (seedAsset host tenantId)
      (fun _ db => Begun host config tenantId db ∧ db.assets ≠ [])
      (Stopped host config schedule) := by
  apply spec_of_state
  intro db hbegun
  by_cases hassets : db.assets = []
  · refine spec_reading_bind (fun _ hfault => ⟨hbegun.seedPoint, hfault⟩) ?_
    rw [hlaws.listAssets,
      if_pos ((page_eq_nil_iff Nat.one_pos).mpr (by rw [hassets, List.filter_nil]))]
    have hcreated := hbegun.withAsset hassets
    refine spec_creating_bind
      (hlaws.createAsset tenantId CURRENCY 2 db (hbegun.admitsAsset hassets))
      (fun _ hfault => ⟨hbegun.seedPoint, hfault⟩) (fun _ hfault => ⟨hcreated.1.seedPoint, hfault⟩)
      (spec_pure fun s hs => hs ▸ hcreated)
  · refine spec_post (stopped_of_unchanged hbegun.seedPoint
      (seedAsset_there hlaws hbegun hassets)) ?_
    rintro _ s rfl
    exact ⟨hbegun, hassets⟩

theorem seedLedger_there (hlaws : host.Lawful)
    (hopened : Opened host config tenantId ledgerId db) :
    Spec schedule (· = db) (seedLedger host tenantId)
      (fun ledger s => s = db ∧ ledger = ⟨ledgerId, tenantId, LEDGER_NAME⟩)
      (Down schedule (· = db)) := by
  refine spec_reading_bind (fun _ hfault => ⟨rfl, hfault⟩) ?_
  rw [hlaws.listLedgers, hopened.head?_ledgers]
  exact spec_pure fun _ hs => ⟨hs, rfl⟩

theorem Begun.withLedger (hbegun : Begun host config tenantId db) (hasset : db.assets ≠ [])
    (hnone : db.ledgers = []) :
    Opened host config tenantId db.nextId (db.withLedger tenantId LEDGER_NAME) := by
  have hledger : (db.withLedger tenantId LEDGER_NAME).ledgers =
      [⟨db.nextId, tenantId, LEDGER_NAME⟩] := by
    rw [DemoDb.withLedger, hnone, List.nil_append]
  refine { hbegun with
    ledgers := Or.inr ⟨db.nextId, hledger⟩
    assetFirst := fun _ => hasset
    accounts := fun a ha => ?_
    fresh := fun a ha => Nat.lt_succ_of_lt (hbegun.fresh a ha)
    transactions := Or.inl ?_
    ledger := hledger }
  · obtain ⟨ledger, hmem, _⟩ := hbegun.accounts a ha
    rw [hnone] at hmem
    cases hmem
  · rcases hbegun.transactions with hnone' | ⟨_, ledger, hmem, _⟩
    · exact hnone'
    · rw [hnone] at hmem
      cases hmem

theorem spec_seedLedger (hlaws : host.Lawful) :
    Spec schedule (fun db => Begun host config tenantId db ∧ db.assets ≠ [])
      (seedLedger host tenantId)
      (fun ledger db => Opened host config tenantId ledger.id db)
      (Stopped host config schedule) := by
  apply spec_of_state
  rintro db ⟨hbegun, hasset⟩
  rcases hbegun.ledgers with hnone | ⟨id, hledgers⟩
  · refine spec_reading_bind (fun _ hfault => ⟨hbegun.seedPoint, hfault⟩) ?_
    rw [hlaws.listLedgers, head?_ledgers_nil hnone]
    have hopened := hbegun.withLedger hasset hnone
    refine spec_post (spec_creating (hlaws.createLedger tenantId LEDGER_NAME db hbegun.tenant_mem)
      (fun _ hfault => ⟨hbegun.seedPoint, hfault⟩)
      fun _ hfault => ⟨hopened.toBegun.seedPoint, hfault⟩) ?_
    rintro _ _ ⟨rfl, rfl⟩
    exact hopened
  · have hopened : Opened host config tenantId id db := { hbegun with ledger := hledgers }
    refine spec_post (stopped_of_unchanged hbegun.seedPoint (seedLedger_there hlaws hopened)) ?_
    rintro ledger s ⟨rfl, rfl⟩
    exact hopened

theorem Opened.seedPoint (hopened : Opened host config tenantId ledgerId db) :
    SeedPoint host config db := hopened.toBegun.seedPoint

/-- All three accounts are there. -/
def Stocked (db : DemoDb) : Prop := ∀ account ∈ seedAccounts, db.Has account.name

/-- Where an account is still to be created, nothing has been posted. -/
theorem Opened.transactions_eq_nil (hopened : Opened host config tenantId ledgerId db)
    {account : SeedAccount} (haccount : account ∈ seedAccounts) (hmissing : ¬ db.Has account.name) :
    db.transactions = [] :=
  hopened.transactions.resolve_right fun h => hmissing (h.1 account haccount)

theorem has_withAccount {account : NewAccount} {name : String} :
    (db.withAccount account).Has name ↔ db.Has name ∨ account.name = name := by
  simp [DemoDb.Has, DemoDb.withAccount, or_and_right, exists_or]

theorem Opened.withAccount (hopened : Opened host config tenantId ledgerId db)
    {account : SeedAccount} (haccount : account ∈ seedAccounts) (hmissing : ¬ db.Has account.name) :
    Opened host config tenantId ledgerId (db.withAccount (account.new tenantId ledgerId)) where
  tenants := hopened.tenants
  apiKeys := hopened.apiKeys
  assets := hopened.assets
  ledgers := hopened.ledgers
  assetFirst := hopened.assetFirst
  ledger := hopened.ledger
  transactions := Or.inl (hopened.transactions_eq_nil haccount hmissing)
  accounts := by
    intro a ha
    rcases List.mem_append.mp ha with ha | ha
    · exact hopened.accounts a ha
    · rw [List.mem_singleton] at ha
      refine ⟨⟨ledgerId, tenantId, LEDGER_NAME⟩, ?_, account, haccount, ha ▸ rfl⟩
      show _ ∈ db.ledgers
      rw [hopened.ledger]
      exact List.mem_singleton_self _
  names := hopened.names.append_singleton fun a ha hname => hmissing ⟨a, ha, hname⟩
  ids := hopened.ids.append_singleton fun a ha => Nat.ne_of_lt (hopened.fresh a ha)
  fresh := by
    intro a ha
    rcases List.mem_append.mp ha with ha | ha
    · exact Nat.lt_succ_of_lt (hopened.fresh a ha)
    · rw [List.mem_singleton] at ha
      rw [ha]
      exact Nat.lt_succ_self _

/-- The names that the listing has are those of the accounts. -/
def Lists (existing : List AccountView) (db : DemoDb) (name : String) : Prop :=
  (∃ v ∈ existing, v.name = name) ↔ db.Has name

theorem createSeedAccounts_there {existing : List AccountView}
    (hall : ∀ account ∈ seedAccounts, ∃ v ∈ existing, v.name = account.name) :
    Spec schedule (· = db) (createSeedAccounts host existing tenantId ledgerId) (fun _ s => s = db)
      (Down schedule (· = db)) := by
  refine spec_forM_of_mem fun account haccount => ?_
  obtain ⟨v, hv, hname⟩ := hall account haccount
  rw [if_pos (List.any_eq_true.mpr ⟨v, hv, decide_eq_true hname⟩)]
  exact spec_pure fun _ hs => hs

theorem Opened.admitsAccount (hopened : Opened host config tenantId ledgerId db)
    (account : SeedAccount) : AdmitsAccount db (account.new tenantId ledgerId) where
  ledger := by
    rw [hopened.ledger]
    exact ⟨_, List.mem_singleton_self _, rfl, rfl⟩
  currency := by
    obtain ⟨id, hassets⟩ := hopened.assets.resolve_left
      (hopened.assetFirst (by rw [hopened.ledger]; exact List.cons_ne_nil _ _))
    rw [hassets]
    exact ⟨_, List.mem_singleton_self _, rfl, rfl⟩
  code := fun hsome => absurd rfl hsome

theorem spec_createSeedAccounts (hlaws : host.Lawful) {existing : List AccountView} :
    Spec schedule (fun db => Opened host config tenantId ledgerId db ∧
        ∀ account ∈ seedAccounts, Lists existing db account.name)
      (createSeedAccounts host existing tenantId ledgerId)
      (fun _ db => Opened host config tenantId ledgerId db ∧ Stocked db)
      (Stopped host config schedule) := by
  -- what the loop still has to do is as the listing says; what it has done is there
  refine spec_consequence (P := fun db => Opened host config tenantId ledgerId db ∧
    (seedAccounts.map (·.name)).Nodup ∧ (∀ account ∈ seedAccounts, account ∈ seedAccounts ∧
      Lists existing db account.name) ∧ ∀ account ∈ seedAccounts, account ∉ seedAccounts →
        db.Has account.name) (spec_forM (I := fun rest db =>
    Opened host config tenantId ledgerId db ∧ (rest.map (·.name)).Nodup ∧
      (∀ account ∈ rest, account ∈ seedAccounts ∧ Lists existing db account.name) ∧
      ∀ account ∈ seedAccounts, account ∉ rest → db.Has account.name) ?_ seedAccounts)
    ?_ ?_ fun _ _ hs => hs
  · intro account rest
    apply spec_of_state
    rintro db ⟨hopened, hnames, hrest, hdone⟩
    obtain ⟨haccount, hlists⟩ := hrest account List.mem_cons_self
    obtain ⟨hfirst, hnames⟩ := List.nodup_cons.mp hnames
    split
    · next hany =>
      have hthere : db.Has account.name := hlists.mp (by simpa using hany)
      refine spec_pure fun s hs => hs ▸ ⟨hopened, hnames,
        fun a ha => hrest a (List.mem_cons_of_mem _ ha), fun a ha hnot => ?_⟩
      by_cases heq : a = account
      · exact heq ▸ hthere
      · exact hdone a ha fun hmem => (List.mem_cons.mp hmem).elim heq hnot
    · next hany =>
      have hmissing : ¬ db.Has account.name := fun hhas => hany (by simpa using hlists.mpr hhas)
      have hcreated := hopened.withAccount haccount hmissing
      refine spec_creating_bind (hlaws.createAccount _ db (hopened.admitsAccount account))
        (fun _ hfault => ⟨hopened.seedPoint, hfault⟩)
        (fun _ hfault => ⟨hcreated.seedPoint, hfault⟩) ?_
      refine spec_pure fun s hs => hs ▸ ⟨hcreated, hnames, ?_, ?_⟩
      · intro a ha
        refine ⟨(hrest a (List.mem_cons_of_mem _ ha)).1, ?_⟩
        rw [Lists, has_withAccount, or_iff_left]
        · exact (hrest a (List.mem_cons_of_mem _ ha)).2
        · exact fun hname => hfirst (List.mem_map.mpr ⟨a, ha, hname.symm⟩)
      · intro a ha hnot
        rw [has_withAccount]
        by_cases heq : a = account
        · exact Or.inr (heq ▸ rfl)
        · exact Or.inl (hdone a ha fun hmem => (List.mem_cons.mp hmem).elim heq hnot)
  · rintro s ⟨hopened, hlists⟩
    exact ⟨hopened, by decide, fun a ha => ⟨ha, hlists a ha⟩, fun a ha hnot => absurd ha hnot⟩
  · rintro _ s ⟨hopened, _, _, hdone⟩
    exact ⟨hopened, fun a ha => hdone a ha List.not_mem_nil⟩

/-! ### The opening posting -/

theorem spec_accountByAddress (hlaws : host.Lawful)
    (hopened : Opened host config tenantId ledgerId db) {name : String} (hhas : db.Has name) :
    Spec schedule (· = db) (accountByAddress host tenantId ledgerId name)
      (fun v s => s = db ∧ v.toAccountEntity ∈ db.accounts ∧ v.name = name)
      (Down schedule (· = db)) := by
  obtain ⟨a, ha, rfl⟩ := hhas
  refine spec_reading_bind (fun _ hfault => ⟨rfl, hfault⟩) ?_
  have hfound : db.accountsOf tenantId ledgerId (some a.name) = [a] := by
    rw [hopened.accountsOf_eq]
    exact hopened.names.filter_eq_singleton ha
  rw [hlaws.listAccounts, hfound]
  exact spec_pure fun s hs => ⟨hs, ha, rfl⟩

/-- The ledger has all it is to have. -/
structure Finished (host : Host) (config : DemoConfig) (tenantId ledgerId : Uuid) (db : DemoDb) :
    Prop extends Opened host config tenantId ledgerId db where
  stocked : Stocked db
  posted : Posted tenantId ledgerId db

theorem Opened.finished (hopened : Opened host config tenantId ledgerId db)
    (hsome : db.transactions ≠ []) : Finished host config tenantId ledgerId db := by
  obtain ⟨hstocked, ledger, hledger, hposted⟩ := hopened.transactions.resolve_left hsome
  rw [hopened.ledger, List.mem_singleton] at hledger
  rw [hledger] at hposted
  exact { hopened with stocked := hstocked, posted := hposted }

/-- The posting completes the seed. -/
theorem Opened.finished_of_posting (hopened : Opened host config tenantId ledgerId db)
    (hstocked : Stocked db) (hnone : db.transactions = []) {funding alice : AccountEntity}
    (hfunding : funding ∈ db.accounts) (hfundingName : funding.name = FUNDING_ADDRESS)
    (halice : alice ∈ db.accounts) (haliceName : alice.name = "wallet:alice") :
    Finished host config tenantId ledgerId
      (db.withTransaction (openingFunding tenantId ledgerId funding.id alice.id)) := by
  have hposted : Posted tenantId ledgerId
      (db.withTransaction (openingFunding tenantId ledgerId funding.id alice.id)) := by
    refine ⟨funding, hfunding, alice, halice, hfundingName, haliceName, db.nextId, db.now, ?_⟩
    rw [DemoDb.withTransaction, hnone, List.nil_append]
  have hledger : (⟨ledgerId, tenantId, LEDGER_NAME⟩ : LedgerEntity) ∈ db.ledgers := by
    rw [hopened.ledger]
    exact List.mem_singleton_self _
  exact { hopened with
    fresh := fun a ha => Nat.lt_succ_of_lt (hopened.fresh a ha)
    transactions := Or.inr ⟨hstocked, _, hledger, hposted⟩
    stocked := hstocked
    posted := hposted }

/-- An account that a seed created takes the entry of the opening posting. -/
theorem Opened.takes (hopened : Opened host config tenantId ledgerId db) {a : AccountEntity}
    (ha : a ∈ db.accounts) (account : SeedAccount) (hname : a.name = account.name)
    (haccount : account ∈ seedAccounts) {new : NewTransaction} {amount : Int}
    (htenant : tenantId = new.tenantId) (hledger : ledgerId = new.ledgerId)
    (hcurrency : CURRENCY = new.currency)
    (hcovered : account.policy = .allow ∨ account.side = .credit ∧ amount < 0) :
    Takes a new (entry a.id amount) := by
  obtain ⟨ledger, hmem, other, hother, hnew⟩ := hopened.accounts a ha
  rw [hopened.ledger, List.mem_singleton] at hmem
  have hinj : ∀ x ∈ seedAccounts, ∀ y ∈ seedAccounts, x.name = y.name → x = y := by decide
  have hsame : other = account := hinj other hother account haccount (by rw [← hname, hnew]; rfl)
  rw [hmem, hsame] at hnew
  exact {
    tenant := by rw [hnew]; exact htenant
    ledger := by rw [hnew]; exact hledger
    id := rfl
    currency := ⟨by rw [hnew]; exact hcurrency, hcurrency⟩
    plain := by rw [hnew]; rfl
    covered := by rw [hnew]; exact hcovered }

theorem Opened.admitsOpening (hopened : Opened host config tenantId ledgerId db)
    (hnone : db.transactions = []) {funding alice : AccountEntity}
    (hfunding : funding ∈ db.accounts) (hfundingName : funding.name = FUNDING_ADDRESS)
    (halice : alice ∈ db.accounts) (haliceName : alice.name = "wallet:alice") :
    AdmitsTransaction db (openingFunding tenantId ledgerId funding.id alice.id) where
  reference := by
    rw [hnone]
    exact fun _ ht => absurd ht List.not_mem_nil
  balanced := rfl
  entries := by
    intro e he
    rcases List.mem_pair.mp he with rfl | rfl
    · exact ⟨(by decide : (10000 : Int) ≠ 0), funding, hfunding,
        hopened.takes hfunding ⟨FUNDING_ADDRESS, .debit, .allow⟩ hfundingName (by decide)
          rfl rfl rfl (Or.inl rfl)⟩
    · exact ⟨(by decide : (-10000 : Int) ≠ 0), alice, halice,
        hopened.takes halice ⟨"wallet:alice", .credit, .disallow⟩ haliceName (by decide)
          rfl rfl rfl (Or.inr ⟨rfl, by decide⟩)⟩

theorem Finished.seedPoint (hfinished : Finished host config tenantId ledgerId db) :
    SeedPoint host config db := hfinished.toOpened.seedPoint

theorem parseAmount_opening : parseAmount "10000" = .ok 10000 := by decide +kernel

theorem normalizeAddress_alice : normalizeAddress "wallet:alice" = .ok "wallet:alice" := by
  decide +kernel

theorem spec_fund (hlaws : host.Lawful) (hopened : Opened host config tenantId ledgerId db)
    (hstocked : Stocked db) (hnone : db.transactions = []) :
    Spec schedule (· = db) (fund host config "wallet:alice" "10000" SEED_REFERENCE)
      (fun _ s => Finished host config tenantId ledgerId s) (Stopped host config schedule) := by
  unfold fund
  rw [parseAmount_opening, normalizeAddress_alice]
  refine spec_bind_of_eq (b := 10000) (T := (· = db)) (spec_pure fun _ hs => ⟨hs, rfl⟩) ?_
  refine spec_bind_of_eq (stopped_of_unchanged hopened.seedPoint (spec_context hlaws hopened)) ?_
  refine spec_bind_of_eq (b := "wallet:alice") (T := (· = db)) (spec_pure fun _ hs => ⟨hs, rfl⟩) ?_
  refine spec_bind_and (stopped_of_unchanged hopened.seedPoint (spec_accountByAddress hlaws hopened
    (hstocked ⟨"wallet:alice", .credit, .disallow⟩ (by decide)))) ?_
  rintro alice ⟨halice, haliceName⟩
  refine spec_bind_and (stopped_of_unchanged hopened.seedPoint (spec_accountByAddress hlaws hopened
    (hstocked ⟨FUNDING_ADDRESS, .debit, .allow⟩ (by decide)))) ?_
  rintro funding ⟨hfunding, hfundingName⟩
  have hfinished := hopened.finished_of_posting hstocked hnone hfunding hfundingName halice
    haliceName
  rw [haliceName]
  refine spec_creating_bind (hlaws.createTransaction _ db
    (hopened.admitsOpening hnone hfunding hfundingName halice haliceName))
    (fun _ hfault => ⟨hopened.seedPoint, hfault⟩) (fun _ hfault => ⟨hfinished.seedPoint, hfault⟩) ?_
  refine spec_post (stopped_of_unchanged hfinished.seedPoint
    (spec_getState hlaws hfinished.toOpened)) ?_
  rintro _ _ rfl
  exact hfinished

theorem seedFunding_there (hlaws : host.Lawful)
    (hfinished : Finished host config tenantId ledgerId db) :
    Spec schedule (· = db) (seedFunding host config tenantId ledgerId) (fun _ s => s = db)
      (Down schedule (· = db)) := by
  refine spec_reading_bind (fun _ hfault => ⟨rfl, hfault⟩) ?_
  rw [if_pos]
  · exact spec_pure fun _ hs => hs
  · obtain ⟨_, _, _, _, _, _, id, createdAt, hposted⟩ := hfinished.posted
    rw [hlaws.listTransactions, hfinished.transactionsOf_eq, hposted]
    simp [page, rowsPast, openingFunding]

theorem spec_seedFunding (hlaws : host.Lawful) :
    Spec schedule (fun db => Opened host config tenantId ledgerId db ∧ Stocked db)
      (seedFunding host config tenantId ledgerId)
      (fun _ s => Finished host config tenantId ledgerId s) (Stopped host config schedule) := by
  apply spec_of_state
  rintro db ⟨hopened, hstocked⟩
  by_cases hnone : db.transactions = []
  · refine spec_reading_bind (fun _ hfault => ⟨hopened.seedPoint, hfault⟩) ?_
    rw [if_neg]
    · exact spec_bind (spec_fund hlaws hopened hstocked hnone) fun _ => spec_pure fun _ hs => hs
    · rw [hlaws.listTransactions, hopened.transactionsOf_eq, hnone]
      simp [page, rowsPast]
  · have hfinished := hopened.finished hnone
    refine spec_post (stopped_of_unchanged hopened.seedPoint
      (seedFunding_there hlaws hfinished)) ?_
    rintro _ _ rfl
    exact hfinished

end Steps

/-! ## Resuming -/

section Resume

variable {host : Host} {config : DemoConfig} {schedule : Schedule} {tenantId ledgerId : Uuid}
  {db : DemoDb}

theorem spec_performSeed (hlaws : host.Lawful) :
    Spec schedule (SeedPoint host config) (performSeed host config)
      (fun _ s => ∃ tenantId ledgerId, Finished host config tenantId ledgerId s)
      (Stopped host config schedule) := by
  refine spec_bind (spec_seedTenant hlaws) fun tenantId => ?_
  refine spec_bind (spec_seedAsset hlaws) fun _ => ?_
  refine spec_bind (spec_seedLedger hlaws) fun ledger => ?_
  refine spec_bind (R := fun existing s => Opened host config tenantId ledger.id s ∧
    ∀ account ∈ seedAccounts, Lists existing s account.name) ?_ fun existing => ?_
  · refine spec_of_state fun s hs => ?_
    refine spec_post (stopped_of_unchanged hs.seedPoint (spec_accounts hlaws hs)) ?_
    rintro existing _ ⟨rfl, hlists⟩
    exact ⟨hs, fun account _ => hlists account.name⟩
  · refine spec_bind (spec_createSeedAccounts hlaws) fun _ => ?_
    refine spec_bind (spec_seedFunding hlaws) fun _ => spec_of_state fun s hs => ?_
    refine spec_post (stopped_of_unchanged hs.seedPoint (spec_getState hlaws hs.toOpened)) ?_
    rintro _ _ rfl
    exact ⟨tenantId, ledger.id, hs⟩

/-- Where all is done, `performSeed` has nothing to do. -/
theorem performSeed_there (hlaws : host.Lawful)
    (hfinished : Finished host config tenantId ledgerId db) :
    Spec schedule (· = db) (performSeed host config) (fun _ s => s = db)
      (Down schedule (· = db)) := by
  have hopened := hfinished.toOpened
  have hasset : db.assets ≠ [] := hopened.assetFirst (by rw [hopened.ledger]; simp)
  refine spec_bind_of_eq (seedTenant_there hlaws hopened.toBegun) ?_
  refine spec_bind (seedAsset_there hlaws hopened.toBegun hasset) fun _ => ?_
  refine spec_bind_of_eq (seedLedger_there hlaws hopened) ?_
  refine spec_bind_and (spec_accounts hlaws hopened) fun existing hlists => ?_
  refine spec_bind (createSeedAccounts_there fun account haccount =>
    (hlists account.name).mpr (hfinished.stocked account haccount)) fun _ => ?_
  exact spec_bind (seedFunding_there hlaws hfinished) fun _ => spec_getState hlaws hopened

/-- Without the ledger, `getState` does not succeed. -/
theorem getState_notReady (hlaws : host.Lawful) (hledgers : db.ledgers = []) :
    Spec schedule (· = db) (getState host config) (fun _ _ => False)
      (fun e s => s = db ∧ (e = .notReady ∨ schedule ≠ reliable)) :=
  spec_bind (spec_context_notReady hlaws hledgers) fun _ => spec_of_imp (fun _ hs => hs) False.elim

/-- Without the ledger, the probe fails, and the seed does all that is left. -/
theorem seed_of_no_ledger (hlaws : host.Lawful) (hpoint : SeedPoint host config db)
    (hledgers : db.ledgers = []) :
    Spec schedule (· = db) (seed host config)
      (fun _ s => ∃ tenantId ledgerId, Finished host config tenantId ledgerId s)
      (Stopped host config schedule) := by
  refine spec_tryCatch (spec_post (getState_notReady hlaws hledgers) fun _ _ hs => hs.elim)
    fun e => ?_
  split
  · exact spec_pre (spec_performSeed hlaws) fun s hs => hs.1 ▸ hpoint
  · next hready => exact spec_throw fun s hs => ⟨hs.1 ▸ hpoint, hs.2.resolve_left hready⟩

/-- With the ledger, a reliable seed ends at the probe. -/
theorem seed_of_ledger (hlaws : host.Lawful) (hopened : Opened host config tenantId ledgerId db) :
    Spec reliable (· = db) (seed host config) (fun _ s => s = db) (fun _ _ => False) := by
  refine spec_tryCatch (spec_getState hlaws hopened) fun e => ?_
  exact spec_of_imp (fun _ hs => hs.2 rfl) False.elim

theorem seed_there (hlaws : host.Lawful) (hfinished : Finished host config tenantId ledgerId db) :
    Spec schedule (· = db) (seed host config) (fun _ s => s = db) (Down schedule (· = db)) := by
  refine spec_tryCatch (spec_getState hlaws hfinished.toOpened) fun e => ?_
  split
  · exact spec_pre (performSeed_there hlaws hfinished) fun _ hs => hs.1
  · exact spec_throw fun _ hs => hs

/-- Wherever a seed stops, it is at a seed point. -/
theorem seedPoint_of_seed (hlaws : host.Lawful) (hpoint : SeedPoint host config db)
    (schedule : Schedule) :
    SeedPoint host config ((seed host config).run schedule db).2 := by
  refine Spec.always (P := (· = db)) (spec_tryCatch (?_ : Spec schedule (· = db) (getState host
    config) (fun _ => SeedPoint host config) fun _ => SeedPoint host config) fun e => ?_) rfl
  · rcases hpoint with ⟨now, rfl⟩ | ⟨tenantId, hbegun⟩
    · exact spec_consequence (getState_notReady hlaws rfl) (fun _ hs => hs) (fun _ _ hs => hs.elim)
        fun _ s hs => hs.1 ▸ Or.inl ⟨now, rfl⟩
    · rcases hbegun.ledgers with hnone | ⟨id, hledgers⟩
      · exact spec_consequence (getState_notReady hlaws hnone) (fun _ hs => hs)
          (fun _ _ hs => hs.elim) fun _ s hs => hs.1 ▸ hbegun.seedPoint
      · have hopened : Opened host config tenantId id db := { hbegun with ledger := hledgers }
        exact spec_consequence (spec_getState hlaws hopened) (fun _ hs => hs)
          (fun _ s hs => hs ▸ hbegun.seedPoint) fun _ s hs => hs.1 ▸ hbegun.seedPoint
  · split
    · exact spec_consequence (spec_performSeed hlaws) (fun _ hs => hs)
        (fun _ s ⟨_, _, hs⟩ => hs.seedPoint) fun _ _ hs => hs.1
    · exact spec_throw fun _ hs => hs

theorem Finished.seeded (hfinished : Finished host config tenantId ledgerId db) :
    Seeded host config db := by
  have hassets : db.assets ≠ [] := hfinished.assetFirst (by rw [hfinished.ledger]; simp)
  refine ⟨tenantId, ledgerId, hfinished.tenants, hfinished.apiKeys,
    hfinished.assets.resolve_left hassets, hfinished.ledger, ?_, hfinished.posted⟩
  have hnew : ∀ a ∈ db.accounts, ∃ account ∈ seedAccounts,
      a.toNewAccount = account.new tenantId ledgerId := by
    intro a ha
    obtain ⟨ledger, hledger, account, haccount, hnew⟩ := hfinished.accounts a ha
    rw [hfinished.ledger, List.mem_singleton] at hledger
    rw [hledger] at hnew
    exact ⟨account, haccount, hnew⟩
  have hnodup : (db.accounts.map (·.toNewAccount)).Nodup := by
    apply List.Nodup.of_map NewAccount.name
    rw [List.map_map]
    exact hfinished.names
  have hseeds : (seedAccounts.map (·.new tenantId ledgerId)).Nodup := by
    apply List.Nodup.of_map NewAccount.name
    rw [List.map_map]
    show (seedAccounts.map (·.name)).Nodup
    decide
  rw [List.perm_ext_iff_of_nodup hnodup hseeds]
  intro new
  rw [List.mem_map, List.mem_map]
  constructor
  · rintro ⟨a, ha, rfl⟩
    obtain ⟨account, haccount, heq⟩ := hnew a ha
    exact ⟨account, haccount, heq.symm⟩
  · rintro ⟨account, haccount, rfl⟩
    obtain ⟨a, ha, hname⟩ := hfinished.stocked account haccount
    obtain ⟨account', haccount', heq⟩ := hnew a ha
    have hnames : account'.name = account.name := by
      rw [← hname, heq]
      rfl
    have hinj : ∀ x ∈ seedAccounts, ∀ y ∈ seedAccounts, x.name = y.name → x = y := by decide
    exact ⟨a, ha, by rw [heq, hinj account' haccount' account haccount hnames]⟩

/-- A seed that starts here and ends successfully leaves the demo complete, and after it
no seed changes anything; and if no call fails it does end successfully. -/
def Resumes (host : Host) (config : DemoConfig) (db : DemoDb) : Prop :=
  (∃ state, ((seed host config).run reliable db).1 = .ok state) ∧
  ∀ schedule state, ((seed host config).run schedule db).1 = .ok state →
    Seeded host config ((seed host config).run schedule db).2 ∧
    ∀ again, ((seed host config).run again ((seed host config).run schedule db).2).2 =
      ((seed host config).run schedule db).2

theorem resumes_of_finished (hlaws : host.Lawful)
    (hfinished : Finished host config tenantId ledgerId db) :
    Resumes host config db := by
  have hsame : ∀ schedule, ((seed host config).run schedule db).2 = db := fun schedule =>
    Spec.always (spec_post_error (seed_there hlaws hfinished) fun _ _ hs => hs.1) rfl
  refine ⟨(seed_of_ledger hlaws hfinished.toOpened).ends rfl, fun schedule state _ => ?_⟩
  rw [hsame schedule]
  exact ⟨hfinished.seeded, hsame⟩

theorem resumes_of_no_ledger (hlaws : host.Lawful) (hpoint : SeedPoint host config db)
    (hledgers : db.ledgers = []) :
    Resumes host config db := by
  refine ⟨?_, fun schedule state hrun => ?_⟩
  · exact Spec.ends (spec_post_error (seed_of_no_ledger hlaws hpoint hledgers)
      fun _ _ hs => hs.2 rfl) rfl
  · obtain ⟨tenantId, ledgerId, hfinished⟩ :=
      (seed_of_no_ledger hlaws hpoint hledgers).of_ok rfl hrun
    exact ⟨hfinished.seeded, fun again =>
      Spec.always (spec_post_error (seed_there hlaws hfinished) fun _ _ hs => hs.1) rfl⟩

/-- A seed point with the ledger has it open. -/
theorem SeedPoint.opened (hpoint : SeedPoint host config db) (hledgers : db.ledgers ≠ []) :
    ∃ tenantId ledgerId, Opened host config tenantId ledgerId db := by
  rcases hpoint with ⟨now, rfl⟩ | ⟨tenantId, hbegun⟩
  · exact absurd rfl hledgers
  · obtain ⟨id, hledger⟩ := hbegun.ledgers.resolve_left hledgers
    exact ⟨tenantId, id, { hbegun with ledger := hledger }⟩

/-- With the ledger but no opening posting, the probe succeeds, and the seed ends there. -/
theorem not_resumes_of_unposted (hlaws : host.Lawful) (hpoint : SeedPoint host config db)
    (hledgers : db.ledgers ≠ [])
    (hnone : db.transactions = []) : ¬ Resumes host config db := by
  obtain ⟨tenantId, ledgerId, hopened⟩ := hpoint.opened hledgers
  rintro ⟨⟨state, hrun⟩, hseeds⟩
  obtain ⟨⟨_, _, _, _, _, _, _, _, _, _, _, _, _, id, createdAt, hposted⟩, _⟩ :=
    hseeds reliable state hrun
  rw [(seed_of_ledger hlaws hopened).of_ok rfl hrun, hnone] at hposted
  cases hposted

/-- A seed resumes an earlier one that stopped before it had created the ledger or after it
had made the opening posting, and no other. -/
theorem seed_resumes_iff (host : Host) (hlaws : host.Lawful) (config : DemoConfig)
    (db : DemoDb) (hpoint : SeedPoint host config db) :
    Resumes host config db ↔ db.ledgers = [] ∨ db.transactions ≠ [] := by
  by_cases hledgers : db.ledgers = []
  · exact iff_of_true (resumes_of_no_ledger hlaws hpoint hledgers) (Or.inl hledgers)
  · by_cases hnone : db.transactions = []
    · exact iff_of_false (not_resumes_of_unposted hlaws hpoint hledgers hnone)
        (not_or.mpr ⟨hledgers, not_not.mpr hnone⟩)
    · obtain ⟨tenantId, ledgerId, hopened⟩ := hpoint.opened hledgers
      exact iff_of_true (resumes_of_finished hlaws (hopened.finished hnone)) (Or.inr hnone)

section Stops

/-- The services on the tables, with a legible hash. -/
def localHost : Host where
  toServices := tableServices fun s => "sha256 " ++ s
  hash s := "sha256 " ++ s
  localeLe a b := a ≤ b

theorem localHost_lawful : localHost.Lawful := tableServices_lawful rfl

/-- The configuration of a local demo. -/
def localConfig : DemoConfig := ⟨"local-key", "Local admin", "Local demo", false⟩

/-- Where a seed of an empty database stops when the reply of a call is lost. -/
def stoppedAt (n : Nat) : DemoDb :=
  ((seed localHost localConfig).run (fun m => if m = n then some .lost else none) (.empty 0)).2

theorem seedPoint_stoppedAt (n : Nat) : SeedPoint localHost localConfig (stoppedAt n) :=
  seedPoint_of_seed localHost_lawful (Or.inl ⟨0, rfl⟩) _

/-- Once it has created the asset, it is resumed. -/
theorem seed_resumes_after_asset : Resumes localHost localConfig (stoppedAt 3) :=
  (seed_resumes_iff localHost localHost_lawful localConfig (stoppedAt 3)
    (seedPoint_stoppedAt 3)).mpr (Or.inl (by decide +kernel))

/-- Once it has created the ledger, it is not: the accounts are never made. -/
theorem seed_stuck_after_ledger :
    SeedPoint localHost localConfig (stoppedAt 5) ∧ ¬ Resumes localHost localConfig (stoppedAt 5) :=
  ⟨seedPoint_stoppedAt 5, not_resumes_of_unposted localHost_lawful (seedPoint_stoppedAt 5)
    (by decide +kernel) (by decide +kernel)⟩

end Stops

end Resume

end LuxLedger.Demo
