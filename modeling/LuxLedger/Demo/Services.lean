/-
  Demo/Services.lean --- the application services, as the demo uses them.

  The services come with the released library and are not part of the repository: they are
  a parameter, and what the demo relies on are laws about them.  A list has what it is asked
  for.  A row that the foreign keys and unique indexes let in is created, under the next id,
  and nothing else is changed; a posting must also balance and be one that its accounts
  take.  What the services do with other rows is left open.  The laws hold of the library
  on the tables below, in which a transaction whose reference its tenant has already is the
  earlier one.
-/
import LuxLedger.Foundation.Awaited
import LuxLedger.Foundation.KeysetPages
import LuxLedger.Schema.Tables

set_option autoImplicit false

namespace LuxLedger.Demo

open Foundation Schema Awaited

/-! ## Tables -/

/-- `ApiKeyRole`. -/
inductive ApiKeyRole where
  | admin
  | service
  deriving DecidableEq, Repr

/-- A row of `tenants`. -/
structure Tenant where
  id : Uuid
  name : String
  deriving DecidableEq, Repr

/-- A row of `api_keys`. -/
structure ApiKey where
  id : Uuid
  tenantId : Uuid
  name : String
  role : ApiKeyRole
  keyHash : String
  revokedAt : Option Timestamp
  deriving DecidableEq, Repr

/-- A row of `demo_sessions`. -/
structure DemoSession where
  id : Uuid
  tokenHash : String
  tenantId : Uuid
  apiKeyId : Uuid
  expiresAt : Timestamp
  deriving DecidableEq, Repr

/-- A row of `assets`. -/
structure AssetEntity where
  id : Uuid
  tenantId : Uuid
  code : String
  scale : Nat
  deriving DecidableEq, Repr

/-- A row of `ledgers`. -/
structure LedgerEntity where
  id : Uuid
  tenantId : Uuid
  name : String
  deriving DecidableEq, Repr

/-- What an account is created with. -/
structure NewAccount where
  tenantId : Uuid
  ledgerId : Uuid
  code : Option String
  name : String
  side : AccountSide
  overdraftPolicy : OverdraftPolicy
  grantEnabled : Bool
  currency : String
  deriving DecidableEq, Repr

/-- A row of `accounts`. -/
structure AccountEntity extends NewAccount where
  id : Uuid
  deriving DecidableEq, Repr

/-- A listed account. -/
structure AccountView extends AccountEntity where
  balanceMinor : Int
  deriving DecidableEq, Repr

/-- An entry.  A positive amount is a DEBIT, a negative one a CREDIT. -/
structure EntryInput where
  accountId : Uuid
  signedAmountMinor : Int
  currency : String
  deriving DecidableEq, Repr

/-- `{ scenario, provider: { payment_id } }`. -/
structure TransactionMetadata where
  scenario : String
  paymentId : String
  deriving DecidableEq, Repr

/-- What a transaction is posted with. -/
structure NewTransaction where
  tenantId : Uuid
  ledgerId : Uuid
  reference : String
  currency : String
  description : String
  metadata : Option TransactionMetadata
  entries : List EntryInput
  deriving DecidableEq, Repr

/-- A row of `transactions` with its entries. -/
structure TransactionEntity extends NewTransaction where
  id : Uuid
  createdAt : Timestamp
  deriving DecidableEq, Repr

/-- The database of the demo. -/
structure DemoDb where
  tenants : List Tenant
  apiKeys : List ApiKey
  demoSessions : List DemoSession
  assets : List AssetEntity
  ledgers : List LedgerEntity
  accounts : List AccountEntity
  transactions : List TransactionEntity
  holds : List Hold
  /-- the next `uuid_v7()` -/
  nextId : Uuid
  /-- `now()` -/
  now : Timestamp
  deriving DecidableEq, Repr

/-- A database with nothing but its schema. -/
def DemoDb.empty (now : Timestamp) : DemoDb :=
  ⟨[], [], [], [], [], [], [], [], 1, now⟩

/-! ## Errors and the host -/

/-- What the demo throws, and what its calls throw. -/
inductive DemoError where
  /-- `DemoNotReadyError` -/
  | notReady
  /-- `DemoInputError` -/
  | input (message : String)
  | unauthorized (message : String)
  | rateLimitExceeded (retryAfterSeconds : Int)
  /-- an `Error` of the service itself -/
  | failed (message : String)
  /-- a violated constraint -/
  | constraint (name : String)
  /-- what a call throws that does not come through -/
  | unavailable
  deriving DecidableEq, Repr

/-- What `balances.getTrialBalance` answers. -/
structure TrialBalance where
  totalDebitsMinor : Int
  totalCreditsMinor : Int
  deriving DecidableEq, Repr

/-- What `apiKeys.bootstrapInitialAdmin` is given. -/
structure BootstrapInput where
  tenantName : String
  keyName : String
  rawApiKey : String

/-! ## Services -/

/-- The services that the demo calls: what a call answers, and the database that it leaves,
or what it throws. -/
structure Services where
  /-- `apiKeys.authenticate` -/
  authenticate : String → DemoDb → Except DemoError ApiKey
  /-- `apiKeys.bootstrapInitialAdmin`: the new tenant, unless `api_keys` contains records -/
  bootstrapInitialAdmin : BootstrapInput → DemoDb → Option Uuid × DemoDb
  /-- `assets.list`, of one code if one is asked for -/
  listAssets : Uuid → Nat → Option String → DemoDb → Page AssetEntity Uuid
  /-- `assets.create` -/
  createAsset : Uuid → String → Nat → DemoDb → Except DemoError (AssetEntity × DemoDb)
  /-- `ledgers.list` with a name -/
  listLedgers : Uuid → Nat → String → DemoDb → Page LedgerEntity Uuid
  /-- `ledgers.create` -/
  createLedger : Uuid → String → DemoDb → Except DemoError (LedgerEntity × DemoDb)
  /-- `accounts.list`, of one name if one is asked for -/
  listAccounts : Uuid → Uuid → Nat → Option Uuid → Option String → DemoDb → Page AccountView Uuid
  /-- `accounts.create` -/
  createAccount : NewAccount → DemoDb → Except DemoError (AccountEntity × DemoDb)
  /-- `transactions.list` -/
  listTransactions : Uuid → Uuid → Nat → DemoDb → Page TransactionEntity Uuid
  /-- `transactions.create` -/
  createTransaction : NewTransaction → DemoDb → Except DemoError (TransactionEntity × DemoDb)
  /-- `balances.getTrialBalance` of a tenant and ledger -/
  trialBalance : DemoDb → Uuid → Uuid → TrialBalance

/-- What the code takes from outside the repository. -/
structure Host extends Services where
  /-- the hexadecimal SHA-256 of a string -/
  hash : String → String
  /-- `left.localeCompare(right) <= 0` -/
  localeLe : String → String → Bool

/-! ## What the services do -/

/-- The database with a new asset. -/
def DemoDb.withAsset (db : DemoDb) (tenantId : Uuid) (code : String) (scale : Nat) : DemoDb :=
  { db with assets := db.assets ++ [⟨db.nextId, tenantId, code, scale⟩], nextId := db.nextId + 1 }

/-- The database with a new ledger. -/
def DemoDb.withLedger (db : DemoDb) (tenantId : Uuid) (name : String) : DemoDb :=
  { db with ledgers := db.ledgers ++ [⟨db.nextId, tenantId, name⟩], nextId := db.nextId + 1 }

/-- The database with a new account. -/
def DemoDb.withAccount (db : DemoDb) (account : NewAccount) : DemoDb :=
  { db with accounts := db.accounts ++ [⟨account, db.nextId⟩], nextId := db.nextId + 1 }

/-- The database with a new transaction. -/
def DemoDb.withTransaction (db : DemoDb) (transaction : NewTransaction) : DemoDb :=
  { db with
    transactions := db.transactions ++ [⟨transaction, db.nextId, db.now⟩]
    nextId := db.nextId + 1 }

/-- The accounts of a ledger, of one name if one is asked for. -/
def DemoDb.accountsOf (db : DemoDb) (tenantId ledgerId : Uuid) (name : Option String) :
    List AccountEntity :=
  db.accounts.filter fun a => a.tenantId = tenantId ∧ a.ledgerId = ledgerId ∧ name.all (a.name = ·)

/-- A balance is the sum of its account's entries. -/
def DemoDb.view (db : DemoDb) (account : AccountEntity) : AccountView where
  toAccountEntity := account
  balanceMinor := (((db.transactions.flatMap (·.entries)).filter fun e =>
    e.accountId = account.id).map (·.signedAmountMinor)).sum

/-- The transactions of a ledger. -/
def DemoDb.transactionsOf (db : DemoDb) (tenantId ledgerId : Uuid) : List TransactionEntity :=
  db.transactions.filter fun t => t.tenantId = tenantId ∧ t.ledgerId = ledgerId

/-- An asset of a tenant that is there, with a code that the tenant does not have. -/
structure AdmitsAsset (db : DemoDb) (tenantId : Uuid) (code : String) : Prop where
  tenant : ∃ t ∈ db.tenants, t.id = tenantId
  code : ∀ a ∈ db.assets, a.tenantId = tenantId → a.code ≠ code

/-- An account of a ledger and a currency that the tenant has, with a code that the ledger
does not have. -/
structure AdmitsAccount (db : DemoDb) (new : NewAccount) : Prop where
  ledger : ∃ l ∈ db.ledgers, l.tenantId = new.tenantId ∧ l.id = new.ledgerId
  currency : ∃ a ∈ db.assets, a.tenantId = new.tenantId ∧ a.code = new.currency
  code : new.code ≠ none → ∀ a ∈ db.accounts, a.tenantId = new.tenantId →
    a.ledgerId = new.ledgerId → a.code ≠ new.code

/-- An account takes an entry in its currency without a grant and without a further
overdraft. -/
structure Takes (account : AccountEntity) (new : NewTransaction) (e : EntryInput) : Prop where
  tenant : account.tenantId = new.tenantId
  ledger : account.ledgerId = new.ledgerId
  id : account.id = e.accountId
  currency : account.currency = new.currency ∧ e.currency = new.currency
  plain : account.grantEnabled = false
  covered : account.overdraftPolicy = .allow ∨ account.side = .credit ∧ e.signedAmountMinor < 0

/-- A balanced posting on accounts of a ledger, with a reference that the tenant does not
have. -/
structure AdmitsTransaction (db : DemoDb) (new : NewTransaction) : Prop where
  reference : ∀ t ∈ db.transactions, t.tenantId = new.tenantId → t.reference ≠ new.reference
  balanced : (new.entries.map (·.signedAmountMinor)).sum = 0
  entries : ∀ e ∈ new.entries, e.signedAmountMinor ≠ 0 ∧ ∃ a ∈ db.accounts, Takes a new e

/-- What the demo relies on. -/
structure Host.Lawful (host : Host) : Prop where
  authenticate : ∀ rawApiKey db key, (db.apiKeys.find? fun k =>
    k.keyHash = host.hash rawApiKey ∧ k.revokedAt = none) = some key →
      host.authenticate rawApiKey db = .ok key
  bootstrapInitialAdmin : ∀ input db, host.bootstrapInitialAdmin input db =
    if db.apiKeys = [] then
      (some db.nextId, { db with
        tenants := db.tenants ++ [⟨db.nextId, input.tenantName⟩]
        apiKeys := db.apiKeys ++ [⟨db.nextId + 1, db.nextId, input.keyName, .admin,
          host.hash input.rawApiKey, none⟩]
        nextId := db.nextId + 2 })
    else (none, db)
  listAssets : ∀ tenantId limit code db, host.listAssets tenantId limit code db =
    page AssetEntity.id limit none
      (db.assets.filter fun a => a.tenantId = tenantId ∧ code.all (a.code = ·))
  listLedgers : ∀ tenantId limit name db, host.listLedgers tenantId limit name db =
    page LedgerEntity.id limit none
      (db.ledgers.filter fun l => l.tenantId = tenantId ∧ l.name = name)
  listAccounts : ∀ tenantId ledgerId limit cursor name db,
    host.listAccounts tenantId ledgerId limit cursor name db =
      let found := page AccountEntity.id limit cursor (db.accountsOf tenantId ledgerId name)
      ⟨found.data.map db.view, found.next⟩
  listTransactions : ∀ tenantId ledgerId limit db,
    host.listTransactions tenantId ledgerId limit db =
      page TransactionEntity.id limit none (db.transactionsOf tenantId ledgerId)
  createAsset : ∀ tenantId code scale db, AdmitsAsset db tenantId code →
    host.createAsset tenantId code scale db =
      .ok (⟨db.nextId, tenantId, code, scale⟩, db.withAsset tenantId code scale)
  createLedger : ∀ tenantId name db, (∃ t ∈ db.tenants, t.id = tenantId) →
    host.createLedger tenantId name db =
      .ok (⟨db.nextId, tenantId, name⟩, db.withLedger tenantId name)
  createAccount : ∀ new db, AdmitsAccount db new →
    host.createAccount new db = .ok (⟨new, db.nextId⟩, db.withAccount new)
  createTransaction : ∀ new db, AdmitsTransaction db new →
    host.createTransaction new db = .ok (⟨new, db.nextId, db.now⟩, db.withTransaction new)

/-! ## The services on the tables -/

/-- The services, with a hash of keys. -/
def tableServices (hash : String → String) : Services where
  authenticate rawApiKey db :=
    match db.apiKeys.find? fun k => k.keyHash = hash rawApiKey ∧ k.revokedAt = none with
    | some key => .ok key
    | none => .error (.unauthorized "Invalid API key")
  bootstrapInitialAdmin input db :=
    if db.apiKeys = [] then
      (some db.nextId, { db with
        tenants := db.tenants ++ [⟨db.nextId, input.tenantName⟩]
        apiKeys := db.apiKeys ++ [⟨db.nextId + 1, db.nextId, input.keyName, .admin,
          hash input.rawApiKey, none⟩]
        nextId := db.nextId + 2 })
    else (none, db)
  listAssets tenantId limit code db := page AssetEntity.id limit none
    (db.assets.filter fun a => a.tenantId = tenantId ∧ code.all (a.code = ·))
  createAsset tenantId code scale db :=
    if ∃ a ∈ db.assets, a.tenantId = tenantId ∧ a.code = code then
      .error (.constraint "assets_tenant_code_uq")
    else .ok (⟨db.nextId, tenantId, code, scale⟩, db.withAsset tenantId code scale)
  listLedgers tenantId limit name db := page LedgerEntity.id limit none
    (db.ledgers.filter fun l => l.tenantId = tenantId ∧ l.name = name)
  createLedger tenantId name db :=
    .ok (⟨db.nextId, tenantId, name⟩, db.withLedger tenantId name)
  listAccounts tenantId ledgerId limit cursor name db :=
    let found := page AccountEntity.id limit cursor (db.accountsOf tenantId ledgerId name)
    ⟨found.data.map db.view, found.next⟩
  createAccount new db :=
    if new.code ≠ none ∧ ∃ a ∈ db.accounts, a.tenantId = new.tenantId ∧
        a.ledgerId = new.ledgerId ∧ a.code = new.code then
      .error (.constraint "accounts_ledger_code_uq")
    else .ok (⟨new, db.nextId⟩, db.withAccount new)
  listTransactions tenantId ledgerId limit db :=
    page TransactionEntity.id limit none (db.transactionsOf tenantId ledgerId)
  createTransaction new db :=
    match db.transactions.find? fun t =>
        t.tenantId = new.tenantId ∧ t.reference = new.reference with
    | some earlier =>
        if earlier.toNewTransaction = new then .ok (earlier, db)
        else .error (.failed "transaction reference has another payload")
    | none => .ok (⟨new, db.nextId, db.now⟩, db.withTransaction new)
  trialBalance _ _ _ := ⟨0, 0⟩

theorem tableServices_lawful {host : Host} (hservices : host.toServices = tableServices host.hash) :
    host.Lawful where
  authenticate := by
    intro rawApiKey db key hfound
    simp only [hservices, tableServices, hfound]
  bootstrapInitialAdmin := by
    intro input db
    rw [hservices]
    rfl
  listAssets := by
    intro tenantId limit code db
    rw [hservices]
    rfl
  listLedgers := by
    intro tenantId limit name db
    rw [hservices]
    rfl
  listAccounts := by
    intro tenantId ledgerId limit cursor name db
    rw [hservices]
    rfl
  listTransactions := by
    intro tenantId ledgerId limit db
    rw [hservices]
    rfl
  createAsset := by
    intro tenantId code scale db hadmits
    rw [hservices]
    exact if_neg fun ⟨a, ha, htenant, hcode⟩ => hadmits.code a ha htenant hcode
  createLedger := by
    intro tenantId name db _
    rw [hservices]
    rfl
  createAccount := by
    intro new db hadmits
    rw [hservices]
    exact if_neg fun ⟨hsome, a, ha, htenant, hledger, hcode⟩ =>
      hadmits.code hsome a ha htenant hledger hcode
  createTransaction := by
    intro new db hadmits
    have hnone : (db.transactions.find? fun t =>
        t.tenantId = new.tenantId ∧ t.reference = new.reference) = none := by
      rw [List.find?_eq_none]
      intro t ht heq
      have hsame := of_decide_eq_true heq
      exact hadmits.reference t ht hsame.1 hsame.2
    simp only [hservices, tableServices, hnone]

/-! ## Calls -/

variable {α : Type}

/-- A call of a program over the database. -/
abbrev DemoProgram (α : Type) : Type := Awaited DemoError DemoDb α

/-- A call that answers from the database. -/
def reading (answer : DemoDb → α) : DemoProgram α :=
  query .unavailable fun db => .ok (answer db)

/-- A call that changes the database. -/
def writing (change : DemoDb → α × DemoDb) : DemoProgram α := update .unavailable change

/-- A call that creates a row, or throws. -/
def creating (operation : DemoDb → Except DemoError (α × DemoDb)) : DemoProgram α :=
  Awaited.call .unavailable operation

/-! ## Their specifications -/

section Specs

variable {schedule : Schedule} {P : DemoDb → Prop}

/-- Something has thrown that a reliable run would have done. -/
def Down (schedule : Schedule) (P : DemoDb → Prop) (_ : DemoError) (db : DemoDb) : Prop :=
  P db ∧ schedule ≠ reliable

theorem spec_reading {answer : DemoDb → α} :
    Spec schedule P (reading answer) (fun a db => P db ∧ a = answer db) (Down schedule P) :=
  spec_query (fun _ _ hdb ha => ⟨hdb, (Except.ok.inj ha).symm⟩) (fun _ _ _ he => (by cases he))
    fun _ hdb hfault => ⟨hdb, hfault⟩

theorem spec_writing {change : DemoDb → α × DemoDb} {Q : α → DemoDb → Prop}
    {I : DemoDb → Prop} (hchange : ∀ db, P db → Q (change db).1 (change db).2)
    (hbefore : ∀ db, P db → I db) (hafter : ∀ a db, Q a db → I db) :
    Spec schedule P (writing change) Q (Down schedule I) :=
  spec_update (fun db hdb => ⟨hchange db hdb, fun hfault => ⟨hafter _ _ (hchange db hdb), hfault⟩⟩)
    fun db hdb hfault => ⟨hbefore db hdb, hfault⟩

/-- Read, and go on with the answer. -/
theorem spec_reading_bind {β : Type} {db : DemoDb} {answer : DemoDb → β} {f : β → DemoProgram α}
    {Q : α → DemoDb → Prop} {E : DemoError → DemoDb → Prop}
    (hdown : ∀ e, schedule ≠ reliable → E e db)
    (hf : Spec schedule (· = db) (f (answer db)) Q E) :
    Spec schedule (· = db) (reading answer >>= f) Q E := by
  refine spec_bind_of_eq (spec_consequence spec_reading (fun _ hs => hs) ?_ ?_) hf
  · rintro a s ⟨rfl, ha⟩
    exact ⟨rfl, ha⟩
  · rintro e s ⟨rfl, hfault⟩
    exact hdown e hfault

/-- Create a row that is let in. -/
theorem spec_creating {db db' : DemoDb} {a : α}
    {operation : DemoDb → Except DemoError (α × DemoDb)} {E : DemoError → DemoDb → Prop}
    (hcreated : operation db = .ok (a, db')) (hdown : ∀ e, schedule ≠ reliable → E e db)
    (hlost : ∀ e, schedule ≠ reliable → E e db') :
    Spec schedule (· = db) (creating operation) (fun b s => s = db' ∧ b = a) E := by
  refine spec_call ?_ ?_ fun s hs hfault => hs ▸ hdown _ hfault
  · rintro s b s' rfl hrun
    rw [hcreated] at hrun
    cases hrun
    exact ⟨⟨rfl, rfl⟩, hlost _⟩
  · rintro s e rfl hrun
    rw [hcreated] at hrun
    cases hrun

/-- Create it, and go on with the changed database. -/
theorem spec_creating_bind {β : Type} {db db' : DemoDb} {b : β}
    {operation : DemoDb → Except DemoError (β × DemoDb)} {f : β → DemoProgram α}
    {Q : α → DemoDb → Prop} {E : DemoError → DemoDb → Prop}
    (hcreated : operation db = .ok (b, db')) (hdown : ∀ e, schedule ≠ reliable → E e db)
    (hlost : ∀ e, schedule ≠ reliable → E e db')
    (hf : Spec schedule (· = db') (f b) Q E) :
    Spec schedule (· = db) (creating operation >>= f) Q E :=
  spec_bind_of_eq (spec_creating hcreated hdown hlost) hf

end Specs

end LuxLedger.Demo
