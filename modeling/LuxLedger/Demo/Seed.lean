/-
  Demo/Seed.lean --- the seed of the demo.

  Source: `apps/api/src/demo/demo-service.ts`.
-/
import LuxLedger.Demo.Services
import LuxLedger.Foundation.Numeral
import LuxLedger.Javascript.Text

set_option autoImplicit false

namespace LuxLedger.Demo

open Foundation Javascript Schema Awaited

/-- `LEDGER_NAME`. -/
def LEDGER_NAME : String := "LuxLedger transfer demo"

/-- `CURRENCY`. -/
def CURRENCY : String := "USD"

/-- `FUNDING_ADDRESS`. -/
def FUNDING_ADDRESS : String := "system:funding"

/-- The configuration of the demo service. -/
structure DemoConfig where
  adminApiKey : String
  adminKeyName : String
  tenantName : String
  resetEnabled : Bool

/-! ## Inputs -/

/-- `[a-z]`. -/
def isLower (c : Char) : Bool := 'a' ≤ c && c ≤ 'z'

/-- `[0-9]`. -/
def isDecimal (c : Char) : Bool := '0' ≤ c && c ≤ '9'

/-- `s.toLowerCase()`.  The Kelvin sign is the only character beyond ASCII that it takes to
something `ADDRESS_PATTERN` can match; the others stay. -/
def toLowerCase (s : String) : List Char :=
  s.toList.map fun c => if c.toNat = 0x212A then 'k' else c.toLower

/-- A part of an address: a letter, then letters, digits and what else is allowed. -/
def isAddressPart (also : Char → Bool) : List Char → Bool
  | [] => false
  | c :: rest => isLower c && rest.all fun d => isLower d || isDecimal d || also d

/-- `ADDRESS_PATTERN`: `/^[a-z][a-z0-9]*(?::[a-z][a-z0-9-]*)+$/`. -/
def matchesAddressPattern (address : List Char) : Bool :=
  match address.splitOn ':' with
  | first :: second :: rest =>
      isAddressPart (fun _ => false) first && (second :: rest).all (isAddressPart (· = '-'))
  | _ => false

/-- `normalizeAddress`. -/
def normalizeAddress (value : String) : Except DemoError String :=
  let address := toLowerCase (trim value)
  if ¬ matchesAddressPattern address ∨ 80 < address.length then
    .error (.input "Address must look like wallet:alice")
  else if String.ofList address = FUNDING_ADDRESS then
    .error (.input "The system funding account is reserved")
  else .ok (String.ofList address)

/-- `/^[1-9][0-9]*$/`, and the number. -/
def parseAmount (value : String) : Except DemoError Nat :=
  let digits := value.toList
  if digits.all isDecimal ∧ digits ≠ [] ∧ digits.head? ≠ some '0' then
    .ok (numeral 10 (digits.map fun c => c.toNat - 48))
  else .error (.input "amount_minor must be a positive base-10 integer string")

/-- An entry in the currency of the demo. -/
def entry (accountId : Uuid) (signedAmountMinor : Int) : EntryInput :=
  ⟨accountId, signedAmountMinor, CURRENCY⟩

/-- Throw what a check throws. -/
def checked {α : Type} : Except DemoError α → DemoProgram α
  | .ok a => pure a
  | .error e => throw e

/-! ## Reading the state -/

/-- The tenant and the ledger of the demo. -/
structure DemoContext where
  tenantId : Uuid
  ledgerId : Uuid
  deriving DecidableEq, Repr

/-- `context`: whatever `authenticate` throws, the demo is not ready. -/
def context (host : Host) (config : DemoConfig) : DemoProgram DemoContext := do
  let key ← tryCatch (query .unavailable (host.authenticate config.adminApiKey)) fun _ =>
    throw .notReady
  let ledgers ← reading (host.listLedgers key.tenantId 1 LEDGER_NAME)
  match ledgers.data.head? with
  | none => throw .notReady
  | some ledger => return ⟨key.tenantId, ledger.id⟩

/-- The loop of `accounts` for at most so many pages. -/
def accountsFrom (host : Host) (tenantId ledgerId : Uuid) :
    Nat → Option Uuid → DemoProgram (List AccountView)
  | 0, _ => return []
  | pages + 1, cursor => do
      let page ← reading (host.listAccounts tenantId ledgerId 100 cursor none)
      match page.next with
      | none => return page.data
      | some next => return page.data ++ (← accountsFrom host tenantId ledgerId pages (some next))

/-- `accounts`.  The loop reads a page more than there are accounts at the most. -/
def accounts (host : Host) (tenantId ledgerId : Uuid) : DemoProgram (List AccountView) :=
  fun schedule n db =>
    accountsFrom host tenantId ledgerId (db.accounts.length + 1) none schedule n db

/-- `accountByAddress`. -/
def accountByAddress (host : Host) (tenantId ledgerId : Uuid) (name : String) :
    DemoProgram AccountView := do
  let page ← reading (host.listAccounts tenantId ledgerId 1 none (some name))
  match page.data.head? with
  | none => throw (.input ("Unknown account " ++ name))
  | some account => return account

/-- A hold, as the state shows it. -/
structure DemoHold where
  id : Uuid
  reference : String
  description : Option String
  state : HoldState
  originalAmountMinor : String
  remainingAmountMinor : String
  deriving DecidableEq, Repr

/-- An account, as the state shows it. -/
structure DemoAccount where
  id : Uuid
  address : String
  balanceMinor : String
  currency : String
  deriving DecidableEq, Repr

/-- An entry, as the state shows it. -/
structure DemoEntry where
  accountAddress : String
  signedAmountMinor : String
  deriving DecidableEq, Repr

/-- A transaction, as the state shows it. -/
structure DemoTransaction where
  id : String
  reference : String
  description : String
  createdAt : Timestamp
  entries : List DemoEntry
  deriving DecidableEq, Repr

/-- What `getState` returns. -/
structure DemoState where
  holds : List DemoHold
  debitsMinor : String
  creditsMinor : String
  transactionsLimited : Bool
  currency : String
  ledgerId : Uuid
  resetEnabled : Bool
  accounts : List DemoAccount
  transactions : List DemoTransaction
  deriving DecidableEq, Repr

/-- `order by created_at desc, id desc`. -/
def latestFirst (holds : List Hold) : List Hold :=
  holds.insertionSort fun a b => b.createdAt < a.createdAt ∨
    b.createdAt = a.createdAt ∧ b.id ≤ a.id

/-- The holds of the ledger that are HELD, and the last 100 of the others. -/
def selectHolds (tenantId ledgerId : Uuid) : DemoProgram (List DemoHold) :=
  reading fun db =>
    let holds := db.holds.filter fun h => h.tenantId = tenantId ∧ h.ledgerId = ledgerId
    let active := holds.filter fun h => h.state = .held
    let ended := (latestFirst (holds.filter fun h => h.state ≠ .held)).take 100
    (latestFirst (active ++ ended)).map fun h => ⟨h.id, h.reference, h.description, h.state,
      toString h.originalAmountMinor, toString h.remainingAmountMinor⟩

/-- An account with its balance, turned for a credit account. -/
def accountState (account : AccountView) : DemoAccount where
  id := account.id
  address := account.name
  balanceMinor := toString
    (if account.side = .credit then -account.balanceMinor else account.balanceMinor)
  currency := account.currency

/-- A transaction, with the addresses of the listed accounts. -/
def transactionState (listed : List AccountView) (transaction : TransactionEntity) :
    DemoTransaction where
  id := toString transaction.id
  reference := transaction.reference
  description := transaction.description
  createdAt := transaction.createdAt
  entries := transaction.entries.map fun e =>
    { accountAddress := ((listed.find? fun a => a.id = e.accountId).map (·.name)).getD
        (toString e.accountId)
      signedAmountMinor := toString e.signedAmountMinor }

/-- `getState`. -/
def getState (host : Host) (config : DemoConfig) : DemoProgram DemoState := do
  let here ← context host config
  let listed ← accounts host here.tenantId here.ledgerId
  let transactions ← reading (host.listTransactions here.tenantId here.ledgerId 100)
  let holds ← selectHolds here.tenantId here.ledgerId
  let trial ← reading fun db => host.trialBalance db here.tenantId here.ledgerId
  return {
    holds := holds
    debitsMinor := toString trial.totalDebitsMinor
    creditsMinor := toString trial.totalCreditsMinor
    transactionsLimited := transactions.next ≠ none
    currency := CURRENCY
    ledgerId := here.ledgerId
    resetEnabled := config.resetEnabled
    accounts := ((listed.filter fun a => a.name ≠ FUNDING_ADDRESS).map accountState).insertionSort
      fun left right => host.localeLe left.address right.address
    transactions := transactions.data.map (transactionState listed) }

/-! ## Seeding -/

/-- `fund`, with the reference given. -/
def fund (host : Host) (config : DemoConfig) (address amountMinor reference : String) :
    DemoProgram DemoState := do
  let amount ← checked (parseAmount amountMinor)
  let here ← context host config
  let destination ← accountByAddress host here.tenantId here.ledgerId
    (← checked (normalizeAddress address))
  let funding ← accountByAddress host here.tenantId here.ledgerId FUNDING_ADDRESS
  let _ ← creating (host.createTransaction {
    tenantId := here.tenantId
    ledgerId := here.ledgerId
    reference := reference
    currency := CURRENCY
    description := "Fund " ++ destination.name
    metadata := none
    entries := [entry funding.id amount, entry destination.id (-amount)] })
  getState host config

/-- The tenant: the new one, or else the one of the key. -/
def seedTenant (host : Host) (config : DemoConfig) : DemoProgram Uuid := do
  match ← writing (host.bootstrapInitialAdmin ⟨config.tenantName, config.adminKeyName,
    config.adminApiKey⟩) with
  | some tenantId => return tenantId
  | none => return (← query .unavailable (host.authenticate config.adminApiKey)).tenantId

/-- The asset, unless it exists. -/
def seedAsset (host : Host) (tenantId : Uuid) : DemoProgram Unit := do
  let assets ← reading (host.listAssets tenantId 1 (some CURRENCY))
  if assets.data = [] then
    let _ ← creating (host.createAsset tenantId CURRENCY 2)

/-- The ledger: the one that exists, or a new one. -/
def seedLedger (host : Host) (tenantId : Uuid) : DemoProgram LedgerEntity := do
  let ledgers ← reading (host.listLedgers tenantId 1 LEDGER_NAME)
  match ledgers.data.head? with
  | some ledger => return ledger
  | none => creating (host.createLedger tenantId LEDGER_NAME)

/-- An account that the seed creates. -/
structure SeedAccount where
  name : String
  side : AccountSide
  policy : OverdraftPolicy
  deriving DecidableEq, Repr

/-- The accounts that the seed creates. -/
def seedAccounts : List SeedAccount :=
  [⟨FUNDING_ADDRESS, .debit, .allow⟩, ⟨"wallet:alice", .credit, .disallow⟩,
    ⟨"wallet:bob", .credit, .disallow⟩]

/-- What such an account is created with. -/
def SeedAccount.new (account : SeedAccount) (tenantId ledgerId : Uuid) : NewAccount where
  tenantId := tenantId
  ledgerId := ledgerId
  code := none
  name := account.name
  side := account.side
  overdraftPolicy := account.policy
  grantEnabled := false
  currency := CURRENCY

/-- The loop over the accounts: those that existed before it are skipped. -/
def createSeedAccounts (host : Host) (existing : List AccountView)
    (tenantId ledgerId : Uuid) : DemoProgram PUnit :=
  seedAccounts.forM fun account =>
    if existing.any fun candidate => candidate.name = account.name then pure ()
    else do let _ ← creating (host.createAccount (account.new tenantId ledgerId))

/-- The reference of the opening posting. -/
def SEED_REFERENCE : String := "demo-seed-funding-alice-v1"

/-- The opening posting, unless it is among the last 100 transactions. -/
def seedFunding (host : Host) (config : DemoConfig) (tenantId ledgerId : Uuid) :
    DemoProgram Unit := do
  let transactions ← reading (host.listTransactions tenantId ledgerId 100)
  if transactions.data.any fun t => t.reference = SEED_REFERENCE then pure ()
  else do let _ ← fund host config "wallet:alice" "10000" SEED_REFERENCE

/-- `performSeed`. -/
def performSeed (host : Host) (config : DemoConfig) : DemoProgram DemoState := do
  let tenantId ← seedTenant host config
  seedAsset host tenantId
  let ledger ← seedLedger host tenantId
  let existing ← accounts host tenantId ledger.id
  createSeedAccounts host existing tenantId ledger.id
  seedFunding host config tenantId ledger.id
  getState host config

/-- `seed`: any error but `DemoNotReadyError` is thrown again. -/
def seed (host : Host) (config : DemoConfig) : DemoProgram DemoState :=
  tryCatch (getState host config) fun error =>
    if error = .notReady then performSeed host config else throw error

end LuxLedger.Demo
