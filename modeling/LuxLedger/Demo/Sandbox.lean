/-
  Demo/Sandbox.lean --- `POST /demo/session`.

  Source: `apps/api/src/demo/sandbox.ts`.
-/
import LuxLedger.Demo.Services
import LuxLedger.Http.FixedWindowLimiter
import LuxLedger.Javascript.Text

set_option autoImplicit false

namespace LuxLedger.Demo

open Foundation Javascript Schema
open Http (EndpointRateLimitConfig FixedWindowLimiter)

/-- `COOKIE`. -/
def COOKIE : String := "luxledger_sandbox"

/-- `SESSION_SECONDS`: eight hours. -/
def SESSION_SECONDS : Nat := 8 * 60 * 60

/-! ## The request -/

/-- What the handlers read of a request. -/
structure SandboxRequest where
  ip : String
  secFetchSite : Option String
  origin : Option String
  host : Option String
  cookie : Option String
  /-- `request.protocol` -/
  protocol : String
  xForwardedProto : Option String

/-- What the handler takes from outside the repository, beside the services. -/
structure SandboxHost extends Host where
  /-- `new URL(origin).host`, `none` where it throws -/
  urlHost : String → Option String
  /-- the signed access token of a tenant, key and role -/
  issueAccessToken : Uuid → Uuid → ApiKeyRole → String
  accessTokenTtlSeconds : Nat

/-- The `randomBytes` of a request. -/
structure Drawn where
  secret : String
  apiKey : String

/-- The value of the cookie, if the request has it. -/
def cookieValue (request : SandboxRequest) : Option String :=
  request.cookie.bind fun header =>
    (((split header ';').map trim).find? fun part => startsWith part (COOKIE ++ "=")).map
      fun part => sliceFrom part (COOKIE.length + 1)

/-- `sameOrigin`. -/
def sameOrigin (host : SandboxHost) (request : SandboxRequest) : Bool :=
  request.secFetchSite = some "same-origin" || request.origin.getD "" = "" ||
    (host.urlHost (request.origin.getD "")).any fun h => some h = request.host

/-! ## Provisioning -/

/-- The parts that the accounts of a sandbox play. -/
inductive SandboxRole where
  | funding
  | primary
  | secondary
  | fees
  | credits
  | usage
  deriving DecidableEq, Repr

/-- An entry of `sandboxProfiles`. -/
structure SandboxProfile where
  code : String
  openingMinor : Int
  names : SandboxRole → String
  /-- `pay_opening_${code.toLowerCase()}` -/
  paymentId : String

/-- The profile of the USD ledger. -/
def profileUSD : SandboxProfile where
  code := "USD"
  openingMinor := 10000
  names
    | .funding => "system:funding"
    | .primary => "wallet:alice"
    | .secondary => "wallet:bob"
    | .fees => "platform:fees"
    | .credits => "credits:alice"
    | .usage => "service:usage"
  paymentId := "pay_opening_usd"

/-- The profile of the EUR ledger. -/
def profileEUR : SandboxProfile where
  code := "EUR"
  openingMinor := 17500
  names
    | .funding => "treasury:eu"
    | .primary => "wallet:eva"
    | .secondary => "wallet:leo"
    | .fees => "platform:commission"
    | .credits => "credits:eva"
    | .usage => "service:subscription"
  paymentId := "pay_opening_eur"

/-- `sandboxProfiles`, in the order of the loop. -/
def sandboxProfiles : List SandboxProfile := [profileUSD, profileEUR]

/-- The account code, `DEMO_${role.toUpperCase()}`. -/
def SandboxRole.code : SandboxRole → String
  | .funding => "DEMO_FUNDING"
  | .primary => "DEMO_PRIMARY"
  | .secondary => "DEMO_SECONDARY"
  | .fees => "DEMO_FEES"
  | .credits => "DEMO_CREDITS"
  | .usage => "DEMO_USAGE"

/-- What an account is created with, whatever its ledger. -/
structure RoleAccount where
  role : SandboxRole
  side : AccountSide
  policy : OverdraftPolicy
  grant : Bool
  deriving DecidableEq, Repr

/-- The six accounts of a ledger. -/
def roleAccounts : List RoleAccount :=
  [⟨.funding, .debit, .allow, false⟩, ⟨.primary, .credit, .disallow, false⟩,
    ⟨.secondary, .credit, .disallow, false⟩, ⟨.fees, .credit, .disallow, false⟩,
    ⟨.credits, .credit, .disallow, true⟩, ⟨.usage, .credit, .disallow, false⟩]

/-- The account of a ledger that plays a part. -/
def RoleAccount.new (account : RoleAccount) (tenantId ledgerId : Uuid) (profile : SandboxProfile) :
    NewAccount where
  tenantId := tenantId
  ledgerId := ledgerId
  code := some account.role.code
  name := profile.names account.role
  side := account.side
  overdraftPolicy := account.policy
  grantEnabled := account.grant
  currency := profile.code

/-- The opening posting of a ledger. -/
def SandboxProfile.opening (profile : SandboxProfile)
    (tenantId ledgerId fundingId primaryId : Uuid) : NewTransaction where
  tenantId := tenantId
  ledgerId := ledgerId
  reference := "sandbox-" ++ profile.code ++ "-opening"
  currency := profile.code
  description := "Opening wallet funding"
  metadata := some ⟨"wallet", profile.paymentId⟩
  entries := [⟨fundingId, profile.openingMinor, profile.code⟩,
    ⟨primaryId, -profile.openingMinor, profile.code⟩]

/-- The loop over the roles: `accounts[role] = account.id`. -/
def createRoleAccounts (host : SandboxHost) (tenantId ledgerId : Uuid) (profile : SandboxProfile) :
    List RoleAccount → (SandboxRole → Uuid) → DemoProgram (SandboxRole → Uuid)
  | [], ids => return ids
  | account :: rest, ids => do
      let created ← creating (host.createAccount (account.new tenantId ledgerId profile))
      createRoleAccounts host tenantId ledgerId profile rest
        (Function.update ids account.role created.id)

/-- One round of the loop over the currencies. -/
def provisionProfile (host : SandboxHost) (tenantId : Uuid) (profile : SandboxProfile) :
    DemoProgram PUnit := do
  let _ ← creating (host.createAsset tenantId profile.code 2)
  let ledger ← creating (host.createLedger tenantId (profile.code ++ " product ledger"))
  let ids ← createRoleAccounts host tenantId ledger.id profile roleAccounts fun _ => 0
  let _ ← creating (host.createTransaction
    (profile.opening tenantId ledger.id (ids .funding) (ids .primary)))

/-! ## The handler -/

/-- An asset of the reply. -/
structure AssetView where
  code : String
  scale : Nat
  deriving DecidableEq, Repr

/-- What `payload` returns. -/
structure SessionPayload where
  accessToken : String
  expiresIn : Nat
  sessionExpiresAt : Timestamp
  tenantId : Uuid
  assets : List AssetView
  deriving DecidableEq, Repr

/-- How the handler answers.  What it throws before it has set the cookie is an error reply
without one. -/
inductive SandboxReply where
  /-- 403 -/
  | forbidden (message : String)
  /-- 201 -/
  | created (setCookie : String) (body : SessionPayload)
  /-- the error reply to what is thrown once the cookie is set: it carries the header -/
  | failed (setCookie : String) (error : DemoError)
  deriving DecidableEq, Repr

/-- The key of a new sandbox. -/
def newKey (host : SandboxHost) (drawn : Drawn) (db : DemoDb) : ApiKey where
  id := db.nextId + 1
  tenantId := db.nextId
  name := "Sandbox service"
  role := .service
  keyHash := host.hash drawn.apiKey
  revokedAt := none

/-- The session of a new sandbox. -/
def newSession (host : SandboxHost) (drawn : Drawn) (db : DemoDb) : DemoSession where
  id := db.nextId + 2
  tokenHash := host.hash drawn.secret
  tenantId := db.nextId
  apiKeyId := db.nextId + 1
  expiresAt := db.now + SESSION_SECONDS * 1000

/-- The database with the tenant, key and session of a new sandbox. -/
def DemoDb.withSession (db : DemoDb) (host : SandboxHost) (drawn : Drawn) : DemoDb :=
  { db with
    tenants := db.tenants ++ [⟨db.nextId, "Interactive sandbox"⟩]
    apiKeys := db.apiKeys ++ [newKey host drawn db]
    demoSessions := db.demoSessions ++ [newSession host drawn db]
    nextId := db.nextId + 3 }

/-- The creating transaction. -/
def createSession (host : SandboxHost) (drawn : Drawn) : DemoProgram DemoSession :=
  Awaited.call .unavailable fun db =>
    if ∃ k ∈ db.apiKeys, k.keyHash = host.hash drawn.apiKey then
      .error (.constraint "api_keys_key_hash_uq")
    else if ∃ s ∈ db.demoSessions, s.tokenHash = host.hash drawn.secret then
      .error (.constraint "demo_sessions_token_hash_unique")
    else .ok (newSession host drawn db, db.withSession host drawn)

/-- `set revoked_at = now()` where the id is one of these. -/
def DemoDb.revoke (db : DemoDb) (ids : List Uuid) : DemoDb :=
  { db with apiKeys := db.apiKeys.map fun k =>
      if k.id ∈ ids then { k with revokedAt := some db.now } else k }

/-- `update api_keys set revoked_at = now()` of one key. -/
def revokeKey (id : Uuid) : DemoProgram PUnit := writing fun db => (⟨⟩, db.revoke [id])

/-- The keys of the sessions with a token hash. -/
def DemoDb.sessionKeys (db : DemoDb) (tokenHash : String) : List Uuid :=
  (db.demoSessions.filter fun s => s.tokenHash = tokenHash).map (·.apiKeyId)

/-- Revoke the credential of the previous session; an empty cookie value is falsy. -/
def revokePrevious (host : SandboxHost) (request : SandboxRequest) : DemoProgram PUnit :=
  match (cookieValue request).filter (· ≠ "") with
  | none => pure ⟨⟩
  | some previous => writing fun db => (⟨⟩, db.revoke (db.sessionKeys (host.hash previous)))

/-- `payload`: the session as the browser is told of it. -/
def payload (host : SandboxHost) (row : DemoSession) : DemoProgram SessionPayload := do
  let assets ← reading (host.listAssets row.tenantId 200 none)
  return {
    accessToken := host.issueAccessToken row.tenantId row.apiKeyId .service
    expiresIn := host.accessTokenTtlSeconds
    sessionExpiresAt := row.expiresAt
    tenantId := row.tenantId
    assets := assets.data.map fun a => ⟨a.code, a.scale⟩ }

/-- The `Set-Cookie` header of a new session. -/
def setCookie (request : SandboxRequest) (secret : String) : String :=
  COOKIE ++ "=" ++ secret ++ "; HttpOnly; SameSite=Strict; Path=/; Max-Age=" ++
    toString SESSION_SECONDS ++
    if request.protocol = "https" ∨ request.xForwardedProto = some "https" then "; Secure" else ""

/-- `reply.code(201).send(await payload(row))`: `set-cookie` is set before the payload is
awaited, and an error reply keeps it. -/
def sendPayload (host : SandboxHost) (cookie : String) (row : DemoSession) :
    DemoProgram SandboxReply :=
  tryCatch (return .created cookie (← payload host row)) fun error => return .failed cookie error

/-- The handler once the request is admitted. -/
def openSandbox (host : SandboxHost) (request : SandboxRequest) (drawn : Drawn) :
    DemoProgram SandboxReply := do
  let row ← createSession host drawn
  tryCatch (sandboxProfiles.forM (provisionProfile host row.tenantId)) fun error => do
    revokeKey row.apiKeyId
    throw error
  revokePrevious host request
  sendPayload host (setCookie request drawn.secret) row

/-- Twenty sandboxes an hour. -/
def SESSION_LIMIT : EndpointRateLimitConfig := ⟨20, 3600, Nat.succ_pos 19, Nat.succ_pos 3599⟩

/-- The reply to a request from elsewhere. -/
def forbidden : SandboxReply := .forbidden "Same-origin session creation required"

/-- `POST /demo/session`: the limiter afterwards, and what is awaited. -/
def postSession (host : SandboxHost) (limiter : FixedWindowLimiter) (nowMs : Int)
    (request : SandboxRequest) (drawn : Drawn) : FixedWindowLimiter × DemoProgram SandboxReply :=
  if request.secFetchSite = some "cross-site" then (limiter, pure forbidden)
  else if ¬ sameOrigin host request then (limiter, pure forbidden)
  else
    let (decision, limiter') := limiter.consume request.ip SESSION_LIMIT nowMs
    (limiter', if decision.allowed then openSandbox host request drawn
      else throw (.rateLimitExceeded decision.retryAfterSeconds))

end LuxLedger.Demo
