/-
  Http/Server.lean --- the onRequest hooks and the handling of a request.

  Source: `registerApplication` in `server.ts`, `registerSandbox` in
  `demo/sandbox.ts`.  All hooks are on the root instance and run for every request,
  in the order of their registration, before the handler; the first one that throws
  ends the request.  `createServerCore` registers one more in front, which sets a
  response header and a start time.
-/
import LuxLedger.Http.AccessToken
import LuxLedger.Http.FixedWindowLimiter
import LuxLedger.Http.Routes

set_option autoImplicit false

namespace LuxLedger.Http

open LuxLedger.Javascript LuxLedger.Relational

/-- `BEARER_PREFIX`. -/
def BEARER_PREFIX : String := "Bearer "

/-- What the hooks read of a request. -/
structure Request where
  method : String
  /-- the raw request target -/
  url : String
  ip : String
  authorization : Option String
  xApiKey : Option String
  deriving DecidableEq, Repr

/-- The decorations of a request that the hooks set and the handlers read. -/
structure RequestContext where
  apiPath : Option String
  tenantId : Option String
  apiKeyId : Option String
  apiKeyRole : Option ApiKeyRole
  deriving DecidableEq, Repr

/-- A row of `demo_sessions`.  `api_key_id` is a `uuid`, never empty. -/
structure DemoSession where
  apiKeyId : String
  expiresAt : Int
  apiKeyId_ne : apiKeyId ≠ ""

/-- What a request is handled with: configuration, the API-key service, the demo
sessions, the router and the two clocks. -/
structure Server where
  node : Node
  jwtAuth : JwtAuthConfig
  rateLimit : RateLimitConfig
  /-- `services.apiKeys.authenticate` -/
  authenticate : String → Except ApiError AuthContext
  /-- `services.apiKeys.assertAccessTokenIsActive` -/
  assertAccessTokenIsActive : AuthContext → Except ApiError Unit
  demoSessions : List DemoSession
  router : Router
  /-- `Date.now()` -/
  now : Int
  /-- `now()` of the database -/
  databaseNow : Int

/-! ## The hooks -/

/-- `resolveRateLimitTarget`. -/
def resolveRateLimitTarget (method path : String)
    (authTokenPolicy writePolicy : EndpointRateLimitConfig) :
    Option (String × EndpointRateLimitConfig) :=
  if method ≠ "POST" ∨ ¬ startsWith path V1_ROUTE_PREFIX then none
  else if path = TOKEN_ENDPOINT then some ("auth_token", authTokenPolicy)
  else some ("write", writePolicy)

namespace Server

variable (server : Server)

/-- The rate-limit hook, which sets `apiPath`; with the limiter afterwards. -/
def rateLimitHook (limiter : FixedWindowLimiter) (request : Request) :
    Except ApiError RequestContext × FixedWindowLimiter :=
  let path := routePath request.url
  let context : RequestContext := ⟨some path, none, none, none⟩
  match resolveRateLimitTarget request.method path server.rateLimit.authToken
      server.rateLimit.write with
  | none => (.ok context, limiter)
  | some (keyPrefix, policy) =>
      let consumed := limiter.consume (keyPrefix ++ ":" ++ request.ip) policy server.now
      let decision := consumed.1
      if decision.allowed then (.ok context, consumed.2)
      else (.error (.rateLimitExceeded decision.retryAfterSeconds), consumed.2)

/-- The request with the identity set. -/
def setIdentity (context : RequestContext) (auth : AuthContext) : RequestContext :=
  { context with
    tenantId := some auth.tenantId
    apiKeyId := some auth.apiKeyId
    apiKeyRole := some auth.role }

/-- The bearer branch of the authentication hook. -/
def bearerHook (request : Request) (path : String) (context : RequestContext) :
    Except ApiError RequestContext :=
  match request.authorization with
  | none => .error (.unauthorized "Bearer token is required")
  | some header =>
      if ¬ startsWith header BEARER_PREFIX then
        .error (.unauthorized "Bearer token is required")
      else do
        let token := trim (sliceFrom header BEARER_PREFIX.length)
        let (auth, _) ← verifyAccessToken server.node token server.jwtAuth server.now
        server.assertAccessTokenIsActive auth
        require (startsWith path ADMIN_ROUTE_PREFIX → auth.role = .admin)
          (.forbidden "Admin API key is required")
        return setIdentity context auth

/-- The authentication hook. -/
def authHook (request : Request) (context : RequestContext) : Except ApiError RequestContext :=
  let path := context.apiPath.getD (routePath request.url)
  if ¬ startsWith path V1_ROUTE_PREFIX then .ok context
  else if path = TOKEN_ENDPOINT then
    match request.xApiKey with
    | none => .error (.unauthorized "API key is required")
    | some apiKey => do
        let auth ← server.authenticate apiKey
        return setIdentity context auth
  else server.bearerHook request path context

/-- The hook of `registerSandbox`.  An empty `apiKeyId` is falsy. -/
def sandboxHook (request : Request) (context : RequestContext) : Except ApiError Unit :=
  match context.apiKeyId with
  | none => .ok ()
  | some apiKeyId =>
      if ¬ startsWith request.url V1_ROUTE_PREFIX ∨ apiKeyId = "" then .ok ()
      else
        require (¬ ∃ session ∈ server.demoSessions,
            session.apiKeyId = apiKeyId ∧ session.expiresAt ≤ server.databaseNow)
          (.unauthorized "Demo session expired")

/-- The hooks in order. -/
def onRequest (limiter : FixedWindowLimiter) (request : Request) :
    Except ApiError RequestContext × FixedWindowLimiter :=
  let (limited, limiter') := server.rateLimitHook limiter request
  (do
    let context ← limited
    let context ← server.authHook request context
    server.sandboxHook request context
    return context, limiter')

/-! ## Handling a request -/

end Server

/-- What becomes of a request. -/
inductive Outcome where
  | rejected (error : ApiError)
  | notFound
  | handled (route : Route) (context : RequestContext)
  deriving DecidableEq, Repr

namespace Server

variable (server : Server)

/-- Hooks, then the handler of the route that the router has dispatched to. -/
def serve (limiter : FixedWindowLimiter) (request : Request) : Outcome × FixedWindowLimiter :=
  match server.onRequest limiter request with
  | (.error error, limiter') => (.rejected error, limiter')
  | (.ok context, limiter') =>
      match server.router.dispatch request.method request.url with
      | none => (.notFound, limiter')
      | some route => (.handled route context, limiter')

end Server

/-! ## What the hooks have checked -/

section Hooks

variable {server : Server} {limiter : FixedWindowLimiter} {request : Request}
  {context context' : RequestContext}

theorem serve_handled_iff {route : Route} :
    (server.serve limiter request).1 = .handled route context ↔
      (server.onRequest limiter request).1 = .ok context ∧
        server.router.dispatch request.method request.url = some route := by
  unfold Server.serve
  rcases server.onRequest limiter request with ⟨error | accepted, limiter'⟩
  · simp
  · cases server.router.dispatch request.method request.url with
    | none => simp
    | some found =>
        simp only [Outcome.handled.injEq, Except.ok.injEq, Option.some.injEq]
        exact and_comm

theorem onRequest_ok_iff :
    (server.onRequest limiter request).1 = .ok context ↔
      ∃ limited, (server.rateLimitHook limiter request).1 = .ok limited ∧
        server.authHook request limited = .ok context ∧
          server.sandboxHook request context = .ok () := by
  simp only [Server.onRequest, bind_eq_ok_iff, pure_eq_ok_iff]
  constructor
  · rintro ⟨limited, hlimited, authorized, hauth, ⟨⟩, hsandbox, rfl⟩
    exact ⟨limited, hlimited, hauth, hsandbox⟩
  · rintro ⟨limited, hlimited, hauth, hsandbox⟩
    exact ⟨limited, hlimited, context, hauth, (), hsandbox, rfl⟩

/-- The request as the rate-limit hook leaves it. -/
def Request.initialContext (request : Request) : RequestContext :=
  ⟨some (routePath request.url), none, none, none⟩

theorem rateLimitHook_ok (h : (server.rateLimitHook limiter request).1 = .ok context) :
    context = request.initialContext := by
  unfold Server.rateLimitHook at h
  dsimp only at h
  split at h
  · exact (Except.ok.inj h).symm
  · split at h
    · exact (Except.ok.inj h).symm
    · cases h

/-- A limiter that has seen no call lets every request pass. -/
theorem rateLimitHook_new :
    (server.rateLimitHook .new request).1 = .ok request.initialContext := by
  unfold Server.rateLimitHook
  dsimp only
  split
  · rfl
  · simp only [FixedWindowLimiter.consume_new, if_true]
    rfl

/-- A request with a bearer token that verifies for an active key whose demo
sessions, if it has any, have not expired. -/
structure Verified (server : Server) (request : Request) (auth : AuthContext) : Prop where
  bearer : ∃ header previous, request.authorization = some header ∧
    startsWith header BEARER_PREFIX = true ∧
    verifyAccessToken server.node (trim (sliceFrom header BEARER_PREFIX.length)) server.jwtAuth
      server.now = .ok (auth, previous)
  active : server.assertAccessTokenIsActive auth = .ok ()
  session : ∀ session ∈ server.demoSessions, session.apiKeyId = auth.apiKeyId →
    server.databaseNow < session.expiresAt

/-- A request has one bearer token. -/
theorem Verified.unique {auth auth' : AuthContext} (h : Verified server request auth)
    (h' : Verified server request auth') : auth = auth' := by
  obtain ⟨header, previous, hheader, -, hverified⟩ := h.bearer
  obtain ⟨header', previous', hheader', -, hverified'⟩ := h'.bearer
  obtain rfl := Option.some.inj (hheader.symm.trans hheader')
  exact congrArg Prod.fst (Except.ok.inj (hverified.symm.trans hverified'))

theorem bearerHook_ok_iff {path : String} :
    server.bearerHook request path context = .ok context' ↔
      ∃ auth, (∃ header previous, request.authorization = some header ∧
          startsWith header BEARER_PREFIX = true ∧
          verifyAccessToken server.node (trim (sliceFrom header BEARER_PREFIX.length))
            server.jwtAuth server.now = .ok (auth, previous)) ∧
        server.assertAccessTokenIsActive auth = .ok () ∧
        (startsWith path ADMIN_ROUTE_PREFIX = true → auth.role = .admin) ∧
        context' = Server.setIdentity context auth := by
  unfold Server.bearerHook
  cases hheader : request.authorization with
  | none => simp
  | some header =>
      by_cases hbearer : startsWith header BEARER_PREFIX = true
      · simp only [hbearer, not_true_eq_false, if_false, bind_eq_ok_iff, require_eq_ok_iff,
          pure_eq_ok_iff, exists_const, Option.some.injEq, Prod.exists]
        constructor
        · rintro ⟨auth, previous, hverified, ⟨⟩, hactive, hadmin, rfl⟩
          exact ⟨auth, ⟨header, previous, rfl, hbearer, hverified⟩, hactive, hadmin, rfl⟩
        · rintro ⟨auth, ⟨_, previous, rfl, -, hverified⟩, hactive, hadmin, rfl⟩
          exact ⟨auth, previous, hverified, (), hactive, hadmin, rfl⟩
      · simp only [hbearer, not_false_eq_true, if_true, reduceCtorEq, false_iff, not_exists]
        rintro auth ⟨⟨_, previous, heq, hstarts, -⟩, -⟩
        obtain rfl := Option.some.inj heq
        exact hbearer hstarts

/-- A request whose raw path is not under `/v1/` passes the hooks as it is. -/
theorem onRequest_outside (houtside : startsWith (routePath request.url) V1_ROUTE_PREFIX = false) :
    (server.onRequest .new request).1 = .ok request.initialContext := by
  refine onRequest_ok_iff.mpr ⟨_, rateLimitHook_new, ?_, rfl⟩
  simp [Server.authHook, Request.initialContext, houtside]

/-- A request whose raw path is under `/v1/` and not the token endpoint passes the
hooks exactly when it is verified, and for an `ADMIN` key if the raw path is under
`/v1/admin/`. -/
theorem authorized_iff (hinside : startsWith (routePath request.url) V1_ROUTE_PREFIX = true)
    (hother : routePath request.url ≠ TOKEN_ENDPOINT) :
    (server.authHook request request.initialContext = .ok context ∧
        server.sandboxHook request context = .ok ()) ↔
      ∃ auth, Verified server request auth ∧
        (startsWith (routePath request.url) ADMIN_ROUTE_PREFIX = true → auth.role = .admin) ∧
        context = Server.setIdentity request.initialContext auth := by
  have hraw : startsWith request.url V1_ROUTE_PREFIX = true := by
    rw [← startsWith_routePath (by decide)]
    exact hinside
  have hauth : server.authHook request request.initialContext =
      server.bearerHook request (routePath request.url) request.initialContext := by
    simp [Server.authHook, Request.initialContext, hinside, hother]
  have hsandbox : ∀ auth : AuthContext,
      server.sandboxHook request (Server.setIdentity request.initialContext auth) = .ok () ↔
        ∀ session ∈ server.demoSessions, session.apiKeyId = auth.apiKeyId →
          server.databaseNow < session.expiresAt := by
    intro auth
    simp only [Server.sandboxHook, Server.setIdentity, hraw, not_true_eq_false, false_or]
    by_cases hempty : auth.apiKeyId = ""
    · simp only [hempty, if_true, true_iff]
      exact fun session _ hsame => absurd hsame session.apiKeyId_ne
    · simp only [hempty, if_false, require_eq_ok_iff, not_exists, not_and, not_le]
  rw [hauth, bearerHook_ok_iff]
  constructor
  · rintro ⟨⟨auth, hbearer, hactive, hadmin, rfl⟩, hsession⟩
    exact ⟨auth, ⟨hbearer, hactive, (hsandbox auth).mp hsession⟩, hadmin, rfl⟩
  · rintro ⟨auth, hverified, hadmin, rfl⟩
    exact ⟨⟨auth, hverified.bearer, hverified.active, hadmin, rfl⟩,
      (hsandbox auth).mpr hverified.session⟩

/-- A verified request has its handler run, if the limiter has seen no call. -/
theorem serve_new_of_verified {auth : AuthContext} {route : Route}
    (hverified : Verified server request auth)
    (hdispatch : server.router.dispatch request.method request.url = some route)
    (hinside : startsWith (routePath request.url) V1_ROUTE_PREFIX = true)
    (hother : routePath request.url ≠ TOKEN_ENDPOINT)
    (hadmin : startsWith (routePath request.url) ADMIN_ROUTE_PREFIX = true → auth.role = .admin) :
    (server.serve .new request).1 =
      .handled route (Server.setIdentity request.initialContext auth) := by
  have hhooks := (authorized_iff hinside hother).mpr ⟨auth, hverified, hadmin, rfl⟩
  exact serve_handled_iff.mpr
    ⟨onRequest_ok_iff.mpr ⟨request.initialContext, rateLimitHook_new, hhooks⟩, hdispatch⟩

end Hooks

end LuxLedger.Http
