/-
  Http/Routes.lean --- the routes of the server, and the router that dispatches to
  them.

  Source: `server.ts`, `demo/routes.ts`, `demo/sandbox.ts`.  The router (find-my-way)
  and the routes of the ledger adapter are packages: parameters here.  The router
  dispatches on the decoded path of a request, the hooks read the raw target.
-/
import LuxLedger.Javascript.Text

set_option autoImplicit false

namespace LuxLedger.Http

open LuxLedger.Javascript

/-- `TOKEN_ENDPOINT`. -/
def TOKEN_ENDPOINT : String := "/v1/auth/token"

/-- `V1_ROUTE_PREFIX`. -/
def V1_ROUTE_PREFIX : String := "/v1/"

/-- `ADMIN_ROUTE_PREFIX`. -/
def ADMIN_ROUTE_PREFIX : String := "/v1/admin/"

/-- `routePath`: the raw target up to its query. -/
def routePath (url : String) : String :=
  match indexOf url '?' with
  | none => url
  | some querySeparatorIndex => sliceTo url querySeparatorIndex

theorem startsWith_routePath {url head : String} (hfree : '?' ∉ head.toList) :
    startsWith (routePath url) head = startsWith url head :=
  startsWith_cutAt hfree

/-! ## Route templates -/

/-- A route: its method and its template, where a segment `:name` is a parameter. -/
structure Route where
  method : String
  url : String
  deriving DecidableEq, Repr

/-- The segments of a path. -/
def segments (path : String) : List (List Char) := path.toList.splitOn '/'

/-- A path against a template, segment by segment. -/
def matchSegments : List (List Char) → List (List Char) → Bool
  | [], [] => true
  | template :: templates, part :: parts =>
      (template.head? = some ':' || template = part) && matchSegments templates parts
  | _, _ => false

/-- The route matches the path, segment by segment. -/
def Route.Matches (route : Route) (path : String) : Prop :=
  matchSegments (segments route.url) (segments path) = true

instance (route : Route) (path : String) : Decidable (route.Matches path) :=
  inferInstanceAs (Decidable (_ = true))

/-! ## Registered routes -/

/-- Routes of `createServerCore`. -/
def coreRoutes : List Route :=
  [⟨"GET", "/health"⟩, ⟨"GET", "/ready"⟩, ⟨"GET", "/openapi.yaml"⟩, ⟨"GET", "/demo/contract"⟩,
    ⟨"GET", "/docs/swagger-ui.css"⟩, ⟨"GET", "/docs/swagger-ui-bundle.js"⟩, ⟨"GET", "/docs"⟩]

/-- Routes of `registerApplication`, with those of `registerLedgerAdapter`. -/
def applicationRoutes (ledgerAdapter : List Route) : List Route :=
  ⟨"GET", "/metrics"⟩ :: ⟨"POST", TOKEN_ENDPOINT⟩ :: ledgerAdapter

/-- Routes of `registerDemoRoutes`. -/
def demoRoutes : List Route :=
  [⟨"GET", "/demo/state"⟩, ⟨"GET", "/demo/accounts/:address/details"⟩, ⟨"POST", "/demo/accounts"⟩,
    ⟨"POST", "/demo/accounts/:address/fund"⟩, ⟨"POST", "/demo/transfers"⟩, ⟨"POST", "/demo/holds"⟩,
    ⟨"POST", "/demo/holds/:id/commit"⟩, ⟨"POST", "/demo/holds/:id/void"⟩,
    ⟨"POST", "/demo/reconciliation"⟩, ⟨"POST", "/demo/reset"⟩]

/-- Routes of `registerSandbox`. -/
def sandboxRoutes : List Route :=
  [⟨"GET", "/demo/session"⟩, ⟨"POST", "/demo/session"⟩, ⟨"GET", "/demo/session/holds"⟩]

/-- Routes of `run`. -/
def registeredRoutes (ledgerAdapter : List Route) (resetEnabled : Bool) : List Route :=
  coreRoutes ++ applicationRoutes ledgerAdapter ++ (if resetEnabled then demoRoutes else []) ++
    sandboxRoutes

/-! ## The router -/

/-- A character of a raw path that is neither an escape nor a delimiter. -/
def isPathChar (c : Char) : Bool := c ≠ '%' && c ≠ '#' && c ≠ ';'

/-- The router with the routes it was given. -/
structure Router where
  /-- the path a raw target is matched by: its path, percent-decoded -/
  requestPath : String → Option String
  /-- the route for a method and a path -/
  find : String → String → Option Route
  ledgerAdapter : List Route
  resetEnabled : Bool

/-- The route a request is dispatched to. -/
def Router.dispatch (router : Router) (method url : String) : Option Route :=
  (router.requestPath url).bind (router.find method)

/-- What the router and the adapter are documented to do. -/
structure Router.Lawful (router : Router) : Prop where
  /-- a route that is found has a registered template, and that matches -/
  find_matches : ∀ method path route, router.find method path = some route →
    (∃ registered ∈ registeredRoutes router.ledgerAdapter router.resetEnabled,
      registered.url = route.url) ∧ route.Matches path
  /-- a path without escapes and delimiters is matched as it is written -/
  requestPath_plain : ∀ url, startsWith url "/" = true →
    (routePath url).toList.all isPathChar = true →
      router.requestPath url = some (routePath url)
  /-- the adapter has no route for the token endpoint -/
  adapter_token : ∀ route ∈ router.ledgerAdapter, ¬ route.Matches TOKEN_ENDPOINT

/-- Only the token endpoint answers at its own path. -/
theorem Router.Lawful.token_only {router : Router} (hrouter : router.Lawful) {method : String}
    {route : Route} (h : router.find method TOKEN_ENDPOINT = some route) :
    route.url = TOKEN_ENDPOINT := by
  obtain ⟨⟨registered, hmem, hurl⟩, hmatches⟩ := hrouter.find_matches _ _ _ h
  have hregistered : registered.Matches TOKEN_ENDPOINT := by
    unfold Route.Matches at hmatches ⊢
    rw [hurl]
    exact hmatches
  have hown : ∀ r ∈ coreRoutes ++ demoRoutes ++ sandboxRoutes, ¬ r.Matches TOKEN_ENDPOINT := by
    decide
  have hother : registered ∉ coreRoutes ++ demoRoutes ++ sandboxRoutes :=
    fun hmem => hown registered hmem hregistered
  have hadapter : registered ∉ router.ledgerAdapter :=
    fun hmem => hrouter.adapter_token registered hmem hregistered
  have hmetrics : registered ≠ ⟨"GET", "/metrics"⟩ := by
    rintro rfl
    revert hregistered
    decide
  simp only [List.mem_append, not_or] at hother
  simp only [registeredRoutes, applicationRoutes, List.mem_append, List.mem_cons] at hmem
  rcases hmem with ((hcore | hmetrics' | rfl | hadapter') | hdemo) | hsandbox
  · exact absurd hcore hother.1.1
  · exact absurd hmetrics' hmetrics
  · exact hurl.symm
  · exact absurd hadapter' hadapter
  · split at hdemo
    · exact absurd hdemo hother.1.2
    · cases hdemo
  · exact absurd hsandbox hother.2

end LuxLedger.Http
