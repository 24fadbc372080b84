/-
  Http/Guards.lean --- which request targets pass the guards of `/v1/`.

  The hooks decide by the spelling of the raw target, the router by the decoded path.
  A target that spells the prefix of its route otherwise than the hooks expect passes
  them unseen: `/%761/ledgers` is outside `/v1/` to the hooks and inside to the router.
-/
import LuxLedger.Http.Server

set_option autoImplicit false

namespace LuxLedger.Http

open LuxLedger.Javascript

/-! ## The guards of a route -/

/-- A route under `/v1/` other than the token endpoint. -/
structure Route.Protected (route : Route) : Prop where
  v1 : startsWith route.url V1_ROUTE_PREFIX = true
  other : route.url ≠ TOKEN_ENDPOINT

/-- A request that may reach the handler of a protected route. -/
def Guarded (server : Server) (request : Request) (route : Route) : Prop :=
  ∃ auth, Verified server request auth ∧
    (startsWith route.url ADMIN_ROUTE_PREFIX = true → auth.role = .admin)

/-- No request for a method and a target reaches the handler of a route around the
guards, whatever its headers and whatever was counted before. -/
def NoWayAround (server : Server) (method url : String) (route : Route) : Prop :=
  ∀ limiter request context, request.method = method → request.url = url →
    (server.serve limiter request).1 = .handled route context → Guarded server request route

/-- Some `SERVICE` key is in use. -/
def ServiceKeyInUse (server : Server) : Prop :=
  ∃ request auth, Verified server request auth ∧ auth.role = .service

/-- The raw path has the prefixes of its route that the hooks look for; without a
`SERVICE` key that of the administration makes no difference. -/
structure SpellsPrefixes (server : Server) (url : String) (route : Route) : Prop where
  v1 : startsWith (routePath url) V1_ROUTE_PREFIX = true
  admin : startsWith route.url ADMIN_ROUTE_PREFIX = true → ServiceKeyInUse server →
    startsWith (routePath url) ADMIN_ROUTE_PREFIX = true

section Guards

variable {server : Server} (hrouter : server.router.Lawful) {method url : String} {route : Route}
  (hdispatch : server.router.dispatch method url = some route) (hprotected : route.Protected)

include hrouter hdispatch hprotected

/-- The raw path of a protected route is not that of the token endpoint. -/
theorem routePath_ne_token : routePath url ≠ TOKEN_ENDPOINT := by
  intro htoken
  have hslash : startsWith url "/" = true := by
    rw [← startsWith_routePath (by decide), htoken]
    decide
  have hplain : server.router.requestPath url = some (routePath url) := by
    refine hrouter.requestPath_plain url hslash ?_
    rw [htoken]
    decide
  rw [Router.dispatch, hplain, htoken, Option.bind_some] at hdispatch
  exact hprotected.other (hrouter.token_only hdispatch)

/-- A target that spells the prefixes has its handler run for verified requests only. -/
theorem noWayAround_of_spells (hspells : SpellsPrefixes server url route) :
    NoWayAround server method url route := by
  rintro limiter request context rfl rfl hhandled
  obtain ⟨hhooks, -⟩ := serve_handled_iff.mp hhandled
  obtain ⟨limited, hlimited, hauth⟩ := onRequest_ok_iff.mp hhooks
  obtain rfl := rateLimitHook_ok hlimited
  obtain ⟨auth, hverified, hadmin, -⟩ := (authorized_iff hspells.v1
    (routePath_ne_token hrouter hdispatch hprotected)).mp hauth
  refine ⟨auth, hverified, fun hroute => ?_⟩
  cases hrole : auth.role with
  | admin => rfl
  | service =>
      rw [← hrole]
      exact hadmin (hspells.admin hroute ⟨request, auth, hverified, hrole⟩)

omit hrouter hprotected in
/-- A target outside `/v1/` to the hooks has its handler run for anybody. -/
theorem v1_of_noWayAround (hguarded : NoWayAround server method url route) :
    startsWith (routePath url) V1_ROUTE_PREFIX = true := by
  by_contra houtside
  rw [Bool.not_eq_true] at houtside
  have hhandled : (server.serve .new ⟨method, url, "", none, none⟩).1 = .handled route _ :=
    serve_handled_iff.mpr ⟨onRequest_outside houtside, hdispatch⟩
  obtain ⟨auth, hverified, -⟩ := hguarded _ _ _ rfl rfl hhandled
  obtain ⟨header, previous, hheader, -⟩ := hverified.bearer
  cases hheader

/-- A target outside `/v1/admin/` to the hooks has its handler run for a `SERVICE` key. -/
theorem admin_of_noWayAround (hservice : ServiceKeyInUse server)
    (hguarded : NoWayAround server method url route)
    (hadmin : startsWith route.url ADMIN_ROUTE_PREFIX = true) :
    startsWith (routePath url) ADMIN_ROUTE_PREFIX = true := by
  have hinside := v1_of_noWayAround hdispatch hguarded
  by_contra houtside
  obtain ⟨request, auth, hverified, hrole⟩ := hservice
  -- the same bearer token, sent to the target
  have hverified' : Verified server { request with method := method, url := url } auth :=
    ⟨hverified.bearer, hverified.active, hverified.session⟩
  have hhandled := serve_new_of_verified hverified' hdispatch hinside
    (routePath_ne_token hrouter hdispatch hprotected) fun h => absurd h houtside
  obtain ⟨auth', hverified'', hrole'⟩ := hguarded _ _ _ rfl rfl hhandled
  rw [hverified''.unique hverified', hrole] at hrole'
  exact absurd (hrole' hadmin) (by decide)

/-- There is no way around the guards of a protected route exactly when the raw path
spells the prefixes of the route. -/
theorem noWayAround_iff :
    NoWayAround server method url route ↔ SpellsPrefixes server url route :=
  ⟨fun hguarded =>
    { v1 := v1_of_noWayAround hdispatch hguarded
      admin := fun hadmin hservice =>
        admin_of_noWayAround hrouter hdispatch hprotected hservice hguarded hadmin },
    noWayAround_of_spells hrouter hdispatch hprotected⟩

end Guards

/-! ## A small server

Three routes of the adapter, and one `SERVICE` key with a token for the first 900
seconds.  The router decodes the escapes of ASCII characters as `decodeURI` does,
so those of the reserved ones stay. -/

namespace Sample

/-- The value of a hexadecimal digit. -/
def hexValue (c : Char) : Option Nat :=
  if '0' ≤ c ∧ c ≤ '9' then some (c.toNat - '0'.toNat)
  else if 'a' ≤ c ∧ c ≤ 'f' then some (c.toNat - 'a'.toNat + 10)
  else if 'A' ≤ c ∧ c ≤ 'F' then some (c.toNat - 'A'.toNat + 10)
  else none

/-- The path with its escapes of ASCII characters decoded. -/
def decodePath : List Char → Option (List Char)
  | [] => some []
  | '%' :: high :: low :: rest => do
      let code := 16 * (← hexValue high) + (← hexValue low)
      let decoded ← decodePath rest
      if 128 ≤ code then none
      else if Char.ofNat code ∈ "#$&+,/:;=?@%".toList then some ('%' :: high :: low :: decoded)
      else some (Char.ofNat code :: decoded)
  | '%' :: _ => none
  | c :: rest => (decodePath rest).map (c :: ·)

theorem decodePath_plain {path : List Char} (h : ∀ c ∈ path, c ≠ '%') :
    decodePath path = some path := by
  induction path with
  | nil => rfl
  | cons c rest ih =>
      have hc : c ≠ '%' := h c List.mem_cons_self
      have hrest := ih fun d hd => h d (List.mem_cons_of_mem _ hd)
      rw [decodePath, hrest, Option.map_some]
      · rintro high low more rfl
        exact absurd rfl hc
      · exact hc

/-- Some routes of the adapter. -/
def ledgerAdapter : List Route :=
  [⟨"GET", "/v1/ledgers"⟩, ⟨"GET", "/v1/ledgers/:id"⟩, ⟨"GET", "/v1/admin/api-keys"⟩]

/-- A router that decodes a path and finds the first route that matches. -/
def router : Router where
  requestPath url :=
    if startsWith url "/" then (decodePath (cutAt (routePath url) '#').toList).map String.ofList
    else none
  find method path := (registeredRoutes ledgerAdapter false).find? fun route =>
    route.method = method ∧ route.Matches path
  ledgerAdapter := ledgerAdapter
  resetEnabled := false

theorem router_lawful : router.Lawful where
  find_matches := by
    intro method path route hfound
    simp only [router] at hfound
    have hmatches := List.find?_some hfound
    exact ⟨⟨route, List.mem_of_find?_eq_some hfound, rfl⟩, (of_decide_eq_true hmatches).2⟩
  requestPath_plain := by
    intro url hslash hplain
    simp only [isPathChar, List.all_eq_true, Bool.and_eq_true, decide_eq_true_eq] at hplain
    have hcut : (cutAt (routePath url) '#').toList = (routePath url).toList := by
      rw [toList_cutAt, List.takeWhile_eq_self_iff]
      intro c hc
      simpa using (hplain c hc).1.2
    have hdecoded := decodePath_plain fun c hc => (hplain c hc).1.1
    simp only [router, hslash, if_true, hcut, hdecoded, Option.map_some, String.ofList_toList]
  adapter_token := by decide

/-- The header of a token, encoded. -/
def encodedHeader : String := "eyJhbGciOiJIUzI1NiIsInR5cCI6IkpXVCJ9"

/-- The start of its payload. -/
def payloadStart : String := "eyJpc3MiOiJsdXhsZWRnZXItYXBpIiwic3ViIjoiayIsInRlbmFudF9p"

/-- The rest of its payload. -/
def payloadEnd : String := "ZCI6InQiLCJyb2xlIjoiU0VSVklDRSIsImlhdCI6MCwiZXhwIjo5MDB9"

/-- The payload of the token, encoded. -/
def encodedPayload : String := payloadStart ++ payloadEnd

/-- The signature of the two under the key. -/
def encodedSignature : String := "-No-3abaflZHphb498Cf2sxBzVjYz1iJu9aLVPhrOnk"

/-- The signing key. -/
def signingKey : String := "MDEyMzQ1Njc4OWFiY2RlZjAxMjM0NTY3ODlhYmNkZWY"

/-- The token. -/
def token : String := encodedHeader ++ "." ++ (encodedPayload ++ "." ++ encodedSignature)

/-- The header that is encoded. -/
def headerText : String := "\x7b\"alg\":\"HS256\",\"typ\":\"JWT\"\x7d"

/-- The payload that is encoded. -/
def payloadText : String :=
  "\x7b\"iss\":\"luxledger-api\",\"sub\":\"k\",\"tenant_id\":\"t\"," ++
    "\"role\":\"SERVICE\",\"iat\":0,\"exp\":900\x7d"

/-- The header, parsed. -/
def header : Json := .object [("alg", .string "HS256"), ("typ", .string "JWT")]

/-- The payload, parsed. -/
def payload : Json :=
  .object [("iss", .string "luxledger-api"), ("sub", .string "k"), ("tenant_id", .string "t"),
    ("role", .string "SERVICE"), ("iat", .number 0), ("exp", .number 900)]

/-- The functions of Node, where the token needs them. -/
def node : Node where
  hmacSha256 input key :=
    if input = encodedHeader ++ "." ++ encodedPayload ∧ key = signingKey then encodedSignature
    else ""
  decodeBase64Url value :=
    if value = encodedPayload then payloadText else if value = encodedHeader then headerText else ""
  parseJson text :=
    if text = payloadText then some payload else if text = headerText then some header else none

/-- A server with the key. -/
def server : Server where
  node := node
  jwtAuth := ⟨signingKey, [], "luxledger-api", 5⟩
  rateLimit := ⟨⟨20, 60, by decide, by decide⟩, ⟨120, 60, by decide, by decide⟩⟩
  authenticate := fun _ => .error (.unauthorized "Invalid API key")
  assertAccessTokenIsActive := fun auth =>
    if auth.apiKeyId = "k" then .ok () else .error (.unauthorized "Invalid API key")
  demoSessions := [⟨"k", 600000, by decide⟩]
  router := router
  now := 300000
  databaseNow := 300000

/-- What the token says. -/
def serviceAuth : AuthContext := ⟨"k", "t", .service⟩

/-- A request with the token of the key. -/
def serviceRequest (url : String) : Request :=
  ⟨"GET", url, "10.0.0.1", some (BEARER_PREFIX ++ token), none⟩

/-- A character that neither ends a part of a token nor is trimmed. -/
def isTokenChar (c : Char) : Bool := c ≠ '.' && !isWhiteSpace c

theorem encodedHeader_chars : encodedHeader.toList.all isTokenChar = true := by decide +kernel

theorem encodedPayload_chars : encodedPayload.toList.all isTokenChar = true := by
  have hstart : payloadStart.toList.all isTokenChar = true := by decide +kernel
  have hend : payloadEnd.toList.all isTokenChar = true := by decide +kernel
  rw [encodedPayload, String.toList_append, List.all_append, hstart, hend]
  rfl

theorem encodedSignature_chars : encodedSignature.toList.all isTokenChar = true := by
  decide +kernel

theorem dot_not_mem {s : String} (h : s.toList.all isTokenChar = true) : '.' ∉ s.toList := by
  intro hdot
  exact absurd (List.all_eq_true.mp h '.' hdot) (by decide)

theorem split_token : split token '.' = [encodedHeader, encodedPayload, encodedSignature] := by
  have hbetween : ".".toList = ['.'] := by decide
  rw [token, split_append (dot_not_mem encodedHeader_chars) hbetween,
    split_append (dot_not_mem encodedPayload_chars) hbetween,
    split_of_not_mem (dot_not_mem encodedSignature_chars)]

theorem trim_token : trim token = token := by
  refine trim_eq_self ?_
  have hdot : ".".toList.all (fun c => !isWhiteSpace c) = true := by decide
  have hchars : ∀ {s : String}, s.toList.all isTokenChar = true →
      s.toList.all (fun c => !isWhiteSpace c) = true := by
    intro s hs
    refine List.all_eq_true.mpr fun c hc => ?_
    have hchar := List.all_eq_true.mp hs c hc
    rw [isTokenChar, Bool.and_eq_true] at hchar
    exact hchar.2
  rw [token, String.toList_append, String.toList_append, String.toList_append,
    String.toList_append, List.all_append, List.all_append, List.all_append, List.all_append,
    hdot, hchars encodedHeader_chars, hchars encodedPayload_chars, hchars encodedSignature_chars]
  rfl

theorem parse_encodedHeader :
    node.parseJson (node.decodeBase64Url encodedHeader) = some header := by
  have hencoded : encodedHeader ≠ encodedPayload := by decide +kernel
  have htext : headerText ≠ payloadText := by decide +kernel
  simp only [node, hencoded, htext, if_true, if_false]

theorem parse_encodedPayload :
    node.parseJson (node.decodeBase64Url encodedPayload) = some payload := by
  simp only [node, if_true]

theorem token_verifies :
    verifyAccessToken node token server.jwtAuth server.now = .ok (serviceAuth, none) := by
  have hsignature : hasValidSignature node encodedSignature (encodedHeader ++ "." ++ encodedPayload)
      signingKey = true := by
    simp [hasValidSignature, node]
  have hassert : assertPayload payload "luxledger-api" = .ok ⟨"k", "t", .service, 0, 900⟩ := by
    decide +kernel
  have hheader : encodedHeader ≠ "" := by decide +kernel
  have hpayload : encodedPayload ≠ "" := by decide +kernel
  have hencoded : encodedSignature ≠ "" := by decide +kernel
  have htyped : header.stringField? "alg" = some "HS256" ∧
      header.stringField? "typ" = some "JWT" := by
    decide +kernel
  rw [verifyAccessToken, split_token]
  simp only [parse_encodedHeader, parse_encodedPayload, hassert, server,
    List.findIdx?_cons, hsignature, ne_eq, hheader, hpayload, hencoded, htyped]
  decide +kernel

theorem serviceRequest_verified (url : String) :
    Verified server (serviceRequest url) serviceAuth where
  bearer := by
    refine ⟨_, none, rfl, startsWith_append _ _, ?_⟩
    rw [sliceFrom_append, trim_token]
    exact token_verifies
  active := rfl
  session := by decide +kernel

/-- The key is in use. -/
theorem serviceKeyInUse : ServiceKeyInUse server :=
  ⟨serviceRequest "/v1/ledgers", serviceAuth, serviceRequest_verified _, rfl⟩

theorem apiKeys_protected : Route.Protected ⟨"GET", "/v1/admin/api-keys"⟩ :=
  ⟨by decide, by decide⟩

end Sample

/-- Nobody passes the guards of the API keys by their plain target. -/
theorem noWayAround_iff_sample :
    NoWayAround Sample.server "GET" "/v1/admin/api-keys?limit=1" ⟨"GET", "/v1/admin/api-keys"⟩ :=
  (noWayAround_iff Sample.router_lawful (by decide +kernel) Sample.apiKeys_protected).mpr
    ⟨by decide +kernel, fun _ _ => by decide +kernel⟩

/-- An escape in `v1` opens a route to anybody, one in `admin` an administrative route
to a `SERVICE` key. -/
theorem escaped_target_unguarded :
    Sample.server.router.dispatch "GET" "/%761/ledgers" = some ⟨"GET", "/v1/ledgers"⟩ ∧
      ¬ NoWayAround Sample.server "GET" "/%761/ledgers" ⟨"GET", "/v1/ledgers"⟩ ∧
      Sample.server.router.dispatch "GET" "/v1/%61dmin/api-keys" =
        some ⟨"GET", "/v1/admin/api-keys"⟩ ∧
      ¬ NoWayAround Sample.server "GET" "/v1/%61dmin/api-keys" ⟨"GET", "/v1/admin/api-keys"⟩ := by
  have hledgers : Sample.server.router.dispatch "GET" "/%761/ledgers" =
      some ⟨"GET", "/v1/ledgers"⟩ := by decide +kernel
  have hkeys : Sample.server.router.dispatch "GET" "/v1/%61dmin/api-keys" =
      some ⟨"GET", "/v1/admin/api-keys"⟩ := by decide +kernel
  refine ⟨hledgers, fun hguarded => ?_, hkeys, fun hguarded => ?_⟩
  · have hv1 := v1_of_noWayAround hledgers hguarded
    revert hv1
    decide +kernel
  · have hadmin := admin_of_noWayAround Sample.router_lawful hkeys Sample.apiKeys_protected
      Sample.serviceKeyInUse hguarded (by decide +kernel)
    revert hadmin
    decide +kernel

end LuxLedger.Http
