/-
  Http/ServerRuns.lean --- the server over a run of requests.

  One limiter counts for all requests of a run, under a key made of the scope of the
  request and the address it comes from.  So a run falls apart into the runs of its
  clients: what one of them is answered does not depend on the requests of the others,
  and how often a client gets past the limiter is bounded for each client alone.
-/
import LuxLedger.Http.Guards
import LuxLedger.Http.RateLimitQuota

set_option autoImplicit false

namespace LuxLedger.Http

open LuxLedger.Javascript LuxLedger.Relational LuxLedger.Foundation

/-- A request, and what the server is when it arrives. -/
structure Arrival where
  server : Server
  request : Request

/-- The scope of a rate limit and an address. -/
abbrev Client : Type := String × String

/-- The key under which the limiter counts a client. -/
def Client.key (c : Client) : String := c.1 ++ ":" ++ c.2

/-- The policy of a scope. -/
def RateLimitConfig.policy (config : RateLimitConfig) (scope : String) : EndpointRateLimitConfig :=
  if scope = "auth_token" then config.authToken else config.write

namespace Arrival

variable (a : Arrival)

/-- The scope and limit that the request counts for. -/
def target : Option (String × EndpointRateLimitConfig) :=
  resolveRateLimitTarget a.request.method (routePath a.request.url) a.server.rateLimit.authToken
    a.server.rateLimit.write

/-- Whom the limiter counts the request for, if anybody. -/
def client : Option Client := a.target.map fun t => (t.1, a.request.ip)

/-- The limiter lets the request pass. -/
def Admitted (limiter : FixedWindowLimiter) : Prop :=
  (a.server.rateLimitHook limiter a.request).1.toBool = true

instance (limiter : FixedWindowLimiter) : Decidable (a.Admitted limiter) :=
  inferInstanceAs (Decidable (_ = _))

end Arrival

/-- The requests of a run with their outcomes. -/
def serveAll (limiter : FixedWindowLimiter) : List Arrival → List (Arrival × Outcome)
  | [] => []
  | a :: rest =>
      (a, (a.server.serve limiter a.request).1) ::
        serveAll (a.server.serve limiter a.request).2 rest

/-- The limiter after a run. -/
def limiterAfter (limiter : FixedWindowLimiter) : List Arrival → FixedWindowLimiter
  | [] => limiter
  | a :: rest => limiterAfter (a.server.serve limiter a.request).2 rest

/-- The requests of a run that get past the limiter. -/
def admitted (limiter : FixedWindowLimiter) : List Arrival → List Arrival
  | [] => []
  | a :: rest =>
      (if a.Admitted limiter then [a] else []) ++
        admitted (a.server.serve limiter a.request).2 rest

/-! ## Clients -/

section Client

variable {a : Arrival} {c c' : Client}

/-- The scopes are two, and each has its policy. -/
theorem target_of_client (h : a.client = some c) :
    (c.1 = "auth_token" ∨ c.1 = "write") ∧ c.2 = a.request.ip ∧
      a.target = some (c.1, a.server.rateLimit.policy c.1) := by
  obtain ⟨t, ht, rfl⟩ := Option.map_eq_some_iff.mp h
  have hsplit := ht
  unfold Arrival.target resolveRateLimitTarget at hsplit
  split at hsplit
  · cases hsplit
  · split at hsplit
    · obtain rfl := Option.some.inj hsplit
      exact ⟨.inl rfl, rfl, ht⟩
    · obtain rfl := Option.some.inj hsplit
      exact ⟨.inr rfl, rfl, ht⟩

/-- No two clients share a key. -/
theorem Client.key_injective (hc : c.1 = "auth_token" ∨ c.1 = "write")
    (hc' : c'.1 = "auth_token" ∨ c'.1 = "write") (h : c.key = c'.key) : c = c' := by
  obtain ⟨scope, ip⟩ := c
  obtain ⟨scope', ip'⟩ := c'
  have hchars := congrArg String.toList h
  simp only [Client.key, String.toList_append] at hchars
  rcases hc with rfl | rfl <;> rcases hc' with rfl | rfl
  · rw [String.toList_inj.mp (List.append_cancel_left hchars)]
  · exact absurd (List.cons.inj hchars).1 (by decide)
  · exact absurd (List.cons.inj hchars).1 (by decide)
  · rw [String.toList_inj.mp (List.append_cancel_left hchars)]

end Client

/-! ## One request -/

section Request

variable {a : Arrival} {c : Client} {limiter limiter' : FixedWindowLimiter}

theorem rateLimitHook_of_none (h : a.client = none) :
    a.server.rateLimitHook limiter a.request = (.ok a.request.initialContext, limiter) := by
  have htarget : a.target = none := Option.map_eq_none_iff.mp h
  unfold Arrival.target at htarget
  unfold Server.rateLimitHook
  dsimp only
  rw [htarget]
  rfl

theorem rateLimitHook_of_client (h : a.client = some c) :
    a.server.rateLimitHook limiter a.request =
      let consumed := limiter.consume c.key (a.server.rateLimit.policy c.1) a.server.now
      (if consumed.1.allowed then .ok a.request.initialContext
        else .error (.rateLimitExceeded consumed.1.retryAfterSeconds), consumed.2) := by
  obtain ⟨-, hip, htarget⟩ := target_of_client h
  unfold Arrival.target at htarget
  unfold Server.rateLimitHook
  dsimp only
  rw [htarget, Client.key, hip]
  dsimp only
  split <;> rfl

/-- What becomes of a request, by what the limiter says. -/
def Arrival.outcome (a : Arrival) (limited : Except ApiError RequestContext) : Outcome :=
  match limited.bind fun context => (a.server.authHook a.request context).bind fun context =>
      (a.server.sandboxHook a.request context).map fun _ => context with
  | .error error => .rejected error
  | .ok context =>
      match a.server.router.dispatch a.request.method a.request.url with
      | none => .notFound
      | some route => .handled route context

theorem serve_eq :
    a.server.serve limiter a.request =
      (a.outcome (a.server.rateLimitHook limiter a.request).1,
        (a.server.rateLimitHook limiter a.request).2) := by
  unfold Server.serve Server.onRequest Arrival.outcome
  generalize a.server.rateLimitHook limiter a.request = limited
  obtain ⟨error | context, limiter'⟩ := limited
  · rfl
  · dsimp only [Except.bind, bind, pure, Except.pure]
    cases a.server.authHook a.request context with
    | error error => rfl
    | ok authorized =>
        dsimp only [Except.bind]
        cases a.server.sandboxHook a.request authorized with
        | error error => rfl
        | ok done =>
            dsimp only [Except.map]
            cases a.server.router.dispatch a.request.method a.request.url <;> rfl

/-- A request that is not counted passes, and leaves the limiter alone. -/
theorem serve_of_none (h : a.client = none) :
    a.server.serve limiter a.request = (a.outcome (.ok a.request.initialContext), limiter) := by
  rw [serve_eq, rateLimitHook_of_none h]

/-- The limiter is asked before anything else; a request that it refuses is answered
without the services. -/
theorem serve_of_client (h : a.client = some c) :
    a.server.serve limiter a.request =
      let consumed := limiter.consume c.key (a.server.rateLimit.policy c.1) a.server.now
      (if consumed.1.allowed then a.outcome (.ok a.request.initialContext)
        else .rejected (.rateLimitExceeded consumed.1.retryAfterSeconds), consumed.2) := by
  rw [serve_eq, rateLimitHook_of_client h]
  dsimp only
  split <;> rfl

theorem admitted_iff (h : a.client = some c) :
    a.Admitted limiter ↔
      (limiter.consume c.key (a.server.rateLimit.policy c.1) a.server.now).1.allowed = true := by
  rw [Arrival.Admitted, rateLimitHook_of_client h]
  dsimp only
  split
  · next hallowed => exact iff_of_true rfl hallowed
  · next hdenied => exact iff_of_false Bool.false_ne_true hdenied

/-- What happens to a client depends on its own bucket. -/
theorem serve_congr (h : a.client = some c) (hbucket : limiter c.key = limiter' c.key) :
    (a.server.serve limiter a.request).1 = (a.server.serve limiter' a.request).1 ∧
      (a.server.serve limiter a.request).2 c.key = (a.server.serve limiter' a.request).2 c.key ∧
      (a.Admitted limiter ↔ a.Admitted limiter') := by
  have hsame :
      (limiter.consume c.key (a.server.rateLimit.policy c.1) a.server.now).1 =
          (limiter'.consume c.key (a.server.rateLimit.policy c.1) a.server.now).1 ∧
        (limiter.consume c.key (a.server.rateLimit.policy c.1) a.server.now).2 c.key =
          (limiter'.consume c.key (a.server.rateLimit.policy c.1) a.server.now).2 c.key :=
    FixedWindowLimiter.consume_congr hbucket
  rw [serve_of_client h, serve_of_client h, admitted_iff h, admitted_iff h]
  dsimp only
  rw [hsame.1]
  exact ⟨rfl, hsame.2, Iff.rfl⟩

/-- The bucket of another client is left alone. -/
theorem serve_other (hc : c.1 = "auth_token" ∨ c.1 = "write") (h : a.client ≠ some c) :
    (a.server.serve limiter a.request).2 c.key = limiter c.key := by
  cases hclient : a.client with
  | none => rw [serve_of_none hclient]
  | some other =>
      rw [serve_of_client hclient]
      refine FixedWindowLimiter.consume_other fun hkey => h ?_
      rw [hclient, Client.key_injective (target_of_client hclient).1 hc hkey.symm]

end Request

/-! ## Runs -/

section Runs

variable {arrivals : List Arrival} {c : Client} {limiter limiter' : FixedWindowLimiter}

/-- The requests of a client are answered as if nobody else had sent any. -/
theorem serveAll_filter (hc : c.1 = "auth_token" ∨ c.1 = "write")
    (hbucket : limiter c.key = limiter' c.key) :
    (serveAll limiter arrivals).filter (fun x => x.1.client = some c) =
      serveAll limiter' (arrivals.filter fun a => a.client = some c) := by
  induction arrivals generalizing limiter limiter' with
  | nil => rfl
  | cons a rest ih =>
      rw [serveAll]
      by_cases hclient : a.client = some c
      · obtain ⟨houtcome, hafter, -⟩ := serve_congr hclient hbucket
        rw [List.filter_cons_of_pos (by simpa using hclient),
          List.filter_cons_of_pos (by simpa using hclient), serveAll, houtcome, ih hafter]
      · rw [List.filter_cons_of_neg (by simpa using hclient),
          List.filter_cons_of_neg (by simpa using hclient)]
        exact ih ((serve_other hc hclient).trans hbucket)

/-- The calls of the limiter for a client. -/
def callsOf (c : Client) (arrivals : List Arrival) : List RateLimitCall :=
  (arrivals.filter fun a => a.client = some c).map fun a => ⟨c.key, a.server.now⟩

theorem callsOf_cons_of_client {a : Arrival} {rest : List Arrival} (h : a.client = some c) :
    callsOf c (a :: rest) = ⟨c.key, a.server.now⟩ :: callsOf c rest := by
  rw [callsOf, List.filter_cons_of_pos (by simpa using h), List.map_cons, callsOf]

theorem callsOf_cons_of_ne {a : Arrival} {rest : List Arrival} (h : a.client ≠ some c) :
    callsOf c (a :: rest) = callsOf c rest := by
  rw [callsOf, List.filter_cons_of_neg (by simpa using h), callsOf]

section Calls

variable {config : RateLimitConfig} (hconfig : ∀ a ∈ arrivals, a.server.rateLimit = config)
  (hc : c.1 = "auth_token" ∨ c.1 = "write")
include hconfig hc

/-- A client gets past the limiter when the calls for it are allowed. -/
theorem admitted_times (hbucket : limiter c.key = limiter' c.key) :
    ((admitted limiter arrivals).filter fun a => a.client = some c).map (·.server.now) =
      ((limiter'.decisions (config.policy c.1) (callsOf c arrivals)).filter
        fun d => d.1.key = c.key ∧ d.2.allowed).map (·.1.nowMs) := by
  induction arrivals generalizing limiter limiter' with
  | nil => rfl
  | cons a rest ih =>
      have hrest := fun b hb => hconfig b (List.mem_cons_of_mem a hb)
      rw [admitted, List.filter_append, List.map_append]
      by_cases hclient : a.client = some c
      · obtain ⟨-, hafter, hadmitted⟩ := serve_congr hclient hbucket
        rw [ih hrest hafter, callsOf_cons_of_client hclient, FixedWindowLimiter.decisions,
          serve_of_client hclient, hconfig a List.mem_cons_self, List.filter_cons]
        rw [admitted_iff hclient, admitted_iff hclient, hconfig a List.mem_cons_self] at hadmitted
        simp only [admitted_iff hclient, hconfig a List.mem_cons_self, hadmitted, true_and,
          decide_eq_true_eq]
        split
        · simp [hclient]
        · rfl
      · rw [ih hrest ((serve_other hc hclient).trans hbucket), callsOf_cons_of_ne hclient]
        split
        · simp [hclient]
        · rfl

end Calls

theorem limiterAfter_append {more : List Arrival} :
    limiterAfter limiter (arrivals ++ more) =
      limiterAfter (limiterAfter limiter arrivals) more := by
  induction arrivals generalizing limiter with
  | nil => rfl
  | cons a rest ih => exact ih

theorem limiterAfter_others (hc : c.1 = "auth_token" ∨ c.1 = "write")
    (hothers : ∀ o ∈ arrivals, o.client ≠ some c) :
    limiterAfter limiter arrivals c.key = limiter c.key := by
  induction arrivals generalizing limiter with
  | nil => rfl
  | cons a rest ih =>
      rw [limiterAfter, ih fun o ho => hothers o (List.mem_cons_of_mem a ho)]
      exact serve_other hc (hothers a List.mem_cons_self)

/-- A request that nobody is counted for is answered as by a fresh server. -/
theorem serveAll_of_none {x : Arrival × Outcome} (hx : x ∈ serveAll limiter arrivals)
    (h : x.1.client = none) : x.2 = (x.1.server.serve .new x.1.request).1 := by
  induction arrivals generalizing limiter with
  | nil => exact absurd hx List.not_mem_nil
  | cons a rest ih =>
      rcases List.mem_cons.mp hx with rfl | hmem
      · have hnone : a.client = none := h
        change (a.server.serve limiter a.request).1 = (a.server.serve .new a.request).1
        rw [serve_of_none hnone, serve_of_none hnone]
      · exact ih hmem

end Runs

/-- In every run of the server, on a clock that does not go back: each client, a scope and an
address, is answered as if the requests of all others had not been sent, and a request that is
not counted, anything but a POST under `/v1/`, as by a fresh server; in any interval of one
window's length at most `2 * maxRequests - 1` of its requests get past the limiter to the
authentication; and a request that the limiter refuses is told the exact number of seconds after
which the next one passes, whatever others send in between. -/
theorem serveAll_quota {config : RateLimitConfig} {arrivals : List Arrival}
    (hconfig : ∀ a ∈ arrivals, a.server.rateLimit = config)
    (hordered : arrivals.Pairwise fun a b => a.server.now ≤ b.server.now) {c : Client}
    (hc : c.1 = "auth_token" ∨ c.1 = "write") :
    (serveAll .new arrivals).filter (fun x => x.1.client = some c) =
        serveAll .new (arrivals.filter fun a => a.client = some c) ∧
      (∀ x ∈ serveAll .new arrivals, x.1.client = none →
        x.2 = (x.1.server.serve .new x.1.request).1) ∧
      (∀ start, countIn (((admitted .new arrivals).filter fun a => a.client = some c).map
          (·.server.now)) start (start + (config.policy c.1).windowMs) ≤
        2 * (config.policy c.1).maxRequests - 1) ∧
      ∀ before a others b after, arrivals = before ++ a :: others ++ b :: after →
        a.client = some c → b.client = some c → (∀ o ∈ others, o.client ≠ some c) →
        ¬ a.Admitted (limiterAfter .new before) →
        ∃ seconds : Int, (a.server.serve (limiterAfter .new before) a.request).1 =
            .rejected (.rateLimitExceeded seconds) ∧
          (∀ k : Nat, (k : Int) < seconds → b.server.now = a.server.now + 1000 * (k : Int) →
            ¬ b.Admitted (limiterAfter .new (before ++ a :: others))) ∧
          (a.server.now + 1000 * seconds ≤ b.server.now →
            b.Admitted (limiterAfter .new (before ++ a :: others))) := by
  refine ⟨serveAll_filter hc rfl, fun x hx => serveAll_of_none hx, fun start => ?_, ?_⟩
  · have hcalls : FixedWindowLimiter.Ordered (callsOf c arrivals) :=
      List.pairwise_map.mpr (hordered.filter _)
    rw [admitted_times hconfig hc rfl]
    exact FixedWindowLimiter.countIn_allowedTimes_le hcalls start
  · rintro before a others b after rfl ha hb hothers hrefused
    have hmem : ∀ x ∈ before ++ a :: others, x ∈ before ++ a :: others ++ b :: after :=
      fun x hx => List.mem_append_left _ hx
    have haconfig := hconfig a (hmem a (List.mem_append_right _ List.mem_cons_self))
    have hbconfig := hconfig b (List.mem_append_right _ List.mem_cons_self)
    rw [admitted_iff ha, haconfig, Bool.not_eq_true] at hrefused
    -- the bucket is the one that the refused request has left
    have hlater : limiterAfter .new (before ++ a :: others) c.key =
        ((limiterAfter .new before).consume c.key (config.policy c.1) a.server.now).2 c.key := by
      rw [limiterAfter_append, limiterAfter, limiterAfter_others hc hothers, serve_of_client ha,
        haconfig]
    obtain ⟨hwait, hover⟩ := FixedWindowLimiter.retryAfter_exact hrefused hlater
    refine ⟨((limiterAfter .new before).consume c.key (config.policy c.1)
      a.server.now).1.retryAfterSeconds, ?_, fun k hk htime => ?_, fun htime => ?_⟩
    · rw [serve_of_client ha, haconfig]
      simp only [hrefused, Bool.false_eq_true, if_false]
    · rw [admitted_iff hb, hbconfig, htime, hwait k hk]
      exact Bool.false_ne_true
    · rw [admitted_iff hb, hbconfig]
      exact hover _ htime

namespace Sample

/-- Two token requests a minute. -/
def twoPerMinute : RateLimitConfig :=
  ⟨⟨2, 60, Nat.succ_pos _, Nat.succ_pos _⟩, ⟨120, 60, Nat.succ_pos _, Nat.succ_pos _⟩⟩

/-- A token request from an address at a time. -/
def tokenRequest (ip : String) (now : Int) : Arrival where
  server := { server with rateLimit := twoPerMinute, now := now }
  request := ⟨"POST", TOKEN_ENDPOINT, ip, none, some "guess"⟩

/-- The third guess of an address within a minute waits for the minute to end, and so may
the first one of another address not. -/
theorem serveAll_quota_guesses :
    ∃ seconds : Int, ((tokenRequest "10.0.0.1" 200).server.serve
          (limiterAfter .new [tokenRequest "10.0.0.1" 0, tokenRequest "10.0.0.1" 100])
          (tokenRequest "10.0.0.1" 200).request).1 = .rejected (.rateLimitExceeded seconds) ∧
      (200 + 1000 * seconds ≤ 60200 →
        (tokenRequest "10.0.0.1" 60200).Admitted (limiterAfter .new
          ([tokenRequest "10.0.0.1" 0, tokenRequest "10.0.0.1" 100] ++
            tokenRequest "10.0.0.1" 200 :: [tokenRequest "10.0.0.2" 300]))) := by
  have h := @serveAll_quota twoPerMinute ([tokenRequest "10.0.0.1" 0, tokenRequest "10.0.0.1" 100] ++
      tokenRequest "10.0.0.1" 200 :: [tokenRequest "10.0.0.2" 300] ++
        [tokenRequest "10.0.0.1" 60200]) ?_ ?_ ("auth_token", "10.0.0.1") (.inl rfl)
  · obtain ⟨seconds, hrefused, -, hadmitted⟩ := h.2.2.2 _ _ _ _ _ rfl (by decide +kernel)
      (by decide +kernel) (by decide +kernel) (by decide +kernel)
    exact ⟨seconds, hrefused, hadmitted⟩
  · simp [tokenRequest]
  · simp [tokenRequest]

end Sample

end LuxLedger.Http
