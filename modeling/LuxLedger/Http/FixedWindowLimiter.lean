/-
  Http/FixedWindowLimiter.lean --- the fixed-window rate limiter.

  Source: `rate-limit/fixed-window-limiter.ts`, `rate-limit/policy.ts`.
-/
import Mathlib.Logic.Function.Basic

set_option autoImplicit false

namespace LuxLedger.Http

/-- `EndpointRateLimitConfig`.  `parsePositiveInteger` admits no zero. -/
structure EndpointRateLimitConfig where
  maxRequests : Nat
  windowSeconds : Nat
  maxRequests_pos : 0 < maxRequests
  windowSeconds_pos : 0 < windowSeconds

/-- `RateLimitConfig`. -/
structure RateLimitConfig where
  authToken : EndpointRateLimitConfig
  write : EndpointRateLimitConfig

/-- `FixedWindowBucket`. -/
structure FixedWindowBucket where
  windowStartMs : Int
  count : Nat
  deriving DecidableEq, Repr

/-- The `buckets` of a limiter, by key. -/
abbrev FixedWindowLimiter := String → Option FixedWindowBucket

/-- `RateLimitDecision`. -/
structure RateLimitDecision where
  allowed : Bool
  retryAfterSeconds : Int
  deriving DecidableEq, Repr

namespace FixedWindowLimiter

/-- A limiter that has seen no call. -/
def new : FixedWindowLimiter := fun _ => none

/-- The bucket a call counts in: a new one when there is none or its window is over. -/
def activeBucket (limiter : FixedWindowLimiter) (key : String) (windowMs nowMs : Int) :
    FixedWindowBucket :=
  match limiter key with
  | none => ⟨nowMs, 0⟩
  | some current => if current.windowStartMs + windowMs ≤ nowMs then ⟨nowMs, 0⟩ else current

/-- `consume`: the decision, and the limiter afterwards. -/
def consume (limiter : FixedWindowLimiter) (key : String) (policy : EndpointRateLimitConfig)
    (nowMs : Int) : RateLimitDecision × FixedWindowLimiter :=
  let windowMs : Int := policy.windowSeconds * 1000
  let bucket := limiter.activeBucket key windowMs nowMs
  if policy.maxRequests ≤ bucket.count then
    -- `Math.ceil` of a quotient by 1000
    (⟨false, max 1 ((bucket.windowStartMs + windowMs - nowMs + 999) / 1000)⟩, limiter)
  else
    (⟨true, 0⟩, Function.update limiter key (some { bucket with count := bucket.count + 1 }))

/-- The first call is allowed. -/
theorem consume_new (key : String) (policy : EndpointRateLimitConfig) (nowMs : Int) :
    (new.consume key policy nowMs).1 = ⟨true, 0⟩ := by
  have hopen : ¬ policy.maxRequests ≤
      (new.activeBucket key (policy.windowSeconds * 1000) nowMs).count :=
    Nat.not_le.mpr policy.maxRequests_pos
  unfold consume
  rw [if_neg hopen]

end FixedWindowLimiter

end LuxLedger.Http
