/-
  Http/RateLimitQuota.lean --- what a fixed-window limiter grants over a whole
  sequence of calls.

  Source: `rate-limit/fixed-window-limiter.ts`, the rate-limit hook of `server.ts`.
  The admitted calls of a key form the log of a fixed-window counter
  (`Foundation.WindowLog`).
-/
import LuxLedger.Foundation.WindowLog
import LuxLedger.Http.FixedWindowLimiter
import Mathlib.Data.List.Induction

set_option autoImplicit false

namespace LuxLedger.Http

open Foundation

namespace EndpointRateLimitConfig

/-- The length of a window in milliseconds. -/
def windowMs (policy : EndpointRateLimitConfig) : Int := policy.windowSeconds * 1000

theorem windowMs_pos (policy : EndpointRateLimitConfig) : 0 < policy.windowMs := by
  have hpos := policy.windowSeconds_pos
  unfold windowMs
  omega

end EndpointRateLimitConfig

/-- A call of `consume`. -/
structure RateLimitCall where
  key : String
  nowMs : Int
  deriving DecidableEq, Repr

namespace FixedWindowLimiter

variable {limiter : FixedWindowLimiter} {policy : EndpointRateLimitConfig} {key : String}
  {nowMs : Int} {bucket : FixedWindowBucket} {calls : List RateLimitCall}

/-! ## One call -/

theorem activeBucket_of_open (hbucket : limiter key = some bucket)
    (hopen : nowMs < bucket.windowStartMs + policy.windowMs) :
    limiter.activeBucket key policy.windowMs nowMs = bucket := by
  rw [activeBucket, hbucket]
  exact if_neg (not_le.mpr hopen)

theorem consume_of_room
    (hroom : (limiter.activeBucket key policy.windowMs nowMs).count < policy.maxRequests) :
    limiter.consume key policy nowMs =
      (⟨true, 0⟩, Function.update limiter key
        (some ⟨(limiter.activeBucket key policy.windowMs nowMs).windowStartMs,
          (limiter.activeBucket key policy.windowMs nowMs).count + 1⟩)) := by
  unfold consume
  exact if_neg (not_le.mpr hroom)

theorem consume_of_full
    (hfull : policy.maxRequests ≤ (limiter.activeBucket key policy.windowMs nowMs).count) :
    limiter.consume key policy nowMs =
      (⟨false, max 1 (((limiter.activeBucket key policy.windowMs nowMs).windowStartMs +
        policy.windowMs - nowMs + 999) / 1000)⟩, limiter) := by
  unfold consume
  exact if_pos hfull

/-- What a call does to the bucket of its key. -/
inductive Consumed (policy : EndpointRateLimitConfig) (nowMs : Int) :
    Option FixedWindowBucket → RateLimitDecision → Option FixedWindowBucket → Prop where
  | first : Consumed policy nowMs none ⟨true, 0⟩ (some ⟨nowMs, 1⟩)
  | next (bucket : FixedWindowBucket) (hover : bucket.windowStartMs + policy.windowMs ≤ nowMs) :
      Consumed policy nowMs (some bucket) ⟨true, 0⟩ (some ⟨nowMs, 1⟩)
  | join (bucket : FixedWindowBucket) (hopen : nowMs < bucket.windowStartMs + policy.windowMs)
      (hroom : bucket.count < policy.maxRequests) :
      Consumed policy nowMs (some bucket) ⟨true, 0⟩
        (some ⟨bucket.windowStartMs, bucket.count + 1⟩)
  | deny (bucket : FixedWindowBucket) (hopen : nowMs < bucket.windowStartMs + policy.windowMs)
      (hfull : policy.maxRequests ≤ bucket.count) :
      Consumed policy nowMs (some bucket)
        ⟨false, max 1 ((bucket.windowStartMs + policy.windowMs - nowMs + 999) / 1000)⟩
        (some bucket)

theorem consume_cases (limiter : FixedWindowLimiter) (key : String)
    (policy : EndpointRateLimitConfig) (nowMs : Int) :
    Consumed policy nowMs (limiter key) (limiter.consume key policy nowMs).1
      ((limiter.consume key policy nowMs).2 key) := by
  cases hbucket : limiter key with
  | none =>
      have hactive : limiter.activeBucket key policy.windowMs nowMs = ⟨nowMs, 0⟩ := by
        rw [activeBucket, hbucket]
      rw [consume_of_room (by rw [hactive]; exact policy.maxRequests_pos), hactive]
      simp only [Function.update_self]
      exact .first
  | some bucket =>
      rcases lt_or_ge nowMs (bucket.windowStartMs + policy.windowMs) with hopen | hover
      · have hactive := activeBucket_of_open hbucket hopen
        rcases Nat.lt_or_ge bucket.count policy.maxRequests with hroom | hfull
        · rw [consume_of_room (by rw [hactive]; exact hroom), hactive]
          simp only [Function.update_self]
          exact .join bucket hopen hroom
        · rw [consume_of_full (by rw [hactive]; exact hfull), hactive]
          dsimp only
          rw [hbucket]
          exact .deny bucket hopen hfull
      · have hactive : limiter.activeBucket key policy.windowMs nowMs = ⟨nowMs, 0⟩ := by
          rw [activeBucket, hbucket]
          exact if_pos hover
        rw [consume_of_room (by rw [hactive]; exact policy.maxRequests_pos), hactive]
        simp only [Function.update_self]
        exact .next bucket hover

/-- Another key's bucket is left alone. -/
theorem consume_other {other : String} (hne : other ≠ key) :
    (limiter.consume key policy nowMs).2 other = limiter other := by
  unfold consume
  dsimp only
  split_ifs
  · rfl
  · exact Function.update_of_ne hne _ _

/-- A decision, and the bucket it leaves, depend on the bucket of the key alone. -/
theorem consume_congr {limiter' : FixedWindowLimiter} (hbucket : limiter key = limiter' key) :
    (limiter.consume key policy nowMs).1 = (limiter'.consume key policy nowMs).1 ∧
      (limiter.consume key policy nowMs).2 key = (limiter'.consume key policy nowMs).2 key := by
  have hactive : limiter.activeBucket key policy.windowMs nowMs =
      limiter'.activeBucket key policy.windowMs nowMs := by
    unfold activeBucket
    rw [hbucket]
  rcases Nat.lt_or_ge (limiter.activeBucket key policy.windowMs nowMs).count policy.maxRequests
    with hroom | hfull
  · rw [consume_of_room hroom, consume_of_room (hactive ▸ hroom), hactive]
    simp only [Function.update_self, and_self]
  · rw [consume_of_full hfull, consume_of_full (hactive ▸ hfull), hactive]
    exact ⟨rfl, hbucket⟩

/-! ## A sequence of calls -/

/-- The calls with their decisions. -/
def decisions (limiter : FixedWindowLimiter) (policy : EndpointRateLimitConfig) :
    List RateLimitCall → List (RateLimitCall × RateLimitDecision)
  | [] => []
  | call :: rest =>
      (call, (limiter.consume call.key policy call.nowMs).1) ::
        (limiter.consume call.key policy call.nowMs).2.decisions policy rest

/-- The limiter after the calls. -/
def afterCalls (limiter : FixedWindowLimiter) (policy : EndpointRateLimitConfig) :
    List RateLimitCall → FixedWindowLimiter
  | [] => limiter
  | call :: rest => (limiter.consume call.key policy call.nowMs).2.afterCalls policy rest

/-- The times at which a new limiter allowed the calls of a key. -/
def allowedTimes (policy : EndpointRateLimitConfig) (key : String) (calls : List RateLimitCall) :
    List Int :=
  ((new.decisions policy calls).filter fun d => d.1.key = key ∧ d.2.allowed).map (·.1.nowMs)

theorem decisions_append {before after : List RateLimitCall} :
    limiter.decisions policy (before ++ after) =
      limiter.decisions policy before ++
        (limiter.afterCalls policy before).decisions policy after := by
  induction before generalizing limiter with
  | nil => rfl
  | cons call rest ih =>
      rw [List.cons_append, decisions, ih, decisions, afterCalls, List.cons_append]

theorem afterCalls_append {before after : List RateLimitCall} :
    limiter.afterCalls policy (before ++ after) =
      (limiter.afterCalls policy before).afterCalls policy after := by
  induction before generalizing limiter with
  | nil => rfl
  | cons call rest ih => rw [List.cons_append, afterCalls, ih, afterCalls]

theorem afterCalls_concat {call : RateLimitCall} :
    limiter.afterCalls policy (calls ++ [call]) =
      ((limiter.afterCalls policy calls).consume call.key policy call.nowMs).2 :=
  afterCalls_append

theorem allowedTimes_concat {call : RateLimitCall} :
    allowedTimes policy key (calls ++ [call]) = allowedTimes policy key calls ++
      if call.key = key ∧
          ((new.afterCalls policy calls).consume call.key policy call.nowMs).1.allowed = true
        then [call.nowMs] else [] := by
  rw [allowedTimes, decisions_append, List.filter_append, List.map_append]
  congr 1
  rw [decisions, decisions, List.filter_cons, List.filter_nil]
  simp only [decide_eq_true_eq]
  split_ifs <;> rfl

/-- Calls of other keys leave a bucket alone. -/
theorem afterCalls_others (hothers : ∀ call ∈ calls, call.key ≠ key) :
    limiter.afterCalls policy calls key = limiter key := by
  induction calls generalizing limiter with
  | nil => rfl
  | cons call rest ih =>
      rw [afterCalls, ih fun c hc => hothers c (List.mem_cons_of_mem _ hc)]
      exact consume_other (hothers call List.mem_cons_self).symm

/-- The decisions on a key are those of the calls of that key alone. -/
theorem decisions_filter {limiter' : FixedWindowLimiter} (hbucket : limiter key = limiter' key) :
    (limiter.decisions policy calls).filter (fun d => d.1.key = key) =
      limiter'.decisions policy (calls.filter fun c => c.key = key) := by
  induction calls generalizing limiter limiter' with
  | nil => rfl
  | cons call rest ih =>
      rw [decisions]
      by_cases hkey : call.key = key
      · subst hkey
        obtain ⟨hdecision, hafter⟩ : (limiter.consume call.key policy call.nowMs).1 =
              (limiter'.consume call.key policy call.nowMs).1 ∧ _ := consume_congr hbucket
        rw [List.filter_cons_of_pos (by simp), List.filter_cons_of_pos (by simp), decisions,
          hdecision, ih hafter]
      · rw [List.filter_cons_of_neg (by simpa using hkey),
          List.filter_cons_of_neg (by simpa using hkey)]
        apply ih
        rw [consume_other (Ne.symm hkey), hbucket]

/-! ## The log of a key -/

/-- The allowed calls of a key are the log of a fixed-window counter whose current
window is the bucket. -/
def Tracked (policy : EndpointRateLimitConfig) (log : List Int) :
    Option FixedWindowBucket → Prop
  | none => log = []
  | some bucket =>
      WindowLog policy.maxRequests policy.windowMs log bucket.windowStartMs bucket.count

theorem Consumed.tracked {bucket? bucket?' : Option FixedWindowBucket}
    {decision : RateLimitDecision} {log : List Int}
    (h : Consumed policy nowMs bucket? decision bucket?') (hlog : Tracked policy log bucket?)
    (hpast : ∀ t ∈ log, t ≤ nowMs) :
    Tracked policy (log ++ if decision.allowed = true then [nowMs] else []) bucket?' := by
  cases h with
  | first =>
      have hempty : log = [] := hlog
      rw [hempty, if_pos rfl]
      exact WindowLog.first policy.maxRequests_pos policy.windowMs_pos
  | next bucket hover =>
      rw [if_pos rfl]
      exact WindowLog.next hlog policy.windowMs_pos hover
  | join bucket hopen hroom =>
      rw [if_pos rfl]
      exact WindowLog.join hlog hroom (hpast _ hlog.opened) hopen
  | deny bucket hopen hfull =>
      rw [if_neg Bool.false_ne_true, List.append_nil]
      exact hlog

theorem mem_allowedTimes {t : Int} (h : t ∈ allowedTimes policy key calls) :
    ∃ call ∈ calls, call.nowMs = t := by
  induction calls using List.reverseRecOn with
  | nil => exact absurd h List.not_mem_nil
  | append_singleton before call ih =>
      rw [allowedTimes_concat, List.mem_append] at h
      rcases h with h | h
      · obtain ⟨earlier, hearlier, ht⟩ := ih h
        exact ⟨earlier, List.mem_append_left _ hearlier, ht⟩
      · split_ifs at h
        · exact ⟨call, List.mem_append_right _ (List.mem_singleton.mpr rfl),
            (List.mem_singleton.mp h).symm⟩
        · exact absurd h List.not_mem_nil

/-- The clock of the calls does not go back. -/
def Ordered (calls : List RateLimitCall) : Prop := calls.Pairwise fun c d => c.nowMs ≤ d.nowMs

instance (calls : List RateLimitCall) : Decidable (Ordered calls) :=
  inferInstanceAs (Decidable (calls.Pairwise fun c d => c.nowMs ≤ d.nowMs))

theorem Ordered.past {before : List RateLimitCall} {call : RateLimitCall}
    (h : Ordered (before ++ [call])) : ∀ t ∈ allowedTimes policy key before, t ≤ call.nowMs := by
  intro t ht
  obtain ⟨earlier, hearlier, rfl⟩ := mem_allowedTimes ht
  exact (List.pairwise_append.mp h).2.2 earlier hearlier call (List.mem_singleton.mpr rfl)

theorem Ordered.before {before after : List RateLimitCall} (h : Ordered (before ++ after)) :
    Ordered before := (List.pairwise_append.mp h).1

theorem tracked_afterCalls (policy : EndpointRateLimitConfig) (key : String)
    (hordered : Ordered calls) :
    Tracked policy (allowedTimes policy key calls) (new.afterCalls policy calls key) := by
  induction calls using List.reverseRecOn with
  | nil => rfl
  | append_singleton before call ih =>
      rw [allowedTimes_concat, afterCalls_concat]
      by_cases hkey : call.key = key
      · subst hkey
        simp only [true_and]
        exact (consume_cases _ call.key policy call.nowMs).tracked (ih hordered.before)
          hordered.past
      · rw [consume_other (Ne.symm hkey), if_neg fun h => hkey h.1, List.append_nil]
        exact ih hordered.before

/-- A window, once opened, never holds more calls than the policy allows. -/
theorem countIn_window_le {before after : List RateLimitCall}
    (hordered : Ordered (before ++ after))
    (hbucket : new.afterCalls policy before key = some bucket) :
    countIn (allowedTimes policy key (before ++ after)) bucket.windowStartMs
      (bucket.windowStartMs + policy.windowMs) ≤ policy.maxRequests := by
  -- the window stays the current one, or all later calls fall behind it
  suffices hlater : countIn (allowedTimes policy key (before ++ after)) bucket.windowStartMs
        (bucket.windowStartMs + policy.windowMs) ≤ policy.maxRequests ∧
      ∃ current, new.afterCalls policy (before ++ after) key = some current ∧
        (current.windowStartMs = bucket.windowStartMs ∨
          bucket.windowStartMs + policy.windowMs ≤ current.windowStartMs) from hlater.1
  induction after using List.reverseRecOn with
  | nil =>
      rw [List.append_nil] at hordered ⊢
      have htracked := tracked_afterCalls policy key hordered
      rw [hbucket] at htracked
      refine ⟨?_, bucket, hbucket, Or.inl rfl⟩
      rw [WindowLog.countIn_window htracked]
      exact WindowLog.used_le htracked
  | append_singleton after call ih =>
      rw [← List.append_assoc] at hordered ⊢
      obtain ⟨hle, current, hcurrent, hwindow⟩ := ih hordered.before
      have htracked := tracked_afterCalls policy key hordered
      have hpast := tracked_afterCalls policy key hordered.before
      rw [hcurrent] at hpast
      have hstarted : current.windowStartMs ≤ call.nowMs :=
        hordered.past _ (WindowLog.opened hpast)
      rw [afterCalls_concat] at htracked ⊢
      by_cases hkey : call.key = key
      · subst hkey
        have hcases := consume_cases (new.afterCalls policy (before ++ after)) call.key policy
          call.nowMs
        rw [allowedTimes_concat] at htracked ⊢
        simp only [true_and] at htracked ⊢
        generalize (new.afterCalls policy (before ++ after)).consume call.key policy call.nowMs =
          outcome at hcases htracked ⊢
        obtain ⟨decision, limiter'⟩ := outcome
        dsimp only at hcases htracked ⊢
        rw [hcurrent] at hcases
        generalize limiter' call.key = bucket?' at hcases htracked ⊢
        cases hcases with
        | next _ hover =>
            refine ⟨?_, _, rfl, Or.inr ?_⟩
            · rw [if_pos rfl, countIn_append_single, if_neg (by omega)]
              exact hle
            · change _ ≤ call.nowMs
              have hlength := policy.windowMs_pos
              omega
        | join _ hopen hroom =>
            refine ⟨?_, _, rfl, hwindow⟩
            rcases hwindow with hsame | hlater
            · have hused := WindowLog.countIn_window htracked
              have hcapacity := WindowLog.used_le htracked
              dsimp only at hused hcapacity
              rw [← hsame, hused]
              exact hcapacity
            · rw [if_pos rfl, countIn_append_single, if_neg (by omega)]
              exact hle
        | deny _ hopen hfull =>
            rw [if_neg Bool.false_ne_true, List.append_nil]
            exact ⟨hle, current, rfl, hwindow⟩
      · rw [allowedTimes_concat, if_neg fun h => hkey h.1, List.append_nil,
          consume_other (Ne.symm hkey)]
        exact ⟨hle, current, hcurrent, hwindow⟩

/-- In any interval of one window's length, two adjacent windows meet. -/
theorem countIn_allowedTimes_le (hordered : Ordered calls) (start : Int) :
    countIn (allowedTimes policy key calls) start (start + policy.windowMs) ≤
      2 * policy.maxRequests - 1 := by
  have htracked := tracked_afterCalls policy key hordered
  cases hbucket : new.afterCalls policy calls key with
  | none =>
      rw [hbucket] at htracked
      have hempty : allowedTimes policy key calls = [] := htracked
      rw [hempty]
      exact Nat.zero_le _
  | some bucket =>
      rw [hbucket] at htracked
      have hlt := WindowLog.anywhere htracked start
      omega

/-! ## Denied calls -/

/-- A call is denied only in a window that is not over, and full. -/
theorem denied_cases (hdenied : (limiter.consume key policy nowMs).1.allowed = false) :
    ∃ bucket, limiter key = some bucket ∧ nowMs < bucket.windowStartMs + policy.windowMs ∧
      policy.maxRequests ≤ bucket.count ∧ (limiter.consume key policy nowMs).2 key = some bucket ∧
      (limiter.consume key policy nowMs).1.retryAfterSeconds =
        max 1 ((bucket.windowStartMs + policy.windowMs - nowMs + 999) / 1000) := by
  have hcases := consume_cases limiter key policy nowMs
  generalize limiter.consume key policy nowMs = outcome at hcases hdenied ⊢
  obtain ⟨decision, limiter'⟩ := outcome
  dsimp only at hcases hdenied ⊢
  generalize limiter key = bucket?, limiter' key = bucket?' at hcases ⊢
  cases hcases with
  | first | next _ _ | join _ _ _ =>
      exact absurd hdenied Bool.noConfusion
  | deny bucket hopen hfull => exact ⟨bucket, rfl, hopen, hfull, rfl, rfl⟩

/-- While a full window lasts, the calls of its key are denied; then they are allowed. -/
theorem allowed_iff_of_full (hbucket : limiter key = some bucket)
    (hfull : policy.maxRequests ≤ bucket.count) :
    (limiter.consume key policy nowMs).1.allowed = true ↔
      bucket.windowStartMs + policy.windowMs ≤ nowMs := by
  have hcases := consume_cases limiter key policy nowMs
  rw [hbucket] at hcases
  generalize (limiter.consume key policy nowMs).1 = decision,
    (limiter.consume key policy nowMs).2 key = bucket?' at hcases ⊢
  cases hcases with
  | next _ hover => exact iff_of_true rfl hover
  | join _ _ hroom => exact absurd hroom (not_lt.mpr hfull)
  | deny _ hopen _ => exact iff_of_false Bool.false_ne_true (not_le.mpr hopen)

/-- The wait that a denial names is over exactly when the window is. -/
theorem retryAfter_exact (hdenied : (limiter.consume key policy nowMs).1.allowed = false)
    {later : FixedWindowLimiter} (hlater : later key = (limiter.consume key policy nowMs).2 key) :
    (∀ k : Nat, (k : Int) < (limiter.consume key policy nowMs).1.retryAfterSeconds →
        (later.consume key policy (nowMs + 1000 * k)).1.allowed = false) ∧
      ∀ t, nowMs + 1000 * (limiter.consume key policy nowMs).1.retryAfterSeconds ≤ t →
        (later.consume key policy t).1.allowed = true := by
  obtain ⟨bucket, _, hopen, hfull, hafter, hretry⟩ := denied_cases hdenied
  rw [hafter] at hlater
  rw [hretry]
  constructor
  · intro k hk
    rw [Bool.eq_false_iff, Ne, allowed_iff_of_full hlater hfull]
    omega
  · intro t ht
    rw [allowed_iff_of_full hlater hfull]
    omega

/-- For calls on a clock that does not go back: any interval of one window's length
sees at most `2 * maxRequests - 1` allowed calls of a key and a window the limiter
opened at most `maxRequests`; a denial comes after `maxRequests` calls in the
current window, and names the exact wait in whole seconds; and the decisions on a
key are those of a limiter that saw that key alone. -/
theorem consume_quota (policy : EndpointRateLimitConfig) (calls : List RateLimitCall)
    (hordered : Ordered calls) (key : String) :
    (∀ start, countIn (allowedTimes policy key calls) start (start + policy.windowMs) ≤
        2 * policy.maxRequests - 1) ∧
      (∀ before after bucket, calls = before ++ after →
        new.afterCalls policy before key = some bucket →
        countIn (allowedTimes policy key calls) bucket.windowStartMs
          (bucket.windowStartMs + policy.windowMs) ≤ policy.maxRequests) ∧
      (∀ before nowMs after, calls = before ++ ⟨key, nowMs⟩ :: after →
        ((new.afterCalls policy before).consume key policy nowMs).1.allowed = false →
        (∃ bucket, new.afterCalls policy before key = some bucket ∧
          bucket.windowStartMs ≤ nowMs ∧ nowMs < bucket.windowStartMs + policy.windowMs ∧
          countIn (allowedTimes policy key before) bucket.windowStartMs
            (bucket.windowStartMs + policy.windowMs) = policy.maxRequests) ∧
        ∀ others : List RateLimitCall, (∀ call ∈ others, call.key ≠ key) →
          (∀ k : Nat, (k : Int) <
              ((new.afterCalls policy before).consume key policy nowMs).1.retryAfterSeconds →
            ((new.afterCalls policy (before ++ ⟨key, nowMs⟩ :: others)).consume key policy
              (nowMs + 1000 * k)).1.allowed = false) ∧
          ∀ t, nowMs + 1000 *
              ((new.afterCalls policy before).consume key policy nowMs).1.retryAfterSeconds ≤ t →
            ((new.afterCalls policy (before ++ ⟨key, nowMs⟩ :: others)).consume key policy
              t).1.allowed = true) ∧
      (new.decisions policy calls).filter (fun d => d.1.key = key) =
        new.decisions policy (calls.filter fun c => c.key = key) := by
  refine ⟨countIn_allowedTimes_le hordered, ?_, ?_, decisions_filter rfl⟩
  · rintro before after bucket rfl hbucket
    exact countIn_window_le hordered hbucket
  · rintro before nowMs after rfl hdenied
    constructor
    · obtain ⟨bucket, hbucket, hopen, hfull, -, -⟩ := denied_cases hdenied
      have hprefix : Ordered (before ++ [⟨key, nowMs⟩]) := by
        rw [List.append_cons] at hordered
        exact hordered.before
      have htracked := tracked_afterCalls policy key hprefix.before
      rw [hbucket] at htracked
      refine ⟨bucket, hbucket, hprefix.past _ (WindowLog.opened htracked), hopen, ?_⟩
      rw [WindowLog.countIn_window htracked]
      exact le_antisymm (WindowLog.used_le htracked) hfull
    · intro others hothers
      apply retryAfter_exact hdenied
      rw [afterCalls_append, afterCalls, afterCalls_others hothers]

/-- With two calls a second: a third call after 900 ms waits one second. -/
theorem consume_quota_two_per_second :
    let policy : EndpointRateLimitConfig := ⟨2, 1, by decide, by decide⟩
    let calls : List RateLimitCall := [⟨"write:a", 0⟩, ⟨"write:a", 400⟩]
    ((new.afterCalls policy calls).consume "write:a" policy 900).1 = ⟨false, 1⟩ ∧
      ∀ t, 1900 ≤ t →
        ((new.afterCalls policy (calls ++ [⟨"write:a", 900⟩])).consume "write:a" policy
          t).1.allowed = true := by
  intro policy calls
  have hdecision : ((new.afterCalls policy calls).consume "write:a" policy 900).1 = ⟨false, 1⟩ := by
    decide +kernel
  have hdenied := (consume_quota policy (calls ++ [⟨"write:a", 900⟩]) (by decide)
    "write:a").2.2.1 calls 900 [] rfl (by rw [hdecision])
  refine ⟨hdecision, fun t ht => (hdenied.2 [] (by simp)).2 t ?_⟩
  rw [hdecision]
  exact ht

end FixedWindowLimiter

end LuxLedger.Http
