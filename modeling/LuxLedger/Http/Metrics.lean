/-
  Http/Metrics.lean --- the metrics of the API process and the page that exposes them.

  Source: `api/observability/metrics.ts`.

  Statuses are integers, durations rational, and the bounds of the buckets the doubles that
  the source's decimals are.  A counter is a number that is exact as long as fewer than 2^53
  calls are made.  `localeCompare` depends on the locale and is a
  parameter; it decides nothing but the order of labels and series.  The histogram keeps
  the durations whose floating-point sum the source keeps, and how that sum is printed is
  another parameter.  The samples of the buckets bear the name of the histogram itself.
-/
import LuxLedger.Foundation.Exposition
import LuxLedger.Foundation.KeyedStore
import LuxLedger.Javascript.BigInt
import LuxLedger.Javascript.NumericText
import Mathlib.Algebra.Order.Ring.Rat
import Mathlib.Data.Rat.Defs

set_option autoImplicit false

namespace LuxLedger.Http

open Javascript JsString Foundation Foundation.Exposition

/-! ## The model -/

/-- `Labels`: the entries of the record. -/
abbrev Labels : Type := List (JsString × JsString)

/-- `CounterSeries`. -/
structure CounterSeries where
  labels : Labels
  value : Nat
  deriving DecidableEq

/-- `HistogramSeries`. -/
structure HistogramSeries where
  labels : Labels
  bucketCounts : List Nat
  count : Nat
  /-- what is summed -/
  sum : List Rat
  deriving DecidableEq

/-- The double of a positive decimal literal. -/
def double (literal : Rat) : Rat := Binary64.roundMagnitude literal

/-- `REQUEST_DURATION_BUCKETS_SECONDS`: each bound with the text that `String` gives it. -/
def requestDurationBuckets : List (JsString × Rat) :=
  [(units "0.005", double (5 / 1000)), (units "0.01", double (1 / 100)),
    (units "0.025", double (25 / 1000)), (units "0.05", double (5 / 100)),
    (units "0.1", double (1 / 10)), (units "0.25", double (25 / 100)),
    (units "0.5", double (5 / 10)), (units "1", double 1), (units "2.5", double (25 / 10)),
    (units "5", double 5), (units "10", double 10)]

/-- The text of a bound is read as the bound. -/
theorem number_bound : ∀ bucket ∈ requestDurationBuckets, number bucket.1 = .finite bucket.2 := by
  decide +kernel

/-- How the sum of a histogram is printed. -/
structure SumPrinter where
  text : List Rat → JsString
  isValue : ∀ durations, IsValue (text durations)

section Model

variable (localeCompare : JsString → JsString → Int)

/-- `Object.entries(labels).sort(…)`. -/
def sortLabels (labels : Labels) : Labels :=
  labels.mergeSort fun left right => localeCompare left.1 right.1 ≤ 0

/-- `canonicalKey`. -/
def canonicalKey (labels : Labels) : JsString :=
  [0].intercalate ((sortLabels localeCompare labels).map fun e => e.1 ++ units "=" ++ e.2)

/-- `escapeLabelValue`. -/
def escapeLabelValue (value : JsString) : JsString :=
  ((value.replaceAll 92 (units "\\\\")).replaceAll 10 (units "\\n")).replaceAll 34 (units "\\\"")

/-- `formatLabels`. -/
def formatLabels (labels : Labels) : JsString :=
  let entries := sortLabels localeCompare labels
  if entries.length = 0 then []
  else
    units "\x7b" ++ (units ",").intercalate (entries.map fun e =>
      e.1 ++ units "=\"" ++ escapeLabelValue e.2 ++ units "\"") ++ units "\x7d"

/-- What `upsertCounter` puts in the place of a series. -/
def countUp (labels : Labels) (increment : Nat) : Option CounterSeries → CounterSeries
  | some series => { series with value := series.value + increment }
  | none => ⟨labels, increment⟩

/-- `upsertCounter`. -/
def upsertCounter (store : KeyedStore JsString CounterSeries) (labels : Labels)
    (increment : Nat) : KeyedStore JsString CounterSeries :=
  store.update (canonicalKey localeCompare labels) (countUp labels increment)

/-- `getSortedCounterSeries`. -/
def getSortedCounterSeries (store : KeyedStore JsString CounterSeries) : List CounterSeries :=
  store.sorted fun left right =>
    localeCompare (canonicalKey localeCompare left.labels)
      (canonicalKey localeCompare right.labels) ≤ 0

/-- `getSortedHistogramSeries`. -/
def getSortedHistogramSeries (store : KeyedStore JsString HistogramSeries) :
    List HistogramSeries :=
  store.sorted fun left right =>
    localeCompare (canonicalKey localeCompare left.labels)
      (canonicalKey localeCompare right.labels) ≤ 0

/-- The fields of `ApiMetrics`. -/
structure ApiMetrics where
  requestTotal : KeyedStore JsString CounterSeries
  authFailuresTotal : KeyedStore JsString CounterSeries
  tokenIssuanceFailuresTotal : KeyedStore JsString CounterSeries
  requestDurationSeconds : KeyedStore JsString HistogramSeries

/-- A new `ApiMetrics`. -/
def ApiMetrics.new : ApiMetrics := ⟨.empty, .empty, .empty, .empty⟩

/-- The labels `route` and `status`. -/
def requestLabels (route : JsString) (status : Int) : Labels :=
  [(units "route", route), (units "status", bigIntText status)]

/-- The label `status`. -/
def statusLabels (status : Int) : Labels := [(units "status", bigIntText status)]

/-- The series of a histogram after one more duration. -/
def observeDuration (labels : Labels) (durationSeconds : Rat) (found : Option HistogramSeries) :
    HistogramSeries :=
  let clampedDuration := max 0 durationSeconds
  let series := found.getD ⟨labels, List.replicate requestDurationBuckets.length 0, 0, []⟩
  { series with
    bucketCounts := List.zipWith
      (fun count bucket => if clampedDuration ≤ bucket.2 then count + 1 else count)
      series.bucketCounts requestDurationBuckets
    count := series.count + 1
    sum := series.sum ++ [clampedDuration] }

/-- `observeRequest`. -/
def observeRequest (metrics : ApiMetrics) (route : JsString) (status : Int)
    (durationSeconds : Rat) : ApiMetrics :=
  let labels := requestLabels route status
  { metrics with
    requestTotal := upsertCounter localeCompare metrics.requestTotal labels 1
    requestDurationSeconds := metrics.requestDurationSeconds.update
      (canonicalKey localeCompare labels) (observeDuration labels durationSeconds) }

/-- `incrementAuthFailure`. -/
def incrementAuthFailure (metrics : ApiMetrics) (route : JsString) (status : Int) : ApiMetrics :=
  { metrics with
    authFailuresTotal :=
      upsertCounter localeCompare metrics.authFailuresTotal (requestLabels route status) 1 }

/-- `incrementTokenIssuanceFailure`. -/
def incrementTokenIssuanceFailure (metrics : ApiMetrics) (status : Int) : ApiMetrics :=
  { metrics with
    tokenIssuanceFailuresTotal :=
      upsertCounter localeCompare metrics.tokenIssuanceFailuresTotal (statusLabels status) 1 }

/-- The name of the request counters. -/
def requestsName : JsString := units "luxledger_http_requests_total"

/-- The name of the histograms. -/
def durationName : JsString := units "luxledger_http_request_duration_seconds"

/-- The name of the counters of authentication failures. -/
def authFailuresName : JsString := units "luxledger_auth_failures_total"

/-- The name of the counters of token failures. -/
def tokenFailuresName : JsString := units "luxledger_token_issuance_failures_total"

/-! ### The comments in front of each family -/

/-- What the page says of the request counters. -/
def requestsHeader : List JsString :=
  [units "# HELP luxledger_http_requests_total Total HTTP requests by route and status.",
    units "# TYPE luxledger_http_requests_total counter"]

/-- What it says of the histograms. -/
def durationHeader : List JsString :=
  [units "# HELP luxledger_http_request_duration_seconds HTTP request latency in seconds by " ++
      units "route and status.",
    units "# TYPE luxledger_http_request_duration_seconds histogram"]

/-- What it says of the authentication failures. -/
def authFailuresHeader : List JsString :=
  [units "# HELP luxledger_auth_failures_total Auth failures by route and status.",
    units "# TYPE luxledger_auth_failures_total counter"]

/-- What it says of the token failures. -/
def tokenFailuresHeader : List JsString :=
  [units "# HELP luxledger_token_issuance_failures_total Failed access token issuance " ++
      units "attempts by status.",
    units "# TYPE luxledger_token_issuance_failures_total counter"]

/-! ### `renderPrometheus` -/

/-- `` `${name}${formatLabels(labels)} ${value}` ``. -/
def sampleLine (name : JsString) (labels : Labels) (value : JsString) : JsString :=
  name ++ formatLabels localeCompare labels ++ units " " ++ value

/-- The line of a counter. -/
def counterLine (name : JsString) (series : CounterSeries) : JsString :=
  sampleLine localeCompare name series.labels (naturalText series.value)

/-- The lines of one series of the histogram. -/
def histogramLines (printer : SumPrinter) (series : HistogramSeries) : List JsString :=
  (List.zipWith (fun bucket count =>
      sampleLine localeCompare durationName (series.labels ++ [(units "le", bucket.1)])
        (naturalText count)) requestDurationBuckets series.bucketCounts) ++
    [sampleLine localeCompare durationName (series.labels ++ [(units "le", units "+Inf")])
        (naturalText series.count),
      sampleLine localeCompare (durationName ++ units "_sum") series.labels
        (printer.text series.sum),
      sampleLine localeCompare (durationName ++ units "_count") series.labels
        (naturalText series.count)]

/-- `renderPrometheus`. -/
def renderPrometheus (printer : SumPrinter) (metrics : ApiMetrics) : JsString :=
  let lines :=
    requestsHeader ++
    (getSortedCounterSeries localeCompare metrics.requestTotal).map
      (counterLine localeCompare requestsName) ++
    durationHeader ++
    (getSortedHistogramSeries localeCompare metrics.requestDurationSeconds).flatMap
      (histogramLines localeCompare printer) ++
    authFailuresHeader ++
    (getSortedCounterSeries localeCompare metrics.authFailuresTotal).map
      (counterLine localeCompare authFailuresName) ++
    tokenFailuresHeader ++
    (getSortedCounterSeries localeCompare metrics.tokenIssuanceFailuresTotal).map
      (counterLine localeCompare tokenFailuresName)
  (units "\n").intercalate lines ++ units "\n"

/-! ## Runs -/

/-- A call of the process. -/
inductive MetricCall where
  | observeRequest (route : JsString) (status : Int) (durationSeconds : Rat)
  | incrementAuthFailure (route : JsString) (status : Int)
  | incrementTokenIssuanceFailure (status : Int)
  deriving DecidableEq

/-- A call, made. -/
def MetricCall.run (metrics : ApiMetrics) : MetricCall → ApiMetrics
  | .observeRequest route status durationSeconds =>
      Http.observeRequest localeCompare metrics route status durationSeconds
  | .incrementAuthFailure route status =>
      Http.incrementAuthFailure localeCompare metrics route status
  | .incrementTokenIssuanceFailure status =>
      Http.incrementTokenIssuanceFailure localeCompare metrics status

/-- The metrics after a run of calls. -/
def runMetrics (calls : List MetricCall) : ApiMetrics :=
  calls.foldl (MetricCall.run localeCompare) .new

end Model

/-! ## The canonical key -/

section Key

variable {localeCompare : JsString → JsString → Int}

theorem sortLabels_perm (labels : Labels) : (sortLabels localeCompare labels).Perm labels :=
  List.mergeSort_perm _ _

/-- Two labels stand in an order that only their names decide. -/
theorem sortLabels_pair (a b : JsString × JsString) :
    sortLabels localeCompare [a, b] = if localeCompare a.1 b.1 ≤ 0 then [a, b] else [b, a] := by
  simp [sortLabels, List.mergeSort, List.MergeSort.Internal.splitInTwo, List.merge]

/-- A list is cut at the last occurrence of an element in one way. -/
theorem append_cons_inj_last {α : Type} {a a' b b' : List α} {x : α} (hb : x ∉ b)
    (hb' : x ∉ b') (h : a ++ x :: b = a' ++ x :: b') : a = a' ∧ b = b' := by
  rcases List.append_eq_append_iff.mp h with ⟨c, ha', hc⟩ | ⟨c, ha, hc⟩
  · cases c with
    | nil =>
        rw [List.append_nil] at ha'
        exact ⟨ha'.symm, List.cons_injective hc⟩
    | cons y c =>
        refine absurd ?_ hb
        rw [(List.cons.inj hc).2]
        exact List.mem_append_right c List.mem_cons_self
  · cases c with
    | nil =>
        rw [List.append_nil] at ha
        exact ⟨ha, (List.cons_injective hc).symm⟩
    | cons y c =>
        refine absurd ?_ hb'
        rw [(List.cons.inj hc).2]
        exact List.mem_append_right c List.mem_cons_self

/-- And at the first. -/
theorem append_cons_inj_first {α : Type} {a a' b b' : List α} {x : α} (ha : x ∉ a)
    (ha' : x ∉ a') (h : a ++ x :: b = a' ++ x :: b') : a = a' ∧ b = b' := by
  have hreverse := congrArg List.reverse h
  rw [List.reverse_append, List.reverse_append, List.reverse_cons, List.reverse_cons,
    List.append_assoc, List.append_assoc, List.singleton_append, List.singleton_append] at hreverse
  obtain ⟨hb, ha⟩ := append_cons_inj_last (mt List.mem_reverse.mp ha)
    (mt List.mem_reverse.mp ha') hreverse
  exact ⟨List.reverse_injective ha, List.reverse_injective hb⟩

/-- The text of an integer has no NUL. -/
theorem zero_not_mem_bigIntText (n : Int) : (0 : CodeUnit) ∉ bigIntText n := by
  have hdigits : (0 : CodeUnit) ∉ naturalText n.natAbs := fun hmem =>
    absurd (isDigits_naturalText _ 0 hmem) (by decide)
  unfold bigIntText
  split_ifs
  · exact List.not_mem_cons_of_ne_of_not_mem (by decide) hdigits
  · exact hdigits

theorem bigIntText_injective {m n : Int} (h : bigIntText m = bigIntText n) : m = n := by
  have hread := congrArg bigInt? h
  rwa [bigInt?_bigIntText, bigInt?_bigIntText, Option.some.injEq] at hread

/-- Whatever the route holds, the part with the status has no NUL: the key can be cut again. -/
theorem requestLabels_injective {route route' : JsString} {status status' : Int}
    (h : canonicalKey localeCompare (requestLabels route status) =
      canonicalKey localeCompare (requestLabels route' status')) :
    route = route' ∧ status = status' := by
  have hfree : ∀ n : Int, (0 : CodeUnit) ∉ units "status" ++ units "=" ++ bigIntText n :=
    fun n hmem => (List.mem_append.mp hmem).elim (absurd · (by decide +kernel))
      (zero_not_mem_bigIntText n)
  have hparts : units "route" ++ units "=" ++ route = units "route" ++ units "=" ++ route' ∧
      units "status" ++ units "=" ++ bigIntText status =
        units "status" ++ units "=" ++ bigIntText status' := by
    simp only [canonicalKey, requestLabels, sortLabels_pair] at h
    split_ifs at h
    · simp only [List.map_cons, List.map_nil, List.intercalate_cons_cons,
        List.intercalate_singleton] at h
      rw [← List.append_cons, ← List.append_cons] at h
      exact append_cons_inj_last (hfree status) (hfree status') h
    · simp only [List.map_cons, List.map_nil, List.intercalate_cons_cons,
        List.intercalate_singleton] at h
      rw [← List.append_cons, ← List.append_cons] at h
      exact (append_cons_inj_first (hfree status) (hfree status') h).symm
  exact ⟨List.append_cancel_left hparts.1, bigIntText_injective (List.append_cancel_left hparts.2)⟩

theorem statusLabels_injective {status status' : Int}
    (h : canonicalKey localeCompare (statusLabels status) =
      canonicalKey localeCompare (statusLabels status')) : status = status' := by
  simp only [canonicalKey, statusLabels, sortLabels, List.mergeSort_singleton, List.map_singleton,
    List.intercalate_singleton] at h
  exact bigIntText_injective (List.append_cancel_left h)

end Key

end LuxLedger.Http
