/-
  Http/MetricsReport.lean --- the metrics page reports exactly what happened.

  The labels of a sample are read back to the route, the status and the bound they were
  written from, and what the page shows under them is counted among the calls.
-/
import LuxLedger.Http.MetricsPage

set_option autoImplicit false

namespace LuxLedger.Http

open Javascript JsString Foundation Foundation.Exposition

/-! ## Reading the labels of a sample -/

/-- What a sample of the page is about. -/
inductive SeriesKey where
  | requests (endpoint : Endpoint)
  | bucket (endpoint : Endpoint) (le : JsString)
  | durationSum (endpoint : Endpoint)
  | durationCount (endpoint : Endpoint)
  | authFailures (endpoint : Endpoint)
  | tokenFailures (status : Int)
  deriving DecidableEq

/-- The integer that a text writes in the usual way. -/
def status? (text : JsString) : Option Int :=
  (bigInt? text).filter fun status => bigIntText status = text

/-- The status among the labels. -/
def statusLabel? (labels : Labels) : Option Int := (labels.lookup (units "status")).bind status?

/-- The endpoint that the labels name. -/
def endpoint? (labels : Labels) : Option Endpoint :=
  (labels.lookup (units "route")).bind fun route =>
    (statusLabel? labels).map fun status => ⟨route, status⟩

/-- What a sample is about, by its name and its labels, of which it has no others. -/
def seriesKey? (sample : Sample) : Option SeriesKey :=
  match sample.labels.length with
  | 1 =>
      if sample.name = tokenFailuresName then
        (statusLabel? sample.labels).map .tokenFailures
      else none
  | 2 =>
      if sample.name = requestsName then (endpoint? sample.labels).map .requests
      else if sample.name = durationName ++ units "_sum" then
        (endpoint? sample.labels).map .durationSum
      else if sample.name = durationName ++ units "_count" then
        (endpoint? sample.labels).map .durationCount
      else if sample.name = authFailuresName then (endpoint? sample.labels).map .authFailures
      else none
  | 3 =>
      if sample.name = durationName then
        (endpoint? sample.labels).bind fun endpoint =>
          (sample.labels.lookup (units "le")).map fun le => .bucket endpoint le
      else none
  | _ => none

section Reading

variable {localeCompare : JsString → JsString → Int}

theorem status?_bigIntText (status : Int) : status? (bigIntText status) = some status := by
  rw [status?, bigInt?_bigIntText, Option.filter_some, if_pos (decide_eq_true rfl)]

/-- The order in which the labels stand does not matter. -/
theorem lookup_sortLabels {labels : Labels} (hnodup : (labels.map Prod.fst).Nodup)
    (name : JsString) : (sortLabels localeCompare labels).lookup name = labels.lookup name :=
  (lookup_perm hnodup (sortLabels_perm labels).symm).symm

theorem endpoint?_sortLabels {labels : Labels} (hnodup : (labels.map Prod.fst).Nodup)
    {endpoint : Endpoint} (hroute : labels.lookup (units "route") = some endpoint.route)
    (hstatus : labels.lookup (units "status") = some (bigIntText endpoint.status)) :
    endpoint? (sortLabels localeCompare labels) = some endpoint := by
  rw [endpoint?, statusLabel?, lookup_sortLabels hnodup, lookup_sortLabels hnodup, hroute,
    hstatus, Option.bind_some, Option.bind_some, status?_bigIntText]
  rfl

theorem endpoint?_endpointLabels (endpoint : Endpoint) :
    endpoint? (sortLabels localeCompare (endpointLabels endpoint)) = some endpoint := by
  have hne : (units "status" == units "route") = false := by decide +kernel
  refine endpoint?_sortLabels ?_ ?_ ?_
  · exact (by decide +kernel : [units "route", units "status"].Nodup)
  · rw [endpointLabels, requestLabels, List.lookup_cons_self]
  · rw [endpointLabels, requestLabels, List.lookup_cons, hne]
    exact List.lookup_cons_self

/-- The labels of a bucket. -/
theorem endpoint?_withBound (endpoint : Endpoint) (le : JsString) :
    endpoint? (sortLabels localeCompare (endpointLabels endpoint ++ [(units "le", le)])) =
      some endpoint := by
  have hne : (units "status" == units "route") = false := by decide +kernel
  refine endpoint?_sortLabels ?_ ?_ ?_
  · exact (by decide +kernel : [units "route", units "status", units "le"].Nodup)
  · rw [endpointLabels, requestLabels, List.cons_append, List.lookup_cons_self]
  · rw [endpointLabels, requestLabels, List.cons_append, List.lookup_cons, hne]
    exact List.lookup_cons_self

theorem lookup_le (endpoint : Endpoint) (le : JsString) :
    (sortLabels localeCompare (endpointLabels endpoint ++ [(units "le", le)])).lookup (units "le") =
      some le := by
  have hnodup : ((endpointLabels endpoint ++ [(units "le", le)]).map Prod.fst).Nodup :=
    (by decide +kernel : [units "route", units "status", units "le"].Nodup)
  have hroute : (units "le" == units "route") = false := by decide +kernel
  have hstatus : (units "le" == units "status") = false := by decide +kernel
  rw [lookup_sortLabels hnodup, endpointLabels, requestLabels,
    List.cons_append, List.lookup_cons, hroute]
  dsimp only
  rw [List.cons_append, List.lookup_cons, hstatus]
  exact List.lookup_cons_self

section Keys

variable (endpoint : Endpoint) (value : JsString)

theorem length_endpointLabels :
    (sortLabels localeCompare (endpointLabels endpoint)).length = 2 :=
  (sortLabels_perm _).length_eq

theorem seriesKey?_requests :
    seriesKey? (sampleOf localeCompare requestsName (endpointLabels endpoint) value) =
      some (.requests endpoint) := by
  simp only [seriesKey?, sampleOf, length_endpointLabels, endpoint?_endpointLabels, if_true,
    Option.map_some]

theorem seriesKey?_durationSum :
    seriesKey? (sampleOf localeCompare (durationName ++ units "_sum") (endpointLabels endpoint)
      value) = some (.durationSum endpoint) := by
  have hne : durationName ++ units "_sum" ≠ requestsName := by decide +kernel
  simp only [seriesKey?, sampleOf, length_endpointLabels, endpoint?_endpointLabels, if_true,
    hne, if_false, Option.map_some]

theorem seriesKey?_durationCount :
    seriesKey? (sampleOf localeCompare (durationName ++ units "_count") (endpointLabels endpoint)
      value) = some (.durationCount endpoint) := by
  have hne : durationName ++ units "_count" ≠ requestsName := by decide +kernel
  have hsum : durationName ++ units "_count" ≠ durationName ++ units "_sum" := by decide +kernel
  simp only [seriesKey?, sampleOf, length_endpointLabels, endpoint?_endpointLabels, if_true,
    hne, hsum, if_false, Option.map_some]

theorem seriesKey?_authFailures :
    seriesKey? (sampleOf localeCompare authFailuresName (endpointLabels endpoint) value) =
      some (.authFailures endpoint) := by
  have hne : authFailuresName ≠ requestsName := by decide +kernel
  have hsum : authFailuresName ≠ durationName ++ units "_sum" := by decide +kernel
  have hcount : authFailuresName ≠ durationName ++ units "_count" := by decide +kernel
  simp only [seriesKey?, sampleOf, length_endpointLabels, endpoint?_endpointLabels, if_true,
    hne, hsum, hcount, if_false, Option.map_some]

theorem seriesKey?_bucket (le : JsString) :
    seriesKey? (sampleOf localeCompare durationName
      (endpointLabels endpoint ++ [(units "le", le)]) value) = some (.bucket endpoint le) := by
  have hlength : (sortLabels localeCompare
      (endpointLabels endpoint ++ [(units "le", le)])).length = 3 :=
    (sortLabels_perm _).length_eq
  simp only [seriesKey?, sampleOf, hlength, endpoint?_withBound, lookup_le, if_true,
    Option.bind_some, Option.map_some]

theorem seriesKey?_tokenFailures (status : Int) :
    seriesKey? (sampleOf localeCompare tokenFailuresName (statusLabels status) value) =
      some (.tokenFailures status) := by
  have hlength : (sortLabels localeCompare (statusLabels status)).length = 1 :=
    (sortLabels_perm _).length_eq
  have hnodup : ((statusLabels status).map Prod.fst).Nodup := List.nodup_singleton _
  have hstatus : statusLabel? (sortLabels localeCompare (statusLabels status)) = some status := by
    rw [statusLabel?, lookup_sortLabels hnodup, statusLabels,
      List.lookup_cons_self, Option.bind_some, status?_bigIntText]
  simp only [seriesKey?, sampleOf, hlength, hstatus, if_true, Option.map_some]

end Keys

end Reading

/-! ## What the page should show -/

/-- A call with this duration counts in the bucket with this bound. -/
def within (le : JsString) (durationSeconds : Rat) : Bool :=
  match requestDurationBuckets.lookup le with
  | some bound => max 0 durationSeconds ≤ bound
  | none => le = units "+Inf"

/-- The bound of a bucket. -/
def isBound (le : JsString) : Bool :=
  (requestDurationBuckets.lookup le).isSome || le = units "+Inf"

namespace SeriesKey

/-- The key is that of a bucket. -/
def isBucket : SeriesKey → Bool
  | .bucket _ _ => true
  | _ => false

/-- The calls with the labels of a series. -/
def concerns : SeriesKey → MetricCall → Bool
  | .requests endpoint, .observeRequest route status _ => Endpoint.mk route status = endpoint
  | .bucket endpoint _, .observeRequest route status _ => Endpoint.mk route status = endpoint
  | .durationSum endpoint, .observeRequest route status _ => Endpoint.mk route status = endpoint
  | .durationCount endpoint, .observeRequest route status _ => Endpoint.mk route status = endpoint
  | .authFailures endpoint, .incrementAuthFailure route status => Endpoint.mk route status = endpoint
  | .tokenFailures status', .incrementTokenIssuanceFailure status => status = status'
  | _, _ => false

/-- The calls that a series counts. -/
def counts (key : SeriesKey) (call : MetricCall) : Bool :=
  key.concerns call &&
    match key, call with
    | .bucket _ le, .observeRequest _ _ durationSeconds => within le durationSeconds
    | _, _ => true

/-- The series that the page has after some calls. -/
def shown (key : SeriesKey) (calls : List MetricCall) : Bool :=
  calls.any key.concerns &&
    match key with
    | .bucket _ le => isBound le
    | _ => true

end SeriesKey

/-- The values of the samples about a series. -/
def valuesOf (page : List Sample) (key : SeriesKey) : List JsString :=
  (page.filter fun sample => seriesKey? sample = some key).map Sample.value

/-- The page reports the calls. -/
structure Reports (page : List Sample) (calls : List MetricCall) : Prop where
  /-- every sample has a known name and the labels that belong to it -/
  known : ∀ sample ∈ page, ∃ key, seriesKey? sample = some key
  /-- every series that should be there is there once, with the number of its calls -/
  values : ∀ key, (∀ endpoint, key ≠ .durationSum endpoint) → valuesOf page key =
    if key.shown calls then [naturalText (calls.countP key.counts)] else []
  /-- so is every sum, whose value is left open -/
  sums : ∀ endpoint, (valuesOf page (.durationSum endpoint)).length =
    if (SeriesKey.durationSum endpoint).shown calls then 1 else 0
  /-- the label of a bucket is read as the bound that durations are compared with -/
  bounds : ∀ bucket ∈ requestDurationBuckets, number bucket.1 = .finite bucket.2
  /-- no two samples share their labels -/
  separate : (page.map seriesKey?).Nodup
  /-- the buckets do not decrease with the bound -/
  nondecreasing : ∀ endpoint, ∀ bucket ∈ requestDurationBuckets,
    ∀ bucket' ∈ requestDurationBuckets, bucket.2 ≤ bucket'.2 →
      calls.countP (SeriesKey.bucket endpoint bucket.1).counts ≤
          calls.countP (SeriesKey.bucket endpoint bucket'.1).counts ∧
        calls.countP (SeriesKey.bucket endpoint bucket'.1).counts ≤
          calls.countP (SeriesKey.bucket endpoint (units "+Inf")).counts
  /-- the last bucket, the count of the histogram and the counter agree -/
  agree : ∀ endpoint,
    valuesOf page (.bucket endpoint (units "+Inf")) = valuesOf page (.requests endpoint) ∧
      valuesOf page (.durationCount endpoint) = valuesOf page (.requests endpoint)

/-! ## What the page shows -/

section Families

variable {ι : Type} [DecidableEq ι] {localeCompare : JsString → JsString → Int}
  {labelsOf : ι → Labels} {keyOf : ι → SeriesKey} {name : JsString} {printer : SumPrinter}

/-- The samples of a counter about one of its series. -/
theorem filter_counterSamples (hsep : Separated localeCompare labelsOf)
    (hread : ∀ i value, seriesKey? (sampleOf localeCompare name (labelsOf i) value) =
      some (keyOf i)) (hkey : Function.Injective keyOf) (events : List ι) (i : ι) :
    (counterSamples localeCompare name (counterRun localeCompare labelsOf events)).filter
        (fun sample => seriesKey? sample = some (keyOf i)) =
      if i ∈ events then
        [sampleOf localeCompare name (labelsOf i) (naturalText (events.count i))] else [] := by
  rw [counterSamples, List.map_eq_flatMap, getSortedCounterSeries,
    KeyedStore.filter_flatMap_sorted _ _ _ _ (canonicalKey localeCompare (labelsOf i)),
    get?_counterRun hsep]
  · split_ifs
    · simp only [Option.map_some, Option.getD_some, List.filter_cons, hread, decide_true, if_true,
        List.filter_nil]
    · rfl
  · intro e he hne sample hsample
    obtain ⟨j, -, rfl⟩ := mem_counterRun hsep he
    rw [List.mem_singleton.mp hsample, hread]
    refine decide_eq_false fun heq => hne ?_
    rw [hkey (Option.some.inj heq)]

/-- A counter has no samples about others. -/
theorem filter_counterSamples_of_ne (hsep : Separated localeCompare labelsOf)
    (hread : ∀ i value, seriesKey? (sampleOf localeCompare name (labelsOf i) value) =
      some (keyOf i)) {key : SeriesKey} (hkey : ∀ i, keyOf i ≠ key) (events : List ι) :
    (counterSamples localeCompare name (counterRun localeCompare labelsOf events)).filter
      (fun sample => seriesKey? sample = some key) = [] := by
  refine List.filter_eq_nil_iff.mpr fun sample hsample heq => ?_
  obtain ⟨i, -, rfl⟩ := mem_counterSamples hsep hsample
  rw [hread] at heq
  exact hkey i (Option.some.inj (of_decide_eq_true heq))

end Families

/-- The endpoint whose durations a sample is about. -/
def SeriesKey.duration? : SeriesKey → Option Endpoint
  | .bucket endpoint _ => some endpoint
  | .durationSum endpoint => some endpoint
  | .durationCount endpoint => some endpoint
  | _ => none

section Histogram

variable {localeCompare : JsString → JsString → Int} {printer : SumPrinter}

/-- The samples of a series are about it. -/
theorem duration?_seriesSamples (endpoint : Endpoint) (durations : List Rat) :
    ∀ sample ∈ seriesSamples localeCompare printer
      (histogramOf (endpointLabels endpoint) durations),
      ∃ key, seriesKey? sample = some key ∧ key.duration? = some endpoint := by
  rw [seriesSamples_histogramOf, List.forall_mem_append]
  refine ⟨List.forall_mem_map.mpr fun bucket _ => ?_, ?_⟩
  · exact ⟨_, seriesKey?_bucket endpoint _ bucket.1, rfl⟩
  · simp only [List.forall_mem_cons, List.not_mem_nil, false_implies, implies_true, and_true]
    exact ⟨⟨_, seriesKey?_bucket endpoint _ _, rfl⟩, ⟨_, seriesKey?_durationSum endpoint _, rfl⟩,
      ⟨_, seriesKey?_durationCount endpoint _, rfl⟩⟩

theorem filter_histogramSamples {key : SeriesKey} {endpoint : Endpoint}
    (hkey : key.duration? = some endpoint) (events : List (Endpoint × Rat)) :
    (histogramSamples localeCompare printer
        (histogramRun localeCompare endpointLabels events)).filter
        (fun sample => seriesKey? sample = some key) =
      if endpoint ∈ events.map Prod.fst then
        (seriesSamples localeCompare printer
          (histogramOf (endpointLabels endpoint) (durationsOf events endpoint))).filter
            fun sample => seriesKey? sample = some key
      else [] := by
  rw [histogramSamples, getSortedHistogramSeries, KeyedStore.filter_flatMap_sorted _ _ _ _
    (canonicalKey localeCompare (endpointLabels endpoint)),
    get?_histogramRun separated_endpointLabels]
  · split_ifs <;> rfl
  · intro e he hne sample hsample
    obtain ⟨j, -, rfl⟩ := mem_histogramRun separated_endpointLabels he
    obtain ⟨found, hfound, hendpoint⟩ := duration?_seriesSamples j _ sample hsample
    rw [hfound]
    refine decide_eq_false fun heq => hne ?_
    rw [Option.some.inj heq, hkey] at hendpoint
    rw [Option.some.inj hendpoint]

theorem filter_histogramSamples_of_none {key : SeriesKey} (hkey : key.duration? = none)
    (events : List (Endpoint × Rat)) :
    (histogramSamples localeCompare printer
      (histogramRun localeCompare endpointLabels events)).filter
        (fun sample => seriesKey? sample = some key) = [] := by
  refine List.filter_eq_nil_iff.mpr fun sample hsample heq => ?_
  obtain ⟨i, -, hmem⟩ := mem_histogramSamples separated_endpointLabels hsample
  obtain ⟨found, hfound, hendpoint⟩ := duration?_seriesSamples i _ sample hmem
  rw [hfound] at heq
  rw [Option.some.inj (of_decide_eq_true heq), hkey] at hendpoint
  cases hendpoint

section Series

variable (endpoint : Endpoint) (durations : List Rat)

theorem nodup_bounds : (requestDurationBuckets.map Prod.fst).Nodup := by decide +kernel

/-- Of the samples of the bounds, the one for a bound. -/
theorem filter_bucketSample (le : JsString) :
    (requestDurationBuckets.map
        (bucketSample localeCompare (endpointLabels endpoint) durations)).filter
        (fun sample => seriesKey? sample = some (.bucket endpoint le)) =
      ((requestDurationBuckets.lookup le).map fun bound =>
        bucketSample localeCompare (endpointLabels endpoint) durations (le, bound)).toList := by
  have hbound : ∀ bucket ∈ requestDurationBuckets,
      decide (seriesKey? (bucketSample localeCompare (endpointLabels endpoint) durations bucket) =
        some (.bucket endpoint le)) = decide (bucket.1 = le) := by
    intro bucket _
    rw [bucketSample, seriesKey?_bucket]
    refine decide_eq_decide.mpr ⟨fun heq => ?_, fun heq => by rw [heq]⟩
    injection Option.some.inj heq
  have hkept : requestDurationBuckets.filter ((fun sample => decide (seriesKey? sample =
      some (.bucket endpoint le))) ∘
        bucketSample localeCompare (endpointLabels endpoint) durations) =
      ((requestDurationBuckets.lookup le).map fun bound => (le, bound)).toList :=
    (List.filter_congr hbound).trans (filter_key nodup_bounds)
  rw [List.filter_map, hkept]
  cases requestDurationBuckets.lookup le <;> rfl

/-- The sample of a series about one bucket. -/
theorem filter_bucket (le : JsString) :
    (seriesSamples localeCompare printer (histogramOf (endpointLabels endpoint) durations)).filter
        (fun sample => seriesKey? sample = some (.bucket endpoint le)) =
      if isBound le then
        [sampleOf localeCompare durationName (endpointLabels endpoint ++ [(units "le", le)])
          (naturalText (durations.countP (within le)))]
      else [] := by
  have hinfinite : requestDurationBuckets.lookup (units "+Inf") = none := by decide +kernel
  rw [seriesSamples_histogramOf, List.filter_append, filter_bucketSample]
  simp only [List.filter_cons, List.filter_nil, seriesKey?_bucket, seriesKey?_durationSum,
    seriesKey?_durationCount, Option.some.injEq, reduceCtorEq, decide_false, Bool.false_eq_true,
    if_false, SeriesKey.bucket.injEq, true_and, decide_eq_true_eq]
  cases hlookup : requestDurationBuckets.lookup le with
  | some bound =>
      have hne : ¬ units "+Inf" = le := by
        rintro rfl
        rw [hinfinite] at hlookup
        cases hlookup
      have hwithin : durations.countP (within le) =
          durations.countP fun d => max 0 d ≤ bound := by
        refine congrArg (fun p => durations.countP p) (funext fun d => ?_)
        rw [within, hlookup]
      rw [if_neg hne, isBound, hlookup, hwithin]
      rfl
  | none =>
      by_cases hle : units "+Inf" = le
      · have hwithin : durations.countP (within le) = durations.length := by
          refine List.countP_eq_length.mpr fun d _ => ?_
          rw [within, hlookup]
          exact decide_eq_true hle.symm
        rw [if_pos hle, isBound, hlookup, hwithin, ← hle]
        rfl
      · have hbound : isBound le = false := by
          rw [isBound, hlookup]
          exact decide_eq_false fun heq => hle heq.symm
        rw [if_neg hle, hbound]
        rfl

/-- The bounds have no part in the other series. -/
theorem filter_bucketSample_of_ne {key : SeriesKey} (h : ∀ le, key ≠ .bucket endpoint le) :
    (requestDurationBuckets.map
        (bucketSample localeCompare (endpointLabels endpoint) durations)).filter
        (fun sample => seriesKey? sample = some key) = [] := by
  refine List.filter_eq_nil_iff.mpr (List.forall_mem_map.mpr fun bucket _ heq => ?_)
  rw [bucketSample, seriesKey?_bucket] at heq
  exact h _ (Option.some.inj (of_decide_eq_true heq)).symm

theorem filter_durationSum :
    (seriesSamples localeCompare printer (histogramOf (endpointLabels endpoint) durations)).filter
        (fun sample => seriesKey? sample = some (.durationSum endpoint)) =
      [sampleOf localeCompare (durationName ++ units "_sum") (endpointLabels endpoint)
        (printer.text (durations.map fun d => max 0 d))] := by
  rw [seriesSamples_histogramOf, List.filter_append,
    filter_bucketSample_of_ne _ _ fun le heq => by cases heq]
  simp only [List.filter_cons, List.filter_nil, seriesKey?_bucket, seriesKey?_durationSum,
    seriesKey?_durationCount, Option.some.injEq, reduceCtorEq, decide_false, decide_true,
    Bool.false_eq_true, if_false, if_true, List.nil_append]

theorem filter_durationCount :
    (seriesSamples localeCompare printer (histogramOf (endpointLabels endpoint) durations)).filter
        (fun sample => seriesKey? sample = some (.durationCount endpoint)) =
      [sampleOf localeCompare (durationName ++ units "_count") (endpointLabels endpoint)
        (naturalText durations.length)] := by
  rw [seriesSamples_histogramOf, List.filter_append,
    filter_bucketSample_of_ne _ _ fun le heq => by cases heq]
  simp only [List.filter_cons, List.filter_nil, seriesKey?_bucket, seriesKey?_durationSum,
    seriesKey?_durationCount, Option.some.injEq, reduceCtorEq, decide_false, decide_true,
    Bool.false_eq_true, if_false, if_true, List.nil_append]

end Series

end Histogram

/-! ## Counting calls -/

section Counting

variable (calls : List MetricCall)

theorem countP_durationsOf (endpoint : Endpoint) (p : Rat → Bool) :
    (durationsOf (calls.filterMap MetricCall.observed?) endpoint).countP p =
      calls.countP fun call =>
        ((MetricCall.observed? call).map fun e => p e.2 && decide (e.1 = endpoint)).getD false := by
  rw [durationsOf, List.countP_map, List.countP_filter, List.countP_filterMap]
  rfl

theorem count_observed (endpoint : Endpoint) :
    ((calls.filterMap MetricCall.observed?).map Prod.fst).count endpoint =
      calls.countP (SeriesKey.requests endpoint).counts := by
  rw [List.count, List.countP_map, List.countP_filterMap]
  refine congrArg (fun p => calls.countP p) (funext fun call => ?_)
  cases call <;>
    simp [MetricCall.observed?, SeriesKey.counts, SeriesKey.concerns, beq_eq_decide]

theorem length_durationsOf (endpoint : Endpoint) :
    (durationsOf (calls.filterMap MetricCall.observed?) endpoint).length =
      calls.countP (SeriesKey.requests endpoint).counts := by
  rw [← List.countP_true, countP_durationsOf]
  refine congrArg (fun p => calls.countP p) (funext fun call => ?_)
  cases call <;> simp [MetricCall.observed?, SeriesKey.counts, SeriesKey.concerns]

theorem countP_within (endpoint : Endpoint) (le : JsString) :
    (durationsOf (calls.filterMap MetricCall.observed?) endpoint).countP (within le) =
      calls.countP (SeriesKey.bucket endpoint le).counts := by
  rw [countP_durationsOf]
  refine congrArg (fun p => calls.countP p) (funext fun call => ?_)
  cases call <;>
    simp [MetricCall.observed?, SeriesKey.counts, SeriesKey.concerns, Bool.and_comm]

theorem count_authFailures (endpoint : Endpoint) :
    (calls.filterMap MetricCall.authFailure?).count endpoint =
      calls.countP (SeriesKey.authFailures endpoint).counts := by
  rw [List.count, List.countP_filterMap]
  refine congrArg (fun p => calls.countP p) (funext fun call => ?_)
  cases call <;>
    simp [MetricCall.authFailure?, SeriesKey.counts, SeriesKey.concerns, beq_eq_decide]

theorem count_tokenFailures (status : Int) :
    (calls.filterMap MetricCall.tokenFailure?).count status =
      calls.countP (SeriesKey.tokenFailures status).counts := by
  rw [List.count, List.countP_filterMap]
  refine congrArg (fun p => calls.countP p) (funext fun call => ?_)
  cases call <;>
    simp [MetricCall.tokenFailure?, SeriesKey.counts, SeriesKey.concerns, beq_eq_decide]

/-- A series other than a bucket is shown exactly if it counts a call. -/
theorem shown_iff_count_pos {key : SeriesKey} (hkey : key.isBucket = false) :
    key.shown calls = true ↔ 0 < calls.countP key.counts := by
  have hcounts : ∀ call, key.counts call = key.concerns call := by
    intro call
    cases key with
    | bucket endpoint le => cases hkey
    | requests _ | durationSum _ | durationCount _ | authFailures _ | tokenFailures _ =>
        exact Bool.and_true _
  have hshown : key.shown calls = calls.any key.concerns := by
    cases key with
    | bucket endpoint le => cases hkey
    | requests _ | durationSum _ | durationCount _ | authFailures _ | tokenFailures _ =>
        exact Bool.and_true _
  rw [hshown, List.any_eq_true, List.countP_pos_iff]
  simp only [hcounts]

theorem mem_iff_shown {ι : Type} [DecidableEq ι] {events : List ι} {i : ι} {key : SeriesKey}
    (hkey : key.isBucket = false) (hcount : events.count i = calls.countP key.counts) :
    i ∈ events ↔ key.shown calls = true := by
  rw [shown_iff_count_pos calls hkey, ← hcount, List.count_pos_iff]

end Counting

/-! ## The report -/

section Report

variable {localeCompare : JsString → JsString → Int} {printer : SumPrinter}

/-- The samples about a counter of endpoints among those of all families. -/
theorem filter_metricSamples (calls : List MetricCall) (key : SeriesKey) :
    (metricSamples localeCompare printer (runMetrics localeCompare calls)).filter
        (fun sample => seriesKey? sample = some key) =
      (counterSamples localeCompare requestsName (counterRun localeCompare endpointLabels
          ((calls.filterMap MetricCall.observed?).map Prod.fst))).filter
          (fun sample => seriesKey? sample = some key) ++
        (histogramSamples localeCompare printer (histogramRun localeCompare endpointLabels
          (calls.filterMap MetricCall.observed?))).filter
          (fun sample => seriesKey? sample = some key) ++
        (counterSamples localeCompare authFailuresName (counterRun localeCompare endpointLabels
          (calls.filterMap MetricCall.authFailure?))).filter
          (fun sample => seriesKey? sample = some key) ++
        (counterSamples localeCompare tokenFailuresName (counterRun localeCompare statusLabels
          (calls.filterMap MetricCall.tokenFailure?))).filter
          (fun sample => seriesKey? sample = some key) := by
  rw [runMetrics_eq, metricSamples, List.filter_append, List.filter_append, List.filter_append]

/-- What a family shows of a series, in terms of the calls. -/
theorem map_value_of_iff {p q : Prop} [Decidable p] [Decidable q] (h : p ↔ q) (sample : Sample) :
    (if p then [sample] else []).map Sample.value = if q then [sample.value] else [] := by
  by_cases hp : p
  · rw [if_pos hp, if_pos (h.mp hp)]
    rfl
  · rw [if_neg hp, if_neg (mt h.mpr hp)]
    rfl

theorem valuesOf_requests (calls : List MetricCall) (endpoint : Endpoint) :
    valuesOf (metricSamples localeCompare printer (runMetrics localeCompare calls))
        (.requests endpoint) =
      if (SeriesKey.requests endpoint).shown calls then
        [naturalText (calls.countP (SeriesKey.requests endpoint).counts)] else [] := by
  have hinj : Function.Injective SeriesKey.requests := fun _ _ h => SeriesKey.requests.inj h
  rw [valuesOf, filter_metricSamples,
    filter_counterSamples separated_endpointLabels seriesKey?_requests hinj,
    filter_histogramSamples_of_none rfl,
    filter_counterSamples_of_ne separated_endpointLabels seriesKey?_authFailures
      (fun i h => by cases h),
    filter_counterSamples_of_ne separated_statusLabels (fun i v => seriesKey?_tokenFailures v i)
      (fun i h => by cases h),
    List.append_nil, List.append_nil, List.append_nil,
    map_value_of_iff (mem_iff_shown calls rfl (count_observed calls endpoint)), count_observed]
  rfl

theorem valuesOf_authFailures (calls : List MetricCall) (endpoint : Endpoint) :
    valuesOf (metricSamples localeCompare printer (runMetrics localeCompare calls))
        (.authFailures endpoint) =
      if (SeriesKey.authFailures endpoint).shown calls then
        [naturalText (calls.countP (SeriesKey.authFailures endpoint).counts)] else [] := by
  have hinj : Function.Injective SeriesKey.authFailures := fun _ _ h =>
    SeriesKey.authFailures.inj h
  rw [valuesOf, filter_metricSamples,
    filter_counterSamples_of_ne separated_endpointLabels seriesKey?_requests
      (fun i h => by cases h),
    filter_histogramSamples_of_none rfl,
    filter_counterSamples separated_endpointLabels seriesKey?_authFailures hinj,
    filter_counterSamples_of_ne separated_statusLabels (fun i v => seriesKey?_tokenFailures v i)
      (fun i h => by cases h),
    List.append_nil, List.append_nil, List.nil_append,
    map_value_of_iff (mem_iff_shown calls rfl (count_authFailures calls endpoint)),
    count_authFailures]
  rfl

theorem valuesOf_tokenFailures (calls : List MetricCall) (status : Int) :
    valuesOf (metricSamples localeCompare printer (runMetrics localeCompare calls))
        (.tokenFailures status) =
      if (SeriesKey.tokenFailures status).shown calls then
        [naturalText (calls.countP (SeriesKey.tokenFailures status).counts)] else [] := by
  have hinj : Function.Injective SeriesKey.tokenFailures := fun _ _ h =>
    SeriesKey.tokenFailures.inj h
  rw [valuesOf, filter_metricSamples,
    filter_counterSamples_of_ne separated_endpointLabels seriesKey?_requests
      (fun i h => by cases h),
    filter_histogramSamples_of_none rfl,
    filter_counterSamples_of_ne separated_endpointLabels seriesKey?_authFailures
      (fun i h => by cases h),
    filter_counterSamples separated_statusLabels (fun i v => seriesKey?_tokenFailures v i) hinj,
    List.append_nil, List.append_nil, List.nil_append,
    map_value_of_iff (mem_iff_shown calls rfl (count_tokenFailures calls status)),
    count_tokenFailures]
  rfl

/-- The samples about a histogram are those of its family. -/
theorem valuesOf_duration (calls : List MetricCall) {key : SeriesKey} {endpoint : Endpoint}
    (hkey : key.duration? = some endpoint) :
    valuesOf (metricSamples localeCompare printer (runMetrics localeCompare calls)) key =
      ((if (SeriesKey.requests endpoint).shown calls then
          (seriesSamples localeCompare printer (histogramOf (endpointLabels endpoint)
            (durationsOf (calls.filterMap MetricCall.observed?) endpoint))).filter
            fun sample => seriesKey? sample = some key
        else []).map Sample.value) := by
  have hne : ∀ other : SeriesKey, other.duration? = none → other ≠ key := by
    rintro other hother rfl
    rw [hkey] at hother
    cases hother
  have hshown := mem_iff_shown calls rfl (count_observed calls endpoint)
  rw [valuesOf, filter_metricSamples,
    filter_counterSamples_of_ne separated_endpointLabels seriesKey?_requests
      (fun i => hne _ rfl),
    filter_histogramSamples hkey,
    filter_counterSamples_of_ne separated_endpointLabels seriesKey?_authFailures
      (fun i => hne _ rfl),
    filter_counterSamples_of_ne separated_statusLabels (fun i v => seriesKey?_tokenFailures v i)
      (fun i => hne _ rfl),
    List.append_nil, List.append_nil, List.nil_append]
  simp only [hshown]

/-- A histogram concerns the calls that the counter of requests concerns. -/
theorem concerns_of_duration? {key : SeriesKey} {endpoint : Endpoint}
    (hkey : key.duration? = some endpoint) :
    key.concerns = (SeriesKey.requests endpoint).concerns := by
  funext call
  cases key with
  | bucket other le =>
      cases hkey
      cases call <;> rfl
  | durationSum other =>
      cases hkey
      cases call <;> rfl
  | durationCount other =>
      cases hkey
      cases call <;> rfl
  | requests _ | authFailures _ | tokenFailures _ => cases hkey

theorem shown_requests (calls : List MetricCall) (endpoint : Endpoint) :
    (SeriesKey.requests endpoint).shown calls =
      calls.any (SeriesKey.requests endpoint).concerns := Bool.and_true _

theorem shown_durationCount (calls : List MetricCall) (endpoint : Endpoint) :
    (SeriesKey.durationCount endpoint).shown calls =
      (SeriesKey.requests endpoint).shown calls := by
  rw [shown_requests, ← concerns_of_duration? (rfl : (SeriesKey.durationCount _).duration? = _)]
  exact Bool.and_true _

theorem counts_durationCount (endpoint : Endpoint) :
    (SeriesKey.durationCount endpoint).counts = (SeriesKey.requests endpoint).counts := by
  funext call
  cases call <;> rfl

theorem valuesOf_bucket (calls : List MetricCall) (endpoint : Endpoint) (le : JsString) :
    valuesOf (metricSamples localeCompare printer (runMetrics localeCompare calls))
        (.bucket endpoint le) =
      if (SeriesKey.bucket endpoint le).shown calls then
        [naturalText (calls.countP (SeriesKey.bucket endpoint le).counts)] else [] := by
  have hshown : (SeriesKey.bucket endpoint le).shown calls =
      ((SeriesKey.requests endpoint).shown calls && isBound le) := by
    rw [shown_requests, SeriesKey.shown, concerns_of_duration? rfl]
  rw [valuesOf_duration calls rfl, filter_bucket, countP_within, hshown]
  cases (SeriesKey.requests endpoint).shown calls <;> cases isBound le <;> rfl

theorem valuesOf_durationCount (calls : List MetricCall) (endpoint : Endpoint) :
    valuesOf (metricSamples localeCompare printer (runMetrics localeCompare calls))
        (.durationCount endpoint) =
      if (SeriesKey.durationCount endpoint).shown calls then
        [naturalText (calls.countP (SeriesKey.durationCount endpoint).counts)] else [] := by
  rw [valuesOf_duration calls rfl, filter_durationCount, length_durationsOf, shown_durationCount,
    counts_durationCount]
  cases (SeriesKey.requests endpoint).shown calls <;> rfl

theorem length_valuesOf_durationSum (calls : List MetricCall) (endpoint : Endpoint) :
    (valuesOf (metricSamples localeCompare printer (runMetrics localeCompare calls))
        (.durationSum endpoint)).length =
      if (SeriesKey.durationSum endpoint).shown calls then 1 else 0 := by
  have hshown : (SeriesKey.durationSum endpoint).shown calls =
      (SeriesKey.requests endpoint).shown calls := by
    rw [shown_requests, ← concerns_of_duration? (rfl : (SeriesKey.durationSum _).duration? = _)]
    exact Bool.and_true _
  rw [valuesOf_duration calls rfl, filter_durationSum, hshown]
  cases (SeriesKey.requests endpoint).shown calls <;> rfl

theorem known_metricSamples (calls : List MetricCall) :
    ∀ sample ∈ metricSamples localeCompare printer (runMetrics localeCompare calls),
      ∃ key, seriesKey? sample = some key := by
  intro sample hsample
  rw [runMetrics_eq, metricSamples, List.mem_append, List.mem_append, List.mem_append] at hsample
  rcases hsample with ((hrequests | hduration) | hauth) | htoken
  · obtain ⟨i, -, rfl⟩ := mem_counterSamples separated_endpointLabels hrequests
    exact ⟨_, seriesKey?_requests i _⟩
  · obtain ⟨i, -, hmem⟩ := mem_histogramSamples separated_endpointLabels hduration
    obtain ⟨key, hkey, -⟩ := duration?_seriesSamples i _ sample hmem
    exact ⟨key, hkey⟩
  · obtain ⟨i, -, rfl⟩ := mem_counterSamples separated_endpointLabels hauth
    exact ⟨_, seriesKey?_authFailures i _⟩
  · obtain ⟨i, -, rfl⟩ := mem_counterSamples separated_statusLabels htoken
    exact ⟨_, seriesKey?_tokenFailures _ i⟩

end Report

/-- The calls in a bucket are among those in any later one. -/
theorem countP_bucket_le (calls : List MetricCall) (endpoint : Endpoint) {le le' : JsString}
    (h : ∀ d, within le d = true → within le' d = true) :
    calls.countP (SeriesKey.bucket endpoint le).counts ≤
      calls.countP (SeriesKey.bucket endpoint le').counts := by
  refine List.countP_mono_left fun call _ hcall => ?_
  cases call with
  | observeRequest route status d =>
      rw [SeriesKey.counts, Bool.and_eq_true] at hcall ⊢
      exact ⟨hcall.1, h d hcall.2⟩
  | incrementAuthFailure _ _ => cases hcall
  | incrementTokenIssuanceFailure _ => cases hcall

theorem within_infinity (d : Rat) : within (units "+Inf") d = true := by
  have hinfinite : requestDurationBuckets.lookup (units "+Inf") = none := by decide +kernel
  rw [within, hinfinite]
  exact decide_eq_true rfl

theorem within_bound {bucket : JsString × Rat} (h : bucket ∈ requestDurationBuckets) (d : Rat) :
    within bucket.1 d = decide (max 0 d ≤ bucket.2) := by
  rw [within, (lookup_eq_some_iff_mem nodup_bounds).mpr h]

/-- The last bucket has every call. -/
theorem counts_infinity (endpoint : Endpoint) :
    (SeriesKey.bucket endpoint (units "+Inf")).counts = (SeriesKey.requests endpoint).counts := by
  funext call
  cases call with
  | observeRequest route status d =>
      exact congrArg (fun counted => decide (Endpoint.mk route status = endpoint) && counted)
        (within_infinity d)
  | incrementAuthFailure _ _ => rfl
  | incrementTokenIssuanceFailure _ => rfl

theorem shown_infinity (calls : List MetricCall) (endpoint : Endpoint) :
    (SeriesKey.bucket endpoint (units "+Inf")).shown calls =
      (SeriesKey.requests endpoint).shown calls := by
  have hbound : isBound (units "+Inf") = true := by decide +kernel
  have hshown : (SeriesKey.bucket endpoint (units "+Inf")).shown calls =
      (calls.any (SeriesKey.bucket endpoint (units "+Inf")).concerns && isBound (units "+Inf")) :=
    rfl
  rw [shown_requests, hshown, hbound, Bool.and_true, concerns_of_duration? rfl]

/-- Samples with at most one value for each series have separate labels. -/
theorem nodup_seriesKey? {page : List Sample}
    (hknown : ∀ sample ∈ page, ∃ key, seriesKey? sample = some key)
    (hvalues : ∀ key, (valuesOf page key).length ≤ 1) : (page.map seriesKey?).Nodup := by
  rw [List.nodup_iff_count_le_one]
  intro found
  rw [List.count, List.countP_map]
  cases found with
  | none =>
      refine Nat.le_of_eq (List.countP_eq_zero.mpr fun sample hsample hnone => ?_) |>.trans
        (Nat.zero_le 1)
      obtain ⟨key, hkey⟩ := hknown sample hsample
      rw [Function.comp_apply, hkey] at hnone
      cases hnone
  | some key =>
      have hlength := hvalues key
      rw [valuesOf, List.length_map, ← List.countP_eq_length_filter] at hlength
      refine Nat.le_trans (Nat.le_of_eq (congrArg (fun p => page.countP p) ?_)) hlength
      funext sample
      exact beq_eq_decide ..

/-- After any calls, in any locale, the page reads as a report of them. -/
theorem metrics_reported (localeCompare : JsString → JsString → Int) (printer : SumPrinter)
    (calls : List MetricCall) :
    ∃ page, readPage (renderPrometheus localeCompare printer (runMetrics localeCompare calls)) =
      some page ∧ Reports page calls := by
  obtain ⟨page, hpage⟩ : ∃ page, metricSamples localeCompare printer
      (runMetrics localeCompare calls) = page := ⟨_, rfl⟩
  have hvalues : ∀ key, (∀ endpoint, key ≠ .durationSum endpoint) → valuesOf page key =
      if key.shown calls then [naturalText (calls.countP key.counts)] else [] := by
    intro key hkey
    rw [← hpage]
    cases key with
    | requests endpoint => exact valuesOf_requests calls endpoint
    | bucket endpoint le => exact valuesOf_bucket calls endpoint le
    | durationSum endpoint => exact absurd rfl (hkey endpoint)
    | durationCount endpoint => exact valuesOf_durationCount calls endpoint
    | authFailures endpoint => exact valuesOf_authFailures calls endpoint
    | tokenFailures status => exact valuesOf_tokenFailures calls status
  have hsums : ∀ endpoint, (valuesOf page (.durationSum endpoint)).length =
      if (SeriesKey.durationSum endpoint).shown calls then 1 else 0 := by
    rw [← hpage]
    exact length_valuesOf_durationSum calls
  have hknown : ∀ sample ∈ page, ∃ key, seriesKey? sample = some key := by
    rw [← hpage]
    exact known_metricSamples calls
  refine ⟨page, hpage ▸ readPage_renderPrometheus calls, hknown, hvalues, hsums, number_bound,
    ?_, ?_, ?_⟩
  · refine nodup_seriesKey? hknown fun key => ?_
    by_cases hsum : ∃ endpoint, key = .durationSum endpoint
    · obtain ⟨endpoint, rfl⟩ := hsum
      rw [hsums]
      split_ifs <;> decide
    · rw [hvalues key fun endpoint heq => hsum ⟨endpoint, heq⟩]
      split_ifs
      · exact Nat.le_refl 1
      · exact Nat.zero_le 1
  · intro endpoint bucket hbucket bucket' hbucket' hle
    refine ⟨countP_bucket_le calls endpoint fun d hd => ?_,
      countP_bucket_le calls endpoint fun d _ => within_infinity d⟩
    rw [within_bound hbucket, decide_eq_true_eq] at hd
    rw [within_bound hbucket']
    exact decide_eq_true (hd.trans hle)
  · intro endpoint
    constructor
    · rw [hvalues (.bucket endpoint _) (fun _ heq => by cases heq),
        hvalues (.requests endpoint) (fun _ heq => by cases heq), shown_infinity, counts_infinity]
    · rw [hvalues (.durationCount endpoint) (fun _ heq => by cases heq),
        hvalues (.requests endpoint) (fun _ heq => by cases heq), shown_durationCount,
        counts_durationCount]

namespace Sample

/-- The order of the code units. -/
def byCodeUnits (left right : JsString) : Int :=
  if left = right then 0 else if left < right then -1 else 1

/-- A whole sum as `String` writes it. -/
def wholeSums : SumPrinter where
  text durations := naturalText ⌊durations.sum⌋.toNat
  isValue _ := isValue_naturalText _

/-- Two requests, the first of 5 ms by the double of 0.005. -/
def twoRequests : List MetricCall :=
  [.observeRequest (units "/v1/ledgers") 200 (double (5 / 1000)),
    .observeRequest (units "a\"b\\") 200 2]

end Sample

/-- The first request is in the bucket of 5 ms, and the second one's route is read as it was. -/
theorem metrics_reported_sample :
    ∃ page, readPage (renderPrometheus Sample.byCodeUnits Sample.wholeSums
        (runMetrics Sample.byCodeUnits Sample.twoRequests)) = some page ∧
      valuesOf page (.bucket ⟨units "/v1/ledgers", 200⟩ (units "0.005")) = [units "1"] ∧
      valuesOf page (.bucket ⟨units "a\"b\\", 200⟩ (units "1")) = [units "0"] ∧
      valuesOf page (.requests ⟨units "a\"b\\", 200⟩) = [units "1"] := by
  obtain ⟨page, hpage, hreports⟩ :=
    metrics_reported Sample.byCodeUnits Sample.wholeSums Sample.twoRequests
  refine ⟨page, hpage, ?_, ?_, ?_⟩
  · rw [hreports.values _ fun _ heq => by cases heq]
    decide +kernel
  · rw [hreports.values _ fun _ heq => by cases heq]
    decide +kernel
  · rw [hreports.values _ fun _ heq => by cases heq]
    decide +kernel

end LuxLedger.Http
