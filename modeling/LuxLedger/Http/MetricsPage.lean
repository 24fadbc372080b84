/-
  Http/MetricsPage.lean --- what a reader of the metrics page learns.

  Each store of the metrics is a run of a keyed store over the calls that concern it, so a
  series is a fold of the calls with its labels.  The page is read by the grammar of the
  exposition format, and every sample of it is led back to its series by its labels.
-/
import LuxLedger.Http.Metrics

set_option autoImplicit false

namespace LuxLedger.Http

open Javascript JsString Foundation Foundation.Exposition

variable {ι : Type}

/-! ## The stores after a run of calls -/

/-- The route and the status that label a series. -/
structure Endpoint where
  route : JsString
  status : Int
  deriving DecidableEq

/-- The labels of an endpoint. -/
def endpointLabels (endpoint : Endpoint) : Labels := requestLabels endpoint.route endpoint.status

namespace MetricCall

/-- The endpoint and duration of an observed request. -/
def observed? : MetricCall → Option (Endpoint × Rat)
  | observeRequest route status durationSeconds => some (⟨route, status⟩, durationSeconds)
  | _ => none

/-- The endpoint of an authentication failure. -/
def authFailure? : MetricCall → Option Endpoint
  | incrementAuthFailure route status => some ⟨route, status⟩
  | _ => none

/-- The status of a token failure. -/
def tokenFailure? : MetricCall → Option Int
  | incrementTokenIssuanceFailure status => some status
  | _ => none

end MetricCall

section Stores

variable (localeCompare : JsString → JsString → Int)

/-- The counters of a run of events, by their labels. -/
def counterRun (labelsOf : ι → Labels) (events : List ι) : KeyedStore JsString CounterSeries :=
  .run (fun i => canonicalKey localeCompare (labelsOf i)) (fun i => countUp (labelsOf i) 1) events

/-- The histograms of a run of events, by their labels. -/
def histogramRun (labelsOf : ι → Labels) (events : List (ι × Rat)) :
    KeyedStore JsString HistogramSeries :=
  .run (fun e => canonicalKey localeCompare (labelsOf e.1))
    (fun e => observeDuration (labelsOf e.1) e.2) events

/-- Every store sees the calls that concern it. -/
theorem runMetrics_eq (calls : List MetricCall) :
    runMetrics localeCompare calls =
      { requestTotal := counterRun localeCompare endpointLabels
          ((calls.filterMap MetricCall.observed?).map Prod.fst)
        authFailuresTotal :=
          counterRun localeCompare endpointLabels (calls.filterMap MetricCall.authFailure?)
        tokenIssuanceFailuresTotal :=
          counterRun localeCompare statusLabels (calls.filterMap MetricCall.tokenFailure?)
        requestDurationSeconds :=
          histogramRun localeCompare endpointLabels (calls.filterMap MetricCall.observed?) } := by
  induction calls using List.reverseRecOn with
  | nil => rfl
  | append_singleton calls call ih =>
      rw [runMetrics, List.foldl_concat, ← runMetrics, ih, List.filterMap_append,
        List.filterMap_append, List.filterMap_append, List.map_append]
      cases call with
      | observeRequest route status durationSeconds =>
          simp only [List.filterMap_cons, List.filterMap_nil, MetricCall.observed?,
            MetricCall.authFailure?, MetricCall.tokenFailure?, List.map_singleton,
            List.append_nil, counterRun, histogramRun, KeyedStore.run_append_singleton]
          rfl
      | incrementAuthFailure route status =>
          simp only [List.filterMap_cons, List.filterMap_nil, MetricCall.observed?,
            MetricCall.authFailure?, MetricCall.tokenFailure?, List.map_nil,
            List.append_nil, counterRun, histogramRun, KeyedStore.run_append_singleton]
          rfl
      | incrementTokenIssuanceFailure status =>
          simp only [List.filterMap_cons, List.filterMap_nil, MetricCall.observed?,
            MetricCall.authFailure?, MetricCall.tokenFailure?, List.map_nil,
            List.append_nil, counterRun, histogramRun, KeyedStore.run_append_singleton]
          rfl

end Stores

/-- Different events have labels with different keys. -/
def Separated (localeCompare : JsString → JsString → Int) (labelsOf : ι → Labels) : Prop :=
  ∀ i j, canonicalKey localeCompare (labelsOf i) = canonicalKey localeCompare (labelsOf j) → i = j

/-- The series of a histogram with some durations. -/
def histogramOf (labels : Labels) (durations : List Rat) : HistogramSeries :=
  { labels
    bucketCounts := requestDurationBuckets.map fun bucket =>
      durations.countP fun d => max 0 d ≤ bucket.2
    count := durations.length
    sum := durations.map fun d => max 0 d }

/-- The durations of an event. -/
def durationsOf [DecidableEq ι] (events : List (ι × Rat)) (i : ι) : List Rat :=
  (events.filter fun e => e.1 = i).map Prod.snd

section Series

variable {localeCompare : JsString → JsString → Int} {labelsOf : ι → Labels}

theorem separated_endpointLabels : Separated localeCompare endpointLabels := by
  rintro ⟨route, status⟩ ⟨route', status'⟩ h
  obtain ⟨hroute, hstatus⟩ := requestLabels_injective h
  exact Endpoint.mk.injEq .. ▸ ⟨hroute, hstatus⟩

theorem separated_statusLabels : Separated localeCompare statusLabels :=
  fun _ _ h => statusLabels_injective h

theorem foldl_countUp (i : ι) (n : Nat) :
    (List.replicate n i).foldl (fun s e => some (countUp (labelsOf e) 1 s)) none =
      if n = 0 then none else some ⟨labelsOf i, n⟩ := by
  induction n with
  | zero => rfl
  | succ n ih =>
      rw [List.replicate_succ', List.foldl_concat, ih, if_neg (Nat.succ_ne_zero n)]
      split_ifs with hn
      · rw [hn]
        rfl
      · rfl

theorem get?_counterRun [DecidableEq ι] (h : Separated localeCompare labelsOf) (events : List ι)
    (i : ι) :
    (counterRun localeCompare labelsOf events).get? (canonicalKey localeCompare (labelsOf i)) =
      if i ∈ events then some ⟨labelsOf i, events.count i⟩ else none := by
  have hkey : (events.filter fun e =>
      canonicalKey localeCompare (labelsOf e) = canonicalKey localeCompare (labelsOf i)) =
      List.replicate (events.count i) i := by
    rw [← List.filter_eq]
    refine List.filter_congr fun e _ => decide_eq_decide.mpr ⟨h e i, fun heq => heq ▸ rfl⟩
  rw [counterRun, KeyedStore.get?_run, hkey, foldl_countUp]
  by_cases hi : i ∈ events
  · rw [if_pos hi, if_neg (List.count_pos_iff.mpr hi).ne']
  · rw [if_neg hi, if_pos (List.count_eq_zero.mpr hi)]

/-- One more duration. -/
theorem observeDuration_histogramOf (labels : Labels) (durations : List Rat) (d : Rat) :
    observeDuration labels d (some (histogramOf labels durations)) =
      histogramOf labels (durations ++ [d]) := by
  have hcounts : List.zipWith (fun count (bucket : JsString × Rat) =>
        if max 0 d ≤ bucket.2 then count + 1 else count)
      (requestDurationBuckets.map fun bucket => durations.countP fun d => max 0 d ≤ bucket.2)
      requestDurationBuckets =
      requestDurationBuckets.map fun bucket =>
        (durations ++ [d]).countP fun d => max 0 d ≤ bucket.2 := by
    rw [List.zipWith_map_left, List.zipWith_self]
    refine List.map_congr_left fun bucket _ => ?_
    rw [List.countP_append, List.countP_singleton]
    by_cases hd : max 0 d ≤ bucket.2
    · rw [if_pos hd, if_pos (decide_eq_true hd)]
    · rw [if_neg hd, if_neg (by simpa using hd), Nat.add_zero]
  simp only [observeDuration, Option.getD_some, histogramOf, hcounts, List.length_append,
    List.length_singleton, List.map_append, List.map_singleton]

/-- A new series is one without durations. -/
theorem observeDuration_none (labels : Labels) (d : Rat) :
    observeDuration labels d none = observeDuration labels d (some (histogramOf labels [])) := rfl

theorem foldl_observeDuration {i : ι} {events : List (ι × Rat)} (h : ∀ e ∈ events, e.1 = i) :
    events.foldl (fun s e => some (observeDuration (labelsOf e.1) e.2 s)) none =
      if events = [] then none else some (histogramOf (labelsOf i) (events.map Prod.snd)) := by
  induction events using List.reverseRecOn with
  | nil => rfl
  | append_singleton events e ih =>
      have he : e.1 = i := h e (List.mem_append_right _ (List.mem_singleton_self e))
      rw [List.foldl_concat, ih fun f hf => h f (List.mem_append_left _ hf), he,
        if_neg (by simp : events ++ [e] ≠ []), List.map_append, List.map_singleton]
      split_ifs with hnil
      · rw [observeDuration_none, observeDuration_histogramOf, hnil, List.map_nil]
      · rw [observeDuration_histogramOf]

theorem get?_histogramRun [DecidableEq ι] (h : Separated localeCompare labelsOf)
    (events : List (ι × Rat)) (i : ι) :
    (histogramRun localeCompare labelsOf events).get? (canonicalKey localeCompare (labelsOf i)) =
      if i ∈ events.map Prod.fst then some (histogramOf (labelsOf i) (durationsOf events i))
      else none := by
  have hkey : (events.filter fun e =>
      canonicalKey localeCompare (labelsOf e.1) = canonicalKey localeCompare (labelsOf i)) =
      events.filter fun e => e.1 = i :=
    List.filter_congr fun e _ => decide_eq_decide.mpr ⟨h e.1 i, fun heq => heq ▸ rfl⟩
  have hsame : ∀ e ∈ events.filter fun e => e.1 = i, e.1 = i := fun e he =>
    of_decide_eq_true (List.mem_filter.mp he).2
  have hempty : (events.filter fun e => e.1 = i) = [] ↔ i ∉ events.map Prod.fst := by
    rw [List.filter_eq_nil_iff, List.mem_map]
    constructor
    · rintro hnone ⟨e, he, hei⟩
      exact hnone e he (decide_eq_true hei)
    · exact fun hnone e he hei => hnone ⟨e, he, of_decide_eq_true hei⟩
  rw [histogramRun, KeyedStore.get?_run, hkey, foldl_observeDuration hsame, durationsOf]
  by_cases hi : i ∈ events.map Prod.fst
  · rw [if_pos hi, if_neg fun hnil => hempty.mp hnil hi]
  · rw [if_neg hi, if_pos (hempty.mpr hi)]

/-- Every entry of a counter is the series of an event. -/
theorem mem_counterRun [DecidableEq ι] (h : Separated localeCompare labelsOf) {events : List ι}
    {e : JsString × CounterSeries}
    (he : e ∈ (counterRun localeCompare labelsOf events).entries) :
    ∃ i ∈ events, e = (canonicalKey localeCompare (labelsOf i), ⟨labelsOf i, events.count i⟩) := by
  obtain ⟨i, hi, hkey⟩ := KeyedStore.exists_event he
  have hget := KeyedStore.get?_eq_some_iff.mpr (show (e.1, e.2) ∈ _ from he)
  rw [← hkey, get?_counterRun h, if_pos hi, Option.some.injEq] at hget
  exact ⟨i, hi, Prod.ext hkey.symm hget.symm⟩

theorem mem_histogramRun [DecidableEq ι] (h : Separated localeCompare labelsOf)
    {events : List (ι × Rat)} {e : JsString × HistogramSeries}
    (he : e ∈ (histogramRun localeCompare labelsOf events).entries) :
    ∃ i ∈ events.map Prod.fst, e = (canonicalKey localeCompare (labelsOf i),
      histogramOf (labelsOf i) (durationsOf events i)) := by
  obtain ⟨event, hevent, hkey⟩ := KeyedStore.exists_event he
  have hi : event.1 ∈ events.map Prod.fst := List.mem_map_of_mem hevent
  have hget := KeyedStore.get?_eq_some_iff.mpr (show (e.1, e.2) ∈ _ from he)
  rw [← hkey, get?_histogramRun h, if_pos hi, Option.some.injEq] at hget
  exact ⟨event.1, hi, Prod.ext hkey.symm hget.symm⟩

end Series

/-! ## The page -/

section Page

variable (localeCompare : JsString → JsString → Int)

/-- A sample with the labels in the order of the page. -/
def sampleOf (name : JsString) (labels : Labels) (value : JsString) : Sample :=
  ⟨name, sortLabels localeCompare labels, value⟩

/-- The samples of counters. -/
def counterSamples (name : JsString) (store : KeyedStore JsString CounterSeries) : List Sample :=
  (getSortedCounterSeries localeCompare store).map fun series =>
    sampleOf localeCompare name series.labels (naturalText series.value)

/-- The samples of a histogram. -/
def seriesSamples (printer : SumPrinter) (series : HistogramSeries) : List Sample :=
  (List.zipWith (fun bucket count =>
      sampleOf localeCompare durationName (series.labels ++ [(units "le", bucket.1)])
        (naturalText count)) requestDurationBuckets series.bucketCounts) ++
    [sampleOf localeCompare durationName (series.labels ++ [(units "le", units "+Inf")])
        (naturalText series.count),
      sampleOf localeCompare (durationName ++ units "_sum") series.labels
        (printer.text series.sum),
      sampleOf localeCompare (durationName ++ units "_count") series.labels
        (naturalText series.count)]

/-- The samples of histograms. -/
def histogramSamples (printer : SumPrinter) (store : KeyedStore JsString HistogramSeries) :
    List Sample :=
  (getSortedHistogramSeries localeCompare store).flatMap (seriesSamples localeCompare printer)

/-- The samples of the page. -/
def metricSamples (printer : SumPrinter) (metrics : ApiMetrics) : List Sample :=
  counterSamples localeCompare requestsName metrics.requestTotal ++
    histogramSamples localeCompare printer metrics.requestDurationSeconds ++
    counterSamples localeCompare authFailuresName metrics.authFailuresTotal ++
    counterSamples localeCompare tokenFailuresName metrics.tokenIssuanceFailuresTotal

/-- The comments of a header, less their number signs. -/
def comments (header : List JsString) : List PageLine := header.map fun line => .comment line.tail

/-- The lines of the page. -/
def metricLines (printer : SumPrinter) (metrics : ApiMetrics) : List PageLine :=
  comments requestsHeader ++
    (counterSamples localeCompare requestsName metrics.requestTotal).map .sample ++
    comments durationHeader ++
    (histogramSamples localeCompare printer metrics.requestDurationSeconds).map .sample ++
    comments authFailuresHeader ++
    (counterSamples localeCompare authFailuresName metrics.authFailuresTotal).map .sample ++
    comments tokenFailuresHeader ++
    (counterSamples localeCompare tokenFailuresName metrics.tokenIssuanceFailuresTotal).map
      .sample

end Page

section Text

variable {localeCompare : JsString → JsString → Int}

theorem escapeLabelValue_eq (value : JsString) : escapeLabelValue value = escaped value := by
  have hslash : units "\\\\" = [92, 92] := by decide +kernel
  have hline : units "\\n" = [92, 110] := by decide +kernel
  have hquote : units "\\\"" = [92, 34] := by decide +kernel
  rw [escapeLabelValue, hslash, hline, hquote, replaceAll, replaceAll, replaceAll,
    List.flatMap_assoc, List.flatMap_assoc, escaped]
  refine congrArg (fun f => List.flatMap f value) (funext fun u => ?_)
  -- what the first replacement puts in holds neither a line feed nor a quote
  by_cases hu : u ∈ [escapeUnit, lineFeed, quotation]
  · simp only [List.mem_cons, List.not_mem_nil, or_false] at hu
    rcases hu with rfl | rfl | rfl <;> rfl
  · simp only [List.mem_cons, List.not_mem_nil, or_false, not_or] at hu
    obtain ⟨hescape, hfeed, hmark⟩ := hu
    have hslash : ¬ u = 92 := hescape
    have hten : ¬ u = 10 := hfeed
    have hfour : ¬ u = 34 := hmark
    rw [if_neg hescape, if_neg hfeed, if_neg hmark, if_neg hslash, List.flatMap_singleton,
      if_neg hten, List.flatMap_singleton, if_neg hfour]

theorem formatLabels_eq (labels : Labels) :
    formatLabels localeCompare labels = labelsText (sortLabels localeCompare labels) := by
  have hequals : units "=\"" = [61, quotation] := by decide +kernel
  have hquote : units "\"" = [quotation] := by decide +kernel
  have hcomma : units "," = [44] := by decide +kernel
  have hopen : units "\x7b" = [123] := by decide +kernel
  have hclose : units "\x7d" = [125] := by decide +kernel
  simp only [formatLabels, labelsText, List.length_eq_zero_iff, escapeLabelValue_eq,
    hequals, hquote, hcomma, hopen, hclose, List.append_assoc, List.cons_append, List.nil_append]
  rfl

theorem sampleLine_eq (name : JsString) (labels : Labels) (value : JsString) :
    sampleLine localeCompare name labels value =
      sampleText (sampleOf localeCompare name labels value) := by
  have hblank : units " " = [32] := by decide +kernel
  rw [sampleLine, formatLabels_eq, hblank, List.append_assoc _ [32], List.singleton_append]
  rfl

theorem renderPrometheus_eq (printer : SumPrinter) (metrics : ApiMetrics) :
    renderPrometheus localeCompare printer metrics =
      pageText (metricLines localeCompare printer metrics) := by
  have hfeed : units "\n" = [lineFeed] := by decide +kernel
  have hcounter : ∀ name store, (getSortedCounterSeries localeCompare store).map
      (counterLine localeCompare name) =
      ((counterSamples localeCompare name store).map PageLine.sample).map PageLine.text := by
    intro name store
    rw [counterSamples, List.map_map, List.map_map]
    exact List.map_congr_left fun series _ => sampleLine_eq _ _ _
  have hhistogram : ∀ store, (getSortedHistogramSeries localeCompare store).flatMap
      (histogramLines localeCompare printer) =
      ((histogramSamples localeCompare printer store).map PageLine.sample).map PageLine.text := by
    intro store
    rw [histogramSamples, List.map_flatMap, List.map_flatMap]
    refine congrArg (fun f => List.flatMap f _) (funext fun series => ?_)
    simp only [histogramLines, seriesSamples, List.map_append, List.map_zipWith, List.map_cons,
      List.map_nil, sampleLine_eq, PageLine.text]
  have hcomments : ∀ header : List JsString, (∀ line ∈ header, line.head? = some 35) →
      (comments header).map PageLine.text = header := by
    intro header hheader
    rw [comments, List.map_map]
    refine (List.map_congr_left fun line hline => ?_).trans (List.map_id header)
    exact List.cons_head?_tail (hheader line hline)
  rw [renderPrometheus, pageText, hfeed]
  refine congrArg (fun lines => [lineFeed].intercalate lines ++ [lineFeed]) ?_
  simp only [metricLines, List.map_append, ← hcounter, ← hhistogram]
  rw [hcomments requestsHeader (by decide +kernel), hcomments durationHeader (by decide +kernel),
    hcomments authFailuresHeader (by decide +kernel),
    hcomments tokenFailuresHeader (by decide +kernel)]

end Text

/-! ## The samples of a run -/

section Samples

variable {localeCompare : JsString → JsString → Int} {labelsOf : ι → Labels} {name : JsString}
  {printer : SumPrinter}

theorem mem_counterSamples [DecidableEq ι] (h : Separated localeCompare labelsOf)
    {events : List ι} {sample : Sample}
    (hsample : sample ∈ counterSamples localeCompare name
      (counterRun localeCompare labelsOf events)) :
    ∃ i ∈ events,
      sample = sampleOf localeCompare name (labelsOf i) (naturalText (events.count i)) := by
  obtain ⟨series, hseries, rfl⟩ := List.mem_map.mp hsample
  obtain ⟨e, he, rfl⟩ := List.mem_map.mp (List.mem_mergeSort.mp hseries)
  obtain ⟨i, hi, rfl⟩ := mem_counterRun h he
  exact ⟨i, hi, rfl⟩

theorem mem_histogramSamples [DecidableEq ι] (h : Separated localeCompare labelsOf)
    {events : List (ι × Rat)} {sample : Sample}
    (hsample : sample ∈ histogramSamples localeCompare printer
      (histogramRun localeCompare labelsOf events)) :
    ∃ i ∈ events.map Prod.fst, sample ∈ seriesSamples localeCompare printer
      (histogramOf (labelsOf i) (durationsOf events i)) := by
  obtain ⟨series, hseries, hmem⟩ := List.mem_flatMap.mp hsample
  obtain ⟨e, he, rfl⟩ := List.mem_map.mp (List.mem_mergeSort.mp hseries)
  obtain ⟨i, hi, rfl⟩ := mem_histogramRun h he
  exact ⟨i, hi, hmem⟩

/-- The samples of a bucket, one for each bound. -/
def bucketSample (localeCompare : JsString → JsString → Int) (labels : Labels)
    (durations : List Rat) (bucket : JsString × Rat) : Sample :=
  sampleOf localeCompare durationName (labels ++ [(units "le", bucket.1)])
    (naturalText (durations.countP fun d => max 0 d ≤ bucket.2))

theorem seriesSamples_histogramOf (labels : Labels) (durations : List Rat) :
    seriesSamples localeCompare printer (histogramOf labels durations) =
      requestDurationBuckets.map (bucketSample localeCompare labels durations) ++
        [sampleOf localeCompare durationName (labels ++ [(units "le", units "+Inf")])
            (naturalText durations.length),
          sampleOf localeCompare (durationName ++ units "_sum") labels
            (printer.text (durations.map fun d => max 0 d)),
          sampleOf localeCompare (durationName ++ units "_count") labels
            (naturalText durations.length)] := by
  rw [seriesSamples, histogramOf]
  dsimp only
  rw [List.zipWith_map_right, List.zipWith_self]
  rfl

/-- The names of the labels are names. -/
def Named (labels : Labels) : Prop :=
  ∀ label ∈ labels, IsNameOf isNameStart isNameUnit label.1

theorem Named.cons {label value : JsString} {labels : Labels} (h : Named labels)
    (hlabel : IsNameOf isNameStart isNameUnit label) : Named ((label, value) :: labels) :=
  List.forall_mem_cons.mpr ⟨hlabel, h⟩

theorem named_nil : Named [] := List.forall_mem_nil _

theorem named_statusLabels (status : Int) : Named (statusLabels status) :=
  named_nil.cons (by decide +kernel)

theorem named_endpointLabels (endpoint : Endpoint) : Named (endpointLabels endpoint) :=
  (named_statusLabels endpoint.status).cons (by decide +kernel)

theorem Named.withBound {labels : Labels} (h : Named labels) (le : JsString) :
    Named (labels ++ [(units "le", le)]) :=
  List.forall_mem_append.mpr ⟨h, named_nil.cons (by decide +kernel)⟩

theorem isValue_naturalText (n : Nat) : IsValue (naturalText n) := by
  refine ⟨naturalText_ne_nil n, fun u hu => ?_⟩
  obtain ⟨d, hd, rfl⟩ := isDigit_iff.mp (isDigits_naturalText n u hu)
  interval_cases d <;> decide

theorem writable_sampleOf {labels : Labels} {value : JsString}
    (hname : IsNameOf isMetricStart isMetricUnit name) (hlabels : Named labels)
    (hvalue : IsValue value) : Writable (sampleOf localeCompare name labels value) :=
  ⟨hname, fun label hlabel => hlabels label ((sortLabels_perm labels).mem_iff.mp hlabel), hvalue⟩

theorem writable_seriesSamples {labels : Labels} (h : Named labels) (durations : List Rat) :
    ∀ sample ∈ seriesSamples localeCompare printer (histogramOf labels durations),
      Writable sample := by
  have hname : IsNameOf isMetricStart isMetricUnit durationName := by decide +kernel
  have hsum : IsNameOf isMetricStart isMetricUnit (durationName ++ units "_sum") := by
    decide +kernel
  have hcount : IsNameOf isMetricStart isMetricUnit (durationName ++ units "_count") := by
    decide +kernel
  rw [seriesSamples_histogramOf, List.forall_mem_append]
  refine ⟨List.forall_mem_map.mpr fun bucket _ => ?_, ?_⟩
  · exact writable_sampleOf hname (h.withBound _) (isValue_naturalText _)
  · simp only [List.forall_mem_cons, List.not_mem_nil, false_implies, implies_true, and_true]
    exact ⟨writable_sampleOf hname (h.withBound _) (isValue_naturalText _),
      writable_sampleOf hsum h (printer.isValue _),
      writable_sampleOf hcount h (isValue_naturalText _)⟩

/-- The page of any run reads as its samples. -/
theorem readPage_renderPrometheus (calls : List MetricCall) :
    readPage (renderPrometheus localeCompare printer (runMetrics localeCompare calls)) =
      some (metricSamples localeCompare printer (runMetrics localeCompare calls)) := by
  have hcounter : ∀ {κ : Type} [DecidableEq κ] {labelsOf : κ → Labels} (_ : ∀ i, Named (labelsOf i))
      (_ : Separated localeCompare labelsOf) {name : JsString}
      (_ : IsNameOf isMetricStart isMetricUnit name) (events : List κ),
      ∀ line ∈ (counterSamples localeCompare name
        (counterRun localeCompare labelsOf events)).map PageLine.sample, line.Valid := by
    intro κ _ labelsOf hnamed hsep name hname events line hline
    obtain ⟨sample, hsample, rfl⟩ := List.mem_map.mp hline
    obtain ⟨i, -, rfl⟩ := mem_counterSamples hsep hsample
    exact writable_sampleOf hname (hnamed i) (isValue_naturalText _)
  have hhistogram : ∀ events, ∀ line ∈ (histogramSamples localeCompare printer
      (histogramRun localeCompare endpointLabels events)).map PageLine.sample, line.Valid := by
    intro events line hline
    obtain ⟨sample, hsample, rfl⟩ := List.mem_map.mp hline
    obtain ⟨i, -, hmem⟩ := mem_histogramSamples separated_endpointLabels hsample
    exact writable_seriesSamples (named_endpointLabels i) _ sample hmem
  have hcomments : ∀ header : List JsString, (∀ line ∈ header, lineFeed ∉ line.tail) →
      ∀ line ∈ comments header, line.Valid :=
    fun header hheader => List.forall_mem_map.mpr hheader
  have hsamples : ∀ samples : List Sample,
      (samples.map PageLine.sample).filterMap PageLine.sample? = samples := by
    intro samples
    rw [List.filterMap_map]
    exact List.filterMap_some
  have hnone : ∀ header : List JsString, (comments header).filterMap PageLine.sample? = [] := by
    intro header
    rw [comments, List.filterMap_map]
    exact List.filterMap_none header
  rw [renderPrometheus_eq, runMetrics_eq, readPage_pageText]
  · simp only [metricLines, List.filterMap_append, hnone, hsamples, List.nil_append,
      List.append_nil, metricSamples]
  · exact List.append_ne_nil_of_left_ne_nil (by simp [comments, requestsHeader]) _
  · simp only [metricLines, List.forall_mem_append]
    exact ⟨⟨⟨⟨⟨⟨⟨hcomments _ (by decide +kernel),
        hcounter named_endpointLabels separated_endpointLabels (by decide +kernel) _⟩,
        hcomments _ (by decide +kernel)⟩, hhistogram _⟩, hcomments _ (by decide +kernel)⟩,
        hcounter named_endpointLabels separated_endpointLabels (by decide +kernel) _⟩,
        hcomments _ (by decide +kernel)⟩,
        hcounter named_statusLabels separated_statusLabels (by decide +kernel) _⟩

end Samples

end LuxLedger.Http
