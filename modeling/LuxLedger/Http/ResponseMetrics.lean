/-
  Http/ResponseMetrics.lean --- what the metrics page says of the responses sent.

  Source: the `onResponse` hook of `registerApplication` in `server.ts`.  The hook runs
  once for every response; the log line that it writes is left out.
-/
import LuxLedger.Http.ErrorHandler
import LuxLedger.Http.MetricsReport
import LuxLedger.Javascript.Utf16

set_option autoImplicit false

namespace LuxLedger.Http

open Javascript JsString Foundation Foundation.Exposition

/-! ## The hook -/

/-- What the hook reads: the request with its decorations, and the reply. -/
structure Response where
  request : FailedRequest
  statusCode : Int
  durationSeconds : Rat

/-- The calls of the hook. -/
def onResponse (response : Response) : List MetricCall :=
  let route := resolveRouteLabel response.request
  let status := response.statusCode
  [.observeRequest (units route) status response.durationSeconds] ++
    (if 400 ≤ status ∧ route = TOKEN_ENDPOINT then
      [.incrementTokenIssuanceFailure status] else []) ++
    (if (status = 401 ∨ status = 403) ∧ startsWith route V1_ROUTE_PREFIX = true then
      [.incrementAuthFailure (units route) status] else [])

/-- The responses under a label with a status. -/
def responsesOf (route : String) (status : Int) (responses : List Response) : Nat :=
  responses.countP fun response =>
    resolveRouteLabel response.request = route ∧ response.statusCode = status

/-! ## Counting the calls of all responses -/

section Counting

variable {responses : List Response}

/-- A call that a response makes once, exactly if it meets a condition. -/
theorem countP_onResponse {counted : MetricCall → Bool} {q : Response → Bool}
    (h : ∀ response, (onResponse response).countP counted = if q response then 1 else 0) :
    (responses.flatMap onResponse).countP counted = responses.countP q := by
  induction responses with
  | nil => rfl
  | cons response rest ih =>
      rw [List.flatMap_cons, List.countP_append, ih, h, List.countP_cons, Nat.add_comm]

theorem countP_requests (route : String) (status : Int) :
    (responses.flatMap onResponse).countP (SeriesKey.requests ⟨units route, status⟩).counts =
      responsesOf route status responses := by
  refine countP_onResponse fun response => ?_
  simp only [onResponse, List.countP_append]
  split_ifs <;> simp_all [SeriesKey.counts, SeriesKey.concerns]

/-- Under a label and with a status that the hook reports as an authentication failure. -/
def AuthFails (route : String) (status : Int) : Prop :=
  (status = 401 ∨ status = 403) ∧ startsWith route V1_ROUTE_PREFIX = true

instance (route : String) (status : Int) : Decidable (AuthFails route status) :=
  inferInstanceAs (Decidable (_ ∧ _))

theorem countP_authFailures (route : String) (status : Int) :
    (responses.flatMap onResponse).countP (SeriesKey.authFailures ⟨units route, status⟩).counts =
      if AuthFails route status then responsesOf route status responses else 0 := by
  have hcount : (responses.flatMap onResponse).countP
        (SeriesKey.authFailures ⟨units route, status⟩).counts =
      responses.countP fun response => AuthFails route status ∧
        resolveRouteLabel response.request = route ∧ response.statusCode = status := by
    refine countP_onResponse fun response => ?_
    by_cases hsame : resolveRouteLabel response.request = route ∧ response.statusCode = status
    · obtain ⟨rfl, rfl⟩ := hsame
      simp only [onResponse, List.countP_append, AuthFails]
      split_ifs <;> simp_all [SeriesKey.counts, SeriesKey.concerns]
    · simp only [onResponse, List.countP_append]
      split_ifs <;> simp_all [SeriesKey.counts, SeriesKey.concerns]
  rw [hcount]
  split_ifs with hfails
  · simp only [hfails, true_and, responsesOf]
  · simp [hfails]

theorem countP_tokenFailures (status : Int) :
    (responses.flatMap onResponse).countP (SeriesKey.tokenFailures status).counts =
      if 400 ≤ status then responsesOf TOKEN_ENDPOINT status responses else 0 := by
  have hcount : (responses.flatMap onResponse).countP (SeriesKey.tokenFailures status).counts =
      responses.countP fun response => 400 ≤ status ∧
        resolveRouteLabel response.request = TOKEN_ENDPOINT ∧ response.statusCode = status := by
    refine countP_onResponse fun response => ?_
    by_cases hstatus : response.statusCode = status
    · subst hstatus
      simp only [onResponse, List.countP_append]
      split_ifs <;> simp_all [SeriesKey.counts, SeriesKey.concerns]
    · simp only [onResponse, List.countP_append]
      split_ifs <;> simp_all [SeriesKey.counts, SeriesKey.concerns]
  rw [hcount]
  split_ifs with hfailed
  · simp only [hfailed, true_and, responsesOf]
  · simp [hfailed]

end Counting

/-! ## The page -/

/-- How the page shows a number of calls. -/
def countText (n : Nat) : List JsString := if 0 < n then [naturalText n] else []

/-- The page and the responses. -/
structure Accounts (page : List Sample) (responses : List Response) : Prop where
  /-- each label and status of a response is there once, with the number of its responses -/
  requests : ∀ route status, valuesOf page (.requests ⟨units route, status⟩) =
    countText (responsesOf route status responses)
  /-- the histogram counts the same responses -/
  durations : ∀ endpoint, valuesOf page (.durationCount endpoint) =
    valuesOf page (.requests endpoint)
  /-- the authentication failures are the 401 and 403 responses under `/v1/`, all of them -/
  authFailures : ∀ route status, valuesOf page (.authFailures ⟨units route, status⟩) =
    if AuthFails route status then valuesOf page (.requests ⟨units route, status⟩) else []
  /-- the failed token issuances are the responses of the token endpoint from 400 on -/
  tokenFailures : ∀ status, valuesOf page (.tokenFailures status) =
    if 400 ≤ status then valuesOf page (.requests ⟨units TOKEN_ENDPOINT, status⟩) else []

/-- A series other than a bucket shows its calls. -/
theorem shown_countText {calls : List MetricCall} {key : SeriesKey}
    (hkey : key.isBucket = false) :
    (if key.shown calls then [naturalText (calls.countP key.counts)] else []) =
      countText (calls.countP key.counts) := by
  rw [countText]
  by_cases hshown : key.shown calls = true
  · rw [if_pos hshown, if_pos ((shown_iff_count_pos calls hkey).mp hshown)]
  · rw [if_neg hshown, if_neg (mt (shown_iff_count_pos calls hkey).mpr hshown)]

/-- After any responses the page reads as an account of them: it counts the responses of each
label and status, and its four families never disagree, as the failures that it reports are
exactly the responses with a failure status that it counts. -/
theorem responses_accounted (localeCompare : JsString → JsString → Int) (printer : SumPrinter)
    (responses : List Response) :
    ∃ page, readPage (renderPrometheus localeCompare printer
        (runMetrics localeCompare (responses.flatMap onResponse))) = some page ∧
      Accounts page responses := by
  refine ⟨_, readPage_renderPrometheus _, ?_⟩
  have hrequests : ∀ route status, valuesOf (metricSamples localeCompare printer
        (runMetrics localeCompare (responses.flatMap onResponse)))
          (.requests ⟨units route, status⟩) =
      countText (responsesOf route status responses) := by
    intro route status
    rw [valuesOf_requests, shown_countText rfl, countP_requests]
  constructor
  · exact hrequests
  · intro endpoint
    rw [valuesOf_durationCount, shown_durationCount, counts_durationCount, valuesOf_requests]
  · intro route status
    rw [valuesOf_authFailures, shown_countText rfl, countP_authFailures, hrequests]
    split_ifs
    · rfl
    · rfl
  · intro status
    rw [valuesOf_tokenFailures, shown_countText rfl, countP_tokenFailures, hrequests]
    split_ifs
    · rfl
    · rfl

/-- A refused token request, and one that is served. -/
def Sample.responses : List Response :=
  [⟨{ failedRequest with routeTemplate := some TOKEN_ENDPOINT }, 401, double (5 / 1000)⟩,
    ⟨{ failedRequest with routeTemplate := some "/v1/ledgers" }, 200, 2⟩]

/-- The refused token request is a failed issuance and an authentication failure. -/
theorem responses_accounted_sample :
    ∃ page, readPage (renderPrometheus Sample.byCodeUnits Sample.wholeSums
        (runMetrics Sample.byCodeUnits (Sample.responses.flatMap onResponse))) = some page ∧
      valuesOf page (.tokenFailures 401) = [units "1"] ∧
      valuesOf page (.authFailures ⟨units TOKEN_ENDPOINT, 401⟩) = [units "1"] ∧
      valuesOf page (.authFailures ⟨units "/v1/ledgers", 200⟩) = [] := by
  obtain ⟨page, hpage, haccounts⟩ :=
    responses_accounted Sample.byCodeUnits Sample.wholeSums Sample.responses
  have hrefused : valuesOf page (.requests ⟨units TOKEN_ENDPOINT, 401⟩) = [units "1"] := by
    rw [haccounts.requests]
    decide +kernel
  refine ⟨page, hpage, ?_, ?_, ?_⟩
  · rw [haccounts.tokenFailures, if_pos (by decide), hrefused]
  · rw [haccounts.authFailures, if_pos (by decide +kernel), hrefused]
  · rw [haccounts.authFailures, if_neg (by decide +kernel)]

end LuxLedger.Http
