/-
  Http/ErrorHandler.lean --- what becomes of a thrown value.

  Source: `setErrorHandler`, `isValidationError`, `resolveRouteLabel` and
  `buildRequestLogContext` in `server.ts`; `errors/send-domain-error.ts`;
  `errors/rate-limit-exceeded-error.ts`.  Anything can be thrown, and the handler
  tells errors apart by their shape.  Properties are data properties, so reading one
  does not throw.
-/
import LuxLedger.Http.Server

set_option autoImplicit false

namespace LuxLedger.Http

/-! ## Thrown values -/

/-- A number of JavaScript. -/
inductive Number where
  | finite (value : Rat)
  | infinity (negative : Bool)
  | nan
  deriving DecidableEq, Repr

/-- A JavaScript value.  The properties of an object are those that `in` finds, its own
and the inherited ones. -/
inductive Value where
  | undefined
  | null
  | boolean (value : Bool)
  | number (value : Number)
  | bigint (value : Int)
  | string (value : String)
  | symbol (description : String)
  | function (properties : List (String × Value))
  | object (properties : List (String × Value))
  /-- an instance of the class `RateLimitExceededError` -/
  | rateLimitExceededError (retryAfterSeconds : Int)

/-- `RATE_LIMIT_EXCEEDED_ERROR_CODE`. -/
def RATE_LIMIT_EXCEEDED_ERROR_CODE : String := "RATE_LIMIT_EXCEEDED"

/-- `RATE_LIMIT_EXCEEDED_ERROR_MESSAGE`. -/
def RATE_LIMIT_EXCEEDED_ERROR_MESSAGE : String := "Rate limit exceeded"

namespace Value

/-- The properties that `in` finds; the constructor of `RateLimitExceededError` sets those
of its instances. -/
def properties : Value → List (String × Value)
  | .object properties | .function properties => properties
  | .rateLimitExceededError retryAfterSeconds =>
      [("message", .string RATE_LIMIT_EXCEEDED_ERROR_MESSAGE),
        ("code", .string RATE_LIMIT_EXCEEDED_ERROR_CODE),
        ("name", .string "RateLimitExceededError"),
        ("retryAfterSeconds", .number (.finite retryAfterSeconds))]
  | _ => []

/-- `typeof value === 'object' && value !== null`. -/
def isObject : Value → Bool
  | .object _ | .rateLimitExceededError _ => true
  | _ => false

/-- `typeof value === 'string'`. -/
def isString : Value → Bool
  | .string _ => true
  | _ => false

/-- `typeof value === 'number'`. -/
def isNumber : Value → Bool
  | .number _ => true
  | _ => false

/-- `name in value`. -/
def has (value : Value) (name : String) : Bool :=
  value.properties.any fun property => property.1 = name

/-- `value.name`. -/
def get (value : Value) (name : String) : Value :=
  match value.properties.find? fun property => property.1 = name with
  | some property => property.2
  | none => .undefined

end Value

/-! ## Replies and the log -/

/-- What is sent: `reply.status(status).send(body)`, with the headers set before. -/
structure Reply where
  status : Number
  headers : List (String × String)
  body : List (String × Value)

/-- What the error handler reads of a request. -/
structure FailedRequest where
  id : String
  request : Request
  context : RequestContext
  /-- `routeOptions.url` -/
  routeTemplate : Option String

/-- `RequestLogContext`. -/
structure RequestLogContext where
  requestId : String
  tenantId : Option String
  apiKeyId : Option String
  route : String
  deriving DecidableEq, Repr

/-- An entry of `request.log.error`. -/
structure LogEntry where
  context : RequestLogContext
  err : Value
  message : String

/-- `resolveRouteLabel`. -/
def resolveRouteLabel (failed : FailedRequest) : String :=
  match failed.routeTemplate with
  | some routeTemplate =>
      if 0 < routeTemplate.length then routeTemplate
      else failed.context.apiPath.getD (routePath failed.request.url)
  | none => failed.context.apiPath.getD (routePath failed.request.url)

/-- `buildRequestLogContext`. -/
def buildRequestLogContext (failed : FailedRequest) (route : String) : RequestLogContext where
  requestId := failed.id
  tenantId := failed.context.tenantId
  apiKeyId := failed.context.apiKeyId
  route := route

/-! ## The shapes of errors -/

/-- `isValidationError`. -/
def isValidationError (error : Value) : Bool :=
  error.isObject && error.has "validation" && error.has "message" && (error.get "message").isString

/-- `hasCode` of the error handler. -/
def hasCode (error : Value) : Bool :=
  error.isObject && error.has "code" && (error.get "code").isString

/-- `isErrorWithCodeAndStatus`. -/
def isErrorWithCodeAndStatus (error : Value) : Bool :=
  error.isObject && error.has "code" && (error.get "code").isString &&
    error.has "httpStatus" && (error.get "httpStatus").isNumber &&
    error.has "message" && (error.get "message").isString

/-- `isErrorWithCode`. -/
def isErrorWithCode (error : Value) : Bool :=
  error.isObject && error.has "code" && (error.get "code").isString &&
    error.has "message" && (error.get "message").isString

/-- `parseHttpStatusFromCode`: three decimal digits, from 400 to 599. -/
def parseHttpStatusFromCode (code : Value) : Option Nat :=
  match code with
  | .string text =>
      if text.length = 3 ∧ text.toList.all (fun c => '0' ≤ c && c ≤ '9') = true then
        let status := text.toList.foldl (fun value c => 10 * value + (c.toNat - '0'.toNat)) 0
        if status < 400 ∨ 599 < status then none else some status
      else none
  | _ => none

/-! ## The error handler -/

/-- The reply to what is not recognised. -/
def internalServerError : Reply where
  status := .finite 500
  headers := []
  body := [("error", .string "INTERNAL_ERROR"), ("message", .string "Internal server error")]

/-- `sendDomainError`. -/
def sendDomainError (error : Value) : Reply :=
  if isErrorWithCodeAndStatus error then
    { status := match error.get "httpStatus" with
        | .number status => status
        | _ => .nan
      headers := []
      body := [("error", error.get "code"), ("message", error.get "message")] ++
        match error.get "details" with
        | .undefined => []
        | details => [("details", details)] }
  else if isErrorWithCode error then
    { status := .finite ((parseHttpStatusFromCode (error.get "code")).getD 500 : Nat)
      headers := []
      body := [("error", error.get "code"), ("message", error.get "message")] }
  else internalServerError

/-- The log entry of an unhandled error. -/
def unhandledRouteError (failed : FailedRequest) (error : Value) : LogEntry where
  context := buildRequestLogContext failed (resolveRouteLabel failed)
  err := error
  message := "Unhandled route error"

/-- `setErrorHandler`: the reply and what is logged. -/
def handleError (failed : FailedRequest) (error : Value) : Reply × List LogEntry :=
  match error with
  | .rateLimitExceededError retryAfterSeconds =>
      ({ status := .finite 429
         headers := [("retry-after", toString retryAfterSeconds)]
         body := [("error", error.get "code"), ("message", error.get "message"),
           ("retry_after_seconds", error.get "retryAfterSeconds")] }, [])
  | _ =>
      if isValidationError error then
        ({ status := .finite 400
           headers := []
           body := [("error", .string "INVALID_INPUT"), ("message", error.get "message")] }, [])
      else (sendDomainError error, if hasCode error then [] else [unhandledRouteError failed error])

/-! ## Unexpected errors -/

/-- Neither a rate limit, nor a schema validation, nor a domain error. -/
structure Unexpected (error : Value) : Prop where
  notRateLimit : ∀ retryAfterSeconds, error ≠ .rateLimitExceededError retryAfterSeconds
  notValidation : isValidationError error = false
  notDomain : isErrorWithCodeAndStatus error = false

/-- Nothing of the error is replied, and the error is logged. -/
structure Hidden (failed : FailedRequest) (error : Value) : Prop where
  reply : (handleError failed error).1 = internalServerError
  logged : ∃ entry ∈ (handleError failed error).2, entry.err = error

section Unexpected

variable {failed : FailedRequest} {error : Value}

/-- The reply and the log of an unexpected error. -/
theorem Unexpected.handleError_eq (h : Unexpected error) :
    handleError failed error = (sendDomainError error,
      if hasCode error then [] else [unhandledRouteError failed error]) := by
  unfold handleError
  split
  · exact absurd rfl (h.notRateLimit _)
  · rw [h.notValidation]
    rfl

theorem hasCode_of_isErrorWithCode (h : isErrorWithCode error = true) : hasCode error = true := by
  simp only [isErrorWithCode, Bool.and_eq_true] at h
  simp only [hasCode, Bool.and_eq_true]
  exact h.1.1

/-- Without a code the reply is the generic one. -/
theorem Unexpected.sendDomainError_eq (h : Unexpected error) (hcode : hasCode error = false) :
    sendDomainError error = internalServerError := by
  have hshape : isErrorWithCode error = false := by
    rw [Bool.eq_false_iff] at hcode ⊢
    exact fun hshape => hcode (hasCode_of_isErrorWithCode hshape)
  rw [sendDomainError, h.notDomain, hshape]
  rfl

/-- The error is logged, with the context of its request, exactly when it has no code. -/
theorem Unexpected.logged_iff (h : Unexpected error) :
    (∃ entry ∈ (handleError failed error).2, entry.err = error) ↔ hasCode error = false := by
  rw [h.handleError_eq]
  cases hcode : hasCode error with
  | true => simp
  | false => simp [unhandledRouteError]

theorem Unexpected.reply_eq (h : Unexpected error) (hcode : hasCode error = false) :
    (handleError failed error).1 = internalServerError := by
  rw [h.handleError_eq]
  exact h.sendDomainError_eq hcode

/-- An unexpected error is hidden exactly when it has no string `code`. -/
theorem unexpected_hidden_iff (failed : FailedRequest) (h : Unexpected error) :
    Hidden failed error ↔ hasCode error = false := by
  constructor
  · exact fun hhidden => h.logged_iff.mp hhidden.logged
  · intro hcode
    exact ⟨h.reply_eq hcode, h.logged_iff.mpr hcode⟩

end Unexpected

/-- A request for the accounts of a ledger. -/
def Sample.failedRequest : FailedRequest where
  id := "request-1"
  request := ⟨"GET", "/v1/ledgers/1/accounts", "127.0.0.1", none, none⟩
  context := ⟨some "/v1/ledgers/1/accounts", some "tenant", some "key", some .service⟩
  routeTemplate := some "/v1/ledgers/:ledger_id/accounts"

/-- An error without a code, as `new TypeError(message)`. -/
def Sample.typeError : Value :=
  .object [("name", .string "TypeError"), ("message", .string "x is not a function")]

theorem unexpected_hidden_iff_sample : Hidden Sample.failedRequest Sample.typeError :=
  (unexpected_hidden_iff Sample.failedRequest
    ⟨fun _ h => Value.noConfusion h, by decide, by decide⟩).mpr (by decide)

/-- The error of PostgreSQL for a violated unique constraint. -/
def Sample.uniqueViolation : Value :=
  .object [("name", .string "PostgresError"), ("code", .string "23505"),
    ("message", .string
      "duplicate key value violates unique constraint \"demo_sessions_token_hash_unique\"")]

/-- The error of PostgreSQL is replied with its code and its message, and not logged. -/
theorem uniqueViolation_leaks :
    Unexpected Sample.uniqueViolation ∧
      (handleError Sample.failedRequest Sample.uniqueViolation).1.body =
        [("error", .string "23505"), ("message", .string
          "duplicate key value violates unique constraint \"demo_sessions_token_hash_unique\"")] ∧
      (handleError Sample.failedRequest Sample.uniqueViolation).2 = [] ∧
      ¬ Hidden Sample.failedRequest Sample.uniqueViolation := by
  have hunexpected : Unexpected Sample.uniqueViolation :=
    ⟨fun _ h => Value.noConfusion h, by decide, by decide⟩
  refine ⟨hunexpected, by rfl, by rfl, fun hhidden => ?_⟩
  exact absurd (hunexpected.logged_iff.mp hhidden.logged) (by decide)

end LuxLedger.Http
