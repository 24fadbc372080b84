/-
  Http/Environment.lean --- the configuration of the server, read from its environment.

  Source: `auth/policy.ts`, `rate-limit/policy.ts`, `utils/parse-integer-with-range.ts`.
  An error is its message.
-/
import LuxLedger.Http.TokenLifetime
import LuxLedger.Http.FixedWindowLimiter
import LuxLedger.Javascript.NumericText

set_option autoImplicit false

namespace LuxLedger.Http

open LuxLedger.Foundation LuxLedger.Javascript LuxLedger.Relational

/-- `process.env`. -/
abbrev ProcessEnv := String → Option String

/-! ## Integers -/

/-- The options of `parseIntegerWithinRange`. -/
structure ParseIntegerWithinRangeOptions where
  defaultValue : Int
  min : Option Int
  max : Option Int
  errorMessage : String

namespace ParseIntegerWithinRangeOptions

/-- A value that both bounds admit. -/
def Admits (options : ParseIntegerWithinRangeOptions) (n : Int) : Prop :=
  (∀ min ∈ options.min, min ≤ n) ∧ ∀ max ∈ options.max, n ≤ max

end ParseIntegerWithinRangeOptions

/-- `parseIntegerWithinRange`. -/
def parseIntegerWithinRange (value : Option String) (options : ParseIntegerWithinRangeOptions) :
    Except String Int :=
  match value with
  | none => .ok options.defaultValue
  | some text =>
    match (number (units text)).integer? with
    | none => .error options.errorMessage
    | some parsed => do
        require (∀ min ∈ options.min, min ≤ parsed) options.errorMessage
        require (∀ max ∈ options.max, parsed ≤ max) options.errorMessage
        return parsed

/-- What is read is within the range, as long as the default is. -/
theorem parseIntegerWithinRange_admits {value : Option String}
    {options : ParseIntegerWithinRangeOptions} {n : Int}
    (hdefault : options.Admits options.defaultValue)
    (h : parseIntegerWithinRange value options = .ok n) : options.Admits n := by
  unfold parseIntegerWithinRange at h
  split at h
  · cases h
    exact hdefault
  · split at h
    · cases h
    · simp only [bind_eq_ok_iff, require_eq_ok_iff] at h
      obtain ⟨-, hmin, -, hmax, hn⟩ := h
      cases hn
      exact ⟨hmin, hmax⟩

/-- The decimal text of a number. -/
def decimalText (n : Nat) : String :=
  String.ofList ((figures 10 n).map fun d => Char.ofNat (48 + d))

theorem units_decimalText (n : Nat) : units (decimalText n) = naturalText n := by
  have hdigit : ∀ d, d < 10 → encodeChar (Char.ofNat (48 + d)) = [digitUnit d] := by decide
  rw [units, decimalText, String.toList_ofList, List.flatMap_map, naturalText,
    List.map_eq_flatMap]
  exact List.flatMap_congr fun d hd => hdigit d (figures_lt (by decide) hd)

/-- The text of a number in the range is read as the number. -/
theorem parseIntegerWithinRange_decimalText {n : Nat} {options : ParseIntegerWithinRangeOptions}
    (hn : n < 2 ^ 53) (hadmits : options.Admits n) :
    parseIntegerWithinRange (some (decimalText n)) options = .ok n := by
  have hinteger : (number (units (decimalText n))).integer? = some (n : Int) := by
    rw [units_decimalText, number_naturalText hn]
    rfl
  rw [parseIntegerWithinRange]
  simp only [hinteger, bind_eq_ok_iff, require_eq_ok_iff]
  exact ⟨(), hadmits.1, (), hadmits.2, rfl⟩

/-! ## Rate limits -/

/-- `parsePositiveInteger`. -/
def positiveIntegerOptions (name : String) (defaultValue : Nat) : ParseIntegerWithinRangeOptions :=
  ⟨defaultValue, some 1, none, name ++ " must be a positive integer"⟩

theorem positive_of_parsed {value : Option String} {name : String} {defaultValue : Nat} {n : Int}
    (hdefault : 0 < defaultValue)
    (h : parseIntegerWithinRange value (positiveIntegerOptions name defaultValue) = .ok n) :
    0 < n.toNat := by
  have hadmits := parseIntegerWithinRange_admits
    ⟨fun min hmin => by cases hmin; exact Int.ofNat_le.mpr hdefault, fun max hmax => by cases hmax⟩ h
  have hmin : 1 ≤ n := hadmits.1 1 rfl
  omega

/-- What `parsePositiveInteger` returns carries that it is positive. -/
def parsePositiveInteger (value : Option String) (name : String) (defaultValue : Nat)
    (hdefault : 0 < defaultValue) : Except String { n : Nat // 0 < n } :=
  match h : parseIntegerWithinRange value (positiveIntegerOptions name defaultValue) with
  | .error message => .error message
  | .ok n => .ok ⟨n.toNat, positive_of_parsed hdefault h⟩

/-- The token requests of a window. -/
def DEFAULT_AUTH_TOKEN_RATE_LIMIT_MAX_REQUESTS : Nat := 20

/-- The window of token requests, in seconds. -/
def DEFAULT_AUTH_TOKEN_RATE_LIMIT_WINDOW_SECONDS : Nat := 60

/-- The writes of a window. -/
def DEFAULT_WRITE_RATE_LIMIT_MAX_REQUESTS : Nat := 120

/-- The window of writes, in seconds. -/
def DEFAULT_WRITE_RATE_LIMIT_WINDOW_SECONDS : Nat := 60

/-- `parseRateLimitConfig`. -/
def parseRateLimitConfig (env : ProcessEnv) : Except String RateLimitConfig := do
  let authMax ← parsePositiveInteger (env "RATE_LIMIT_AUTH_TOKEN_MAX_REQUESTS")
    "RATE_LIMIT_AUTH_TOKEN_MAX_REQUESTS" DEFAULT_AUTH_TOKEN_RATE_LIMIT_MAX_REQUESTS (by decide)
  let authWindow ← parsePositiveInteger (env "RATE_LIMIT_AUTH_TOKEN_WINDOW_SECONDS")
    "RATE_LIMIT_AUTH_TOKEN_WINDOW_SECONDS" DEFAULT_AUTH_TOKEN_RATE_LIMIT_WINDOW_SECONDS (by decide)
  let writeMax ← parsePositiveInteger (env "RATE_LIMIT_WRITE_MAX_REQUESTS")
    "RATE_LIMIT_WRITE_MAX_REQUESTS" DEFAULT_WRITE_RATE_LIMIT_MAX_REQUESTS (by decide)
  let writeWindow ← parsePositiveInteger (env "RATE_LIMIT_WRITE_WINDOW_SECONDS")
    "RATE_LIMIT_WRITE_WINDOW_SECONDS" DEFAULT_WRITE_RATE_LIMIT_WINDOW_SECONDS (by decide)
  return ⟨⟨authMax.val, authWindow.val, authMax.property, authWindow.property⟩,
    ⟨writeMax.val, writeWindow.val, writeMax.property, writeWindow.property⟩⟩

/-! ## Signing keys -/

/-- `MIN_JWT_SIGNING_KEY_BYTES`. -/
def MIN_JWT_SIGNING_KEY_BYTES : Nat := 32

/-- `JWT_SIGNING_KEY_PATTERN`: `/^[A-Za-z0-9_-]+$/`. -/
def matchesSigningKeyPattern (value : String) : Bool :=
  value ≠ "" && value.toList.all fun c => c.isAlphanum || c = '_' || c = '-'

/-- `requireNonEmptyEnv`. -/
def requireNonEmptyEnv (value : Option String) (name : String) : Except String String :=
  match value with
  | none => .error (name ++ " is required")
  | some value => do
      require (trim value ≠ "") (name ++ " is required")
      return trim value

/-- `parseJwtSigningKey`. -/
def parseJwtSigningKey (value name : String) : Except String String := do
  let message := name ++ " must be an unpadded base64url string representing at least " ++
    decimalText MIN_JWT_SIGNING_KEY_BYTES ++ " random bytes"
  require (matchesSigningKeyPattern value = true) message
  let decodedValue := base64UrlBytes value
  let normalizedValue := base64Url decodedValue
  require (normalizedValue = value ∧ MIN_JWT_SIGNING_KEY_BYTES ≤ decodedValue.length) message
  return value

/-- The base64url text of enough bytes. -/
def IsSigningKey (value : String) : Prop :=
  ∃ bytes : List UInt8, MIN_JWT_SIGNING_KEY_BYTES ≤ bytes.length ∧ value = base64Url bytes

section SigningKeys

variable {value name key : String}

theorem mem_base64Url {bytes : List UInt8} {c : Char} (h : c ∈ (base64Url bytes).toList) :
    (c.isAlphanum || c = '_' || c = '-') = true ∧ isWhiteSpace c = false ∧ c ≠ ',' := by
  have hall : ∀ i : Fin 64, ((sextetChar i).isAlphanum || sextetChar i = '_' || sextetChar i = '-') =
      true ∧ isWhiteSpace (sextetChar i) = false ∧ sextetChar i ≠ ',' := by decide +kernel
  rw [base64Url, String.toList_ofList, List.mem_map] at h
  obtain ⟨sextet, hsextet, rfl⟩ := h
  exact hall ⟨sextet, toSextets_lt (toNat_lt_of_mem bytes) sextet hsextet⟩

theorem IsSigningKey.ne_empty (h : IsSigningKey value) : value ≠ "" := by
  obtain ⟨bytes, hlength, rfl⟩ := h
  refine base64Url_ne_empty fun hnil => ?_
  rw [hnil] at hlength
  exact absurd hlength (by decide)

theorem IsSigningKey.trim_eq (h : IsSigningKey value) : trim value = value := by
  obtain ⟨bytes, -, rfl⟩ := h
  apply trim_eq_self
  rw [List.all_eq_true]
  intro c hc
  rw [(mem_base64Url hc).2.1]
  rfl

theorem IsSigningKey.comma_not_mem (h : IsSigningKey value) : ',' ∉ value.toList := by
  obtain ⟨bytes, -, rfl⟩ := h
  exact fun hmem => (mem_base64Url hmem).2.2 rfl

/-- A key is accepted when its text is the one of its bytes, and these are enough. -/
theorem parseJwtSigningKey_eq_ok_iff :
    parseJwtSigningKey value name = .ok key ↔ key = value ∧ IsSigningKey value := by
  simp only [parseJwtSigningKey, bind_eq_ok_iff, require_eq_ok_iff]
  constructor
  · rintro ⟨-, -, -, ⟨hnormal, hlength⟩, hkey⟩
    cases hkey
    exact ⟨rfl, base64UrlBytes value, hlength, hnormal.symm⟩
  · rintro ⟨rfl, hkey⟩
    have hne := hkey.ne_empty
    obtain ⟨bytes, hlength, rfl⟩ := hkey
    have hmatches : matchesSigningKeyPattern (base64Url bytes) = true := by
      rw [matchesSigningKeyPattern, Bool.and_eq_true, decide_eq_true_eq, List.all_eq_true]
      exact ⟨hne, fun c hc => (mem_base64Url hc).1⟩
    rw [base64UrlBytes_base64Url]
    exact ⟨(), hmatches, (), ⟨rfl, hlength⟩, rfl⟩

/-- The body of the loop of `parseJwtPreviousSigningKeys`, on the keys so far. -/
def addPreviousSigningKey (signingKey : String) (uniqueKeys : List String) (key : String) :
    Except String (List String) := do
  let parsedKey ← parseJwtSigningKey key "JWT_PREVIOUS_SIGNING_KEYS"
  require (parsedKey ≠ signingKey) "JWT_PREVIOUS_SIGNING_KEYS must not include JWT_SIGNING_KEY"
  require (parsedKey ∉ uniqueKeys) "JWT_PREVIOUS_SIGNING_KEYS must not contain duplicate keys"
  return uniqueKeys ++ [parsedKey]

/-- `parseJwtPreviousSigningKeys`. -/
def parseJwtPreviousSigningKeys (value : Option String) (signingKey : String) :
    Except String (List String) :=
  match value with
  | none => .ok []
  | some value =>
    if trim value = "" then .ok []
    else do
      let keys := (split value ',').map trim
      require (∀ key ∈ keys, key ≠ "") "JWT_PREVIOUS_SIGNING_KEYS must not contain empty entries"
      keys.foldlM (addPreviousSigningKey signingKey) []

theorem addPreviousSigningKey_eq_ok_iff {signingKey : String} {uniqueKeys uniqueKeys' : List String} :
    addPreviousSigningKey signingKey uniqueKeys key = .ok uniqueKeys' ↔
      uniqueKeys' = uniqueKeys ++ [key] ∧ IsSigningKey key ∧ key ≠ signingKey ∧
        key ∉ uniqueKeys := by
  simp only [addPreviousSigningKey, bind_eq_ok_iff, require_eq_ok_iff,
    parseJwtSigningKey_eq_ok_iff]
  constructor
  · rintro ⟨_, ⟨rfl, hkey⟩, -, hother, -, hnew, h⟩
    cases h
    exact ⟨rfl, hkey, hother, hnew⟩
  · rintro ⟨rfl, hkey, hother, hnew⟩
    exact ⟨key, ⟨rfl, hkey⟩, (), hother, (), hnew, rfl⟩

/-- The loop accepts distinct keys other than the current one, and returns them in order. -/
theorem addPreviousSigningKeys_eq_ok_iff {signingKey : String} {keys before after : List String}
    (hbefore : before.Nodup) :
    keys.foldlM (addPreviousSigningKey signingKey) before = .ok after ↔
      after = before ++ keys ∧ (∀ key ∈ keys, IsSigningKey key) ∧ signingKey ∉ keys ∧
        (before ++ keys).Nodup := by
  induction keys generalizing before with
  | nil =>
      rw [foldlM_nil_eq_ok_iff, List.append_nil]
      exact ⟨fun h => ⟨h.symm, fun _ hkey => absurd hkey List.not_mem_nil, List.not_mem_nil,
        hbefore⟩, fun h => h.1.symm⟩
  | cons key rest ih =>
      rw [foldlM_cons_eq_ok_iff]
      simp only [addPreviousSigningKey_eq_ok_iff]
      have hsnoc : key ∉ before → (before ++ [key]).Nodup := fun hnew =>
        List.nodup_append.mpr ⟨hbefore, List.nodup_singleton key, fun a ha b hb hab =>
          hnew (List.mem_singleton.mp hb ▸ hab ▸ ha)⟩
      constructor
      · rintro ⟨-, ⟨rfl, hkey, hother, hnew⟩, hrest⟩
        obtain ⟨rfl, hkeys, hothers, hnodup⟩ := (ih (hsnoc hnew)).mp hrest
        rw [List.append_assoc] at hnodup ⊢
        refine ⟨rfl, ?_, ?_, hnodup⟩
        · rintro k (_ | ⟨_, hk⟩)
          · exact hkey
          · exact hkeys k hk
        · rintro (_ | ⟨_, hk⟩)
          · exact hother rfl
          · exact hothers hk
      · rintro ⟨rfl, hkeys, hothers, hnodup⟩
        have hnew : key ∉ before := fun hmem =>
          (List.nodup_append.mp hnodup).2.2 key hmem key List.mem_cons_self rfl
        refine ⟨before ++ [key], ⟨rfl, hkeys key List.mem_cons_self, ?_, hnew⟩, ?_⟩
        · rintro rfl
          exact hothers List.mem_cons_self
        · rw [ih (hsnoc hnew), List.append_assoc]
          exact ⟨rfl, fun k hk => hkeys k (List.mem_cons_of_mem key hk),
            fun hk => hothers (List.mem_cons_of_mem key hk), hnodup⟩

end SigningKeys

/-! ## `parseJwtAuthConfig` -/

/-- `DEFAULT_JWT_ISSUER`. -/
def DEFAULT_JWT_ISSUER : String := "luxledger-api"

/-- `DEFAULT_JWT_CLOCK_SKEW_SECONDS`. -/
def DEFAULT_JWT_CLOCK_SKEW_SECONDS : Nat := 5

/-- `MAX_JWT_CLOCK_SKEW_SECONDS`. -/
def MAX_JWT_CLOCK_SKEW_SECONDS : Nat := 60

/-- `MIN_JWT_ACCESS_TTL_SECONDS`. -/
def MIN_JWT_ACCESS_TTL_SECONDS : Nat := 300

/-- `MAX_JWT_ACCESS_TTL_SECONDS`. -/
def MAX_JWT_ACCESS_TTL_SECONDS : Nat := 900

/-- `DEFAULT_JWT_ACCESS_TTL_SECONDS`. -/
def DEFAULT_JWT_ACCESS_TTL_SECONDS : Nat := MAX_JWT_ACCESS_TTL_SECONDS

/-- The options of a number of seconds between two bounds. -/
def secondsOptions (name : String) (defaultValue min max : Nat) :
    ParseIntegerWithinRangeOptions :=
  ⟨defaultValue, some min, some max, name ++ " must be an integer between " ++ decimalText min ++
    " and " ++ decimalText max⟩

/-- `parseJwtAccessTtlSeconds`. -/
def parseJwtAccessTtlSeconds (value : Option String) : Except String Nat :=
  return (← parseIntegerWithinRange value (secondsOptions "JWT_ACCESS_TTL_SECONDS"
    DEFAULT_JWT_ACCESS_TTL_SECONDS MIN_JWT_ACCESS_TTL_SECONDS MAX_JWT_ACCESS_TTL_SECONDS)).toNat

/-- `parseJwtClockSkewSeconds`. -/
def parseJwtClockSkewSeconds (value : Option String) : Except String Nat :=
  return (← parseIntegerWithinRange value (secondsOptions "JWT_CLOCK_SKEW_SECONDS"
    DEFAULT_JWT_CLOCK_SKEW_SECONDS 0 MAX_JWT_CLOCK_SKEW_SECONDS)).toNat

/-- `env.JWT_ISSUER?.trim() || DEFAULT_JWT_ISSUER`. -/
def issuerOf (value : Option String) : String :=
  match value with
  | none => DEFAULT_JWT_ISSUER
  | some value => if trim value = "" then DEFAULT_JWT_ISSUER else trim value

/-- `parseJwtAuthConfig`. -/
def parseJwtAuthConfig (env : ProcessEnv) : Except String IssuingConfig := do
  let signingKey ← parseJwtSigningKey
    (← requireNonEmptyEnv (env "JWT_SIGNING_KEY") "JWT_SIGNING_KEY") "JWT_SIGNING_KEY"
  let previousSigningKeys ←
    parseJwtPreviousSigningKeys (env "JWT_PREVIOUS_SIGNING_KEYS") signingKey
  let issuer := issuerOf (env "JWT_ISSUER")
  let accessTokenTtlSeconds ← parseJwtAccessTtlSeconds (env "JWT_ACCESS_TTL_SECONDS")
  let clockSkewSeconds ← parseJwtClockSkewSeconds (env "JWT_CLOCK_SKEW_SECONDS")
  return ⟨⟨signingKey, previousSigningKeys, issuer, clockSkewSeconds⟩, accessTokenTtlSeconds⟩

end LuxLedger.Http
