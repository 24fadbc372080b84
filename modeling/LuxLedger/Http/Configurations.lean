/-
  Http/Configurations.lean --- which configurations the server starts with.

  The configurations that some environment is read as are exactly the well-formed ones,
  and the text of a well-formed configuration is read as that configuration.
-/
import LuxLedger.Http.Environment

set_option autoImplicit false

namespace LuxLedger.Http

open LuxLedger.Foundation LuxLedger.Javascript LuxLedger.Relational

/-- What the server relies on. -/
structure IssuingConfig.WellFormed (config : IssuingConfig) : Prop where
  keys : ∀ key ∈ config.verificationKeys, IsSigningKey key
  distinct : config.verificationKeys.Nodup
  issuer : config.issuer ≠ "" ∧ trim config.issuer = config.issuer
  lifetime : MIN_JWT_ACCESS_TTL_SECONDS ≤ config.accessTokenTtlSeconds ∧
    config.accessTokenTtlSeconds ≤ MAX_JWT_ACCESS_TTL_SECONDS
  skew : config.clockSkewSeconds ≤ MAX_JWT_CLOCK_SKEW_SECONDS

/-- The keys as they are written to `JWT_PREVIOUS_SIGNING_KEYS`. -/
def keysText (keys : List String) : String :=
  String.ofList ([','].intercalate (keys.map String.toList))

/-- An environment for a configuration. -/
def IssuingConfig.environment (config : IssuingConfig) : ProcessEnv := fun name =>
  if name = "JWT_SIGNING_KEY" then some config.signingKey
  else if name = "JWT_PREVIOUS_SIGNING_KEYS" then some (keysText config.previousSigningKeys)
  else if name = "JWT_ISSUER" then some config.issuer
  else if name = "JWT_ACCESS_TTL_SECONDS" then some (decimalText config.accessTokenTtlSeconds)
  else if name = "JWT_CLOCK_SKEW_SECONDS" then some (decimalText config.clockSkewSeconds)
  else none

variable {config : IssuingConfig} {env : ProcessEnv}

/-! ## What is read is well-formed -/

theorem requireNonEmptyEnv_eq_ok_iff {value : Option String} {name text : String} :
    requireNonEmptyEnv value name = .ok text ↔
      ∃ written, value = some written ∧ trim written ≠ "" ∧ text = trim written := by
  cases value with
  | none => simp [requireNonEmptyEnv]
  | some written =>
      simp only [requireNonEmptyEnv, bind_eq_ok_iff, require_eq_ok_iff]
      constructor
      · rintro ⟨-, hne, h⟩
        cases h
        exact ⟨written, rfl, hne, rfl⟩
      · rintro ⟨_, ⟨rfl⟩, hne, rfl⟩
        exact ⟨(), hne, rfl⟩

theorem parseJwtPreviousSigningKeys_ok {value : Option String} {signingKey : String}
    {keys : List String} (h : parseJwtPreviousSigningKeys value signingKey = .ok keys) :
    (∀ key ∈ keys, IsSigningKey key) ∧ signingKey ∉ keys ∧ keys.Nodup := by
  have hnone : (∀ key ∈ ([] : List String), IsSigningKey key) ∧ signingKey ∉ ([] : List String) ∧
      ([] : List String).Nodup :=
    ⟨fun _ hkey => absurd hkey List.not_mem_nil, List.not_mem_nil, List.nodup_nil⟩
  unfold parseJwtPreviousSigningKeys at h
  split at h
  · cases h
    exact hnone
  · split_ifs at h
    · cases h
      exact hnone
    · simp only [bind_eq_ok_iff] at h
      obtain ⟨-, -, hkeys⟩ := h
      rw [addPreviousSigningKeys_eq_ok_iff List.nodup_nil] at hkeys
      obtain ⟨rfl, hkeys⟩ := hkeys
      exact hkeys

theorem issuerOf_trimmed (value : Option String) :
    issuerOf value ≠ "" ∧ trim (issuerOf value) = issuerOf value := by
  have hdefault : DEFAULT_JWT_ISSUER ≠ "" ∧ trim DEFAULT_JWT_ISSUER = DEFAULT_JWT_ISSUER := by
    decide
  unfold issuerOf
  split
  · exact hdefault
  · split_ifs with hempty
    · exact hdefault
    · exact ⟨hempty, trim_trim _⟩

/-- The seconds between two bounds. -/
theorem seconds_of_parsed {value : Option String} {name : String} {defaultValue min max : Nat}
    {n : Int} (hmin : min ≤ defaultValue) (hmax : defaultValue ≤ max)
    (h : parseIntegerWithinRange value (secondsOptions name defaultValue min max) = .ok n) :
    min ≤ n.toNat ∧ n.toNat ≤ max := by
  have hadmits := parseIntegerWithinRange_admits
    ⟨fun m hm => by cases hm; exact Int.ofNat_le.mpr hmin,
      fun m hm => by cases hm; exact Int.ofNat_le.mpr hmax⟩ h
  have hlow : (min : Int) ≤ n := hadmits.1 _ rfl
  have hhigh : n ≤ (max : Int) := hadmits.2 _ rfl
  omega

/-- What the server starts with is well-formed. -/
theorem wellFormed_of_parsed (h : parseJwtAuthConfig env = .ok config) : config.WellFormed := by
  simp only [parseJwtAuthConfig, parseJwtAccessTtlSeconds, parseJwtClockSkewSeconds,
    bind_eq_ok_iff, parseJwtSigningKey_eq_ok_iff] at h
  obtain ⟨_, -, _, ⟨rfl, hkey⟩, previous, hprevious, ttl, ⟨ttlRead, httl, ⟨⟩⟩, skew,
    ⟨skewRead, hskew, ⟨⟩⟩, ⟨⟩⟩ := h
  obtain ⟨hkeys, hcurrent, hnodup⟩ := parseJwtPreviousSigningKeys_ok hprevious
  exact
    { keys := List.forall_mem_cons.mpr ⟨hkey, hkeys⟩
      distinct := List.nodup_cons.mpr ⟨hcurrent, hnodup⟩
      issuer := issuerOf_trimmed _
      lifetime := seconds_of_parsed (by decide) (by decide) httl
      skew := (seconds_of_parsed (by decide) (by decide) hskew).2 }

/-! ## What is well-formed is read back -/

theorem requireNonEmptyEnv_signingKey {key name : String} (h : IsSigningKey key) :
    requireNonEmptyEnv (some key) name = .ok key :=
  requireNonEmptyEnv_eq_ok_iff.mpr ⟨key, rfl, by rw [h.trim_eq]; exact h.ne_empty, h.trim_eq.symm⟩

/-- Keys joined with commas are split into the keys. -/
theorem split_keysText {keys : List String} (hne : keys ≠ [])
    (hkeys : ∀ key ∈ keys, IsSigningKey key) : split (keysText keys) ',' = keys := by
  have hcommas : ∀ cs ∈ keys.map String.toList, ',' ∉ cs := by
    intro cs hcs
    obtain ⟨key, hkey, rfl⟩ := List.mem_map.mp hcs
    exact (hkeys key hkey).comma_not_mem
  rw [split, keysText, String.toList_ofList,
    List.splitOn_intercalate _ hcommas (by simpa using hne), List.map_map]
  exact (List.map_congr_left fun key _ => String.ofList_toList).trans (List.map_id keys)

theorem trim_keysText {keys : List String} (hkeys : ∀ key ∈ keys, IsSigningKey key) :
    trim (keysText keys) = keysText keys := by
  apply trim_eq_self
  rw [List.all_eq_true]
  intro c hc
  rw [keysText, String.toList_ofList] at hc
  rcases mem_of_mem_intercalate hc with hcomma | ⟨cs, hcs, hmem⟩
  · rw [List.mem_singleton.mp hcomma]
    decide
  · obtain ⟨key, hkey, rfl⟩ := List.mem_map.mp hcs
    obtain ⟨bytes, -, rfl⟩ := hkeys key hkey
    rw [(mem_base64Url hmem).2.1]
    rfl

theorem parseJwtPreviousSigningKeys_keysText {signingKey : String} {keys : List String}
    (hkeys : ∀ key ∈ keys, IsSigningKey key) (hcurrent : signingKey ∉ keys) (hnodup : keys.Nodup) :
    parseJwtPreviousSigningKeys (some (keysText keys)) signingKey = .ok keys := by
  rcases eq_or_ne keys [] with rfl | hne
  · rfl
  have hsplit := split_keysText hne hkeys
  have htrimmed : keys.map trim = keys :=
    (List.map_congr_left fun key hkey => (hkeys key hkey).trim_eq).trans (List.map_id keys)
  have hempty : keysText keys ≠ "" := by
    intro hempty
    rw [hempty] at hsplit
    rw [← hsplit] at hkeys
    exact (hkeys "" List.mem_cons_self).ne_empty rfl
  rw [parseJwtPreviousSigningKeys, trim_keysText hkeys, if_neg hempty, hsplit, htrimmed]
  simp only [bind_eq_ok_iff, require_eq_ok_iff]
  exact ⟨(), fun key hkey => (hkeys key hkey).ne_empty,
    (addPreviousSigningKeys_eq_ok_iff List.nodup_nil).mpr ⟨rfl, hkeys, hcurrent, hnodup⟩⟩

theorem parseIntegerWithinRange_seconds {name : String} {defaultValue min max n : Nat}
    (hmin : min ≤ n) (hmax : n ≤ max) (hsmall : max < 2 ^ 53) :
    parseIntegerWithinRange (some (decimalText n)) (secondsOptions name defaultValue min max) =
      .ok n := by
  apply parseIntegerWithinRange_decimalText (Nat.lt_of_le_of_lt hmax hsmall)
  exact ⟨fun m hm => by cases hm; exact Int.ofNat_le.mpr hmin,
    fun m hm => by cases hm; exact Int.ofNat_le.mpr hmax⟩

/-- A well-formed configuration is read from its environment. -/
theorem parse_environment (h : config.WellFormed) :
    parseJwtAuthConfig config.environment = .ok config := by
  obtain ⟨hkey, hkeys⟩ := List.forall_mem_cons.mp h.keys
  obtain ⟨hcurrent, hnodup⟩ := List.nodup_cons.mp h.distinct
  have hissuer : issuerOf (some config.issuer) = config.issuer := by
    rw [issuerOf, h.issuer.2, if_neg h.issuer.1]
  have httl : parseJwtAccessTtlSeconds (some (decimalText config.accessTokenTtlSeconds)) =
      .ok config.accessTokenTtlSeconds := by
    rw [parseJwtAccessTtlSeconds, parseIntegerWithinRange_seconds h.lifetime.1 h.lifetime.2
      (by decide)]
    rfl
  have hskew : parseJwtClockSkewSeconds (some (decimalText config.clockSkewSeconds)) =
      .ok config.clockSkewSeconds := by
    rw [parseJwtClockSkewSeconds, parseIntegerWithinRange_seconds (Nat.zero_le _) h.skew
      (by decide)]
    rfl
  simp only [parseJwtAuthConfig, bind_eq_ok_iff]
  refine ⟨config.signingKey, requireNonEmptyEnv_signingKey hkey, config.signingKey,
    parseJwtSigningKey_eq_ok_iff.mpr ⟨rfl, hkey⟩, config.previousSigningKeys,
    parseJwtPreviousSigningKeys_keysText hkeys hcurrent hnodup, _, httl, _, hskew, ?_⟩
  have hwritten : config.environment "JWT_ISSUER" = some config.issuer := rfl
  rw [hwritten, hissuer]
  rfl

/-- The server starts with the well-formed configurations, and with no other. -/
theorem started_iff_wellFormed (config : IssuingConfig) :
    ((∃ env, parseJwtAuthConfig env = .ok config) ↔ config.WellFormed) ∧
      (config.WellFormed → parseJwtAuthConfig config.environment = .ok config) :=
  ⟨⟨fun ⟨_, h⟩ => wellFormed_of_parsed h, fun h => ⟨_, parse_environment h⟩⟩, parse_environment⟩

end LuxLedger.Http
