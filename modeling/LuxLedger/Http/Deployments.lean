/-
  Http/Deployments.lean --- tokens across a history of deployments.

  Each deployment starts with an environment of its own.  The rule of the operator is that a
  signing key stays listed as long as a token that was issued with it can be accepted.
-/
import LuxLedger.Http.Configurations

set_option autoImplicit false

namespace LuxLedger.Http

open LuxLedger.Foundation LuxLedger.Javascript LuxLedger.Relational

/-- A start of the server, at a time in milliseconds. -/
structure Deployment where
  startedAt : Int
  env : ProcessEnv
  config : IssuingConfig
  started : parseJwtAuthConfig env = .ok config

/-- The configuration of a deployment is well formed. -/
theorem Deployment.wellFormed (d : Deployment) : d.config.WellFormed :=
  wellFormed_of_parsed d.started

/-- The deployment that serves at a time. -/
def running (history : List Deployment) (now : Int) : Option Deployment :=
  history.reverse.find? fun d => d.startedAt ≤ now

/-- How long a deployment accepts the tokens of an older one, in seconds. -/
def useSeconds (old new : IssuingConfig) : Nat :=
  old.accessTokenTtlSeconds + new.clockSkewSeconds

/-- The rule of the operator: a deployment that starts while a token of a replaced one can be
accepted lists the key of the replaced one. -/
def KeepsOldKeys (history : List Deployment) : Prop :=
  ∀ before old next after, history = before ++ old :: next :: after → ∀ new ∈ next :: after,
    new.startedAt < next.startedAt + (useSeconds old.config new.config : Int) * 1000 →
      old.config.signingKey ∈ new.config.verificationKeys

/-- All deployments are one issuer. -/
def OneIssuer (history : List Deployment) : Prop :=
  ∀ d ∈ history, ∀ d' ∈ history, d.config.issuer = d'.config.issuer

/-! ## The history around a deployment -/

section History

variable {history : List Deployment} {old new : Deployment} {issuedAt now : Int}

theorem running_eq_some (h : running history now = some new) :
    new.startedAt ≤ now ∧ ∃ before after, history = before ++ new :: after ∧
      ∀ d ∈ after, now < d.startedAt := by
  obtain ⟨hstarted, later, earlier, hreverse, hlater⟩ := List.find?_eq_some_iff_append.mp h
  refine ⟨of_decide_eq_true hstarted, earlier.reverse, later.reverse, ?_, ?_⟩
  · rw [← List.reverse_reverse history, hreverse]
    simp
  · intro d hd
    simpa using hlater d (List.mem_reverse.mp hd)

theorem mem_of_running (h : running history now = some new) : new ∈ history := by
  obtain ⟨-, before, after, rfl, -⟩ := running_eq_some h
  exact List.mem_append_right before List.mem_cons_self

/-- The deployment of a later time is the same one or has replaced it. -/
theorem running_later (hold : running history issuedAt = some old)
    (hnew : running history now = some new) (hle : issuedAt ≤ now) :
    new = old ∨ ∃ before next after, history = before ++ old :: next :: after ∧
      new ∈ next :: after ∧ issuedAt < next.startedAt ∧ new.startedAt ≤ now := by
  obtain ⟨hstarted, before, after, rfl, hafter⟩ := running_eq_some hold
  obtain ⟨hstarted', before', after', hsame, hafter'⟩ := running_eq_some hnew
  have hmember : new ∈ before ++ old :: after := hsame ▸ List.mem_append_right _ List.mem_cons_self
  rcases List.append_eq_append_iff.mp hsame with ⟨more, rfl, hrest⟩ | ⟨more, rfl, hrest⟩
  · cases more with
    | nil => exact Or.inl (List.cons.inj hrest).1.symm
    | cons d rest =>
        rw [List.cons_append] at hrest
        obtain ⟨rfl, rfl⟩ := List.cons.inj hrest
        have hnext : ∃ next rest', rest ++ new :: after' = next :: rest' := by
          cases rest with
          | nil => exact ⟨new, after', rfl⟩
          | cons next rest => exact ⟨next, rest ++ new :: after', rfl⟩
        obtain ⟨next, rest', hrest'⟩ := hnext
        refine Or.inr ⟨before, next, rest', by rw [hrest'], ?_, ?_, hstarted'⟩
        · rw [← hrest']
          exact List.mem_append_right _ List.mem_cons_self
        · apply hafter next
          rw [hrest']
          exact List.mem_cons_self
  · cases more with
    | nil => exact Or.inl (List.cons.inj hrest).1
    | cons d rest =>
        -- The older deployment would have started after the later time.
        rw [List.cons_append] at hrest
        obtain ⟨rfl, rfl⟩ := List.cons.inj hrest
        have hlate := hafter' old (List.mem_append_right rest List.mem_cons_self)
        omega

/-- Within the window of a token the key it was signed with is still listed. -/
theorem listed_of_inWindow (hkept : KeepsOldKeys history)
    (hold : running history issuedAt = some old) (hnew : running history now = some new)
    (hle : issuedAt ≤ now)
    (hwindow : InWindow old.config new.config.clockSkewSeconds issuedAt now) :
    old.config.signingKey ∈ new.config.verificationKeys := by
  rcases running_later hold hnew hle with
    rfl | ⟨before, next, after, hhistory, hmem, hnext, hstarted⟩
  · exact List.mem_cons_self
  · apply hkept before old next after hhistory new hmem
    have hexpires := hwindow.2
    rw [useSeconds]
    omega

end History

/-! ## What is verified is the payload -/

section Tokens

variable {node : IssuingNode} {context : AuthContext} {config : IssuingConfig}
  {verifying : JwtAuthConfig} {issuedAt now : Int}

/-- A verified token carries the payload that its second part encodes. -/
theorem payload_of_verifySignedToken {node : Node} {token : String} {signed : JwtPayload × Nat}
    (h : verifySignedToken node token verifying = .ok signed) :
    ∃ encodedHeader encodedPayload encodedSignature payloadValue,
      split token '.' = [encodedHeader, encodedPayload, encodedSignature] ∧
        node.parseJson (node.decodeBase64Url encodedPayload) = some payloadValue ∧
        assertPayload payloadValue verifying.issuer = .ok signed.1 := by
  unfold verifySignedToken at h
  split at h
  next encodedHeader encodedPayload encodedSignature hsplit =>
    obtain ⟨-, -, h⟩ := bind_eq_ok_iff.mp h
    split at h
    next header payloadValue hheader hpayload =>
      obtain ⟨-, -, h⟩ := bind_eq_ok_iff.mp h
      obtain ⟨payload, hassert, h⟩ := bind_eq_ok_iff.mp h
      dsimp only at h
      split at h
      next => cases h
      next =>
        cases h
        exact ⟨_, _, _, _, hsplit, hpayload, hassert⟩
    next => cases h
  next => cases h

/-- Outside its window an issued token is accepted with no keys. -/
theorem inWindow_of_accepted (hnode : node.Lawful)
    (hpayload : node.RoundTrips (issuedPayload context config issuedAt))
    (httl : 0 < config.accessTokenTtlSeconds) (hissuer : verifying.issuer = config.issuer)
    {accepted : AuthContext}
    (h : (verifyAccessTokenTraced node.toNode (issueAccessToken node context config issuedAt)
      verifying now).1 = .ok accepted) :
    InWindow config verifying.clockSkewSeconds issuedAt now := by
  unfold verifyAccessTokenTraced at h
  split at h
  next => cases h
  next payload verificationKeyIndex hsigned =>
    obtain ⟨_, _, _, payloadValue, hsplit, hparse, hassert⟩ := payload_of_verifySignedToken hsigned
    rw [split_issueAccessToken hnode] at hsplit
    obtain ⟨-, rfl, -⟩ : _ ∧ _ ∧ _ := by simpa using hsplit
    rw [parse_decode_encode hnode hpayload] at hparse
    cases hparse
    rw [hissuer, assertPayload_issuedPayload context issuedAt httl] at hassert
    by_contra hout
    obtain ⟨message, herror⟩ :=
      (checkLifetime_issued context config verifying issuedAt now).2 hout
    cases hassert
    cases h.symm.trans herror

/-- Whatever deployments follow each other by the rule: a token is accepted as long as its
lifetime and the clock skew last, and no longer. -/
theorem rotation_keeps_tokens {history : List Deployment} {old new : Deployment}
    (hkept : KeepsOldKeys history) (hissuer : OneIssuer history)
    (hold : running history issuedAt = some old) (hnew : running history now = some new)
    (hle : issuedAt ≤ now) (hnode : node.Lawful) (hheader : node.RoundTrips JWT_HEADER)
    (hpayload : node.RoundTrips (issuedPayload context old.config issuedAt)) :
    let token := issueAccessToken node context old.config issuedAt
    ((verifyAccessTokenTraced node.toNode token new.config.toJwtAuthConfig now).1 = .ok context ↔
      now / 1000 < issuedAt / 1000 + old.config.accessTokenTtlSeconds +
        new.config.clockSkewSeconds) := by
  have httl : 0 < old.config.accessTokenTtlSeconds :=
    Nat.lt_of_lt_of_le (by decide) old.wellFormed.lifetime.1
  have hsame : new.config.issuer = old.config.issuer :=
    hissuer new (mem_of_running hnew) old (mem_of_running hold)
  constructor
  · exact fun haccepted => (inWindow_of_accepted hnode hpayload httl hsame haccepted).2
  · intro hexpires
    have hwindow : InWindow old.config new.config.clockSkewSeconds issuedAt now :=
      ⟨by omega, hexpires⟩
    obtain ⟨verificationKeyIndex, hsigned, -⟩ := verifySignedToken_issued hnode hheader hpayload httl
      hsame (listed_of_inWindow hkept hold hnew hle hwindow)
    rw [verifyAccessTokenTraced, hsigned]
    exact (checkLifetime_issued context old.config new.config.toJwtAuthConfig issuedAt now).1 hwindow

end Tokens

namespace Sample

theorem isSigningKey_signingKey : IsSigningKey signingKey :=
  ⟨base64UrlBytes signingKey, by decide +kernel, by decide +kernel⟩

theorem isSigningKey_nextSigningKey : IsSigningKey nextSigningKey :=
  ⟨base64UrlBytes nextSigningKey, by decide +kernel, by decide +kernel⟩

theorem issuingConfig_wellFormed : issuingConfig.WellFormed where
  keys := List.forall_mem_singleton.mpr isSigningKey_signingKey
  distinct := List.nodup_singleton _
  issuer := by decide
  lifetime := by decide
  skew := by decide

theorem rotatedConfig_wellFormed : (IssuingConfig.mk rotatedConfig 900).WellFormed where
  keys := List.forall_mem_cons.mpr ⟨isSigningKey_nextSigningKey,
    List.forall_mem_singleton.mpr isSigningKey_signingKey⟩
  distinct := by decide +kernel
  issuer := by decide
  lifetime := by decide
  skew := by decide

/-- A key is rotated ten minutes after the start. -/
def rotation : List Deployment :=
  [⟨0, _, _, parse_environment issuingConfig_wellFormed⟩,
    ⟨600000, _, _, parse_environment rotatedConfig_wellFormed⟩]

theorem keepsOldKeys_rotation : KeepsOldKeys rotation := by
  rintro (_ | ⟨_, _ | ⟨_, _⟩⟩) old next after h new hnew -
  · obtain ⟨rfl, rfl, rfl⟩ : _ ∧ _ ∧ _ := by simpa [rotation] using h.symm
    rw [List.mem_singleton.mp hnew]
    decide +kernel
  all_goals simp [rotation] at h

end Sample

/-- A token of the first deployment is good for 905 seconds. -/
theorem rotation_keeps_tokens_sample :
    (verifyAccessTokenTraced Sample.issuingNode.toNode (issueAccessToken Sample.issuingNode
      Sample.serviceAuth Sample.issuingConfig 0) Sample.rotatedConfig 904999).1 =
      .ok Sample.serviceAuth :=
  (rotation_keeps_tokens Sample.keepsOldKeys_rotation (by simp [OneIssuer, Sample.rotation]; decide)
    (rfl : running Sample.rotation 0 = some _) (rfl : running Sample.rotation 904999 = some _)
    (by decide) Sample.issuingNode_lawful Sample.header_roundTrips
    Sample.payload_roundTrips).mpr (by decide)

end LuxLedger.Http
