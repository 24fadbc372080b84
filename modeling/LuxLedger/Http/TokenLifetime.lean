/-
  Http/TokenLifetime.lean --- issued tokens verify during their window.

  Source: `issueAccessToken` and `verifyAccessToken` in `auth/jwt.ts`.  The callback
  `onPreviousSigningKeyUsed` is called before the clock is read, so also for a token
  that is then rejected.
-/
import LuxLedger.Http.Guards
import LuxLedger.Javascript.Base64Url

set_option autoImplicit false

namespace LuxLedger.Http

open LuxLedger.Javascript LuxLedger.Relational

/-! ## Issuing -/

/-- The functions of Node that tokens are issued and verified with. -/
structure IssuingNode extends Node where
  /-- `JSON.stringify` -/
  stringifyJson : Json → String

/-- What `JwtAuthConfig` holds for the issuing too. -/
structure IssuingConfig extends JwtAuthConfig where
  accessTokenTtlSeconds : Nat
  deriving DecidableEq, Repr

/-- The value of the enumeration. -/
def ApiKeyRole.toText : ApiKeyRole → String
  | .admin => "ADMIN"
  | .service => "SERVICE"

@[simp] theorem ApiKeyRole.ofString_toText (role : ApiKeyRole) :
    ApiKeyRole.ofString role.toText = some role := by
  cases role <;> rfl

/-- `JWT_HEADER`. -/
def JWT_HEADER : Json := .object [("alg", .string "HS256"), ("typ", .string "JWT")]

/-- The payload of a token issued at a time in milliseconds. -/
def issuedPayload (context : AuthContext) (config : IssuingConfig) (now : Int) : Json :=
  let iat := now / 1000
  .object [("iss", .string config.issuer), ("sub", .string context.apiKeyId),
    ("tenant_id", .string context.tenantId), ("role", .string context.role.toText),
    ("iat", .number iat), ("exp", .number (iat + config.accessTokenTtlSeconds : Int))]

/-- `issueAccessToken` before it signs. -/
def issuedSigningInput (node : IssuingNode) (context : AuthContext) (config : IssuingConfig)
    (now : Int) : String :=
  encodeBase64Url (node.stringifyJson JWT_HEADER) ++ "." ++
    encodeBase64Url (node.stringifyJson (issuedPayload context config now))

/-- `issueAccessToken`. -/
def issueAccessToken (node : IssuingNode) (context : AuthContext) (config : IssuingConfig)
    (now : Int) : String :=
  let signingInput := issuedSigningInput node context config now
  signingInput ++ "." ++ node.hmacSha256 signingInput config.signingKey

/-! ## Verifying -/

/-- The keys in the order in which they are tried. -/
def JwtAuthConfig.verificationKeys (config : JwtAuthConfig) : List String :=
  config.signingKey :: config.previousSigningKeys

/-- `verifyAccessToken` before it reads the clock: the payload, and the index of the key
that has signed it. -/
def verifySignedToken (node : Node) (token : String) (config : JwtAuthConfig) :
    Except ApiError (JwtPayload × Nat) :=
  match split token '.' with
  | [encodedHeader, encodedPayload, encodedSignature] => do
      require (encodedHeader ≠ "" ∧ encodedPayload ≠ "" ∧ encodedSignature ≠ "") invalidAccessToken
      match node.parseJson (node.decodeBase64Url encodedHeader),
          node.parseJson (node.decodeBase64Url encodedPayload) with
      | some header, some payloadValue => do
          require (header.stringField? "alg" = some "HS256" ∧
            header.stringField? "typ" = some "JWT") invalidAccessToken
          let payload ← assertPayload payloadValue config.issuer
          let signingInput := encodedHeader ++ "." ++ encodedPayload
          match config.verificationKeys.findIdx?
              (hasValidSignature node encodedSignature signingInput) with
          | none => .error invalidAccessToken
          | some verificationKeyIndex => return (payload, verificationKeyIndex)
      | _, _ => .error invalidAccessToken
  | _ => .error invalidAccessToken

/-- `verifyAccessToken` once it reads the clock. -/
def checkLifetime (payload : JwtPayload) (config : JwtAuthConfig) (now : Int) :
    Except ApiError AuthContext := do
  let nowUnix := now / 1000
  require (payload.iat ≤ ((nowUnix + config.clockSkewSeconds : Int) : Rat)) invalidAccessToken
  require (((nowUnix - config.clockSkewSeconds : Int) : Rat) < payload.exp)
    (.unauthorized "Access token expired")
  return ⟨payload.sub, payload.tenantId, payload.role⟩

/-- `verifyAccessToken` with the `previousSigningKeyIndex` that the callback is called
with, whether or not the token is accepted. -/
def verifyAccessTokenTraced (node : Node) (token : String) (config : JwtAuthConfig) (now : Int) :
    Except ApiError AuthContext × Option Nat :=
  match verifySignedToken node token config with
  | .error error => (.error error, none)
  | .ok (payload, verificationKeyIndex) =>
      (checkLifetime payload config now,
        if 0 < verificationKeyIndex then some (verificationKeyIndex - 1) else none)

theorem map_checkLifetime {α : Type} (payload : JwtPayload) (config : JwtAuthConfig) (now : Int)
    (callback : α) :
    (do
      require (payload.iat ≤ ((now / 1000 + config.clockSkewSeconds : Int) : Rat))
        invalidAccessToken
      require (((now / 1000 - config.clockSkewSeconds : Int) : Rat) < payload.exp)
        (.unauthorized "Access token expired")
      return (⟨payload.sub, payload.tenantId, payload.role⟩, callback)) =
    (checkLifetime payload config now).map fun context => (context, callback) := by
  dsimp only [checkLifetime, bind, Except.bind]
  cases require (payload.iat ≤ ((now / 1000 + config.clockSkewSeconds : Int) : Rat))
    invalidAccessToken with
  | error => rfl
  | ok =>
      cases require (((now / 1000 - config.clockSkewSeconds : Int) : Rat) < payload.exp)
        (ApiError.unauthorized "Access token expired") with
      | error => rfl
      | ok => rfl

/-- An accepted token is accepted with the same callback. -/
theorem verifyAccessToken_eq (node : Node) (token : String) (config : JwtAuthConfig) (now : Int) :
    verifyAccessToken node token config now =
      (verifyAccessTokenTraced node token config now).1.map fun context =>
        (context, (verifyAccessTokenTraced node token config now).2) := by
  unfold verifyAccessToken verifyAccessTokenTraced verifySignedToken
    JwtAuthConfig.verificationKeys
  -- Both bodies take the same decisions in the same order.
  rcases split token '.' with _ | ⟨encodedHeader, _ | ⟨encodedPayload, _ | ⟨encodedSignature,
    _ | ⟨_, _⟩⟩⟩⟩
  · rfl
  · rfl
  · rfl
  · dsimp only [bind, Except.bind]
    cases require (encodedHeader ≠ "" ∧ encodedPayload ≠ "" ∧ encodedSignature ≠ "")
      invalidAccessToken with
    | error => rfl
    | ok =>
        cases node.parseJson (node.decodeBase64Url encodedHeader) with
        | none => rfl
        | some header =>
            cases node.parseJson (node.decodeBase64Url encodedPayload) with
            | none => rfl
            | some payloadValue =>
                dsimp only
                cases require (header.stringField? "alg" = some "HS256" ∧
                  header.stringField? "typ" = some "JWT") invalidAccessToken with
                | error => rfl
                | ok =>
                    cases assertPayload payloadValue config.issuer with
                    | error => rfl
                    | ok payload =>
                        dsimp only
                        cases (config.signingKey :: config.previousSigningKeys).findIdx?
                            (hasValidSignature node encodedSignature
                              (encodedHeader ++ "." ++ encodedPayload)) with
                        | none => rfl
                        | some verificationKeyIndex => exact map_checkLifetime payload config now _
  · rfl

/-! ## Accepted tokens are signed -/

/-- The third segment of the token is the signature of its first two under a key of the
configuration, and its header names that algorithm. -/
def Authentic (node : Node) (config : JwtAuthConfig) (token : String) : Prop :=
  ∃ encodedHeader encodedPayload encodedSignature header, ∃ key ∈ config.verificationKeys,
    split token '.' = [encodedHeader, encodedPayload, encodedSignature] ∧
      encodedSignature = node.hmacSha256 (encodedHeader ++ "." ++ encodedPayload) key ∧
      node.parseJson (node.decodeBase64Url encodedHeader) = some header ∧
      header.stringField? "alg" = some "HS256" ∧ header.stringField? "typ" = some "JWT"

section Accepted

variable {node : Node} {token : String} {config : JwtAuthConfig} {now : Int}

theorem authentic_of_verifySignedToken {signed : JwtPayload × Nat}
    (h : verifySignedToken node token config = .ok signed) : Authentic node config token := by
  unfold verifySignedToken at h
  split at h
  next encodedHeader encodedPayload encodedSignature hsplit =>
    obtain ⟨_, -, h⟩ := bind_eq_ok_iff.mp h
    split at h
    next header payloadValue hheader _ =>
      obtain ⟨_, htyped, h⟩ := bind_eq_ok_iff.mp h
      obtain ⟨payload, -, h⟩ := bind_eq_ok_iff.mp h
      rw [require_eq_ok_iff] at htyped
      dsimp only at h
      split at h
      next => cases h
      next verificationKeyIndex hkey =>
        obtain ⟨hlt, hvalid, -⟩ := List.findIdx?_eq_some_iff_getElem.mp hkey
        exact ⟨encodedHeader, encodedPayload, encodedSignature, header, _, List.getElem_mem hlt,
          hsplit, of_decide_eq_true hvalid, hheader, htyped⟩
    next => cases h
  next => cases h

theorem authentic_of_accepted {context : AuthContext}
    (h : (verifyAccessTokenTraced node token config now).1 = .ok context) :
    Authentic node config token := by
  unfold verifyAccessTokenTraced at h
  split at h
  next => cases h
  next hsigned => exact authentic_of_verifySignedToken hsigned

end Accepted

/-! ## Issued tokens -/

/-- What is relied on of Node: base64url decodes to what was encoded, the empty text is no
JSON, and a digest is the base64url of 32 bytes. -/
structure IssuingNode.Lawful (node : IssuingNode) : Prop where
  decode_encode : ∀ text, node.decodeBase64Url (encodeBase64Url text) = text
  parse_empty : node.parseJson "" = none
  digest : ∀ input key, ∃ bytes : List UInt8, bytes.length = 32 ∧
    node.hmacSha256 input key = base64Url bytes

/-- The value is parsed back from its text. -/
def IssuingNode.RoundTrips (node : IssuingNode) (value : Json) : Prop :=
  node.parseJson (node.stringifyJson value) = some value

/-- The seconds in which a token issued at `issuedAt` is accepted, both in milliseconds. -/
def InWindow (config : IssuingConfig) (clockSkewSeconds : Nat) (issuedAt now : Int) : Prop :=
  issuedAt / 1000 - clockSkewSeconds ≤ now / 1000 ∧
    now / 1000 < issuedAt / 1000 + config.accessTokenTtlSeconds + clockSkewSeconds

instance (config : IssuingConfig) (clockSkewSeconds : Nat) (issuedAt now : Int) :
    Decidable (InWindow config clockSkewSeconds issuedAt now) :=
  inferInstanceAs (Decidable (_ ∧ _))

/-- The current key verifies what the token was signed with. -/
def CurrentKeyMatches (node : IssuingNode) (context : AuthContext) (config : IssuingConfig)
    (issuedAt : Int) (verifying : JwtAuthConfig) : Prop :=
  node.hmacSha256 (issuedSigningInput node context config issuedAt) verifying.signingKey =
    node.hmacSha256 (issuedSigningInput node context config issuedAt) config.signingKey

section Issued

variable {node : IssuingNode} {context : AuthContext} {config : IssuingConfig}
  {verifying : JwtAuthConfig} {issuedAt now : Int}

theorem encode_stringify_ne_empty (hnode : node.Lawful) {value : Json}
    (hvalue : node.RoundTrips value) : encodeBase64Url (node.stringifyJson value) ≠ "" := by
  refine encodeBase64Url_ne_empty fun hempty => ?_
  rw [IssuingNode.RoundTrips, hempty, hnode.parse_empty] at hvalue
  cases hvalue

theorem parse_decode_encode (hnode : node.Lawful) {value : Json} (hvalue : node.RoundTrips value) :
    node.parseJson (node.decodeBase64Url (encodeBase64Url (node.stringifyJson value))) =
      some value := by
  rw [hnode.decode_encode]
  exact hvalue

theorem digest_ne_empty (hnode : node.Lawful) (input key : String) :
    node.hmacSha256 input key ≠ "" := by
  obtain ⟨bytes, hlength, hdigest⟩ := hnode.digest input key
  rw [hdigest]
  refine base64Url_ne_empty fun hempty => ?_
  rw [hempty] at hlength
  cases hlength

theorem split_issueAccessToken (hnode : node.Lawful) :
    split (issueAccessToken node context config issuedAt) '.' =
      [encodeBase64Url (node.stringifyJson JWT_HEADER),
        encodeBase64Url (node.stringifyJson (issuedPayload context config issuedAt)),
        node.hmacSha256 (issuedSigningInput node context config issuedAt) config.signingKey] := by
  have hbetween : ".".toList = ['.'] := by decide
  obtain ⟨bytes, -, hdigest⟩ := hnode.digest (issuedSigningInput node context config issuedAt)
    config.signingKey
  have hsignature : '.' ∉ (node.hmacSha256 (issuedSigningInput node context config issuedAt)
      config.signingKey).toList := by
    rw [hdigest]
    exact dot_not_mem_base64Url bytes
  have hassoc : issueAccessToken node context config issuedAt =
      encodeBase64Url (node.stringifyJson JWT_HEADER) ++ "." ++
        (encodeBase64Url (node.stringifyJson (issuedPayload context config issuedAt)) ++ "." ++
          node.hmacSha256 (issuedSigningInput node context config issuedAt) config.signingKey) := by
    simp only [issueAccessToken, issuedSigningInput, String.append_assoc]
  rw [hassoc, split_append (dot_not_mem_encodeBase64Url _) hbetween,
    split_append (dot_not_mem_encodeBase64Url _) hbetween, split_of_not_mem hsignature]

/-- The payload of `issuedPayload`, as the verification reads it. -/
theorem assertPayload_issuedPayload (context : AuthContext) (issuedAt : Int)
    (httl : 0 < config.accessTokenTtlSeconds) :
    assertPayload (issuedPayload context config issuedAt) config.issuer =
      .ok ⟨context.apiKeyId, context.tenantId, context.role, (issuedAt / 1000 : Int),
        (issuedAt / 1000 + config.accessTokenTtlSeconds : Int)⟩ := by
  have hfields : (issuedPayload context config issuedAt).stringField? "iss" = some config.issuer ∧
      (issuedPayload context config issuedAt).stringField? "sub" = some context.apiKeyId ∧
      (issuedPayload context config issuedAt).stringField? "tenant_id" = some context.tenantId ∧
      (issuedPayload context config issuedAt).stringField? "role" = some context.role.toText ∧
      (issuedPayload context config issuedAt).numberField? "iat" = some (issuedAt / 1000 : Int) ∧
      (issuedPayload context config issuedAt).numberField? "exp" =
        some (issuedAt / 1000 + config.accessTokenTtlSeconds : Int) :=
    ⟨rfl, rfl, rfl, rfl, rfl, rfl⟩
  obtain ⟨hiss, hsub, htenant, hrole, hiat, hexp⟩ := hfields
  have hlt : ((issuedAt / 1000 : Int) : Rat) <
      ((issuedAt / 1000 + config.accessTokenTtlSeconds : Int) : Rat) := by
    rw [Rat.intCast_lt_intCast]
    omega
  rw [assertPayload, hiss, hsub, htenant, hrole, hiat, hexp, Option.bind_some,
    ApiKeyRole.ofString_toText]
  exact bind_eq_ok_iff.mpr ⟨(), require_eq_ok_iff.mpr ⟨rfl, hlt⟩, rfl⟩

/-- The lifetime of an issued token is its window. -/
theorem checkLifetime_issued (context : AuthContext) (config : IssuingConfig)
    (verifying : JwtAuthConfig) (issuedAt now : Int) :
    let payload : JwtPayload := ⟨context.apiKeyId, context.tenantId, context.role,
      (issuedAt / 1000 : Int), (issuedAt / 1000 + config.accessTokenTtlSeconds : Int)⟩
    (InWindow config verifying.clockSkewSeconds issuedAt now →
      checkLifetime payload verifying now = .ok context) ∧
    (¬ InWindow config verifying.clockSkewSeconds issuedAt now →
      ∃ message, checkLifetime payload verifying now = .error (.unauthorized message)) := by
  dsimp only [InWindow, checkLifetime]
  constructor
  · rintro ⟨hissued, hexpires⟩
    refine bind_eq_ok_iff.mpr ⟨(), require_eq_ok_iff.mpr ?_,
      bind_eq_ok_iff.mpr ⟨(), require_eq_ok_iff.mpr ?_, rfl⟩⟩
    · rw [Rat.intCast_le_intCast]
      omega
    · rw [Rat.intCast_lt_intCast]
      omega
  · intro hout
    by_cases hissued : issuedAt / 1000 ≤ now / 1000 + verifying.clockSkewSeconds
    · have hpassed : require (((issuedAt / 1000 : Int) : Rat) ≤
          ((now / 1000 + verifying.clockSkewSeconds : Int) : Rat)) invalidAccessToken = .ok () :=
        require_eq_ok_iff.mpr (Rat.intCast_le_intCast.mpr hissued)
      have hexpired : require (((now / 1000 - verifying.clockSkewSeconds : Int) : Rat) <
          ((issuedAt / 1000 + config.accessTokenTtlSeconds : Int) : Rat))
          (ApiError.unauthorized "Access token expired") =
            .error (.unauthorized "Access token expired") := by
        refine require_of_not ?_
        rw [Rat.intCast_lt_intCast]
        omega
      exact ⟨_, by rw [hpassed, hexpired]; rfl⟩
    · have hearly : require (((issuedAt / 1000 : Int) : Rat) ≤
          ((now / 1000 + verifying.clockSkewSeconds : Int) : Rat)) invalidAccessToken =
            .error invalidAccessToken :=
        require_of_not (mt Rat.intCast_le_intCast.mp hissued)
      exact ⟨_, by rw [hearly]; rfl⟩

/-- The search finds something, and not at the head exactly when the head is passed over. -/
theorem findIdx?_cons_of_mem {α : Type} {p : α → Bool} {x first : α} {rest : List α}
    (hx : x ∈ first :: rest) (hp : p x = true) :
    ∃ i, (first :: rest).findIdx? p = some i ∧ (0 < i ↔ ¬ p first = true) := by
  have hfound : ((first :: rest).findIdx? p).isSome = true := by
    rw [List.findIdx?_isSome]
    exact List.any_eq_true.mpr ⟨x, hx, hp⟩
  obtain ⟨i, hi⟩ := Option.isSome_iff_exists.mp hfound
  refine ⟨i, hi, ?_⟩
  rw [List.findIdx?_cons] at hi
  by_cases hfirst : p first = true
  · rw [if_pos hfirst] at hi
    simp [hfirst, ← Option.some.inj hi]
  · rw [if_neg hfirst] at hi
    obtain ⟨j, -, rfl⟩ := Option.map_eq_some_iff.mp hi
    simp [hfirst]

/-- An issued token is signed, and the key tried first is the one that counts. -/
theorem verifySignedToken_issued (hnode : node.Lawful) (hheader : node.RoundTrips JWT_HEADER)
    (hpayload : node.RoundTrips (issuedPayload context config issuedAt))
    (httl : 0 < config.accessTokenTtlSeconds) (hissuer : verifying.issuer = config.issuer)
    (hkey : config.signingKey ∈ verifying.verificationKeys) :
    ∃ verificationKeyIndex,
      verifySignedToken node.toNode (issueAccessToken node context config issuedAt) verifying =
        .ok (⟨context.apiKeyId, context.tenantId, context.role, (issuedAt / 1000 : Int),
          (issuedAt / 1000 + config.accessTokenTtlSeconds : Int)⟩, verificationKeyIndex) ∧
      (0 < verificationKeyIndex ↔ ¬ CurrentKeyMatches node context config issuedAt verifying) := by
  have hencodedHeader := encode_stringify_ne_empty hnode hheader
  have hencodedPayload := encode_stringify_ne_empty hnode hpayload
  have hsignature := digest_ne_empty hnode (issuedSigningInput node context config issuedAt)
    config.signingKey
  have hassert := assertPayload_issuedPayload context issuedAt httl
  have hvalid : hasValidSignature node.toNode
      (node.hmacSha256 (issuedSigningInput node context config issuedAt) config.signingKey)
      (issuedSigningInput node context config issuedAt) config.signingKey = true :=
    decide_eq_true rfl
  obtain ⟨verificationKeyIndex, hindex, hfirst⟩ := findIdx?_cons_of_mem hkey hvalid
  refine ⟨verificationKeyIndex, ?_, ?_⟩
  · rw [verifySignedToken, split_issueAccessToken hnode]
    dsimp only
    rw [parse_decode_encode hnode hheader, parse_decode_encode hnode hpayload]
    refine bind_eq_ok_iff.mpr ⟨(), require_eq_ok_iff.mpr
      ⟨hencodedHeader, hencodedPayload, hsignature⟩, ?_⟩
    refine bind_eq_ok_iff.mpr ⟨(), require_eq_ok_iff.mpr ⟨rfl, rfl⟩, ?_⟩
    rw [hissuer]
    refine bind_eq_ok_iff.mpr ⟨_, hassert, ?_⟩
    rw [← issuedSigningInput, JwtAuthConfig.verificationKeys, hindex]
    rfl
  · rw [hfirst, hasValidSignature, decide_eq_true_eq, CurrentKeyMatches]
    exact not_congr eq_comm

/-- Issued tokens are accepted in their window and in no other second, the callback tells
of a key that has been rotated, and what is accepted is signed. -/
theorem accessToken_lifetime (hnode : node.Lawful) (hheader : node.RoundTrips JWT_HEADER)
    (hpayload : node.RoundTrips (issuedPayload context config issuedAt))
    (httl : 0 < config.accessTokenTtlSeconds) (hissuer : verifying.issuer = config.issuer)
    (hkey : config.signingKey ∈ verifying.verificationKeys) (now : Int) :
    let verified := verifyAccessTokenTraced node.toNode
      (issueAccessToken node context config issuedAt) verifying now
    (InWindow config verifying.clockSkewSeconds issuedAt now → verified.1 = .ok context) ∧
    (¬ InWindow config verifying.clockSkewSeconds issuedAt now →
      ∃ message, verified.1 = .error (.unauthorized message)) ∧
    (verified.2.isSome ↔ ¬ CurrentKeyMatches node context config issuedAt verifying) ∧
    ∀ token now context, (verifyAccessTokenTraced node.toNode token verifying now).1 = .ok context →
      Authentic node.toNode verifying token := by
  obtain ⟨verificationKeyIndex, hsigned, hindex⟩ :=
    verifySignedToken_issued hnode hheader hpayload httl hissuer hkey
  obtain ⟨hin, hout⟩ := checkLifetime_issued context config verifying issuedAt now
  intro verified
  have hverified : verified = (checkLifetime ⟨context.apiKeyId, context.tenantId, context.role,
      (issuedAt / 1000 : Int), (issuedAt / 1000 + config.accessTokenTtlSeconds : Int)⟩
      verifying now,
      if 0 < verificationKeyIndex then some (verificationKeyIndex - 1) else none) := by
    simp only [verified, verifyAccessTokenTraced, hsigned]
  rw [hverified]
  refine ⟨hin, hout, ?_, fun token now context haccepted => authentic_of_accepted haccepted⟩
  rw [← hindex]
  by_cases hpositive : 0 < verificationKeyIndex
  · simp [hpositive]
  · simp [hpositive]

end Issued

namespace Sample

/-- The key after the rotation. -/
def nextSigningKey : String := "ZmVkY2JhOTg3NjU0MzIxMGZlZGNiYTk4NzY1NDMyMTA"

/-- The signature of the token under that key. -/
def nextSignature : String := "O4SA93XOAyKQz_UnctUN7UoVZTOM7dPCW8zcYjCsskc"

/-- The header and payload of the token, encoded. -/
def signingInput : String := encodeBase64Url headerText ++ "." ++ encodeBase64Url payloadText

/-- The functions of Node, where the issued token needs them. -/
def issuingNode : IssuingNode where
  hmacSha256 input key :=
    if input = signingInput ∧ key = signingKey then encodedSignature
    else if input = signingInput ∧ key = nextSigningKey then nextSignature
    else base64Url (List.replicate 32 0)
  decodeBase64Url value := (String.fromUTF8? ⟨(base64UrlBytes value).toArray⟩).getD ""
  parseJson := node.parseJson
  stringifyJson value := if (value.stringField? "alg").isSome then headerText else payloadText

theorem decode_encode (text : String) :
    issuingNode.decodeBase64Url (encodeBase64Url text) = text := by
  have hbytes : (⟨(base64UrlBytes (encodeBase64Url text)).toArray⟩ : ByteArray) =
      text.toByteArray := by
    rw [encodeBase64Url, base64UrlBytes_base64Url]
  simp only [issuingNode, hbytes, String.fromUTF8?, text.isValidUTF8, dif_pos, Option.getD_some]
  rfl

theorem issuingNode_lawful : issuingNode.Lawful where
  decode_encode := decode_encode
  parse_empty := by decide +kernel
  digest := by
    intro input key
    have hsignature : base64Url (base64UrlBytes encodedSignature) = encodedSignature ∧
        (base64UrlBytes encodedSignature).length = 32 := by decide +kernel
    have hnext : base64Url (base64UrlBytes nextSignature) = nextSignature ∧
        (base64UrlBytes nextSignature).length = 32 := by decide +kernel
    dsimp only [issuingNode]
    split
    · exact ⟨_, hsignature.2, hsignature.1.symm⟩
    · split
      · exact ⟨_, hnext.2, hnext.1.symm⟩
      · exact ⟨_, List.length_replicate, rfl⟩

/-- A token of 900 seconds. -/
def issuingConfig : IssuingConfig := ⟨⟨signingKey, [], "luxledger-api", 5⟩, 900⟩

theorem header_roundTrips : issuingNode.RoundTrips JWT_HEADER := by
  have htext : headerText ≠ payloadText := by decide +kernel
  have hstringify : issuingNode.stringifyJson JWT_HEADER = headerText := rfl
  rw [IssuingNode.RoundTrips, hstringify]
  simp only [issuingNode, node, htext, if_true, if_false]
  rfl

theorem payload_roundTrips :
    issuingNode.RoundTrips (issuedPayload serviceAuth issuingConfig 0) := by
  have hstringify : issuingNode.stringifyJson (issuedPayload serviceAuth issuingConfig 0) =
      payloadText := rfl
  rw [IssuingNode.RoundTrips, hstringify]
  simp only [issuingNode, node, if_true]
  rfl

/-- The configuration after the rotation. -/
def rotatedConfig : JwtAuthConfig := ⟨nextSigningKey, [signingKey], "luxledger-api", 5⟩

end Sample

/-- Issued at 0 and verified 904 seconds later, with a key that has been rotated. -/
theorem accessToken_lifetime_sample :
    let token := issueAccessToken Sample.issuingNode Sample.serviceAuth Sample.issuingConfig 0
    (verifyAccessTokenTraced Sample.issuingNode.toNode token Sample.rotatedConfig 904999).1 =
        .ok Sample.serviceAuth ∧
      (verifyAccessTokenTraced Sample.issuingNode.toNode token Sample.rotatedConfig 904999).2.isSome
        = true := by
  have hissued := accessToken_lifetime Sample.issuingNode_lawful Sample.header_roundTrips
    Sample.payload_roundTrips (by decide) (rfl : Sample.rotatedConfig.issuer = _)
    (by decide +kernel) 904999
  refine ⟨hissued.1 (by decide), hissued.2.2.1.mpr ?_⟩
  have hkeys : Sample.nextSigningKey ≠ Sample.signingKey := by decide +kernel
  have hsignatures : Sample.nextSignature ≠ Sample.encodedSignature := by decide +kernel
  have hinput : issuedSigningInput Sample.issuingNode Sample.serviceAuth Sample.issuingConfig 0 =
      Sample.signingInput := rfl
  simp only [CurrentKeyMatches, hinput]
  simpa [Sample.issuingNode, Sample.rotatedConfig, Sample.issuingConfig, hkeys] using hsignatures

end LuxLedger.Http
