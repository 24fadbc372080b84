/-
  Http/AccessToken.lean --- verification of bearer tokens.

  Source: `auth/jwt.ts`.  HMAC-SHA256, base64url and `JSON.parse` are Node's and
  parameters here.  Signatures are compared as UTF-8 buffers, which are equal exactly
  when the strings are.
-/
import LuxLedger.Javascript.Text
import LuxLedger.Relational.Statement
import Mathlib.Algebra.Order.Ring.Unbundled.Rat

set_option autoImplicit false

namespace LuxLedger.Http

open LuxLedger.Javascript LuxLedger.Relational

/-! ## Errors and identities -/

/-- What a hook may throw. -/
inductive ApiError where
  | unauthorized (message : String)
  | forbidden (message : String)
  | rateLimitExceeded (retryAfterSeconds : Int)
  deriving DecidableEq, Repr

/-- `ApiKeyRole`. -/
inductive ApiKeyRole where
  | admin
  | service
  deriving DecidableEq, Repr

/-- `ADMIN` and `SERVICE`. -/
def ApiKeyRole.ofString : String → Option ApiKeyRole
  | "ADMIN" => some .admin
  | "SERVICE" => some .service
  | _ => none

/-- `AuthContext`. -/
structure AuthContext where
  apiKeyId : String
  tenantId : String
  role : ApiKeyRole
  deriving DecidableEq, Repr

/-! ## Tokens -/

/-- The functions of Node that the verification calls. -/
structure Node where
  /-- the base64url digest of HMAC-SHA256 of an input under a key -/
  hmacSha256 : String → String → String
  /-- `Buffer.from(value, 'base64url').toString('utf8')` -/
  decodeBase64Url : String → String
  /-- `JSON.parse`, `none` where it throws -/
  parseJson : String → Option Json

/-- What `JwtAuthConfig` holds for the verification. -/
structure JwtAuthConfig where
  signingKey : String
  previousSigningKeys : List String
  issuer : String
  clockSkewSeconds : Nat
  deriving DecidableEq, Repr

/-- `JwtPayload`, its issuer checked. -/
structure JwtPayload where
  sub : String
  tenantId : String
  role : ApiKeyRole
  iat : Rat
  exp : Rat
  deriving DecidableEq, Repr

/-- What every bad token is answered. -/
def invalidAccessToken : ApiError := .unauthorized "Invalid access token"

/-- `assertPayload`. -/
def assertPayload (value : Json) (expectedIssuer : String) : Except ApiError JwtPayload :=
  match value.stringField? "sub", value.stringField? "tenant_id",
      (value.stringField? "role").bind ApiKeyRole.ofString, value.numberField? "iat",
      value.numberField? "exp" with
  | some sub, some tenantId, some role, some iat, some exp => do
      require (value.stringField? "iss" = some expectedIssuer ∧ iat < exp) invalidAccessToken
      return { sub, tenantId, role, iat, exp }
  | _, _, _, _, _ => .error invalidAccessToken

/-- `hasValidSignature`. -/
def hasValidSignature (node : Node) (encodedSignature signingInput verificationKey : String) :
    Bool :=
  encodedSignature = node.hmacSha256 signingInput verificationKey

/-- `verifyAccessToken` at a time in milliseconds.  With the identity comes the
`previousSigningKeyIndex` that `onPreviousSigningKeyUsed` is called with. -/
def verifyAccessToken (node : Node) (token : String) (config : JwtAuthConfig) (now : Int) :
    Except ApiError (AuthContext × Option Nat) :=
  match split token '.' with
  | [encodedHeader, encodedPayload, encodedSignature] => do
      require (encodedHeader ≠ "" ∧ encodedPayload ≠ "" ∧ encodedSignature ≠ "") invalidAccessToken
      match node.parseJson (node.decodeBase64Url encodedHeader),
          node.parseJson (node.decodeBase64Url encodedPayload) with
      | some header, some payloadValue => do
          require (header.stringField? "alg" = some "HS256" ∧
            header.stringField? "typ" = some "JWT") invalidAccessToken
          let payload ← assertPayload payloadValue config.issuer
          let signingInput := encodedHeader ++ "." ++ encodedPayload
          match (config.signingKey :: config.previousSigningKeys).findIdx?
              (hasValidSignature node encodedSignature signingInput) with
          | none => .error invalidAccessToken
          | some verificationKeyIndex => do
              let nowUnix := now / 1000
              require (payload.iat ≤ ((nowUnix + config.clockSkewSeconds : Int) : Rat))
                invalidAccessToken
              require (((nowUnix - config.clockSkewSeconds : Int) : Rat) < payload.exp)
                (.unauthorized "Access token expired")
              return (⟨payload.sub, payload.tenantId, payload.role⟩,
                if 0 < verificationKeyIndex then some (verificationKeyIndex - 1) else none)
      | _, _ => .error invalidAccessToken
  | _ => .error invalidAccessToken

end LuxLedger.Http
