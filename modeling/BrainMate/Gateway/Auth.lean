import BrainMate.Gateway.SessionStore
import BrainMate.Gateway.Blacklist

/-! The parts of `auth.rs` and `auth_cache.rs` that decide whether a bearer
token is accepted and that withdraw it, with the queue of `reconciliation.rs`
that takes over a withdrawal that failed. -/

namespace BrainMate.Gateway

namespace Reconciliation

def maxAttempts : Nat := 5

def idemTtlSecs : Nat := 86400

def operationId : ReconciliationOp → String
  | .tokenRevocation jti _ => "revoke:" ++ jti
  | .sessionSync sessionId _ _ (some version) => "sync:" ++ sessionId ++ ":v" ++ toString version
  | .sessionSync sessionId _ _ none => "sync:" ++ sessionId
  | .sessionRevoke sessionId _ _ (some version) =>
    "logout:" ++ sessionId ++ ":v" ++ toString version
  | .sessionRevoke sessionId _ _ none => "logout:" ++ sessionId
  | .dbCleanup => "db_cleanup:periodic"

/-- The ZADD of `enqueue`; its failure is only logged. -/
def addPending (entry : QueueEntry) : Procedure Unit := do
  let score ← nowMs
  let _ ← redis (.zadd .reconciliationPending score (.entry entry .serde))
  return ()

def enqueue (op : ReconciliationOp) : Procedure Unit := do
  let createdAt ← nowMs
  let entry : QueueEntry := ⟨operationId op, op, 0, maxAttempts, createdAt, none⟩
  match ← redis (.setNxEx (.reconciliationIdem entry.id) (.text "1") idemTtlSecs) with
  | .ok true => addPending entry
  | .ok false => return ()
  | .error _ => addPending entry

end Reconciliation

namespace AuthCache

def validateTokenHash (tokenHash : String) : Except ApiError Unit :=
  let isHexDigit (c : Char) := c.isDigit || ('a' ≤ c && c ≤ 'f') || ('A' ≤ c && c ≤ 'F')
  if tokenHash.utf8ByteSize != 64 || !(tokenHash.toList.all isHexDigit) then
    .error (.badRequest "invalid token hash")
  else .ok ()

def get (tokenHash : String) : Procedure (Except ApiError (Option ClerkClaims)) :=
  match validateTokenHash tokenHash with
  | .error error => return .error error
  | .ok () => do
    match ← redis (.get (.auth tokenHash)) with
    | .error error =>
      return .error (.serviceUnavailable ("auth cache lookup failed: " ++ error.message))
    | .ok none => return .ok none
    | .ok (some raw) =>
      match raw.asClaims with
      | .ok claims => return .ok (some claims)
      | .error error =>
        return .error (.serviceUnavailable ("auth cache lookup failed: " ++ error.message))

def put (ttlSecs : Nat) (tokenHash : String) (claims : ClerkClaims) :
    Procedure (Except ApiError Unit) :=
  match validateTokenHash tokenHash with
  | .error error => return .error error
  | .ok () => do
    match ← redis (.setEx (.auth tokenHash) (.claims claims) ttlSecs) with
    | .error error =>
      return .error (.serviceUnavailable ("auth cache write failed: " ++ error.message))
    | .ok () => return .ok ()

end AuthCache

namespace Auth

/-- The settings `validate_token` gives to `jsonwebtoken`. -/
structure Validation where
  issuer : String
  requiredSpecClaims : List String
  validateNbf : Bool
  leeway : Nat
  audience : Option String
  deriving DecidableEq, Repr

structure JwtHeader where
  isRs256 : Bool
  kid : Option String
  deriving DecidableEq, Repr

/-- What the gateway takes from `jsonwebtoken` and from the key set endpoint, and
the settings of its own configuration. `decode` is given the second at which it
checks the time claims; `signingKey` answers for the JWKS cache. -/
structure Verifier where
  DecodingKey : Type
  decodeHeader : String → Option JwtHeader
  signingKey : String → Except ApiError DecodingKey
  forceRefresh : Except ApiError Unit
  decode : Validation → DecodingKey → String → Nat → Option ClerkClaims
  clerkIssuer : String
  clerkAudience : Option String
  clerkAuthorizedParty : Option String
  authCacheTtlSecs : Nat

namespace Verifier

variable (verifier : Verifier)

def validation : Validation :=
  ⟨verifier.clerkIssuer, ["sub", "sid", "jti", "iss", "exp"], true, 10, verifier.clerkAudience⟩

/-- The checks of `validate_token` on decoded claims. -/
def acceptClaims (claims : ClerkClaims) : Except ApiError ClerkClaims :=
  if verifier.clerkAuthorizedParty.isSome && claims.azp != verifier.clerkAuthorizedParty then
    .error (.unauthorized "Token authorized party does not match policy")
  else
    match SessionStore.validateSessionId claims.sid with
    | .error error => .error error
    | .ok () =>
      match TokenBlacklist.validateTokenId claims.jti with
      | .error error => .error error
      | .ok () => .ok claims

inductive ClaimsSource where
  | cache
  | jwks
  deriving DecidableEq, Repr

end Verifier

/-- What the check of a token calls: the two caches and the clock, in the commands of a model. -/
structure Services (verifier : Verifier) (m : Type → Type) where
  getCached : String → m (Except ApiError (Option ClerkClaims))
  putCached : String → ClerkClaims → m (Except ApiError Unit)
  getDecodingKey : String → m (Except ApiError verifier.DecodingKey)
  forceRefresh : m (Except ApiError Unit)
  nowUnixSecs : m Nat

namespace Services

variable {verifier : Verifier} {m : Type → Type} [Monad m] (services : Services verifier m)

/-- One forced refresh of the key set and one more decode. -/
def retryDecode (kid token : String) : m (Except ApiError ClerkClaims) := do
  match ← services.forceRefresh with
  | .error error => return .error error
  | .ok () =>
    match ← services.getDecodingKey kid with
    | .error error => return .error error
    | .ok refreshedKey =>
      let now ← services.nowUnixSecs
      match verifier.decode verifier.validation refreshedKey token now with
      | none => return .error (.unauthorized "Invalid, expired, or revoked token")
      | some claims => return verifier.acceptClaims claims

def validateToken (token : String) : m (Except ApiError ClerkClaims) :=
  match verifier.decodeHeader token with
  | none => return .error (.unauthorized "Invalid authorization token header")
  | some header =>
    if !header.isRs256 then return .error (.unauthorized "Unsupported token algorithm")
    else
      match header.kid with
      | none => return .error (.unauthorized "Token key id (kid) is missing")
      | some kid => do
        match ← services.getDecodingKey kid with
        | .error error => return .error error
        | .ok decodingKey =>
          let now ← services.nowUnixSecs
          match verifier.decode verifier.validation decodingKey token now with
          | some claims => return verifier.acceptClaims claims
          | none => services.retryDecode kid token

def validateAndCache (tokenHash token : String) :
    m (Except ApiError (ClerkClaims × Verifier.ClaimsSource)) := do
  match ← services.validateToken token with
  | .error error => return .error error
  | .ok claims =>
    match ← services.putCached tokenHash claims with
    | .error error => return .error error
    | .ok () => return .ok (claims, .jwks)

def getOrValidateClaims (tokenHash token : String) :
    m (Except ApiError (ClerkClaims × Verifier.ClaimsSource)) := do
  match ← services.getCached tokenHash with
  | .error error => return .error error
  | .ok none => services.validateAndCache tokenHash token
  | .ok (some cached) =>
    let now ← services.nowUnixSecs
    if now < cached.exp then return .ok (cached, .cache)
    else services.validateAndCache tokenHash token

end Services

namespace Verifier

variable (verifier : Verifier)

/-- The JWKS cache answers as the verifier says. -/
def services : Services verifier Procedure where
  getCached := AuthCache.get
  putCached := AuthCache.put verifier.authCacheTtlSecs
  getDecodingKey kid := return verifier.signingKey kid
  forceRefresh := return verifier.forceRefresh
  nowUnixSecs := Gateway.nowUnixSecs

@[simp] theorem services_getCached : verifier.services.getCached = AuthCache.get := rfl

@[simp] theorem services_putCached :
    verifier.services.putCached = AuthCache.put verifier.authCacheTtlSecs := rfl

@[simp] theorem services_getDecodingKey (kid : String) :
    verifier.services.getDecodingKey kid = .done (verifier.signingKey kid) := rfl

@[simp] theorem services_forceRefresh :
    verifier.services.forceRefresh = .done verifier.forceRefresh := rfl

@[simp] theorem services_nowUnixSecs : verifier.services.nowUnixSecs = Gateway.nowUnixSecs := rfl

def getOrValidateClaims (sha256Hex : String → String) (token : String) :
    Procedure (Except ApiError (ClerkClaims × ClaimsSource)) :=
  verifier.services.getOrValidateClaims (sha256Hex token) token

end Verifier

structure UserContext where
  userId : String
  sessionId : String
  tokenId : String
  issuer : String
  orgId : Option String
  orgRole : Option String
  issuedAt : Option Nat
  expiresAt : Nat
  deriving DecidableEq, Repr

structure CreateSessionRequest where
  sid : String
  userId : String
  issuedAt : Option Nat
  deviceInfo : Option String
  expiresAt : Nat
  deriving DecidableEq, Repr

def remainingTtl (expiresAt : Nat) : Procedure Nat := do
  return expiresAt - (← nowUnixSecs)

section

variable (sha256Hex : String → String) (db reconciliation : Bool)

/-- Step 1 of `logout`: blacklist the token, or queue its revocation. -/
def logoutToken (context : UserContext) : Procedure Unit := do
  let ttl ← remainingTtl context.expiresAt
  if 0 < ttl then
    match ← TokenBlacklist.revoke db context.tokenId ttl with
    | .ok () => return ()
    | .error _ =>
      if reconciliation then Reconciliation.enqueue (.tokenRevocation context.tokenId ttl)
      else return ()
  else return ()

/-- Step 2 of `logout`: revoke the session, or queue its revocation. -/
def logoutSession (context : UserContext) : Procedure Unit := do
  match ← SessionStore.revokeSession sha256Hex db context.sessionId with
  | .ok () => return ()
  | .error _ =>
    if reconciliation then
      Reconciliation.enqueue
        (.sessionRevoke context.sessionId (some context.tokenId) (some context.expiresAt) none)
    else return ()

/-- The handler answers 204 whatever happened. -/
def logout (context : UserContext) : Procedure (Except ApiError Unit) := do
  logoutToken db reconciliation context
  logoutSession sha256Hex db reconciliation context
  return .ok ()

/-- The internal handler `create_session` of `auth.rs`. -/
def createSession (maxSessionTtlSecs maxSessionsPerUser : Nat) (payload : CreateSessionRequest) :
    Procedure (Except ApiError Unit) :=
  match SessionStore.validateSessionId payload.sid with
  | .error error => return .error error
  | .ok () => do
    let remaining ← remainingTtl payload.expiresAt
    if remaining = 0 then return .error (.badRequest "expires_at must be in the future")
    else
      SessionStore.createSession sha256Hex db payload.sid payload.userId payload.issuedAt
        payload.deviceInfo (min remaining maxSessionTtlSecs) maxSessionsPerUser

/-- The internal handler `revoke_session` of `auth.rs`. -/
def revokeSession (sessionId : String) (jti : Option String) (tokenExp : Option Nat) :
    Procedure (Except ApiError Unit) := do
  match ← SessionStore.revokeSession sha256Hex db sessionId with
  | .error error => return .error error
  | .ok () =>
    match jti, tokenExp with
    | some jti, some tokenExp =>
      let ttl ← remainingTtl tokenExp
      if 0 < ttl then TokenBlacklist.revoke db jti ttl else return .ok ()
    | _, _ => return .ok ()

end

end Auth

end BrainMate.Gateway
