import BrainMate.Gateway.StoreFrames
import BrainMate.Interleaving.Embedding

/-! `require_auth` of `auth.rs`: what a request passes before it reaches its handler, and the
audit event after it. Requests run among each other and among everything else the gateway
does. -/

namespace BrainMate.Gateway

open Interleaving System

inductive HttpMethod where
  | get
  | head
  | post
  | put
  | patch
  | delete
  | options
  | connect
  | trace
  | extension (name : String)
  deriving DecidableEq, Repr

namespace HttpMethod

def asStr : HttpMethod → String
  | .get => "GET"
  | .head => "HEAD"
  | .post => "POST"
  | .put => "PUT"
  | .patch => "PATCH"
  | .delete => "DELETE"
  | .options => "OPTIONS"
  | .connect => "CONNECT"
  | .trace => "TRACE"
  | .extension name => name

def isStateChanging : HttpMethod → Bool
  | .post | .put | .patch | .delete => true
  | .get | .head | .options | .connect | .trace | .extension _ => false

end HttpMethod

abbrev HeaderValue := List UInt8

/-- `HeaderValue::to_str`: visible ASCII, and tabs. -/
def HeaderValue.toStr (value : HeaderValue) : Option String :=
  if value.all fun byte => (32 ≤ byte && byte < 127) || byte == 9 then
    some (String.ofList (value.map fun byte => Char.ofNat byte.toNat))
  else none

structure HttpRequest where
  method : HttpMethod
  path : String
  /-- Names in lower case, each with a value. -/
  headers : List (String × HeaderValue)
  deriving DecidableEq, Repr

namespace HttpRequest

def text? (request : HttpRequest) (name : String) : Option String :=
  (request.headers.lookup name).bind HeaderValue.toStr

/-- The trimmed text of a header, where there is one. -/
def trimmed? (request : HttpRequest) (name : String) : Option String :=
  (((request.text? name).map trim).filter fun chars => !chars.isEmpty).map String.ofList

def nonceRegion (request : HttpRequest) : Option String := request.trimmed? "x-client-region"

def requestNonce (request : HttpRequest) : Option String := request.trimmed? "x-request-nonce"

/-- The id the client gives the request, or the UUID that is generated for it. -/
def extractRequestId (request : HttpRequest) (uuid : String) : String :=
  (request.text? "x-request-id").getD uuid

/-- What `split_once(' ')` leaves before and after the first blank. -/
def splitOnce (text : String) : Option (String × String) :=
  match text.toList.span (· ≠ ' ') with
  | (_, []) => none
  | (scheme, _ :: token) => some (String.ofList scheme, String.ofList token)

def extractBearerToken (request : HttpRequest) : Except ApiError String :=
  match request.headers.lookup "authorization" with
  | none => .error (.unauthorized "Authorization header is missing")
  | some value =>
    match value.toStr with
    | none => .error (.badRequest "Authorization header is malformed")
    | some text =>
      match splitOnce text with
      | none => .error (.badRequest "Authorization header must be Bearer token")
      | some (scheme, token) =>
        if scheme ≠ "Bearer" ∨ (trim token).isEmpty then
          .error (.unauthorized "Bearer token is missing")
        else if token.utf8ByteSize < 32 ∨ 8192 < token.utf8ByteSize then
          .error (.badRequest "Bearer token length is invalid")
        else .ok token

end HttpRequest

/-- A response as `require_auth` makes it: a refusal of its own, or what the handler answers
with the risk of the request. -/
inductive AuthResponse where
  | refused (error : ApiError)
  | rateLimited (waitSecs : Nat)
  | stepUp (score : Nat) (level : RiskLevel) (action : RiskAction)
  | handled (score : Nat) (level : RiskLevel) (action : RiskAction)
  deriving DecidableEq, Repr

/-- The state of an app, as far as `require_auth` reads it. What the gateway takes for the
address of a request, and the place it comes from, are functions of the request. -/
structure AuthGateway where
  sha256Hex : String → String
  verifier : Auth.Verifier
  db : Bool
  rateLimiter : RateLimiter
  riskEngine : RiskEngine
  nonceStore : NonceStore
  extractRemoteIp : HttpRequest → String
  extractGeo : HttpRequest → Option GeoInfo

inductive AuthCommand where
  | store (command : Command)
  /-- `next.run(request)`. -/
  | handle (request : HttpRequest) (context : Auth.UserContext)
  deriving DecidableEq

@[reducible] def AuthCommand.Reply : AuthCommand → Type
  | .store command => command.Reply
  | .handle _ _ => Unit

abbrev AuthProcedure := Program AuthCommand AuthCommand.Reply

/-- A procedure of the stores, as a part of `require_auth`. -/
def asking {α : Type} (procedure : Procedure α) : AuthProcedure α :=
  procedure.embed .store fun _ reply => reply

namespace AuthGateway

variable (gateway : AuthGateway)

/-- The refusal that follows from a check of a limit. -/
def enforceRateLimit (scope : RateLimitScope) (id : String) : Procedure (Except AuthResponse Unit) := do
  match ← gateway.rateLimiter.checkScope gateway.sha256Hex scope id with
  | .ok () => return .ok ()
  | .error (.limited waitSecs) => return .error (.rateLimited waitSecs)
  | .error .unavailable =>
    return .error (.refused (.serviceUnavailable "Rate limit backend unavailable"))

def enforcePreAuthRateLimits (remoteIp endpointId : String) :
    Procedure (Except AuthResponse Unit) := do
  match ← gateway.enforceRateLimit .ip remoteIp with
  | .error refusal => return .error refusal
  | .ok () => gateway.enforceRateLimit .endpoint endpointId

def enforceUserRateLimit (userId : String) : Procedure (Except AuthResponse Unit) :=
  gateway.enforceRateLimit .user userId

def buildRiskRequestContext (claims : ClerkClaims) (remoteIp : String) (request : HttpRequest) :
    RiskRequestContext where
  userId := claims.sub
  ip := remoteIp
  userAgent := (request.text? "user-agent").getD "unknown"
  geo := gateway.extractGeo request
  deviceFingerprint := request.text? "x-device-fingerprint"

/-- What a request of the highest risk costs its user; failures are ignored. -/
def blockAndInvalidate (claims : ClerkClaims) (remoteIp requestId : String) (risk : RiskAssessment) :
    Procedure Unit := do
  let ttl ← Auth.remainingTtl claims.exp
  if 0 < ttl then
    let _ ← TokenBlacklist.revoke gateway.db claims.jti ttl
  let _ ← SessionStore.revokeSession gateway.sha256Hex gateway.db claims.sid
  let _ ← WafFeedback.blockIp remoteIp 900
  let timestamp ← nowUnixSecs
  let _ ← WafFeedback.recordAuditEvent ⟨requestId, claims.sub, remoteIp, risk.level.asStr,
    risk.action.asStr, true, timestamp⟩

/-- The revocation and the session of a token. A session store that cannot be asked stops
what changes state, and what is not vouched for by the cache. -/
def checkTokenAndSession (claims : ClerkClaims) (source : Auth.Verifier.ClaimsSource)
    (method : HttpMethod) : Procedure (Except ApiError Unit) := do
  let blacklistCheck ← TokenBlacklist.isBlacklisted gateway.db claims.jti
  let sessionCheck ← SessionStore.validateSession gateway.db claims.sid claims.sub
  match blacklistCheck with
  | .error error => return .error error
  | .ok true => return .error (.unauthorized "Token has been revoked")
  | .ok false =>
    match sessionCheck with
    | .ok _ => return .ok ()
    | .error (.serviceUnavailable _) =>
      if method.isStateChanging ∨ source ≠ .cache then
        return .error (.serviceUnavailable "Session store unavailable for high-risk operation")
      else return .ok ()
    | .error error => return .error error

def enforceNonceProtection (method : HttpMethod) (requestNonce nonceRegion : Option String) :
    Procedure (Except ApiError Unit) :=
  if method.isStateChanging then
    match requestNonce with
    | none => return .error (.badRequest "x-request-nonce is required")
    | some nonce => do
      match ← gateway.nonceStore.registerNonce nonce nonceRegion with
      | .error error => return .error error
      | .ok false => return .error (.unauthorized "Replay attack detected")
      | .ok true => return .ok ()
  else return .ok ()

def userContext (claims : ClerkClaims) : Auth.UserContext where
  userId := claims.sub
  sessionId := claims.sid
  tokenId := claims.jti
  issuer := claims.iss
  orgId := claims.orgId
  orgRole := claims.orgRole
  issuedAt := claims.iat
  expiresAt := claims.exp

/-- The handler, and the event that records it. -/
def runHandler (request : HttpRequest) (claims : ClerkClaims) (remoteIp requestId : String)
    (risk : RiskAssessment) : AuthProcedure AuthResponse := do
  Program.request (AuthCommand.handle request (userContext claims))
  let timestamp ← asking nowUnixSecs
  let _ ← asking (WafFeedback.recordAuditEvent ⟨requestId, claims.sub, remoteIp, risk.level.asStr,
    risk.action.asStr, false, timestamp⟩)
  return .handled risk.score risk.level risk.action

/-- From the nonce on. -/
def admitFresh (request : HttpRequest) (claims : ClerkClaims) (remoteIp requestId : String)
    (risk : RiskAssessment) : AuthProcedure AuthResponse := do
  match ← asking (gateway.enforceNonceProtection request.method request.requestNonce
      request.nonceRegion) with
  | .error error => return .refused error
  | .ok () => runHandler request claims remoteIp requestId risk

/-- From the checks of the token and its session on. -/
def admitValid (request : HttpRequest) (claims : ClerkClaims) (source : Auth.Verifier.ClaimsSource)
    (remoteIp requestId : String) (risk : RiskAssessment) : AuthProcedure AuthResponse := do
  match ← asking (gateway.checkTokenAndSession claims source request.method) with
  | .error error => return .refused error
  | .ok () =>
    match ← asking (gateway.enforceUserRateLimit claims.sub) with
    | .error refusal => return refusal
    | .ok () => gateway.admitFresh request claims remoteIp requestId risk

/-- What the risk of a request decides. -/
def actOnRisk (request : HttpRequest) (claims : ClerkClaims) (source : Auth.Verifier.ClaimsSource)
    (remoteIp requestId : String) (risk : RiskAssessment) : AuthProcedure AuthResponse :=
  match risk.action with
  | .blockAndInvalidate => do
    asking (gateway.blockAndInvalidate claims remoteIp requestId risk)
    return .refused (.unauthorized "High-risk request blocked")
  | .requireStepUp => return .stepUp risk.score risk.level risk.action
  | .allow | .logAndMonitor => gateway.admitValid request claims source remoteIp requestId risk

/-- From the bearer token on. -/
def authenticate (request : HttpRequest) (remoteIp requestId token : String) :
    AuthProcedure AuthResponse := do
  match ← asking (WafFeedback.isIpBlocked remoteIp) with
  | .ok true => return .refused (.unauthorized "Request blocked by dynamic WAF policy")
  | _ =>
    match ← asking (gateway.verifier.getOrValidateClaims gateway.sha256Hex token) with
    | .error error => return .refused error
    | .ok (claims, source) =>
      match ← asking (gateway.riskEngine.evaluate
          (gateway.buildRiskRequestContext claims remoteIp request)) with
      | .error error => return .refused error
      | .ok risk => gateway.actOnRisk request claims source remoteIp requestId risk

def requireAuth (request : HttpRequest) (uuid : String) : AuthProcedure AuthResponse := do
  let requestId := request.extractRequestId uuid
  let remoteIp := gateway.extractRemoteIp request
  let endpointId := request.method.asStr ++ ":" ++ request.path
  match ← asking (gateway.enforcePreAuthRateLimits remoteIp endpointId) with
  | .error refusal => return refusal
  | .ok () =>
    match request.extractBearerToken with
    | .error error => return .refused error
    | .ok token => gateway.authenticate request remoteIp requestId token

end AuthGateway

/-- A request that arrives, with the UUID that would be generated for it. -/
structure Arrival where
  request : HttpRequest
  uuid : String
  deriving DecidableEq, Repr

/-- Time passes, or what is not `require_auth` issues a command: handlers, other routes, the
workers. Nothing but `require_auth` uses the nonces and the feedback of the WAF. -/
inductive GatewayEvent where
  | tick (milliseconds : Nat)
  | elsewhere (command : Command)
  deriving DecidableEq

def GatewayEvent.apply : GatewayEvent → World → World
  | .tick milliseconds, world => { world with clock := world.clock + milliseconds }
  | .elsewhere command, world =>
    if .nonce ∈ command.stores ∨ .waf ∈ command.stores then world else command.effect world

theorem GatewayEvent.clock_le (event : GatewayEvent) (world : World) :
    world.clock ≤ (event.apply world).clock := by
  cases event with
  | tick milliseconds => exact Nat.le_add_right _ _
  | elsewhere command =>
    simp only [GatewayEvent.apply]
    split
    · exact Nat.le_refl _
    · exact Nat.le_of_eq (Command.exec_clock .success command world).symm

def AuthCommand.exec (outcome : Outcome) : (command : AuthCommand) → World → command.Reply × World
  | .store command, world => Command.exec outcome command world
  | .handle _ _, world => ((), world)

@[simp] theorem AuthCommand.exec_clock (outcome : Outcome) (command : AuthCommand) (world : World) :
    (AuthCommand.exec outcome command world).2.clock = world.clock := by
  cases command with
  | store command => exact Command.exec_clock outcome command world
  | handle request context => rfl

@[reducible] def AuthGateway.system (gateway : AuthGateway) : System AuthCommand AuthCommand.Reply where
  World := World
  Outcome := Outcome
  Event := GatewayEvent
  Call := Arrival
  Result _ := AuthResponse
  exec := AuthCommand.exec
  environment := GatewayEvent.apply
  program arrival := gateway.requireAuth arrival.request arrival.uuid

/-- The key has the value, and will have it until then. -/
def World.HoldsUntil (world : World) (key : RedisKey) (value : RedisValue) (expiry : Nat) : Prop :=
  world.clock < expiry →
    ∃ deadline, world.redis key = some ⟨value, some deadline⟩ ∧ expiry ≤ deadline

namespace World.HoldsUntil

variable {world next : World} {key : RedisKey} {value : RedisValue} {expiry deadline : Nat}

theorem of_stored (stored : world.redis key = some ⟨value, some expiry⟩) :
    world.HoldsUntil key value expiry :=
  fun _ => ⟨expiry, stored, Nat.le_refl expiry⟩

theorem lookup (holds : world.HoldsUntil key value expiry) (within : world.clock < expiry) :
    world.lookup key = some value := by
  obtain ⟨deadline, stored, later⟩ := holds within
  have alive : world.clock < deadline := Nat.lt_of_lt_of_le within later
  simp [World.lookup, stored, Option.filter, RedisEntry.alive, alive]

/-- When the key is found free, the time is over. -/
theorem elapsed (holds : world.HoldsUntil key value expiry) (gone : world.lookup key = none) :
    expiry ≤ world.clock := by
  by_contra early
  rw [holds.lookup (Nat.lt_of_not_le early)] at gone
  cases gone

theorem of_same (holds : world.HoldsUntil key value expiry) (later : world.clock ≤ next.clock)
    (same : next.redis key = world.redis key) : next.HoldsUntil key value expiry := by
  intro within
  rw [same]
  exact holds (Nat.lt_of_le_of_lt later within)

/-- A command on other stores leaves it there. -/
theorem foreign (holds : world.HoldsUntil key value expiry) {command : Command}
    (foreign : key.owner ∉ command.stores) : (command.effect world).HoldsUntil key value expiry := by
  have same := (SamePart.refl key.owner world).spare foreign
  exact holds.of_same (Nat.le_of_eq same.clock.symm) (same.redis key rfl)

/-- So does what happens elsewhere in the gateway. -/
theorem of_event (holds : world.HoldsUntil key value expiry) (event : GatewayEvent)
    (own : key.owner = .nonce ∨ key.owner = .waf) :
    (event.apply world).HoldsUntil key value expiry := by
  cases event with
  | tick milliseconds =>
    exact holds.of_same (GatewayEvent.clock_le (.tick milliseconds) world) rfl
  | elsewhere command =>
    simp only [GatewayEvent.apply]
    split
    · exact holds
    · rename_i spared
      apply holds.foreign
      rintro member
      rcases own with same | same
      · exact spared (.inl (same ▸ member))
      · exact spared (.inr (same ▸ member))

end World.HoldsUntil

variable {α : Type}

/-- A command of a store, on one of these only. -/
def On (stores : List Store) : AuthCommand → Prop
  | .store command => Inside stores command
  | .handle _ _ => False

private theorem asking_on {stores : List Store} {procedure : Procedure α}
    (inside : procedure.Every (Inside stores)) : (asking procedure).Every (On stores) := by
  induction procedure with
  | done value => trivial
  | call command next ih => exact ⟨inside.1, fun reply => ih reply (inside.2 reply)⟩

theorem nowUnixSecs_inside {stores : List Store} : nowUnixSecs.Every (Inside stores) :=
  ⟨inside_now, fun _ => trivial⟩

namespace AuthGateway

variable (gateway : AuthGateway)

private theorem enforceRateLimit_inside (scope : RateLimitScope) (id : String) :
    (gateway.enforceRateLimit scope id).Every (Inside [.rateLimit]) := by
  apply (checkScope_inside gateway.sha256Hex gateway.rateLimiter scope id).bind
  rintro ((waitSecs | _) | _) <;> trivial

private theorem enforcePreAuthRateLimits_inside (remoteIp endpointId : String) :
    (gateway.enforcePreAuthRateLimits remoteIp endpointId).Every (Inside [.rateLimit]) := by
  apply (gateway.enforceRateLimit_inside .ip remoteIp).bind
  rintro (refusal | _)
  · trivial
  · exact gateway.enforceRateLimit_inside .endpoint endpointId

private theorem checkTokenAndSession_inside (claims : ClerkClaims)
    (source : Auth.Verifier.ClaimsSource)
    (method : HttpMethod) :
    (gateway.checkTokenAndSession claims source method).Every (Inside [.blacklist, .sessions]) := by
  apply Program.Every.bind
  · exact (isBlacklisted_inside gateway.db claims.jti).imp (Inside.wider (by decide))
  · intro blacklistCheck
    apply Program.Every.bind
    · exact (validateSession_inside gateway.db claims.sid claims.sub).imp (Inside.wider (by decide))
    · intro sessionCheck
      rcases blacklistCheck with error | _ | _
      · trivial
      · rcases sessionCheck with (_ | _ | _ | _ | _) | record
        · trivial
        · trivial
        · trivial
        · dsimp only
          split <;> trivial
        · trivial
        · trivial
      · trivial

theorem enforceNonceProtection_inside (method : HttpMethod) (requestNonce nonceRegion : Option String) :
    (gateway.enforceNonceProtection method requestNonce nonceRegion).Every (Inside [.nonce]) := by
  unfold enforceNonceProtection
  split
  · split
    · trivial
    · apply (registerNonce_inside gateway.nonceStore _ nonceRegion).bind
      rintro (error | _ | _) <;> trivial
  · trivial

theorem blockAndInvalidate_inside (claims : ClerkClaims) (remoteIp requestId : String)
    (risk : RiskAssessment) :
    (gateway.blockAndInvalidate claims remoteIp requestId risk).Every
      (Inside [.blacklist, .sessions, .waf]) := by
  have rest : ((do
      let _ ← SessionStore.revokeSession gateway.sha256Hex gateway.db claims.sid
      let _ ← WafFeedback.blockIp remoteIp 900
      let timestamp ← nowUnixSecs
      let _ ← WafFeedback.recordAuditEvent ⟨requestId, claims.sub, remoteIp, risk.level.asStr,
        risk.action.asStr, true, timestamp⟩) : Procedure Unit).Every
      (Inside [.blacklist, .sessions, .waf]) := by
    apply Program.Every.bind
    · exact (revokeSession_inside gateway.sha256Hex gateway.db claims.sid).imp
        (Inside.wider (by decide))
    · intro revoked
      apply Program.Every.bind
      · exact (blockIp_inside remoteIp 900).imp (Inside.wider (by decide))
      · intro blocked
        apply nowUnixSecs_inside.bind
        intro timestamp
        apply Program.Every.bind
        · exact (recordAuditEvent_inside _).imp (Inside.wider (by decide))
        · intro recorded
          trivial
  refine ⟨inside_now, fun now => ?_⟩
  dsimp only [Program.bind, Program.pure_eq]
  split
  · apply Program.Every.bind
    · exact (revokeToken_inside gateway.db claims.jti _).imp (Inside.wider (by decide))
    · intro revoked
      exact rest
  · exact rest

end AuthGateway

/-- Commands on these stores are allowed in every phase and do not end it. -/
structure Ignores (observer : Observer AuthCommand AuthCommand.Reply) (stores : List Store) : Prop where
  allowed : ∀ phase command, On stores command → observer.allowed phase command
  stays : ∀ phase command reply, On stores command → observer.advance phase command reply = phase

variable {observer : Observer AuthCommand AuthCommand.Reply}

theorem Ignores.follows {stores : List Store} (ignores : Ignores observer stores)
    {procedure : Procedure α} (inside : procedure.Every (Inside stores)) (phase : observer.Phase) :
    observer.Follows (fun _ final => final = phase) phase (asking procedure) :=
  Observer.follows_of_every observer phase (ignores.allowed phase) (ignores.stays phase)
    (asking_on inside)

namespace AuthGateway

variable (gateway : AuthGateway)

/-- The stores that are asked about a request besides the nonces and the feedback of the WAF. -/
def checkedStores : List Store := [.rateLimit, .authCache, .risk, .blacklist, .sessions]

/-- What is left to show of an observer that ignores these. -/
theorem requireAuth_follows (ignores : Ignores observer checkedStores)
    (lookup : ∀ ip, observer.Follows (fun _ phase => phase = observer.rest) observer.rest
      (asking (WafFeedback.isIpBlocked ip)))
    (blocking : ∀ claims remoteIp requestId risk, observer.Follows (fun _ _ => True) observer.rest
      (asking (gateway.blockAndInvalidate claims remoteIp requestId risk)))
    (fresh : ∀ request claims remoteIp requestId risk, observer.Follows (fun _ _ => True)
      observer.rest (gateway.admitFresh request claims remoteIp requestId risk))
    (request : HttpRequest) (uuid : String) :
    observer.Follows (fun _ _ => True) observer.rest (gateway.requireAuth request uuid) := by
  have checked {β : Type} {procedure : Procedure β} {stores : List Store}
      (inside : procedure.Every (Inside stores)) (subset : stores ⊆ checkedStores) :
      observer.Follows (fun _ phase => phase = observer.rest) observer.rest (asking procedure) :=
    ignores.follows (inside.imp (Inside.wider subset)) observer.rest
  have admits (claims : ClerkClaims) (source : Auth.Verifier.ClaimsSource)
      (remoteIp requestId : String) (risk : RiskAssessment) :
      observer.Follows (fun _ _ => True) observer.rest
        (gateway.admitValid request claims source remoteIp requestId risk) := by
    apply (checked (gateway.checkTokenAndSession_inside claims source request.method)
      (by decide)).bind
    rintro (error | _) phase rfl
    · trivial
    · apply (checked (gateway.enforceRateLimit_inside .user claims.sub) (by decide)).bind
      rintro (refusal | _) phase rfl
      · trivial
      · exact fresh request claims remoteIp requestId risk
  have acts (claims : ClerkClaims) (source : Auth.Verifier.ClaimsSource)
      (remoteIp requestId : String) (risk : RiskAssessment) :
      observer.Follows (fun _ _ => True) observer.rest
        (gateway.actOnRisk request claims source remoteIp requestId risk) := by
    unfold actOnRisk
    split
    · exact (blocking claims remoteIp requestId risk).bind fun _ _ _ => trivial
    · trivial
    · exact admits claims source remoteIp requestId risk
    · exact admits claims source remoteIp requestId risk
  have authenticates (remoteIp requestId token : String) :
      observer.Follows (fun _ _ => True) observer.rest
        (gateway.authenticate request remoteIp requestId token) := by
    have validates : observer.Follows (fun _ _ => True) observer.rest (do
        match ← asking (gateway.verifier.getOrValidateClaims gateway.sha256Hex token) with
        | .error error => return .refused error
        | .ok (claims, source) =>
          match ← asking (gateway.riskEngine.evaluate
              (gateway.buildRiskRequestContext claims remoteIp request)) with
          | .error error => return .refused error
          | .ok risk => gateway.actOnRisk request claims source remoteIp requestId risk :
        AuthProcedure AuthResponse) := by
      apply (checked (getOrValidateClaims_inside gateway.verifier gateway.sha256Hex token)
        (by decide)).bind
      rintro (error | ⟨claims, source⟩) phase rfl
      · trivial
      · apply (checked (evaluateRisk_inside gateway.riskEngine _) (by decide)).bind
        rintro (error | risk) phase rfl
        · trivial
        · exact acts claims source remoteIp requestId risk
    apply (lookup remoteIp).bind
    rintro (error | _ | _) phase rfl
    · exact validates
    · exact validates
    · trivial
  apply (checked (gateway.enforcePreAuthRateLimits_inside _ _) (by decide)).bind
  rintro (refusal | _) phase rfl
  · trivial
  · dsimp only
    split
    · trivial
    · exact authenticates _ _ _

end AuthGateway

namespace Sample

def longToken : String := "bearer-token-0123456789012345678901"

def remoteIp : String := "203.0.113.7"

/-- SHA-256 on what the concrete requests have hashed. -/
def requestSha256Hex (text : String) : String :=
  if text = longToken then
    "e9a44e77bfedcc6b06e8153443a72abc584a223b915db9d248f9fd94c2e601ea"
  else if text = remoteIp then
    "fec52565aa0cf18f57d7cf5b3ac728503b8992d2d6f7d46da1d1201090902b02"
  else if text = "POST:/v1/auth/logout" then
    "fb448382dc69aa18b45e054c408362d81ff1d02370d3264d2b77a7e35f999f16"
  else if text = "GET:/v1/auth/session" then
    "ec0941b9b31f025519c0676672d02fd11c769ec222e64bee75e4fe3b32519838"
  else sha256Hex text

def authGateway : AuthGateway where
  sha256Hex := requestSha256Hex
  verifier :=
    { verifier with
      decodeHeader := fun token => if token = longToken then some ⟨true, some "kid_1"⟩ else none
      decode := fun validation _ token now =>
        if token = longToken ∧ now ≤ claims.exp + validation.leeway then some claims else none }
  db := true
  rateLimiter := ⟨20, 10, by decide, by decide⟩
  riskEngine := ⟨requestSha256Hex, fun _ _ _ => none⟩
  nonceStore := ⟨"global"⟩
  extractRemoteIp _ := remoteIp
  extractGeo _ := none

/-- A world with the session of the sample claims. -/
def signedIn : World :=
  (World.empty 1000000).store (.session "sid_1") ⟨.session ⟨"user_1", none, none⟩, some 2000000⟩

def headerValue (text : String) : HeaderValue := text.toList.map fun c => UInt8.ofNat c.toNat

/-- A request with the token and these headers. -/
def request (method : HttpMethod) (path : String) (headers : List (String × String)) : HttpRequest where
  method := method
  path := path
  headers := (("authorization", "Bearer " ++ longToken) :: headers).map fun header =>
    (header.1, headerValue header.2)

def stepsOf (client count : Nat) : List authGateway.system.Move :=
  List.replicate count (.act (.step client .success))

end Sample

end BrainMate.Gateway
