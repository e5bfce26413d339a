import BrainMate.Gateway.RateLimiter
import BrainMate.Gateway.World

/-! The stores that `require_auth` asks about a request besides those of tokens and sessions:
`nonce_store.rs`, `waf_feedback.rs`, `risk_engine.rs`, and the check of `rate_limiter.rs`. -/

namespace BrainMate.Gateway

/-- A store registers the nonces of requests that name no region under its own. -/
structure NonceStore where
  regionId : String
  deriving DecidableEq, Repr

namespace NonceStore

def nonceTtlSecs : Nat := 300

def key (regionId requestId : String) : RedisKey := .nonce (regionId ++ ":" ++ requestId)

def isNameChar (c : Char) : Bool := c.isAlphanum || c == '-' || c == '_' || c == '.'

/-- The check both parts of a key pass. -/
def validateName (maxLen : Nat) (subject format : String) (name : String) : Except ApiError Unit :=
  if (trim name).isEmpty || maxLen < name.utf8ByteSize then .error (.badRequest subject)
  else if !(name.toList.all isNameChar) then .error (.badRequest format)
  else .ok ()

def validateRequestId (requestId : String) : Except ApiError Unit :=
  validateName 256 "invalid request nonce" "invalid request nonce format" requestId

def validateRegionId (regionId : String) : Except ApiError Unit :=
  validateName 64 "invalid nonce region" "invalid nonce region format" regionId

/-- The region of a request, or that of the store. -/
def effectiveRegion (store : NonceStore) (requestRegion : Option String) : String :=
  ((requestRegion.map trim).filter fun region => !region.isEmpty).elim store.regionId String.ofList

/-- Whether the nonce was not registered yet. -/
def registerNonce (store : NonceStore) (requestId : String) (requestRegion : Option String) :
    Procedure (Except ApiError Bool) :=
  match validateRequestId requestId with
  | .error error => return .error error
  | .ok () =>
    let region := store.effectiveRegion requestRegion
    match validateRegionId region with
    | .error error => return .error error
    | .ok () => do
      match ← redis (.setNxEx (key region requestId) (.text "1") nonceTtlSecs) with
      | .error error =>
        return .error (.serviceUnavailable ("nonce write failed: " ++ error.message))
      | .ok fresh => return .ok fresh

private theorem validateName_ok {maxLen : Nat} {subject format name : String}
    (valid : validateName maxLen subject format name = .ok ()) :
    ∀ c ∈ name.toList, isNameChar c = true := by
  unfold validateName at valid
  split at valid
  · cases valid
  · split at valid
    · cases valid
    · rename_i chars
      exact List.all_eq_true.mp (by simpa using chars)

theorem colon_not_mem {maxLen : Nat} {subject format name : String}
    (valid : validateName maxLen subject format name = .ok ()) : ':' ∉ name.toList := by
  intro member
  exact absurd (validateName_ok valid ':' member) (by decide)

end NonceStore

namespace WafFeedback

def blockKey (ip : String) : RedisKey := .wafBlock ip

def auditKey (requestId : String) : RedisKey := .wafAudit requestId

def auditTtlSecs : Nat := 86400

def isAnonymous (ip : String) : Bool := (trim ip).isEmpty || ip == "unknown"

def isIpBlocked (ip : String) : Procedure (Except ApiError Bool) :=
  if isAnonymous ip then return .ok false
  else do
    match ← redis (.existsKey (blockKey ip)) with
    | .error error =>
      return .error (.serviceUnavailable ("waf blocklist lookup failed: " ++ error.message))
    | .ok blocked => return .ok blocked

def blockIp (ip : String) (ttlSecs : Nat) : Procedure (Except ApiError Unit) :=
  if isAnonymous ip || ttlSecs == 0 then return .ok ()
  else do
    match ← redis (.setEx (blockKey ip) (.text "1") ttlSecs) with
    | .error error =>
      return .error (.serviceUnavailable ("waf block write failed: " ++ error.message))
    | .ok () => return .ok ()

def recordAuditEvent (event : AuditEvent) : Procedure (Except ApiError Unit) := do
  match ← redis (.setEx (auditKey event.requestId) (.audit event) auditTtlSecs) with
  | .error error =>
    return .error (.serviceUnavailable ("waf audit write failed: " ++ error.message))
  | .ok () => return .ok ()

end WafFeedback

inductive RateLimitScope where
  | user
  | ip
  | endpoint
  deriving DecidableEq, Repr

def RateLimitScope.asStr : RateLimitScope → String
  | .user => "user"
  | .ip => "ip"
  | .endpoint => "endpoint"

namespace RateLimiter

def redisKey (sha256Hex : String → String) (scope : RateLimitScope) (id : String) : RedisKey :=
  .rateLimit (scope.asStr ++ ":" ++ sha256Hex id)

/-- `check`, by the clock of the gateway. -/
def checkScope (limiter : RateLimiter) (sha256Hex : String → String) (scope : RateLimitScope)
    (id : String) : Procedure (Except RateLimitError Unit) := do
  let now ← nowMs
  match ← redis (.takeToken (redisKey sha256Hex scope id) limiter.burst limiter.refillPerSec now) with
  | .error _ => return .error .unavailable
  | .ok (true, _) => return .ok ()
  | .ok (false, waitSecs) => return .error (.limited (max waitSecs 1))

end RateLimiter

inductive RiskLevel where
  | low
  | medium
  | high
  | critical
  deriving DecidableEq, Repr

def RiskLevel.fromScore (score : Nat) : RiskLevel :=
  if score ≤ 25 then .low else if score ≤ 50 then .medium else if score ≤ 75 then .high else .critical

def RiskLevel.asStr : RiskLevel → String
  | .low => "low"
  | .medium => "medium"
  | .high => "high"
  | .critical => "critical"

inductive RiskAction where
  | allow
  | logAndMonitor
  | requireStepUp
  | blockAndInvalidate
  deriving DecidableEq, Repr

def RiskAction.asStr : RiskAction → String
  | .allow => "allow"
  | .logAndMonitor => "log_and_monitor"
  | .requireStepUp => "require_step_up"
  | .blockAndInvalidate => "block_and_invalidate"

def RiskLevel.action : RiskLevel → RiskAction
  | .low => .allow
  | .medium => .logAndMonitor
  | .high => .requireStepUp
  | .critical => .blockAndInvalidate

structure RiskSignal where
  name : String
  weight : Nat
  detail : String
  deriving DecidableEq, Repr

structure RiskAssessment where
  score : Nat
  level : RiskLevel
  signals : List RiskSignal
  action : RiskAction
  deriving DecidableEq, Repr

structure RiskRequestContext where
  userId : String
  ip : String
  userAgent : String
  geo : Option GeoInfo
  deviceFingerprint : Option String
  deriving DecidableEq, Repr

/-- A journey that is too fast, or fast, with what the signal says of it. -/
inductive Travel where
  | impossible (detail : String)
  | suspicious (detail : String)
  deriving DecidableEq, Repr

def Travel.signal : Travel → RiskSignal
  | .impossible detail => ⟨"impossible_travel", 50, detail⟩
  | .suspicious detail => ⟨"geo_change", 15, detail⟩

/-- The digest of user ids, and the floating-point judgement of a journey: where from, where
to, and in how many seconds. -/
structure RiskEngine where
  sha256Hex : String → String
  travel : GeoInfo → GeoInfo → Nat → Option Travel

namespace RiskEngine

def contextTtlSecs : Nat := 86400 * 30

/-- The text up to the last of a character, with `.*` or `:*` for the rest. -/
def maskAfter (mark : Char) (ip : List Char) : List Char :=
  ((ip.reverse.dropWhile (· ≠ mark)).drop 1).reverse ++ [mark, '*']

def maskIp (ip : String) : String :=
  if ip.toList.contains '.' then String.ofList (maskAfter '.' ip.toList)
  else if ip.toList.contains ':' then String.ofList (maskAfter ':' ip.toList)
  else "***"

/-- The signals about the place of a request. -/
def placeSignals (prev : SessionContext) (ctx : RiskRequestContext) (travelled : Option Travel) :
    List RiskSignal :=
  match travelled with
  | some journey => [journey.signal]
  | none =>
    match prev.lastGeo, ctx.geo with
    | some prevGeo, some currGeo =>
      if prevGeo.country ≠ currGeo.country ∧ ctx.ip ∉ prev.knownIps then
        [⟨"country_change", 20,
          "Country changed from " ++ prevGeo.country ++ " to " ++ currGeo.country⟩]
      else []
    | _, _ => []

/-- The signals about the device of a request, around that about failed attempts. -/
def deviceSignals (prev : SessionContext) (ctx : RiskRequestContext) : List RiskSignal :=
  (match prev.deviceHash, ctx.deviceFingerprint with
    | some prevDevice, some currDevice =>
      if prevDevice ≠ currDevice then
        [⟨"device_mismatch", 25, "Device fingerprint does not match previous session"⟩]
      else []
    | _, _ => []) ++
  (if 3 ≤ prev.failedAttempts then
    [⟨"failed_attempts", 20, toString prev.failedAttempts ++ " failed auth attempts recently"⟩]
  else []) ++
  (match ctx.deviceFingerprint with
    | some device =>
      if device ∉ prev.knownDevices then
        [⟨"new_device", 15, "Request from a device not previously seen"⟩]
      else []
    | none => [])

/-- The signals of a request of a user who has been here before. -/
def signalsAgainst (prev : SessionContext) (ctx : RiskRequestContext) (travelled : Option Travel) :
    List RiskSignal :=
  (if prev.lastIp ≠ ctx.ip then
    [⟨"ip_change", 30, "IP changed from " ++ maskIp prev.lastIp ++ " to " ++ maskIp ctx.ip⟩]
  else []) ++ placeSignals prev ctx travelled ++ deviceSignals prev ctx ++
  (if ctx.ip ∉ prev.knownIps then
    [⟨"new_ip", 10, "IP " ++ maskIp ctx.ip ++ " not in known list"⟩]
  else [])

def firstSignals : List RiskSignal := [⟨"no_history", 10, "No prior session context available"⟩]

def assess (signals : List RiskSignal) : RiskAssessment :=
  let score := min (signals.map RiskSignal.weight).sum 100
  ⟨score, .fromScore score, signals, (RiskLevel.fromScore score).action⟩

/-- The newest of the items, of which so many are kept. -/
def remember (limit : Nat) (items : List String) (item : String) : List String :=
  if items.contains item then items
  else if limit < (items ++ [item]).length then (items ++ [item]).drop 1
  else items ++ [item]

variable (engine : RiskEngine)

def sessionContextKey (userId : String) : RedisKey := .riskContext (engine.sha256Hex userId)

def loadSessionContextRaw (key : RedisKey) : Procedure (Except ApiError (Option SessionContext)) := do
  match ← redis (.get key) with
  | .error error =>
    return .error (.serviceUnavailable ("risk engine read failed: " ++ error.message))
  | .ok none => return .ok none
  | .ok (some raw) =>
    match raw.asContext with
    | .ok context => return .ok (some context)
    | .error error =>
      return .error (.serviceUnavailable ("risk engine read failed: " ++ error.message))

def saveSessionContext (key : RedisKey) (context : SessionContext) : Procedure (Except ApiError Unit) := do
  match ← redis (.setEx key (.context context) contextTtlSecs) with
  | .error error =>
    return .error (.serviceUnavailable ("risk engine write failed: " ++ error.message))
  | .ok () => return .ok ()

/-- The context of a user after a request. -/
def contextAfter (ctx : RiskRequestContext) (prev : Option SessionContext) (now : Nat) :
    SessionContext where
  userId := ctx.userId
  lastIp := ctx.ip
  lastGeo := ctx.geo
  deviceHash := ctx.deviceFingerprint
  lastSeen := now
  failedAttempts := 0
  knownIps := remember 20 (prev.elim [] SessionContext.knownIps) ctx.ip
  knownDevices :=
    let known := prev.elim [] SessionContext.knownDevices
    ctx.deviceFingerprint.elim known (remember 10 known)

def updateSessionContext (ctx : RiskRequestContext) (prev : Option SessionContext) :
    Procedure (Except ApiError Unit) := do
  let now ← nowUnixSecs
  saveSessionContext (engine.sessionContextKey ctx.userId) (contextAfter ctx prev now)

/-- The journey from where the user was seen last. -/
def travelled (prev : SessionContext) (ctx : RiskRequestContext) : Procedure (Option Travel) :=
  match prev.lastGeo, ctx.geo with
  | some prevGeo, some currGeo => do
    let now ← nowUnixSecs
    return engine.travel prevGeo currGeo (now - prev.lastSeen)
  | _, _ => return none

def riskSignals (ctx : RiskRequestContext) : Option SessionContext → Procedure (List RiskSignal)
  | some prev => do return signalsAgainst prev ctx (← engine.travelled prev ctx)
  | none => return firstSignals

def evaluate (ctx : RiskRequestContext) : Procedure (Except ApiError RiskAssessment) := do
  match ← loadSessionContextRaw (engine.sessionContextKey ctx.userId) with
  | .error error => return .error error
  | .ok prev =>
    let assessment := assess (← engine.riskSignals ctx prev)
    match ← engine.updateSessionContext ctx prev with
    | .error error => return .error error
    | .ok () => return .ok assessment

def recordFailedAttempt (userId : String) : Procedure (Except ApiError Unit) := do
  match ← loadSessionContextRaw (engine.sessionContextKey userId) with
  | .error error => return .error error
  | .ok none => return .ok ()
  | .ok (some context) =>
    saveSessionContext (engine.sessionContextKey userId)
      { context with failedAttempts := min (context.failedAttempts + 1) (2 ^ 32 - 1) }

end RiskEngine

end BrainMate.Gateway
