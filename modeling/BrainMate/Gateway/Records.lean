import Mathlib.Algebra.Order.Ring.Int

/-! The data the auth gateway keeps: API errors, cached records, table rows,
and the keys and values of its Redis entries. -/

namespace BrainMate.Gateway

/-- `u64 as i64`. -/
def asI64 (value : Nat) : Int := ((value : Int) + 2 ^ 63) % 2 ^ 64 - 2 ^ 63

/-- `i64 as u64`. -/
def asU64 (value : Int) : Nat := (value % 2 ^ 64).toNat

/-- `i64 + i64` as compiled without overflow checks. -/
def addI64 (left right : Int) : Int := (left + right + 2 ^ 63) % 2 ^ 64 - 2 ^ 63

theorem asI64_of_lt {value : Nat} (small : value < 2 ^ 63) : asI64 value = value := by
  unfold asI64
  omega

/-- The cast reads the 64 bits of the number. -/
theorem asI64_mod (value : Nat) : asI64 (value % 2 ^ 64) = asI64 value := by
  unfold asI64
  omega

theorem asU64_of_nonneg {value : Int} (nonneg : 0 ≤ value) (small : value < 2 ^ 64) :
    (asU64 value : Int) = value := by
  unfold asU64
  omega

theorem addI64_of_lt {left right : Int} (low : -2 ^ 63 ≤ left + right)
    (high : left + right < 2 ^ 63) : addI64 left right = left + right := by
  unfold addI64
  omega

/-- An expiry computed in `i64` is right below the range's end. -/
theorem addI64_asI64 {start ttlSecs : Nat} (small : start + ttlSecs < 2 ^ 63) :
    addI64 (asI64 start) (asI64 ttlSecs) = (start + ttlSecs : Nat) := by
  rw [asI64_of_lt (by omega), asI64_of_lt (by omega), addI64_of_lt (by omega) (by omega)]
  omega

/-- The characters `str::trim` removes: Unicode `White_Space`. -/
def isRustWhitespace (c : Char) : Bool :=
  let code := c.toNat
  (9 ≤ code && code ≤ 13) || code == 0x20 || code == 0x85 || code == 0xA0 || code == 0x1680 ||
    (0x2000 ≤ code && code ≤ 0x200A) || code == 0x2028 || code == 0x2029 || code == 0x202F ||
    code == 0x205F || code == 0x3000

/-- `str::trim`, on the characters of the string. -/
def trim (text : String) : List Char :=
  ((text.toList.dropWhile isRustWhitespace).reverse.dropWhile isRustWhitespace).reverse

/-- `str::len`: the number of UTF-8 bytes. -/
def utf8Len (chars : List Char) : Nat := (chars.map Char.utf8Size).sum

inductive ApiError where
  | unauthorized (message : String)
  | badRequest (message : String)
  | tooManyRequests (message : String)
  | serviceUnavailable (message : String)
  | notFound (message : String)
  deriving DecidableEq, Repr

/-- `ApiError`'s `Display`. -/
def ApiError.message : ApiError → String
  | .unauthorized detail => "unauthorized: " ++ detail
  | .badRequest detail => "bad request: " ++ detail
  | .tooManyRequests detail => "too many requests: " ++ detail
  | .serviceUnavailable detail => "service unavailable: " ++ detail
  | .notFound detail => "not found: " ++ detail

/-- The status of an error's response. -/
def ApiError.status : ApiError → Nat
  | .unauthorized _ => 401
  | .badRequest _ => 400
  | .tooManyRequests _ => 429
  | .serviceUnavailable _ => 503
  | .notFound _ => 404

inductive RedisLayerError where
  | unavailable (detail : String)
  | command (detail : String)
  | serialization (detail : String)
  deriving DecidableEq, Repr

def RedisLayerError.message : RedisLayerError → String
  | .unavailable detail => "redis unavailable: " ++ detail
  | .command detail => "redis command failed: " ++ detail
  | .serialization detail => "serialization failed: " ++ detail

/-- The two kinds of `sqlx::Error` the gateway tells apart. -/
inductive DbError where
  | protocol (detail : String)
  | other (detail : String)
  deriving DecidableEq, Repr

def DbError.message : DbError → String
  | .protocol detail => "encountered unexpected or invalid data: " ++ detail
  | .other detail => detail

structure SessionRecord where
  userId : String
  issuedAt : Option Nat
  deviceInfo : Option String
  deriving DecidableEq, Repr

structure RefreshTokenRecord where
  userId : String
  deviceId : String
  expiresAt : Nat
  revoked : Bool
  rotatedTo : Option String
  deriving DecidableEq, Repr

inductive RotationStatus where
  | rotated
  | replayDetected
  deriving DecidableEq, Repr

structure ClerkClaims where
  sub : String
  sid : String
  jti : String
  iss : String
  iat : Option Nat
  exp : Nat
  azp : Option String
  orgId : Option String
  orgRole : Option String
  deriving DecidableEq, Repr

/-- A row of `auth_sessions`. -/
structure DbSession where
  id : String
  userId : String
  issuedAt : Option Int
  deviceInfo : Option String
  expiresAt : Int
  revoked : Bool
  deriving DecidableEq, Repr

/-- A row of `auth_refresh_tokens`. -/
structure DbRefreshToken where
  tokenHash : String
  userId : String
  deviceId : String
  expiresAt : Int
  revoked : Bool
  rotatedTo : Option String
  deriving DecidableEq, Repr

/-- A row of `auth_blacklist`. -/
structure DbBlacklisted where
  jti : String
  expiresAt : Int
  deriving DecidableEq, Repr

/-- What `check_blacklist` returns; `present` is the field `exists`. -/
structure BlacklistEntry where
  present : Bool
  expiresAt : Option Int
  deriving DecidableEq, Repr

inductive ReconciliationOp where
  | tokenRevocation (jti : String) (ttlSecs : Nat)
  | sessionSync (sessionId userId : String) (expiresAt : Nat) (expectedVersion : Option Nat)
  | sessionRevoke (sessionId : String) (jti : Option String) (tokenExp targetVersion : Option Nat)
  | dbCleanup
  deriving DecidableEq, Repr

structure QueueEntry where
  id : String
  op : ReconciliationOp
  attempt : Nat
  maxAttempts : Nat
  createdAt : Nat
  lastError : Option String
  deriving DecidableEq, Repr

/-- Who wrote the JSON text of an entry: `serde` writes every field and knows no trace
fields, `JSON.stringify` leaves out what is undefined. -/
inductive Encoding where
  | serde
  | stringify (traceparent tracestate : Option String)
  deriving DecidableEq, Repr

/-- A member of a reconciliation queue: the text of an entry, or a text that is no JSON. -/
inductive QueueMember where
  | entry (entry : QueueEntry) (encoding : Encoding)
  | malformed (text : String)
  deriving DecidableEq, Repr

/-- An `f64`, by its bits. -/
abbrev F64 := UInt64

/-- `f64::is_finite`: the exponent bits are not all set. -/
def F64.isFinite (value : F64) : Bool := (value >>> 52) &&& 0x7FF != 0x7FF

structure GeoInfo where
  country : String
  city : Option String
  latitude : F64
  longitude : F64
  deriving DecidableEq, Repr

/-- The context the risk engine keeps of a user. -/
structure SessionContext where
  userId : String
  lastIp : String
  lastGeo : Option GeoInfo
  deviceHash : Option String
  lastSeen : Nat
  failedAttempts : Nat
  knownIps : List String
  knownDevices : List String
  deriving DecidableEq, Repr

structure AuditEvent where
  requestId : String
  userId : String
  ip : String
  riskLevel : String
  riskAction : String
  blocked : Bool
  timestamp : Nat
  deriving DecidableEq, Repr

/-- The Redis keys the stores use, one constructor for each prefix. -/
inductive RedisKey where
  | session (sessionId : String)
  | sessionCount (userHash : String)
  | sessionVersion (sessionId : String)
  | refresh (tokenHash : String)
  | refreshLock (tokenHash : String)
  | blacklist (jti : String)
  | auth (tokenHash : String)
  | rateLimit (bucket : String)
  | otp (userId : String)
  | nonce (name : String)
  | riskContext (userHash : String)
  | wafBlock (ip : String)
  | wafAudit (requestId : String)
  | reconciliationIdem (id : String)
  | reconciliationLock (id : String)
  | reconciliationPending
  | reconciliationDlq
  deriving DecidableEq, Repr

/-- The literal part of a key's format string. -/
def RedisKey.tag : RedisKey → String
  | .session _ => "session:"
  | .sessionCount _ => "session_count:"
  | .sessionVersion _ => "session_version:"
  | .refresh _ => "refresh:"
  | .refreshLock _ => "refresh_lock:"
  | .blacklist _ => "blacklist:"
  | .auth _ => "auth:"
  | .rateLimit _ => "rate_limit:"
  | .otp _ => "otp:"
  | .nonce _ => "nonce:"
  | .riskContext _ => "risk:ctx:"
  | .wafBlock _ => "waf:block:ip:"
  | .wafAudit _ => "waf:audit:"
  | .reconciliationIdem _ => "reconciliation:idem:"
  | .reconciliationLock _ => "reconciliation:lock:"
  | .reconciliationPending => "reconciliation:pending"
  | .reconciliationDlq => "reconciliation:dlq"

def RedisKey.body : RedisKey → String
  | .session name | .sessionCount name | .sessionVersion name | .refresh name | .refreshLock name |
    .blacklist name | .auth name | .rateLimit name | .otp name | .nonce name |
    .riskContext name | .wafBlock name | .wafAudit name | .reconciliationIdem name |
    .reconciliationLock name => name
  | .reconciliationPending | .reconciliationDlq => ""

def RedisKey.render (key : RedisKey) : String := key.tag ++ key.body

private def redisTags : List String :=
  ["session:", "session_count:", "session_version:", "refresh:", "refresh_lock:", "blacklist:",
    "auth:", "rate_limit:", "otp:", "nonce:", "risk:ctx:", "waf:block:ip:", "waf:audit:",
    "reconciliation:idem:", "reconciliation:lock:", "reconciliation:pending", "reconciliation:dlq"]

private theorem redisTags_apart : ∀ first ∈ redisTags, ∀ second ∈ redisTags, first ≠ second →
    first.toList.isPrefixOf second.toList = false := by decide

private theorem tags_apart (first second : RedisKey) (different : first.tag ≠ second.tag) :
    first.tag.toList.isPrefixOf second.tag.toList = false := by
  have listed (key : RedisKey) : key.tag ∈ redisTags := by
    cases key <;> simp [RedisKey.tag, redisTags]
  exact redisTags_apart _ (listed first) _ (listed second) different

/-- Different keys are different strings: no store reads another one's entries. -/
theorem RedisKey.render_injective : Function.Injective RedisKey.render := by
  intro first second same
  have chars : first.tag.toList ++ first.body.toList = second.tag.toList ++ second.body.toList := by
    simpa [RedisKey.render] using congrArg String.toList same
  by_cases tags : first.tag = second.tag
  · rw [tags] at chars
    have bodies := String.toList_inj.mp (List.append_cancel_left chars)
    cases first <;> cases second <;> simp [RedisKey.tag, RedisKey.body] at tags bodies ⊢
    all_goals exact bodies
  · -- One of two literal parts of one string would continue the other.
    rcases List.append_eq_append_iff.mp chars with ⟨more, longer, _⟩ | ⟨more, longer, _⟩
    · have continued := List.isPrefixOf_iff_prefix.mpr ⟨more, longer.symm⟩
      rw [tags_apart first second tags] at continued
      cases continued
    · have continued := List.isPrefixOf_iff_prefix.mpr ⟨more, longer.symm⟩
      rw [tags_apart second first (Ne.symm tags)] at continued
      cases continued

/-- A Redis value; a JSON document is the record it serialises. -/
inductive RedisValue where
  | text (value : String)
  | counter (value : Int)
  | session (record : SessionRecord)
  | refresh (record : RefreshTokenRecord)
  | claims (record : ClerkClaims)
  | context (record : SessionContext)
  | audit (event : AuditEvent)
  /-- What the rate-limit script stores: thousandths of a token, and the millisecond of
  the last refill. -/
  | bucket (milliTokens lastRefill : Nat)
  /-- A sorted set of queue members with their scores. -/
  | queue (members : List (QueueMember × Nat))
  deriving DecidableEq, Repr

/-- `serde_json::from_str::<SessionRecord>`: a missing `Option` field reads as
`None` and unknown fields are ignored, so other records with a `user_id` parse too. -/
def RedisValue.asSession : RedisValue → Except RedisLayerError SessionRecord
  | .session record => .ok record
  | .refresh record => .ok ⟨record.userId, none, none⟩
  | .context record => .ok ⟨record.userId, none, none⟩
  | .audit event => .ok ⟨event.userId, none, none⟩
  | _ => .error (.serialization "not a SessionRecord")

def RedisValue.asRefresh : RedisValue → Except RedisLayerError RefreshTokenRecord
  | .refresh record => .ok record
  | _ => .error (.serialization "not a RefreshTokenRecord")

def RedisValue.asClaims : RedisValue → Except RedisLayerError ClerkClaims
  | .claims record => .ok record
  | _ => .error (.serialization "not a ClerkClaims")

/-- `str::parse::<u64>` of a stored number. -/
def RedisValue.asNumber : RedisValue → Option Nat
  | .counter value => if 0 ≤ value ∧ value < 2 ^ 64 then some value.toNat else none
  | _ => none

/-- A coordinate that is no number was written as `null` and does not read back. -/
def GeoInfo.readable (geo : GeoInfo) : Bool := geo.latitude.isFinite && geo.longitude.isFinite

def RedisValue.asContext : RedisValue → Except RedisLayerError SessionContext
  | .context record =>
    if record.lastGeo.all GeoInfo.readable then .ok record
    else .error (.serialization "not a SessionContext")
  | _ => .error (.serialization "not a SessionContext")

end BrainMate.Gateway
