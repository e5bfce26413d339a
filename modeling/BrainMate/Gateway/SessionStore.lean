import BrainMate.Gateway.World

/-! `session_store.rs`: write-through and cache-aside session store. The flag
`db` says whether a `DbClient` is configured. -/

namespace BrainMate.Gateway.SessionStore

def validateSessionId (sessionId : String) : Except ApiError Unit :=
  if sessionId.utf8ByteSize == 0 || 128 < sessionId.utf8ByteSize then
    .error (.badRequest "invalid session id")
  else if !(sessionId.toList.all fun c => c.isAlphanum || c == '_' || c == '-') then
    .error (.badRequest "invalid session id format")
  else .ok ()

/-- `RedisClient::get_json::<SessionRecord>`. -/
def getSessionJson (key : RedisKey) :
    Procedure (Except RedisLayerError (Option SessionRecord)) := do
  match ← redis (.get key) with
  | .error error => return .error error
  | .ok none => return .ok none
  | .ok (some raw) => return raw.asSession.map some

section Counters

variable (sha256Hex : String → String)

def userSessionCountKey (userId : String) : RedisKey := .sessionCount (sha256Hex userId)

def countUserSessions (userId : String) : Procedure (Except ApiError Nat) := do
  match ← redis (.get (userSessionCountKey sha256Hex userId)) with
  | .error error => return .error (.serviceUnavailable ("count read failed: " ++ error.message))
  | .ok raw => return .ok ((raw.bind RedisValue.asNumber).getD 0)

def incrementUserSessionCount (userId : String) (ttlSecs : Nat) :
    Procedure (Except ApiError Nat) := do
  match ← redis (.incrEx (userSessionCountKey sha256Hex userId) ttlSecs) with
  | .error error => return .error (.serviceUnavailable ("count incr failed: " ++ error.message))
  | .ok count => return .ok count

def decrementUserSessionCount (userId : String) : Procedure (Except ApiError Unit) := do
  match ← redis (.decr (userSessionCountKey sha256Hex userId)) with
  | .error error => return .error (.serviceUnavailable ("count decr failed: " ++ error.message))
  | .ok _ => return .ok ()

end Counters

/-- `DbClient::create_session_guarded`. The transaction runs at the default
isolation level, so each of its statements sees what is committed by then. -/
def createSessionGuarded (record : DbSession) (maxSessions : Int) :
    Procedure (Except DbError Bool) := do
  match ← database .begin with
  | .error error => return .error error
  | .ok txNow =>
    match ← database (.countActiveSessionsForUser record.userId txNow) with
    | .error error => return .error error
    | .ok activeCount =>
      if maxSessions ≤ activeCount then
        match ← database .rollback with
        | .error error => return .error error
        | .ok () => return .error (.protocol "max_sessions_exceeded")
      else database (.insertSession record)

def createSessionDb (sessionId userId : String) (issuedAt : Option Nat)
    (deviceInfo : Option String) (ttlSecs maxSessionsPerUser : Nat) :
    Procedure (Except ApiError Unit) := do
  let now ← nowUnixSecs
  let expiresAt := (now + ttlSecs) % 2 ^ 64
  let dbRecord : DbSession :=
    ⟨sessionId, userId, issuedAt.map asI64, deviceInfo, asI64 expiresAt, false⟩
  match ← createSessionGuarded dbRecord maxSessionsPerUser with
  | .ok _inserted =>
    -- Whether the row is new or was there already, Redis is written (warn-only).
    let _ ← redis (.setNxEx (.session sessionId) (.session ⟨userId, issuedAt, deviceInfo⟩) ttlSecs)
    return .ok ()
  | .error (.protocol detail) =>
    if detail == "max_sessions_exceeded" then
      return .error (.badRequest "Maximum concurrent sessions exceeded for this user")
    else
      return .error (.serviceUnavailable
        ("session db write failed: " ++ (DbError.protocol detail).message))
  | .error (.other detail) =>
    return .error (.serviceUnavailable ("session db write failed: " ++ detail))

def createSessionRedis (sha256Hex : String → String) (sessionId userId : String)
    (issuedAt : Option Nat) (deviceInfo : Option String) (ttlSecs maxSessionsPerUser : Nat) :
    Procedure (Except ApiError Unit) := do
  match ← redis (.setNxEx (.session sessionId) (.session ⟨userId, issuedAt, deviceInfo⟩) ttlSecs) with
  | .error error => return .error (.serviceUnavailable ("session write failed: " ++ error.message))
  | .ok false =>
    match ← getSessionJson (.session sessionId) with
    | .error error =>
      return .error (.serviceUnavailable ("session lookup failed: " ++ error.message))
    | .ok none => return .ok ()
    | .ok (some existing) =>
      if existing.userId ≠ userId then
        return .error (.unauthorized "Session already registered to a different user")
      else return .ok ()
  | .ok true =>
    match ← incrementUserSessionCount sha256Hex userId ttlSecs with
    | .error error => return .error error
    | .ok newCount =>
      if maxSessionsPerUser < newCount then
        let _ ← redis (.delete (.session sessionId))
        let _ ← decrementUserSessionCount sha256Hex userId
        return .error (.badRequest "Maximum concurrent sessions exceeded for this user")
      else return .ok ()

def createSession (sha256Hex : String → String) (db : Bool) (sessionId userId : String)
    (issuedAt : Option Nat) (deviceInfo : Option String) (ttlSecs maxSessionsPerUser : Nat) :
    Procedure (Except ApiError Unit) :=
  match validateSessionId sessionId with
  | .error error => return .error error
  | .ok () =>
    if (trim userId).isEmpty then return .error (.badRequest "user_id is required")
    else if db then
      createSessionDb sessionId userId issuedAt deviceInfo ttlSecs maxSessionsPerUser
    else createSessionRedis sha256Hex sessionId userId issuedAt deviceInfo ttlSecs maxSessionsPerUser

/-- The rehydration after a database hit. -/
def rehydrateSession (sessionId : String) (row : DbSession) (now : Int) :
    Procedure (Except ApiError SessionRecord) := do
  let remainingTtl := asU64 (row.expiresAt - now)
  let record : SessionRecord := ⟨row.userId, row.issuedAt.map asU64, row.deviceInfo⟩
  let _ ← redis (.setEx (.session sessionId) (.session record) remainingTtl)
  return .ok record

/-- The database half of `validate_session`. -/
def validateSessionDb (sessionId expectedUserId : String) :
    Procedure (Except ApiError SessionRecord) := do
  match ← database (.getSession sessionId) with
  | .error error =>
    return .error (.serviceUnavailable ("session db lookup failed: " ++ error.message))
  | .ok none => return .error (.unauthorized "Session is not active")
  | .ok (some row) =>
    if row.revoked then return .error (.unauthorized "Session has been revoked")
    else
      let now := asI64 (← nowUnixSecs)
      if row.expiresAt ≤ now then return .error (.unauthorized "Session has expired")
      else if row.userId ≠ expectedUserId then
        return .error (.unauthorized "Session user mismatch")
      else rehydrateSession sessionId row now

def validateSession (db : Bool) (sessionId expectedUserId : String) :
    Procedure (Except ApiError SessionRecord) :=
  match validateSessionId sessionId with
  | .error error => return .error error
  | .ok () => do
    match ← getSessionJson (.session sessionId) with
    | .ok (some record) =>
      if record.userId ≠ expectedUserId then
        return .error (.unauthorized "Session user mismatch")
      else return .ok record
    | .ok none =>
      if db then validateSessionDb sessionId expectedUserId
      else return .error (.unauthorized "Session is not active")
    | .error error =>
      if db then validateSessionDb sessionId expectedUserId
      else return .error (.serviceUnavailable ("session lookup failed: " ++ error.message))

/-- The Redis half of `revoke_session`: GETDEL, then the session counter. -/
def dropCachedSession (sha256Hex : String → String) (db : Bool) (sessionId : String) :
    Procedure (Except ApiError Unit) := do
  match ← redis (.getDel (.session sessionId)) with
  | .error error =>
    if db then return .ok ()
    else return .error (.serviceUnavailable ("session revoke failed: " ++ error.message))
  | .ok none => return .ok ()
  | .ok (some existing) =>
    match existing.asSession with
    | .error _ => return .ok ()
    | .ok record =>
      let _ ← decrementUserSessionCount sha256Hex record.userId
      return .ok ()

def revokeSession (sha256Hex : String → String) (db : Bool) (sessionId : String) :
    Procedure (Except ApiError Unit) :=
  match validateSessionId sessionId with
  | .error error => return .error error
  | .ok () =>
    if db then do
      match ← database (.revokeSession sessionId) with
      | .error error =>
        return .error (.serviceUnavailable ("session db revoke failed: " ++ error.message))
      | .ok () => dropCachedSession sha256Hex db sessionId
    else dropCachedSession sha256Hex db sessionId

end BrainMate.Gateway.SessionStore
