import BrainMate.Gateway.World

/-! `refresh_store.rs`: transactional refresh token store. The flag `db` says
whether a `DbClient` is configured; `sha256Hex` is `hash_token_identifier`. -/

namespace BrainMate.Gateway.RefreshStore

def validateRefreshTokenId (rawTokenId : String) : Except ApiError Unit :=
  let trimmed := trim rawTokenId
  if trimmed.isEmpty then .error (.badRequest "refresh token id must not be empty")
  else if utf8Len trimmed < 32 then
    .error (.badRequest "refresh token id must be at least 32 characters")
  else if 4096 < utf8Len trimmed then
    .error (.badRequest "refresh token id must not exceed 4096 characters")
  else .ok ()

def ttlFromExpiresAt (expiresAt : Nat) : Procedure (Except ApiError Nat) := do
  let now ← nowUnixSecs
  if expiresAt ≤ now then return .error (.badRequest "token is already expired")
  else return .ok (expiresAt - now)

def validateRecord (record : RefreshTokenRecord) :
    Procedure (Except ApiError RefreshTokenRecord) := do
  if record.revoked then return .error (.unauthorized "Refresh token replay detected")
  else
    let now ← nowUnixSecs
    if record.expiresAt ≤ now then return .error (.unauthorized "Refresh token expired")
    else return .ok record

/-- `RedisClient::get_json::<RefreshTokenRecord>`. -/
def getRefreshJson (key : RedisKey) :
    Procedure (Except RedisLayerError (Option RefreshTokenRecord)) := do
  match ← redis (.get key) with
  | .error error => return .error error
  | .ok none => return .ok none
  | .ok (some raw) => return raw.asRefresh.map some

/-- The record both stores answer with for a row. -/
def recordOfRow (row : DbRefreshToken) : RefreshTokenRecord :=
  ⟨row.userId, row.deviceId, asU64 row.expiresAt, row.revoked, row.rotatedTo⟩

section

variable (sha256Hex : String → String)

def key (rawTokenId : String) : RedisKey := .refresh (sha256Hex rawTokenId)

def lockKey (rawTokenId : String) : RedisKey := .refreshLock (sha256Hex rawTokenId)

/-- The Redis write of `issue`. -/
def cacheIssued (db : Bool) (rawTokenId userId deviceId : String) (expiresAt ttlSecs : Nat) :
    Procedure (Except ApiError Unit) := do
  let record : RefreshTokenRecord := ⟨userId, deviceId, expiresAt, false, none⟩
  match ← redis (.setEx (key sha256Hex rawTokenId) (.refresh record) ttlSecs) with
  | .ok () => return .ok ()
  | .error error =>
    if db then return .ok ()
    else return .error (.serviceUnavailable ("refresh issue failed: " ++ error.message))

def issue (db : Bool) (rawTokenId userId deviceId : String) (expiresAt : Nat) :
    Procedure (Except ApiError Unit) :=
  match validateRefreshTokenId rawTokenId with
  | .error error => return .error error
  | .ok () =>
    if (trim userId).isEmpty || (trim deviceId).isEmpty then
      return .error (.badRequest "user_id and device_id are required")
    else do
      match ← ttlFromExpiresAt expiresAt with
      | .error error => return .error error
      | .ok ttlSecs =>
        if db then
          let dbRecord : DbRefreshToken :=
            ⟨sha256Hex rawTokenId, userId, deviceId, asI64 expiresAt, false, none⟩
          match ← database (.insertRefreshToken dbRecord) with
          | .error error =>
            return .error (.serviceUnavailable ("refresh db issue failed: " ++ error.message))
          | .ok () => cacheIssued sha256Hex db rawTokenId userId deviceId expiresAt ttlSecs
        else cacheIssued sha256Hex db rawTokenId userId deviceId expiresAt ttlSecs

/-- The database half of `validate`, with the rehydration of Redis. -/
def validateDb (rawTokenId : String) : Procedure (Except ApiError RefreshTokenRecord) := do
  match ← database (.getRefreshToken (sha256Hex rawTokenId)) with
  | .error error =>
    return .error (.serviceUnavailable ("refresh db lookup failed: " ++ error.message))
  | .ok none => return .error (.unauthorized "Refresh token is invalid")
  | .ok (some row) =>
    let record := recordOfRow row
    match ← validateRecord record with
    | .error error => return .error error
    | .ok validated =>
      let now ← nowUnixSecs
      if now < record.expiresAt then
        let _ ← redis (.setEx (key sha256Hex rawTokenId) (.refresh record) (record.expiresAt - now))
        return .ok validated
      else return .ok validated

def validate (db : Bool) (rawTokenId : String) :
    Procedure (Except ApiError RefreshTokenRecord) :=
  match validateRefreshTokenId rawTokenId with
  | .error error => return .error error
  | .ok () => do
    match ← getRefreshJson (key sha256Hex rawTokenId) with
    | .ok (some record) => validateRecord record
    | .ok none =>
      if db then validateDb sha256Hex rawTokenId
      else return .error (.unauthorized "Refresh token is invalid")
    | .error error =>
      if db then validateDb sha256Hex rawTokenId
      else return .error (.serviceUnavailable ("refresh lookup failed: " ++ error.message))

/-- `DbClient::rotate_refresh_token_tx`. -/
def rotateRefreshTokenTx (oldHash newHash userId deviceId : String) (expiresAt : Int) :
    Procedure (Except DbError (Option DbRefreshToken)) := do
  let now ← nowUnixSecs
  database (.rotateRefreshTokenTx oldHash newHash userId deviceId expiresAt (asI64 now))

def revokeDeviceFamily (userId : String) : Procedure (Except ApiError Unit) := do
  if userId.utf8ByteSize == 0 then return .ok ()
  else
    match ← database (.revokeAllRefreshTokensForDevice userId) with
    | .error error =>
      return .error (.serviceUnavailable ("cascade revocation failed: " ++ error.message))
    | .ok _ => return .ok ()

/-- The fallback of step A of `do_rotate_db`. -/
def readOldRow (oldRawTokenId : String) :
    Procedure (Except ApiError (Option RefreshTokenRecord)) := do
  match ← database (.getRefreshToken (sha256Hex oldRawTokenId)) with
  | .error error =>
    return .error (.serviceUnavailable ("refresh db lookup failed: " ++ error.message))
  | .ok none => return .ok none
  | .ok (some row) => return .ok (some (recordOfRow row))

/-- Step A of `do_rotate_db`: the old record from Redis, else from its row. -/
def readOldRecord (oldRawTokenId : String) :
    Procedure (Except ApiError (Option RefreshTokenRecord)) := do
  match ← getRefreshJson (key sha256Hex oldRawTokenId) with
  | .ok (some record) => return .ok (some record)
  | _ => readOldRow sha256Hex oldRawTokenId

/-- The check both rotations make on the record they read. -/
def isSpent (record : RefreshTokenRecord) : Procedure Bool := do
  if record.revoked then return true
  else
    let now ← nowUnixSecs
    return record.expiresAt ≤ now

/-- Step C of `do_rotate_db`: the cache updates after the commit (warn-only). -/
def cacheRotation (oldRawTokenId newRawTokenId : String) (oldRecord : RefreshTokenRecord)
    (newRecord : DbRefreshToken) (newTtl : Nat) : Procedure (Except ApiError RotationStatus) := do
  let revokedOld :=
    { oldRecord with revoked := true, rotatedTo := some (sha256Hex newRawTokenId) }
  let now ← nowUnixSecs
  let oldRemainingTtl := max (oldRecord.expiresAt - now) 60
  let _ ← redis (.setEx (key sha256Hex oldRawTokenId) (.refresh revokedOld) oldRemainingTtl)
  let newCacheRecord : RefreshTokenRecord :=
    ⟨newRecord.userId, newRecord.deviceId, asU64 newRecord.expiresAt, false, none⟩
  let _ ← redis (.setEx (key sha256Hex newRawTokenId) (.refresh newCacheRecord) newTtl)
  return .ok .rotated

/-- Steps B and C of `do_rotate_db`. -/
def rotateRecordDb (oldRawTokenId newRawTokenId : String) (newExpiresAt newTtl : Nat)
    (oldRecord : RefreshTokenRecord) : Procedure (Except ApiError RotationStatus) := do
  match ← rotateRefreshTokenTx (sha256Hex oldRawTokenId) (sha256Hex newRawTokenId)
      oldRecord.userId oldRecord.deviceId (asI64 newExpiresAt) with
  | .error error =>
    return .error (.serviceUnavailable ("refresh db rotation failed: " ++ error.message))
  | .ok none =>
    -- Zero rows: the authoritative replay gate. The cascade is warn-only.
    let _ ← revokeDeviceFamily oldRecord.userId
    return .ok .replayDetected
  | .ok (some newRecord) =>
    cacheRotation sha256Hex oldRawTokenId newRawTokenId oldRecord newRecord newTtl

def doRotateDb (oldRawTokenId newRawTokenId : String) (newExpiresAt newTtl : Nat) :
    Procedure (Except ApiError RotationStatus) := do
  match ← readOldRecord sha256Hex oldRawTokenId with
  | .error error => return .error error
  | .ok none => return .ok .replayDetected
  | .ok (some oldRecord) =>
    if ← isSpent oldRecord then return .ok .replayDetected
    else rotateRecordDb sha256Hex oldRawTokenId newRawTokenId newExpiresAt newTtl oldRecord

/-- The two writes of `do_rotate_redis_only`. -/
def rewriteEntries (oldRawTokenId newRawTokenId : String) (newExpiresAt newTtl : Nat)
    (current : RefreshTokenRecord) : Procedure (Except ApiError RotationStatus) := do
  let revoked := { current with revoked := true, rotatedTo := some (sha256Hex newRawTokenId) }
  let now ← nowUnixSecs
  let oldRemainingTtl := max (current.expiresAt - now) 60
  match ← redis (.setEx (key sha256Hex oldRawTokenId) (.refresh revoked) oldRemainingTtl) with
  | .error error =>
    return .error (.serviceUnavailable ("refresh revoke failed: " ++ error.message))
  | .ok () =>
    let newRecord : RefreshTokenRecord :=
      ⟨current.userId, current.deviceId, newExpiresAt, false, none⟩
    match ← redis (.setEx (key sha256Hex newRawTokenId) (.refresh newRecord) newTtl) with
    | .error error =>
      return .error (.serviceUnavailable ("refresh rotate failed: " ++ error.message))
    | .ok () => return .ok .rotated

def doRotateRedisOnly (oldRawTokenId newRawTokenId : String) (newExpiresAt newTtl : Nat) :
    Procedure (Except ApiError RotationStatus) := do
  match ← getRefreshJson (key sha256Hex oldRawTokenId) with
  | .error error =>
    return .error (.serviceUnavailable ("refresh lookup failed: " ++ error.message))
  | .ok none => return .ok .replayDetected
  | .ok (some current) =>
    if ← isSpent current then return .ok .replayDetected
    else rewriteEntries sha256Hex oldRawTokenId newRawTokenId newExpiresAt newTtl current

def doRotate (db : Bool) (oldRawTokenId newRawTokenId : String) (newExpiresAt newTtl : Nat) :
    Procedure (Except ApiError RotationStatus) :=
  if db then doRotateDb sha256Hex oldRawTokenId newRawTokenId newExpiresAt newTtl
  else doRotateRedisOnly sha256Hex oldRawTokenId newRawTokenId newExpiresAt newTtl

/-- The lock is deleted whatever the rotation answered, and whoever holds it. -/
def releaseLock (oldRawTokenId : String) (result : Except ApiError RotationStatus) :
    Procedure (Except ApiError RotationStatus) := do
  let _ ← redis (.delete (lockKey sha256Hex oldRawTokenId))
  return result

def rotateLocked (db : Bool) (oldRawTokenId newRawTokenId : String) (newExpiresAt newTtl : Nat) :
    Procedure (Except ApiError RotationStatus) := do
  match ← redis (.setNxEx (lockKey sha256Hex oldRawTokenId) (.text "1") 5) with
  | .error error => return .error (.serviceUnavailable ("refresh lock failed: " ++ error.message))
  | .ok false => return .error (.serviceUnavailable "Refresh token rotation in progress")
  | .ok true =>
    let result ← doRotate sha256Hex db oldRawTokenId newRawTokenId newExpiresAt newTtl
    releaseLock sha256Hex oldRawTokenId result

def rotate (db : Bool) (oldRawTokenId newRawTokenId : String) (newExpiresAt : Nat) :
    Procedure (Except ApiError RotationStatus) :=
  match validateRefreshTokenId oldRawTokenId with
  | .error error => return .error error
  | .ok () =>
    match validateRefreshTokenId newRawTokenId with
    | .error error => return .error error
    | .ok () => do
      match ← ttlFromExpiresAt newExpiresAt with
      | .error error => return .error error
      | .ok newTtl => rotateLocked sha256Hex db oldRawTokenId newRawTokenId newExpiresAt newTtl

/-- The Redis half of `revoke`: GET, mark, SET. A failed GET is an error in
both modes; a failed SET only without a database. -/
def markRevoked (db : Bool) (rawTokenId : String) : Procedure (Except ApiError Unit) := do
  match ← getRefreshJson (key sha256Hex rawTokenId) with
  | .error error =>
    return .error (.serviceUnavailable ("refresh lookup failed: " ++ error.message))
  | .ok none => return .ok ()
  | .ok (some record) =>
    let remaining ← ttlFromExpiresAt record.expiresAt
    let ttl := match remaining with
      | .ok secs => max secs 60
      | .error _ => 60
    match ← redis (.setEx (key sha256Hex rawTokenId)
        (.refresh { record with revoked := true }) ttl) with
    | .ok () => return .ok ()
    | .error error =>
      if db then return .ok ()
      else return .error (.serviceUnavailable ("refresh revoke failed: " ++ error.message))

def revoke (db : Bool) (rawTokenId : String) : Procedure (Except ApiError Unit) :=
  match validateRefreshTokenId rawTokenId with
  | .error error => return .error error
  | .ok () =>
    if db then do
      match ← database (.revokeRefreshToken (sha256Hex rawTokenId)) with
      | .error error =>
        return .error (.serviceUnavailable ("refresh db revoke failed: " ++ error.message))
      | .ok () => markRevoked sha256Hex db rawTokenId
    else markRevoked sha256Hex db rawTokenId

end

end BrainMate.Gateway.RefreshStore
