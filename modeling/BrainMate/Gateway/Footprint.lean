import BrainMate.Gateway.Effects

namespace BrainMate.Gateway

open Interleaving

/-- A command whose Redis key, if it has one, is one of the touched ones. -/
def Within (touched : RedisKey → Prop) : Command → Prop
  | .redis command => touched command.key
  | .now | .db _ | .http => True

theorem Within.imp {touched wider : RedisKey → Prop} (implies : ∀ key, touched key → wider key)
    (command : Command) (within : Within touched command) : Within wider command := by
  cases command with
  | redis command => exact implies _ within
  | now => trivial
  | db => trivial
  | http => trivial

theorem TokenBlacklist.revoke_within (db : Bool) (jti : String) (ttlSecs : Nat) :
    (TokenBlacklist.revoke db jti ttlSecs).Every (Within (· = .blacklist jti)) := by
  have caching : (TokenBlacklist.cacheRevocation db jti ttlSecs).Every
      (Within (· = .blacklist jti)) := by
    simp only [TokenBlacklist.cacheRevocation, redis_eq, Program.call_bind, Program.done_bind]
    refine ⟨rfl, ?_⟩
    rintro (error | _)
    · dsimp only
      split <;> trivial
    · trivial
  unfold TokenBlacklist.revoke
  split
  · trivial
  split
  · refine Program.Every.bind ⟨trivial, fun _ => trivial⟩ fun now => ?_
    refine Program.Every.bind ⟨trivial, fun _ => trivial⟩ ?_
    rintro (error | _)
    · trivial
    · exact caching
  · exact caching

namespace SessionStore

inductive ValidationCommand (sessionId : String) : Command → Prop where
  | clock : ValidationCommand sessionId .now
  | read : ValidationCommand sessionId (.redis (.get (.session sessionId)))
  | fetch : ValidationCommand sessionId (.db (.getSession sessionId))
  | rehydrate (record : SessionRecord) (ttlSecs : Nat) :
      ValidationCommand sessionId (.redis (.setEx (.session sessionId) (.session record) ttlSecs))

inductive RevocationCommand (sha256Hex : String → String) (sessionId : String) : Command → Prop where
  | mark : RevocationCommand sha256Hex sessionId (.db (.revokeSession sessionId))
  | drop : RevocationCommand sha256Hex sessionId (.redis (.getDel (.session sessionId)))
  | uncount (userId : String) : RevocationCommand sha256Hex sessionId
      (.redis (.decr (userSessionCountKey sha256Hex userId)))

/-- The commands of `create_session` without a database. -/
inductive RegistrationCommand (sha256Hex : String → String) (sessionId userId : String)
    (ttlSecs : Nat) : Command → Prop where
  | store (record : SessionRecord) (own : record.userId = userId) :
      RegistrationCommand sha256Hex sessionId userId ttlSecs
        (.redis (.setNxEx (.session sessionId) (.session record) ttlSecs))
  | read : RegistrationCommand sha256Hex sessionId userId ttlSecs
      (.redis (.get (.session sessionId)))
  | count : RegistrationCommand sha256Hex sessionId userId ttlSecs
      (.redis (.incrEx (userSessionCountKey sha256Hex userId) ttlSecs))
  | drop : RegistrationCommand sha256Hex sessionId userId ttlSecs
      (.redis (.delete (.session sessionId)))
  | uncount : RegistrationCommand sha256Hex sessionId userId ttlSecs
      (.redis (.decr (userSessionCountKey sha256Hex userId)))

private theorem rehydrateSession_footprint (sessionId : String) (row : DbSession) (now : Int) :
    (rehydrateSession sessionId row now).Every (ValidationCommand sessionId) := by
  simp only [rehydrateSession, redis_eq, Program.call_bind, Program.done_bind]
  generalize asU64 (row.expiresAt - now) = remainingTtl
  exact ⟨.rehydrate _ remainingTtl, fun _ => trivial⟩

private theorem validateSessionDb_footprint (sessionId expectedUserId : String) :
    (validateSessionDb sessionId expectedUserId).Every (ValidationCommand sessionId) := by
  unfold validateSessionDb
  refine Program.Every.bind ⟨.fetch, fun _ => trivial⟩ ?_
  rintro (error | _ | row)
  · trivial
  · trivial
  · dsimp only
    split
    · trivial
    refine Program.Every.bind ⟨.clock, fun _ => trivial⟩ ?_
    intro second
    generalize asI64 second = now
    split
    · trivial
    split
    · trivial
    exact rehydrateSession_footprint sessionId row now

theorem validateSession_footprint (db : Bool) (sessionId expectedUserId : String) :
    (validateSession db sessionId expectedUserId).Every (ValidationCommand sessionId) := by
  have missed (answer : Except ApiError SessionRecord) :
      (if db then validateSessionDb sessionId expectedUserId else pure answer).Every
        (ValidationCommand sessionId) := by
    split
    · exact validateSessionDb_footprint sessionId expectedUserId
    · trivial
  unfold validateSession
  split
  · trivial
  · simp only [getSessionJson, redis_eq, Program.call_bind, Program.done_bind]
    refine ⟨.read, ?_⟩
    rintro (error | _ | raw)
    · exact missed _
    · exact missed _
    · dsimp only
      cases raw.asSession with
      | error error => exact missed _
      | ok record =>
        simp only [Except.map, Program.pure_eq, Program.done_bind]
        split <;> trivial

private theorem dropCachedSession_footprint (sha256Hex : String → String) (db : Bool)
    (sessionId : String) :
    (dropCachedSession sha256Hex db sessionId).Every (RevocationCommand sha256Hex sessionId) := by
  simp only [dropCachedSession, redis_eq, Program.call_bind, Program.done_bind]
  refine ⟨.drop, ?_⟩
  rintro (error | _ | raw)
  · dsimp only
    split <;> trivial
  · trivial
  · dsimp only
    cases raw.asSession with
    | error error => trivial
    | ok record =>
      simp only [decrementUserSessionCount, redis_eq, Program.call_bind, Program.done_bind]
      refine ⟨.uncount record.userId, ?_⟩
      rintro (error | _) <;> trivial

theorem revokeSession_footprint (sha256Hex : String → String) (db : Bool) (sessionId : String) :
    (revokeSession sha256Hex db sessionId).Every (RevocationCommand sha256Hex sessionId) := by
  unfold revokeSession
  split
  · trivial
  split
  · simp only [database_eq, Program.call_bind, Program.done_bind]
    refine ⟨.mark, ?_⟩
    rintro (error | _)
    · trivial
    · exact dropCachedSession_footprint sha256Hex db sessionId
  · exact dropCachedSession_footprint sha256Hex db sessionId

theorem createSessionRedis_footprint (sha256Hex : String → String) (sessionId userId : String)
    (issuedAt : Option Nat) (deviceInfo : Option String) (ttlSecs maxSessionsPerUser : Nat) :
    (createSessionRedis sha256Hex sessionId userId issuedAt deviceInfo ttlSecs
      maxSessionsPerUser).Every (RegistrationCommand sha256Hex sessionId userId ttlSecs) := by
  simp only [createSessionRedis, getSessionJson, incrementUserSessionCount,
    decrementUserSessionCount, redis_eq, Program.call_bind, Program.done_bind]
  refine ⟨.store _ rfl, ?_⟩
  rintro (error | _ | _)
  · trivial
  · refine ⟨.read, ?_⟩
    rintro (error | _ | raw)
    · trivial
    · trivial
    · dsimp only
      cases raw.asSession with
      | error error => trivial
      | ok existing =>
        simp only [Except.map, Program.pure_eq, Program.done_bind]
        split <;> trivial
  · refine ⟨.count, ?_⟩
    rintro (error | newCount)
    · trivial
    · simp only [Program.pure_eq, Program.done_bind]
      split
      · refine ⟨.drop, fun _ => ⟨.uncount, ?_⟩⟩
        rintro (error | _) <;> trivial
      · trivial

/-- The keys of the session store. -/
def ownKey (key : RedisKey) : Prop :=
  (∃ sessionId, key = .session sessionId) ∨ ∃ userHash, key = .sessionCount userHash

theorem revokeSession_within (sha256Hex : String → String) (db : Bool) (sessionId : String) :
    (revokeSession sha256Hex db sessionId).Every (Within ownKey) := by
  refine (revokeSession_footprint sha256Hex db sessionId).imp ?_
  rintro _ (_ | _ | userId)
  · trivial
  · exact .inl ⟨sessionId, rfl⟩
  · exact .inr ⟨sha256Hex userId, rfl⟩

private theorem createSessionRedis_within (sha256Hex : String → String) (sessionId userId : String)
    (issuedAt : Option Nat) (deviceInfo : Option String) (ttlSecs maxSessionsPerUser : Nat) :
    (createSessionRedis sha256Hex sessionId userId issuedAt deviceInfo ttlSecs
      maxSessionsPerUser).Every (Within ownKey) := by
  refine (createSessionRedis_footprint sha256Hex sessionId userId issuedAt deviceInfo ttlSecs
    maxSessionsPerUser).imp ?_
  rintro _ (_ | _ | _ | _ | _)
  · exact .inl ⟨sessionId, rfl⟩
  · exact .inl ⟨sessionId, rfl⟩
  · exact .inr ⟨sha256Hex userId, rfl⟩
  · exact .inl ⟨sessionId, rfl⟩
  · exact .inr ⟨sha256Hex userId, rfl⟩

theorem createSessionGuarded_within (record : DbSession) (maxSessions : Int)
    (touched : RedisKey → Prop) :
    (createSessionGuarded record maxSessions).Every (Within touched) := by
  simp only [createSessionGuarded, database_eq, Program.call_bind, Program.done_bind]
  refine ⟨trivial, ?_⟩
  rintro (error | txNow)
  · trivial
  · refine ⟨trivial, ?_⟩
    rintro (error | activeCount)
    · trivial
    · dsimp only
      split
      · refine ⟨trivial, ?_⟩
        rintro (error | _) <;> trivial
      · exact ⟨trivial, fun _ => trivial⟩

private theorem createSessionDb_within (sessionId userId : String) (issuedAt : Option Nat)
    (deviceInfo : Option String) (ttlSecs maxSessionsPerUser : Nat) :
    (createSessionDb sessionId userId issuedAt deviceInfo ttlSecs maxSessionsPerUser).Every
      (Within ownKey) := by
  unfold createSessionDb
  refine Program.Every.bind ⟨trivial, fun _ => trivial⟩ fun now => ?_
  refine Program.Every.bind (createSessionGuarded_within _ _ _) ?_
  rintro ((detail | detail) | inserted)
  · dsimp only
    split <;> trivial
  · trivial
  · exact ⟨.inl ⟨sessionId, rfl⟩, fun _ => trivial⟩

theorem createSession_within (sha256Hex : String → String) (db : Bool) (sessionId userId : String)
    (issuedAt : Option Nat) (deviceInfo : Option String) (ttlSecs maxSessionsPerUser : Nat) :
    (createSession sha256Hex db sessionId userId issuedAt deviceInfo ttlSecs
      maxSessionsPerUser).Every (Within ownKey) := by
  unfold createSession
  split
  · trivial
  split
  · trivial
  split
  · exact createSessionDb_within sessionId userId issuedAt deviceInfo ttlSecs maxSessionsPerUser
  · exact createSessionRedis_within sha256Hex sessionId userId issuedAt deviceInfo ttlSecs
      maxSessionsPerUser

end SessionStore

namespace RefreshStore

inductive TokenCommand : Command → Prop where
  | clock : TokenCommand .now
  | read (tokenHash : String) : TokenCommand (.redis (.get (.refresh tokenHash)))
  | cache (tokenHash : String) (record : RefreshTokenRecord) (ttlSecs : Nat) :
      TokenCommand (.redis (.setEx (.refresh tokenHash) (.refresh record) ttlSecs))
  | lock (tokenHash : String) :
      TokenCommand (.redis (.setNxEx (.refreshLock tokenHash) (.text "1") 5))
  | unlock (tokenHash : String) : TokenCommand (.redis (.delete (.refreshLock tokenHash)))
  | insert (record : DbRefreshToken) : TokenCommand (.db (.insertRefreshToken record))
  | fetch (tokenHash : String) : TokenCommand (.db (.getRefreshToken tokenHash))
  | rotate (oldHash newHash userId deviceId : String) (expiresAt nowSecs : Int) :
      TokenCommand
        (.db (.rotateRefreshTokenTx oldHash newHash userId deviceId expiresAt nowSecs))
  | mark (tokenHash : String) : TokenCommand (.db (.revokeRefreshToken tokenHash))
  | cascade (userId : String) : TokenCommand (.db (.revokeAllRefreshTokensForDevice userId))

private theorem ttlFromExpiresAt_footprint (expiresAt : Nat) :
    (ttlFromExpiresAt expiresAt).Every TokenCommand := by
  refine ⟨.clock, fun now => ?_⟩
  change (if _ then _ else _ : Procedure _).Every _
  split <;> trivial

private theorem validateRecord_footprint (record : RefreshTokenRecord) :
    (validateRecord record).Every TokenCommand := by
  unfold validateRecord
  split
  · trivial
  · refine ⟨.clock, fun now => ?_⟩
    change (if _ then _ else _ : Procedure _).Every _
    split <;> trivial

theorem getRefreshJson_footprint (tokenHash : String) :
    (getRefreshJson (.refresh tokenHash)).Every TokenCommand := by
  refine ⟨.read tokenHash, ?_⟩
  rintro (error | _ | raw) <;> trivial

variable (sha256Hex : String → String) (db : Bool)

theorem issue_footprint (rawTokenId userId deviceId : String) (expiresAt : Nat) :
    (issue sha256Hex db rawTokenId userId deviceId expiresAt).Every TokenCommand := by
  have caching (ttlSecs : Nat) : (cacheIssued sha256Hex db rawTokenId userId deviceId
      expiresAt ttlSecs).Every TokenCommand := by
    refine ⟨.cache _ _ ttlSecs, ?_⟩
    rintro (error | done)
    · dsimp only [Program.bind]
      split <;> trivial
    · trivial
  unfold issue
  split
  · trivial
  · split
    · trivial
    · apply (ttlFromExpiresAt_footprint expiresAt).bind
      rintro (error | ttlSecs)
      · trivial
      · dsimp only
        split
        · refine ⟨.insert _, ?_⟩
          rintro (error | done)
          · trivial
          · exact caching ttlSecs
        · exact caching ttlSecs

theorem validate_footprint (rawTokenId : String) :
    (validate sha256Hex db rawTokenId).Every TokenCommand := by
  have fetching : (validateDb sha256Hex rawTokenId).Every TokenCommand := by
    refine ⟨.fetch _, ?_⟩
    rintro (error | _ | row)
    · trivial
    · trivial
    · apply (validateRecord_footprint _).bind
      rintro (error | validated)
      · trivial
      · refine ⟨.clock, fun now => ?_⟩
        change (if _ then _ else _ : Procedure _).Every _
        split
        · exact ⟨.cache _ _ _, fun _ => trivial⟩
        · trivial
  have missed (answer : Except ApiError RefreshTokenRecord) :
      (if db then validateDb sha256Hex rawTokenId else pure answer).Every
        TokenCommand := by
    split
    · exact fetching
    · trivial
  unfold validate
  split
  · trivial
  · apply (getRefreshJson_footprint _).bind
    rintro (error | _ | record)
    · exact missed _
    · exact missed _
    · exact validateRecord_footprint record

private theorem revokeDeviceFamily_footprint (userId : String) :
    (revokeDeviceFamily userId).Every TokenCommand := by
  unfold revokeDeviceFamily
  split
  · trivial
  · refine ⟨.cascade userId, ?_⟩
    rintro (error | rows) <;> trivial

private theorem isSpent_footprint (record : RefreshTokenRecord) :
    (isSpent record).Every TokenCommand := by
  unfold isSpent
  split
  · trivial
  · exact ⟨.clock, fun _ => trivial⟩

private theorem doRotateDb_footprint (oldRawTokenId newRawTokenId : String)
    (newExpiresAt newTtl : Nat) :
    (doRotateDb sha256Hex oldRawTokenId newRawTokenId newExpiresAt newTtl).Every TokenCommand := by
  have reading : (readOldRecord sha256Hex oldRawTokenId).Every TokenCommand := by
    have row : (readOldRow sha256Hex oldRawTokenId).Every TokenCommand := by
      refine ⟨.fetch _, ?_⟩
      rintro (error | _ | row) <;> trivial
    apply (getRefreshJson_footprint _).bind
    rintro (error | _ | record)
    · exact row
    · exact row
    · trivial
  apply reading.bind
  rintro (error | _ | oldRecord)
  · trivial
  · trivial
  · apply (isSpent_footprint oldRecord).bind
    rintro (_ | _)
    · refine ⟨.clock, fun now => ⟨.rotate _ _ _ _ _ _, ?_⟩⟩
      rintro (error | _ | newRecord)
      · trivial
      · apply (revokeDeviceFamily_footprint oldRecord.userId).bind
        intro cascade
        trivial
      · exact ⟨.clock, fun _ => ⟨.cache _ _ _, fun _ => ⟨.cache _ _ newTtl, fun _ => trivial⟩⟩⟩
    · trivial

private theorem doRotateRedisOnly_footprint (oldRawTokenId newRawTokenId : String)
    (newExpiresAt newTtl : Nat) :
    (doRotateRedisOnly sha256Hex oldRawTokenId newRawTokenId newExpiresAt newTtl).Every TokenCommand := by
  apply (getRefreshJson_footprint _).bind
  rintro (error | _ | current)
  · trivial
  · trivial
  · apply (isSpent_footprint current).bind
    rintro (_ | _)
    · refine ⟨.clock, fun now => ⟨.cache _ _ _, ?_⟩⟩
      rintro (error | done)
      · trivial
      · refine ⟨.cache _ _ newTtl, ?_⟩
        rintro (error | done) <;> trivial
    · trivial

theorem rotate_footprint (oldRawTokenId newRawTokenId : String) (newExpiresAt : Nat) :
    (rotate sha256Hex db oldRawTokenId newRawTokenId newExpiresAt).Every TokenCommand := by
  have rotating (newTtl : Nat) : (doRotate sha256Hex db oldRawTokenId newRawTokenId
      newExpiresAt newTtl).Every TokenCommand := by
    unfold doRotate
    split
    · exact doRotateDb_footprint sha256Hex _ _ _ _
    · exact doRotateRedisOnly_footprint sha256Hex _ _ _ _
  unfold rotate
  split
  · trivial
  · split
    · trivial
    · apply (ttlFromExpiresAt_footprint newExpiresAt).bind
      rintro (error | newTtl)
      · trivial
      · refine ⟨.lock _, ?_⟩
        rintro (error | _ | _)
        · trivial
        · trivial
        · exact (rotating newTtl).bind fun result => ⟨.unlock _, fun _ => trivial⟩

theorem revoke_footprint (rawTokenId : String) :
    (revoke sha256Hex db rawTokenId).Every TokenCommand := by
  have marking : (markRevoked sha256Hex db rawTokenId).Every TokenCommand := by
    apply (getRefreshJson_footprint _).bind
    rintro (error | _ | record)
    · trivial
    · trivial
    · apply (ttlFromExpiresAt_footprint _).bind
      intro remaining
      refine ⟨.cache _ _ _, ?_⟩
      rintro (error | done)
      · dsimp only [Program.bind]
        split <;> trivial
      · trivial
  unfold revoke
  split
  · trivial
  · split
    · refine ⟨.mark _, ?_⟩
      rintro (error | done)
      · trivial
      · exact marking
    · exact marking

end RefreshStore

namespace Reconciliation

inductive EnqueueCommand (op : ReconciliationOp) : Command → Prop where
  | clock : EnqueueCommand op .now
  | claim : EnqueueCommand op
      (.redis (.setNxEx (.reconciliationIdem (operationId op)) (.text "1") idemTtlSecs))
  | add (score createdAt : Nat) : EnqueueCommand op
      (.redis (.zadd .reconciliationPending score
        (.entry ⟨operationId op, op, 0, maxAttempts, createdAt, none⟩ .serde)))

theorem enqueue_footprint (op : ReconciliationOp) : (enqueue op).Every (EnqueueCommand op) := by
  simp only [enqueue, addPending, nowMs_eq, redis_eq, Program.call_bind, Program.done_bind]
  refine ⟨.clock, fun createdAt => ⟨.claim, ?_⟩⟩
  rintro (error | _ | _)
  · exact ⟨.clock, fun score => ⟨.add score createdAt, fun _ => trivial⟩⟩
  · trivial
  · exact ⟨.clock, fun score => ⟨.add score createdAt, fun _ => trivial⟩⟩

end Reconciliation

end BrainMate.Gateway
