import BrainMate.Interleaving.Completion
import BrainMate.Gateway.LogoutSafety

namespace BrainMate.Gateway

open Interleaving

/-- The procedure answers, each of its commands having been acknowledged. -/
def Completes {α : Type} (program : Procedure α) (world : World) (value : α) (after : World) : Prop :=
  program.Completes (Command.exec .success) acknowledged world value after

section

variable {α : Type} {value : α} {world after : World}

@[simp] theorem completes_done {result : α} :
    Completes (.done result) world value after ↔ value = result ∧ after = world := .rfl

@[simp] theorem completes_now {next : Nat → Procedure α} :
    Completes (.call .now next) world value after ↔
      Completes (next world.clock) world value after := by
  simp [Completes, Program.Completes, acknowledged, Command.exec, Command.answer, Command.effect]

@[simp] theorem completes_http {next : Except String Unit → Procedure α} :
    Completes (.call .http next) world value after ↔
      Completes (next (.ok ())) world value after := by
  simp [Completes, Program.Completes, acknowledged, Command.exec, Command.answer, Command.effect,
    Except.isOk, Except.toBool]

@[simp] theorem completes_db {command : DbCommand} {next : Except DbError command.Reply → Procedure α} :
    Completes (.call (.db command) next) world value after ↔
      Completes (next (.ok (command.answer world))) { world with db := command.effect world } value
        after := by
  simp [Completes, Program.Completes, acknowledged, Command.exec, Command.answer, Command.effect,
    Except.isOk, Except.toBool]

theorem completes_redis {command : RedisCommand}
    {next : Except RedisLayerError command.Reply → Procedure α} :
    Completes (.call (.redis command) next) world value after ↔
      ∃ reply, command.answer world = .ok reply ∧
        Completes (next (.ok reply)) (command.effect world) value after := by
  simp only [Completes, Program.Completes, acknowledged, Command.exec, Command.answer, Command.effect]
  cases command.answer world with
  | error error => simp [Except.isOk, Except.toBool]
  | ok reply => simp [Except.isOk, Except.toBool]

theorem completes_get {key : RedisKey}
    {next : Except RedisLayerError (Option RedisValue) → Procedure α} :
    Completes (.call (.redis (.get key)) next) world value after ↔
      Completes (next (.ok (world.lookup key))) world value after := by
  rw [completes_redis]
  simp [RedisCommand.answer, RedisCommand.effect]

theorem completes_setEx {key : RedisKey} {stored : RedisValue} {ttlSecs : Nat}
    {next : Except RedisLayerError Unit → Procedure α} :
    Completes (.call (.redis (.setEx key stored ttlSecs)) next) world value after ↔
      acceptsTtl world.clock ttlSecs = true ∧
        Completes (next (.ok ())) (world.store key ⟨stored, some (world.clock + ttlSecs * 1000)⟩)
          value after := by
  rw [completes_redis]
  cases accepted : acceptsTtl world.clock ttlSecs with
  | false => simp [RedisCommand.answer, accepted]
  | true =>
    simp only [RedisCommand.answer, RedisCommand.effect, accepted, ↓reduceIte, true_and]
    constructor
    · rintro ⟨_, continues⟩
      exact continues
    · exact fun continues => ⟨(), continues⟩

end

/-- The world after the token was put on the blacklist. -/
def withdrawn (db : Bool) (jti : String) (ttlSecs : Nat) (world : World) : World :=
  let expiresAt := addI64 (asI64 world.second) (asI64 ttlSecs)
  let recorded := if db then
      { world with db := (DbCommand.addToBlacklist jti expiresAt).effect world }
    else world
  recorded.store (.blacklist jti) ⟨.text "1", some (world.clock + ttlSecs * 1000)⟩

section

variable (db : Bool) (jti : String) (ttlSecs : Nat) (world : World)

@[simp] theorem withdrawn_clock : (withdrawn db jti ttlSecs world).clock = world.clock := by
  cases db <;> rfl

@[simp] theorem withdrawn_redis : (withdrawn db jti ttlSecs world).redis =
    Function.update world.redis (.blacklist jti)
      (some ⟨.text "1", some (world.clock + ttlSecs * 1000)⟩) := by
  cases db <;> rfl

@[simp] theorem withdrawn_sessions :
    (withdrawn db jti ttlSecs world).db.sessions = world.db.sessions := by
  cases db <;> rfl

@[simp] theorem withdrawn_blacklist : (withdrawn db jti ttlSecs world).db.blacklist =
    if db then world.db.blacklist.insertNew ⟨jti, addI64 (asI64 world.second) (asI64 ttlSecs)⟩
    else world.db.blacklist := by
  cases db <;> rfl

end

theorem completes_revoke {db : Bool} {jti : String} {ttlSecs : Nat} {world after : World} :
    Completes (TokenBlacklist.revoke db jti ttlSecs) world (.ok ()) after ↔
      TokenBlacklist.validateTokenId jti = .ok () ∧ acceptsTtl world.clock ttlSecs = true ∧
        after = withdrawn db jti ttlSecs world := by
  unfold TokenBlacklist.revoke
  split
  · rename_i error invalid
    simp [invalid]
  · rename_i valid
    cases db <;>
      simp [valid, TokenBlacklist.cacheRevocation, completes_setEx, withdrawn, World.second]

/-- With both stores up only a malformed id is refused. -/
theorem revoke_refused {db : Bool} {jti : String} {ttlSecs : Nat} {world after : World}
    {error : ApiError}
    (completes : Completes (TokenBlacklist.revoke db jti ttlSecs) world (.error error) after) :
    TokenBlacklist.validateTokenId jti = .error error ∧ after = world := by
  unfold TokenBlacklist.revoke at completes
  split at completes
  · rename_i refused invalid
    obtain ⟨same, unchanged⟩ := completes
    cases same
    exact ⟨invalid, unchanged⟩
  · cases db <;> simp [TokenBlacklist.cacheRevocation, completes_setEx] at completes

theorem validateTokenId_status {jti : String} {error : ApiError}
    (refused : TokenBlacklist.validateTokenId jti = .error error) : error.status = 401 := by
  unfold TokenBlacklist.validateTokenId at refused
  split at refused
  · cases refused
    rfl
  · split at refused
    · cases refused
      rfl
    · cases refused

/-- The session is gone from both stores; nothing else that is observed has changed. -/
structure Dropped (db : Bool) (sessionId : String) (world after : World) : Prop where
  clock : after.clock = world.clock
  entry : after.redis (.session sessionId) = none
  row : after.db.sessions =
    if db then DbCommand.revokeSessionRow world.db.sessions sessionId else world.db.sessions
  blacklist : ∀ jti, after.redis (.blacklist jti) = world.redis (.blacklist jti)
  blacklistRows : after.db.blacklist = world.db.blacklist

private theorem dropped_decr {db : Bool} {sessionId userHash : String} {world after : World}
    (dropped : Dropped db sessionId world after) :
    Dropped db sessionId world ((RedisCommand.decr (.sessionCount userHash)).effect after) where
  clock := by rw [RedisCommand.effect_clock, dropped.clock]
  entry := by rw [RedisCommand.effect_redis_other _ _ (by simp [RedisCommand.key]), dropped.entry]
  row := by rw [RedisCommand.effect_db, dropped.row]
  blacklist jti := by
    rw [RedisCommand.effect_redis_other _ _ (by simp [RedisCommand.key]), dropped.blacklist]
  blacklistRows := by rw [RedisCommand.effect_db, dropped.blacklistRows]

private theorem dropCachedSession_completes {sha256Hex : String → String} {db : Bool}
    {sessionId : String}
    {world after : World}
    (completes : Completes (SessionStore.dropCachedSession sha256Hex db sessionId) world (.ok ()) after) :
    Dropped false sessionId world after := by
  have removed : Dropped false sessionId world (world.remove (.session sessionId)) :=
    ⟨rfl, by simp [World.remove], rfl, fun _ => by simp [World.remove], rfl⟩
  simp only [SessionStore.dropCachedSession, redis_eq, Program.call_bind, Program.done_bind,
    completes_redis, RedisCommand.answer, RedisCommand.effect, Except.ok.injEq,
    exists_eq_left'] at completes
  cases found : world.lookup (.session sessionId) with
  | none =>
    rw [found] at completes
    exact completes.2 ▸ removed
  | some existing =>
    rw [found] at completes
    dsimp only at completes
    cases stored : existing.asSession with
    | error error =>
      rw [stored] at completes
      exact completes.2 ▸ removed
    | ok record =>
      rw [stored] at completes
      simp only [SessionStore.decrementUserSessionCount, redis_eq, Program.call_bind,
        Program.done_bind, completes_redis] at completes
      obtain ⟨_, _, completes⟩ := completes
      exact completes.2 ▸ dropped_decr removed

theorem revokeSession_completes {sha256Hex : String → String} {db : Bool} {sessionId : String}
    {world after : World}
    (completes : Completes (SessionStore.revokeSession sha256Hex db sessionId) world (.ok ()) after) :
    SessionStore.validateSessionId sessionId = .ok () ∧ Dropped db sessionId world after := by
  unfold SessionStore.revokeSession at completes
  split at completes
  · cases completes.1
  · rename_i valid
    refine ⟨valid, ?_⟩
    cases db with
    | false => exact dropCachedSession_completes completes
    | true =>
      simp only [↓reduceIte, database_eq, Program.call_bind, Program.done_bind,
        completes_db] at completes
      have dropped := dropCachedSession_completes completes
      exact ⟨dropped.clock, dropped.entry, dropped.row, dropped.blacklist, dropped.blacklistRows⟩

theorem validateSessionId_status {sessionId : String} {error : ApiError}
    (refused : SessionStore.validateSessionId sessionId = .error error) : error.status = 400 := by
  unfold SessionStore.validateSessionId at refused
  split at refused
  · cases refused
    rfl
  · split at refused
    · cases refused
      rfl
    · cases refused

theorem revokeSession_refused {sha256Hex : String → String} {db : Bool} {sessionId : String}
    {world after : World} {error : ApiError}
    (completes : Completes (SessionStore.revokeSession sha256Hex db sessionId) world (.error error)
      after) : SessionStore.validateSessionId sessionId = .error error := by
  have drops (current : World) : ¬ Completes (SessionStore.dropCachedSession sha256Hex db sessionId)
      current (.error error) after := by
    simp only [SessionStore.dropCachedSession, redis_eq, Program.call_bind, Program.done_bind,
      completes_redis]
    rintro ⟨reply, _, completes⟩
    rcases reply with _ | existing
    · cases completes.1
    · dsimp only at completes
      split at completes
      · cases completes.1
      · simp only [SessionStore.decrementUserSessionCount, redis_eq, Program.call_bind,
          Program.done_bind, completes_redis] at completes
        obtain ⟨_, _, completes⟩ := completes
        cases completes.1
  unfold SessionStore.revokeSession at completes
  split at completes
  · rename_i refused invalid
    cases completes.1
    exact invalid
  · split at completes
    · simp only [database_eq, Program.call_bind, Program.done_bind, completes_db] at completes
      exact absurd completes (drops _)
    · exact absurd completes (drops _)

/-- A session that is not cached is revoked without touching a counter. -/
theorem completes_revokeSession (sha256Hex : String → String) (db : Bool) {sessionId : String}
    {world : World} (valid : SessionStore.validateSessionId sessionId = .ok ())
    (missing : world.redis (.session sessionId) = none) :
    ∃ after, Completes (SessionStore.revokeSession sha256Hex db sessionId) world (.ok ()) after := by
  have absent (current : World) (same : current.redis = world.redis) :
      current.lookup (.session sessionId) = none := by
    simp [World.lookup, same, missing]
  cases db <;>
    simp [SessionStore.revokeSession, valid, SessionStore.dropCachedSession, completes_redis,
      RedisCommand.answer, absent]

section

variable {sha256Hex : String → String} {db : Bool} {sessionId userId : String}
variable {issuedAt : Option Nat} {deviceInfo : Option String} {ttlSecs maxSessions : Nat}
variable {world after : World}

/-- The session is registered, unless it was there already. -/
structure Registered (db : Bool) (sessionId : String) (record : SessionRecord) (ttlSecs : Nat)
    (world after : World) : Prop where
  clock : after.clock = world.clock
  entry : after.redis (.session sessionId) =
    if (world.lookup (.session sessionId)).isNone then
      some ⟨.session record, some (world.clock + ttlSecs * 1000)⟩
    else world.redis (.session sessionId)
  /-- Without a database the entry is the only trace of an owner. -/
  owned : db = false → ∀ value, world.lookup (.session sessionId) = some value →
    ∃ existing, value.asSession = .ok existing ∧ existing.userId = record.userId
  row : after.db.sessions = if db then
      world.db.sessions.insertNew ⟨sessionId, record.userId, record.issuedAt.map asI64,
        record.deviceInfo, asI64 ((world.second + ttlSecs) % 2 ^ 64), false⟩
    else world.db.sessions

private theorem setNxEx_registers (missing : world.lookup (.session sessionId) = none)
    (accepted : acceptsTtl world.clock ttlSecs = true) :
    Registered false sessionId ⟨userId, issuedAt, deviceInfo⟩ ttlSecs world
      ((RedisCommand.setNxEx (.session sessionId) (.session ⟨userId, issuedAt, deviceInfo⟩)
        ttlSecs).effect world) := by
  simp only [RedisCommand.effect, accepted, missing, Option.isNone_none, Bool.and_self, ↓reduceIte]
  exact ⟨rfl, by simp [World.store, missing], fun _ value found => by simp [missing] at found, rfl⟩

theorem Registered.incrEx {userHash : String} {record : SessionRecord}
    (registered : Registered db sessionId record ttlSecs world after) :
    Registered db sessionId record ttlSecs world
      ((RedisCommand.incrEx (.sessionCount userHash) ttlSecs).effect after) where
  clock := by rw [RedisCommand.effect_clock, registered.clock]
  entry := by rw [RedisCommand.effect_redis_other _ _ (by simp [RedisCommand.key]), registered.entry]
  owned := registered.owned
  row := by rw [RedisCommand.effect_db, registered.row]

/-- The session was there already, it is new, or the user has too many of them. -/
theorem createSessionRedis_cases {answer : Except ApiError Unit}
    (completes : Completes (SessionStore.createSessionRedis sha256Hex sessionId userId issuedAt
      deviceInfo ttlSecs maxSessions) world answer after) :
    acceptsTtl world.clock ttlSecs = true ∧
      ((∃ value, world.lookup (.session sessionId) = some value ∧ after = world ∧
        (answer = .ok () → ∃ existing, value.asSession = .ok existing ∧ existing.userId = userId)) ∨
      (answer = .ok () ∧
        Registered false sessionId ⟨userId, issuedAt, deviceInfo⟩ ttlSecs world after) ∨
      answer = .error (.badRequest "Maximum concurrent sessions exceeded for this user")) := by
  simp only [SessionStore.createSessionRedis, redis_eq, Program.call_bind, Program.done_bind,
    completes_redis] at completes
  obtain ⟨reply, answered, completes⟩ := completes
  simp only [RedisCommand.answer] at answered
  split at answered
  case isFalse => cases answered
  rename_i accepted
  refine ⟨accepted, ?_⟩
  cases answered
  cases found : world.lookup (.session sessionId) with
  | some value =>
    have unchanged : (RedisCommand.setNxEx (.session sessionId)
        (.session ⟨userId, issuedAt, deviceInfo⟩) ttlSecs).effect world = world := by
      simp [RedisCommand.effect, found]
    simp only [found, Option.isNone_some, unchanged, SessionStore.getSessionJson, redis_eq,
      Program.call_bind, Program.done_bind, completes_get] at completes
    refine .inl ⟨value, rfl, ?_⟩
    cases stored : value.asSession with
    | error error =>
      rw [stored] at completes
      exact ⟨completes.2, fun succeeded => by cases completes.1.symm.trans succeeded⟩
    | ok existing =>
      rw [stored] at completes
      change Completes (if existing.userId ≠ userId then _ else _) world _ after at completes
      split at completes
      · exact ⟨completes.2, fun succeeded => by cases completes.1.symm.trans succeeded⟩
      · rename_i own
        exact ⟨completes.2, fun _ => ⟨existing, rfl, not_not.mp own⟩⟩
  | none =>
    have registered : Registered false sessionId ⟨userId, issuedAt, deviceInfo⟩ ttlSecs world _ :=
      setNxEx_registers found accepted
    simp only [found, Option.isNone_none, SessionStore.incrementUserSessionCount, redis_eq,
      Program.call_bind, Program.done_bind, Program.pure_eq, completes_redis] at completes
    obtain ⟨count, _, completes⟩ := completes
    split at completes
    · simp only [SessionStore.decrementUserSessionCount, redis_eq, Program.call_bind,
        Program.done_bind, Program.pure_eq, completes_redis] at completes
      obtain ⟨_, _, _, _, limited, _⟩ := completes
      exact .inr (.inr limited)
    · obtain ⟨succeeded, rfl⟩ := completes
      exact .inr (.inl ⟨succeeded, registered.incrEx⟩)

private theorem createSessionRedis_completes
    (completes : Completes (SessionStore.createSessionRedis sha256Hex sessionId userId issuedAt
      deviceInfo ttlSecs maxSessions) world (.ok ()) after) :
    acceptsTtl world.clock ttlSecs = true ∧
      Registered false sessionId ⟨userId, issuedAt, deviceInfo⟩ ttlSecs world after := by
  obtain ⟨accepted, ⟨value, found, rfl, own⟩ | ⟨_, registered⟩ | limited⟩ :=
    createSessionRedis_cases completes
  · refine ⟨accepted, rfl, by simp [found], fun _ other same => ?_, rfl⟩
    rw [found] at same
    cases same
    exact own rfl
  · exact ⟨accepted, registered⟩
  · cases limited

private theorem createSessionDb_completes
    (completes : Completes (SessionStore.createSessionDb sessionId userId issuedAt
      deviceInfo ttlSecs maxSessions) world (.ok ()) after) :
    acceptsTtl world.clock ttlSecs = true ∧ 0 < maxSessions ∧
      Registered true sessionId ⟨userId, issuedAt, deviceInfo⟩ ttlSecs world after := by
  simp only [SessionStore.createSessionDb, SessionStore.createSessionGuarded, nowUnixSecs_eq,
    database_eq, redis_eq, Program.call_bind, Program.done_bind, Program.pure_eq, completes_now,
    completes_db] at completes
  split at completes
  · simp only [Program.call_bind, Program.done_bind, completes_db] at completes
    cases completes.1
  · rename_i free
    simp only [Program.call_bind, Program.done_bind, completes_db, completes_redis] at completes
    obtain ⟨_, answered, _, rfl⟩ := completes
    simp only [RedisCommand.answer] at answered
    split at answered
    case isFalse => cases answered
    rename_i accepted
    refine ⟨accepted, ?_, RedisCommand.effect_clock _ _, ?_, by rintro ⟨⟩, ?_⟩
    · have counted : ((0 : Nat) : Int) < maxSessions :=
        Int.lt_of_le_of_lt (Int.natCast_nonneg _) (Int.lt_of_not_ge free)
      exact_mod_cast counted
    · have same (current : Database) :
          World.lookup ⟨world.clock, world.redis, current⟩ (.session sessionId) =
            world.lookup (.session sessionId) := rfl
      simp only [RedisCommand.effect, accepted, same, Bool.true_and]
      cases world.lookup (.session sessionId) <;> simp [World.store]
    · rw [RedisCommand.effect_db]
      simp only [DbCommand.effect, ↓reduceIte]
      rfl

theorem createSession_completes
    (completes : Completes (SessionStore.createSession sha256Hex db sessionId userId issuedAt
      deviceInfo ttlSecs maxSessions) world (.ok ()) after) :
    SessionStore.validateSessionId sessionId = .ok () ∧ (trim userId).isEmpty = false ∧
      acceptsTtl world.clock ttlSecs = true ∧ (db = true → 0 < maxSessions) ∧
      Registered db sessionId ⟨userId, issuedAt, deviceInfo⟩ ttlSecs world after := by
  unfold SessionStore.createSession at completes
  split at completes
  · cases completes.1
  · rename_i valid
    split at completes
    · cases completes.1
    · rename_i named
      refine ⟨valid, by simpa using named, ?_⟩
      split at completes
      · rename_i configured
        obtain ⟨accepted, free, registered⟩ := createSessionDb_completes completes
        subst configured
        exact ⟨accepted, fun _ => free, registered⟩
      · rename_i alone
        obtain ⟨accepted, registered⟩ := createSessionRedis_completes completes
        cases Bool.eq_false_of_not_eq_true alone
        exact ⟨accepted, nofun, registered⟩

private theorem createSessionDb_refused {error : ApiError}
    (completes : Completes (SessionStore.createSessionDb sessionId userId issuedAt
      deviceInfo ttlSecs maxSessions) world (.error error) after) : error.status = 400 := by
  simp only [SessionStore.createSessionDb, SessionStore.createSessionGuarded, nowUnixSecs_eq,
    database_eq, redis_eq, Program.call_bind, Program.done_bind, Program.pure_eq, completes_now,
    completes_db] at completes
  split at completes
  · simp only [Program.call_bind, Program.done_bind, completes_db] at completes
    cases completes.1
    rfl
  · simp only [Program.call_bind, Program.done_bind, completes_db, completes_redis] at completes
    obtain ⟨_, _, completes⟩ := completes
    cases completes.1

/-- Only a session of another user is answered with 401, and left as it is. -/
theorem createSession_unauthorized {error : ApiError}
    (completes : Completes (SessionStore.createSession sha256Hex db sessionId userId issuedAt
      deviceInfo ttlSecs maxSessions) world (.error error) after)
    (unauthorized : error.status = 401) : after = world := by
  unfold SessionStore.createSession at completes
  split at completes
  · exact completes.2
  · split at completes
    · exact completes.2
    · split at completes
      · rw [createSessionDb_refused completes] at unauthorized
        cases unauthorized
      · obtain ⟨_, ⟨_, _, same, _⟩ | ⟨succeeded, _⟩ | limited⟩ :=
          createSessionRedis_cases completes
        · exact same
        · cases succeeded
        · cases limited
          cases unauthorized

/-- A user whose counter stands below zero is let in whatever the limit. -/
theorem completes_createSessionRedis (accepted : acceptsTtl world.clock ttlSecs = true)
    (missing : world.redis (.session sessionId) = none)
    (counted : world.redis (.sessionCount (sha256Hex userId)) = some ⟨.counter (-1), none⟩) :
    ∃ after, Completes (SessionStore.createSessionRedis sha256Hex sessionId userId issuedAt
      deviceInfo ttlSecs maxSessions) world (.ok ()) after := by
  have absent : world.lookup (.session sessionId) = none := by simp [World.lookup, missing]
  have counter (entry : RedisEntry) :
      (world.store (.session sessionId) entry).lookup (.sessionCount (sha256Hex userId)) =
        some (.counter (-1)) := by
    simp [World.lookup, World.store, counted, RedisEntry.alive]
  have zero : asU64 0 = 0 := rfl
  simp [SessionStore.createSessionRedis, SessionStore.incrementUserSessionCount,
    SessionStore.userSessionCountKey, completes_redis, RedisCommand.answer, RedisCommand.effect,
    accepted, absent, counter, zero]

private theorem completes_createSessionDb (accepted : acceptsTtl world.clock ttlSecs = true)
    (free : 0 < maxSessions) (empty : world.db.sessions = .empty) :
    ∃ after, Completes (SessionStore.createSessionDb sessionId userId issuedAt deviceInfo ttlSecs
      maxSessions) world (.ok ()) after := by
  have counts (txNow : Int) :
      (DbCommand.countActiveSessionsForUser userId txNow).answer world = 0 := by
    simp only [DbCommand.answer, empty]
    rfl
  have below : maxSessions ≠ 0 := Nat.ne_of_gt free
  simp [SessionStore.createSessionDb, SessionStore.createSessionGuarded, DbCommand.effect, counts,
    below, completes_redis, RedisCommand.answer, accepted]

theorem completes_createSession (valid : SessionStore.validateSessionId sessionId = .ok ())
    (named : (trim userId).isEmpty = false) (accepted : acceptsTtl world.clock ttlSecs = true)
    (free : db = true → 0 < maxSessions) (missing : world.redis (.session sessionId) = none)
    (counted : world.redis (.sessionCount (sha256Hex userId)) = some ⟨.counter (-1), none⟩)
    (empty : world.db.sessions = .empty) :
    ∃ after, Completes (SessionStore.createSession sha256Hex db sessionId userId issuedAt deviceInfo
      ttlSecs maxSessions) world (.ok ()) after := by
  simp only [SessionStore.createSession, valid, named, Bool.false_eq_true, ↓reduceIte]
  split
  · rename_i configured
    exact completes_createSessionDb accepted (free configured) empty
  · exact completes_createSessionRedis accepted missing counted

end

end BrainMate.Gateway
