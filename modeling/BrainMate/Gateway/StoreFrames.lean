import BrainMate.Gateway.Clients
import BrainMate.Gateway.Footprint
import BrainMate.Gateway.StoreKeys
import BrainMate.Interleaving.Separation

namespace BrainMate.Gateway

open Interleaving System

inductive Store where
  | sessions
  | blacklist
  | refresh
  | authCache
  | otp
  | nonce
  | rateLimit
  | risk
  | waf
  | reconciliation
  deriving DecidableEq, Repr

/-- The store that a key is of. -/
def RedisKey.owner : RedisKey → Store
  | .session _ | .sessionCount _ => .sessions
  | .blacklist _ => .blacklist
  | .refresh _ | .refreshLock _ => .refresh
  | .auth _ => .authCache
  | .otp _ => .otp
  | .nonce _ => .nonce
  | .rateLimit _ => .rateLimit
  | .riskContext _ => .risk
  | .wafBlock _ | .wafAudit _ => .waf
  | .reconciliationIdem _ | .reconciliationLock _ | .reconciliationPending | .reconciliationDlq
  | .sessionVersion _ => .reconciliation

/-- The stores whose table a statement is about. -/
def DbCommand.tables : DbCommand → List Store
  | .begin | .rollback => []
  | .countActiveSessionsForUser _ _ | .insertSession _ | .getSession _ | .revokeSession _ => [.sessions]
  | .addToBlacklist _ _ | .checkBlacklist _ _ => [.blacklist]
  | .insertRefreshToken _ | .rotateRefreshTokenTx _ _ _ _ _ _ | .getRefreshToken _
  | .revokeRefreshToken _ | .revokeAllRefreshTokensForDevice _ => [.refresh]
  | .cleanupExpiredAuth => [.sessions, .blacklist, .refresh]

/-- The stores whose part of the world a command reads or changes. -/
def Command.stores : Command → List Store
  | .now | .http => []
  | .redis command => [command.key.owner]
  | .db command => command.tables

/-- Two worlds do not differ in what a store keeps. -/
structure SamePart (store : Store) (first second : World) : Prop where
  clock : first.clock = second.clock
  redis : ∀ key, key.owner = store → first.redis key = second.redis key
  sessions : store = .sessions → first.db.sessions = second.db.sessions
  blacklist : store = .blacklist → first.db.blacklist = second.db.blacklist
  refreshTokens : store = .refresh → first.db.refreshTokens = second.db.refreshTokens

theorem SamePart.refl (store : Store) (world : World) : SamePart store world world :=
  ⟨rfl, fun _ _ => rfl, fun _ => rfl, fun _ => rfl, fun _ => rfl⟩

section Redis

variable {command : RedisCommand} {first second : World}

private theorem lookup_congr {key : RedisKey} (clock : first.clock = second.clock)
    (same : first.redis key = second.redis key) : first.lookup key = second.lookup key := by
  rw [World.lookup, World.lookup, clock, same]

/-- A command is answered by the clock and the entry under its key. -/
theorem RedisCommand.answer_congr (clock : first.clock = second.clock)
    (same : first.redis command.key = second.redis command.key) :
    command.answer first = command.answer second := by
  have found := lookup_congr clock same
  cases command <;> simp only [RedisCommand.key] at found <;>
    simp only [RedisCommand.answer, found, clock]

theorem RedisCommand.effect_congr (clock : first.clock = second.clock)
    (same : first.redis command.key = second.redis command.key) :
    (command.effect first).redis command.key = (command.effect second).redis command.key := by
  have found := lookup_congr clock same
  cases command <;> simp only [RedisCommand.key] at found same <;>
    simp only [RedisCommand.effect, RedisCommand.keepMembers, RedisCommand.key, found, same, clock] <;>
    repeat' split
  all_goals simp [World.store, World.remove, same]

end Redis

theorem DbCommand.rotationGate_congr {first second : Database} (oldHash : String) (nowSecs : Int)
    (same : first.refreshTokens = second.refreshTokens) :
    rotationGate first oldHash nowSecs = rotationGate second oldHash nowSecs := by
  rw [rotationGate, rotationGate, same]

namespace SamePart

variable {store : Store} {first second : World}

/-- Worlds that are alike in a store's part answer its commands alike. -/
theorem answer (same : SamePart store first second) {command : Command}
    (own : ∀ other ∈ command.stores, other = store) : command.answer first = command.answer second := by
  cases command with
  | now => exact same.clock
  | http => rfl
  | redis command =>
    exact RedisCommand.answer_congr same.clock (same.redis _ (own _ (.head _)))
  | db command =>
    have epoch : first.pgEpoch = second.pgEpoch := by rw [World.pgEpoch, World.pgEpoch, same.clock]
    have sessions (about : Store.sessions ∈ command.tables) := same.sessions (own _ about).symm
    have blacklist (about : Store.blacklist ∈ command.tables) := same.blacklist (own _ about).symm
    have tokens (about : Store.refresh ∈ command.tables) := same.refreshTokens (own _ about).symm
    cases command with
    | rotateRefreshTokenTx oldHash newHash userId deviceId expiresAt nowSecs =>
      have gate := DbCommand.rotationGate_congr oldHash nowSecs (tokens (.head _))
      rw [Command.answer, Command.answer, DbCommand.answer, DbCommand.answer, gate]
    | _ => simp_all [Command.answer, DbCommand.answer, DbCommand.tables]

theorem failure (same : SamePart store first second) (command : Command) (detail : String) :
    command.failure detail first = command.failure detail second := by
  cases command with
  | now => exact same.clock
  | http => rfl
  | redis command => rfl
  | db command => rfl

/-- They stay alike under its commands. -/
theorem effect (same : SamePart store first second) {command : Command}
    (own : ∀ other ∈ command.stores, other = store) :
    SamePart store (command.effect first) (command.effect second) := by
  cases command with
  | now => exact same
  | http => exact same
  | redis command =>
    refine ⟨by simpa [Command.effect] using same.clock, fun key owned => ?_, ?_, ?_, ?_⟩
    · by_cases about : key = command.key
      · subst about
        exact RedisCommand.effect_congr same.clock (same.redis _ owned)
      · simp only [Command.effect, RedisCommand.effect_redis_other _ _ about]
        exact same.redis key owned
    · simpa [Command.effect] using same.sessions
    · simpa [Command.effect] using same.blacklist
    · simpa [Command.effect] using same.refreshTokens
  | db command =>
    have epoch : first.pgEpoch = second.pgEpoch := by rw [World.pgEpoch, World.pgEpoch, same.clock]
    refine ⟨same.clock, same.redis, ?_, ?_, ?_⟩
    · rintro rfl
      have table := same.sessions rfl
      cases command <;> first
        | exact table
        | simp_all [Command.effect, DbCommand.effect, DbCommand.tables, Command.stores]
    · rintro rfl
      have table := same.blacklist rfl
      cases command <;> first
        | exact table
        | simp_all [Command.effect, DbCommand.effect, DbCommand.tables, Command.stores]
    · rintro rfl
      have table := same.refreshTokens rfl
      cases command with
      | rotateRefreshTokenTx oldHash newHash userId deviceId expiresAt nowSecs =>
        have gate := DbCommand.rotationGate_congr oldHash nowSecs table
        simp only [Command.effect, DbCommand.effect, gate]
        split
        · simp only [table]
        · exact table
      | _ =>
        first
          | exact table
          | simp_all [Command.effect, DbCommand.effect, DbCommand.tables, Command.stores]

/-- A command on other stores changes nothing of it. -/
theorem spare (same : SamePart store first second) {command : Command}
    (foreign : store ∉ command.stores) : SamePart store (command.effect first) second := by
  cases command with
  | now => exact same
  | http => exact same
  | redis command =>
    refine ⟨by simpa [Command.effect] using same.clock, fun key owned => ?_, ?_, ?_, ?_⟩
    · have other : key ≠ command.key := by
        rintro rfl
        exact foreign (owned ▸ .head _)
      simp only [Command.effect, RedisCommand.effect_redis_other _ _ other]
      exact same.redis key owned
    · simpa [Command.effect] using same.sessions
    · simpa [Command.effect] using same.blacklist
    · simpa [Command.effect] using same.refreshTokens
  | db command =>
    refine ⟨same.clock, same.redis, ?_, ?_, ?_⟩
    · rintro rfl
      rw [← same.sessions rfl]
      cases command <;> first
        | rfl
        | exact absurd (.head _) foreign
        | (simp only [Command.effect, DbCommand.effect]; split <;> rfl)
    · rintro rfl
      rw [← same.blacklist rfl]
      cases command <;> first
        | rfl
        | exact absurd (.head _) foreign
        | exact absurd (.tail _ (.head _)) foreign
        | (simp only [Command.effect, DbCommand.effect]; split <;> rfl)
    · rintro rfl
      rw [← same.refreshTokens rfl]
      cases command <;> first
        | rfl
        | exact absurd (.head _) foreign
        | exact absurd (.tail _ (.tail _ (.head _))) foreign

theorem environment (same : SamePart store first second) (event : Event) :
    SamePart store (environment event first) (environment event second) := by
  cases event with
  | tick milliseconds =>
    exact ⟨congrArg (· + milliseconds) same.clock, same.redis, same.sessions, same.blacklist,
      same.refreshTokens⟩
  | evict key =>
    refine ⟨same.clock, fun other owned => ?_, same.sessions, same.blacklist, same.refreshTokens⟩
    simp only [Gateway.environment, World.remove, Function.update_apply, same.redis other owned]

end SamePart

/-- A call with the settings it is made with. -/
inductive StoreCall where
  | createSession (sessionId userId : String) (issuedAt : Option Nat) (deviceInfo : Option String)
      (ttlSecs maxSessionsPerUser : Nat)
  | validateSession (sessionId expectedUserId : String)
  | revokeSession (sessionId : String)
  | countUserSessions (userId : String)
  | revokeToken (jti : String) (ttlSecs : Nat)
  | isBlacklisted (jti : String)
  | issueRefresh (rawTokenId userId deviceId : String) (expiresAt : Nat)
  | validateRefresh (rawTokenId : String)
  | rotateRefresh (oldRawTokenId newRawTokenId : String) (newExpiresAt : Nat)
  | revokeRefresh (rawTokenId : String)
  | cachedClaims (tokenHash : String)
  | cacheClaims (ttlSecs : Nat) (tokenHash : String) (claims : ClerkClaims)
  | upsertOtp (store : OtpStore) (userId otp : String)
  | verifyOtp (store : OtpStore) (userId otp : String)
  | registerNonce (store : NonceStore) (requestId : String) (requestRegion : Option String)
  | checkRate (limiter : RateLimiter) (scope : RateLimitScope) (id : String)
  | evaluateRisk (engine : RiskEngine) (ctx : RiskRequestContext)
  | recordFailedAttempt (engine : RiskEngine) (userId : String)
  | isIpBlocked (ip : String)
  | blockIp (ip : String) (ttlSecs : Nat)
  | recordAuditEvent (event : AuditEvent)
  | enqueue (op : ReconciliationOp)
  | currentSessionVersion (sessionId : String)
  /-- What the worker does with an entry after its attempt. -/
  | settle (entry : QueueEntry) (result : Except String Unit)
  /-- The worker, which makes the calls of its entries on the other stores. -/
  | processBatch (worker : Reconciliation.Worker)

namespace StoreCall

@[reducible] def Result : StoreCall → Type
  | .createSession _ _ _ _ _ _ | .revokeSession _ | .revokeToken _ _ | .issueRefresh _ _ _ _
  | .revokeRefresh _ | .cacheClaims _ _ _ | .upsertOtp _ _ _ | .recordFailedAttempt _ _
  | .blockIp _ _ | .recordAuditEvent _ => Except ApiError Unit
  | .validateSession _ _ => Except ApiError SessionRecord
  | .countUserSessions _ => Except ApiError Nat
  | .isBlacklisted _ | .verifyOtp _ _ _ | .registerNonce _ _ _ | .isIpBlocked _ =>
    Except ApiError Bool
  | .validateRefresh _ => Except ApiError RefreshTokenRecord
  | .rotateRefresh _ _ _ => Except ApiError RotationStatus
  | .cachedClaims _ => Except ApiError (Option ClerkClaims)
  | .checkRate _ _ _ => Except RateLimitError Unit
  | .evaluateRisk _ _ => Except ApiError RiskAssessment
  | .enqueue _ | .settle _ _ => Unit
  | .currentSessionVersion _ => Except String Nat
  | .processBatch _ => Except String Unit

def program (sha256Hex : String → String) (db : Bool) : (call : StoreCall) → Procedure call.Result
  | .createSession sessionId userId issuedAt deviceInfo ttlSecs maxSessionsPerUser =>
    SessionStore.createSession sha256Hex db sessionId userId issuedAt deviceInfo ttlSecs
      maxSessionsPerUser
  | .validateSession sessionId expectedUserId =>
    SessionStore.validateSession db sessionId expectedUserId
  | .revokeSession sessionId => SessionStore.revokeSession sha256Hex db sessionId
  | .countUserSessions userId => SessionStore.countUserSessions sha256Hex userId
  | .revokeToken jti ttlSecs => TokenBlacklist.revoke db jti ttlSecs
  | .isBlacklisted jti => TokenBlacklist.isBlacklisted db jti
  | .issueRefresh rawTokenId userId deviceId expiresAt =>
    RefreshStore.issue sha256Hex db rawTokenId userId deviceId expiresAt
  | .validateRefresh rawTokenId => RefreshStore.validate sha256Hex db rawTokenId
  | .rotateRefresh oldRawTokenId newRawTokenId newExpiresAt =>
    RefreshStore.rotate sha256Hex db oldRawTokenId newRawTokenId newExpiresAt
  | .revokeRefresh rawTokenId => RefreshStore.revoke sha256Hex db rawTokenId
  | .cachedClaims tokenHash => AuthCache.get tokenHash
  | .cacheClaims ttlSecs tokenHash claims => AuthCache.put ttlSecs tokenHash claims
  | .upsertOtp store userId otp => store.upsertOtp sha256Hex userId otp
  | .verifyOtp store userId otp => store.verifyAndConsume sha256Hex userId otp
  | .registerNonce store requestId requestRegion => store.registerNonce requestId requestRegion
  | .checkRate limiter scope id => limiter.checkScope sha256Hex scope id
  | .evaluateRisk engine ctx => engine.evaluate ctx
  | .recordFailedAttempt engine userId => engine.recordFailedAttempt userId
  | .isIpBlocked ip => WafFeedback.isIpBlocked ip
  | .blockIp ip ttlSecs => WafFeedback.blockIp ip ttlSecs
  | .recordAuditEvent event => WafFeedback.recordAuditEvent event
  | .enqueue op => Reconciliation.enqueue op
  | .currentSessionVersion sessionId => Reconciliation.currentSessionVersion sessionId
  | .settle entry result => Reconciliation.Worker.settle entry result
  | .processBatch worker => worker.processBatch

/-- The stores that the worker is on, by the entries it executes. -/
def workerStores : List Store := [.reconciliation, .sessions, .blacklist, .refresh]

/-- The stores that a call is on. -/
def stores : StoreCall → List Store
  | .createSession _ _ _ _ _ _ | .validateSession _ _ | .revokeSession _ | .countUserSessions _ =>
    [.sessions]
  | .revokeToken _ _ | .isBlacklisted _ => [.blacklist]
  | .issueRefresh _ _ _ _ | .validateRefresh _ | .rotateRefresh _ _ _ | .revokeRefresh _ => [.refresh]
  | .cachedClaims _ | .cacheClaims _ _ _ => [.authCache]
  | .upsertOtp _ _ _ | .verifyOtp _ _ _ => [.otp]
  | .registerNonce _ _ _ => [.nonce]
  | .checkRate _ _ _ => [.rateLimit]
  | .evaluateRisk _ _ | .recordFailedAttempt _ _ => [.risk]
  | .isIpBlocked _ | .blockIp _ _ | .recordAuditEvent _ => [.waf]
  | .enqueue _ | .currentSessionVersion _ | .settle _ _ => [.reconciliation]
  | .processBatch _ => workerStores

end StoreCall

/-- The command is on these stores only. -/
def Inside (stores : List Store) (command : Command) : Prop := ∀ store ∈ command.stores, store ∈ stores

theorem inside_now {stores : List Store} : Inside stores .now := nofun

theorem inside_own {store : Store} {command : RedisCommand} (own : command.key.owner = store) :
    Inside [store] (.redis command) := by
  intro other member
  rwa [Command.stores, own] at member

theorem inside_table {store : Store} {command : DbCommand} (own : command.tables = [store]) :
    Inside [store] (.db command) := by
  intro other member
  rwa [Command.stores, own] at member

theorem Inside.wider {stores more : List Store} (subset : stores ⊆ more) (command : Command)
    (inside : Inside stores command) : Inside more command :=
  fun store member => subset (inside store member)

section Sessions

variable (sha256Hex : String → String) (db : Bool)

private theorem createSessionGuarded_inside (record : DbSession) (maxSessions : Int) :
    (SessionStore.createSessionGuarded record maxSessions).Every (Inside [.sessions]) := by
  refine ⟨nofun, ?_⟩
  rintro (error | txNow)
  · trivial
  · refine ⟨inside_table rfl, ?_⟩
    rintro (error | activeCount)
    · trivial
    · dsimp only [Program.bind]
      split
      · refine ⟨nofun, ?_⟩
        rintro (error | done) <;> trivial
      · exact ⟨inside_table rfl, fun _ => trivial⟩

private theorem createSession_inside (sessionId userId : String) (issuedAt : Option Nat)
    (deviceInfo : Option String) (ttlSecs maxSessionsPerUser : Nat) :
    (SessionStore.createSession sha256Hex db sessionId userId issuedAt deviceInfo ttlSecs
      maxSessionsPerUser).Every (Inside [.sessions]) := by
  unfold SessionStore.createSession
  split
  · trivial
  · split
    · trivial
    · split
      · refine ⟨inside_now, fun now => ?_⟩
        apply (createSessionGuarded_inside _ _).bind
        rintro ((detail | detail) | inserted)
        · dsimp only
          split <;> trivial
        · trivial
        · exact ⟨inside_own rfl, fun _ => trivial⟩
      · refine (SessionStore.createSessionRedis_footprint sha256Hex sessionId userId issuedAt
          deviceInfo ttlSecs maxSessionsPerUser).imp ?_
        rintro _ (_ | _ | _ | _ | _) <;> exact inside_own rfl

theorem validateSession_inside (sessionId expectedUserId : String) :
    (SessionStore.validateSession db sessionId expectedUserId).Every (Inside [.sessions]) := by
  refine (SessionStore.validateSession_footprint db sessionId expectedUserId).imp ?_
  rintro _ (_ | _ | _ | _)
  · exact inside_now
  · exact inside_own rfl
  · exact inside_table rfl
  · exact inside_own rfl

theorem revokeSession_inside (sessionId : String) :
    (SessionStore.revokeSession sha256Hex db sessionId).Every (Inside [.sessions]) := by
  refine (SessionStore.revokeSession_footprint sha256Hex db sessionId).imp ?_
  rintro _ (_ | _ | _)
  · exact inside_table rfl
  · exact inside_own rfl
  · exact inside_own rfl

private theorem countUserSessions_inside (userId : String) :
    (SessionStore.countUserSessions sha256Hex userId).Every (Inside [.sessions]) := by
  refine ⟨inside_own rfl, ?_⟩
  rintro (error | raw) <;> trivial

end Sessions

section Tokens

variable (sha256Hex : String → String) (db : Bool)

theorem revokeToken_inside (jti : String) (ttlSecs : Nat) :
    (TokenBlacklist.revoke db jti ttlSecs).Every (Inside [.blacklist]) := by
  have caching : (TokenBlacklist.cacheRevocation db jti ttlSecs).Every (Inside [.blacklist]) := by
    refine ⟨inside_own rfl, ?_⟩
    rintro (error | done)
    · dsimp only [Program.bind]
      split <;> trivial
    · trivial
  unfold TokenBlacklist.revoke
  split
  · trivial
  · split
    · refine ⟨inside_now, fun now => ⟨inside_table rfl, ?_⟩⟩
      rintro (error | done)
      · trivial
      · exact caching
    · exact caching

theorem isBlacklisted_inside (jti : String) :
    (TokenBlacklist.isBlacklisted db jti).Every (Inside [.blacklist]) := by
  have missed (answer : Except ApiError Bool) :
      (if db then TokenBlacklist.isBlacklistedDb jti else pure answer).Every
        (Inside [.blacklist]) := by
    split
    · refine ⟨inside_now, fun now => ⟨inside_table rfl, ?_⟩⟩
      rintro (error | ⟨_ | _, _ | expiresAt⟩)
      · trivial
      · trivial
      · trivial
      · trivial
      · exact ⟨inside_now, fun _ => ⟨inside_own rfl, fun _ => trivial⟩⟩
    · trivial
  unfold TokenBlacklist.isBlacklisted
  split
  · trivial
  · refine ⟨inside_own rfl, ?_⟩
    rintro (error | _ | _)
    · exact missed _
    · exact missed _
    · trivial

theorem inside_refresh {command : Command} (issued : RefreshStore.TokenCommand command) :
    Inside [.refresh] command := by
  cases issued with
  | clock => exact inside_now
  | read | cache | lock | unlock => exact inside_own rfl
  | insert | fetch | rotate | mark | cascade => exact inside_table rfl

private theorem issueRefresh_inside (rawTokenId userId deviceId : String) (expiresAt : Nat) :
    (RefreshStore.issue sha256Hex db rawTokenId userId deviceId expiresAt).Every
      (Inside [.refresh]) :=
  (RefreshStore.issue_footprint sha256Hex db rawTokenId userId deviceId expiresAt).imp
    fun _ => inside_refresh

private theorem validateRefresh_inside (rawTokenId : String) :
    (RefreshStore.validate sha256Hex db rawTokenId).Every (Inside [.refresh]) :=
  (RefreshStore.validate_footprint sha256Hex db rawTokenId).imp fun _ => inside_refresh

private theorem rotateRefresh_inside (oldRawTokenId newRawTokenId : String) (newExpiresAt : Nat) :
    (RefreshStore.rotate sha256Hex db oldRawTokenId newRawTokenId newExpiresAt).Every
      (Inside [.refresh]) :=
  (RefreshStore.rotate_footprint sha256Hex db oldRawTokenId newRawTokenId newExpiresAt).imp
    fun _ => inside_refresh

private theorem revokeRefresh_inside (rawTokenId : String) :
    (RefreshStore.revoke sha256Hex db rawTokenId).Every (Inside [.refresh]) :=
  (RefreshStore.revoke_footprint sha256Hex db rawTokenId).imp fun _ => inside_refresh

private theorem cachedClaims_inside (tokenHash : String) :
    (AuthCache.get tokenHash).Every (Inside [.authCache]) := by
  unfold AuthCache.get
  split
  · trivial
  · refine ⟨inside_own rfl, ?_⟩
    rintro (error | _ | raw)
    · trivial
    · trivial
    · dsimp only [Program.bind]
      split <;> trivial

private theorem cacheClaims_inside (ttlSecs : Nat) (tokenHash : String) (claims : ClerkClaims) :
    (AuthCache.put ttlSecs tokenHash claims).Every (Inside [.authCache]) := by
  unfold AuthCache.put
  split
  · trivial
  · refine ⟨inside_own rfl, ?_⟩
    rintro (error | done) <;> trivial

end Tokens

private theorem validateToken_inside (verifier : Auth.Verifier) (token : String) :
    (verifier.services.validateToken token).Every (Inside [.authCache]) := by
  have retrying (kid : String) :
      (verifier.services.retryDecode kid token).Every (Inside [.authCache]) := by
    simp only [Auth.Services.retryDecode, Auth.Verifier.services_forceRefresh,
      Auth.Verifier.services_getDecodingKey, Program.done_bind]
    split
    · trivial
    · split
      · trivial
      · refine ⟨inside_now, fun now => ?_⟩
        dsimp only [Program.bind, Program.pure_eq]
        split <;> trivial
  unfold Auth.Services.validateToken
  split
  · trivial
  · split
    · trivial
    · split
      · trivial
      · rw [Auth.Verifier.services_getDecodingKey, Program.done_bind]
        split
        · trivial
        · refine ⟨inside_now, fun now => ?_⟩
          dsimp only [Program.bind, Program.pure_eq]
          split
          · trivial
          · exact retrying _

theorem getOrValidateClaims_inside (verifier : Auth.Verifier) (sha256Hex : String → String)
    (token : String) :
    (verifier.getOrValidateClaims sha256Hex token).Every (Inside [.authCache]) := by
  have validating (hash : String) :
      (verifier.services.validateAndCache hash token).Every (Inside [.authCache]) := by
    apply (validateToken_inside verifier token).bind
    rintro (error | claims)
    · trivial
    · apply (cacheClaims_inside _ _ _).bind
      rintro (error | done) <;> trivial
  apply (cachedClaims_inside _).bind
  rintro (error | _ | cached)
  · trivial
  · exact validating _
  · refine ⟨inside_now, fun now => ?_⟩
    dsimp only [Program.bind, Program.pure_eq]
    split
    · trivial
    · exact validating _

section Requests

variable (sha256Hex : String → String)

private theorem upsertOtp_inside (store : OtpStore) (userId otp : String) :
    (store.upsertOtp sha256Hex userId otp).Every (Inside [.otp]) := by
  unfold OtpStore.upsertOtp
  split
  · trivial
  · split
    · trivial
    · exact ⟨inside_own rfl, fun _ => trivial⟩

private theorem verifyOtp_inside (store : OtpStore) (userId otp : String) :
    (store.verifyAndConsume sha256Hex userId otp).Every (Inside [.otp]) := by
  unfold OtpStore.verifyAndConsume
  split
  · trivial
  · split
    · trivial
    · exact ⟨inside_own rfl, fun _ => trivial⟩

theorem registerNonce_inside (store : NonceStore) (requestId : String)
    (requestRegion : Option String) :
    (store.registerNonce requestId requestRegion).Every (Inside [.nonce]) := by
  unfold NonceStore.registerNonce
  split
  · trivial
  · dsimp only
    split
    · trivial
    · refine ⟨inside_own rfl, ?_⟩
      rintro (error | fresh) <;> trivial

theorem checkScope_inside (limiter : RateLimiter) (scope : RateLimitScope) (id : String) :
    (limiter.checkScope sha256Hex scope id).Every (Inside [.rateLimit]) := by
  refine ⟨inside_now, fun now => ⟨inside_own rfl, ?_⟩⟩
  rintro (error | ⟨_ | _, waitSecs⟩) <;> trivial

private theorem loadSessionContextRaw_inside {key : RedisKey} (own : key.owner = .risk) :
    (RiskEngine.loadSessionContextRaw key).Every (Inside [.risk]) := by
  refine ⟨inside_own own, ?_⟩
  rintro (error | _ | raw)
  · trivial
  · trivial
  · dsimp only [Program.bind]
    split <;> trivial

private theorem saveSessionContext_inside {key : RedisKey} (own : key.owner = .risk)
    (context : SessionContext) :
    (RiskEngine.saveSessionContext key context).Every (Inside [.risk]) := by
  refine ⟨inside_own own, ?_⟩
  rintro (error | done) <;> trivial

theorem evaluateRisk_inside (engine : RiskEngine) (ctx : RiskRequestContext) :
    (engine.evaluate ctx).Every (Inside [.risk]) := by
  apply (loadSessionContextRaw_inside rfl).bind
  rintro (error | prev)
  · trivial
  · have signals : (engine.riskSignals ctx prev).Every (Inside [.risk]) := by
      cases prev with
      | none => trivial
      | some prev =>
        have journey : (engine.travelled prev ctx).Every (Inside [.risk]) := by
          unfold RiskEngine.travelled
          split
          · exact ⟨inside_now, fun _ => trivial⟩
          · trivial
        exact journey.bind fun _ => trivial
    apply signals.bind
    intro found
    refine ⟨inside_now, fun now => ?_⟩
    apply (saveSessionContext_inside rfl _).bind
    rintro (error | done) <;> trivial

private theorem recordFailedAttempt_inside (engine : RiskEngine) (userId : String) :
    (engine.recordFailedAttempt userId).Every (Inside [.risk]) := by
  apply (loadSessionContextRaw_inside rfl).bind
  rintro (error | _ | context)
  · trivial
  · trivial
  · exact saveSessionContext_inside rfl _

theorem isIpBlocked_inside (ip : String) : (WafFeedback.isIpBlocked ip).Every (Inside [.waf]) := by
  unfold WafFeedback.isIpBlocked
  split
  · trivial
  · refine ⟨inside_own rfl, ?_⟩
    rintro (error | blocked) <;> trivial

theorem blockIp_inside (ip : String) (ttlSecs : Nat) :
    (WafFeedback.blockIp ip ttlSecs).Every (Inside [.waf]) := by
  unfold WafFeedback.blockIp
  split
  · trivial
  · refine ⟨inside_own rfl, ?_⟩
    rintro (error | done) <;> trivial

theorem recordAuditEvent_inside (event : AuditEvent) :
    (WafFeedback.recordAuditEvent event).Every (Inside [.waf]) := by
  refine ⟨inside_own rfl, ?_⟩
  rintro (error | done) <;> trivial

end Requests

section Queue

theorem enqueue_inside (op : ReconciliationOp) :
    (Reconciliation.enqueue op).Every (Inside [.reconciliation]) := by
  refine (Reconciliation.enqueue_footprint op).imp ?_
  rintro _ (_ | _ | _)
  · exact inside_now
  · exact inside_own rfl
  · exact inside_own rfl

private theorem currentSessionVersion_inside (sessionId : String) :
    (Reconciliation.currentSessionVersion sessionId).Every (Inside [.reconciliation]) := by
  refine ⟨inside_own rfl, ?_⟩
  rintro (error | raw) <;> trivial

private theorem settle_inside (entry : QueueEntry) (result : Except String Unit) :
    (Reconciliation.Worker.settle entry result).Every (Inside [.reconciliation]) := by
  have release (entry : QueueEntry) :
      (Reconciliation.Worker.release entry).Every (Inside [.reconciliation]) :=
    ⟨inside_own rfl, fun _ => trivial⟩
  have forget (entry : QueueEntry) :
      (Reconciliation.Worker.forget entry).Every (Inside [.reconciliation]) :=
    ⟨inside_own rfl, fun _ => release entry⟩
  unfold Reconciliation.Worker.settle
  split
  · exact forget entry
  · dsimp only
    split
    · exact ⟨inside_now, fun _ => ⟨inside_own rfl, fun _ => ⟨inside_now, fun _ =>
        ⟨inside_own rfl, fun _ => forget _⟩⟩⟩⟩
    · exact ⟨inside_now, fun _ => ⟨inside_own rfl, fun _ => release _⟩⟩

variable (worker : Reconciliation.Worker)

private theorem syncSession_inside (sessionId userId : String) (expiresAt : Nat) :
    (worker.syncSession sessionId userId expiresAt).Every (Inside StoreCall.workerStores) := by
  refine ⟨inside_now, fun now => ?_⟩
  change (if _ then _ else _ : Procedure _).Every _
  split
  · trivial
  · apply Program.Every.bind
    · exact (createSession_inside _ _ _ _ _ _ _ _).imp (Inside.wider (by decide))
    · exact fun _ => trivial

private theorem revokeJti_inside (jti : Option String) (tokenExp : Option Nat) :
    (worker.revokeToken jti tokenExp).Every (Inside StoreCall.workerStores) := by
  unfold Reconciliation.Worker.revokeToken
  split
  · refine ⟨inside_now, fun now => ?_⟩
    change (if _ then _ else _ : Procedure _).Every _
    split
    · apply Program.Every.bind
      · exact (revokeToken_inside _ _ _).imp (Inside.wider (by decide))
      · exact fun _ => trivial
    · trivial
  · trivial

private theorem execute_inside (op : ReconciliationOp) :
    (worker.execute op).Every (Inside StoreCall.workerStores) := by
  cases op with
  | tokenRevocation jti ttlSecs =>
    apply Program.Every.bind
    · exact (revokeToken_inside _ _ _).imp (Inside.wider (by decide))
    · exact fun _ => trivial
  | sessionSync sessionId userId expiresAt expectedVersion =>
    cases expectedVersion with
    | none => exact syncSession_inside worker sessionId userId expiresAt
    | some version =>
      apply Program.Every.bind
      · exact (currentSessionVersion_inside sessionId).imp (Inside.wider (by decide))
      · rintro (error | current)
        · trivial
        · dsimp only
          split
          · trivial
          · exact syncSession_inside worker sessionId userId expiresAt
  | sessionRevoke sessionId jti tokenExp targetVersion =>
    apply Program.Every.bind
    · exact (revokeSession_inside _ _ sessionId).imp (Inside.wider (by decide))
    · rintro (error | done)
      · trivial
      · exact revokeJti_inside worker jti tokenExp
  | dbCleanup =>
    have tables : [Store.sessions, .blacklist, .refresh] ⊆ StoreCall.workerStores := by decide
    have cleanup : Inside StoreCall.workerStores (.db .cleanupExpiredAuth) := fun _ member => tables member
    change (if _ then _ else _ : Procedure _).Every _
    split
    · refine ⟨cleanup, ?_⟩
      rintro (error | done) <;> trivial
    · trivial

private theorem processEntry_inside (member : QueueMember) :
    (worker.processEntry member).Every (Inside StoreCall.workerStores) := by
  have own {command : RedisCommand} (own : command.key.owner = .reconciliation) :
      Inside StoreCall.workerStores (.redis command) := Inside.wider (by decide) _ (inside_own own)
  unfold Reconciliation.Worker.processEntry
  split
  · exact ⟨own rfl, fun _ => trivial⟩
  · rename_i entry _
    refine ⟨inside_now, fun millis => ⟨own rfl, ?_⟩⟩
    rintro (error | _ | _)
    · trivial
    · trivial
    · refine ⟨own rfl, ?_⟩
      rintro (error | _ | removed)
      · exact ⟨own rfl, fun _ => trivial⟩
      · exact ⟨own rfl, fun _ => trivial⟩
      · exact (execute_inside worker _).bind fun result =>
          (settle_inside _ result).imp (Inside.wider (by decide))

private theorem processEntries_inside (members : List QueueMember) :
    (worker.processEntries members).Every (Inside StoreCall.workerStores) := by
  induction members with
  | nil => trivial
  | cons member rest ih => exact (processEntry_inside worker member).bind fun _ => ih

private theorem processBatch_inside :
    worker.processBatch.Every (Inside StoreCall.workerStores) := by
  have range (maxScore limit : Nat) : Inside StoreCall.workerStores
      (.redis (.zrangeByScore .reconciliationPending maxScore limit)) := by
    have own : Inside [.reconciliation] (.redis (.zrangeByScore .reconciliationPending maxScore limit)) :=
      inside_own rfl
    exact Inside.wider (by decide) _ own
  refine ⟨inside_now, fun now => ⟨range now _, ?_⟩⟩
  rintro (error | entries)
  · trivial
  · exact (processEntries_inside worker entries).bind fun _ => trivial

end Queue

/-- A call is on its stores and on no others. -/
theorem StoreCall.inside (sha256Hex : String → String) (db : Bool) (call : StoreCall) :
    (call.program sha256Hex db).Every (Inside call.stores) := by
  cases call with
  | createSession => exact createSession_inside sha256Hex db _ _ _ _ _ _
  | validateSession => exact validateSession_inside db _ _
  | revokeSession => exact revokeSession_inside sha256Hex db _
  | countUserSessions => exact countUserSessions_inside sha256Hex _
  | revokeToken => exact revokeToken_inside db _ _
  | isBlacklisted => exact isBlacklisted_inside db _
  | issueRefresh => exact issueRefresh_inside sha256Hex db _ _ _ _
  | validateRefresh => exact validateRefresh_inside sha256Hex db _
  | rotateRefresh => exact rotateRefresh_inside sha256Hex db _ _ _
  | revokeRefresh => exact revokeRefresh_inside sha256Hex db _
  | cachedClaims => exact cachedClaims_inside _
  | cacheClaims => exact cacheClaims_inside _ _ _
  | upsertOtp => exact upsertOtp_inside sha256Hex _ _ _
  | verifyOtp => exact verifyOtp_inside sha256Hex _ _ _
  | registerNonce => exact registerNonce_inside _ _ _
  | checkRate => exact checkScope_inside sha256Hex _ _ _
  | evaluateRisk => exact evaluateRisk_inside _ _
  | recordFailedAttempt => exact recordFailedAttempt_inside _ _
  | isIpBlocked => exact isIpBlocked_inside _
  | blockIp => exact blockIp_inside _ _
  | recordAuditEvent => exact recordAuditEvent_inside _
  | enqueue => exact enqueue_inside _
  | currentSessionVersion => exact currentSessionVersion_inside _
  | settle => exact settle_inside _ _
  | processBatch worker => exact processBatch_inside worker

/-- The calls on the stores as one system. -/
@[reducible] def storeCalls (sha256Hex : String → String) (db : Bool) :
    System Command Command.Reply where
  World := World
  Outcome := Outcome
  Event := Event
  Call := StoreCall
  Result := StoreCall.Result
  exec := Command.exec
  environment := environment
  program := StoreCall.program sha256Hex db

variable {sha256Hex : String → String} {db : Bool}

/-- The part of a store as a part of the system. -/
def storePart (sha256Hex : String → String) (db : Bool) (store : Store) :
    (storeCalls sha256Hex db).Part where
  agree := SamePart store
  own command := ∀ other ∈ command.stores, other = store
  foreign command := store ∉ command.stores
  answered own same outcome := by
    cases outcome with
    | success => exact same.answer own
    | lost detail => exact same.failure _ detail
    | applied detail => exact same.failure _ detail
  advanced own same outcome := by
    cases outcome with
    | success => exact same.effect own
    | lost detail => exact same
    | applied detail => exact same.effect own
  spared foreign same outcome := by
    cases outcome with
    | success => exact same.spare foreign
    | lost detail => exact same
    | applied detail => exact same.spare foreign
  elapsed same event := same.environment event

/-- A client calls one store, and the others call other stores. -/
def OthersElsewhere (store : Store) (client : Nat) (_ : (storeCalls sha256Hex db).Config) :
    (storeCalls sha256Hex db).Action → Prop
  | .start other call => if other = client then call.stores = [store] else store ∉ call.stores
  | .step _ _ | .environment _ => True

theorem OthersElsewhere.apart {store : Store} {client : Nat}
    {config : (storeCalls sha256Hex db).Config} {action : (storeCalls sha256Hex db).Action}
    (elsewhere : OthersElsewhere store client config action) :
    Apart (storePart sha256Hex db store) client config action := by
  cases action with
  | start other call =>
    have inside := call.inside sha256Hex db
    rw [OthersElsewhere] at elsewhere
    rw [Apart]
    split
    · rename_i own
      rw [if_pos own] at elsewhere
      refine inside.imp fun command within_ third member => ?_
      exact List.mem_singleton.mp (elsewhere ▸ within_ third member)
    · rename_i other
      rw [if_neg other] at elsewhere
      exact inside.imp fun command within_ member => elsewhere (within_ store member)
  | step => trivial
  | environment => trivial

/-- The keys of the stores are different strings, but for ids that one builder does not tell
apart. In any interleaving a call on a store then returns what it returns when the calls on
the others are not made. -/
theorem stores_do_not_interfere (sha256Hex : String → String) (db : Bool) :
    (∀ first second : StoreKey, first.Accepted → second.Accepted →
      first.text sha256Hex = second.text sha256Hex →
      first.identity sha256Hex = second.identity sha256Hex) ∧
    Function.Injective RedisKey.render ∧
    ∀ (store : Store) (client : Nat) (world : World)
      (actions : List (storeCalls sha256Hex db).Action) (last : (storeCalls sha256Hex db).Config),
      Run (OthersElsewhere store client) (.initial world) actions last →
      ∃ final, Run (fun _ _ => True) (.initial world) (actions.filter (Action.concerns client)) final ∧
        final.threads client = last.threads client ∧ SamePart store last.world final.world := by
  refine ⟨?_, RedisKey.render_injective, ?_⟩
  · intro first second one two same
    exact StoreKey.identity_of_text one two same
  · intro store client world actions last run
    have apart : Run (Apart (storePart sha256Hex db store) client) (.initial world) actions last :=
      run.mono fun _ _ elsewhere => elsewhere.apart
    obtain ⟨final, alone, matched⟩ :=
      apart.erase (Matches.initial (storePart sha256Hex db store) client (SamePart.refl store world))
    exact ⟨final, alone, matched.thread.symm, matched.agree⟩

instance (store : Store) (client : Nat) (config : (storeCalls sha256Hex db).Config) :
    (action : (storeCalls sha256Hex db).Action) → Decidable (OthersElsewhere store client config action)
  | .start other call => inferInstanceAs
    (Decidable (if other = client then call.stores = [store] else store ∉ call.stores))
  | .step _ _ | .environment _ => isTrue trivial

/-- A nonce is registered while another client records an event and a third one counts the
request. -/
def sampleActions : List (storeCalls Sample.sha256Hex true).Action :=
  [.start 0 (.registerNonce ⟨"eu-1"⟩ "r1" none), .start 1 (.recordAuditEvent ⟨"r1", "user_1",
      "10.0.0.1", "low", "allow", false, 0⟩), .step 1 .success,
    .start 2 (.checkRate ⟨2, 1, Nat.two_pos, Nat.one_pos⟩ .ip "r1"), .step 2 .success, .step 0 .success,
    .step 2 .success]

theorem sample_stores_apart :
    ∃ last final, Run (OthersElsewhere .nonce 0) (.initial (World.empty 0)) sampleActions last ∧
      Run (fun _ _ => True) (.initial (World.empty 0)) (sampleActions.filter (Action.concerns 0)) final ∧
      final.threads 0 = last.threads 0 ∧ SamePart .nonce last.world final.world ∧
      (StoreKey.nonce "eu-1" "r1").identity Sample.sha256Hex =
        (StoreKey.nonce "eu-1" "r1").identity Sample.sha256Hex := by
  have reached : ∃ last, Run (OthersElsewhere .nonce 0) (.initial (World.empty 0)) sampleActions last ∧
      (last.world.lookup (.nonce "eu-1:r1")).isSome = true := by
    apply Run.of_runsTo
    decide +kernel
  obtain ⟨last, run, _⟩ := reached
  obtain ⟨keys, _, runs⟩ := stores_do_not_interfere Sample.sha256Hex true
  obtain ⟨final, alone, same, part⟩ := runs .nonce 0 (World.empty 0) sampleActions last run
  have accepted : (StoreKey.nonce "eu-1" "r1").Accepted := ⟨by rfl, by rfl⟩
  exact ⟨last, final, run, alone, same, part, keys _ _ accepted accepted rfl⟩

end BrainMate.Gateway
