import BrainMate.Gateway.Records
import BrainMate.Interleaving.Outline
import BrainMate.Storage.Table

/-! The world the gateway's clients share: the clock, Redis, and the tables of
`0001_auth_schema.sql`, with the atomic commands the stores issue against them. -/

namespace BrainMate.Gateway

open Interleaving Storage

structure RedisEntry where
  value : RedisValue
  /-- Milliseconds since the epoch; `none` for a key without a TTL. -/
  deadline : Option Nat
  deriving DecidableEq, Repr

def RedisEntry.alive (entry : RedisEntry) (clock : Nat) : Bool :=
  match entry.deadline with
  | none => true
  | some deadline => clock < deadline

structure Database where
  sessions : Table DbSession String DbSession.id
  blacklist : Table DbBlacklisted String DbBlacklisted.jti
  refreshTokens : Table DbRefreshToken String DbRefreshToken.tokenHash

structure World where
  /-- Milliseconds since the epoch. -/
  clock : Nat
  redis : RedisKey → Option RedisEntry
  db : Database

namespace World

def empty (clock : Nat) : World := ⟨clock, fun _ => none, ⟨.empty, .empty, .empty⟩⟩

/-- `now_unix_secs()`. -/
def second (world : World) : Nat := world.clock / 1000

/-- `EXTRACT(EPOCH FROM NOW())::BIGINT`: the cast rounds to the nearest second. -/
def pgEpoch (world : World) : Int := ((world.clock + 500) / 1000 : Nat)

/-- The value Redis sees under a key: an expired entry is no entry. -/
def lookup (world : World) (key : RedisKey) : Option RedisValue :=
  ((world.redis key).filter fun entry => entry.alive world.clock).map RedisEntry.value

def store (world : World) (key : RedisKey) (entry : RedisEntry) : World :=
  { world with redis := Function.update world.redis key (some entry) }

def remove (world : World) (key : RedisKey) : World :=
  { world with redis := Function.update world.redis key none }

end World

/-- Redis rejects a TTL that is not positive or whose deadline overflows. -/
def acceptsTtl (clock ttlSecs : Nat) : Bool :=
  0 < ttlSecs && clock + ttlSecs * 1000 < 2 ^ 63

inductive RedisCommand where
  | get (key : RedisKey)
  | setEx (key : RedisKey) (value : RedisValue) (ttlSecs : Nat)
  | setNxEx (key : RedisKey) (value : RedisValue) (ttlSecs : Nat)
  | existsKey (key : RedisKey)
  | delete (key : RedisKey)
  /-- The script of `revoke_session`: GET, and DEL when there is a value. -/
  | getDel (key : RedisKey)
  /-- The script of `atomic_incr_ex`: INCR, then EXPIRE. -/
  | incrEx (key : RedisKey) (ttlSecs : Nat)
  | decr (key : RedisKey)
  | zadd (key : RedisKey) (score : Nat) (member : QueueMember)
  | zrem (key : RedisKey) (member : QueueMember)
  | zcard (key : RedisKey)
  | zrangeByScore (key : RedisKey) (maxScore limit : Nat)
  | zremrangeByScore (key : RedisKey) (maxScore : Nat)
  /-- The script of `rate_limiter.rs`; `now` is the caller's clock in milliseconds. -/
  | takeToken (key : RedisKey) (burst refillPerSec now : Nat)
  | incr (key : RedisKey)
  | expire (key : RedisKey) (ttlSecs : Nat)
  deriving DecidableEq, Repr

/-- Members of a sorted set by their scores. Redis breaks ties by the text of the members,
on which nothing here depends. -/
def byScore (members : List (QueueMember × Nat)) : List (QueueMember × Nat) :=
  members.mergeSort fun first second => decide (first.2 ≤ second.2)

/-- The bucket the rate-limit script works on, refilled up to `now`, in thousandths of a
token; a value without a bucket in it counts as a full one. -/
def refilled (bucket : Option RedisValue) (burst refillPerSec now : Nat) : Nat :=
  let (milliTokens, lastRefill) := match bucket with
    | some (.bucket milliTokens lastRefill) => (milliTokens, lastRefill)
    | _ => (burst * 1000, now)
  min (burst * 1000) (milliTokens + (now - lastRefill) * refillPerSec)

/-- `math.ceil(burst / refill_per_sec) * 2`. -/
def bucketTtlSecs (burst refillPerSec : Nat) : Nat :=
  (burst + refillPerSec - 1) / refillPerSec * 2

/-- Redis refuses a command for another type of value. -/
def wrongType : RedisLayerError :=
  .command "Operation against a key holding the wrong kind of value"

namespace RedisCommand

@[reducible] def Reply : RedisCommand → Type
  | .get _ | .getDel _ => Option RedisValue
  | .setEx _ _ _ => Unit
  | .setNxEx _ _ _ | .existsKey _ | .expire _ _ => Bool
  | .delete _ | .incrEx _ _ | .zadd _ _ _ | .zrem _ _ | .zcard _ | .zremrangeByScore _ _ => Nat
  | .incr _ | .decr _ => Int
  | .zrangeByScore _ _ _ => List QueueMember
  -- Whether the request is let through, and how many seconds to wait.
  | .takeToken _ _ _ _ => Bool × Nat

/-- The sorted set under a key loses members; the last one takes the key with it. -/
def keepMembers (world : World) (key : RedisKey) (kept : QueueMember × Nat → Bool) : World :=
  match world.lookup key with
  | some (.queue members) =>
    match members.filter kept with
    | [] => world.remove key
    | rest => world.store key ⟨.queue rest, (world.redis key).bind (·.deadline)⟩
  | _ => world

def effect : RedisCommand → World → World
  | .get _, world | .existsKey _, world | .zcard _, world | .zrangeByScore _ _ _, world => world
  | .setEx key value ttlSecs, world =>
    if acceptsTtl world.clock ttlSecs then
      world.store key ⟨value, some (world.clock + ttlSecs * 1000)⟩
    else world
  | .setNxEx key value ttlSecs, world =>
    if acceptsTtl world.clock ttlSecs && (world.lookup key).isNone then
      world.store key ⟨value, some (world.clock + ttlSecs * 1000)⟩
    else world
  | .delete key, world | .getDel key, world => world.remove key
  | .incrEx key ttlSecs, world =>
    match world.lookup key with
    | none | some (.counter _) =>
      let next := match world.lookup key with
        | some (.counter value) => value + 1
        | _ => 1
      if ttlSecs = 0 then world.remove key
      else if acceptsTtl world.clock ttlSecs then
        world.store key ⟨.counter next, some (world.clock + ttlSecs * 1000)⟩
      else world.store key ⟨.counter next, (world.redis key).bind (·.deadline)⟩
    | some _ => world
  | .decr key, world =>
    match world.lookup key with
    | none => world.store key ⟨.counter (-1), none⟩
    | some (.counter value) =>
      world.store key ⟨.counter (value - 1), (world.redis key).bind (·.deadline)⟩
    | some _ => world
  | .zadd key score member, world =>
    match world.lookup key with
    | none => world.store key ⟨.queue [(member, score)], none⟩
    | some (.queue members) =>
      let others := members.filter fun stored => stored.1 ≠ member
      world.store key ⟨.queue ((member, score) :: others), (world.redis key).bind (·.deadline)⟩
    | some _ => world
  | .zrem key member, world => keepMembers world key fun stored => stored.1 ≠ member
  | .zremrangeByScore key maxScore, world => keepMembers world key fun stored => maxScore < stored.2
  | .takeToken key burst refillPerSec now, world =>
    match world.lookup key with
    | some (.queue _) => world
    | bucket =>
      let milliTokens := refilled bucket burst refillPerSec now
      let ttlSecs := bucketTtlSecs burst refillPerSec
      if 1000 ≤ milliTokens && acceptsTtl world.clock ttlSecs then
        world.store key ⟨.bucket (milliTokens - 1000) now, some (world.clock + ttlSecs * 1000)⟩
      else world
  | .incr key, world =>
    match world.lookup key with
    | none => world.store key ⟨.counter 1, none⟩
    | some (.counter value) =>
      world.store key ⟨.counter (value + 1), (world.redis key).bind (·.deadline)⟩
    | some _ => world
  | .expire key ttlSecs, world =>
    match world.lookup key with
    | none => world
    | some value =>
      if ttlSecs = 0 then world.remove key
      else if acceptsTtl world.clock ttlSecs then
        world.store key ⟨value, some (world.clock + ttlSecs * 1000)⟩
      else world

def answer : (command : RedisCommand) → World → Except RedisLayerError command.Reply
  | .get key, world => .ok (world.lookup key)
  | .setEx _ _ ttlSecs, world =>
    if acceptsTtl world.clock ttlSecs then .ok () else .error (.command "invalid expire time")
  | .setNxEx key _ ttlSecs, world =>
    if acceptsTtl world.clock ttlSecs then .ok (world.lookup key).isNone
    else .error (.command "invalid expire time")
  | .existsKey key, world => .ok (world.lookup key).isSome
  | .delete key, world => .ok (if (world.lookup key).isSome then 1 else 0)
  | .getDel key, world => .ok (world.lookup key)
  | .incrEx key ttlSecs, world =>
    match world.lookup key with
    | none =>
      if ttlSecs = 0 ∨ acceptsTtl world.clock ttlSecs then .ok 1
      else .error (.command "invalid expire time")
    | some (.counter value) =>
      if ttlSecs = 0 ∨ acceptsTtl world.clock ttlSecs then .ok (asU64 (value + 1))
      else .error (.command "invalid expire time")
    | some _ => .error (.command "value is not an integer or out of range")
  | .decr key, world =>
    match world.lookup key with
    | none => .ok (-1)
    | some (.counter value) => .ok (value - 1)
    | some _ => .error (.command "value is not an integer or out of range")
  | .zadd key _ member, world =>
    match world.lookup key with
    | none => .ok 1
    | some (.queue members) => .ok (if (members.map Prod.fst).contains member then 0 else 1)
    | some _ => .error wrongType
  | .zrem key member, world =>
    match world.lookup key with
    | none => .ok 0
    | some (.queue members) => .ok (if (members.map Prod.fst).contains member then 1 else 0)
    | some _ => .error wrongType
  | .zcard key, world =>
    match world.lookup key with
    | none => .ok 0
    | some (.queue members) => .ok members.length
    | some _ => .error wrongType
  | .zrangeByScore key maxScore limit, world =>
    match world.lookup key with
    | none => .ok []
    | some (.queue members) =>
      .ok (((byScore members).filter fun stored => stored.2 ≤ maxScore).take limit |>.map Prod.fst)
    | some _ => .error wrongType
  | .zremrangeByScore key maxScore, world =>
    match world.lookup key with
    | none => .ok 0
    | some (.queue members) => .ok (members.countP fun stored => stored.2 ≤ maxScore)
    | some _ => .error wrongType
  | .takeToken key burst refillPerSec now, world =>
    match world.lookup key with
    | some (.queue _) => .error wrongType
    | bucket =>
      let milliTokens := refilled bucket burst refillPerSec now
      if 1000 ≤ milliTokens then
        if acceptsTtl world.clock (bucketTtlSecs burst refillPerSec) then .ok (true, 0)
        else .error (.command "invalid expire time")
      else
        .ok (false, (1000 - milliTokens + (1000 * refillPerSec - 1)) / (1000 * refillPerSec))
  | .incr key, world =>
    match world.lookup key with
    | none => .ok 1
    | some (.counter value) => .ok (value + 1)
    | some _ => .error (.command "value is not an integer or out of range")
  | .expire key ttlSecs, world =>
    if ttlSecs = 0 ∨ acceptsTtl world.clock ttlSecs then .ok (world.lookup key).isSome
    else .error (.command "invalid expire time")

end RedisCommand

inductive DbCommand where
  /-- Opens a transaction and fixes its `NOW()`. -/
  | begin
  | rollback
  | countActiveSessionsForUser (userId : String) (txNow : Int)
  /-- The guarded INSERT together with its COMMIT; no other statement sees the row
  before. -/
  | insertSession (record : DbSession)
  | getSession (sessionId : String)
  | revokeSession (sessionId : String)
  | addToBlacklist (jti : String) (expiresAt : Int)
  | checkBlacklist (jti : String) (nowSecs : Int)
  | insertRefreshToken (record : DbRefreshToken)
  /-- The conditional UPDATE, the INSERT and the COMMIT, as one transaction. -/
  | rotateRefreshTokenTx (oldHash newHash userId deviceId : String) (expiresAt nowSecs : Int)
  | getRefreshToken (tokenHash : String)
  | revokeRefreshToken (tokenHash : String)
  | revokeAllRefreshTokensForDevice (userId : String)
  | cleanupExpiredAuth
  deriving DecidableEq, Repr

namespace DbCommand

@[reducible] def Reply : DbCommand → Type
  | .begin | .countActiveSessionsForUser _ _ => Int
  | .rollback | .revokeSession _ | .addToBlacklist _ _ | .insertRefreshToken _ |
    .revokeRefreshToken _ | .cleanupExpiredAuth => Unit
  | .insertSession _ => Bool
  | .getSession _ => Option DbSession
  | .checkBlacklist _ _ => BlacklistEntry
  | .rotateRefreshTokenTx _ _ _ _ _ _ | .getRefreshToken _ => Option DbRefreshToken
  | .revokeAllRefreshTokensForDevice _ => Nat

/-- `UPDATE auth_sessions SET revoked = TRUE WHERE id = $1 AND revoked = FALSE`. -/
def revokeSessionRow (sessions : Table DbSession String DbSession.id) (sessionId : String) :
    Table DbSession String DbSession.id :=
  sessions.updateWhere (fun row => row.id == sessionId && !row.revoked)
    (fun row => { row with revoked := true }) (fun _ => rfl)

/-- `UPDATE auth_refresh_tokens SET revoked = TRUE WHERE ... AND revoked = FALSE`. -/
def revokeTokensWhere (tokens : Table DbRefreshToken String DbRefreshToken.tokenHash)
    (condition : DbRefreshToken → Bool) : Table DbRefreshToken String DbRefreshToken.tokenHash :=
  tokens.updateWhere (fun row => condition row && !row.revoked)
    (fun row => { row with revoked := true }) (fun _ => rfl)

/-- The row a rotation may consume. -/
def rotatable (oldHash : String) (nowSecs : Int) (row : DbRefreshToken) : Bool :=
  row.tokenHash == oldHash && !row.revoked && decide (nowSecs < row.expiresAt)

/-- The UPDATE of a rotation affects a row. -/
def rotationGate (db : Database) (oldHash : String) (nowSecs : Int) : Bool :=
  (db.refreshTokens.find? oldHash).any (rotatable oldHash nowSecs)

def rotateTokens (tokens : Table DbRefreshToken String DbRefreshToken.tokenHash)
    (oldHash newHash userId deviceId : String) (expiresAt nowSecs : Int) :
    Table DbRefreshToken String DbRefreshToken.tokenHash :=
  (tokens.updateWhere (rotatable oldHash nowSecs)
    (fun row => { row with revoked := true, rotatedTo := some newHash }) (fun _ => rfl)).insertNew
      ⟨newHash, userId, deviceId, expiresAt, false, none⟩

def effect : DbCommand → World → Database
  | .begin, world | .rollback, world | .countActiveSessionsForUser _ _, world |
    .getSession _, world | .checkBlacklist _ _, world | .getRefreshToken _, world => world.db
  | .insertSession record, world =>
    { world.db with sessions := world.db.sessions.insertNew { record with revoked := false } }
  | .revokeSession sessionId, world =>
    { world.db with sessions := revokeSessionRow world.db.sessions sessionId }
  | .addToBlacklist jti expiresAt, world =>
    { world.db with blacklist := world.db.blacklist.insertNew ⟨jti, expiresAt⟩ }
  | .insertRefreshToken record, world =>
    let inserted := { record with revoked := false, rotatedTo := none }
    { world.db with refreshTokens := world.db.refreshTokens.insertNew inserted }
  | .rotateRefreshTokenTx oldHash newHash userId deviceId expiresAt nowSecs, world =>
    if rotationGate world.db oldHash nowSecs then
      { world.db with refreshTokens :=
          rotateTokens world.db.refreshTokens oldHash newHash userId deviceId expiresAt nowSecs }
    else world.db
  | .revokeRefreshToken tokenHash, world =>
    { world.db with refreshTokens :=
        revokeTokensWhere world.db.refreshTokens (fun row => row.tokenHash == tokenHash) }
  | .revokeAllRefreshTokensForDevice userId, world =>
    { world.db with refreshTokens :=
        revokeTokensWhere world.db.refreshTokens (fun row => row.userId == userId) }
  | .cleanupExpiredAuth, world =>
    { sessions := world.db.sessions.deleteWhere
        fun row => decide (row.expiresAt < world.pgEpoch) && row.revoked
      blacklist := world.db.blacklist.deleteWhere fun row => decide (row.expiresAt < world.pgEpoch)
      refreshTokens := world.db.refreshTokens.deleteWhere
        fun row => decide (row.expiresAt < world.pgEpoch) }

def answer : (command : DbCommand) → World → command.Reply
  | .begin, world => world.pgEpoch
  | .rollback, _ => ()
  | .countActiveSessionsForUser userId txNow, world =>
    (world.db.sessions.countWhere fun row =>
      row.userId == userId && !row.revoked && decide (txNow < row.expiresAt) : Nat)
  | .insertSession record, world => (world.db.sessions.find? record.id).isNone
  | .getSession sessionId, world => world.db.sessions.find? sessionId
  | .revokeSession _, _ => ()
  | .addToBlacklist _ _, _ => ()
  | .checkBlacklist jti nowSecs, world =>
    match (world.db.blacklist.find? jti).filter fun row => decide (nowSecs < row.expiresAt) with
    | some row => ⟨true, some row.expiresAt⟩
    | none => ⟨false, none⟩
  | .insertRefreshToken _, _ => ()
  | .rotateRefreshTokenTx oldHash newHash userId deviceId expiresAt nowSecs, world =>
    if rotationGate world.db oldHash nowSecs then
      some ⟨newHash, userId, deviceId, expiresAt, false, none⟩
    else none
  | .getRefreshToken tokenHash, world => world.db.refreshTokens.find? tokenHash
  | .revokeRefreshToken _, _ => ()
  | .revokeAllRefreshTokensForDevice userId, world =>
    world.db.refreshTokens.countWhere fun row => row.userId == userId && !row.revoked
  | .cleanupExpiredAuth, _ => ()

end DbCommand

inductive Command where
  /-- `SystemTime::now()`, in milliseconds. -/
  | now
  | redis (command : RedisCommand)
  | db (command : DbCommand)
  /-- One leg of an HTTP exchange between the two services. -/
  | http
  deriving DecidableEq, Repr

/-- A command succeeds, or fails without or with its effect on the store. -/
inductive Outcome where
  | success
  | lost (detail : String)
  | applied (detail : String)
  deriving DecidableEq, Repr

namespace Command

@[reducible] def Reply : Command → Type
  | .now => Nat
  | .redis command => Except RedisLayerError command.Reply
  | .db command => Except DbError command.Reply
  | .http => Except String Unit

def effect : Command → World → World
  | .now, world | .http, world => world
  | .redis command, world => command.effect world
  | .db command, world => { world with db := command.effect world }

def answer : (command : Command) → World → command.Reply
  | .now, world => world.clock
  | .redis command, world => command.answer world
  | .db command, world => .ok (command.answer world)
  | .http, _ => .ok ()

/-- Reading the clock does not fail. -/
def failure : (command : Command) → String → World → command.Reply
  | .now, _, world => world.clock
  | .redis _, detail, _ => .error (.command detail)
  | .db _, detail, _ => .error (.other detail)
  | .http, detail, _ => .error detail

def exec (outcome : Outcome) (command : Command) (world : World) : command.Reply × World :=
  match outcome with
  | .success => (command.answer world, command.effect world)
  | .lost detail => (command.failure detail world, world)
  | .applied detail => (command.failure detail world, command.effect world)

/-- Whatever the outcome, the command had its whole effect or none. -/
theorem exec_world (outcome : Outcome) (command : Command) (world : World) :
    (exec outcome command world).2 = world ∨
      (exec outcome command world).2 = command.effect world := by
  cases outcome
  · exact .inr rfl
  · exact .inl rfl
  · exact .inr rfl

end Command

inductive Event where
  | tick (milliseconds : Nat)
  | evict (key : RedisKey)
  deriving DecidableEq, Repr

def environment : Event → World → World
  | .tick milliseconds, world => { world with clock := world.clock + milliseconds }
  | .evict key, world => world.remove key

/-- An `async fn` of the gateway. -/
abbrev Procedure := Program Command Command.Reply

def nowMs : Procedure Nat := Program.request Command.now

def nowUnixSecs : Procedure Nat := do return (← nowMs) / 1000

def redis (command : RedisCommand) : Procedure (Except RedisLayerError command.Reply) :=
  Program.request (Command.redis command)

def database (command : DbCommand) : Procedure (Except DbError command.Reply) :=
  Program.request (Command.db command)

/-- One leg of an HTTP exchange. -/
def http : Procedure (Except String Unit) := Program.request Command.http

@[simp] theorem http_eq : http = .call .http .done := rfl

@[simp] theorem nowMs_eq : nowMs = .call .now .done := rfl

@[simp] theorem nowUnixSecs_eq : nowUnixSecs = .call .now fun millis => .done (millis / 1000) := rfl

@[simp] theorem redis_eq (command : RedisCommand) : redis command = .call (.redis command) .done := rfl

@[simp] theorem database_eq (command : DbCommand) : database command = .call (.db command) .done := rfl

end BrainMate.Gateway
