import BrainMate.Interleaving.System
import BrainMate.Storage.Table
import BrainMate.WriteRight.Records

/-! The world the enqueuing routes, the workers and the readers of WriteRight jobs share:
the clock, the Redis keys under `writeright:` and the three tables, with the atomic
commands that are issued against them. redis-py runs a pipeline as one transaction, so
`_set_job_status` is one command; ioredis sends the commands of a pipeline one by one. -/

namespace BrainMate.WriteRight

open Interleaving Storage

/-- A value with the time at which Redis drops it, in milliseconds. -/
structure Stored (α : Type) where
  value : α
  deadline : Option Nat
  deriving DecidableEq, Repr

def Stored.alive {α : Type} (stored : Stored α) (clock : Nat) : Bool :=
  match stored.deadline with
  | none => true
  | some deadline => clock < deadline

structure World where
  /-- Milliseconds since the epoch. -/
  clock : Nat
  /-- `writeright:jobs`. -/
  jobs : List (Member × Nat)
  /-- `writeright:jobs:dead`. -/
  dead : List (DeadEntry × Nat)
  /-- `writeright:job:{id}`. -/
  hashes : String → Option (Stored StatusHash)
  /-- `writeright:result:{id}`, oldest entry first. -/
  streams : String → Option (Stored (List ResultData))
  /-- `writeright:lock:{id}`. -/
  locks : String → Option (Stored String)
  /-- `writeright:cache:{sha256}`, under the text that is hashed. -/
  cache : String → Option (Stored AIResult)
  jobRows : Table JobRow String JobRow.id
  messages : List MessageRow
  usage : List UsageRow
  /-- What `get_writing_profile` reads about a user. -/
  profiles : String → List String

namespace World

def empty (clock : Nat) : World where
  clock := clock
  jobs := []
  dead := []
  hashes _ := none
  streams _ := none
  locks _ := none
  cache _ := none
  jobRows := .empty
  messages := []
  usage := []
  profiles _ := []

variable (world : World)

/-- The hash Redis sees: an expired one is none. -/
def hash? (jobId : String) : Option StatusHash :=
  ((world.hashes jobId).filter fun stored => stored.alive world.clock).map Stored.value

def stream? (jobId : String) : Option (List ResultData) :=
  ((world.streams jobId).filter fun stored => stored.alive world.clock).map Stored.value

def lock? (jobId : String) : Option String :=
  ((world.locks jobId).filter fun stored => stored.alive world.clock).map Stored.value

/-- The status field of the hash. -/
def status? (jobId : String) : Option Status := (world.hash? jobId).bind StatusHash.status

def deadlineIn (ttlSecs : Nat) : Option Nat := some (world.clock + ttlSecs * 1000)

/-- HSET; a hash that was there keeps its deadline. -/
def hset (jobId : String) (fields : StatusHash) : World :=
  let stored := match world.hash? jobId with
    | some hash => ⟨hash.hset fields, (world.hashes jobId).bind Stored.deadline⟩
    | none => ⟨fields, none⟩
  { world with hashes := Function.update world.hashes jobId (some stored) }

/-- EXPIRE on a hash. -/
def expireHash (jobId : String) (ttlSecs : Nat) : World :=
  match world.hash? jobId with
  | some hash =>
    { world with hashes := Function.update world.hashes jobId (some ⟨hash, world.deadlineIn ttlSecs⟩) }
  | none => world

/-- ZADD: a member is in the set once, with its newest score. -/
def zadd (member : Member) (score : Nat) : World :=
  { world with
    jobs := (member, score) :: world.jobs.filter fun stored => stored.1 ≠ member }

/-- ZRANGEBYSCORE `-inf` to `now`, one member. Redis breaks ties by the text of the
members, on which nothing here depends. -/
def due? (now : Nat) : Option Member :=
  ((world.jobs.mergeSort fun first second => decide (first.2 ≤ second.2)).find? fun stored =>
    decide (stored.2 ≤ now)).map Prod.fst

/-- ZREM. -/
def zrem (member : Member) : World :=
  { world with jobs := world.jobs.filter fun stored => stored.1 ≠ member }

/-- XADD; a stream that was there keeps its deadline. -/
def xadd (jobId : String) (data : ResultData) : World :=
  let stored := match world.stream? jobId with
    | some entries => ⟨entries ++ [data], (world.streams jobId).bind Stored.deadline⟩
    | none => ⟨[data], none⟩
  { world with streams := Function.update world.streams jobId (some stored) }

/-- EXPIRE on a stream. -/
def expireStream (jobId : String) (ttlSecs : Nat) : World :=
  match world.stream? jobId with
  | some entries =>
    { world with
      streams := Function.update world.streams jobId (some ⟨entries, world.deadlineIn ttlSecs⟩) }
  | none => world

end World

inductive RedisCommand where
  /-- `ZPOPMIN_IF_DUE_SCRIPT`. -/
  | popDue (now : Nat)
  | zadd (member : Member) (score : Nat)
  | zaddDead (entry : DeadEntry) (score : Nat)
  | expireDead (ttlSecs : Nat)
  /-- MULTI, HSET, EXPIRE, EXEC. -/
  | setStatus (jobId : String) (fields : StatusHash) (ttlSecs : Nat)
  | hset (jobId : String) (fields : StatusHash)
  | expireHash (jobId : String) (ttlSecs : Nat)
  | hgetall (jobId : String)
  | xadd (jobId : String) (data : ResultData)
  | expireStream (jobId : String) (ttlSecs : Nat)
  /-- XRANGE `-` `+` COUNT 1. -/
  | xrange (jobId : String)
  /-- SET NX EX. -/
  | setLock (jobId value : String) (ttlSecs : Nat)
  | getLock (jobId : String)
  | deleteLock (jobId : String)
  /-- `_EXTEND_LOCK_SCRIPT`. -/
  | extendLock (jobId value : String) (ttlSecs : Nat)
  | setCache (material : String) (result : AIResult) (ttlSecs : Nat)
  | deleteStats (userId : String)
  | publish (jobId stage : String)
  deriving DecidableEq, Repr

inductive SupabaseCommand where
  | updateJobStatus (jobId : String) (status : Status) (output : Option AIResult)
      (error : Option String)
  | getChatHistory (chatId : String) (limit : Nat)
  | getWritingProfile (userId : String)
  | insertMessage (row : MessageRow)
  | insertUsage (row : UsageRow)
  | updateStreakAndAchievements (userId : String)
  | selectJob (jobId userId : String)
  /-- `update({ status: "failed", error }).in("status", ["pending", "processing"])`. -/
  | failActiveJob (jobId error : String)
  deriving DecidableEq, Repr

/-- What the language model is asked for. -/
inductive ModelCommand where
  | generateDraft (job : WritingJob) (history : List (Role × MessageContent))
      (profile : List String)
  | critique (draft : AIResult) (job : WritingJob)
  deriving DecidableEq, Repr

inductive Command where
  /-- `time.time()` and `Date.now()`, in milliseconds. -/
  | time
  /-- `isCircuitOpen()` of the Next.js process. -/
  | isCircuitOpen
  /-- `await semaphore.acquire()`. -/
  | acquireSlot
  /-- `wait_for` has `_dispatch_job` started. -/
  | dispatch (job : WritingJob)
  /-- `wait_for` hands over what `_dispatch_job` returned. -/
  | dispatched (job : WritingJob) (result : AIResult)
  | redis (command : RedisCommand)
  | supabase (command : SupabaseCommand)
  | model (command : ModelCommand)
  deriving DecidableEq, Repr

/-- How an awaited call ends other than with its value. -/
inductive Failure where
  /-- An exception, with its text. -/
  | raised (error : String)
  /-- `wait_for` has cancelled the call because its time is up. -/
  | timedOut
  /-- `asyncio.CancelledError`, which `except Exception` lets through. -/
  | cancelled
  deriving DecidableEq, Repr

@[reducible] def RedisCommand.Reply : RedisCommand → Type
  | .popDue _ => Option Member
  | .hgetall _ => Option StatusHash
  | .xrange _ => Option ResultData
  | .setLock _ _ _ | .extendLock _ _ _ => Bool
  | .getLock _ => Option String
  | .zadd _ _ | .zaddDead _ _ | .expireDead _ | .setStatus _ _ _ | .hset _ _ | .expireHash _ _
  | .xadd _ _ | .expireStream _ _ | .deleteLock _ | .setCache _ _ _ | .deleteStats _
  | .publish _ _ => Unit

@[reducible] def SupabaseCommand.Reply : SupabaseCommand → Type
  | .getChatHistory _ _ => List (Role × MessageContent)
  | .getWritingProfile _ => List String
  | .selectJob _ _ => Option JobRow
  | .updateJobStatus _ _ _ _ | .insertMessage _ | .insertUsage _
  | .updateStreakAndAchievements _ | .failActiveJob _ _ => Unit

@[reducible] def ModelCommand.Reply : ModelCommand → Type
  | .generateDraft _ _ _ => AIResult × Bool
  | .critique _ _ => AIResult

@[reducible] def Command.Reply : Command → Type
  | .time => Nat
  | .isCircuitOpen => Bool
  | .acquireSlot | .dispatch _ | .dispatched _ _ => Except Failure Unit
  | .redis command => Except Failure command.Reply
  | .supabase command => Except Failure command.Reply
  | .model command => Except Failure command.Reply

/-- How the world deals with a command. -/
inductive Outcome where
  | ok
  /-- The model answers; the second component is `injection_detected`. -/
  | drafted (result : AIResult) (injectionDetected : Bool)
  /-- The caller sees a failure; the command was carried out, or it was not. -/
  | failed (performed : Bool) (failure : Failure)
  deriving DecidableEq, Repr

def RedisCommand.effect : RedisCommand → World → World
  | .popDue now, world =>
    match world.due? now with
    | some member => world.zrem member
    | none => world
  | .zadd member score, world => world.zadd member score
  | .zaddDead entry score, world => { world with dead := (entry, score) :: world.dead }
  | .setStatus jobId fields ttlSecs, world => (world.hset jobId fields).expireHash jobId ttlSecs
  | .hset jobId fields, world => world.hset jobId fields
  | .expireHash jobId ttlSecs, world => world.expireHash jobId ttlSecs
  | .xadd jobId data, world => world.xadd jobId data
  | .expireStream jobId ttlSecs, world => world.expireStream jobId ttlSecs
  | .setLock jobId value ttlSecs, world =>
    if ttlSecs ≠ 0 ∧ world.lock? jobId = none then
      { world with
        locks := Function.update world.locks jobId (some ⟨value, world.deadlineIn ttlSecs⟩) }
    else world
  | .deleteLock jobId, world => { world with locks := Function.update world.locks jobId none }
  | .extendLock jobId value ttlSecs, world =>
    if world.lock? jobId = some value then
      { world with
        locks := Function.update world.locks jobId (some ⟨value, world.deadlineIn ttlSecs⟩) }
    else world
  | .setCache material result ttlSecs, world =>
    { world with
      cache := Function.update world.cache material (some ⟨result, world.deadlineIn ttlSecs⟩) }
  | .hgetall _, world | .xrange _, world | .getLock _, world | .expireDead _, world
  | .deleteStats _, world | .publish _ _, world => world

def RedisCommand.answer : (command : RedisCommand) → World → Except Failure command.Reply
  | .popDue now, world => .ok (world.due? now)
  | .hgetall jobId, world => .ok (world.hash? jobId)
  | .xrange jobId, world => .ok ((world.stream? jobId).bind List.head?)
  | .setLock jobId _ ttlSecs, world =>
    if ttlSecs = 0 then .error (.raised "invalid expire time in 'set' command")
    else .ok (world.lock? jobId).isNone
  | .getLock jobId, world => .ok (world.lock? jobId)
  | .extendLock jobId value _, world => .ok (decide (world.lock? jobId = some value))
  | .zadd _ _, _ | .zaddDead _ _, _ | .expireDead _, _ | .setStatus _ _ _, _ | .hset _ _, _
  | .expireHash _ _, _ | .xadd _ _, _ | .expireStream _ _, _ | .deleteLock _, _
  | .setCache _ _ _, _ | .deleteStats _, _ | .publish _ _, _ => .ok ()

/-- The columns `_update_job_status_sync` assigns. -/
def JobRow.assign (row : JobRow) (status : Status) (output : Option AIResult)
    (error : Option String) : JobRow :=
  { row with
    status := status
    output := match output with
      | some result => .result result
      | none => row.output
    error := error <|> row.error }

def SupabaseCommand.effect : SupabaseCommand → World → World
  | .updateJobStatus jobId status output error, world =>
    { world with
      jobRows := world.jobRows.updateWhere (fun row => decide (row.id = jobId))
        (fun row => row.assign status output error) fun _ => rfl }
  | .insertMessage row, world => { world with messages := world.messages ++ [row] }
  | .insertUsage row, world => { world with usage := world.usage ++ [row] }
  | .failActiveJob jobId error, world =>
    { world with
      jobRows := world.jobRows.updateWhere
        (fun row => decide (row.id = jobId ∧ (row.status = .pending ∨ row.status = .processing)))
        (fun row => row.assign .failed none (some error)) fun _ => rfl }
  | .getChatHistory _ _, world | .getWritingProfile _, world
  | .updateStreakAndAchievements _, world | .selectJob _ _, world => world

def SupabaseCommand.answer : (command : SupabaseCommand) → World → command.Reply
  | .getChatHistory chatId limit, world =>
    ((world.messages.filter fun row => row.chatId = chatId).take limit).map fun row =>
      (row.role, row.content)
  | .getWritingProfile userId, world => world.profiles userId
  | .selectJob jobId userId, world =>
    (world.jobRows.find? jobId).filter fun row => row.userId = userId
  | .updateJobStatus _ _ _ _, _ | .insertMessage _, _ | .insertUsage _, _
  | .updateStreakAndAchievements _, _ | .failActiveJob _ _, _ => ()

def ModelCommand.answer : (command : ModelCommand) → Outcome → Except Failure command.Reply
  | .generateDraft _ _ _, .drafted result injectionDetected => .ok (result, injectionDetected)
  | .critique _ _, .drafted result _ => .ok result
  | _, .failed _ failure => .error failure
  | _, .ok => .error (.raised "the model gave no answer")

namespace Command

/-- What the command does to the world when it is carried out. -/
def effect : Command → World → World
  | .redis command, world => command.effect world
  | .supabase command, world => command.effect world
  | .time, world | .isCircuitOpen, world | .acquireSlot, world | .dispatch _, world
  | .dispatched _ _, world | .model _, world => world

/-- What the caller of a command that succeeds is told. -/
def answer : (outcome : Outcome) → (command : Command) → World → command.Reply
  | _, .time, world => world.clock
  | .failed _ _, .isCircuitOpen, _ => true
  | _, .isCircuitOpen, _ => false
  | .failed _ failure, .acquireSlot, _ | .failed _ failure, .dispatch _, _
  | .failed _ failure, .dispatched _ _, _ | .failed _ failure, .redis _, _
  | .failed _ failure, .supabase _, _ => .error failure
  | _, .acquireSlot, _ | _, .dispatch _, _ | _, .dispatched _ _, _ => .ok ()
  | _, .redis command, world => command.answer world
  | _, .supabase command, world => .ok (command.answer world)
  | outcome, .model command, _ => command.answer outcome

def performed : Outcome → Bool
  | .failed performed _ => performed
  | .ok | .drafted _ _ => true

def exec (outcome : Outcome) (command : Command) (world : World) : command.Reply × World :=
  (answer outcome command world, if performed outcome then command.effect world else world)

end Command

/-- Redis commands leave the tables alone. -/
theorem tables_redis (command : RedisCommand) (world : World) :
    ((Command.redis command).effect world).jobRows = world.jobRows ∧
      ((Command.redis command).effect world).messages = world.messages ∧
      ((Command.redis command).effect world).usage = world.usage := by
  cases command with
  | popDue | setLock | extendLock =>
    simp only [Command.effect, RedisCommand.effect]
    split <;> exact ⟨rfl, rfl, rfl⟩
  | setStatus | expireHash =>
    simp only [Command.effect, RedisCommand.effect, World.expireHash]
    split <;> exact ⟨rfl, rfl, rfl⟩
  | expireStream =>
    simp only [Command.effect, RedisCommand.effect, World.expireStream]
    split <;> exact ⟨rfl, rfl, rfl⟩
  | _ => exact ⟨rfl, rfl, rfl⟩

end BrainMate.WriteRight
