import BrainMate.WriteRight.CacheKey

/-! The world of POST /api/writeright/message: the job queue with the tables it shares with
the workers, and what only the routes of the application read and write. -/

namespace BrainMate.WriteRight

open Interleaving Text

inductive Tier where
  | free
  | pro
  | team
  deriving DecidableEq, Repr

structure Limits where
  requests : Nat
  tokens : Nat
  deriving DecidableEq, Repr

/-- `TIER_LIMITS`. -/
def tierLimits : Tier → Limits
  | .free => ⟨50, 200000⟩
  | .pro => ⟨500, 2000000⟩
  | .team => ⟨2000, 10000000⟩

/-- `TIER_RATE_LIMITS`; the fallback is for tiers that the column does not admit. -/
def tierRateLimits : Tier → Nat
  | .free => 5
  | .pro => 30
  | .team => 120

/-- A row of `writeright_quota`, without its key. -/
structure QuotaRow where
  requests : Nat
  tokens : Nat
  deriving DecidableEq, Repr

structure ChatRow where
  userId : String
  deleted : Bool
  deriving DecidableEq, Repr

/-- The body of an answer that accepts a message. -/
structure MessageResponse where
  jobId : String
  messageId : String
  status : Status
  result : Option AIResult := none
  deriving DecidableEq, Repr

/-- The metadata of the two kinds of messages that the route inserts. -/
inductive SentMetadata where
  | user (input : MessageInput)
  /-- `cached: true, job_id: "cached"`. -/
  | cached (input : MessageInput) (inputHash : String)
  deriving DecidableEq, Repr

/-- The id and the metadata of a message of the route, and its place in the table. -/
structure SentMessage where
  id : String
  position : Nat
  metadata : SentMetadata
  deriving DecidableEq, Repr

structure Service where
  /-- The clock, the queue, and the tables the workers share. -/
  queue : World
  chats : String → Option ChatRow
  sent : List SentMessage
  /-- `writeright_user_settings.tier`. -/
  tiers : String → Option Tier
  /-- `writeright_quota`, by user and period. -/
  quota : String → String → Option QuotaRow
  /-- `writeright:idempotency:{userId}:{key}`. -/
  idempotency : List UInt16 → Option (Stored MessageResponse)
  /-- `writeright:ratelimit:{userId}`. -/
  ratelimit : String → Option (Stored Nat)
  /-- What the gateway knows of a user's mail. -/
  gmail : String → GmailState

namespace Service

variable (service : Service)

def idempotent? (key : List UInt16) : Option MessageResponse :=
  ((service.idempotency key).filter fun stored => stored.alive service.queue.clock).map Stored.value

/-- The counter INCR finds; an expired one is none. -/
def rate? (userId : String) : Option (Stored Nat) :=
  (service.ratelimit userId).filter fun stored => stored.alive service.queue.clock

def cached? (material : String) : Option AIResult :=
  ((service.queue.cache material).filter fun stored =>
    stored.alive service.queue.clock).map Stored.value

/-- The requests counted for a user in a period. -/
def requests (userId period : String) : Nat := ((service.quota userId period).map QuotaRow.requests).getD 0

/-- INCR; a counter that was there keeps its deadline. -/
def incr (userId : String) : Service :=
  let stored := match service.rate? userId with
    | some counter => { counter with value := counter.value + 1 }
    | none => ⟨1, none⟩
  { service with ratelimit := Function.update service.ratelimit userId (some stored) }

/-- EXPIRE on the counter. -/
def expireRate (userId : String) (ttlSecs : Nat) : Service :=
  match service.rate? userId with
  | some counter =>
    { service with
      ratelimit := Function.update service.ratelimit userId
        (some { counter with deadline := service.queue.deadlineIn ttlSecs }) }
  | none => service

/-- `writeright_quota` with another row for a user and a period. -/
def setQuota (userId period : String) (row : QuotaRow) : Service :=
  { service with
    quota := Function.update service.quota userId
      (Function.update (service.quota userId) period (some row)) }

/-- `increment_wr_quota`. -/
def incrementWrQuota (userId period : String) (reqs tokens : Nat) : Service :=
  service.setQuota userId period (match service.quota userId period with
    | some row => ⟨row.requests + reqs, row.tokens + tokens⟩
    | none => ⟨reqs, tokens⟩)

/-- A message of the route is put at the end of the table. -/
def send (id : String) (row : MessageRow) (metadata : SentMetadata) : Service :=
  { service with
    queue := { service.queue with messages := service.queue.messages ++ [row] }
    sent := service.sent ++ [⟨id, service.queue.messages.length, metadata⟩] }

/-- The messages of a chat, newest first, without one of them. -/
def history (chatId currentMessageId : String) (limit : Nat) : List (Role × MessageContent) :=
  let current := (service.sent.find? fun message => message.id = currentMessageId).map
    SentMessage.position
  let rows := service.queue.messages.zipIdx.filter fun (row, position) =>
    decide (row.chatId = chatId ∧ some position ≠ current)
  (rows.reverse.take limit).map fun (row, _) => (row.role, row.content)

end Service

inductive MessageRedis where
  | getIdempotent (key : List UInt16)
  | setexIdempotent (key : List UInt16) (ttlSecs : Nat) (response : MessageResponse)
  | incrRate (userId : String)
  | expireRate (userId : String) (ttlSecs : Nat)
  /-- ZCARD of `writeright:jobs`. -/
  | queueDepth
  | getCache (material : String)
  deriving DecidableEq, Repr

inductive MessageSupabase where
  | selectTier (userId : String)
  | selectQuota (userId period : String)
  /-- `increment_wr_daily_usage`. -/
  | incrementDailyUsage (userId : String) (chars reqs : Nat)
  | incrementQuota (userId period : String) (reqs tokens : Nat)
  | upsertQuota (userId period : String) (row : QuotaRow)
  | selectChat (chatId userId : String)
  | insertUserMessage (userId : String) (input : MessageInput) (content : String)
  | insertCachedMessage (userId : String) (input : MessageInput) (inputHash : String)
      (result : AIResult)
  | selectHistory (chatId currentMessageId : String) (limit : Nat)
  | insertJob (userId messageId : String) (input : MessageInput) (inputHash : String)
  | failJob (jobId error : String)
  deriving DecidableEq, Repr

inductive MessageGateway where
  /-- `getGmailConnection`. -/
  | getConnection (userId : String)
  /-- `fetchRecentEmails`. -/
  | recentEmails (userId : String) (maxResults : Nat)
  deriving DecidableEq, Repr

inductive MessageCommand where
  | queue (command : Command)
  | redis (command : MessageRedis)
  | supabase (command : MessageSupabase)
  | gateway (command : MessageGateway)
  /-- Whether the timer of `withTimeout` was up before the procedure was done. -/
  | timer
  deriving DecidableEq, Repr

@[reducible] def MessageRedis.Reply : MessageRedis → Type
  | .getIdempotent _ => Option MessageResponse
  | .incrRate _ | .queueDepth => Nat
  | .getCache _ => Option AIResult
  | .setexIdempotent _ _ _ | .expireRate _ _ => Unit

@[reducible] def MessageSupabase.Reply : MessageSupabase → Type
  | .selectTier _ => Option Tier
  | .selectQuota _ _ => Option QuotaRow
  | .selectChat _ _ => Option ChatRow
  | .selectHistory _ _ _ => List (Role × MessageContent)
  -- The id of the new row.
  | .insertUserMessage _ _ _ | .insertJob _ _ _ _ => String
  | .incrementDailyUsage _ _ _ | .incrementQuota _ _ _ _ | .upsertQuota _ _ _
  | .insertCachedMessage _ _ _ _ | .failJob _ _ => Unit

@[reducible] def MessageGateway.Reply : MessageGateway → Type
  | .getConnection _ => Bool
  | .recentEmails _ _ => List GmailEmail

@[reducible] def MessageCommand.Reply : MessageCommand → Type
  | .queue command => command.Reply
  | .redis command => Except Failure command.Reply
  | .supabase command => Except Failure command.Reply
  | .gateway command => Except Failure command.Reply
  | .timer => Bool

/-- How the world deals with a command, and the id the database generates for a row that the
command inserts. -/
structure Dealing where
  outcome : Outcome
  id : String := ""
  deriving DecidableEq, Repr

namespace Dealing

def fails (dealing : Dealing) : Bool :=
  match dealing.outcome with
  | .failed _ _ => true
  | .ok | .drafted _ _ => false

def performed (dealing : Dealing) : Bool := Command.performed dealing.outcome

end Dealing

def MessageRedis.effect : MessageRedis → Service → Service
  | .setexIdempotent key ttlSecs response, service =>
    { service with
      idempotency := Function.update service.idempotency key
        (some ⟨response, service.queue.deadlineIn ttlSecs⟩) }
  | .incrRate userId, service => service.incr userId
  | .expireRate userId ttlSecs, service => service.expireRate userId ttlSecs
  | .getIdempotent _, service | .queueDepth, service | .getCache _, service => service

def MessageRedis.answer : (command : MessageRedis) → Service → command.Reply
  | .getIdempotent key, service => service.idempotent? key
  | .incrRate userId, service => ((service.rate? userId).map Stored.value).getD 0 + 1
  | .queueDepth, service => service.queue.jobs.length
  | .getCache material, service => service.cached? material
  | .setexIdempotent _ _ _, _ | .expireRate _ _, _ => ()

/-- The generated id is not that of another row. -/
def MessageSupabase.generates (id : String) : MessageSupabase → Service → Bool
  | .insertUserMessage _ _ _, service | .insertCachedMessage _ _ _ _, service =>
    service.sent.all fun message => message.id ≠ id
  | .insertJob _ _ _ _, service => (service.queue.jobRows.find? id).isNone
  | .selectTier _, _ | .selectQuota _ _, _ | .incrementDailyUsage _ _ _, _
  | .incrementQuota _ _ _ _, _ | .upsertQuota _ _ _, _ | .selectChat _ _, _
  | .selectHistory _ _ _, _ | .failJob _ _, _ => true

theorem JobRow.failed_id (error : String) (row : JobRow) :
    (row.assign .failed none (some error)).id = row.id := rfl

/-- `increment_wr_daily_usage` of migration 0014 has no parameter `p_reqs`, so that the call
finds no function. -/
def MessageSupabase.effect (id : String) : MessageSupabase → Service → Service
  | .incrementQuota userId period reqs tokens, service =>
    service.incrementWrQuota userId period reqs tokens
  | .upsertQuota userId period row, service => service.setQuota userId period row
  | .insertUserMessage userId input content, service =>
    service.send id ⟨input.chatId, userId, .user, .text content, none⟩ (.user input)
  | .insertCachedMessage userId input inputHash result, service =>
    service.send id ⟨input.chatId, userId, .assistant, .dumped result, none⟩
      (.cached input inputHash)
  | .insertJob userId _ _ _, service =>
    { service with
      queue := { service.queue with
        jobRows := service.queue.jobRows.insertNew ⟨id, userId, .pending, .empty, none⟩ } }
  | .failJob jobId error, service =>
    { service with
      queue := { service.queue with
        jobRows := service.queue.jobRows.updateWhere (fun row => decide (row.id = jobId))
          (fun row => row.assign .failed none (some error)) (JobRow.failed_id error) } }
  | .selectTier _, service | .selectQuota _ _, service | .incrementDailyUsage _ _ _, service
  | .selectChat _ _, service | .selectHistory _ _ _, service => service

def MessageSupabase.answer (id : String) :
    (command : MessageSupabase) → Service → Except Failure command.Reply
  | .selectTier userId, service => .ok (service.tiers userId)
  | .selectQuota userId period, service => .ok (service.quota userId period)
  | .incrementDailyUsage _ _ _, _ => .error (.raised "Could not find the function")
  | .selectChat chatId userId, service =>
    .ok ((service.chats chatId).filter fun chat => decide (chat.userId = userId) && !chat.deleted)
  | .selectHistory chatId currentMessageId limit, service =>
    .ok (service.history chatId currentMessageId limit)
  | .insertUserMessage _ _ _, _ | .insertJob _ _ _ _, _ => .ok id
  | .incrementQuota _ _ _ _, _ | .upsertQuota _ _ _, _ | .insertCachedMessage _ _ _ _, _
  | .failJob _ _, _ => .ok ()

def MessageGateway.answer : (command : MessageGateway) → Service → Except Failure command.Reply
  | .getConnection userId, service => (service.gmail userId).connected.mapError .raised
  | .recentEmails userId maxResults, service =>
    ((service.gmail userId).recent.map (List.take maxResults)).mapError .raised

namespace MessageCommand

/-- The command reaches the store and is carried out there. -/
def takesEffect (dealing : Dealing) : MessageCommand → Service → Bool
  | .supabase command, service => dealing.performed && command.generates dealing.id service
  | _, _ => dealing.performed

def effect (id : String) : MessageCommand → Service → Service
  | .queue command, service => { service with queue := command.effect service.queue }
  | .redis command, service => command.effect service
  | .supabase command, service => command.effect id service
  | .gateway _, service | .timer, service => service

/-- What the caller is told. -/
def answer (dealing : Dealing) : (command : MessageCommand) → Service → command.Reply
  | .queue command, service => Command.answer dealing.outcome command service.queue
  | .redis command, service =>
    match dealing.outcome with
    | .failed _ failure => .error failure
    | .ok | .drafted _ _ => .ok (command.answer service)
  | .supabase command, service =>
    match dealing.outcome with
    | .failed _ failure => .error failure
    | .ok | .drafted _ _ =>
      if command.generates dealing.id service then command.answer dealing.id service
      else .error (.raised "duplicate key value violates unique constraint")
  | .gateway command, service =>
    match dealing.outcome with
    | .failed _ failure => .error failure
    | .ok | .drafted _ _ => command.answer service
  | .timer, _ => dealing.fails

def exec (dealing : Dealing) (command : MessageCommand) (service : Service) :
    command.Reply × Service :=
  (answer dealing command service,
    if takesEffect dealing command service then command.effect dealing.id service else service)

end MessageCommand

end BrainMate.WriteRight
