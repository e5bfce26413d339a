import BrainMate.Interleaving.Embedding
import BrainMate.WriteRight.CacheKey
import BrainMate.WriteRight.Routes

/-! POST /api/writeright/job/{jobId}/complete. The route writes a result under keys of its
own, beside those of the queue: `writeright:job:result:{id}`, `writeright:job:status:{id}`
and `writeright:cache:{id}`. -/

namespace BrainMate.WriteRight

open Interleaving Program Text

/-- What the route reads of a job beside the columns of `JobRow`. -/
structure JobDetails where
  chatId : String
  /-- `metadata.mode`. -/
  mode : Option String
  deriving DecidableEq, Repr

structure CompletionWorld where
  queue : World
  details : String → JobDetails
  /-- `writeright:job:result:{id}`, oldest entry first. -/
  results : String → Option (Stored (List ResultData))
  /-- `writeright:job:status:{id}`. -/
  statuses : String → Option (Stored StatusHash)
  /-- `writeright:cache:{id}`; no hash of a text is an id. -/
  caches : String → Option (Stored ResultData)

namespace CompletionWorld

variable (world : CompletionWorld)

def result? (jobId : String) : Option (List ResultData) :=
  ((world.results jobId).filter fun stored => stored.alive world.queue.clock).map Stored.value

def status? (jobId : String) : Option StatusHash :=
  ((world.statuses jobId).filter fun stored => stored.alive world.queue.clock).map Stored.value

/-- XADD; a stream that was there keeps its deadline. -/
def xadd (jobId : String) (data : ResultData) : CompletionWorld :=
  let stored := match world.result? jobId with
    | some entries => ⟨entries ++ [data], (world.results jobId).bind Stored.deadline⟩
    | none => ⟨[data], none⟩
  { world with results := Function.update world.results jobId (some stored) }

/-- EXPIRE on the stream. -/
def expire (jobId : String) (ttlSecs : Nat) : CompletionWorld :=
  match world.result? jobId with
  | some entries =>
    { world with
      results := Function.update world.results jobId
        (some ⟨entries, world.queue.deadlineIn ttlSecs⟩) }
  | none => world

/-- HSET; a hash that was there keeps its deadline. -/
def hset (jobId : String) (fields : StatusHash) : CompletionWorld :=
  let stored := match world.status? jobId with
    | some hash => ⟨hash.hset fields, (world.statuses jobId).bind Stored.deadline⟩
    | none => ⟨fields, none⟩
  { world with statuses := Function.update world.statuses jobId (some stored) }

/-- SETEX. -/
def setex (jobId : String) (ttlSecs : Nat) (data : ResultData) : CompletionWorld :=
  { world with
    caches := Function.update world.caches jobId (some ⟨data, world.queue.deadlineIn ttlSecs⟩) }

end CompletionWorld

/-- What the route selects of a job. -/
structure SelectedJob where
  userId : String
  chatId : String
  mode : Option String
  deriving DecidableEq, Repr

/-- The caches of a user that the route deletes. -/
inductive UserCache where
  | stats
  | analytics
  | sessionStats
  deriving DecidableEq, Repr

inductive CompletionRedis where
  | xadd (jobId : String) (data : ResultData)
  | expire (jobId : String) (ttlSecs : Nat)
  | hset (jobId : String) (fields : StatusHash)
  | setex (jobId : String) (ttlSecs : Nat) (data : ResultData)
  | del (cache : UserCache) (userId : String)
  deriving DecidableEq, Repr

/-- The parameters of `upsert_writing_session`. -/
structure WritingSession where
  userId : String
  clarity : Int
  tone : Int
  impact : Int
  tokens : Int
  mode : String
  wordCount : Nat
  deriving DecidableEq, Repr

inductive CompletionSupabase where
  | selectJob (jobId : String)
  | completeJob (jobId : String) (output : ResultData)
  | insertUsage (row : UsageRow)
  | upsertWritingSession (session : WritingSession)
  deriving DecidableEq, Repr

inductive CompletionCommand where
  | queue (command : Command)
  | redis (command : CompletionRedis)
  | supabase (command : CompletionSupabase)
  deriving DecidableEq, Repr

@[reducible] def CompletionSupabase.Reply : CompletionSupabase → Type
  | .selectJob _ => Option SelectedJob
  | .completeJob _ _ | .insertUsage _ | .upsertWritingSession _ => Unit

@[reducible] def CompletionCommand.Reply : CompletionCommand → Type
  | .queue command => command.Reply
  | .redis _ => Except Failure Unit
  | .supabase command => Except Failure command.Reply

def CompletionRedis.effect : CompletionRedis → CompletionWorld → CompletionWorld
  | .xadd jobId data, world => world.xadd jobId data
  | .expire jobId ttlSecs, world => world.expire jobId ttlSecs
  | .hset jobId fields, world => world.hset jobId fields
  | .setex jobId ttlSecs data, world => world.setex jobId ttlSecs data
  | .del _ _, world => world

def CompletionSupabase.effect : CompletionSupabase → CompletionWorld → CompletionWorld
  | .completeJob jobId output, world =>
    { world with
      queue := { world.queue with
        jobRows := world.queue.jobRows.updateWhere (fun row => decide (row.id = jobId))
          (fun row => { row with status := .completed, output := output }) fun _ => rfl } }
  | .insertUsage row, world =>
    { world with queue := { world.queue with usage := world.queue.usage ++ [row] } }
  | .selectJob _, world | .upsertWritingSession _, world => world

def CompletionSupabase.answer : (command : CompletionSupabase) → CompletionWorld → command.Reply
  | .selectJob jobId, world =>
    (world.queue.jobRows.find? jobId).map fun row =>
      ⟨row.userId, (world.details jobId).chatId, (world.details jobId).mode⟩
  | .completeJob _ _, _ | .insertUsage _, _ | .upsertWritingSession _, _ => ()

namespace CompletionCommand

def effect : CompletionCommand → CompletionWorld → CompletionWorld
  | .queue command, world => { world with queue := command.effect world.queue }
  | .redis command, world => command.effect world
  | .supabase command, world => command.effect world

def answer : (outcome : Outcome) → (command : CompletionCommand) → CompletionWorld → command.Reply
  | outcome, .queue command, world => Command.answer outcome command world.queue
  | .failed _ failure, .redis _, _ | .failed _ failure, .supabase _, _ => .error failure
  | _, .redis _, _ => .ok ()
  | _, .supabase command, world => .ok (command.answer world)

def exec (outcome : Outcome) (command : CompletionCommand) (world : CompletionWorld) :
    command.Reply × CompletionWorld :=
  (answer outcome command world,
    if Command.performed outcome then command.effect world else world)

end CompletionCommand

/-- What the worker posts. -/
structure PostedResult where
  result : ResultData
  promptTokens : Int
  completionTokens : Int
  model : String
  deriving DecidableEq, Repr

structure CompletionRequest where
  jobId : String
  /-- `X-Worker-Secret`. -/
  secretHeader : Option String
  /-- The body; `none` when it is no JSON text. -/
  body : Option PostedResult
  deriving DecidableEq, Repr

inductive CompletionError where
  | unauthorized
  | invalidBody
  | notFound
  deriving DecidableEq, Repr

namespace CompletionError

def httpStatus : CompletionError → Nat
  | .unauthorized => 401
  | .invalidBody => 400
  | .notFound => 404

/-- `USER_MESSAGES`. -/
def message : CompletionError → String
  | .unauthorized => "Session expired. Please refresh."
  | .invalidBody => "Invalid request format."
  | .notFound => "The requested resource was not found."

end CompletionError

inductive CompletionReply where
  | received
  | refused (error : CompletionError)
  deriving DecidableEq, Repr

/-- `process.env.WRITERIGHT_WORKER_SECRET || "fallback-secret"`. -/
def expectedSecret (workerSecret : Option String) : String :=
  match workerSecret with
  | none | some "" => "fallback-secret"
  | some secret => secret

abbrev Completion (α : Type) : Type :=
  ExceptT Failure (Program CompletionCommand CompletionCommand.Reply) α

def postRedis (command : CompletionRedis) : Completion Unit :=
  ExceptT.mk (request (CompletionCommand.redis command))

/-- `{ data, error }`: a statement that fails throws nothing. -/
def postStatement (command : CompletionSupabase) :
    Program CompletionCommand CompletionCommand.Reply (Except Failure command.Reply) :=
  request (CompletionCommand.supabase command)

/-- `result.scores`. -/
def ResultData.scores? : ResultData → Option ScoreBlock
  | .result posted => some posted.scores
  | .failure _ | .empty => none

/-- `result.improved_text`. -/
def ResultData.improvedText? : ResultData → Option String
  | .result posted => some posted.improvedText
  | .failure _ | .empty => none

/-- `text.split(/\s+/).filter(Boolean).length`. -/
def wordCount (text : String) : Nat :=
  ((units text).splitOnP isTrimmed).countP fun word => !word.isEmpty

def writingSession (job : SelectedJob) (posted : PostedResult) : WritingSession where
  userId := job.userId
  clarity := (posted.result.scores?.map ScoreBlock.clarity).getD 7
  tone := (posted.result.scores?.map ScoreBlock.tone).getD 7
  impact := (posted.result.scores?.map ScoreBlock.impact).getD 7
  tokens := posted.promptTokens + posted.completionTokens
  mode := job.mode.getD "email"
  wordCount := (posted.result.improvedText?.map wordCount).getD 0

def usageRow (jobId : String) (job : SelectedJob) (posted : PostedResult) : UsageRow where
  userId := job.userId
  jobId := jobId
  chatId := job.chatId
  model := posted.model
  promptTokens := posted.promptTokens
  completionTokens := posted.completionTokens
  totalTokens := posted.promptTokens + posted.completionTokens

/-- The Redis part; `Promise.allSettled` waits for the three deletions whatever they do. -/
def publishPosted (jobId userId : String) (result : ResultData) : Completion Unit := do
  postRedis (.xadd jobId result)
  postRedis (.expire jobId 3600)
  postRedis (.hset jobId { status := some .completed })
  postRedis (.setex jobId 3600 result)
  rescue (postRedis (.del .stats userId)) fun _ => pure ()
  rescue (postRedis (.del .analytics userId)) fun _ => pure ()
  rescue (postRedis (.del .sessionStats userId)) fun _ => pure ()

/-- What is done for a job that was found. -/
def recordCompletion (jobId : String) (job : SelectedJob) (posted : PostedResult) :
    Program CompletionCommand CompletionCommand.Reply CompletionReply := do
  let _ ← postStatement (.completeJob jobId posted.result)
  let _ ← postStatement (.insertUsage (usageRow jobId job posted))
  let _ ← postStatement (.upsertWritingSession (writingSession job posted))
  let isOpen ← request (CompletionCommand.queue .isCircuitOpen)
  if isOpen then return .received
  else
    let _ ← (publishPosted jobId job.userId posted.result).run
    return .received

def completeJob (workerSecret : Option String) (request : CompletionRequest) :
    Program CompletionCommand CompletionCommand.Reply CompletionReply :=
  if request.secretHeader.getD "" ≠ expectedSecret workerSecret then
    return .refused .unauthorized
  else
    match request.body with
    | none => return .refused .invalidBody
    | some posted => do
      match ← postStatement (.selectJob request.jobId) with
      | .ok (some job) => recordCompletion request.jobId job posted
      | .ok none | .error _ => return .refused .notFound

theorem queue_redis (command : CompletionRedis) (world : CompletionWorld) :
    (command.effect world).queue = world.queue := by
  cases command with
  | expire jobId ttlSecs =>
    simp only [CompletionRedis.effect, CompletionWorld.expire]
    split <;> rfl
  | _ => rfl

theorem publishPosted_redis (jobId userId : String) (result : ResultData) :
    (publishPosted jobId userId result).run.Every fun command => ∃ redis, command = .redis redis := by
  have own (redis : CompletionRedis) :
      (postRedis redis).run.Every fun command => ∃ redis, command = .redis redis :=
    ⟨⟨redis, rfl⟩, fun _ => trivial⟩
  have settled (cache : UserCache) : (rescue (postRedis (.del cache userId)) fun _ => pure ()).run.Every
      fun command => ∃ redis, command = .redis redis := Every.rescue (own _) fun _ => trivial
  refine Every.andThen (own _) fun _ => Every.andThen (own _) fun _ => Every.andThen (own _) fun _ =>
    Every.andThen (own _) fun _ => ?_
  exact Every.andThen (settled _) fun _ => Every.andThen (settled _) fun _ => settled _

end BrainMate.WriteRight
