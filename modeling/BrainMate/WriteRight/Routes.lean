import BrainMate.WriteRight.AiWorker

/-! The Next.js side of a job: `enqueueWriteRightJob`, the reads of `writeright-queue.ts`,
and the two routes that report a job, the poll and the event stream. The token events of
the stream and its keep-alive pings are left out. -/

namespace BrainMate.WriteRight

open Interleaving Program

def isCircuitOpen : Async Bool := ExceptT.lift (request Command.isCircuitOpen)

/-- One command of an ioredis pipeline: `exec` resolves whether or not it succeeded. -/
def pipelined (command : RedisCommand) : Async Unit :=
  ExceptT.mk do
    let _ ← (redis command).run
    return .ok ()

def enqueueWriteRightJob (payload : WritingJobPayload) : Async Unit := do
  if ← isCircuitOpen then
    throw (.raised "[writeright-queue] Cannot enqueue: Redis circuit is open")
  else do
    let now ← time
    pipelined (.zadd (.enqueued payload) now)
    pipelined (.hset payload.id {
      status := some .pending
      createdAt := some now
      userId := some payload.userId
      chatId := some payload.chatId })
    pipelined (.expireHash payload.id statusTtlSecs)

structure JobStatusPayload where
  status : Status
  createdAt : Option Nat
  userId : String
  chatId : String
  error : Option String
  deriving DecidableEq, Repr

def getJobStatus (jobId : String) : Async (Option JobStatusPayload) := do
  match ← redis (.hgetall jobId) with
  | none => return none
  | some hash =>
    return some {
      status := hash.status.getD .pending
      createdAt := hash.createdAt
      userId := hash.userId.getD ""
      chatId := hash.chatId.getD ""
      error := hash.error }

def readJobResult (jobId : String) : Async (Option ResultData) := do
  if ← isCircuitOpen then return none else redis (.xrange jobId)

/-- `try { result = await readJobResult(jobId) } catch { }`. -/
def readJobResultOrNull (jobId : String) : Async (Option ResultData) :=
  rescue (readJobResult jobId) fun _ => pure none

/-- The job belongs to someone else; a hash without an owner belongs to everyone. -/
def JobStatusPayload.foreign (status : JobStatusPayload) (userId : String) : Bool :=
  status.userId ≠ "" && status.userId ≠ userId

def isHexDigit (char : Char) : Bool :=
  char.isDigit || ('a' ≤ char && char ≤ 'f') || ('A' ≤ char && char ≤ 'F')

/-- `UUID_RE`. -/
def isUuid (jobId : String) : Bool :=
  match (jobId.toList.splitOn '-').map fun group => (group.length, group.all isHexDigit) with
  | [(8, true), (4, true), (4, true), (4, true), (12, true)] => true
  | _ => false

inductive ErrorCode where
  | unauthorized
  | validationError
  | notFound
  | internalError
  | timeout
  deriving DecidableEq, Repr

inductive JobReply where
  | completed (result : Option ResultData)
  | failed (error : String)
  | active (status : Status)
  | refused (code : ErrorCode) (message : String)
  deriving DecidableEq, Repr

/-- The Redis path of the poll. Whatever is thrown in it, the 404 for a foreign job
included, is caught and leads to the Supabase path. -/
def pollRedis (userId jobId : String) : Async (Option JobReply) :=
  rescue
    (do
      match ← getJobStatus jobId with
      | none => return none
      | some status =>
        if status.foreign userId then return none
        else
          match status.status with
          | .completed => return some (.completed (← readJobResult jobId))
          | .failed => return some (.failed (status.error.getD "Job processing failed"))
          | other => return some (.active other))
    fun _ => pure none

def pollSupabase (userId jobId : String) : Async JobReply := do
  match ← rescue (supabase (.selectJob jobId userId)) (fun _ => pure none) with
  | none => return .refused .notFound "Job not found"
  | some job =>
    match job.status with
    | .completed => return .completed ((← readJobResultOrNull jobId) <|> some job.output)
    | .failed => return .failed (job.error.getD "Job processing failed")
    | other => return .active other

def pollJob (userId : Option String) (jobId : String) : Async JobReply :=
  match userId with
  | none => return .refused .unauthorized "Not authenticated"
  | some userId =>
    if isUuid jobId then do
      match ← pollRedis userId jobId with
      | some reply => return reply
      | none => pollSupabase userId jobId
    else return .refused .validationError "Invalid job ID"

inductive StreamEvent where
  | status (status : Status)
  | result (result : Option ResultData)
  | error (code : ErrorCode) (error : String)
  deriving DecidableEq, Repr

/-- What one round of the poll loop sends, and whether it leaves the loop. -/
structure Round where
  sent : List StreamEvent
  lastStatus : Option Status
  done : Bool
  deriving DecidableEq, Repr

/-- A status is sent when it differs from the last one sent. -/
def statusEvent (last : Option Status) (status : Status) : List StreamEvent :=
  if last = some status then [] else [.status status]

/-- The Redis part of a round; `none` when `redisOk` stays false. -/
def streamRedis (userId jobId : String) (last : Option Status) : Async (Option Round) := do
  if ← isCircuitOpen then return none
  else
    match ← rescue (getJobStatus jobId) (fun _ => pure none) with
    | none => return none
    | some status =>
      if status.foreign userId then
        return some ⟨[.error .unauthorized "Job not found"], last, true⟩
      else
        let sent := statusEvent last status.status
        match status.status with
        | .completed =>
          rescue
            (do
              let result ← readJobResult jobId
              return some ⟨sent ++ [.result result], some .completed, true⟩)
            fun _ => return some ⟨sent, some .completed, false⟩
        | .failed =>
          return some ⟨sent ++ [.error .internalError (status.error.getD "Job failed")],
            some .failed, true⟩
        | other => return some ⟨sent, some other, false⟩

def streamSupabase (userId jobId : String) (last : Option Status) : Async Round := do
  match ← rescue (supabase (.selectJob jobId userId)) (fun _ => pure none) with
  | none => return ⟨[.error .notFound "Job not found"], last, true⟩
  | some job =>
    let sent := statusEvent last job.status
    match job.status with
    | .completed =>
      let result ← readJobResultOrNull jobId
      return ⟨sent ++ [.result (result <|> some job.output)], some .completed, true⟩
    | .failed =>
      return ⟨sent ++ [.error .internalError (job.error.getD "Job failed")], some .failed, true⟩
    | other => return ⟨sent, some other, false⟩

/-- One round of the poll loop: Supabase is asked when Redis has no answer. -/
def streamRound (userId jobId : String) (last : Option Status) : Async Round := do
  match ← streamRedis userId jobId last with
  | some round => return round
  | none => streamSupabase userId jobId last

/-- `MAX_MS`. -/
def streamMaxMs : Nat := 90000

/-- The poll loop; the client may close the connection after any number of rounds. -/
def streamRounds (userId jobId : String) (start : Nat) :
    Nat → Option Status → Async (List StreamEvent)
  | 0, _ => return []
  | rounds + 1, last => do
    let now ← time
    if streamMaxMs ≤ now - start then return []
    else
      let round ← streamRound userId jobId last
      if round.done then return round.sent
      else return round.sent ++ (← streamRounds userId jobId start rounds round.lastStatus)

/-- What is done after the loop: a stream that ran out of time marks its job as failed. -/
def streamTimeout (jobId : String) (start : Nat) : Async (List StreamEvent) := do
  let now ← time
  if streamMaxMs ≤ now - start then
    rescue (supabase (.failActiveJob jobId "timeout_90s")) (fun _ => pure ())
    return [.error .timeout "This took too long. Try with shorter text."]
  else return []

def streamJob (userId : Option String) (jobId : String) (rounds : Nat) :
    Async (List StreamEvent) :=
  match userId with
  | none => return [.error .unauthorized "Not authenticated"]
  | some userId =>
    if jobId = "cached" then return [.result none]
    else if isUuid jobId then do
      let start ← time
      let sent ← streamRounds userId jobId start rounds none
      let late ← streamTimeout jobId start
      return sent ++ late
    else return [.error .validationError "Invalid job ID"]

end BrainMate.WriteRight
