import Mathlib.Data.List.Basic

/-! The records of the WriteRight job queue: what `writeright-queue.ts` enqueues, what
`models/job.py` makes of it, and the rows of `writeright_ai_jobs`, `writeright_messages`
and `writeright_usage`. A JSON text is identified with the value it stands for. -/

namespace BrainMate.WriteRight

inductive Status where
  | pending
  | processing
  | completed
  | failed
  | retrying
  deriving DecidableEq, Repr

namespace Status

/-- The job is over. -/
def terminal : Status → Bool
  | .completed | .failed => true
  | .pending | .processing | .retrying => false

end Status

/-- One message of a conversation, as `{ role, content }`. -/
structure HistoryMessage where
  role : String
  content : String
  deriving DecidableEq, Repr

structure WritingJobPayload where
  id : String
  chatId : String
  userId : String
  messageId : String
  content : String
  tone : String
  mode : String
  outputLanguage : Option String
  history : Option (List HistoryMessage)
  intensity : Option Int
  quick : Option Bool
  attempt : Int
  traceparent : Option String
  deriving DecidableEq, Repr

structure WritingJob where
  id : String
  chatId : String
  userId : String
  messageId : String
  content : String
  tone : String
  mode : String
  outputLanguage : String := "en"
  inputLanguage : String := "auto"
  intensity : Int := 3
  quick : Bool := false
  attempt : Int := 0
  status : String := "pending"
  maxRetries : Int := 3
  traceparent : Option String := none
  history : Option (List HistoryMessage) := none
  deriving DecidableEq, Repr

/-- A member of `writeright:jobs`. -/
inductive Member where
  /-- `JSON.stringify(job)` of `enqueueWriteRightJob`. -/
  | enqueued (payload : WritingJobPayload)
  /-- `json.dumps(job.model_dump())` of `_handle_failure`. -/
  | requeued (job : WritingJob)
  /-- A text that is no `WritingJob`. -/
  | malformed (text : String)
  deriving DecidableEq, Repr

/-- `WritingJob(**json.loads(member))`. A field that `JSON.stringify` left out takes its
default. -/
def Member.job? : Member → Option WritingJob
  | .enqueued payload => some {
      id := payload.id
      chatId := payload.chatId
      userId := payload.userId
      messageId := payload.messageId
      content := payload.content
      tone := payload.tone
      mode := payload.mode
      outputLanguage := payload.outputLanguage.getD "en"
      intensity := payload.intensity.getD 3
      quick := payload.quick.getD false
      attempt := payload.attempt
      traceparent := payload.traceparent
      history := payload.history }
  | .requeued job => some job
  | .malformed _ => none

structure TeachingBlock where
  mistakes : List String := []
  betterVersions : List String := []
  explanations : List String := []
  deriving DecidableEq, Repr

structure MeetingRequest where
  found : Bool := false
  title : Option String := none
  time : Option String := none
  intent : Option String := none
  deriving DecidableEq, Repr

structure ExtractionBlock where
  actionItems : List String := []
  deadlines : List String := []
  monetaryValues : List String := []
  meetingRequest : MeetingRequest := {}
  deriving DecidableEq, Repr

structure ScoreBlock where
  clarity : Int := 6
  tone : Int := 6
  impact : Int := 6
  verdict : String := "Needs more work"
  deriving DecidableEq, Repr

structure AIResult where
  improvedText : String
  englishVersion : Option String := none
  teaching : TeachingBlock := {}
  extraction : ExtractionBlock := {}
  followUp : String := ""
  suggestions : List String := []
  scores : ScoreBlock := {}
  model : String := ""
  promptTokens : Int := 0
  completionTokens : Int := 0
  deriving DecidableEq, Repr

/-- The JSON values that stand where a result is looked for. -/
inductive ResultData where
  | result (result : AIResult)
  /-- What `_handle_failure` publishes: `{"error": error, "status": "failed"}`. -/
  | failure (error : String)
  /-- The default `{}` of the column `output`. -/
  | empty
  deriving DecidableEq, Repr

/-- The hash under `writeright:job:{id}`; `updated_at` and `output_language` are written
by everyone and read by no one. -/
structure StatusHash where
  status : Option Status := none
  createdAt : Option Nat := none
  userId : Option String := none
  chatId : Option String := none
  error : Option String := none
  deriving DecidableEq, Repr

/-- HSET: the fields given are replaced, the others stay. -/
def StatusHash.hset (hash fields : StatusHash) : StatusHash where
  status := fields.status <|> hash.status
  createdAt := fields.createdAt <|> hash.createdAt
  userId := fields.userId <|> hash.userId
  chatId := fields.chatId <|> hash.chatId
  error := fields.error <|> hash.error

@[simp] theorem StatusHash.status_hset_some (hash fields : StatusHash) (status : Status)
    (given : fields.status = some status) : (hash.hset fields).status = some status := by
  simp [StatusHash.hset, given]

/-- An entry of `writeright:jobs:dead`. -/
structure DeadEntry where
  job : WritingJob
  failedAt : Nat
  finalError : String
  deriving DecidableEq, Repr

structure JobRow where
  id : String
  userId : String
  status : Status
  output : ResultData
  error : Option String
  deriving DecidableEq, Repr

inductive Role where
  | user
  | assistant
  deriving DecidableEq, Repr

inductive MessageContent where
  | text (text : String)
  /-- `json.dumps(result.model_dump())`. -/
  | dumped (result : AIResult)
  deriving DecidableEq, Repr

structure MessageMetadata where
  model : String
  promptTokens : Int
  completionTokens : Int
  injectionDetected : Bool
  jobId : String
  mode : String
  tone : String
  outputLanguage : String
  deriving DecidableEq, Repr

structure MessageRow where
  chatId : String
  userId : String
  role : Role
  content : MessageContent
  metadata : Option MessageMetadata
  deriving DecidableEq, Repr

structure UsageRow where
  userId : String
  jobId : String
  chatId : String
  model : String
  promptTokens : Int
  completionTokens : Int
  totalTokens : Int
  deriving DecidableEq, Repr

/-- What a worker process is started with. -/
structure Settings where
  jobMaxRetries : Int := 3
  jobTimeoutSeconds : Nat := 30
  enableCritiquePipeline : Bool := false
  /-- The letters of Unicode, as `str.isalpha` knows them. -/
  isalpha : Char → Bool

/-- `LOCK_TTL_SECS`. -/
def Settings.lockTtlSecs (settings : Settings) : Nat := settings.jobTimeoutSeconds * 3

/-- `STATUS_TTL_SECS`. -/
def statusTtlSecs : Nat := 3600

end BrainMate.WriteRight
