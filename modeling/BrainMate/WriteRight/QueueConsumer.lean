import Mathlib.Algebra.Group.Nat.Defs
import BrainMate.WriteRight.AiWorker

/-! `queue_consumer.py`: one round of the consumer loop, the processing of a popped job
under its lock, and what happens to a job that failed. The rounds of one worker and of all
workers are clients of their own, so a slot of the semaphore is one more awaited call that
may take any time. -/

namespace BrainMate.WriteRight

open Interleaving Program

/-- `_set_job_status`. -/
def setJobStatus (jobId : String) (status : Status) (error : Option String) : Async Unit :=
  redis (.setStatus jobId { status := some status, error := error } statusTtlSecs)

/-- `_publish_result`. -/
def publishResult (jobId : String) (data : ResultData) : Async Unit := do
  redis (.xadd jobId data)
  redis (.expireStream jobId statusTtlSecs)

/-- `_STANDARD_MODES`. -/
def standardModes : List String :=
  ["write_improvement", "translation", "json_repair", "summarize", "email", "linkedin",
    "whatsapp", "paragraph", "professionalize", "shorten", "rewrite", "reply_draft", "rephrase",
    "smart_suggestions", "session_dna"]

/-- `_dispatch_job`. -/
def dispatchJob (settings : Settings) (job : WritingJob) : Async AIResult :=
  if job.mode ∈ standardModes then processJob settings job
  else throw (.raised ("Unknown job mode: '" ++ job.mode ++ "'"))

/-- `asyncio.wait_for` around `_dispatch_job`. -/
def waitForDispatch (settings : Settings) (job : WritingJob) : Async AIResult := do
  ExceptT.mk (request (Command.dispatch job))
  let result ← dispatchJob settings job
  ExceptT.mk (request (Command.dispatched job result))
  return result

/-- `try: ... except Exception: ...` of a call that no `wait_for` has a watch on. -/
def tolerating (body : Async Unit) : Async Unit :=
  rescue body fun
    | .raised _ | .timedOut => pure ()
    | .cancelled => throw .cancelled

/-- The text that `_input_hash_for_cache` hashes. -/
def cacheMaterial (job : WritingJob) : String :=
  let language := if job.outputLanguage = "" then "en" else job.outputLanguage
  job.content ++ ":" ++ job.tone ++ ":" ++ job.mode ++ ":" ++ language ++ ":" ++
    toString job.intensity

/-- Step 4 of `_process_job_safe`: the status first, the result after it. -/
def complete (job : WritingJob) (result : AIResult) : Async Unit := do
  setJobStatus job.id .completed none
  publishResult job.id (.result result)
  tolerating do
    redis (.setCache (cacheMaterial job) result statusTtlSecs)
    redis (.deleteStats job.userId)

/-- The job as `_handle_failure` goes on with it. -/
def WritingJob.failedOnce (job : WritingJob) : WritingJob := { job with attempt := job.attempt + 1 }

/-- `error[:500]`. -/
def truncated (error : String) : String := String.ofList (error.toList.take 500)

/-- The branch of `_handle_failure` for a job with no attempts left. -/
def giveUp (job : WritingJob) (error : String) : Async Unit := do
  setJobStatus job.id .failed (some (truncated error))
  publishResult job.id (.failure error)
  tolerating (supabase (.updateJobStatus job.id .failed none (some (truncated error))))
  tolerating do
    let now ← time
    redis (.zaddDead ⟨job, now, truncated error⟩ now)
    redis (.expireDead (7 * 24 * 3600))

/-- The branch of `_handle_failure` that puts the job back, after one second, two, four
and so on. -/
def retryLater (job : WritingJob) (error : String) : Async Unit := do
  let now ← time
  setJobStatus job.id .retrying (some (truncated error))
  redis (.zadd (.requeued job) (now + 1000 * 2 ^ (job.attempt - 1).toNat))
  tolerating (supabase (.updateJobStatus job.id .retrying none (some (truncated error))))

/-- `_handle_failure`. -/
def handleFailure (settings : Settings) (job : WritingJob) (error : String) : Async Unit :=
  if settings.jobMaxRetries ≤ job.failedOnce.attempt then giveUp job.failedOnce error
  else retryLater job.failedOnce error

/-- The `try` block of `_process_job_safe` with its handlers. -/
def attemptJob (settings : Settings) (job : WritingJob) : Async Unit :=
  rescue
    (do
      setJobStatus job.id .processing none
      let result ← waitForDispatch settings job
      complete job result)
    fun
      | .timedOut =>
        handleFailure settings job
          ("Job timed out after " ++ toString settings.jobTimeoutSeconds ++ "s")
      | .raised error => handleFailure settings job error
      | .cancelled => throw .cancelled

/-- The `finally` block of `_process_job_safe`. -/
def releaseLock (jobId lockValue : String) : Async Unit := do
  let current ← redis (.getLock jobId)
  if current = some lockValue then redis (.deleteLock jobId)

/-- `_process_job_safe`. -/
def processJobSafe (settings : Settings) (workerId : String) (job : WritingJob) : Async Unit := do
  let now ← time
  let lockValue := workerId ++ ":" ++ toString now
  let acquired ← redis (.setLock job.id lockValue settings.lockTtlSecs)
  if acquired then ensuring (attemptJob settings job) (releaseLock job.id lockValue)

/-- One round of `consume_jobs`, with the task it starts. -/
def consumeJob (settings : Settings) (workerId : String) : Async Unit := do
  let now ← time
  match ← redis (.popDue now) with
  | none => return
  | some member =>
    match member.job? with
    | none => return
    | some job =>
      ExceptT.mk (request Command.acquireSlot)
      processJobSafe settings workerId job

/-- What `consumeJob` does about what it has parsed. -/
def consumeParsed (settings : Settings) (workerId : String) : Option WritingJob → Async Unit
  | none => pure ()
  | some job => do
    ExceptT.mk (request Command.acquireSlot)
    processJobSafe settings workerId job

/-- One beat of `_heartbeat_lock`. -/
def heartbeatLock (jobId lockValue : String) : Async Bool := redis (.extendLock jobId lockValue 60)

end BrainMate.WriteRight
