import BrainMate.WriteRight.Clients

namespace BrainMate.WriteRight

open Interleaving System Program

inductive Stage where
  | free
  /-- The job was popped; `_dispatch_job` has not been started. -/
  | holds (job : WritingJob)
  | started (job : WritingJob)
  /-- `_dispatch_job` has returned a result. -/
  | drafted (job : WritingJob) (result : AIResult)
  /-- The status is `completed`; the result is about to be added to the stream. -/
  | completed (job : WritingJob) (result : AIResult)
  /-- The result is in the stream, which has no deadline yet. -/
  | published (job : WritingJob) (result : AIResult)
  /-- The status is `failed`; the report is about to be added to the stream. -/
  | gaveUp (job : WritingJob)
  /-- The hash has told a reader that the job is completed. -/
  | saw (jobId : String)
  /-- The row has told a reader that the job is completed, with its output. -/
  | fell (jobId : String) (output : ResultData)
  /-- What a reader has for the result of a completed job. -/
  | told (jobId : String) (data : Option ResultData)
  deriving DecidableEq, Repr

namespace Stage

/-- The job a worker has in hand. -/
def job? : Stage → Option WritingJob
  | .holds job | .started job | .drafted job _ | .completed job _ | .published job _
  | .gaveUp job => some job
  | .free | .saw _ | .fell _ _ | .told _ _ => none

/-- The job of a worker that has not ended it. -/
def open? : Stage → Option WritingJob
  | .holds job | .started job | .drafted job _ => some job
  | .completed _ _ | .published _ _ | .gaveUp _ | .free | .saw _ | .fell _ _ | .told _ _ => none

/-- A status was written. -/
def wrote : Stage → Option Status → Stage
  | .drafted job result, some .completed => .completed job result
  | .holds job, some .failed | .started job, some .failed => .gaveUp job
  | stage, _ => stage

/-- A status could not be written: the handler goes on with the job, unless it is the
handler that failed. -/
def unwritten : Stage → Option Status → Stage
  | .drafted job _, some .completed => .started job
  | _, some .retrying | _, some .failed => .free
  | stage, _ => stage

def moved (stage : Stage) : (command : Command) → command.Reply → Stage
  | .isCircuitOpen, isOpen =>
    match stage, isOpen with
    | .saw jobId, true => .told jobId none
    | .fell jobId output, true => .told jobId (some output)
    | other, _ => other
  | .acquireSlot, reply =>
    match reply with
    | .ok _ => stage
    | .error _ => .free
  | .dispatch _, _ =>
    match stage with
    | .holds job => .started job
    | other => other
  | .dispatched _ result, reply =>
    match stage, reply with
    | .started job, .ok _ => .drafted job result
    | other, _ => other
  | .redis (.popDue _), reply =>
    match reply with
    | .ok (some member) => (member.job?.map Stage.holds).getD stage
    | _ => stage
  | .redis (.setLock _ _ _), reply =>
    match reply with
    | .ok true => stage
    | _ => .free
  | .redis (.setStatus _ fields _), reply =>
    match reply with
    | .ok _ => stage.wrote fields.status
    | .error _ => stage.unwritten fields.status
  | .redis (.zadd member _), _ =>
    match member with
    | .requeued _ => .free
    | _ => stage
  | .redis (.xadd _ _), reply =>
    match stage, reply with
    | .completed job result, .ok _ => .published job result
    | .completed job _, .error _ => .started job
    | .gaveUp _, .error _ => .free
    | other, _ => other
  | .redis (.expireStream _ _), reply =>
    match stage, reply with
    | .published _ _, .ok _ => .free
    | .published job _, .error _ => .started job
    | .gaveUp _, _ => .free
    | other, _ => other
  | .redis (.hgetall jobId), reply =>
    match reply with
    | .ok (some hash) => if hash.status = some .completed then .saw jobId else .free
    | _ => .free
  | .supabase (.selectJob jobId _), reply =>
    match reply with
    | .ok (some row) => if row.status = .completed then .fell jobId row.output else .free
    | _ => .free
  | .redis (.xrange _), reply =>
    match stage, reply with
    | .saw jobId, .ok data => .told jobId data
    | .fell jobId output, .ok data => .told jobId (data <|> some output)
    | .fell jobId output, .error _ => .told jobId (some output)
    | other, _ => other
  | _, _ => stage

/-- The call was cancelled. -/
def isCancelled {α : Type} : Except Failure α → Bool
  | .error .cancelled => true
  | _ => false

def cancels : (command : Command) → command.Reply → Bool
  | .time, _ | .isCircuitOpen, _ => false
  | .acquireSlot, reply | .dispatch _, reply | .dispatched _ _, reply => isCancelled reply
  | .redis command, reply => @isCancelled command.Reply reply
  | .supabase command, reply => @isCancelled command.Reply reply
  | .model command, reply => @isCancelled command.Reply reply

/-- No handler catches a cancellation, so a worker that is cancelled drops its job. -/
def advance (stage : Stage) (command : Command) (reply : command.Reply) : Stage :=
  if stage.job?.isSome && cancels command reply then .free else stage.moved command reply

/-- The command touches neither the queue nor a status nor a result, and no worker or
reader is further with a job after it. -/
def apart : Command → Bool
  | .time | .model _ => true
  | .isCircuitOpen | .acquireSlot | .dispatch _ | .dispatched _ _ => false
  | .redis command =>
    match command with
    | .expireHash _ ttlSecs => ttlSecs ≠ 0
    | .zaddDead _ _ | .expireDead _ | .getLock _ | .deleteLock _ | .extendLock _ _ _
    | .setCache _ _ _ | .deleteStats _ | .publish _ _ => true
    | .popDue _ | .zadd _ _ | .setStatus _ _ _ | .hset _ _ | .hgetall _ | .xadd _ _
    | .expireStream _ _ | .xrange _ | .setLock _ _ _ => false
  | .supabase command =>
    match command with
    | .updateJobStatus _ status output _ => status ≠ .completed && output.isNone
    | .selectJob _ _ => false
    | .getChatHistory _ _ | .getWritingProfile _ | .insertMessage _ | .insertUsage _
    | .updateStreakAndAchievements _ | .failActiveJob _ _ => true

theorem moved_apart (stage : Stage) {command : Command} (isApart : apart command = true)
    (reply : command.Reply) : stage.moved command reply = stage := by
  cases command with
  | time | model _ => rfl
  | isCircuitOpen | acquireSlot | dispatch _ | dispatched _ _ => cases isApart
  | redis command => cases command <;> first | rfl | cases isApart
  | supabase command => cases command <;> first | rfl | cases isApart

/-- The job is in the hands of the handler or on the way there. -/
inductive InHand (job : WritingJob) : Stage → Prop where
  | holds : InHand job (.holds job)
  | started : InHand job (.started job)

inductive Allowed (settings : Settings) : Stage → Command → Prop where
  | enqueue (payload : WritingJobPayload) (score : Nat) :
      Allowed settings .free (.redis (.zadd (.enqueued payload) score))
  | pend (jobId : String) (fields : StatusHash) (pending : fields.status = some .pending) :
      Allowed settings .free (.redis (.hset jobId fields))
  | pop (now : Nat) : Allowed settings .free (.redis (.popDue now))
  | slot (job : WritingJob) : Allowed settings (.holds job) .acquireSlot
  | lock (job : WritingJob) (value : String) (ttlSecs : Nat) :
      Allowed settings (.holds job) (.redis (.setLock job.id value ttlSecs))
  | process (job : WritingJob) :
      Allowed settings (.holds job)
        (.redis (.setStatus job.id { status := some .processing } statusTtlSecs))
  | dispatch (job : WritingJob) : Allowed settings (.holds job) (.dispatch job)
  | persist (job : WritingJob) (result : AIResult) :
      Allowed settings (.started job)
        (.supabase (.updateJobStatus job.id .completed (some result) none))
  | dispatched (job : WritingJob) (result : AIResult) :
      Allowed settings (.started job) (.dispatched job result)
  | complete (job : WritingJob) (result : AIResult) :
      Allowed settings (.drafted job result)
        (.redis (.setStatus job.id { status := some .completed } statusTtlSecs))
  | publish (job : WritingJob) (result : AIResult) :
      Allowed settings (.completed job result) (.redis (.xadd job.id (.result result)))
  | keep (job : WritingJob) (result : AIResult) :
      Allowed settings (.published job result) (.redis (.expireStream job.id statusTtlSecs))
  | retry {stage : Stage} {job : WritingJob} (inHand : InHand job stage) (error : Option String) :
      Allowed settings stage
        (.redis (.setStatus job.id { status := some .retrying, error := error } statusTtlSecs))
  | requeue {stage : Stage} {job : WritingJob} (inHand : InHand job stage)
      (left : job.failedOnce.attempt < settings.jobMaxRetries) (score : Nat) :
      Allowed settings stage (.redis (.zadd (.requeued job.failedOnce) score))
  | giveUp {stage : Stage} {job : WritingJob} (inHand : InHand job stage) (error : Option String) :
      Allowed settings stage
        (.redis (.setStatus job.id { status := some .failed, error := error } statusTtlSecs))
  | report (job : WritingJob) (error : String) :
      Allowed settings (.gaveUp job) (.redis (.xadd job.id (.failure error)))
  | keepReport (job : WritingJob) :
      Allowed settings (.gaveUp job) (.redis (.expireStream job.id statusTtlSecs))
  | circuit {stage : Stage} (idle : stage.job? = none) : Allowed settings stage .isCircuitOpen
  | look {stage : Stage} (idle : stage.job? = none) (jobId : String) :
      Allowed settings stage (.redis (.hgetall jobId))
  | lookRow {stage : Stage} (idle : stage.job? = none) (jobId userId : String) :
      Allowed settings stage (.supabase (.selectJob jobId userId))
  | fetch (jobId : String) : Allowed settings (.saw jobId) (.redis (.xrange jobId))
  | fetchRow (jobId : String) (output : ResultData) :
      Allowed settings (.fell jobId output) (.redis (.xrange jobId))
  | aside {stage : Stage} {command : Command} (isApart : apart command = true) :
      Allowed settings stage command

@[reducible] def observer (settings : Settings) : Observer Command Command.Reply :=
  ⟨Stage, .free, advance, Allowed settings⟩

section Workers

variable {settings : Settings} {stage : Stage} {α β : Type}

/-- The stage of a worker in the handler's `try`, after a failure. -/
def lost (stage : Stage) (failure : Failure) : Stage :=
  if failure = .cancelled then .free else stage

/-- The worker is where it was, unless it was cancelled. -/
@[reducible] def Stays (settings : Settings) (stage : Stage) : Except Failure α → Stage → Prop :=
  @Observer.ending _ _ (observer settings) _ _ (fun _ phase => phase = stage)
    fun failure phase => phase = stage.lost failure

theorem advance_error (inHand : stage.job?.isSome = true) {command : Command}
    (isApart : apart command = true) {reply : command.Reply} :
    stage.advance command reply = if cancels command reply then .free else stage := by
  simp [advance, inHand, moved_apart stage isApart]

theorem stays_supabase (inHand : stage.job?.isSome = true) {command : SupabaseCommand}
    (isApart : apart (.supabase command) = true) :
    (observer settings).Follows (Stays settings stage) stage (supabase command).run := by
  refine ⟨.aside isApart, fun reply => ?_⟩
  rw [show (observer settings).advance stage (.supabase command) reply = _ from
    advance_error inHand isApart]
  rcases reply with failure | value
  · cases failure <;> rfl
  · rfl

private theorem stays_redis (inHand : stage.job?.isSome = true) {command : RedisCommand}
    (isApart : apart (.redis command) = true) :
    (observer settings).Follows (Stays settings stage) stage (redis command).run := by
  refine ⟨.aside isApart, fun reply => ?_⟩
  rw [show (observer settings).advance stage (.redis command) reply = _ from
    advance_error inHand isApart]
  rcases reply with failure | value
  · cases failure <;> rfl
  · rfl

private theorem stays_model (inHand : stage.job?.isSome = true) (command : ModelCommand) :
    (observer settings).Follows (Stays settings stage) stage (model command).run := by
  refine ⟨.aside rfl, fun reply => ?_⟩
  rw [show (observer settings).advance stage (.model command) reply = _ from
    advance_error inHand rfl]
  rcases reply with failure | value
  · cases failure <;> rfl
  · rfl

theorem stays_pure (value : α) :
    (observer settings).Follows (Stays settings stage) stage (pure value : Async α).run := rfl

theorem Stays.before {body : Async α} {next : α → Async β} {ends : Except Failure β → Stage → Prop}
    (first : (observer settings).Follows (Stays settings stage) stage body.run)
    (fails : ∀ failure, ends (.error failure) (stage.lost failure))
    (rest : ∀ value, (observer settings).Follows ends stage (next value).run) :
    (observer settings).Follows ends stage (body >>= next).run := by
  refine Observer.Follows.bind first ?_
  rintro (failure | value) phase rfl
  · exact fails failure
  · exact rest value

theorem Stays.andThen {body : Async α} {next : α → Async β}
    (first : (observer settings).Follows (Stays settings stage) stage body.run)
    (rest : ∀ value, (observer settings).Follows (Stays settings stage) stage (next value).run) :
    (observer settings).Follows (Stays settings stage) stage (body >>= next).run :=
  Stays.before first (fun _ => rfl) rest

theorem Stays.catching {body fallback : Async α}
    (first : (observer settings).Follows (Stays settings stage) stage body.run)
    (rest : (observer settings).Follows (Stays settings stage) stage fallback.run) :
    (observer settings).Follows (Stays settings stage) stage
      (WriteRight.catching body fallback).run := by
  refine Observer.Follows.rescue first ?_
  rintro (error | _ | _) phase rfl
  · exact rest
  · rfl
  · rfl

/-- A write that may fail without consequences. -/
theorem Stays.attempted {body : Async Unit}
    (first : (observer settings).Follows (Stays settings stage) stage body.run) :
    (observer settings).Follows (Stays settings stage) stage
      (WriteRight.catching body (pure ())).run :=
  Stays.catching first (stays_pure ())

variable {job : WritingJob}

private theorem persist_stays (job : WritingJob) (result : AIResult) (injectionDetected : Bool) :
    (observer settings).Follows (Stays settings (.started job)) (.started job)
      (persist job result injectionDetected).run := by
  refine Stays.andThen (Stays.attempted (stays_supabase rfl rfl)) fun _ => ?_
  refine Stays.andThen (Stays.attempted ?_) fun _ => ?_
  · refine ⟨.persist job result, fun reply => ?_⟩
    rcases reply with (_ | _ | _) | _ <;> rfl
  · refine Stays.andThen (Stays.catching (stays_supabase rfl rfl) (stays_pure ())) fun _ => ?_
    exact Stays.attempted (stays_supabase rfl rfl)

private theorem improve_stays (settings : Settings) (job : WritingJob)
    (history : List (Role × MessageContent)) (profile : List String) :
    (observer settings).Follows (Stays settings (.started job)) (.started job)
      (improve settings job history profile).run := by
  have finish (result : AIResult) (injectionDetected : Bool) :
      (observer settings).Follows (Stays settings (.started job)) (.started job)
        (do publishStage job "finalizing"
            persist job result injectionDetected
            return result : Async AIResult).run :=
    Stays.andThen (stays_redis rfl rfl) fun _ => Stays.andThen (persist_stays job result _) fun _ => stays_pure result
  refine Stays.andThen (stays_model rfl _) ?_
  rintro ⟨draft, injectionDetected⟩
  cases critiques : settings.enableCritiquePipeline with
  | false => exact finish draft injectionDetected
  | true =>
    refine Stays.andThen (stays_redis rfl rfl) fun _ => ?_
    refine Stays.andThen ?_ fun result => finish result injectionDetected
    exact Stays.catching (stays_model rfl (.critique draft job)) (stays_pure draft)

private theorem processJob_stays (settings : Settings) (job : WritingJob) :
    (observer settings).Follows (Stays settings (.started job)) (.started job)
      (processJob settings job).run := by
  refine Stays.andThen (Stays.attempted (stays_supabase rfl rfl)) fun _ => ?_
  refine Stays.andThen (Stays.catching (stays_supabase rfl rfl) (stays_pure [])) fun history => ?_
  refine Stays.andThen (Stays.catching (stays_supabase rfl rfl) (stays_pure [])) fun profile => ?_
  split
  · exact stays_pure _
  · refine Stays.andThen (stays_redis rfl rfl) fun _ => ?_
    split
    · rfl
    · exact improve_stays settings job history profile

theorem dispatchJob_stays (settings : Settings) (job : WritingJob) :
    (observer settings).Follows (Stays settings (.started job)) (.started job)
      (dispatchJob settings job).run := by
  unfold dispatchJob
  split
  · exact processJob_stays settings job
  · rfl

/-- Where a failed `try` block leaves the worker: cancelled, or with the job in hand. -/
def Fails (job : WritingJob) (failure : Failure) (stage : Stage) : Prop :=
  (failure = .cancelled ∧ stage = .free) ∨ (failure ≠ .cancelled ∧ InHand job stage)

private theorem fails_lost (inHand : InHand job stage) (failure : Failure) :
    Fails job failure (stage.lost failure) := by
  cases failure with
  | cancelled => exact .inl ⟨rfl, rfl⟩
  | raised _ | timedOut => exact .inr ⟨nofun, inHand⟩

theorem waitForDispatch_follows (settings : Settings) (job : WritingJob) :
    (observer settings).Follows
      (@Observer.ending _ _ (observer settings) _ _ (fun result phase => phase = .drafted job result)
        (Fails job)) (.holds job) (waitForDispatch settings job).run := by
  refine ⟨.dispatch job, fun reply => ?_⟩
  rcases reply with (_ | _ | _) | _
  · exact .inr ⟨nofun, .started⟩
  · exact .inr ⟨nofun, .started⟩
  · exact .inl ⟨rfl, rfl⟩
  · refine Stays.before (dispatchJob_stays settings job) (fails_lost .started) fun result => ?_
    refine ⟨.dispatched job result, fun reply => ?_⟩
    rcases reply with (_ | _ | _) | _
    · exact .inr ⟨nofun, .started⟩
    · exact .inr ⟨nofun, .started⟩
    · exact .inl ⟨rfl, rfl⟩
    · rfl

/-- A procedure of commands that are apart keeps a worker without a job free. -/
theorem free_follows {program : Async α}
    (every : Every (fun command => apart command = true) program.run) :
    (observer settings).Follows (fun _ phase => phase = .free) .free program.run :=
  Observer.follows_of_every (observer settings) Stage.free (fun _ => .aside)
    (fun _ reply isApart => moved_apart .free isApart reply) every

/-- Once the job is out of hand, only a cancellation ends the round early. -/
theorem tolerating_follows {body : Async Unit}
    (every : Every (fun command => apart command = true) body.run) :
    (observer settings).Follows
      (@Observer.ending _ _ (observer settings) _ _ (fun _ phase => phase = .free) (Fails job))
      .free (tolerating body).run := by
  refine Observer.Follows.bind (free_follows every) ?_
  rintro ((_ | _ | _) | _) phase rfl
  · rfl
  · rfl
  · exact .inl ⟨rfl, rfl⟩
  · rfl

private theorem complete_follows (settings : Settings) (job : WritingJob) (result : AIResult) :
    (observer settings).Follows
      (@Observer.ending _ _ (observer settings) _ _ (fun _ phase => phase = .free) (Fails job))
      (.drafted job result) (complete job result).run := by
  refine ⟨.complete job result, fun reply => ?_⟩
  rcases reply with (_ | _ | _) | _
  · exact .inr ⟨nofun, .started⟩
  · exact .inr ⟨nofun, .started⟩
  · exact .inl ⟨rfl, rfl⟩
  refine ⟨.publish job result, fun reply => ?_⟩
  rcases reply with (_ | _ | _) | _
  · exact .inr ⟨nofun, .started⟩
  · exact .inr ⟨nofun, .started⟩
  · exact .inl ⟨rfl, rfl⟩
  refine ⟨.keep job result, fun reply => ?_⟩
  rcases reply with (_ | _ | _) | _
  · exact .inr ⟨nofun, .started⟩
  · exact .inr ⟨nofun, .started⟩
  · exact .inl ⟨rfl, rfl⟩
  exact tolerating_follows (Every.andThen ⟨rfl, fun _ => trivial⟩ fun _ => ⟨rfl, fun _ => trivial⟩)

theorem giveUp_follows (settings : Settings) (inHand : InHand job stage) (error : String) :
    (observer settings).Follows (fun _ phase => phase = .free) stage
      (giveUp job.failedOnce error).run := by
  have reports : (observer settings).Follows (fun _ phase => phase = .free) (.gaveUp job)
      (publishResult job.id (.failure error)).run := by
    refine ⟨.report job error, fun reply => ?_⟩
    rcases reply with (_ | _ | _) | _
    · rfl
    · rfl
    · rfl
    refine ⟨.keepReport job, fun reply => ?_⟩
    rcases reply with (_ | _ | _) | _ <;> rfl
  have rests : Every (fun command => apart command = true) (do
      tolerating (supabase (.updateJobStatus job.id .failed none (some (truncated error))))
      tolerating do
        let now ← time
        redis (.zaddDead ⟨job.failedOnce, now, truncated error⟩ now)
        redis (.expireDead (7 * 24 * 3600)) : Async Unit).run := by
    refine .andThen (.rescue ⟨rfl, fun _ => trivial⟩ ?_) fun _ => .rescue ⟨rfl, fun _ => ?_⟩ ?_
    · rintro (_ | _ | _) <;> trivial
    · exact .andThen ⟨rfl, fun _ => trivial⟩ fun _ => ⟨rfl, fun _ => trivial⟩
    · rintro (_ | _ | _) <;> trivial
  have reported : (observer settings).Follows (fun _ phase => phase = .free) (.gaveUp job) (do
      publishResult job.id (.failure error)
      tolerating (supabase (.updateJobStatus job.id .failed none (some (truncated error))))
      tolerating do
        let now ← time
        redis (.zaddDead ⟨job.failedOnce, now, truncated error⟩ now)
        redis (.expireDead (7 * 24 * 3600)) : Async Unit).run := by
    refine Observer.Follows.bind reports ?_
    rintro (_ | _) phase rfl
    · rfl
    · exact free_follows rests
  refine ⟨.giveUp inHand _, fun reply => ?_⟩
  cases inHand <;> rcases reply with (_ | _ | _) | _ <;> first | rfl | exact reported

theorem retryLater_follows (settings : Settings) (inHand : InHand job stage)
    (left : job.failedOnce.attempt < settings.jobMaxRetries) (error : String) :
    (observer settings).Follows (fun _ phase => phase = .free) stage
      (retryLater job.failedOnce error).run := by
  have rests : Every (fun command => apart command = true)
      (tolerating (supabase (.updateJobStatus job.id .retrying none
        (some (truncated error))))).run := by
    refine .rescue ⟨rfl, fun _ => trivial⟩ ?_
    rintro (_ | _ | _) <;> trivial
  have requeues (score : Nat) : (observer settings).Follows (fun _ phase => phase = .free) stage (do
      redis (.zadd (.requeued job.failedOnce) score)
      tolerating (supabase (.updateJobStatus job.id .retrying none (some (truncated error))))
        : Async Unit).run := by
    refine ⟨.requeue inHand left score, fun reply => ?_⟩
    cases inHand <;> rcases reply with (_ | _ | _) | _ <;> first | rfl | exact free_follows rests
  refine ⟨.aside rfl, fun now => ?_⟩
  rw [show (observer settings).advance stage .time now = stage by cases inHand <;> rfl]
  refine ⟨.retry inHand _, fun reply => ?_⟩
  have written := requeues (now + 1000 * 2 ^ (job.failedOnce.attempt - 1).toNat)
  cases inHand <;> rcases reply with (_ | _ | _) | _ <;> first | rfl | exact written

theorem handleFailure_follows (settings : Settings) (inHand : InHand job stage) (error : String) :
    (observer settings).Follows (fun _ phase => phase = .free) stage
      (handleFailure settings job error).run := by
  unfold handleFailure
  split
  · exact giveUp_follows settings inHand error
  · exact retryLater_follows settings inHand (by omega) error

theorem attemptJob_follows (settings : Settings) (job : WritingJob) :
    (observer settings).Follows (fun _ phase => phase = .free) (.holds job)
      (attemptJob settings job).run := by
  have body : (observer settings).Follows
      (@Observer.ending _ _ (observer settings) _ _ (fun _ phase => phase = .free) (Fails job))
      (.holds job) (do
        setJobStatus job.id .processing none
        let result ← waitForDispatch settings job
        complete job result : Async Unit).run := by
    refine ⟨.process job, fun reply => ?_⟩
    rcases reply with (_ | _ | _) | _
    · exact .inr ⟨nofun, .holds⟩
    · exact .inr ⟨nofun, .holds⟩
    · exact .inl ⟨rfl, rfl⟩
    refine Observer.Follows.andThen (waitForDispatch_follows settings job) ?_
    rintro result phase rfl
    exact complete_follows settings job result
  refine Observer.Follows.rescue body ?_
  rintro failure phase (⟨rfl, rfl⟩ | ⟨caught, inHand⟩)
  · rfl
  · cases failure with
    | cancelled => exact absurd rfl caught
    | timedOut => exact handleFailure_follows settings inHand _
    | raised error => exact handleFailure_follows settings inHand error

theorem processJobSafe_follows (settings : Settings) (workerId : String) (job : WritingJob) :
    (observer settings).Follows (fun _ phase => phase = .free) (.holds job)
      (processJobSafe settings workerId job).run := by
  refine ⟨.aside rfl, fun now => ⟨.lock job _ _, fun reply => ?_⟩⟩
  rcases reply with (_ | _ | _) | _ | _
  · rfl
  · rfl
  · rfl
  · rfl
  refine Observer.Follows.ensuring (attemptJob_follows settings job) ?_
  rintro phase rfl
  refine free_follows (.andThen ⟨rfl, fun _ => trivial⟩ fun current => ?_)
  split
  · exact ⟨rfl, fun _ => trivial⟩
  · trivial

theorem consumeJob_follows (settings : Settings) (workerId : String) :
    (observer settings).Follows (fun _ phase => phase = .free) .free
      (consumeJob settings workerId).run := by
  refine ⟨.aside rfl, fun now => ⟨.pop now, fun reply => ?_⟩⟩
  rcases reply with failure | _ | member
  · rfl
  · rfl
  change (observer settings).Follows _ ((member.job?.map Stage.holds).getD .free)
    (consumeParsed settings workerId member.job?).run
  cases member.job? with
  | none => rfl
  | some job =>
    refine ⟨.slot job, fun reply => ?_⟩
    rcases reply with (_ | _ | _) | _
    · rfl
    · rfl
    · rfl
    exact processJobSafe_follows settings workerId job

theorem enqueue_follows (settings : Settings) (payload : WritingJobPayload) :
    (observer settings).Follows (fun _ phase => phase = .free) .free
      (enqueueWriteRightJob payload).run := by
  refine ⟨.circuit rfl, fun isOpen => ?_⟩
  cases isOpen with
  | true => rfl
  | false =>
    refine ⟨.aside rfl, fun now => ⟨.enqueue payload now, fun _ => ?_⟩⟩
    exact ⟨.pend payload.id _ rfl, fun _ => ⟨.aside rfl, fun _ => rfl⟩⟩

end Workers

section Readers

variable {settings : Settings} {stage : Stage}

/-- A reader has no job in hand, and what it reports for the result of a completed job is
what it was told. -/
def Reports (jobId : String) (claims : Option ResultData → Prop) (stage : Stage) : Prop :=
  stage.job? = none ∧ ∀ result, claims result → stage = .told jobId result

theorem Reports.silent {jobId : String} {claims : Option ResultData → Prop}
    (idle : stage.job? = none) (none_ : ∀ result, ¬ claims result) : Reports jobId claims stage :=
  ⟨idle, fun result claimed => absurd claimed (none_ result)⟩

theorem advance_idle (idle : stage.job? = none) (command : Command) (reply : command.Reply) :
    stage.advance command reply = stage.moved command reply := by
  simp [advance, idle]

private theorem fetch_follows (settings : Settings) (jobId : String) :
    (observer settings).Follows
      (@Observer.ending _ _ (observer settings) _ _ (fun result => (· = .told jobId result))
        fun _ phase => phase.job? = none) (.saw jobId) (readJobResult jobId).run := by
  refine ⟨.circuit rfl, fun isOpen => ?_⟩
  cases isOpen with
  | true => rfl
  | false =>
    refine ⟨.fetch jobId, fun reply => ?_⟩
    cases reply <;> rfl

private theorem fetchRow_follows (settings : Settings) (jobId : String) (output : ResultData) :
    (observer settings).Follows
      (@Observer.ending _ _ (observer settings) _ _
        (fun result => (· = .told jobId (result <|> some output))) fun _ _ => False)
      (.fell jobId output) (readJobResultOrNull jobId).run := by
  refine ⟨.circuit rfl, fun isOpen => ?_⟩
  cases isOpen with
  | true => rfl
  | false =>
    refine ⟨.fetchRow jobId output, fun reply => ?_⟩
    cases reply <;> rfl

/-- A reader whose body failed goes on from whatever it had been told. -/
theorem rescued {α : Type} {body fallback : Async α} {ends : Except Failure α → Stage → Prop}
    (first : (observer settings).Follows
      (@Observer.ending _ _ (observer settings) _ _ (fun value => ends (.ok value))
        fun _ phase => phase.job? = none) stage body.run)
    (rest : ∀ phase, phase.job? = none → (observer settings).Follows ends phase fallback.run) :
    (observer settings).Follows ends stage (rescue body fun _ => fallback).run :=
  Observer.Follows.rescue first fun _ => rest

/-- Where `getJobStatus` leaves a reader. -/
def looked (jobId : String) (status : Option JobStatusPayload) : Stage :=
  if status.map JobStatusPayload.status = some .completed then .saw jobId else .free

private theorem looked_idle (jobId : String) (status : Option JobStatusPayload) :
    (looked jobId status).job? = none := by
  unfold looked
  split <;> rfl

private theorem getJobStatus_follows (settings : Settings) (idle : stage.job? = none)
    (jobId : String) :
    (observer settings).Follows
      (@Observer.ending _ _ (observer settings) _ _ (fun status => (· = looked jobId status))
        fun _ phase => phase = .free) stage (getJobStatus jobId).run := by
  refine ⟨.look idle jobId, fun reply => ?_⟩
  rw [show (observer settings).advance stage _ reply = _ from advance_idle idle _ reply]
  rcases reply with failure | _ | hash
  · rfl
  · rfl
  · change (if hash.status = some .completed then Stage.saw jobId else .free) =
      if some (hash.status.getD .pending) = some .completed then Stage.saw jobId else .free
    cases hash.status with
    | none => rfl
    | some status => rfl

private theorem getJobStatus_before {α : Type} {next : Option JobStatusPayload → Async α}
    {ends : Except Failure α → Stage → Prop} (idle : stage.job? = none) (jobId : String)
    (fails : ∀ failure, ends (.error failure) .free)
    (rest : ∀ status, (observer settings).Follows ends (looked jobId status) (next status).run) :
    (observer settings).Follows ends stage (getJobStatus jobId >>= next).run := by
  refine Observer.Follows.bind (getJobStatus_follows settings idle jobId) ?_
  rintro (failure | status) phase rfl
  · exact fails failure
  · exact rest status

private theorem pollRedis_follows (settings : Settings) (userId jobId : String) :
    (observer settings).Follows
      (fun value => Reports jobId fun result => value = .ok (some (.completed result)))
      .free (pollRedis userId jobId).run := by
  have unanswered {stage : Stage} (idle : stage.job? = none) {reply : Option JobReply}
      (other : ∀ result, reply ≠ some (.completed result)) :
      Reports jobId (fun result => (.ok reply : Except Failure (Option JobReply)) =
        .ok (some (.completed result))) stage :=
    .silent idle fun result same => other result (Except.ok.inj same)
  refine rescued (getJobStatus_before rfl jobId (fun _ => rfl) fun status => ?_) ?_
  · rcases status with _ | status
    · exact .returns <| unanswered rfl (by simp)
    have idle := looked_idle jobId (some status)
    dsimp only
    split
    · exact .returns <| unanswered idle (by simp)
    · split
      · rename_i completed
        rw [show looked jobId (some status) = .saw jobId by simp [looked, completed]]
        refine Observer.Follows.andThen (fetch_follows settings jobId) ?_
        rintro result phase rfl
        exact ⟨rfl, fun other same => by cases same; rfl⟩
      · exact .returns <| unanswered idle (by simp)
      · exact .returns <| unanswered idle (by simp)
  · intro phase idle
    exact .returns <| unanswered idle (by simp)

/-- Where the select of the Supabase path leaves a reader. -/
def lookedRow (jobId : String) : Option JobRow → Stage
  | some row => if row.status = .completed then .fell jobId row.output else .free
  | none => .free

private theorem lookedRow_idle (jobId : String) (row : Option JobRow) :
    (lookedRow jobId row).job? = none := by
  cases row with
  | none => rfl
  | some row =>
    simp only [lookedRow]
    split <;> rfl

private theorem selectJob_before {α : Type} {next : Option JobRow → Async α}
    {ends : Except Failure α → Stage → Prop} (idle : stage.job? = none) (userId jobId : String)
    (rest : ∀ row, (observer settings).Follows ends (lookedRow jobId row) (next row).run) :
    (observer settings).Follows ends stage
      (rescue (supabase (.selectJob jobId userId)) (fun _ => pure none) >>= next).run := by
  refine ⟨.lookRow idle jobId userId, fun reply => ?_⟩
  rw [show (observer settings).advance stage _ reply = _ from advance_idle idle _ reply]
  rcases reply with failure | _ | row
  · exact rest none
  · exact rest none
  · exact rest (some row)

private theorem fetchRow_before {α : Type} {next : Option ResultData → Async α}
    {ends : Except Failure α → Stage → Prop} (jobId : String) (output : ResultData)
    (rest : ∀ result, (observer settings).Follows ends (.told jobId (result <|> some output))
      (next result).run) :
    (observer settings).Follows ends (.fell jobId output) (readJobResultOrNull jobId >>= next).run := by
  refine Observer.Follows.bind (fetchRow_follows settings jobId output) ?_
  rintro (failure | result) phase ended
  · exact ended.elim
  · rw [ended]
    exact rest result

private theorem pollSupabase_follows (settings : Settings) (idle : stage.job? = none)
    (userId jobId : String) :
    (observer settings).Follows
      (fun value => Reports jobId fun result => value = .ok (.completed result))
      stage (pollSupabase userId jobId).run := by
  have other {stage : Stage} (idle : stage.job? = none) {reply : JobReply}
      (different : ∀ result, reply ≠ .completed result) :
      Reports jobId (fun result => (.ok reply : Except Failure JobReply) =
        .ok (.completed result)) stage :=
    .silent idle fun result same => different result (Except.ok.inj same)
  refine selectJob_before idle userId jobId fun row => ?_
  have idle := lookedRow_idle jobId row
  rcases row with _ | row
  · exact .returns <| other idle (by simp)
  · dsimp only
    split
    · rename_i completed
      rw [show lookedRow jobId (some row) = .fell jobId row.output by simp [lookedRow, completed]]
      refine fetchRow_before jobId row.output fun result => .returns ⟨rfl, ?_⟩
      intro _ same
      rw [JobReply.completed.inj (Except.ok.inj same)]
    · exact .returns <| other idle (by simp)
    · exact .returns <| other idle (by simp)

private theorem pollJob_follows (settings : Settings) (userId : Option String) (jobId : String) :
    (observer settings).Follows
      (fun value => Reports jobId fun result => value = .ok (.completed result))
      .free (pollJob userId jobId).run := by
  have refused (code : ErrorCode) (message : String) :
      Reports jobId (fun result => (.ok (.refused code message) : Except Failure JobReply) =
        .ok (.completed result)) .free :=
    .silent rfl fun result same => by cases same
  unfold pollJob
  split
  · exact .returns <| refused _ _
  · split
    · refine Observer.Follows.bind (pollRedis_follows settings _ jobId) ?_
      rintro (failure | _ | reply) phase ⟨idle, tells⟩
      · exact .silent idle fun result same => by cases same
      · exact pollSupabase_follows settings idle _ jobId
      · refine .returns ⟨idle, fun result same => tells result ?_⟩
        rw [Except.ok.inj same]
    · exact .returns <| refused _ _

/-- What a stream has sent; a status event claims nothing about the result. -/
def Claims (sent : List StreamEvent) (result : Option ResultData) : Prop :=
  StreamEvent.result result ∈ sent

theorem not_claims_statusEvent (last : Option Status) (status : Status)
    (result : Option ResultData) : ¬ Claims (statusEvent last status) result := by
  unfold statusEvent Claims
  split <;> simp

theorem Reports.sentOnly {jobId : String} {last : Option Status} {status : Status}
    {events : List StreamEvent} (idle : stage.job? = none)
    (quiet : ∀ result, ¬ Claims events result) :
    Reports jobId (Claims (statusEvent last status ++ events)) stage := by
  refine .silent idle fun result claimed => ?_
  rcases List.mem_append.mp claimed with sent | later
  · exact not_claims_statusEvent last status result sent
  · exact quiet result later

theorem Reports.sentResult {jobId : String} {last : Option Status} {status : Status}
    (result : Option ResultData) :
    Reports jobId (Claims (statusEvent last status ++ [.result result])) (.told jobId result) := by
  refine ⟨rfl, fun other claimed => ?_⟩
  rcases List.mem_append.mp claimed with sent | later
  · exact absurd sent (not_claims_statusEvent last status other)
  · rw [show other = result by simpa using later]

private theorem getJobStatusOrNull_before {α : Type} {next : Option JobStatusPayload → Async α}
    {ends : Except Failure α → Stage → Prop} (idle : stage.job? = none) (jobId : String)
    (rest : ∀ status, (observer settings).Follows ends (looked jobId status) (next status).run) :
    (observer settings).Follows ends stage
      (rescue (getJobStatus jobId) (fun _ => pure none) >>= next).run := by
  have tried : (observer settings).Follows
      (@Observer.ending _ _ (observer settings) _ _ (fun status => (· = looked jobId status))
        fun _ _ => False) stage (rescue (getJobStatus jobId) fun _ => pure none).run := by
    refine Observer.Follows.rescue (getJobStatus_follows settings idle jobId) ?_
    rintro failure phase rfl
    rfl
  refine Observer.Follows.bind tried ?_
  rintro (failure | status) phase ended
  · exact ended.elim
  · rw [ended]
    exact rest status

theorem circuit_idle (idle : stage.job? = none) (isOpen : Bool) :
    (stage.advance .isCircuitOpen isOpen).job? = none := by
  rw [advance_idle idle]
  cases stage <;> cases isOpen <;> first | rfl | cases idle

/-- What a round leaves a reader with. Only a round that leaves the loop sends a result. -/
structure RoundReports (jobId : String) (round : Round) (stage : Stage) : Prop where
  reports : Reports jobId (Claims round.sent) stage
  quiet : round.done = false → ∀ result, ¬ Claims round.sent result

theorem RoundReports.of_quiet {jobId : String} {round : Round} (idle : stage.job? = none)
    (quiet : ∀ result, ¬ Claims round.sent result) : RoundReports jobId round stage :=
  ⟨.silent idle quiet, fun _ => quiet⟩

/-- What the Redis part of a round leaves a reader with. -/
def RoundEnds (jobId : String) (round : Option Round) (stage : Stage) : Prop :=
  stage.job? = none ∧ ∀ ended, round = some ended → RoundReports jobId ended stage

theorem RoundReports.ends {jobId : String} {round : Round}
    (reports : RoundReports jobId round stage) : RoundEnds jobId (some round) stage := by
  refine ⟨reports.reports.1, ?_⟩
  rintro ended same
  cases same
  exact reports

private theorem streamRedis_follows (settings : Settings) (idle : stage.job? = none)
    (userId jobId : String) (last : Option Status) :
    (observer settings).Follows
      (@Observer.ending _ _ (observer settings) _ _ (RoundEnds jobId) fun _ phase =>
        phase.job? = none) stage (streamRedis userId jobId last).run := by
  have skipped {stage : Stage} (idle : stage.job? = none) : RoundEnds jobId none stage :=
    ⟨idle, by simp⟩
  refine ⟨.circuit idle, fun isOpen => ?_⟩
  have idle := circuit_idle idle isOpen
  cases isOpen with
  | true => exact .returns <| skipped idle
  | false =>
    refine getJobStatusOrNull_before idle jobId fun status => ?_
    have idle := looked_idle jobId status
    rcases status with _ | status
    · exact .returns <| skipped idle
    dsimp only
    split
    · exact .returns <| RoundReports.ends <| .of_quiet idle (by simp [Claims])
    · split
      · rename_i completed
        rw [show looked jobId (some status) = .saw jobId by simp [looked, completed]]
        refine rescued (Observer.Follows.andThen (fetch_follows settings jobId) ?_) ?_
        · rintro result phase rfl
          exact .returns <| RoundReports.ends ⟨.sentResult result, by simp⟩
        · intro phase idle
          exact .returns <| RoundReports.ends <| .of_quiet idle (not_claims_statusEvent last _)
      · exact .returns <| RoundReports.ends ⟨.sentOnly idle (by simp [Claims]), by simp⟩
      · exact .returns <| RoundReports.ends <| .of_quiet idle (not_claims_statusEvent last _)

private theorem streamSupabase_follows (settings : Settings) (idle : stage.job? = none)
    (userId jobId : String) (last : Option Status) :
    (observer settings).Follows
      (@Observer.ending _ _ (observer settings) _ _ (RoundReports jobId) fun _ phase =>
        phase.job? = none) stage (streamSupabase userId jobId last).run := by
  refine selectJob_before idle userId jobId fun row => ?_
  have idle := lookedRow_idle jobId row
  rcases row with _ | row
  · exact .returns <| .of_quiet idle (by simp [Claims])
  · dsimp only
    split
    · rename_i completed
      rw [show lookedRow jobId (some row) = .fell jobId row.output by simp [lookedRow, completed]]
      exact fetchRow_before jobId row.output fun result => .returns ⟨.sentResult _, by simp⟩
    · exact .returns ⟨.sentOnly idle (by simp [Claims]), by simp⟩
    · exact .returns <| .of_quiet idle (not_claims_statusEvent last _)

private theorem time_before {α : Type} {next : Nat → Async α}
    {ends : Except Failure α → Stage → Prop}
    (idle : stage.job? = none)
    (rest : ∀ now, (observer settings).Follows ends stage (next now).run) :
    (observer settings).Follows ends stage (time >>= next).run := by
  refine ⟨.aside rfl, fun now => ?_⟩
  rw [show (observer settings).advance stage _ now = _ from advance_idle idle _ now]
  exact rest now

private theorem streamRound_follows (settings : Settings) (idle : stage.job? = none)
    (userId jobId : String) (last : Option Status) :
    (observer settings).Follows
      (@Observer.ending _ _ (observer settings) _ _ (RoundReports jobId) fun _ phase =>
        phase.job? = none) stage (streamRound userId jobId last).run := by
  refine Observer.Follows.bind (streamRedis_follows settings idle userId jobId last) ?_
  rintro (failure | _ | round) phase ended
  · exact ended
  · exact streamSupabase_follows settings ended.1 userId jobId last
  · exact .returns <| ended.2 round rfl

private theorem streamRounds_follows (settings : Settings) (userId jobId : String)
    (start rounds : Nat)
    (last : Option Status) (idle : stage.job? = none) :
    (observer settings).Follows
      (@Observer.ending _ _ (observer settings) _ _ (fun sent => Reports jobId (Claims sent))
        fun _ phase => phase.job? = none) stage
      (streamRounds userId jobId start rounds last).run := by
  induction rounds generalizing stage last with
  | zero => exact .returns <| .silent idle (by simp [Claims])
  | succ rounds ih =>
    refine time_before idle fun now => ?_
    split
    · exact .returns <| .silent idle (by simp [Claims])
    · refine Observer.Follows.andThen (streamRound_follows settings idle userId jobId last) ?_
      intro round phase ended
      split
      · exact .returns ended.reports
      · rename_i going
        refine Observer.Follows.andThen (ih round.lastStatus ended.reports.1) ?_
        rintro later phase ⟨idle, tells⟩
        refine .returns ⟨idle, fun result claimed => ?_⟩
        rcases List.mem_append.mp claimed with earlier | later
        · exact absurd earlier (ended.quiet (by simpa using going) result)
        · exact tells result later

private theorem streamTimeout_follows (settings : Settings) (jobId : String) (start : Nat)
    (idle : stage.job? = none) :
    (observer settings).Follows (fun value phase => phase = stage ∧
      ∀ sent, value = .ok sent → ∀ result, ¬ Claims sent result) stage
      (streamTimeout jobId start).run := by
  refine time_before idle fun now => ?_
  split
  · refine ⟨.aside rfl, fun reply => ?_⟩
    rw [show (observer settings).advance stage _ reply = _ from advance_idle idle _ reply]
    cases reply <;>
      exact ⟨rfl, fun sent same result claimed => by cases same; simp [Claims] at claimed⟩
  · exact ⟨rfl, fun sent same result claimed => by cases same; simp [Claims] at claimed⟩

/-- What a stream claims, apart from the answer for the pseudo job `cached`. -/
def StreamClaims (jobId : String) (value : Except Failure (List StreamEvent))
    (result : Option ResultData) : Prop :=
  jobId ≠ "cached" ∧ ∃ sent, value = .ok sent ∧ StreamEvent.result result ∈ sent

private theorem streamJob_follows (settings : Settings) (userId : Option String) (jobId : String)
    (rounds : Nat) :
    (observer settings).Follows (fun value => Reports jobId (StreamClaims jobId value)) .free
      (streamJob userId jobId rounds).run := by
  have refused (code : ErrorCode) (message : String) :
      Reports jobId (StreamClaims jobId (.ok [.error code message])) .free := by
    refine .silent rfl ?_
    rintro result ⟨_, sent, same, claimed⟩
    cases same
    simp at claimed
  unfold streamJob
  split
  · exact .returns <| refused _ _
  · split
    · rename_i cached
      exact .returns <| .silent rfl fun _ claimed => claimed.1 cached
    · split
      · refine time_before rfl fun start => ?_
        refine Observer.Follows.bind
          (streamRounds_follows settings _ jobId start rounds none rfl) ?_
        rintro (failure | sent) phase ended
        · exact .silent ended (by rintro result ⟨_, _, same, _⟩; cases same)
        refine Observer.Follows.bind (streamTimeout_follows settings jobId start ended.1) ?_
        rintro (failure | late) phase ⟨rfl, quiet⟩
        · exact .silent ended.1 (by rintro result ⟨_, _, same, _⟩; cases same)
        refine .returns ⟨ended.1, ?_⟩
        rintro result ⟨_, all, same, claimed⟩
        cases same
        rcases List.mem_append.mp claimed with earlier | later
        · exact ended.2 result earlier
        · exact absurd later (quiet late rfl result)
      · exact .returns <| refused _ _

end Readers

/-- How the calls of the clients end. -/
def Ends : (call : Call) → call.Result → Stage → Prop
  | .enqueue _, _ | .consume _, _ | .heartbeat _ _, _ => fun stage => stage = .free
  | .poll _ jobId, value => Reports jobId fun result => value = .ok (.completed result)
  | .stream _ jobId _, value => Reports jobId (StreamClaims jobId value)

theorem idle_of_ends {call : Call} {value : call.Result} {stage : Stage}
    (ended : Ends call value stage) : stage.job? = none := by
  cases call with
  | enqueue _ | consume _ | heartbeat _ _ =>
    rw [show stage = .free from ended]
    rfl
  | poll _ _ | stream _ _ _ => exact ended.1

theorem program_ends (settings : Settings) (call : Call) :
    (observer settings).Follows (Ends call) .free (call.program settings) := by
  cases call with
  | enqueue payload => exact enqueue_follows settings payload
  | consume workerId => exact consumeJob_follows settings workerId
  | heartbeat jobId lockValue => exact free_follows ⟨rfl, fun _ => trivial⟩
  | poll userId jobId => exact pollJob_follows settings userId jobId
  | stream userId jobId rounds => exact streamJob_follows settings userId jobId rounds

theorem program_follows (settings : Settings) (call : Call) :
    (observer settings).Follows (fun _ _ => True) .free (call.program settings) :=
  (program_ends settings call).imp fun _ _ _ => trivial

end Stage

end BrainMate.WriteRight
