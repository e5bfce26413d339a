import BrainMate.WriteRight.Repertoire
import BrainMate.WriteRight.Stages

namespace BrainMate.WriteRight

open Interleaving System Program

/-- How far a worker is in a round with a job. -/
inductive RetryStep where
  | popped
  | locked
  /-- `_dispatch_job` was started. -/
  | running
  /-- The status is `retrying`; the job is about to be put back. -/
  | retrying
  /-- The status is `failed`; the job is about to be put among the dead letters. -/
  | failed
  deriving DecidableEq, Repr

inductive RetryPhase where
  | rest
  | doing (step : RetryStep) (job : WritingJob)
  | strayed (jobId : String)
  deriving DecidableEq, Repr

/-- The call ended with a failure. -/
def isFailure {α : Type} : Except Failure α → Bool
  | .ok _ => false
  | .error _ => true

/-- The answer ends the course of a job that is dispatched in vain and tried again. -/
def spoils : (command : Command) → command.Reply → Bool
  | .dispatched _ _, reply => !isFailure reply || Stage.isCancelled reply
  | .acquireSlot, reply => isFailure reply
  | .redis (.publish _ _), reply => Stage.isCancelled reply
  | .redis (.setLock _ _ _), reply =>
    match reply with
    | .ok true => false
    | _ => true
  | .redis command, reply => @isFailure command.Reply reply
  | command, reply => Stage.cancels command reply

namespace RetryPhase

/-- The job of a worker on the course. -/
def job? : RetryPhase → Option WritingJob
  | .doing _ job => some job
  | .rest | .strayed _ => none

/-- Where an answer that does not spoil the course leaves a worker. -/
def moved (step : RetryStep) (job : WritingJob) : Command → RetryPhase
  | .dispatch _ => .doing .running job
  | .redis (.setLock _ _ _) => .doing .locked job
  | .redis (.setStatus _ fields _) =>
    match fields.status with
    | some .retrying => .doing .retrying job.failedOnce
    | some .failed => .doing .failed job.failedOnce
    | _ => .doing step job
  | .redis (.zadd _ _) | .redis (.zaddDead _ _) => .rest
  | _ => .doing step job

def advance : RetryPhase → (command : Command) → command.Reply → RetryPhase
  | .rest, .redis (.popDue _), reply =>
    match reply with
    | .ok (some member) => (member.job?.map (.doing .popped)).getD .rest
    | _ => .rest
  | .rest, _, _ => .rest
  | .doing step job, command, reply =>
    if spoils command reply then .strayed job.id else moved step job command
  | .strayed jobId, _, _ => .strayed jobId

/-- The command changes nothing about where a job is or how far its worker is with it. -/
def incidental : Command → Bool
  | .dispatch _ => false
  | .redis command =>
    match command with
    | .popDue _ | .zadd _ _ | .zaddDead _ _ | .setStatus _ _ _ | .setLock _ _ _ => false
    | _ => true
  | _ => true

/-- The job that a command dispatches, puts somewhere or gives a status. -/
def subject? : Command → Option String
  | .dispatch job => some job.id
  | .redis (.zadd (.requeued job) _) => some job.id
  | .redis (.zaddDead entry _) => some entry.job.id
  | .redis (.setStatus jobId _ _) => some jobId
  | _ => none

inductive Allowed (settings : Settings) : RetryPhase → Command → Prop where
  | incidental {phase : RetryPhase} {command : Command} (aside : incidental command = true) :
      Allowed settings phase command
  | enqueue (payload : WritingJobPayload) (score : Nat) :
      Allowed settings .rest (.redis (.zadd (.enqueued payload) score))
  | pop (now : Nat) : Allowed settings .rest (.redis (.popDue now))
  | lock (job : WritingJob) (value : String) (ttlSecs : Nat) :
      Allowed settings (.doing .popped job) (.redis (.setLock job.id value ttlSecs))
  | process (job : WritingJob) :
      Allowed settings (.doing .locked job)
        (.redis (.setStatus job.id { status := some .processing } statusTtlSecs))
  | dispatch (job : WritingJob) : Allowed settings (.doing .locked job) (.dispatch job)
  | retry (job : WritingJob) (left : job.failedOnce.attempt < settings.jobMaxRetries)
      (error : Option String) :
      Allowed settings (.doing .running job)
        (.redis (.setStatus job.id { status := some .retrying, error := error } statusTtlSecs))
  | requeue (job : WritingJob) (score : Nat) :
      Allowed settings (.doing .retrying job) (.redis (.zadd (.requeued job) score))
  | giveUp (job : WritingJob) (spent : settings.jobMaxRetries ≤ job.failedOnce.attempt)
      (error : Option String) :
      Allowed settings (.doing .running job)
        (.redis (.setStatus job.id { status := some .failed, error := error } statusTtlSecs))
  | bury (entry : DeadEntry) (score : Nat) :
      Allowed settings (.doing .failed entry.job) (.redis (.zaddDead entry score))
  | astray {jobId : String} {command : Command} (own : subject? command = some jobId) :
      Allowed settings (.strayed jobId) command

@[reducible] def observer (settings : Settings) : Observer Command Command.Reply :=
  ⟨RetryPhase, .rest, advance, Allowed settings⟩

section Strayed

variable {settings : Settings} {job : WritingJob} {jobId : String} {α : Type}

/-- The command is about this job, if it is about any. -/
def Concerns (jobId : String) (command : Command) : Prop :=
  incidental command = true ∨ subject? command = some jobId

private theorem strayed_follows {program : Program Command Command.Reply α}
    (every : program.Every (Concerns jobId)) :
    (observer settings).Follows (fun _ phase => phase = .strayed jobId) (.strayed jobId) program := by
  apply Observer.follows_of_every (observer settings) (RetryPhase.strayed jobId) ?_ ?_ every
  · intro command concerns
    rcases concerns with aside | own
    · exact .incidental aside
    · exact .astray own
  · exact fun _ _ _ => rfl

private theorem rest_follows {program : Program Command Command.Reply α}
    (every : program.Every fun command => incidental command = true) :
    (observer settings).Follows (fun _ phase => phase = .rest) .rest program := by
  apply Observer.follows_of_every (observer settings) RetryPhase.rest ?_ ?_ every
  · exact fun command aside => .incidental aside
  · intro command reply aside
    cases command with
    | redis command => cases command <;> first | rfl | cases aside
    | _ => rfl

private theorem incidental_of_asks {command : Command} (asking : asks command = true) :
    incidental command = true := by
  cases command with
  | redis command => cases command <;> first | rfl | cases asking
  | dispatch => cases asking
  | _ => rfl

private theorem incidental_of_reads {command : Command} (reading : reads command = true) :
    incidental command = true := by
  cases command with
  | redis command => cases command <;> first | rfl | cases reading
  | dispatch => cases reading
  | _ => rfl

private theorem concerns_complete (result : AIResult) :
    Every (Concerns job.id) (complete job result).run := by
  refine Every.andThen ⟨.inr rfl, fun _ => trivial⟩ fun _ => ?_
  refine Every.andThen (Every.andThen ⟨.inl rfl, fun _ => trivial⟩ fun _ =>
    ⟨.inl rfl, fun _ => trivial⟩) fun _ => every_tolerating ?_
  exact Every.andThen ⟨.inl rfl, fun _ => trivial⟩ fun _ => ⟨.inl rfl, fun _ => trivial⟩

/-- What `giveUp` does once the status is written. -/
theorem concerns_report (job : WritingJob) (error : String) :
    Every (Concerns job.id) (do
      publishResult job.id (.failure error)
      tolerating (supabase (.updateJobStatus job.id .failed none (some (truncated error))))
      tolerating do
        let now ← time
        redis (.zaddDead ⟨job, now, truncated error⟩ now)
        redis (.expireDead (7 * 24 * 3600)) : Async Unit).run := by
  refine Every.andThen (Every.andThen ⟨.inl rfl, fun _ => trivial⟩ fun _ =>
    ⟨.inl rfl, fun _ => trivial⟩) fun _ => ?_
  refine Every.andThen (every_tolerating ⟨.inl rfl, fun _ => trivial⟩) fun _ => every_tolerating ?_
  refine Every.andThen ⟨.inl rfl, fun _ => trivial⟩ fun _ => ?_
  exact Every.andThen ⟨.inr rfl, fun _ => trivial⟩ fun _ => ⟨.inl rfl, fun _ => trivial⟩

private theorem concerns_handleFailure (error : String) :
    Every (Concerns job.id) (handleFailure settings job error).run := by
  unfold handleFailure
  split
  · exact Every.andThen ⟨.inr rfl, fun _ => trivial⟩ fun _ => concerns_report job.failedOnce error
  · refine Every.andThen ⟨.inl rfl, fun _ => trivial⟩ fun _ => ?_
    refine Every.andThen ⟨.inr rfl, fun _ => trivial⟩ fun _ => ?_
    refine Every.andThen ⟨.inr rfl, fun _ => trivial⟩ fun _ => ?_
    exact every_tolerating ⟨.inl rfl, fun _ => trivial⟩

private theorem incidental_releaseLock (jobId lockValue : String) :
    Every (fun command => incidental command = true) (releaseLock jobId lockValue).run := by
  refine Every.andThen ⟨rfl, fun _ => trivial⟩ fun current => ?_
  split
  · exact ⟨rfl, fun _ => trivial⟩
  · trivial

end Strayed

section Course

variable (settings : Settings) (job : WritingJob)

/-- Where a `try` block that fails leaves a worker. -/
def Broken (job : WritingJob) (failure : Failure) (phase : RetryPhase) : Prop :=
  phase = .strayed job.id ∨ (failure ≠ .cancelled ∧ phase = .doing .running job)

/-- The worker has nothing more to do with the job that counts. -/
def Over (jobId : String) (phase : RetryPhase) : Prop := phase = .rest ∨ phase = .strayed jobId

private theorem stage_of_asks {command : Command} (asking : asks command = true)
    (reply : command.Reply) :
    (Stage.started job).advance command reply =
      if Stage.cancels command reply then .free else .started job := by
  have kept : (Stage.started job).moved command reply = .started job := by
    cases command with
    | redis command => cases command <;> first | rfl | cases asking
    | supabase command => cases command <;> first | rfl | cases asking
    | model => rfl
    | _ => cases asking
  simp [Stage.advance, Stage.job?, kept]

private theorem phase_of_asks {command : Command} (asking : asks command = true)
    (reply : command.Reply) :
    (RetryPhase.doing .running job).advance command reply =
      if Stage.cancels command reply then .strayed job.id else .doing .running job := by
  cases command with
  | redis command => cases command <;> first | rfl | cases asking
  | supabase | model => rfl
  | _ => cases asking

/-- What `process_job` asks for leaves the worker in the dispatch, unless it is cancelled. -/
theorem dispatchJob_follows :
    (observer settings).Follows
      (@Observer.ending _ _ (observer settings) _ _
        (fun _ phase => phase = .doing .running job ∨ phase = .strayed job.id) (Broken job))
      (.doing .running job) (dispatchJob settings job).run := by
  have related := Observer.Follows.related (observer settings)
    (fun stage phase => (stage = Stage.started job ∧ phase = .doing .running job) ∨
      phase = .strayed job.id)
    (Stage.dispatchJob_stays settings job) (asks_dispatchJob job settings) ?_ ?_ (.inl ⟨rfl, rfl⟩)
  · refine related.imp ?_
    rintro (failure | result) phase ⟨stage, ⟨rfl, rfl⟩ | rfl, ended⟩
    · refine .inr ⟨?_, rfl⟩
      rintro rfl
      cases ended
    · exact .inl rfl
    · exact .inl rfl
    · exact .inr rfl
  · intro stage phase command _ asking
    exact .incidental (incidental_of_asks asking)
  · rintro stage phase command reply (⟨rfl, rfl⟩ | rfl) asking
    · rw [show (Stage.observer settings).advance (.started job) command reply = _ from
          stage_of_asks job asking reply,
        show (observer settings).advance (.doing .running job) command reply = _ from
          phase_of_asks job asking reply]
      split
      · exact .inr rfl
      · exact .inl ⟨rfl, rfl⟩
    · exact .inr rfl

/-- A dispatch that succeeds ends the course. -/
theorem waitForDispatch_follows :
    (observer settings).Follows
      (@Observer.ending _ _ (observer settings) _ _ (fun _ phase => phase = .strayed job.id)
        (Broken job)) (.doing .locked job) (waitForDispatch settings job).run := by
  have processed : (observer settings).Follows
      (@Observer.ending _ _ (observer settings) _ _ (fun _ phase => phase = .strayed job.id)
        (Broken job)) (.doing .running job) (do
          let result ← dispatchJob settings job
          ExceptT.mk (request (Command.dispatched job result))
          return result : Async AIResult).run := by
    apply Observer.Follows.andThen (dispatchJob_follows settings job)
    intro result phase reached
    refine ⟨.incidental rfl, fun reply => ?_⟩
    rcases reached with rfl | rfl
    · rcases reply with (error | _ | _) | _
      · exact .inr ⟨nofun, rfl⟩
      · exact .inr ⟨nofun, rfl⟩
      · exact .inl rfl
      · rfl
    · rcases reply with failure | _
      · exact .inl rfl
      · rfl
  refine ⟨.dispatch job, fun reply => ?_⟩
  rcases reply with (error | _ | _) | _
  · exact .inr ⟨nofun, rfl⟩
  · exact .inr ⟨nofun, rfl⟩
  · exact .inl rfl
  · exact processed

theorem retryLater_follows (left : job.failedOnce.attempt < settings.jobMaxRetries)
    (error : String) :
    (observer settings).Follows (fun _ phase => Over job.id phase) (.doing .running job)
      (retryLater job.failedOnce error).run := by
  have rests : Every (fun command => incidental command = true)
      (tolerating (supabase (.updateJobStatus job.id .retrying none
        (some (truncated error))))).run :=
    every_tolerating ⟨rfl, fun _ => trivial⟩
  refine ⟨.incidental rfl, fun now => ⟨.retry job left _, fun reply => ?_⟩⟩
  rcases reply with failure | _
  · exact .inr rfl
  refine ⟨.requeue job.failedOnce _, fun reply => ?_⟩
  rcases reply with failure | _
  · exact .inr rfl
  · exact (rest_follows rests).imp fun _ _ ended => .inl ended

/-- The dead letter is written when Redis and Supabase have let the worker come to it. -/
theorem report_follows (error : String) :
    (observer settings).Follows (fun _ phase => Over job.id phase) (.doing .failed job) (do
      publishResult job.id (.failure error)
      tolerating (supabase (.updateJobStatus job.id .failed none (some (truncated error))))
      tolerating do
        let now ← time
        redis (.zaddDead ⟨job, now, truncated error⟩ now)
        redis (.expireDead (7 * 24 * 3600)) : Async Unit).run := by
  have buried : (observer settings).Follows (fun _ phase => Over job.id phase) (.doing .failed job)
      (tolerating do
        let now ← time
        redis (.zaddDead ⟨job, now, truncated error⟩ now)
        redis (.expireDead (7 * 24 * 3600))).run := by
    refine ⟨.incidental rfl, fun now => ⟨.bury ⟨job, now, _⟩ now, fun reply => ?_⟩⟩
    rcases reply with (_ | _ | _) | _
    · exact .inr rfl
    · exact .inr rfl
    · exact .inr rfl
    refine ⟨.incidental rfl, fun reply => ?_⟩
    rcases reply with (_ | _ | _) | _ <;> exact .inl rfl
  refine ⟨.incidental rfl, fun reply => ?_⟩
  rcases reply with failure | _
  · exact .inr rfl
  refine ⟨.incidental rfl, fun reply => ?_⟩
  rcases reply with failure | _
  · exact .inr rfl
  refine ⟨.incidental rfl, fun reply => ?_⟩
  rcases reply with (_ | _ | _) | _
  · exact buried
  · exact buried
  · exact .inr rfl
  · exact buried

theorem giveUp_follows (spent : settings.jobMaxRetries ≤ job.failedOnce.attempt) (error : String) :
    (observer settings).Follows (fun _ phase => Over job.id phase) (.doing .running job)
      (giveUp job.failedOnce error).run := by
  refine ⟨.giveUp job spent _, fun reply => ?_⟩
  rcases reply with failure | _
  · exact .inr rfl
  · exact report_follows settings job.failedOnce error

theorem handleFailure_follows (error : String) :
    (observer settings).Follows (fun _ phase => Over job.id phase) (.doing .running job)
      (handleFailure settings job error).run := by
  unfold handleFailure
  split
  · rename_i spent
    exact giveUp_follows settings job spent error
  · rename_i left
    exact retryLater_follows settings job (Int.not_le.mp left) error

/-- The handler of a `try` block that failed. -/
theorem handled_follows {phase : RetryPhase} {failure : Failure}
    (broken : Broken job failure phase) (error : String) :
    (observer settings).Follows (fun _ phase => Over job.id phase) phase
      (handleFailure settings job error).run := by
  rcases broken with rfl | ⟨_, rfl⟩
  · exact (strayed_follows (concerns_handleFailure error)).imp fun _ _ ended => .inr ended
  · exact handleFailure_follows settings job error

theorem attemptJob_follows :
    (observer settings).Follows (fun _ phase => Over job.id phase) (.doing .locked job)
      (attemptJob settings job).run := by
  have body : (observer settings).Follows
      (@Observer.ending _ _ (observer settings) _ _ (fun _ phase => Over job.id phase) (Broken job))
      (.doing .locked job) (do
        setJobStatus job.id .processing none
        let result ← waitForDispatch settings job
        complete job result : Async Unit).run := by
    refine ⟨.process job, fun reply => ?_⟩
    rcases reply with failure | _
    · exact .inl rfl
    apply Observer.Follows.andThen (waitForDispatch_follows settings job)
    rintro result phase rfl
    refine (strayed_follows (concerns_complete result)).imp ?_
    rintro (failure | _) phase ended
    · exact .inl ended
    · exact .inr ended
  apply Observer.Follows.rescue body
  intro failure phase broken
  cases failure with
  | raised error => exact handled_follows settings job broken error
  | timedOut => exact handled_follows settings job broken _
  | cancelled =>
    rcases broken with rfl | ⟨caught, _⟩
    · exact .inr rfl
    · exact absurd rfl caught

theorem processJobSafe_follows (workerId : String) :
    (observer settings).Follows (fun _ phase => Over job.id phase) (.doing .popped job)
      (processJobSafe settings workerId job).run := by
  refine ⟨.incidental rfl, fun now => ⟨.lock job _ _, fun reply => ?_⟩⟩
  rcases reply with failure | _ | _
  · exact .inr rfl
  · exact .inr rfl
  apply Observer.Follows.ensuring (attemptJob_follows settings job)
  rintro phase (rfl | rfl)
  · exact (rest_follows (incidental_releaseLock _ _)).imp fun _ _ ended => .inl ended
  · exact (strayed_follows ((incidental_releaseLock _ _).imp fun _ => .inl)).imp
      fun _ _ ended => .inr ended

end Course

section Clients

variable (settings : Settings)

theorem Over.job? {jobId : String} {phase : RetryPhase} (settled : Over jobId phase) :
    phase.job? = none := by
  rcases settled with rfl | rfl <;> rfl

theorem consumeJob_follows (workerId : String) :
    (observer settings).Follows (fun _ phase => phase.job? = none) .rest
      (consumeJob settings workerId).run := by
  refine ⟨.incidental rfl, fun now => ⟨.pop now, fun reply => ?_⟩⟩
  rcases reply with failure | _ | member
  · rfl
  · rfl
  change (observer settings).Follows _ ((member.job?.map (RetryPhase.doing .popped)).getD .rest)
    (consumeParsed settings workerId member.job?).run
  cases member.job? with
  | none => rfl
  | some job =>
    refine ⟨.incidental rfl, fun reply => ?_⟩
    rcases reply with failure | _
    · rfl
    · exact (processJobSafe_follows settings job workerId).imp fun _ _ => Over.job?

theorem enqueue_follows (payload : WritingJobPayload) :
    (observer settings).Follows (fun _ phase => phase.job? = none) .rest
      (enqueueWriteRightJob payload).run := by
  refine ⟨.incidental rfl, fun isOpen => ?_⟩
  cases isOpen with
  | true => rfl
  | false =>
    refine ⟨.incidental rfl, fun now => ⟨.enqueue payload now, fun _ => ?_⟩⟩
    exact ⟨.incidental rfl, fun _ => ⟨.incidental rfl, fun _ => rfl⟩⟩

private theorem reader_follows {α : Type} {body : Async α} (reads : Reads body) :
    (observer settings).Follows (fun _ phase => phase.job? = none) .rest body.run := by
  refine (rest_follows (Every.imp reads fun _ => incidental_of_reads)).imp ?_
  rintro value phase rfl
  rfl

theorem program_ends (call : Call) :
    (observer settings).Follows (fun _ phase => phase.job? = none) .rest (call.program settings) := by
  cases call with
  | enqueue payload => exact enqueue_follows settings payload
  | consume workerId => exact consumeJob_follows settings workerId
  | heartbeat jobId lockValue => exact ⟨.incidental rfl, fun _ => rfl⟩
  | poll userId jobId => exact reader_follows settings (reads_pollJob userId jobId)
  | stream userId jobId rounds => exact reader_follows settings (reads_streamJob userId jobId rounds)

theorem program_follows (call : Call) :
    (observer settings).Follows (fun _ _ => True) .rest (call.program settings) :=
  (program_ends settings call).imp fun _ _ _ => trivial

end Clients

end RetryPhase

end BrainMate.WriteRight
