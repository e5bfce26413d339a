import BrainMate.WriteRight.CompletionClients
import BrainMate.WriteRight.Repertoire

namespace BrainMate.WriteRight

open Interleaving Program System

/-- Where a client stands with the rows of a job. -/
inductive PersistPhase where
  | free
  /-- A worker has popped the job. -/
  | holds (job : WritingJob)
  /-- The insert of the message has been sent in this attempt. -/
  | saved (job : WritingJob)
  /-- The insert of the usage row has been sent in this attempt. -/
  | recorded (job : WritingJob)
  /-- The complete route has found the job. -/
  | claimed (jobId : String)
  deriving DecidableEq, Repr

namespace PersistPhase

/-- The job of a worker. -/
inductive InHand (job : WritingJob) : PersistPhase → Prop where
  | holds : InHand job (.holds job)
  | saved : InHand job (.saved job)
  | recorded : InHand job (.recorded job)

/-- After the lock of a job has been released nothing more is done for it. -/
def advance : PersistPhase → (command : CompletionCommand) → command.Reply → PersistPhase
  | phase, .queue (.redis (.popDue _)), reply =>
    match reply with
    | .ok (some member) => (member.job?.map .holds).getD phase
    | _ => phase
  | phase, .queue .acquireSlot, reply =>
    match reply with
    | .ok _ => phase
    | .error _ => .free
  | phase, .queue (.redis (.setLock _ _ _)), reply =>
    match reply with
    | .ok true => phase
    | _ => .free
  | .holds job, .queue (.supabase (.insertMessage _)), _ => .saved job
  | .saved job, .queue (.supabase (.insertUsage _)), _ => .recorded job
  | phase, .queue (.redis (.zadd member _)), _ =>
    match member with
    | .requeued _ => .free
    | _ => phase
  | _, .queue (.redis (.getLock _)), _ => .free
  | phase, .supabase (.selectJob jobId), reply =>
    match reply with
    | .ok (some _) => .claimed jobId
    | _ => phase
  | _, .supabase (.insertUsage _), _ => .free
  | phase, _, _ => phase

def Allowed : PersistPhase → CompletionCommand → Prop
  | phase, .queue (.redis (.popDue _)) => phase = .free
  | phase, .queue (.redis (.zadd member _)) =>
    match member with
    | .enqueued _ => phase = .free
    | .requeued next => ∃ job, InHand job phase ∧ next.id = job.id
    | .malformed _ => False
  | phase, .queue (.supabase (.insertMessage row)) =>
    ∃ job, phase = .holds job ∧ row.metadata.map MessageMetadata.jobId = some job.id
  | phase, .queue (.supabase (.insertUsage row)) => ∃ job, phase = .saved job ∧ row.jobId = job.id
  | phase, .supabase (.selectJob _) => phase = .free
  | phase, .supabase (.insertUsage row) => phase = .claimed row.jobId
  | _, _ => True

end PersistPhase

@[reducible] def persistObserver : Observer CompletionCommand CompletionCommand.Reply :=
  ⟨PersistPhase, .free, PersistPhase.advance, PersistPhase.Allowed⟩

/-- The same, as far as the commands of the queue are concerned. -/
@[reducible] def workerObserver : Observer Command Command.Reply :=
  persistObserver.within .queue fun _ reply => reply

/-- The command neither moves a job nor inserts a row. -/
def persistNeutral : Command → Bool
  | .redis (.popDue _) | .redis (.zadd _ _) | .redis (.setLock _ _ _) | .redis (.getLock _)
  | .supabase (.insertMessage _) | .supabase (.insertUsage _) | .acquireSlot => false
  | _ => true

variable {phase : PersistPhase} {job : WritingJob} {settings : Settings} {α : Type}

theorem PersistPhase.allowed_of_neutral {command : Command}
    (neutral : persistNeutral command = true) : phase.Allowed (.queue command) := by
  cases command with
  | redis command => cases command <;> trivial
  | supabase command => cases command <;> trivial
  | _ => trivial

theorem PersistPhase.advance_of_neutral {command : Command} (reply : command.Reply)
    (neutral : persistNeutral command = true) : phase.advance (.queue command) reply = phase := by
  cases command with
  | redis command => cases command <;> first | (cases phase <;> rfl) | cases neutral
  | supabase command => cases command <;> first | (cases phase <;> rfl) | cases neutral
  | acquireSlot => cases neutral
  | _ => cases phase <;> rfl

/-- What is known of the phase at the end of a body, by the two ways it ends. -/
abbrev persistEnding (normally : α → PersistPhase → Prop) (failing : PersistPhase → Prop) :
    Except Failure α → PersistPhase → Prop :=
  @Observer.ending _ _ workerObserver _ _ normally fun _ => failing

/-- A body without such commands leaves the client in its phase. -/
theorem neutral_stays {body : Async α} {failing : PersistPhase → Prop}
    (every : body.run.Every fun command => persistNeutral command = true) (fails : failing phase) :
    workerObserver.Follows (persistEnding (fun _ final => final = phase) failing) phase body.run := by
  refine (Observer.follows_of_every workerObserver phase
    (fun _ neutral => PersistPhase.allowed_of_neutral neutral)
    (fun _ reply neutral => PersistPhase.advance_of_neutral reply neutral) every).imp ?_
  rintro (failure | value) final rfl
  · exact fails
  · rfl

private theorem neutral_runs {body : Async α}
    (every : body.run.Every fun command => persistNeutral command = true) :
    workerObserver.Follows (fun _ _ => True) phase body.run :=
  (Observer.follows_of_every workerObserver phase
    (fun _ neutral => PersistPhase.allowed_of_neutral neutral)
    (fun _ reply neutral => PersistPhase.advance_of_neutral reply neutral) every).imp
    fun _ _ _ => trivial

abbrev Neutral (body : Async α) : Prop :=
  body.run.Every fun command => persistNeutral command = true

private theorem neutral_complete (result : AIResult) : Neutral (complete job result) := by
  refine Every.andThen ⟨rfl, fun _ => trivial⟩ fun _ => ?_
  refine Every.andThen (Every.andThen ⟨rfl, fun _ => trivial⟩ fun _ => ⟨rfl, fun _ => trivial⟩)
    fun _ => ?_
  exact every_tolerating (Every.andThen ⟨rfl, fun _ => trivial⟩ fun _ => ⟨rfl, fun _ => trivial⟩)

private theorem neutral_giveUp (error : String) : Neutral (giveUp job error) := by
  refine Every.andThen ⟨rfl, fun _ => trivial⟩ fun _ => ?_
  refine Every.andThen (Every.andThen ⟨rfl, fun _ => trivial⟩ fun _ => ⟨rfl, fun _ => trivial⟩)
    fun _ => ?_
  refine Every.andThen (every_tolerating ⟨rfl, fun _ => trivial⟩) fun _ => ?_
  exact every_tolerating (Every.andThen ⟨rfl, fun _ => trivial⟩ fun _ =>
    Every.andThen ⟨rfl, fun _ => trivial⟩ fun _ => ⟨rfl, fun _ => trivial⟩)

/-- A statement whose failure has no consequences. -/
theorem neutral_attempted (command : SupabaseCommand) (fallback : command.Reply)
    (neutral : persistNeutral (.supabase command) = true) :
    Neutral (catching (supabase command) (pure fallback)) := by
  refine every_catching ⟨neutral, fun _ => trivial⟩ ?_
  trivial

namespace PersistPhase

/-- The body ends with the job still in hand, however it ends. -/
abbrev KeepsInHand (job : WritingJob) (phase : PersistPhase) (body : Async α) : Prop :=
  workerObserver.Follows
    (persistEnding (fun _ => PersistPhase.InHand job) (PersistPhase.InHand job)) phase body.run

private theorem keeps_of_neutral {body : Async α} (inHand : PersistPhase.InHand job phase)
    (every : Neutral body) : KeepsInHand job phase body := by
  refine (neutral_stays every inHand).imp ?_
  rintro (failure | value) final ended
  · exact ended
  · exact ended ▸ inHand

private theorem inHand_catching {body fallback : Async α} {sent : PersistPhase}
    (inHand : PersistPhase.InHand job sent)
    (first : workerObserver.Follows (persistEnding (fun _ phase => phase = sent)
      (fun phase => phase = sent)) phase body.run)
    (rest : workerObserver.Follows (persistEnding (fun _ phase => phase = sent)
      (PersistPhase.InHand job)) sent fallback.run) :
    workerObserver.Follows (persistEnding (fun _ phase => phase = sent) (PersistPhase.InHand job))
      phase (catching body fallback).run := by
  refine Observer.Follows.rescue first ?_
  rintro (error | _ | _) reached rfl
  · exact rest
  · exact inHand
  · exact inHand

private theorem saveAiMessage_follows (result : AIResult) (injectionDetected : Bool) :
    workerObserver.Follows (persistEnding (fun _ phase => phase = .saved job)
      (fun phase => phase = .saved job)) (.holds job)
      (saveAiMessage job result injectionDetected).run := by
  refine ⟨⟨job, rfl, rfl⟩, fun reply => ?_⟩
  cases reply <;> rfl

private theorem recordUsage_follows (result : AIResult) :
    workerObserver.Follows (persistEnding (fun _ phase => phase = .recorded job)
      (PersistPhase.InHand job)) (.saved job) (recordUsage job result).run := by
  refine inHand_catching .recorded ⟨⟨job, rfl, rfl⟩, fun reply => ?_⟩ rfl
  cases reply <;> rfl

/-- The message is sent first, the usage row second, each once. -/
theorem persist_follows (result : AIResult) (injectionDetected : Bool) :
    KeepsInHand job (.holds job) (persist job result injectionDetected) := by
  refine Observer.Follows.andThen
    (inHand_catching .saved (saveAiMessage_follows result injectionDetected) rfl) ?_
  rintro _ _ rfl
  refine Observer.Follows.andThen (neutral_stays (neutral_attempted
    (.updateJobStatus job.id .completed (some result) none) () rfl) .saved) ?_
  rintro _ _ rfl
  refine Observer.Follows.andThen (recordUsage_follows result) ?_
  rintro _ _ rfl
  exact keeps_of_neutral .recorded (neutral_attempted (.updateStreakAndAchievements job.userId) () rfl)

private theorem neutral_publishStage (stage : String) : Neutral (publishStage job stage) :=
  ⟨rfl, fun _ => trivial⟩

private theorem neutral_critique (draft : AIResult) : Neutral (critiqueAndRevise draft job) := by
  refine every_catching ⟨rfl, fun _ => trivial⟩ ?_
  trivial

private theorem improve_follows (settings : Settings) (history : List (Role × MessageContent))
    (profile : List String) :
    KeepsInHand job (.holds job) (improve settings job history profile) := by
  have finish (result : AIResult) (injectionDetected : Bool) :
      KeepsInHand job (.holds job)
        (do publishStage job "finalizing"
            persist job result injectionDetected
            return result : Async AIResult) := by
    refine Observer.Follows.andThen (neutral_stays (neutral_publishStage _) .holds) ?_
    rintro _ _ rfl
    refine Observer.Follows.andThen (persist_follows result injectionDetected) ?_
    exact fun _ _ inHand => inHand
  refine Observer.Follows.andThen (neutral_stays ⟨rfl, fun _ => trivial⟩ .holds) ?_
  rintro ⟨draft, injectionDetected⟩ _ rfl
  cases settings.enableCritiquePipeline with
  | false => exact finish draft injectionDetected
  | true =>
    refine Observer.Follows.andThen (neutral_stays (neutral_publishStage _) .holds) ?_
    rintro _ _ rfl
    refine Observer.Follows.andThen (neutral_stays (neutral_critique draft) .holds) ?_
    rintro result _ rfl
    exact finish result injectionDetected

private theorem processJob_follows (settings : Settings) :
    KeepsInHand job (.holds job) (processJob settings job) := by
  refine Observer.Follows.andThen (neutral_stays (neutral_attempted
    (.updateJobStatus job.id .processing none none) () rfl) .holds) ?_
  rintro _ _ rfl
  refine Observer.Follows.andThen (neutral_stays (neutral_attempted
    (.getChatHistory job.chatId 20) [] rfl) .holds) ?_
  rintro history _ rfl
  refine Observer.Follows.andThen (neutral_stays (neutral_attempted
    (.getWritingProfile job.userId) [] rfl) .holds) ?_
  rintro profile _ rfl
  split
  · exact .holds
  · refine Observer.Follows.andThen (neutral_stays (neutral_publishStage _) .holds) ?_
    rintro _ _ rfl
    split
    · exact .holds
    · exact improve_follows settings history profile

theorem dispatchJob_follows (settings : Settings) :
    KeepsInHand job (.holds job) (dispatchJob settings job) := by
  unfold dispatchJob
  split
  · exact processJob_follows settings
  · exact .holds

theorem waitForDispatch_follows (settings : Settings) :
    KeepsInHand job (.holds job) (waitForDispatch settings job) := by
  have started : Neutral (ExceptT.mk (request (Command.dispatch job)) : Async Unit) :=
    ⟨rfl, fun _ => trivial⟩
  refine Observer.Follows.andThen (neutral_stays started .holds) ?_
  rintro _ _ rfl
  refine Observer.Follows.andThen (dispatchJob_follows settings) fun result phase inHand => ?_
  have handed : Neutral (ExceptT.mk (request (Command.dispatched job result)) : Async Unit) :=
    ⟨rfl, fun _ => trivial⟩
  refine Observer.Follows.andThen (neutral_stays handed inHand) ?_
  rintro _ _ rfl
  exact inHand

/-- The job is still in hand, or the client is done with it. -/
def HeldOrDone (job : WritingJob) (phase : PersistPhase) : Prop :=
  PersistPhase.InHand job phase ∨ phase = .free

abbrev EndsHeldOrDone (job : WritingJob) (phase : PersistPhase) (body : Async α) : Prop :=
  workerObserver.Follows (persistEnding (fun _ => HeldOrDone job) (HeldOrDone job)) phase body.run

private theorem over_of_neutral {body : Async α} (every : Neutral body) :
    EndsHeldOrDone job .free body := by
  have stays : workerObserver.Follows
      (persistEnding (fun _ final => final = .free) (HeldOrDone job)) .free body.run :=
    neutral_stays every (.inr rfl)
  refine stays.imp ?_
  rintro (failure | value) final ended
  · exact ended
  · exact .inr ended

theorem retryLater_follows (error : String) (inHand : PersistPhase.InHand job phase) :
    EndsHeldOrDone job phase (retryLater job.failedOnce error) := by
  refine Observer.Follows.andThen (neutral_stays ⟨rfl, fun _ => trivial⟩ (.inl inHand)) ?_
  rintro now phase rfl
  refine Observer.Follows.andThen (neutral_stays ⟨rfl, fun _ => trivial⟩ (.inl inHand)) ?_
  rintro _ phase rfl
  have requeued : workerObserver.Follows (persistEnding (fun _ phase => phase = .free) (HeldOrDone job))
      phase (redis (.zadd (.requeued job.failedOnce)
        (now + 1000 * 2 ^ (job.failedOnce.attempt - 1).toNat))).run := by
    refine ⟨⟨job, inHand, rfl⟩, fun reply => ?_⟩
    cases reply with
    | ok => rfl
    | error => exact .inr rfl
  refine Observer.Follows.andThen requeued ?_
  rintro _ _ rfl
  exact over_of_neutral (every_tolerating ⟨rfl, fun _ => trivial⟩)

theorem handleFailure_follows (error : String) (inHand : PersistPhase.InHand job phase) :
    EndsHeldOrDone job phase (handleFailure settings job error) := by
  unfold handleFailure
  split
  · refine (keeps_of_neutral inHand (neutral_giveUp error)).imp ?_
    rintro (failure | _) final ended
    · exact .inl ended
    · exact .inl ended
  · exact retryLater_follows error inHand

theorem attemptJob_follows (settings : Settings) :
    EndsHeldOrDone job (.holds job) (attemptJob settings job) := by
  have tried : KeepsInHand job (.holds job) (do
      setJobStatus job.id .processing none
      let result ← waitForDispatch settings job
      complete job result) := by
    refine Observer.Follows.andThen (neutral_stays ⟨rfl, fun _ => trivial⟩ .holds) ?_
    rintro _ _ rfl
    refine Observer.Follows.andThen (waitForDispatch_follows settings) fun result _ inHand => ?_
    exact keeps_of_neutral inHand (neutral_complete result)
  have first : workerObserver.Follows (@Observer.ending _ _ workerObserver _ _
      (fun _ => HeldOrDone job) fun (_ : Failure) => PersistPhase.InHand job) (.holds job) (do
        setJobStatus job.id .processing none
        let result ← waitForDispatch settings job
        complete job result : Async Unit).run := by
    refine tried.imp ?_
    rintro (failure | _) final inHand
    · exact inHand
    · exact .inl inHand
  refine Observer.Follows.rescue first ?_
  rintro (error | _ | _) phase inHand
  · exact handleFailure_follows error inHand
  · exact handleFailure_follows _ inHand
  · exact .inl inHand

/-- Whatever is known of a client, it may release a lock. -/
theorem releaseLock_follows (jobId lockValue : String) :
    workerObserver.Follows (fun _ _ => True) phase (releaseLock jobId lockValue).run := by
  refine ⟨trivial, fun reply => ?_⟩
  rcases reply with _ | current
  · trivial
  · have rest : Neutral (if current = some lockValue then redis (.deleteLock jobId) else pure ()) := by
      split
      · exact ⟨rfl, fun _ => trivial⟩
      · trivial
    exact neutral_runs rest

theorem processJobSafe_follows (settings : Settings) (workerId : String) :
    workerObserver.Follows (fun _ _ => True) (.holds job)
      (processJobSafe settings workerId job).run := by
  refine ⟨trivial, fun now => ⟨trivial, fun reply => ?_⟩⟩
  rcases reply with failure | _ | _
  · trivial
  · trivial
  · refine Observer.Follows.ensuring ((attemptJob_follows settings).imp fun _ _ _ => trivial) ?_
    exact fun phase _ => releaseLock_follows job.id _

theorem consumeJob_follows (settings : Settings) (workerId : String) :
    workerObserver.Follows (fun _ _ => True) .free (consumeJob settings workerId).run := by
  refine ⟨trivial, fun now => ⟨rfl, fun reply => ?_⟩⟩
  rcases reply with failure | _ | member
  · trivial
  · trivial
  change workerObserver.Follows _ ((member.job?.map PersistPhase.holds).getD .free)
    (consumeParsed settings workerId member.job?).run
  cases member.job? with
  | none => trivial
  | some job =>
    refine ⟨trivial, fun reply => ?_⟩
    rcases reply with failure | _
    · trivial
    · exact processJobSafe_follows settings workerId

theorem enqueue_follows (payload : WritingJobPayload) :
    workerObserver.Follows (fun _ _ => True) .free (enqueueWriteRightJob payload).run := by
  refine ⟨trivial, fun isOpen => ?_⟩
  cases isOpen with
  | true => trivial
  | false => exact ⟨trivial, fun now => ⟨rfl, fun _ => ⟨trivial, fun _ => ⟨trivial, fun _ => trivial⟩⟩⟩⟩

end PersistPhase

private theorem neutral_of_reads {body : Async α} (reads : Reads body) : Neutral body := by
  refine Every.imp reads fun command reading => ?_
  cases command with
  | redis command => cases command <;> first | rfl | cases reading
  | supabase command => cases command <;> first | rfl | cases reading
  | time | isCircuitOpen => rfl
  | _ => cases reading

theorem call_follows (settings : Settings) (call : Call) :
    workerObserver.Follows (fun _ _ => True) .free (call.program settings) := by
  cases call with
  | enqueue payload => exact PersistPhase.enqueue_follows payload
  | consume workerId => exact PersistPhase.consumeJob_follows settings workerId
  | heartbeat jobId lockValue => exact ⟨trivial, fun _ => trivial⟩
  | poll userId jobId => exact neutral_runs (neutral_of_reads (reads_pollJob userId jobId))
  | stream userId jobId rounds => exact neutral_runs (neutral_of_reads (reads_streamJob userId jobId rounds))

/-- The usage row is inserted once, for the job that was found. -/
theorem recordCompletion_follows (jobId : String) (job : SelectedJob) (posted : PostedResult) :
    persistObserver.Follows (fun _ _ => True) (.claimed jobId)
      (recordCompletion jobId job posted) := by
  have published : persistObserver.Follows (fun _ final => final = .free) .free
      (publishPosted jobId job.userId posted.result).run := by
    refine Observer.follows_of_every persistObserver .free ?_ ?_
      (publishPosted_redis jobId job.userId posted.result)
    · rintro _ ⟨redis, rfl⟩
      trivial
    · rintro _ reply ⟨redis, rfl⟩
      rfl
  refine ⟨trivial, fun _ => ⟨rfl, fun _ => ⟨trivial, fun _ => ⟨trivial, fun isOpen => ?_⟩⟩⟩⟩
  cases isOpen with
  | true => trivial
  | false =>
    change persistObserver.Follows _ .free ((publishPosted jobId job.userId posted.result).run >>=
      fun _ => pure CompletionReply.received)
    exact Observer.Follows.bind published fun _ _ _ => trivial

private theorem completeJob_follows (workerSecret : Option String) (request : CompletionRequest) :
    persistObserver.Follows (fun _ _ => True) .free (completeJob workerSecret request) := by
  unfold completeJob
  split
  · trivial
  · split
    · trivial
    · refine ⟨rfl, fun reply => ?_⟩
      rcases reply with failure | _ | job
      · trivial
      · trivial
      · exact recordCompletion_follows request.jobId job _

theorem completionCall_follows (settings : Settings) (workerSecret : Option String)
    (call : CompletionCall) :
    persistObserver.Follows (fun _ _ => True) .free (call.program settings workerSecret) := by
  cases call with
  | queue call => exact Observer.Follows.embed (fun _ _ => rfl) (call_follows settings call)
  | complete request => exact completeJob_follows workerSecret request

end BrainMate.WriteRight
