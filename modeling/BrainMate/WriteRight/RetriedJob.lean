import BrainMate.WriteRight.JobText
import BrainMate.WriteRight.RetrySteps

namespace BrainMate.WriteRight

open Interleaving System Program

private theorem accounted_keeps (settings : Settings) {payload : WritingJobPayload}
    {job : WritingJob}
    (parsed : (Member.enqueued payload).job? = some job) (first : job.attempt = 0) :
    (Chronicle.phasesOf settings job.id).Keeps
      (fun chronicle config move => InVain settings payload chronicle config move = true)
      (Accounted settings job) where
  follows _ _ _ call _ := RetryPhase.program_follows settings call
  command chronicle config client outcome call command rest inVain running allowed accounted := by
    have sameId : payload.id = job.id := by
      cases Option.some.inj parsed
      rfl
    simp only [InVain, running, Thread.next?, Option.all_some, sameId, Bool.and_eq_true,
      Bool.or_eq_true, Bool.not_eq_true'] at inVain
    refine Accounted.exchange accounted parsed first allowed inVain.1 fun hand => ?_
    rcases inVain.2 with other | unspoiled
    · rw [other] at hand
      cases hand
    · exact unspoiled
  event chronicle config event _ accounted := by
    obtain ⟨spot, tracks, reached⟩ := accounted
    cases event <;> exact ⟨spot, ⟨tracks.queue, tracks.hands, tracks.straight⟩, reached⟩
  crash chronicle config client inVain accounted := by
    have sameId : payload.id = job.id := by
      cases Option.some.inj parsed
      rfl
    have before : mine job.id (chronicle.phases client) = false := by
      simpa [InVain, sameId] using inVain
    obtain ⟨spot, tracks, reached⟩ := accounted
    exact ⟨spot, tracks.framed rfl rfl before rfl (by rintro ⟨⟩), reached⟩

section Texts

variable (coercions : Coercions)

/-- What `_handle_failure` adds to the queue for a job that was parsed from a member. -/
def reserialise (member : List Nat) : Option (List Nat) :=
  (parseJob coercions member).map fun job => (Member.requeued job.failedOnce).text

/-- The member after so many failures. -/
def reserialised : Nat → List Nat → Option (List Nat)
  | 0, member => some member
  | count + 1, member => (reserialised count member).bind (reserialise coercions)

private theorem parseJob_reserialised {member : List Nat} {job : WritingJob}
    (parsed : parseJob coercions member = some job) (count : Nat) :
    (reserialised coercions count member).bind (parseJob coercions) =
      some { job with attempt := job.attempt + count } := by
  induction count with
  | zero => simpa [reserialised] using parsed
  | succ count ih =>
    obtain ⟨text, written, read⟩ := Option.bind_eq_some_iff.mp ih
    have again : parseJob coercions (Member.requeued
        ({ job with attempt := job.attempt + count } : WritingJob).failedOnce).text = some _ :=
      parseJob_text coercions rfl
    rw [reserialised, written, Option.bind_some, reserialise, read, Option.map_some, Option.bind_some,
      again]
    simp [WritingJob.failedOnce, Int.add_assoc]

end Texts

theorem Reached.deeds_prefix {settings : Settings} {job : WritingJob} {put : Bool} {deeds : List Deed}
    {dead : List (DeadEntry × Nat)} {spot : Spot} (reached : Reached settings job put deeds dead spot) :
    deeds <+: course settings job := by
  have part {count : Nat} (within : count ≤ rounds settings) :
      dispatches job count <+: course settings job :=
    (dispatches_upto job within).trans (List.prefix_append _ _)
  cases spot with
  | nowhere =>
    rcases reached with ⟨_, rfl, _⟩ | ⟨_, rfl, _⟩
    · exact List.nil_prefix
    · exact List.prefix_refl _
  | queued member score =>
    obtain ⟨_, _, count, within, _, rfl⟩ := reached
    exact part (Nat.le_of_lt within)
  | held client step found =>
    cases step with
    | running =>
      obtain ⟨_, _, count, within, _, rfl⟩ := reached
      exact part within
    | failed =>
      obtain ⟨_, _, _, rfl⟩ := reached
      exact ⟨[.buried (job.attempted (rounds settings))], by simp [course]⟩
    | popped | locked | retrying =>
      obtain ⟨_, _, count, within, _, rfl⟩ := reached
      exact part (Nat.le_of_lt within)

/-- What is known of the job after it was enqueued: it waits in the queue, as a text that is
parsed as the job with its next attempt, or a worker is at it, or its course is over and it is
among the dead letters once. -/
def Retried (coercions : Coercions) (settings : Settings) (job : WritingJob) (chronicle : Chronicle)
    (config : (jobQueue settings).Config) : Prop :=
  (∃ member score count, config.world.membersOf job.id = [(member, score)] ∧ count < rounds settings ∧
    parseJob coercions member.text = some { job with attempt := count } ∧
    chronicle.deeds = dispatches job count ∧ config.world.deadOf job.id = []) ∨
  (∃ client call rest, config.threads client = .running call rest ∧
    mine job.id (chronicle.phases client) = true ∧ config.world.membersOf job.id = [] ∧
    config.world.deadOf job.id = []) ∨
  (chronicle.deeds = course settings job ∧ config.world.membersOf job.id = [] ∧
    (config.world.deadOf job.id).map (fun stored => stored.1.job) =
      [{ job with attempt := rounds settings }])

theorem Accounted.retried {settings : Settings} {job : WritingJob} {chronicle : Chronicle}
    {config : (jobQueue settings).Config} (coercions : Coercions)
    (accounted : Accounted settings job chronicle config.world) (put : chronicle.put = true)
    (ends : ∀ client, ThreadEnds (RetryPhase.observer settings) (fun _ _ phase => phase.job? = none)
      (chronicle.phases client) (config.threads client)) :
    Retried coercions settings job chronicle config := by
  obtain ⟨spot, tracks, reached⟩ := accounted
  cases spot with
  | nowhere =>
    rcases reached with ⟨unput, _⟩ | ⟨_, deeds, dead⟩
    · rw [put] at unput
      cases unput
    · exact .inr (.inr ⟨deeds, tracks.queue, dead⟩)
  | queued member score =>
    obtain ⟨_, dead, count, within, parsed, deeds⟩ := reached
    exact .inl ⟨member, score, count, tracks.queue, within, parseJob_text coercions parsed, deeds, dead⟩
  | held client step found =>
    have dead : config.world.deadOf job.id = [] := by cases step <;> exact reached.2.1
    obtain ⟨doing, own⟩ := (tracks.hands client step found).mpr rfl
    have hand : mine job.id (chronicle.phases client) = true := by
      simp [mine, doing, RetryPhase.job?, own]
    have ended := ends client
    cases state : config.threads client with
    | running call rest => exact .inr (.inl ⟨client, call, rest, state, hand, tracks.queue, dead⟩)
    | idle =>
      rw [state, doing] at ended
      cases ended
    | returned call value =>
      rw [state, doing] at ended
      cases ended

/-- A member is parsed as the job it stands for, however often it was put back before, and a
job whose dispatches are all in vain is dispatched with one attempt after the other, then
gets the status `failed` and becomes a dead letter; nothing else ends its course. -/
theorem retries_keep_job (coercions : Coercions) (settings : Settings) (payload : WritingJobPayload) :
    ∃ job, (Member.enqueued payload).job? = some job ∧
      (∀ count, (reserialised coercions count (Text.stringify.text payload.json)).bind
        (parseJob coercions) = some { job with attempt := job.attempt + count }) ∧
      (payload.attempt = 0 → ∀ (world : World) (moves : List (jobQueue settings).Move)
        (chronicle : Chronicle) (last : (jobQueue settings).Config),
        world.membersOf payload.id = [] → world.deadOf payload.id = [] →
        Watched (Chronicle.watcher settings payload.id)
          (fun chronicle config move => InVain settings payload chronicle config move = true)
          .empty (.initial world) moves chronicle last →
        chronicle.deeds <+: course settings job ∧
        (chronicle.put = true → Retried coercions settings job chronicle last)) := by
  obtain ⟨job, parsed⟩ : ∃ job, (Member.enqueued payload).job? = some job := ⟨_, rfl⟩
  refine ⟨job, parsed, ?_, ?_⟩
  · exact parseJob_reserialised coercions (parseJob_text coercions parsed)
  · intro zero world moves chronicle last unqueued unburied run
    have sameId : payload.id = job.id := by
      cases Option.some.inj parsed
      rfl
    have first : job.attempt = 0 := by
      cases Option.some.inj parsed
      exact zero
    rw [sameId] at run unqueued unburied
    have fresh : Accounted settings job .empty world := by
      refine ⟨.nowhere, ⟨unqueued, ?_, nofun⟩, .inl ⟨rfl, rfl, unburied⟩⟩
      intro client step found
      constructor
      · rintro ⟨doing, _⟩
        cases doing
      · nofun
    have accounted : Accounted settings job chronicle last.world :=
      (accounted_keeps settings parsed first).run run (fun _ => rfl) fresh
    have ends := (Chronicle.phasesOf settings job.id).run_ends run (RetryPhase.program_ends settings)
      (fun _ => rfl)
    refine ⟨?_, fun put => accounted.retried coercions put ends⟩
    obtain ⟨spot, _, reached⟩ := accounted
    exact reached.deeds_prefix

/-- The sample job fails three times, in the hands of three workers. -/
def buriedMoves : List (jobQueue sampleSettings).Move :=
  enqueuing 0 ++ failingRound 1 "w1" ++ turns 1 6 ++
    .act (.environment (.advance 1000)) :: failingRound 2 "w2" ++ turns 2 6 ++
    .act (.environment (.advance 2000)) :: failingRound 3 "w3" ++ turns 3 9

/-- What `json` makes of values of another type does not matter to the sample. -/
def sampleCoercions : Coercions := ⟨fun _ => none, fun _ => none⟩

theorem sample_retries_keep_job :
    ∃ job, (Member.enqueued samplePayload).job? = some job ∧
      (∀ count, (reserialised sampleCoercions count (Text.stringify.text samplePayload.json)).bind
        (parseJob sampleCoercions) = some { job with attempt := job.attempt + count }) ∧
      ∃ chronicle last, Watched (Chronicle.watcher sampleSettings samplePayload.id)
          (fun chronicle config move => InVain sampleSettings samplePayload chronicle config move = true)
          .empty (.initial (World.empty 0)) buriedMoves chronicle last ∧
        chronicle.put = true ∧ chronicle.deeds = course sampleSettings job ∧
        Retried sampleCoercions sampleSettings job chronicle last := by
  obtain ⟨chronicle, last, run, checked⟩ := Watched.of_check
    (Chronicle.watcher sampleSettings samplePayload.id)
    (fun chronicle config move => InVain sampleSettings samplePayload chronicle config move = true)
    .empty (.initial (World.empty 0)) buriedMoves
    (fun chronicle _ => chronicle.put && chronicle.deeds.length == 5) (by decide +kernel)
  rw [Bool.and_eq_true, beq_iff_eq] at checked
  obtain ⟨job, parsed, texts, runs⟩ := retries_keep_job sampleCoercions sampleSettings samplePayload
  obtain ⟨part, retried⟩ := runs rfl (World.empty 0) buriedMoves chronicle last rfl rfl run
  have whole := part.eq_of_length checked.2
  exact ⟨job, parsed, texts, chronicle, last, run, checked.1, whole, retried checked.1⟩

end BrainMate.WriteRight
