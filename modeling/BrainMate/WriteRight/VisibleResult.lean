import BrainMate.WriteRight.Closing
import BrainMate.WriteRight.Results

namespace BrainMate.WriteRight

open Interleaving System Program Ledger

/-- Redis commands succeed, and whoever is about to add a result to its stream is not
cancelled. What else a client waits for may fail. -/
def Served (ledger : Ledger) (client : Nat) (outcome : Outcome) : Command → Bool
  | .redis _ | .isCircuitOpen => outcome.succeeds
  | _ =>
    match ledger.stages client with
    | .completed _ _ => outcome.succeeds
    | _ => true

/-- A reader that was told `completed` by the hash reads the stream when no worker is about
to add the result to it and before Redis drops it; one that was told so by the row does not
find there that the job has failed. -/
def Timed (ledger : Ledger) (world : World) (client : Nat) : Command → Prop
  | .redis (.xrange _) =>
    match ledger.stages client with
    | .saw jobId =>
      (∀ other job result, ledger.stages other = .completed job result → job.id ≠ jobId) ∧
        (world.streams jobId).all (fun stored => stored.alive world.clock) = true
    | .fell jobId _ =>
      ∀ error, (world.stream? jobId).bind List.head? ≠ some (.failure error)
    | _ => True
  | _ => True

/-- Each job is enqueued once, and no worker crashes between `completed` and the result. -/
def Observed (settings : Settings) (ledger : Ledger) (config : (jobQueue settings).Config)
    (move : (jobQueue settings).Move) : Prop :=
  EnqueuedOnce settings ledger config move ∧
    match move with
    | .act (.step client outcome) => ∀ command ∈ (config.threads client).next?,
        Served ledger client outcome command = true ∧ Timed ledger config.world client command
    | .crash client => ∀ job result, ledger.stages client ≠ .completed job result
    | _ => True

/-- The value is a result of `process_job` for the job. -/
def Produced (ledger : Ledger) (jobId : String) (data : ResultData) : Prop :=
  ∃ result, data = .result result ∧ (jobId, result) ∈ ledger.produced

/-- The result of a completed job is in its stream, and nobody will add to it; or there is
no stream yet, and a worker is about to add the result. -/
def Backed (ledger : Ledger) (world : World) (jobId : String) : Prop :=
  (∃ stored data rest, world.streams jobId = some stored ∧ stored.value = data :: rest ∧
    Produced ledger jobId data ∧
    ∀ client job, (ledger.stages client).publishing? = some job → job.id ≠ jobId) ∨
  (world.streams jobId = none ∧
    ∃ client job result, ledger.stages client = .completed job result ∧ job.id = jobId)

/-- What a client knows is so. -/
def Known (ledger : Ledger) (world : World) : Stage → Prop
  | .drafted job result => (job.id, result) ∈ ledger.produced
  | .completed job result | .published job result =>
    (job.id, result) ∈ ledger.produced ∧ job.id ∈ ledger.ended
  | .gaveUp job => job.id ∈ ledger.ended
  | .saw jobId => jobId ∈ ledger.ended ∧ Backed ledger world jobId
  | .fell jobId output => Produced ledger jobId output
  | .told jobId data => ∃ output, data = some output ∧ Produced ledger jobId output
  | .free | .holds _ | .started _ => True

structure Traced (settings : Settings) (ledger : Ledger) (world : World) : Prop where
  closed : Closed settings ledger world
  known : ∀ client, Known ledger world (ledger.stages client)
  backed : ∀ jobId, world.status? jobId = some .completed → Backed ledger world jobId
  unpublished : ∀ jobId, jobId ∉ ledger.ended → world.streams jobId = none
  heads : ∀ jobId stored, world.streams jobId = some stored → ∃ data rest,
    stored.value = data :: rest ∧ (Produced ledger jobId data ∨ ∃ error, data = .failure error)
  rows : ∀ row ∈ world.jobRows.rows, row.status = .completed → Produced ledger row.id row.output

variable {settings : Settings} {ledger : Ledger} {world : World} {client : Nat}
variable {command : Command} {outcome : Outcome} {jobId : String}

theorem Produced.noted {data : ResultData} (produced : Produced ledger jobId data) :
    Produced (noted settings ledger world client command outcome) jobId data := by
  obtain ⟨result, same, member⟩ := produced
  exact ⟨result, same, List.mem_append_right _ member⟩

theorem ended_noted (ended : jobId ∈ ledger.ended) :
    jobId ∈ (noted settings ledger world client command outcome).ended :=
  List.mem_append_right _ ended

private theorem unbroken_of_served (served : Served ledger client outcome command = true) :
    Unbroken ledger client outcome command = true := by
  have calm (succeeds : outcome.succeeds = true) : outcome.raises = false := by
    cases outcome with
    | ok | drafted _ _ => rfl
    | failed _ _ => cases succeeds
  unfold Unbroken
  split
  · rw [calm served]
    rfl
  · rw [calm served]
    rfl
  · rw [calm served]
    rfl
  · rfl

theorem undisturbed_of_succeeds (command : Command) (succeeds : outcome.succeeds = true) :
    Undisturbed outcome command = true := by
  cases outcome with
  | ok | drafted _ _ => cases command <;> rfl
  | failed _ _ => cases succeeds

namespace Traced

/-- Two workers that have a job in hand are one. -/
theorem same_holder (traced : Traced settings ledger world) {other : Nat} {first second : WritingJob}
    {spent spent' : Bool} (one : (ledger.stages client).credit = some (first, spent))
    (two : (ledger.stages other).credit = some (second, spent')) (same : first.id = second.id) :
    client = other :=
  Place.held.inj (traced.closed.sound.single first.id
    (show Place.held client ∈ _ from ⟨first, spent, one, rfl⟩)
    (show Place.held other ∈ _ from ⟨second, spent', two, same.symm⟩))

private theorem credit_of_publishing {stage : Stage} {job : WritingJob}
    (publishing : stage.publishing? = some job) : stage.credit = some (job, true) := by
  cases stage with
  | completed | gaveUp =>
    cases publishing
    rfl
  | _ => cases publishing

/-- Only the worker that ended a job is about to publish its end. -/
theorem unpublished_step (traced : Traced settings ledger world)
    (allowed : Stage.Allowed settings (ledger.stages client) command) (ended : jobId ∈ ledger.ended)
    (quiet : ∀ client job, (ledger.stages client).publishing? = some job → job.id ≠ jobId)
    (other : Nat) (job : WritingJob)
    (publishing : ((noted settings ledger world client command outcome).stages other).publishing? =
      some job) : job.id ≠ jobId := by
  by_cases same : other = client
  · subst same
    simp only [Function.update_self] at publishing
    rcases Stage.publishing_advance allowed publishing with before | opened
    · exact quiet other job before
    · exact traced.closed.not_open ended opened
  · simp only [Function.update_of_ne same] at publishing
    exact quiet other job publishing

/-- The worker that has written `completed` adds the result to the stream. -/
theorem backed_publish (traced : Traced settings ledger world) {job : WritingJob}
    {result : AIResult} (completed : ledger.stages client = .completed job result)
    (served : outcome.succeeds = true) (absent : world.streams job.id = none) :
    Backed (noted settings ledger world client (.redis (.xadd job.id (.result result))) outcome)
      (Command.exec outcome (.redis (.xadd job.id (.result result))) world).2 job.id := by
  have undisturbed := undisturbed_of_succeeds (.redis (.xadd job.id (.result result))) served
  have traces := traced.known client
  rw [completed] at traces
  have dropped : world.stream? job.id = none := by simp [World.stream?, absent]
  refine .inl ⟨⟨[.result result], none⟩, .result result, [], ?_, rfl,
    Produced.noted ⟨result, rfl, traces.1⟩, ?_⟩
  · rw [exec_undisturbed world undisturbed]
    simp [RedisCommand.effect, World.xadd, dropped]
  · intro other held publishing own
    by_cases same : other = client
    · subst same
      simp only [Function.update_self, completed] at publishing
      rw [advance_undisturbed _ undisturbed, exec_undisturbed world undisturbed] at publishing
      cases publishing
    · simp only [Function.update_of_ne same] at publishing
      exact same (traced.same_holder (credit_of_publishing publishing) (by rw [completed]; rfl) own)

/-- A worker that has written `completed` is there until it publishes. -/
theorem moved_completed {job : WritingJob} {result : AIResult}
    (allowed : Stage.Allowed settings (.completed job result) command)
    (unwritten : streamOf command ≠ some job.id) (reply : command.Reply) :
    (Stage.completed job result).moved command reply = .completed job result := by
  cases allowed with
  | aside isApart => exact Stage.moved_apart _ isApart reply
  | publish => exact absurd rfl unwritten
  | retry inHand | requeue inHand | giveUp inHand => cases inHand
  | circuit idle | look idle | lookRow idle => cases idle

private theorem backed_step (traced : Traced settings ledger world)
    (allowed : Stage.Allowed settings (ledger.stages client) command)
    (served : Served ledger client outcome command = true) (ended : jobId ∈ ledger.ended)
    (backed : Backed ledger world jobId) :
    Backed (noted settings ledger world client command outcome)
      (Command.exec outcome command world).2 jobId := by
  rcases backed with ⟨stored, data, rest, held, value, produced, quiet⟩ |
    ⟨absent, holder, job, result, completed, rfl⟩
  · have quiet' : ∀ other job,
        ((noted settings ledger world client command outcome).stages other).publishing? = some job →
          job.id ≠ jobId := traced.unpublished_step allowed ended quiet
    by_cases written : streamOf command = some jobId
    · obtain ⟨job, own, shapes⟩ := streamOf_cases allowed written
      rcases shapes with ⟨result, here, _⟩ | ⟨result, here, rfl⟩ | ⟨_, here, _⟩ | ⟨here, _⟩
      · exact absurd own (quiet client job (by rw [here]; rfl))
      · obtain ⟨renewed, held, same⟩ := Option.map_eq_some_iff.mp
          ((streams_expireStream statusTtlSecs).trans (congrArg (Option.map Stored.value) held))
        exact .inl ⟨renewed, data, rest, held, same.trans value, produced.noted, quiet'⟩
      · exact absurd own (quiet client job (by rw [here]; rfl))
      · exact absurd own (quiet client job (by rw [here]; rfl))
    · refine .inl ⟨stored, data, rest, ?_, value, produced.noted, quiet'⟩
      rw [streams_exec written]
      exact held
  · by_cases same : client = holder
    · subst same
      have succeeds : outcome.succeeds = true := by
        simp only [Served, completed] at served
        split at served <;> exact served
      have undisturbed := undisturbed_of_succeeds command succeeds
      by_cases written : streamOf command = some job.id
      · obtain ⟨other, _, shapes⟩ := streamOf_cases allowed written
        rw [completed] at shapes
        rcases shapes with ⟨found, here, rfl⟩ | ⟨_, here, _⟩ | ⟨_, here, _⟩ | ⟨here, _⟩
        · cases here
          exact traced.backed_publish completed succeeds absent
        all_goals cases here
      · refine .inr ⟨by rw [streams_exec written]; exact absent, client, job, result, ?_, rfl⟩
        simp only [Function.update_self]
        rw [advance_undisturbed _ undisturbed, completed]
        exact moved_completed (completed ▸ allowed) written _
    · have written : streamOf command ≠ some job.id := by
        intro written
        obtain ⟨other, own, shapes⟩ := streamOf_cases allowed written
        obtain ⟨spent, credited⟩ : ∃ spent, (ledger.stages client).credit = some (other, spent) := by
          rcases shapes with ⟨_, here, _⟩ | ⟨_, here, _⟩ | ⟨_, here, _⟩ | ⟨here, _⟩ <;>
            exact ⟨true, by rw [here]; rfl⟩
        exact same (traced.same_holder credited (by rw [completed]; rfl) own)
      refine .inr ⟨by rw [streams_exec written]; exact absent, holder, job, result, ?_, rfl⟩
      simpa only [Function.update_of_ne (Ne.symm same)] using completed

/-- What a client knows stays so. -/
theorem known_noted (traced : Traced settings ledger world)
    (allowed : Stage.Allowed settings (ledger.stages client) command)
    (served : Served ledger client outcome command = true) {stage : Stage}
    (known : Known ledger world stage) :
    Known (noted settings ledger world client command outcome)
      (Command.exec outcome command world).2 stage := by
  cases stage with
  | drafted job result => exact List.mem_append_right _ known
  | completed job result | published job result =>
    exact ⟨List.mem_append_right _ known.1, ended_noted known.2⟩
  | gaveUp job => exact ended_noted known
  | saw jobId => exact ⟨ended_noted known.1, traced.backed_step allowed served known.1 known.2⟩
  | fell jobId output => exact known.noted
  | told jobId data =>
    obtain ⟨output, same, produced⟩ := known
    exact ⟨output, same, produced.noted⟩
  | free | holds | started => trivial

/-- The worker that writes `completed` is the only one that publishes anything of its job. -/
theorem backed_complete (traced : Traced settings ledger world)
    (allowed : Stage.Allowed settings (ledger.stages client) command)
    (served : Served ledger client outcome command = true) {job : WritingJob}
    (given : writes command = some (job.id, .completed)) {result : AIResult}
    (drafted : ledger.stages client = .drafted job result) :
    Backed (noted settings ledger world client command outcome)
      (Command.exec outcome command world).2 job.id := by
  have unended : job.id ∉ ledger.ended := by
    intro ended
    exact traced.closed.not_open ended (by rw [drafted]; rfl) rfl
  have same : command = .redis (.setStatus job.id { status := some .completed } statusTtlSecs) := by
    rw [drafted] at allowed
    cases allowed with
    | complete => rfl
    | retry inHand | requeue inHand | giveUp inHand => cases inHand
    | aside isApart =>
      rw [writes_apart isApart] at given
      cases given
    | circuit | look | lookRow => cases given
  subst same
  have undisturbed := undisturbed_of_succeeds
    (.redis (.setStatus job.id { status := some .completed } statusTtlSecs)) served
  refine .inr ⟨?_, client, job, result, ?_, rfl⟩
  · rw [streams_exec (by simp [streamOf])]
    exact traced.unpublished job.id unended
  · simp only [Function.update_self, drafted]
    rw [advance_undisturbed _ undisturbed, exec_undisturbed world undisturbed]
    rfl

/-- A status that is `completed` is backed. -/
theorem status_step (traced : Traced settings ledger world)
    (allowed : Stage.Allowed settings (ledger.stages client) command)
    (served : Served ledger client outcome command = true)
    (found : (Command.exec outcome command world).2.status? jobId = some .completed) :
    Backed (noted settings ledger world client command outcome)
      (Command.exec outcome command world).2 jobId := by
  have kept (before : world.status? jobId = some .completed) :
      Backed (noted settings ledger world client command outcome)
        (Command.exec outcome command world).2 jobId :=
    traced.backed_step allowed served (traced.closed.known jobId (by simp [before, Status.terminal]))
      (traced.backed jobId before)
  rcases status?_exec_cases allowed found with ⟨_, given⟩ | before
  · rcases writes_cases allowed given with ⟨pending, _⟩ | ⟨job, rfl, shapes⟩
    · cases pending
    · rcases shapes with ⟨other, _⟩ | ⟨other, _⟩ | ⟨other, _⟩ | ⟨_, result, drafted⟩
      · cases other
      · cases other
      · cases other
      · exact traced.backed_complete allowed served given drafted
  · exact kept before

/-- A hash that says `completed` tells a reader what is so. -/
theorem known_looked (traced : Traced settings ledger world)
    (allowed : Stage.Allowed settings (ledger.stages client) (.redis (.hgetall jobId)))
    (served : outcome.succeeds = true) {hash : StatusHash} (found : world.hash? jobId = some hash)
    (completed : hash.status = some .completed) :
    Known (noted settings ledger world client (.redis (.hgetall jobId)) outcome)
      (Command.exec outcome (.redis (.hgetall jobId)) world).2 (.saw jobId) := by
  have status : world.status? jobId = some .completed := by
    rw [World.status?, found]
    exact completed
  have ended := traced.closed.known jobId (by simp [status, Status.terminal])
  exact ⟨ended_noted ended, traced.backed_step allowed served ended (traced.backed jobId status)⟩

/-- A reader that asks for the result at the right time finds it. -/
theorem known_fetched (traced : Traced settings ledger world)
    (saw : ledger.stages client = .saw jobId) {asked : String}
    (timed : Timed ledger world client (.redis (.xrange asked))) :
    ∃ data, (world.stream? jobId).bind List.head? = some data ∧ Produced ledger jobId data := by
  simp only [Timed, saw] at timed
  obtain ⟨settled, lasting⟩ := timed
  have known := traced.known client
  rw [saw] at known
  obtain ⟨_, ⟨stored, data, rest, held, value, produced, _⟩ |
    ⟨_, other, job, result, completed, own⟩⟩ := known
  · rw [held] at lasting
    refine ⟨data, ?_, produced⟩
    rw [World.stream?_eq_some.mpr ⟨stored, held, lasting, value⟩]
    rfl
  · exact absurd own (settled other job result completed)

/-- What is first in a stream is a result, unless it is the report of a failure. -/
theorem produced_head (traced : Traced settings ledger world) {data : ResultData}
    (first : (world.stream? jobId).bind List.head? = some data)
    (unfailed : ∀ error, data ≠ .failure error) : Produced ledger jobId data := by
  obtain ⟨entries, found, head⟩ := Option.bind_eq_some_iff.mp first
  obtain ⟨stored, held, _, rfl⟩ := World.stream?_eq_some.mp found
  obtain ⟨other, rest, value, produced | ⟨error, rfl⟩⟩ := traced.heads jobId stored held
  · rw [value] at head
    cases head
    exact produced
  · rw [value] at head
    cases head
    exact absurd rfl (unfailed error)

private theorem performed_of_succeeds (succeeds : outcome.succeeds = true) :
    Command.performed outcome = true := by
  cases outcome with
  | ok | drafted _ _ => rfl
  | failed _ _ => cases succeeds

/-- What the client of a command knows after it is so. -/
theorem known_own (traced : Traced settings ledger world)
    (allowed : Stage.Allowed settings (ledger.stages client) command)
    (served : Served ledger client outcome command = true)
    (timed : Timed ledger world client command) :
    Known (noted settings ledger world client command outcome) (Command.exec outcome command world).2
      ((ledger.stages client).advance command (Command.exec outcome command world).1) := by
  have kept := traced.known_noted allowed served (traced.known client)
  have succeeds {redis : RedisCommand} (same : command = .redis redis) : outcome.succeeds = true := by
    subst same
    exact served
  have ends (performed : Command.performed outcome = true) {jobId : String}
      (ends : jobId ∈ Ledger.ends command) :
      jobId ∈ (noted settings ledger world client command outcome).ended := by
    refine List.mem_append_left _ ?_
    rw [performed]
    exact ends
  rcases Stage.advance_free_or (ledger.stages client) command (Command.exec outcome command world).1
    with dropped | moved
  · rw [dropped]
    trivial
  rw [moved]
  obtain ⟨stage, here⟩ : ∃ stage, ledger.stages client = stage := ⟨_, rfl⟩
  obtain ⟨reply, answered⟩ : ∃ reply, (Command.exec outcome command world).1 = reply := ⟨_, rfl⟩
  have legal := allowed
  rw [answered]
  rw [here] at allowed kept ⊢
  cases allowed with
  | aside isApart =>
    rw [Stage.moved_apart stage isApart]
    exact kept
  | dispatched job result =>
    rcases reply with _ | _
    · trivial
    · exact List.mem_append_left _ (List.mem_singleton.mpr rfl)
  | complete job result =>
    rcases reply with _ | _
    · trivial
    · exact ⟨kept, ends (performed_of_succeeds (succeeds rfl)) (List.mem_singleton.mpr rfl)⟩
  | publish job result =>
    rcases reply with _ | _
    · trivial
    · exact kept
  | giveUp inHand error =>
    rcases reply with _ | _
    · cases inHand <;> trivial
    · cases inHand <;>
        exact ends (performed_of_succeeds (succeeds rfl)) (List.mem_singleton.mpr rfl)
  | report job error =>
    rcases reply with _ | _
    · trivial
    · exact kept
  | retry inHand error => rcases reply with _ | _ <;> cases inHand <;> trivial
  | circuit idle =>
    have unopened : reply = false := by
      rw [← answered]
      cases outcome with
      | ok | drafted _ _ => rfl
      | failed _ _ => cases served
    subst unopened
    cases stage with
    | holds | started | drafted | completed | published | gaveUp => cases idle
    | _ => exact kept
  | look idle jobId =>
    rw [exec_undisturbed world (undisturbed_of_succeeds _ served)] at answered
    subst answered
    cases found : world.hash? jobId with
    | none =>
      rw [RedisCommand.answer, found]
      trivial
    | some hash =>
      rw [RedisCommand.answer, found]
      change Known _ _ (if hash.status = some .completed then Stage.saw jobId else .free)
      split
      · exact traced.known_looked legal served found ‹_›
      · trivial
  | lookRow idle jobId userId =>
    rcases reply with _ | _ | row
    · trivial
    · trivial
    · change Known _ _ (if row.status = .completed then Stage.fell jobId row.output else .free)
      split
      · rename_i completed
        have stored := row_of_selectJob answered
        exact stored.2 ▸ (traced.rows row stored.1 completed).noted
      · trivial
  | fetch jobId =>
    rw [exec_undisturbed world (undisturbed_of_succeeds _ served)] at answered
    subst answered
    obtain ⟨data, first, produced⟩ := traced.known_fetched here timed
    exact ⟨data, first, produced.noted⟩
  | fetchRow jobId output =>
    rw [exec_undisturbed world (undisturbed_of_succeeds _ served)] at answered
    subst answered
    simp only [Timed, here] at timed
    cases first : (world.stream? jobId).bind List.head? with
    | none => exact ⟨output, congrArg (· <|> some output) first, kept⟩
    | some data =>
      refine ⟨data, congrArg (· <|> some output) first, ?_⟩
      exact (traced.produced_head first fun error same => timed error (same ▸ first)).noted
  | pop now =>
    rcases reply with _ | _ | member
    · trivial
    · trivial
    · change Known _ _ ((member.job?.map Stage.holds).getD .free)
      cases member.job? <;> trivial
  | lock => rcases reply with _ | _ | _ <;> trivial
  | enqueue | pend | dispatch | persist | requeue => trivial
  | slot | process | keep | keepReport => rcases reply with _ | _ <;> trivial

private theorem streams_step (traced : Traced settings ledger world)
    (allowed : Stage.Allowed settings (ledger.stages client) command)
    (open_ : jobId ∉ (noted settings ledger world client command outcome).ended) :
    (Command.exec outcome command world).2.streams jobId = none := by
  have before : jobId ∉ ledger.ended := fun ended => open_ (ended_noted ended)
  rw [streams_exec]
  · exact traced.unpublished jobId before
  · intro written
    obtain ⟨job, rfl, shapes⟩ := streamOf_cases allowed written
    have known := traced.known client
    rcases shapes with ⟨_, here, _⟩ | ⟨_, here, _⟩ | ⟨_, here, _⟩ | ⟨here, _⟩ <;> rw [here] at known
    · exact before known.2
    · exact before known.2
    · exact before known
    · exact before known

private theorem heads_step (traced : Traced settings ledger world)
    (allowed : Stage.Allowed settings (ledger.stages client) command)
    {stored : Stored (List ResultData)}
    (held : (Command.exec outcome command world).2.streams jobId = some stored) :
    ∃ data rest, stored.value = data :: rest ∧
      (Produced (noted settings ledger world client command outcome) jobId data ∨
        ∃ error, data = .failure error) := by
  have kept {before : Stored (List ResultData)} (held : world.streams jobId = some before) :
      ∃ data rest, before.value = data :: rest ∧
        (Produced (noted settings ledger world client command outcome) jobId data ∨
          ∃ error, data = .failure error) := by
    obtain ⟨data, rest, value, origin⟩ := traced.heads jobId before held
    exact ⟨data, rest, value, origin.imp Produced.noted id⟩
  -- An entry that is added comes last, so that the first one stays unless it is the only one.
  have added {data : ResultData} (same : command = .redis (.xadd jobId data))
      (origin : Produced (noted settings ledger world client command outcome) jobId data ∨
        ∃ error, data = .failure error) :
      ∃ data rest, stored.value = data :: rest ∧
        (Produced (noted settings ledger world client command outcome) jobId data ∨
          ∃ error, data = .failure error) := by
    subst same
    rcases streams_xadd held with before | value | ⟨before, held, value⟩
    · exact kept before
    · exact ⟨data, [], value, origin⟩
    · obtain ⟨first, rest, same, origin⟩ := kept held
      exact ⟨first, rest ++ [data], by rw [value, same]; rfl, origin⟩
  have expired {ttlSecs : Nat} (same : command = .redis (.expireStream jobId ttlSecs)) :
      ∃ data rest, stored.value = data :: rest ∧
        (Produced (noted settings ledger world client command outcome) jobId data ∨
          ∃ error, data = .failure error) := by
    subst same
    obtain ⟨before, held, value⟩ := Option.map_eq_some_iff.mp
      ((streams_expireStream ttlSecs).symm.trans (congrArg (Option.map Stored.value) held))
    exact value ▸ kept held
  by_cases written : streamOf command = some jobId
  · obtain ⟨job, rfl, shapes⟩ := streamOf_cases allowed written
    rcases shapes with ⟨result, here, same⟩ | ⟨_, _, rfl⟩ | ⟨error, _, same⟩ | ⟨_, rfl⟩
    · have known := traced.known client
      rw [here] at known
      exact added same (.inl (Produced.noted ⟨result, rfl, known.1⟩))
    · exact expired rfl
    · exact added same (.inr ⟨error, rfl⟩)
    · exact expired rfl
  · rw [streams_exec written] at held
    exact kept held

private theorem rows_step (traced : Traced settings ledger world)
    (allowed : Stage.Allowed settings (ledger.stages client) command) {row : JobRow}
    (stored : row ∈ (Command.exec outcome command world).2.jobRows.rows)
    (completed : row.status = .completed) :
    Produced (noted settings ledger world client command outcome) row.id row.output := by
  rcases rows_exec allowed stored completed with before | ⟨result, rfl, output⟩
  · exact (traced.rows row before completed).noted
  · exact ⟨result, output, List.mem_append_left _ (List.mem_singleton.mpr rfl)⟩

end Traced

/-- A crash takes nothing from a completed job, unless it hits the worker that is about to
add the result to the stream. -/
theorem Backed.crash (backed : Backed ledger world jobId)
    (unfinished : ∀ job result, ledger.stages client ≠ .completed job result) :
    Backed { ledger with stages := Function.update ledger.stages client .free } world jobId := by
  rcases backed with ⟨stored, data, rest, held, value, produced, quiet⟩ |
    ⟨absent, holder, job, result, completed, own⟩
  · refine .inl ⟨stored, data, rest, held, value, produced, fun other job publishing => ?_⟩
    by_cases same : other = client
    · subst same
      simp only [Function.update_self] at publishing
      cases publishing
    · simp only [Function.update_of_ne same] at publishing
      exact quiet other job publishing
  · have other : holder ≠ client := by
      rintro rfl
      exact unfinished job result completed
    refine .inr ⟨absent, holder, job, result, ?_, own⟩
    simpa only [Function.update_of_ne other] using completed

private theorem known_crash {stage : Stage}
    (unfinished : ∀ job result, ledger.stages client ≠ .completed job result)
    (known : Known ledger world stage) :
    Known { ledger with stages := Function.update ledger.stages client .free } world stage := by
  cases stage with
  | saw jobId => exact ⟨known.1, known.2.crash unfinished⟩
  | _ => exact known

private theorem traced_keeps (settings : Settings) :
    (Ledger.phases settings).Keeps (Observed settings) (Traced settings) where
  follows _ _ _ call _ := Stage.program_follows settings call
  command ledger config client outcome call command rest permitted running allowed traced := by
    obtain ⟨once, permitted⟩ := permitted
    obtain ⟨served, timed⟩ := permitted command (by rw [running]; rfl)
    refine ⟨traced.closed.command_step once running allowed (unbroken_of_served served), ?_,
      fun _ => traced.status_step allowed served, fun _ => traced.streams_step allowed,
      fun _ _ => traced.heads_step allowed, fun _ => traced.rows_step allowed⟩
    intro other
    by_cases same : other = client
    · subst same
      simp only [Function.update_self]
      exact traced.known_own allowed served timed
    · simp only [Function.update_of_ne same]
      exact traced.known_noted allowed served (traced.known other)
  event ledger config event permitted traced := by
    refine ⟨traced.closed.event_step, ?_, ?_, ?_, ?_, ?_⟩
    · intro client
      have known := traced.known client
      cases event <;> exact known
    · intro jobId found
      have backed := traced.backed jobId (status?_event found)
      cases event <;> exact backed
    · cases event <;> exact traced.unpublished
    · cases event <;> exact traced.heads
    · cases event <;> exact traced.rows
  crash ledger config client permitted traced := by
    refine ⟨traced.closed.crash_step, ?_, fun jobId found => (traced.backed jobId found).crash permitted.2,
      traced.unpublished, traced.heads, traced.rows⟩
    intro other
    by_cases same : other = client
    · subst same
      simp only [Function.update_self]
      trivial
    · simp only [Function.update_of_ne same]
      exact known_crash permitted.2 (traced.known other)

/-- Whatever the interleaving, when Redis commands succeed and readers come at the right
time: a poll or a stream that reports a completed job returns a result that `process_job`
has produced for it. The pseudo job `cached` apart, which no worker ever processes. -/
theorem completed_job_shows_result (settings : Settings) {world : World} (empty : world.jobs = [])
    (unseen : ∀ jobId, world.hashes jobId = none ∧ world.streams jobId = none)
    (unfinished : ∀ row ∈ world.jobRows.rows, row.status ≠ .completed)
    {moves : List (jobQueue settings).Move} {ledger : Ledger} {last : (jobQueue settings).Config}
    (run : Watched (Ledger.watcher settings) (Observed settings) .empty (.initial world) moves
      ledger last) (client : Nat) (userId : Option String) (jobId : String) :
    (∀ data, last.threads client = .returned (.poll userId jobId) (.ok (.completed data)) →
      ∃ result, data = some (.result result) ∧ (jobId, result) ∈ ledger.produced) ∧
    (∀ rounds sent data, jobId ≠ "cached" →
      last.threads client = .returned (.stream userId jobId rounds) (.ok sent) →
      .result data ∈ sent →
      ∃ result, data = some (.result result) ∧ (jobId, result) ∈ ledger.produced) := by
  have fresh (jobId : String) : (world.status? jobId).any Status.terminal = false := by
    simp [World.status?, World.hash?, (unseen jobId).1]
  have initially : Traced settings .empty world := by
    refine ⟨.empty settings empty fresh, fun _ => trivial, ?_, fun jobId _ => (unseen jobId).2, ?_, ?_⟩
    · intro jobId found
      simp [World.status?, World.hash?, (unseen jobId).1] at found
    · intro jobId stored held
      rw [(unseen jobId).2] at held
      cases held
    · exact fun row member completed => absurd completed (unfinished row member)
  have traced : Traced settings ledger last.world :=
    (traced_keeps settings).run run (fun _ => rfl) initially
  have ends : ThreadEnds (Stage.observer settings) Stage.Ends (ledger.stages client)
      (last.threads client) :=
    (Ledger.phases settings).run_ends run (Stage.program_ends settings) (fun _ => rfl) client
  have shown {data : Option ResultData} (told : ledger.stages client = .told jobId data) :
      ∃ result, data = some (.result result) ∧ (jobId, result) ∈ ledger.produced := by
    have known := traced.known client
    rw [told] at known
    obtain ⟨output, rfl, result, rfl, produced⟩ := known
    exact ⟨result, rfl, produced⟩
  constructor
  · intro data returned
    rw [returned] at ends
    exact shown (ends.2 data rfl)
  · intro rounds sent data real returned member
    rw [returned] at ends
    exact shown (ends.2 data ⟨real, sent, rfl, member⟩)

/-- Every command succeeds and nobody crashes. -/
def Faultless : (jobQueue sampleSettings).Move → Bool
  | .act (.step _ outcome) => outcome.succeeds
  | .act (.start _ _) | .act (.environment _) => true
  | .crash _ => false

/-- What a poll of a client has returned. -/
def polled? (config : (jobQueue sampleSettings).Config) (client : Nat) :
    Option (Option String × String × Except Failure JobReply) :=
  match config.threads client with
  | .returned (.poll userId jobId) reply => some (userId, jobId, reply)
  | _ => none

private theorem returned_of_polled {config : (jobQueue sampleSettings).Config}
    {userId : Option String}
    {reply : Except Failure JobReply} (polled : polled? config client = some (userId, jobId, reply)) :
    config.threads client = .returned (.poll userId jobId) reply := by
  unfold polled? at polled
  split at polled
  · rename_i found
    cases polled
    exact found
  · cases polled

/-- A client polls the sample job. -/
def polling (client : Nat) : List (jobQueue sampleSettings).Move :=
  .act (.start client (.poll (some samplePayload.userId) samplePayload.id)) :: turns client 3

/-- With three clients: the reader comes when no worker is about to publish. -/
def Spaced (ledger : Ledger) (config : (jobQueue sampleSettings).Config)
    (move : (jobQueue sampleSettings).Move) : Prop :=
  EnqueuedOnce sampleSettings ledger config move ∧ Faultless move = true ∧
    move.client?.all (· < 3) = true ∧
    match move with
    | .act (.step client _) =>
      (match ledger.stages client with
        | .saw jobId => (List.range 3).all (fun other => (ledger.stages other).publishing?.isNone) &&
            (config.world.streams jobId).all fun stored => stored.alive config.world.clock
        | .fell _ _ => false
        | _ => true) = true
    | _ => True

instance (ledger : Ledger) (config : (jobQueue sampleSettings).Config)
    (move : (jobQueue sampleSettings).Move) : Decidable (Spaced ledger config move) := by
  unfold Spaced
  cases move with
  | act action => cases action <;> infer_instance
  | crash client => infer_instance

private theorem observed_of_spaced {ledger : Ledger} {config : (jobQueue sampleSettings).Config}
    {move : (jobQueue sampleSettings).Move} (spaced : Spaced ledger config move)
    (few : ∀ client, 3 ≤ client → ledger.stages client = .free) :
    Observed sampleSettings ledger config move := by
  obtain ⟨once, faultless, _, timed⟩ := spaced
  refine ⟨once, ?_⟩
  rcases move with (⟨client, call⟩ | ⟨client, outcome⟩ | event) | client
  · trivial
  · have succeeds : outcome.succeeds = true := faultless
    intro command _
    constructor
    · unfold Served
      split
      · exact succeeds
      · exact succeeds
      · split
        · exact succeeds
        · rfl
    · unfold Timed
      split
      · dsimp only at timed
        split
        · rename_i here
          simp only [here, Bool.and_eq_true, List.all_eq_true, List.mem_range] at timed
          refine ⟨fun other job result completed => ?_, timed.2⟩
          by_cases known : other < 3
          · have none_ := timed.1 other known
            rw [completed] at none_
            cases none_
          · rw [few other (by omega)] at completed
            cases completed
        · rename_i here
          simp [here] at timed
        · trivial
      · trivial
  · trivial
  · cases faultless

/-- The worker has added the result to the stream when the job is polled. -/
theorem polled_result_shown :
    ∃ ledger last, Watched (Ledger.watcher sampleSettings) (Observed sampleSettings) .empty
        (.initial (World.empty 0))
        (enqueuing 0 ++ completingRound 1 "w1" ++ turns 1 1 ++ polling 2) ledger last ∧
      ∃ data, last.threads 2 = .returned (.poll (some samplePayload.userId) samplePayload.id)
          (.ok (.completed data)) ∧
        ∃ result, data = some (.result result) ∧ (samplePayload.id, result) ∈ ledger.produced := by
  obtain ⟨ledger, last, run, shown⟩ := Watched.of_check (Ledger.watcher sampleSettings) Spaced
    .empty (.initial (World.empty 0))
    (enqueuing 0 ++ completingRound 1 "w1" ++ turns 1 1 ++ polling 2)
    (fun _ last => decide (polled? last 2 = some (some samplePayload.userId, samplePayload.id,
      .ok (.completed (some (.result sampleResult)))))) (by decide +kernel)
  have few : Watched (Ledger.watcher sampleSettings) (Observed sampleSettings) .empty
      (.initial (World.empty 0))
      (enqueuing 0 ++ completingRound 1 "w1" ++ turns 1 1 ++ polling 2) ledger last := by
    refine run.imp_of_invariant
      (fun (ledger : Ledger) _ => ∀ client, 3 ≤ client → ledger.stages client = .free) ?_
      (fun _ _ _ => observed_of_spaced) (fun _ _ => rfl)
    intro ledger config move next spaced moved few client large
    have other : move.client? ≠ some client := by
      intro own
      have small := spaced.2.2.1
      rw [own] at small
      exact absurd large (Nat.not_le.mpr (by simpa using small))
    exact ((Ledger.phases sampleSettings).note_other moved other).trans (few client large)
  have returned := returned_of_polled (of_decide_eq_true shown)
  refine ⟨ledger, last, few, some (.result sampleResult), returned, ?_⟩
  exact (completed_job_shows_result sampleSettings rfl (fun _ => ⟨rfl, rfl⟩)
    (fun _ member => by cases member) few 2 (some samplePayload.userId) samplePayload.id).1 _ returned

/-- The job is polled after the write of `completed` and before the result is added to the
stream: it is reported as completed, with no result. -/
theorem completed_without_result :
    ∃ ledger last, Watched (Ledger.watcher sampleSettings)
        (fun ledger config move => EnqueuedOnce sampleSettings ledger config move ∧
          Faultless move = true) .empty (.initial (World.empty 0))
        (enqueuing 0 ++ completingRound 1 "w1" ++ polling 2) ledger last ∧
      last.threads 2 = .returned (.poll (some samplePayload.userId) samplePayload.id)
        (.ok (.completed none)) := by
  obtain ⟨ledger, last, run, shown⟩ := Watched.of_check (Ledger.watcher sampleSettings)
    (fun ledger config move => EnqueuedOnce sampleSettings ledger config move ∧
      Faultless move = true) .empty (.initial (World.empty 0))
    (enqueuing 0 ++ completingRound 1 "w1" ++ polling 2)
    (fun _ last => decide (polled? last 2 = some (some samplePayload.userId, samplePayload.id,
      .ok (.completed none)))) (by decide +kernel)
  exact ⟨ledger, last, run, returned_of_polled (of_decide_eq_true shown)⟩

end BrainMate.WriteRight
