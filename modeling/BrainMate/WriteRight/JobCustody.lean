import BrainMate.WriteRight.Statuses

namespace BrainMate.WriteRight

open Interleaving System Program

/-- The answered command starts the dispatch of the job, ends the job or puts it back; or
it is one of the answers after which the worker lets go of its job. -/
inductive Settles (jobId : String) : (command : Command) → command.Reply → Prop where
  | dispatch (job : WritingJob) (own : job.id = jobId) (reply : Except Failure Unit) :
      Settles jobId (.dispatch job) reply
  | requeue (job : WritingJob) (own : job.id = jobId) (score : Nat) (reply : Except Failure Unit) :
      Settles jobId (.redis (.zadd (.requeued job) score)) reply
  | finish (fields : StatusHash) (terminal : fields.status.any Status.terminal = true)
      (ttlSecs : Nat) (reply : Except Failure Unit) :
      Settles jobId (.redis (.setStatus jobId fields ttlSecs)) reply
  /-- Someone else holds the lock. -/
  | refused (locked value : String) (ttlSecs : Nat) :
      Settles jobId (.redis (.setLock locked value ttlSecs)) (.ok false)
  | failed (command : RedisCommand) (failure : Failure) :
      Settles jobId (.redis command) (.error failure)
  | noSlot (failure : Failure) : Settles jobId .acquireSlot (.error failure)
  | cancelled (command : Command) (reply : command.Reply)
      (cancels : Stage.cancels command reply = true) : Settles jobId command reply

/-- The worker has a job with this id and has not ended it. -/
def Stage.HasOpen (jobId : String) (stage : Stage) : Prop :=
  ∃ job, stage.open? = some job ∧ job.id = jobId

theorem Stage.not_hasOpen_of_idle {jobId : String} {stage : Stage} (idle : stage.job? = none) :
    ¬ stage.HasOpen jobId := by
  rintro ⟨job, found, _⟩
  cases stage with
  | holds | started | drafted => cases idle
  | _ => cases found

private theorem settles_of_leaves {settings : Settings} {jobId : String} (stage : Stage)
    (command : Command) (reply : command.Reply) (allowed : Stage.Allowed settings stage command)
    (within : stage.HasOpen jobId) (left : ¬ (stage.advance command reply).HasOpen jobId) :
    Settles jobId command reply := by
  by_cases cancels : Stage.cancels command reply = true
  · exact .cancelled command reply cancels
  have moved : stage.advance command reply = stage.moved command reply := by
    simp [Stage.advance, cancels]
  rw [moved] at left
  obtain ⟨job, opened, rfl⟩ := within
  have stays (same : stage.moved command reply = stage) : Settles job.id command reply :=
    absurd ⟨job, by rw [same]; exact opened, rfl⟩ left
  cases allowed with
  | enqueue | pend | pop | publish | keep | report | keepReport | fetch | fetchRow => cases opened
  | circuit idle | look idle | lookRow idle =>
    exact absurd ⟨job, opened, rfl⟩ (Stage.not_hasOpen_of_idle idle)
  | slot held =>
    rcases reply with failure | _
    · exact .noSlot failure
    · exact stays rfl
  | lock held value ttlSecs =>
    rcases reply with failure | _ | _
    · exact .failed _ failure
    · exact .refused _ value ttlSecs
    · exact stays rfl
  | process held =>
    rcases reply with failure | _
    · exact .failed _ failure
    · exact stays rfl
  | dispatch held =>
    cases opened
    exact .dispatch job rfl reply
  | persist held result => exact stays rfl
  | dispatched held result =>
    cases opened
    rcases reply with failure | _
    · exact stays rfl
    · exact absurd ⟨job, rfl, rfl⟩ left
  | complete held result =>
    cases opened
    exact .finish _ rfl _ reply
  | retry inHand error =>
    rcases reply with failure | _
    · exact .failed _ failure
    · cases inHand <;> exact stays rfl
  | requeue inHand attempts score =>
    cases inHand <;> cases opened <;> exact .requeue job.failedOnce rfl score reply
  | giveUp inHand error =>
    cases inHand <;> cases opened <;> exact .finish _ rfl _ reply
  | aside isApart => exact stays (Stage.moved_apart stage isApart reply)

variable {settings : Settings}

/-- A task has popped the job and will, unless it is disturbed, dispatch it, end it or put
it back: whatever it is answered, it comes to such a command. -/
def InTask (config : (jobQueue settings).Config) (jobId : String) : Prop :=
  ∃ client call rest, config.threads client = .running call rest ∧
    rest.Passes (Settles jobId) fun _ => True

/-- The job is in the queue, in the hands of a worker, or over. -/
def Secure (ledger : Ledger) (world : World) (jobId : String) : Prop :=
  (∃ member score job, (member, score) ∈ world.jobs ∧ member.job? = some job ∧ job.id = jobId) ∨
  (∃ client, (ledger.stages client).HasOpen jobId) ∨
  (world.status? jobId).any Status.terminal = true

/-- The lock of a popped job is free, and a late `pending` does not hide the end of a job. -/
def Timely (world : World) : Command → Bool
  | .redis (.setLock jobId _ ttlSecs) => ttlSecs ≠ 0 && world.lock? jobId = none
  | .redis (.hset jobId _) => !(world.status? jobId).any Status.terminal
  | _ => true

/-- No status of a job that is over expires. -/
def Lasting (ledger : Ledger) (world : World) : Event → Bool
  | .advance millis => ledger.put.all fun jobId =>
      !(world.status? jobId).any Status.terminal ||
        (world.hashes jobId).any fun stored => stored.alive (world.clock + millis)
  | .dropLock _ => true

def Attended (settings : Settings) (ledger : Ledger) (config : (jobQueue settings).Config) :
    (jobQueue settings).Move → Bool
  | .crash _ => false
  | .act (.start _ _) => true
  | .act (.environment event) => Lasting ledger config.world event
  | .act (.step client outcome) =>
    (config.threads client).next?.all fun command =>
      Undisturbed outcome command && Timely config.world command

variable {ledger : Ledger} {world : World} {client : Nat} {command : Command} {outcome : Outcome}

private theorem answer_ok (redis : RedisCommand) (timely : Timely world (.redis redis) = true) :
    ∃ value, redis.answer world = .ok value := by
  cases redis with
  | setLock jobId value ttlSecs =>
    simp only [Timely, Bool.and_eq_true, decide_eq_true_eq] at timely
    exact ⟨true, by simp [RedisCommand.answer, timely]⟩
  | _ => exact ⟨_, rfl⟩

/-- A worker that is not disturbed and finds its lock free lets go of an open job only to
end it or to put it back. -/
theorem secure_of_leaves {jobId : String}
    (allowed : Stage.Allowed settings (ledger.stages client) command)
    (undisturbed : Undisturbed outcome command = true) (timely : Timely world command = true)
    (within : (ledger.stages client).HasOpen jobId)
    (left : ¬ ((ledger.stages client).advance command
      (Command.exec outcome command world).1).HasOpen jobId) :
    Secure (Ledger.noted settings ledger world client command outcome)
      (Command.exec outcome command world).2 jobId := by
  have uncancelled := not_cancels world undisturbed
  have settles := settles_of_leaves _ command _ allowed within left
  obtain ⟨reply, answered⟩ : ∃ reply, (Command.exec outcome command world).1 = reply := ⟨_, rfl⟩
  rw [answered] at settles uncancelled
  cases settles with
  | dispatch job own =>
    have holds : ledger.stages client = .holds job := by
      rcases command_cases allowed with isQuiet | ⟨_, same, _⟩ | ⟨_, same, holds⟩ |
        ⟨_, _, same, _⟩ | ⟨_, _, same, _⟩
      · cases isQuiet
      · cases same
      · cases same
        exact holds
      · cases same
      · cases same
    refine absurd ⟨job, ?_, own⟩ left
    rw [advance_undisturbed _ undisturbed, holds]
    rfl
  | requeue job own score =>
    refine .inl ⟨.requeued job, score, job, ?_, rfl, own⟩
    rw [exec_undisturbed world undisturbed]
    exact World.mem_zadd.mpr (.inl ⟨rfl, rfl⟩)
  | finish fields terminal ttlSecs =>
    refine .inr (.inr ?_)
    obtain ⟨status, given, ceased⟩ := (Option.any_eq_true _ _).mp terminal
    rw [exec_undisturbed world undisturbed]
    have written := status?_effect allowed world jobId
    simp only [writes, given, Option.map_some, if_true] at written
    exact written ▸ ceased
  | refused locked value ttlSecs =>
    rw [exec_undisturbed world undisturbed] at answered
    simp only [Timely, Bool.and_eq_true, decide_eq_true_eq] at timely
    simp [RedisCommand.answer, timely] at answered
  | failed redis failure =>
    obtain ⟨value, ok⟩ := answer_ok redis timely
    rw [exec_undisturbed world undisturbed, ok] at answered
    cases answered
  | noSlot failure =>
    cases outcome with
    | ok | drafted _ _ => cases answered
    | failed _ _ => cases undisturbed
  | cancelled _ _ cancels =>
    rw [uncancelled] at cancels
    cases cancels

private theorem hasOpen_other {jobId : String} {other : Nat} (different : other ≠ client)
    (opened : (ledger.stages other).HasOpen jobId) :
    ((Ledger.noted settings ledger world client command outcome).stages other).HasOpen jobId := by
  simpa only [Function.update_of_ne different] using opened

theorem Secure.queued {jobId : String} {member : Member} {score : Nat} {job : WritingJob}
    (allowed : Stage.Allowed settings (ledger.stages client) command)
    (undisturbed : Undisturbed outcome command = true) (stored : (member, score) ∈ world.jobs)
    (parsed : member.job? = some job) (own : job.id = jobId) :
    Secure (Ledger.noted settings ledger world client command outcome)
      (Command.exec outcome command world).2 jobId := by
  have kept {changed : World} {scored : Nat} (present : (member, scored) ∈ changed.jobs) :
      Secure (Ledger.noted settings ledger world client command outcome) changed jobId :=
    .inl ⟨member, scored, job, present, parsed, own⟩
  have added (other : Member) (scored : Nat) : ∃ score, (member, score) ∈ (world.zadd other scored).jobs := by
    by_cases same : member = other
    · exact ⟨scored, World.mem_zadd.mpr (.inl ⟨same, rfl⟩)⟩
    · exact ⟨score, World.mem_zadd.mpr (.inr ⟨stored, same⟩)⟩
  rcases command_cases allowed with isQuiet | ⟨now, rfl, free⟩ | ⟨_, rfl, _⟩ |
    ⟨other, scored, rfl, _⟩ | ⟨payload, scored, rfl, _⟩
  · exact kept (by rw [exec_jobs isQuiet]; exact stored)
  · rw [exec_undisturbed world undisturbed]
    by_cases taken : world.due? now = some member
    · refine .inr (.inl ⟨client, job, ?_, own⟩)
      simp only [Function.update_self, free, exec_undisturbed world undisturbed]
      rw [show Stage.free.advance (.redis (.popDue now)) _ =
        (member.job?.map Stage.holds).getD .free by rw [RedisCommand.answer, taken]; rfl, parsed]
      rfl
    · simp only [RedisCommand.effect]
      split
      · rename_i other due
        refine kept (World.mem_zrem.mpr ⟨stored, ?_⟩)
        rintro rfl
        exact taken due
      · exact kept stored
  · exact kept (by rw [exec_unchanged]; exact stored)
  · obtain ⟨_, present⟩ := added (.requeued other.failedOnce) scored
    exact kept (by rw [exec_undisturbed world undisturbed]; exact present)
  · obtain ⟨_, present⟩ := added (.enqueued payload) scored
    exact kept (by rw [exec_undisturbed world undisturbed]; exact present)

/-- Only the worker that has the job in hand, or a late `pending`, hides the end of a job. -/
theorem Secure.ceased {jobId : String}
    (allowed : Stage.Allowed settings (ledger.stages client) command)
    (undisturbed : Undisturbed outcome command = true) (timely : Timely world command = true)
    (ended : (world.status? jobId).any Status.terminal = true) :
    Secure (Ledger.noted settings ledger world client command outcome)
      (Command.exec outcome command world).2 jobId := by
  have written := status?_exec allowed outcome world jobId
  have kept (unwritten : ∀ status, writes command ≠ some (jobId, status)) :
      Secure (Ledger.noted settings ledger world client command outcome)
        (Command.exec outcome command world).2 jobId := by
    refine .inr (.inr ?_)
    rw [status?_exec_unwritten allowed unwritten]
    exact ended
  have reopened {job : WritingJob} {redis : RedisCommand} (same : command = .redis redis)
      (moved : ((ledger.stages client).moved (.redis redis) (redis.answer world)).open? = some job) :
      Secure (Ledger.noted settings ledger world client command outcome)
        (Command.exec outcome command world).2 job.id := by
    subst same
    refine .inr (.inl ⟨client, job, ?_, rfl⟩)
    simp only [Function.update_self]
    rw [advance_undisturbed _ undisturbed, exec_undisturbed world undisturbed]
    exact moved
  have finished {status : Status} {redis : RedisCommand} (same : command = .redis redis)
      (given : writes command = some (jobId, status)) (terminal : status.terminal = true) :
      Secure (Ledger.noted settings ledger world client command outcome)
        (Command.exec outcome command world).2 jobId := by
    subst same
    have performed : Command.performed outcome = true := by
      cases outcome with
      | ok | drafted _ _ => rfl
      | failed _ _ => cases undisturbed
    refine .inr (.inr ?_)
    rw [written, performed, given]
    simpa using terminal
  obtain ⟨stage, here⟩ : ∃ stage, ledger.stages client = stage := ⟨_, rfl⟩
  rw [here] at allowed
  by_cases mine : ∃ status, writes command = some (jobId, status)
  · obtain ⟨status, given⟩ := mine
    cases allowed with
    | pend written fields pending =>
      simp only [writes, pending, Option.map_some, Option.some.injEq, Prod.mk.injEq] at given
      rw [given.1] at timely
      simp [Timely, ended] at timely
    | process job =>
      cases given
      exact reopened rfl (by rw [here]; rfl)
    | retry inHand error =>
      cases given
      refine reopened rfl ?_
      rw [here]
      cases inHand <;> rfl
    | complete job result => exact finished rfl given (by cases given; rfl)
    | giveUp inHand error => exact finished rfl given (by cases given; rfl)
    | aside isApart =>
      rw [writes_apart isApart] at given
      cases given
    | _ => cases given
  · exact kept fun status given => mine ⟨status, given⟩

theorem Secure.step {jobId : String}
    (allowed : Stage.Allowed settings (ledger.stages client) command)
    (undisturbed : Undisturbed outcome command = true) (timely : Timely world command = true)
    (secure : Secure ledger world jobId) :
    Secure (Ledger.noted settings ledger world client command outcome)
      (Command.exec outcome command world).2 jobId := by
  rcases secure with ⟨member, score, job, stored, parsed, own⟩ | ⟨other, opened⟩ | ended
  · exact .queued allowed undisturbed stored parsed own
  · by_cases same : other = client
    · subst same
      by_cases stays : ((ledger.stages other).advance command
          (Command.exec outcome command world).1).HasOpen jobId
      · refine .inr (.inl ⟨other, ?_⟩)
        simpa only [Function.update_self] using stays
      · exact secure_of_leaves allowed undisturbed timely opened stays
    · exact .inr (.inl ⟨other, hasOpen_other same opened⟩)
  · exact .ceased allowed undisturbed timely ended

/-- The job that a command puts in the queue is in the queue after it. -/
theorem secure_of_puts {jobId : String}
    (undisturbed : Undisturbed outcome command = true) (put : jobId ∈ Ledger.puts command) :
    Secure (Ledger.noted settings ledger world client command outcome)
      (Command.exec outcome command world).2 jobId := by
  rcases command with _ | _ | _ | _ | _ | redis | _ | _
  · cases put
  · cases put
  · cases put
  · cases put
  · cases put
  · cases redis with
    | zadd member score =>
      cases member with
      | enqueued payload =>
        rw [exec_undisturbed world undisturbed]
        refine .inl ⟨.enqueued payload, score, _, World.mem_zadd.mpr (.inl ⟨rfl, rfl⟩), rfl, ?_⟩
        exact (List.mem_singleton.mp put).symm
      | requeued _ | malformed _ => cases put
    | _ => cases put
  · cases put
  · cases put

private theorem status?_lasting {jobId : String} {millis : Nat}
    (lasts : (world.hashes jobId).any (fun stored => stored.alive (world.clock + millis)) = true)
    (ended : (world.status? jobId).any Status.terminal = true) :
    ((Event.apply (.advance millis) world).status? jobId).any Status.terminal = true := by
  obtain ⟨stored, held, alive⟩ := (Option.any_eq_true _ _).mp lasts
  obtain ⟨status, found, terminal⟩ := (Option.any_eq_true _ _).mp ended
  obtain ⟨hash, seen, given⟩ := Option.bind_eq_some_iff.mp found
  obtain ⟨other, held', _, rfl⟩ := World.hash?_eq_some.mp seen
  cases held.symm.trans held'
  have later : (Event.apply (.advance millis) world).hash? jobId = some stored.value :=
    World.hash?_eq_some.mpr ⟨stored, held, alive, rfl⟩
  simp [World.status?, later, given, terminal]

private theorem secure_keeps (settings : Settings) :
    (Ledger.phases settings).Keeps
      (fun ledger config move => Attended settings ledger config move = true)
      (fun ledger world => ∀ jobId ∈ ledger.put, Secure ledger world jobId) where
  follows _ _ _ call _ := Stage.program_follows settings call
  command ledger config client outcome call command rest attended running allowed secure := by
    simp only [Attended, running, Thread.next?, Option.all_some, Bool.and_eq_true] at attended
    intro jobId put
    rcases List.mem_append.mp put with now_ | before
    · refine secure_of_puts attended.1 ?_
      split at now_
      · exact now_
      · cases now_
    · exact (secure jobId before).step allowed attended.1 attended.2
  event ledger config event attended secure := by
    intro jobId put
    rcases secure jobId put with queued | opened | ended
    · cases event <;> exact .inl queued
    · exact .inr (.inl opened)
    · refine .inr (.inr ?_)
      cases event with
      | dropLock locked => exact ended
      | advance millis =>
        simp only [Attended, Lasting, List.all_eq_true, Bool.or_eq_true] at attended
        rcases attended jobId put with active | lasts
        · simp [ended] at active
        · exact status?_lasting lasts ended
  crash _ _ _ attended _ := by cases attended

/-- When each worker finds the lock of its job free and is not cancelled, when no enqueuing
route writes `pending` over the end of a job and no such end expires, no job is lost. -/
theorem no_job_lost_of_attended (settings : Settings) {world : World}
    {moves : List (jobQueue settings).Move} {ledger : Ledger} {last : (jobQueue settings).Config}
    (run : Watched (Ledger.watcher settings)
      (fun ledger config move => Attended settings ledger config move = true) .empty
      (.initial world) moves ledger last) (jobId : String) (put : jobId ∈ ledger.put) :
    (∃ member score job, (member, score) ∈ last.world.jobs ∧ member.job? = some job ∧
      job.id = jobId) ∨
    InTask last jobId ∨ (last.world.status? jobId).any Status.terminal = true := by
  have secure := (secure_keeps settings).run run (fun _ => rfl) (fun _ absent => by cases absent)
    jobId put
  refine secure.imp id (Or.imp ?_ id)
  rintro ⟨client, opened⟩
  have ends : ThreadEnds (Stage.observer settings) Stage.Ends (ledger.stages client)
      (last.threads client) :=
    (Ledger.phases settings).run_ends run (Stage.program_ends settings) (fun _ => rfl) client
  -- A client with an open job is in the middle of its procedure.
  cases state : last.threads client with
  | idle =>
    rw [state] at ends
    rw [show ledger.stages client = .free from ends] at opened
    exact absurd opened (Stage.not_hasOpen_of_idle rfl)
  | returned call value =>
    rw [state] at ends
    exact absurd opened (Stage.not_hasOpen_of_idle (Stage.idle_of_ends ends))
  | running call rest =>
    rw [state] at ends
    refine ⟨client, call, rest, state, Observer.Follows.passes (Observer.Follows.imp ends ?_)
      settles_of_leaves opened⟩
    exact fun value stage ended => Stage.not_hasOpen_of_idle (Stage.idle_of_ends ended)

/-- The sample job fails once; it is put back, and taken by a second worker after the first
has released its lock. -/
def keptMoves : List (jobQueue sampleSettings).Move :=
  enqueuing 0 ++ failingRound 1 "w1" ++ turns 1 6 ++
    .act (.environment (.advance 1000)) :: .act (.start 2 (.consume "w2")) :: turns 2 7

theorem retried_job_kept :
    ∃ ledger last, Watched (Ledger.watcher sampleSettings)
        (fun ledger config move => Attended sampleSettings ledger config move = true) .empty
        (.initial (World.empty 0)) keptMoves ledger last ∧ samplePayload.id ∈ ledger.put ∧
      ((∃ member score job, (member, score) ∈ last.world.jobs ∧ member.job? = some job ∧
        job.id = samplePayload.id) ∨
      InTask last samplePayload.id ∨
      (last.world.status? samplePayload.id).any Status.terminal = true) := by
  obtain ⟨ledger, last, run, put⟩ := Watched.of_check (Ledger.watcher sampleSettings)
    (fun ledger config move => Attended sampleSettings ledger config move = true) .empty
    (.initial (World.empty 0)) keptMoves (fun ledger _ => decide (samplePayload.id ∈ ledger.put))
    (by decide +kernel)
  exact ⟨ledger, last, run, of_decide_eq_true put,
    no_job_lost_of_attended sampleSettings run samplePayload.id (of_decide_eq_true put)⟩

/-- No worker crashes or is cancelled, and Redis does what it is asked to. -/
def Calm (settings : Settings) (config : (jobQueue settings).Config) :
    (jobQueue settings).Move → Bool
  | .crash _ => false
  | .act (.start _ _) | .act (.environment _) => true
  | .act (.step client outcome) => (config.threads client).next?.all (Undisturbed outcome)

/-- The first worker has put the sample job back and waits for Supabase. A second later
another worker pops the job, finds it locked and drops it; then the first one goes on. -/
def lostMoves : List (jobQueue sampleSettings).Move :=
  enqueuing 0 ++ failingRound 1 "w1" ++ turns 1 3 ++
    .act (.environment (.advance 1000)) :: .act (.start 2 (.consume "w2")) :: turns 2 5 ++ turns 1 3

theorem popped_job_lost :
    ∃ ledger last, Watched (Ledger.watcher sampleSettings)
        (fun _ config move => Calm sampleSettings config move = true) .empty
        (.initial (World.empty 0)) lostMoves ledger last ∧ samplePayload.id ∈ ledger.put ∧
      ¬ ((∃ member score job, (member, score) ∈ last.world.jobs ∧ member.job? = some job ∧
          job.id = samplePayload.id) ∨
        InTask last samplePayload.id ∨
        (last.world.status? samplePayload.id).any Status.terminal = true) := by
  obtain ⟨ledger, last, run, checked⟩ := Watched.of_check (Ledger.watcher sampleSettings)
    (fun _ config move => Calm sampleSettings config move = true) .empty
    (.initial (World.empty 0)) lostMoves
    (fun ledger last => decide (samplePayload.id ∈ ledger.put) && last.world.jobs.isEmpty &&
      decide (last.world.status? samplePayload.id = some .retrying) &&
      (List.range 3).all fun client => (last.threads client).next?.isNone) (by decide +kernel)
  simp only [Bool.and_eq_true, decide_eq_true_eq, List.all_eq_true, List.mem_range] at checked
  obtain ⟨⟨⟨put, empty⟩, status⟩, idle⟩ := checked
  refine ⟨ledger, last, run, put, ?_⟩
  rintro (⟨member, score, job, stored, _⟩ | ⟨client, call, rest, running, passes⟩ | ceased)
  · rw [List.isEmpty_iff.mp empty] at stored
    cases stored
  · have issues : (last.threads client).next?.isNone = false := by
      rw [running]
      cases rest with
      | done value => exact absurd trivial passes
      | call command next => rfl
    by_cases known : client < 3
    · rw [idle client known] at issues
      cases issues
    · have still : ∀ move ∈ lostMoves, move.client? ≠ some client := by
        have bounded : ∀ move ∈ lostMoves, move.client?.all (· < 3) = true := by decide +kernel
        intro move member own
        have small := bounded move member
        rw [own] at small
        exact known (by simpa using small)
      rw [run.unmoved still] at issues
      cases issues
  · rw [status] at ceased
    cases ceased

end BrainMate.WriteRight
