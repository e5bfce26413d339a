import BrainMate.WriteRight.RetryAccount

namespace BrainMate.WriteRight

open Interleaving System Program

/-- The job as it was enqueued, with another attempt. -/
def WritingJob.attempted (job : WritingJob) (count : Nat) : WritingJob :=
  { job with attempt := count }

/-- How often a job is dispatched that fails each time. -/
def rounds (settings : Settings) : Nat := (max 1 settings.jobMaxRetries).toNat

def dispatches (job : WritingJob) (count : Nat) : List Deed :=
  (List.range count).map fun attempt => .dispatched (job.attempted attempt)

def course (settings : Settings) (job : WritingJob) : List Deed :=
  dispatches job (rounds settings) ++ [.failed, .buried (job.attempted (rounds settings))]

private theorem dispatches_succ (job : WritingJob) (count : Nat) :
    dispatches job (count + 1) = dispatches job count ++ [.dispatched (job.attempted count)] := by
  rw [dispatches, List.range_succ, List.map_append]
  rfl

@[simp] theorem id_attempted (job : WritingJob) (count : Nat) : (job.attempted count).id = job.id :=
  rfl

private theorem failedOnce_attempted (job : WritingJob) (count : Nat) :
    (job.attempted count).failedOnce = job.attempted (count + 1) := rfl

theorem dispatches_upto (job : WritingJob) {count total : Nat} (within : count ≤ total) :
    dispatches job count <+: dispatches job total := by
  induction within with
  | refl => exact List.prefix_refl _
  | step _ ih =>
    rw [dispatches_succ]
    exact ih.trans (List.prefix_append _ _)

/-- Where the job is. -/
inductive Spot where
  | nowhere
  | queued (member : Member) (score : Nat)
  | held (client : Nat) (step : RetryStep) (job : WritingJob)

def Spot.members : Spot → List (Member × Nat)
  | .queued member score => [(member, score)]
  | .nowhere | .held _ _ _ => []

theorem Spot.nowhere_ne_held (client : Nat) (step : RetryStep) (job : WritingJob) :
    Spot.nowhere ≠ .held client step job := by
  intro same
  cases same

theorem Spot.queued_ne_held (member : Member) (score client : Nat) (step : RetryStep)
    (job : WritingJob) : Spot.queued member score ≠ .held client step job := by
  intro same
  cases same

structure Tracks (jobId : String) (chronicle : Chronicle) (world : World) (spot : Spot) : Prop where
  queue : world.membersOf jobId = spot.members
  hands : ∀ client step job,
    (chronicle.phases client = .doing step job ∧ job.id = jobId) ↔ spot = .held client step job
  straight : ∀ client, chronicle.phases client ≠ .strayed jobId

/-- How much of its course the job has behind it, given where it is. -/
def Reached (settings : Settings) (job : WritingJob) (put : Bool) (deeds : List Deed)
    (dead : List (DeadEntry × Nat)) : Spot → Prop
  | .nowhere =>
    (put = false ∧ deeds = [] ∧ dead = []) ∨
    (put = true ∧ deeds = course settings job ∧
      dead.map (fun stored => stored.1.job) = [job.attempted (rounds settings)])
  | .queued member _ =>
    put = true ∧ dead = [] ∧ ∃ count < rounds settings,
      member.job? = some (job.attempted count) ∧ deeds = dispatches job count
  | .held _ .running found =>
    put = true ∧ dead = [] ∧ ∃ count < rounds settings,
      found = job.attempted count ∧ deeds = dispatches job (count + 1)
  | .held _ .failed found =>
    put = true ∧ dead = [] ∧ found = job.attempted (rounds settings) ∧
      deeds = dispatches job (rounds settings) ++ [.failed]
  | .held _ _ found =>
    put = true ∧ dead = [] ∧ ∃ count < rounds settings,
      found = job.attempted count ∧ deeds = dispatches job count

/-- The job is in one place at most, and the account agrees with the place. -/
def Accounted (settings : Settings) (job : WritingJob) (chronicle : Chronicle) (world : World) : Prop :=
  ∃ spot, Tracks job.id chronicle world spot ∧
    Reached settings job chronicle.put chronicle.deeds (world.deadOf job.id) spot

/-- The client has the job in hand. -/
def mine (jobId : String) (phase : RetryPhase) : Bool := phase.job?.any fun job => job.id = jobId

/-- The answer of a pop is not lost on the way, and the job is enqueued once. -/
def Delivered (payload : WritingJobPayload) (put : Bool) (outcome : Outcome) : Command → Bool
  | .redis (.popDue _) => outcome.succeeds || !Command.performed outcome
  | .redis (.zadd (.enqueued other) _) => other.id ≠ payload.id || (other = payload && !put)
  | _ => true

/-- The job is enqueued once, and each of its dispatches fails: whoever has it finds its lock
free, does not crash, is not cancelled and has Redis do what it is asked to. -/
def InVain (settings : Settings) (payload : WritingJobPayload) (chronicle : Chronicle)
    (config : (jobQueue settings).Config) : (jobQueue settings).Move → Bool
  | .crash client => !mine payload.id (chronicle.phases client)
  | .act (.step client outcome) =>
    (config.threads client).next?.all fun command =>
      Delivered payload chronicle.put outcome command &&
        (!mine payload.id (chronicle.phases client) ||
          !spoils command (Command.exec outcome command config.world).1)
  | .act (.start _ _) | .act (.environment _) => true

section Steps

variable {settings : Settings} {job : WritingJob} {chronicle : Chronicle} {world left : World}
variable {client : Nat} {command : Command} {outcome : Outcome} {spot : Spot} {jobId : String}

/-- The account after a command. -/
@[reducible] def recorded (settings : Settings) (jobId : String) (chronicle : Chronicle)
    (world : World) (client : Nat) (command : Command) (outcome : Outcome) : Chronicle :=
  (Chronicle.watcher settings jobId).exchange chronicle client command outcome world

theorem foreign_of_incidental (aside : RetryPhase.incidental command = true) :
    foreign jobId command = true := by
  cases command with
  | redis command => cases command <;> first | rfl | cases aside
  | dispatch => cases aside
  | _ => rfl

private theorem foreign_of_subject {other : String}
    (subject : RetryPhase.subject? command = some other)
    (different : other ≠ jobId) : foreign jobId command = true := by
  cases command with
  | dispatch job =>
    cases subject
    simpa [foreign] using different
  | redis command =>
    cases command with
    | zadd member score =>
      cases member with
      | requeued job =>
        cases subject
        simpa [foreign, owned, Member.job?] using different
      | _ => cases subject
    | zaddDead entry score =>
      cases subject
      simpa [foreign] using different
    | setStatus written fields ttlSecs =>
      cases subject
      simpa [foreign] using different
    | _ => cases subject
  | _ => cases subject

private theorem deedsOf_foreign (away : foreign jobId command = true) :
    Chronicle.deedsOf jobId outcome command = [] := by
  cases command with
  | dispatch job =>
    have other : job.id ≠ jobId := by simpa [foreign] using away
    simp [Chronicle.deedsOf, other]
  | redis command =>
    cases command with
    | zaddDead entry score =>
      have other : entry.job.id ≠ jobId := by simpa [foreign] using away
      simp [Chronicle.deedsOf, other]
    | setStatus written fields ttlSecs =>
      have other : written ≠ jobId := by simpa [foreign] using away
      simp [Chronicle.deedsOf, other]
    | _ => rfl
  | _ => rfl

private theorem enqueues_foreign (away : foreign jobId command = true) :
    Chronicle.enqueues jobId command = false := by
  cases command with
  | redis command =>
    cases command with
    | zadd member score =>
      cases member with
      | enqueued payload => simpa [foreign, owned, Member.job?, Chronicle.enqueues] using away
      | _ => rfl
    | _ => rfl
  | _ => rfl

/-- A client that has not the job keeps the account as it is. -/
theorem Tracks.framed {after : Chronicle} {phase : RetryPhase} (tracks : Tracks jobId chronicle world spot)
    (queue : left.membersOf jobId = world.membersOf jobId)
    (phases : after.phases = Function.update chronicle.phases client phase)
    (before : mine jobId (chronicle.phases client) = false) (now_ : mine jobId phase = false)
    (straight : phase ≠ .strayed jobId) : Tracks jobId after left spot := by
  refine ⟨queue.trans tracks.queue, fun other step found => ?_, fun other => ?_⟩
  · rw [← tracks.hands, phases]
    by_cases own : other = client
    · subst own
      rw [Function.update_self]
      constructor
      · rintro ⟨rfl, same⟩
        simp [mine, RetryPhase.job?, same] at now_
      · rintro ⟨doing, same⟩
        simp [mine, doing, RetryPhase.job?, same] at before
    · rw [Function.update_of_ne own]
  · rw [phases]
    by_cases own : other = client
    · rw [own, Function.update_self]
      exact straight
    · rw [Function.update_of_ne own]
      exact tracks.straight other

/-- The job goes from one place to another by a move of the only client that can have it. -/
theorem Tracks.shifted {after : Chronicle} {phase : RetryPhase} {target : Spot}
    (tracks : Tracks jobId chronicle world spot)
    (alone : ∀ other step found, spot = .held other step found → other = client)
    (queue : left.membersOf jobId = target.members)
    (phases : after.phases = Function.update chronicle.phases client phase)
    (lands : ∀ other step found, (other = client ∧ phase = .doing step found ∧ found.id = jobId) ↔
      target = .held other step found)
    (straight : phase ≠ .strayed jobId) : Tracks jobId after left target := by
  refine ⟨queue, fun other step found => ?_, fun other => ?_⟩
  · rw [← lands, phases]
    by_cases own : other = client
    · subst own
      simp
    · rw [Function.update_of_ne own, tracks.hands]
      constructor
      · intro held
        exact absurd (alone other step found held) own
      · rintro ⟨same, _⟩
        exact absurd same own
  · rw [phases]
    by_cases own : other = client
    · rw [own, Function.update_self]
      exact straight
    · rw [Function.update_of_ne own]
      exact tracks.straight other

/-- The client has the job in hand after its move. -/
theorem Tracks.taken {after : Chronicle} {step : RetryStep} {found : WritingJob}
    (tracks : Tracks jobId chronicle world spot)
    (alone : ∀ other step found, spot = .held other step found → other = client)
    (queue : left.membersOf jobId = [])
    (phases : after.phases = Function.update chronicle.phases client (.doing step found))
    (own : found.id = jobId) : Tracks jobId after left (.held client step found) := by
  refine tracks.shifted alone queue phases (fun other step' found' => ?_) nofun
  constructor
  · rintro ⟨rfl, same, _⟩
    cases same
    rfl
  · intro same
    cases same
    exact ⟨rfl, rfl, own⟩

/-- The client is at rest after its move. -/
theorem Tracks.released {after : Chronicle} {target : Spot}
    (tracks : Tracks jobId chronicle world spot)
    (alone : ∀ other step found, spot = .held other step found → other = client)
    (queue : left.membersOf jobId = target.members)
    (phases : after.phases = Function.update chronicle.phases client .rest)
    (free : ∀ other step found, target ≠ .held other step found) : Tracks jobId after left target := by
  refine tracks.shifted alone queue phases (fun other step found => ?_) nofun
  constructor
  · rintro ⟨_, same, _⟩
    cases same
  · intro same
    exact absurd same (free other step found)

theorem Accounted.framed (accounted : Accounted settings job chronicle world)
    (queue : (Command.exec outcome command world).2.membersOf job.id = world.membersOf job.id)
    (dead : (Command.exec outcome command world).2.deadOf job.id = world.deadOf job.id)
    (deeds : Chronicle.deedsOf job.id outcome command = [])
    (enqueues : (Command.performed outcome && Chronicle.enqueues job.id command) = false)
    (before : mine job.id (chronicle.phases client) = false)
    (now_ : mine job.id ((chronicle.phases client).advance command
      (Command.exec outcome command world).1) = false)
    (straight : (chronicle.phases client).advance command (Command.exec outcome command world).1 ≠
      .strayed job.id) :
    Accounted settings job (recorded settings job.id chronicle world client command outcome)
      (Command.exec outcome command world).2 := by
  obtain ⟨spot, tracks, reached⟩ := accounted
  refine ⟨spot, tracks.framed queue rfl before now_ straight, ?_⟩
  change Reached settings job (chronicle.put || (_ && Chronicle.enqueues job.id command))
    (chronicle.deeds ++ Chronicle.deedsOf job.id outcome command) _ spot
  rw [dead, enqueues, deeds, Bool.or_false, List.append_nil]
  exact reached

/-- A command that does not touch the job, from a client that has not got it. -/
theorem Accounted.apart (accounted : Accounted settings job chronicle world)
    (away : foreign job.id command = true) (before : mine job.id (chronicle.phases client) = false)
    (now_ : mine job.id ((chronicle.phases client).advance command
      (Command.exec outcome command world).1) = false)
    (straight : (chronicle.phases client).advance command (Command.exec outcome command world).1 ≠
      .strayed job.id) :
    Accounted settings job (recorded settings job.id chronicle world client command outcome)
      (Command.exec outcome command world).2 := by
  have dead : (Command.exec outcome command world).2.deadOf job.id = world.deadOf job.id := by
    apply exec_deadOf
    rintro entry score rfl
    simpa [foreign] using away
  apply accounted.framed (exec_membersOf away outcome world) dead (deedsOf_foreign away) ?_ before
    now_ straight
  rw [enqueues_foreign away, Bool.and_false]

private theorem advance_doing (step : RetryStep) (found : WritingJob) (command : Command)
    (reply : command.Reply) :
    (RetryPhase.doing step found).advance command reply = .strayed found.id ∨
    (RetryPhase.doing step found).advance command reply = .rest ∨
    ∃ next later, (RetryPhase.doing step found).advance command reply = .doing next later ∧
      later.id = found.id := by
  simp only [RetryPhase.advance]
  split
  · exact .inl rfl
  · right
    unfold RetryPhase.moved
    split
    · exact .inr ⟨_, _, rfl, rfl⟩
    · exact .inr ⟨_, _, rfl, rfl⟩
    · split <;> exact .inr ⟨_, _, rfl, rfl⟩
    · exact .inl rfl
    · exact .inl rfl
    · exact .inr ⟨_, _, rfl, rfl⟩

/-- A worker on the course of a job touches only that job. -/
theorem foreign_of_doing {step : RetryStep} {found : WritingJob}
    (allowed : RetryPhase.Allowed settings (.doing step found) command)
    (other : found.id ≠ jobId) : foreign jobId command = true := by
  cases allowed with
  | incidental aside => exact foreign_of_incidental aside
  | lock => rfl
  | process | dispatch | retry | requeue | giveUp | bury => exact foreign_of_subject rfl other

/-- A worker with another job. -/
theorem Accounted.busy (accounted : Accounted settings job chronicle world) {step : RetryStep}
    {found : WritingJob} (doing : chronicle.phases client = .doing step found)
    (other : found.id ≠ job.id)
    (allowed : RetryPhase.Allowed settings (chronicle.phases client) command) :
    Accounted settings job (recorded settings job.id chronicle world client command outcome)
      (Command.exec outcome command world).2 := by
  have away : foreign job.id command = true := foreign_of_doing (doing ▸ allowed) other
  have before : mine job.id (chronicle.phases client) = false := by
    simp [mine, doing, RetryPhase.job?, other]
  apply accounted.apart away before
  · rw [doing]
    rcases advance_doing step found command (Command.exec outcome command world).1 with
      same | same | ⟨next, later, same, id_⟩
    · rw [same]
      rfl
    · rw [same]
      rfl
    · rw [same]
      simp [mine, RetryPhase.job?, id_, other]
  · rw [doing]
    rcases advance_doing step found command (Command.exec outcome command world).1 with
      same | same | ⟨next, later, same, id_⟩
    · rw [same]
      exact fun strayed => other (RetryPhase.strayed.inj strayed)
    · rw [same]
      nofun
    · rw [same]
      nofun

/-- A worker that has strayed from the course of another job. -/
theorem Accounted.astray (accounted : Accounted settings job chronicle world) {strayed : String}
    (here : chronicle.phases client = .strayed strayed)
    (allowed : RetryPhase.Allowed settings (chronicle.phases client) command) :
    Accounted settings job (recorded settings job.id chronicle world client command outcome)
      (Command.exec outcome command world).2 := by
  have other : strayed ≠ job.id := by
    rintro rfl
    obtain ⟨spot, tracks, _⟩ := accounted
    exact tracks.straight client here
  have away : foreign job.id command = true := by
    rw [here] at allowed
    cases allowed with
    | incidental aside => exact foreign_of_incidental aside
    | astray own => exact foreign_of_subject own other
  apply accounted.apart away
  · rw [here]
    rfl
  · rw [here]
    rfl
  · rw [here]
    exact fun same => other (RetryPhase.strayed.inj same)

private theorem advance_rest_incidental (aside : RetryPhase.incidental command = true)
    (reply : command.Reply) : RetryPhase.rest.advance command reply = .rest := by
  cases command with
  | redis command => cases command <;> first | rfl | cases aside
  | _ => rfl

theorem Accounted.idle (accounted : Accounted settings job chronicle world)
    (rest : chronicle.phases client = .rest) (aside : RetryPhase.incidental command = true) :
    Accounted settings job (recorded settings job.id chronicle world client command outcome)
      (Command.exec outcome command world).2 := by
  apply accounted.apart (foreign_of_incidental aside)
  · rw [rest]
    rfl
  · rw [rest, advance_rest_incidental aside]
    rfl
  · rw [rest, advance_rest_incidental aside]
    nofun

theorem Accounted.enqueue (accounted : Accounted settings job chronicle world)
    {payload other : WritingJobPayload} {score : Nat}
    (parsed : (Member.enqueued payload).job? = some job) (first : job.attempt = 0)
    (rest : chronicle.phases client = .rest)
    (delivered : Delivered payload chronicle.put outcome (.redis (.zadd (.enqueued other) score)) = true) :
    Accounted settings job (recorded settings job.id chronicle world client
      (.redis (.zadd (.enqueued other) score)) outcome)
      (Command.exec outcome (.redis (.zadd (.enqueued other) score)) world).2 := by
  have sameId : payload.id = job.id := by
    cases Option.some.inj parsed
    rfl
  have before : mine job.id (chronicle.phases client) = false := by
    rw [rest]
    rfl
  have after (reply : Except Failure Unit) : (chronicle.phases client).advance
      (.redis (.zadd (.enqueued other) score)) reply = .rest := by
    rw [rest]
    rfl
  by_cases own : other.id = job.id
  · simp only [Delivered, sameId, own, ne_eq, not_true_eq_false, decide_false, Bool.false_or,
      Bool.and_eq_true, decide_eq_true_eq, Bool.not_eq_true'] at delivered
    obtain ⟨rfl, unput⟩ := delivered
    cases performs : Command.performed outcome with
    | false =>
      have same : (Command.exec outcome (.redis (.zadd (.enqueued other) score)) world).2 = world := by
        simp [Command.exec, performs]
      refine accounted.framed (by rw [same]) (by rw [same]) rfl (by rw [performs]; rfl) before ?_ ?_
      · rw [after]
        rfl
      · rw [after]
        rintro ⟨⟩
    | true =>
      have same : (Command.exec outcome (.redis (.zadd (.enqueued other) score)) world).2 =
          world.zadd (.enqueued other) score := by
        simp [Command.exec, performs, Command.effect, RedisCommand.effect]
      obtain ⟨spot, tracks, reached⟩ := accounted
      rw [same]
      -- A job that was not put in the queue is nowhere.
      have fresh : spot = .nowhere ∧ chronicle.deeds = [] ∧ world.deadOf job.id = [] := by
        cases spot with
        | nowhere =>
          rcases reached with ⟨_, deeds, dead⟩ | ⟨put, _⟩
          · exact ⟨rfl, deeds, dead⟩
          · rw [put] at unput
            cases unput
        | queued member scored =>
          rw [reached.1] at unput
          cases unput
        | held holder step found =>
          have put : chronicle.put = true := by cases step <;> exact reached.1
          rw [put] at unput
          cases unput
      obtain ⟨rfl, deeds, dead⟩ := fresh
      have is : owned job.id (.enqueued other) = true := by
        simp [owned, parsed]
      refine ⟨.queued (.enqueued other) score, ?_, ?_⟩
      · apply tracks.released
        · exact fun _ _ _ same => absurd same (Spot.nowhere_ne_held _ _ _)
        · rw [World.membersOf_zadd, tracks.queue, is]
          rfl
        · exact congrArg (Function.update chronicle.phases client) (after _)
        · exact Spot.queued_ne_held _ _
      · refine ⟨?_, dead, 0, by simp [rounds], ?_, ?_⟩
        · simp [Chronicle.enqueues, performs, sameId]
        · rw [parsed, WritingJob.attempted, Nat.cast_zero, ← first]
        · simp [deeds, Chronicle.deedsOf, dispatches]
  · have away : foreign job.id (.redis (.zadd (.enqueued other) score)) = true := by
      simp [foreign, owned, Member.job?, own]
    apply accounted.apart away before
    · rw [after]
      rfl
    · rw [after]
      rintro ⟨⟩

/-- A due member of the queue that is this job is its only one. -/
theorem Tracks.due {now : Nat} {member : Member} (tracks : Tracks jobId chronicle world spot)
    (due : world.due? now = some member) (is : owned jobId member = true) :
    ∃ score, spot = .queued member score := by
  obtain ⟨score, stored⟩ := World.mem_of_due? due
  have among : (member, score) ∈ spot.members := by
    rw [← tracks.queue]
    exact List.mem_filter.mpr ⟨stored, is⟩
  cases spot with
  | queued other scored =>
    cases List.mem_singleton.mp among
    exact ⟨score, rfl⟩
  | nowhere => cases among
  | held client step found => cases among

/-- A pop after which the client has no job, or another one. -/
theorem Accounted.popOther (accounted : Accounted settings job chronicle world) {now : Nat}
    (rest : chronicle.phases client = .rest)
    (queue : (Command.exec outcome (.redis (.popDue now)) world).2.membersOf job.id =
      world.membersOf job.id)
    (now_ : ∀ found, RetryPhase.rest.advance (.redis (.popDue now))
      (Command.exec outcome (.redis (.popDue now)) world).1 = .doing .popped found →
        found.id ≠ job.id) :
    Accounted settings job (recorded settings job.id chronicle world client (.redis (.popDue now)) outcome)
      (Command.exec outcome (.redis (.popDue now)) world).2 := by
  have cases_ : RetryPhase.rest.advance (.redis (.popDue now))
        (Command.exec outcome (.redis (.popDue now)) world).1 = .rest ∨
      ∃ found, RetryPhase.rest.advance (.redis (.popDue now))
        (Command.exec outcome (.redis (.popDue now)) world).1 = .doing .popped found := by
    simp only [RetryPhase.advance]
    split
    · rename_i member _
      cases member.job? with
      | none => exact .inl rfl
      | some found => exact .inr ⟨found, rfl⟩
    · exact .inl rfl
  have dead : (Command.exec outcome (.redis (.popDue now)) world).2.deadOf job.id =
      world.deadOf job.id := by
    apply exec_deadOf
    rintro entry score same
    cases same
  apply accounted.framed queue dead rfl (by simp [Chronicle.enqueues])
  · rw [rest]
    rfl
  · rw [rest]
    rcases cases_ with same | ⟨found, same⟩
    · rw [same]
      rfl
    · rw [same]
      simpa [mine, RetryPhase.job?] using now_ found same
  · rw [rest]
    rcases cases_ with same | ⟨found, same⟩ <;> rw [same] <;> nofun

theorem Accounted.pop (accounted : Accounted settings job chronicle world) {now : Nat}
    {payload : WritingJobPayload} (rest : chronicle.phases client = .rest)
    (delivered : Delivered payload chronicle.put outcome (.redis (.popDue now)) = true) :
    Accounted settings job (recorded settings job.id chronicle world client (.redis (.popDue now)) outcome)
      (Command.exec outcome (.redis (.popDue now)) world).2 := by
  cases succeeds : outcome.succeeds with
  | false =>
    have unperformed : Command.performed outcome = false := by
      simpa [Delivered, succeeds] using delivered
    have same : (Command.exec outcome (.redis (.popDue now)) world).2 = world := by
      simp [Command.exec, unperformed]
    apply accounted.popOther rest (by rw [same])
    intro found taken
    cases outcome with
    | ok | drafted _ _ => cases succeeds
    | failed _ _ => cases taken
  | true =>
    have undisturbed : Undisturbed outcome (.redis (.popDue now)) = true := succeeds
    have done := exec_undisturbed world undisturbed
    cases due : world.due? now with
    | none =>
      have same : RedisCommand.effect (.popDue now) world = world := by
        simp [RedisCommand.effect, due]
      apply accounted.popOther rest (by rw [done, same])
      intro found taken
      rw [done, RedisCommand.answer, due] at taken
      cases taken
    | some member =>
      have removed : RedisCommand.effect (.popDue now) world = world.zrem member := by
        simp [RedisCommand.effect, due]
      have reply : (Command.exec outcome (.redis (.popDue now)) world).1 = .ok (some member) := by
        rw [done, RedisCommand.answer, due]
      have left : (Command.exec outcome (.redis (.popDue now)) world).2 = world.zrem member := by
        rw [done, removed]
      cases is : owned job.id member with
      | false =>
        apply accounted.popOther rest
        · rw [left, World.membersOf_zrem, World.filter_foreign is]
        · intro found taken own
          rw [reply] at taken
          have parsed : member.job? = some found := by
            cases parsed : member.job? with
            | none =>
              simp [RetryPhase.advance, parsed] at taken
            | some other =>
              simp only [RetryPhase.advance, parsed, Option.map_some, Option.getD_some,
                RetryPhase.doing.injEq, true_and] at taken
              rw [taken]
          simp [owned, parsed, own] at is
      | true =>
        obtain ⟨spot, tracks, reached⟩ := accounted
        obtain ⟨score, rfl⟩ := tracks.due due is
        obtain ⟨put, dead, count, within, parsed, deeds⟩ := reached
        have taken : (chronicle.phases client).advance (.redis (.popDue now))
            (Command.exec outcome (.redis (.popDue now)) world).1 =
            .doing .popped (job.attempted count) := by
          rw [rest, reply]
          simp [RetryPhase.advance, parsed]
        rw [left]
        refine ⟨.held client .popped (job.attempted count), ?_, ?_⟩
        · apply tracks.taken
          · exact fun _ _ _ same => absurd same (Spot.queued_ne_held _ _ _ _ _)
          · rw [World.membersOf_zrem, tracks.queue]
            simp [Spot.members]
          · exact congrArg (Function.update chronicle.phases client) taken
          · rfl
        · refine ⟨by simp [put], dead, count, within, rfl, ?_⟩
          simp [deeds, Chronicle.deedsOf]

/-- Redis has done what an answer that does not spoil the course tells. -/
theorem undisturbed_of_unspoiled {redis : RedisCommand}
    (told : ∀ jobId stage, redis ≠ .publish jobId stage)
    (unspoiled : spoils (.redis redis) (Command.exec outcome (.redis redis) world).1 = false) :
    Undisturbed outcome (.redis redis) = true := by
  cases outcome with
  | ok | drafted _ _ => rfl
  | failed performed failure =>
    cases redis with
    | publish jobId stage => exact absurd rfl (told jobId stage)
    | _ => cases unspoiled

private theorem performed_of_undisturbed {redis : RedisCommand}
    (undisturbed : Undisturbed outcome (.redis redis) = true) : Command.performed outcome = true := by
  cases outcome with
  | ok | drafted _ _ => rfl
  | failed _ _ => cases undisturbed

private theorem advance_unspoiled {step : RetryStep} {found : WritingJob} {reply : command.Reply}
    (unspoiled : spoils command reply = false) :
    (RetryPhase.doing step found).advance command reply = .moved step found command := by
  simp [RetryPhase.advance, unspoiled]

/-- The worker keeps the job in hand, and the queue and the dead letters stay as they are. -/
theorem Tracks.keeps {step : RetryStep} {found : WritingJob} {after : Chronicle} {next : RetryStep}
    {later : WritingJob} (tracks : Tracks jobId chronicle world (.held client step found))
    (queue : left.membersOf jobId = world.membersOf jobId)
    (phases : after.phases = Function.update chronicle.phases client (.doing next later))
    (own : later.id = jobId) : Tracks jobId after left (.held client next later) := by
  apply tracks.taken ?_ (queue.trans tracks.queue) phases own
  rintro other step' found' same
  cases same
  rfl

variable {step : RetryStep} {found : WritingJob}

/-- The command neither takes a member from the queue nor adds one, nor a dead letter. -/
def still : Command → Bool
  | .redis (.popDue _) | .redis (.zadd _ _) | .redis (.zaddDead _ _) => false
  | _ => true

private theorem exec_still (jobId : String) (isStill : still command = true) (outcome : Outcome)
    (world : World) :
    (Command.exec outcome command world).2.membersOf jobId = world.membersOf jobId ∧
      (Command.exec outcome command world).2.deadOf jobId = world.deadOf jobId ∧
      Chronicle.enqueues jobId command = false := by
  refine ⟨?_, exec_deadOf ?_ outcome world, ?_⟩
  · cases command with
    | dispatch job => rw [exec_unchanged]
    | redis command =>
      cases command with
      | popDue | zadd | zaddDead => cases isStill
      | _ => rw [World.membersOf, exec_jobs rfl]; rfl
    | _ => rw [World.membersOf, exec_jobs rfl]; rfl
  · rintro entry score rfl
    cases isStill
  · cases command with
    | redis command => cases command <;> first | rfl | cases isStill
    | _ => rfl

/-- The worker goes on with the job. -/
theorem Accounted.goesOn (tracks : Tracks job.id chronicle world (.held client step found))
    (isStill : still command = true) {next : RetryStep} {later : WritingJob}
    (after : (chronicle.phases client).advance command (Command.exec outcome command world).1 =
      .doing next later) (own : later.id = job.id)
    (reached : Reached settings job chronicle.put
      (chronicle.deeds ++ Chronicle.deedsOf job.id outcome command) (world.deadOf job.id)
      (.held client next later)) :
    Accounted settings job (recorded settings job.id chronicle world client command outcome)
      (Command.exec outcome command world).2 := by
  obtain ⟨queue, dead, enqueues⟩ := exec_still job.id isStill outcome world
  refine ⟨.held client next later, ?_, ?_⟩
  · exact tracks.keeps queue (congrArg (Function.update chronicle.phases client) after) own
  · change Reached settings job (chronicle.put || (_ && Chronicle.enqueues job.id command)) _ _ _
    rw [dead, enqueues, Bool.and_false, Bool.or_false]
    exact reached

private theorem still_of_incidental (aside : RetryPhase.incidental command = true) :
    still command = true := by
  cases command with
  | redis command => cases command <;> first | rfl | cases aside
  | _ => rfl

private theorem moved_incidental (aside : RetryPhase.incidental command = true) :
    RetryPhase.moved step found command = .doing step found := by
  cases command with
  | redis command => cases command <;> first | rfl | cases aside
  | dispatch => cases aside
  | _ => rfl

theorem Accounted.requeue {score : Nat}
    (tracks : Tracks job.id chronicle world (.held client .retrying found))
    (reached : Reached settings job chronicle.put chronicle.deeds (world.deadOf job.id)
      (.held client .retrying found))
    (after : (chronicle.phases client).advance (.redis (.zadd (.requeued found) score))
      (Command.exec outcome (.redis (.zadd (.requeued found) score)) world).1 = .rest)
    (own : found.id = job.id)
    (done : Command.exec outcome (.redis (.zadd (.requeued found) score)) world =
      (.ok (), world.zadd (.requeued found) score)) :
    Accounted settings job (recorded settings job.id chronicle world client
      (.redis (.zadd (.requeued found) score)) outcome)
      (Command.exec outcome (.redis (.zadd (.requeued found) score)) world).2 := by
  obtain ⟨put, dead, count, within, rfl, deeds⟩ := reached
  have is : owned job.id (.requeued (job.attempted count)) = true := by
    simp [owned, Member.job?]
  rw [done]
  refine ⟨.queued (.requeued (job.attempted count)) score, ?_, ?_⟩
  · apply tracks.released
    · rintro other step' found' same
      cases same
      rfl
    · rw [World.membersOf_zadd, tracks.queue, is]
      rfl
    · exact congrArg (Function.update chronicle.phases client) after
    · exact Spot.queued_ne_held _ _
  · refine ⟨by simp [put], dead, count, within, rfl, ?_⟩
    simp [deeds, Chronicle.deedsOf]

theorem Accounted.bury {entry : DeadEntry} {score : Nat}
    (tracks : Tracks job.id chronicle world (.held client .failed entry.job))
    (reached : Reached settings job chronicle.put chronicle.deeds (world.deadOf job.id)
      (.held client .failed entry.job))
    (after : (chronicle.phases client).advance (.redis (.zaddDead entry score))
      (Command.exec outcome (.redis (.zaddDead entry score)) world).1 = .rest)
    (own : entry.job.id = job.id) (performed : Command.performed outcome = true) :
    Accounted settings job (recorded settings job.id chronicle world client
      (.redis (.zaddDead entry score)) outcome)
      (Command.exec outcome (.redis (.zaddDead entry score)) world).2 := by
  obtain ⟨put, dead, here, deeds⟩ := reached
  have left : (Command.exec outcome (.redis (.zaddDead entry score)) world).2 =
      { world with dead := (entry, score) :: world.dead } := by
    simp [Command.exec, performed, Command.effect, RedisCommand.effect]
  rw [left]
  refine ⟨.nowhere, ?_, .inr ⟨by simp [put], ?_, ?_⟩⟩
  · apply tracks.released
    · rintro other step' found' same
      cases same
      rfl
    · exact tracks.queue
    · exact congrArg (Function.update chronicle.phases client) after
    · exact Spot.nowhere_ne_held
  · simp [deeds, Chronicle.deedsOf, performed, course, here]
  · have added : World.deadOf job.id { world with dead := (entry, score) :: world.dead } =
        (entry, score) :: world.deadOf job.id := by
      rw [World.deadOf, List.filter_cons_of_pos (by simpa using own)]
      rfl
    rw [added, dead, List.map_singleton, here]

/-- Whatever the worker that has the job does, as long as nothing spoils the course. -/
theorem Accounted.held (tracks : Tracks job.id chronicle world (.held client step found))
    (reached : Reached settings job chronicle.put chronicle.deeds (world.deadOf job.id)
      (.held client step found))
    (doing : chronicle.phases client = .doing step found) (own : found.id = job.id)
    (unspoiled : spoils command (Command.exec outcome command world).1 = false)
    (allowed : RetryPhase.Allowed settings (.doing step found) command) :
    Accounted settings job (recorded settings job.id chronicle world client command outcome)
      (Command.exec outcome command world).2 := by
  have after : (chronicle.phases client).advance command (Command.exec outcome command world).1 =
      .moved step found command := by
    rw [doing]
    exact advance_unspoiled unspoiled
  cases allowed with
  | incidental aside =>
    have deeds : Chronicle.deedsOf job.id outcome command = [] :=
      deedsOf_foreign (foreign_of_incidental aside)
    apply Accounted.goesOn tracks (still_of_incidental aside)
      (after.trans (moved_incidental aside)) own
    rw [deeds, List.append_nil]
    exact reached
  | lock _ value ttlSecs =>
    obtain ⟨put, dead, count, within, here, deeds⟩ := reached
    apply Accounted.goesOn tracks rfl after own
    exact ⟨put, dead, count, within, here, by simp [deeds, Chronicle.deedsOf]⟩
  | process =>
    obtain ⟨put, dead, count, within, here, deeds⟩ := reached
    apply Accounted.goesOn tracks rfl after own
    exact ⟨put, dead, count, within, here, by simp [deeds, Chronicle.deedsOf]⟩
  | dispatch =>
    obtain ⟨put, dead, count, within, here, deeds⟩ := reached
    apply Accounted.goesOn tracks rfl after own
    refine ⟨put, dead, count, within, here, ?_⟩
    rw [dispatches_succ, deeds, here]
    simp [Chronicle.deedsOf, WritingJob.attempted]
  | retry _ remaining error =>
    obtain ⟨put, dead, count, within, rfl, deeds⟩ := reached
    apply Accounted.goesOn tracks rfl after own
    refine ⟨put, dead, count + 1, ?_, rfl, by simp [deeds, Chronicle.deedsOf]⟩
    have attempt : (job.attempted count).failedOnce.attempt = (count : Int) + 1 := rfl
    rw [attempt] at remaining
    simp only [rounds]
    omega
  | giveUp _ spent error =>
    obtain ⟨put, dead, count, within, rfl, deeds⟩ := reached
    have performed := performed_of_undisturbed (undisturbed_of_unspoiled (by simp) unspoiled)
    have attempt : (job.attempted count).failedOnce.attempt = (count : Int) + 1 := rfl
    have last : count + 1 = rounds settings := by
      rw [attempt] at spent
      simp only [rounds] at within ⊢
      omega
    apply Accounted.goesOn tracks rfl after own
    refine ⟨put, dead, ?_, ?_⟩
    · rw [failedOnce_attempted, last]
    · rw [deeds, last]
      simp [Chronicle.deedsOf, performed]
  | requeue _ score =>
    have done := exec_undisturbed world (undisturbed_of_unspoiled (by simp) unspoiled)
    exact Accounted.requeue tracks reached after own done
  | bury entry score =>
    have performed := performed_of_undisturbed (undisturbed_of_unspoiled (by simp) unspoiled)
    exact Accounted.bury tracks reached after own performed

/-- One command of any client. -/
theorem Accounted.exchange (accounted : Accounted settings job chronicle world)
    {payload : WritingJobPayload} (parsed : (Member.enqueued payload).job? = some job)
    (first : job.attempt = 0)
    (allowed : RetryPhase.Allowed settings (chronicle.phases client) command)
    (delivered : Delivered payload chronicle.put outcome command = true)
    (unspoiled : mine job.id (chronicle.phases client) = true →
      spoils command (Command.exec outcome command world).1 = false) :
    Accounted settings job (recorded settings job.id chronicle world client command outcome)
      (Command.exec outcome command world).2 := by
  cases here : chronicle.phases client with
  | strayed jobId => exact accounted.astray here allowed
  | doing step found =>
    by_cases own : found.id = job.id
    · obtain ⟨spot, tracks, reached⟩ := accounted
      have held : spot = .held client step found := (tracks.hands client step found).mp ⟨here, own⟩
      subst held
      have hand : mine job.id (chronicle.phases client) = true := by
        simp [mine, here, RetryPhase.job?, own]
      exact Accounted.held tracks reached here own (unspoiled hand) (here ▸ allowed)
    · exact accounted.busy here own allowed
  | rest =>
    rw [here] at allowed
    cases allowed with
    | incidental aside => exact accounted.idle here aside
    | enqueue other score => exact accounted.enqueue parsed first here delivered
    | pop now => exact accounted.pop here delivered

end Steps

end BrainMate.WriteRight
