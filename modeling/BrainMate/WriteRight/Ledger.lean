import Mathlib.Data.Set.Card
import BrainMate.WriteRight.Stages

namespace BrainMate.WriteRight

open Interleaving System Program

namespace World

variable {world : World}

theorem mem_zadd {member other : Member} {score scored : Nat} :
    (other, scored) ∈ (world.zadd member score).jobs ↔
      (other = member ∧ scored = score) ∨ ((other, scored) ∈ world.jobs ∧ other ≠ member) := by
  simp [zadd]

theorem mem_zrem {member other : Member} {scored : Nat} :
    (other, scored) ∈ (world.zrem member).jobs ↔
      (other, scored) ∈ world.jobs ∧ other ≠ member := by
  simp [zrem]

theorem mem_of_due? {now : Nat} {member : Member} (due : world.due? now = some member) :
    ∃ score, (member, score) ∈ world.jobs := by
  obtain ⟨stored, found, rfl⟩ := Option.map_eq_some_iff.mp due
  exact ⟨stored.2, (List.mergeSort_perm _ _).mem_iff.mp (List.mem_of_find?_eq_some found)⟩

end World

/-- The command leaves the queue alone and starts no dispatch. -/
def quiet : Command → Bool
  | .dispatch _ => false
  | .redis command =>
    match command with
    | .popDue _ | .zadd _ _ => false
    | _ => true
  | _ => true

@[simp] theorem World.jobs_hset (world : World) (jobId : String) (fields : StatusHash) :
    (world.hset jobId fields).jobs = world.jobs := rfl

@[simp] theorem World.jobs_expireHash (world : World) (jobId : String) (ttlSecs : Nat) :
    (world.expireHash jobId ttlSecs).jobs = world.jobs := by
  unfold World.expireHash
  split <;> rfl

@[simp] theorem World.jobs_expireStream (world : World) (jobId : String) (ttlSecs : Nat) :
    (world.expireStream jobId ttlSecs).jobs = world.jobs := by
  unfold World.expireStream
  split <;> rfl

private theorem effect_jobs {command : Command} (isQuiet : quiet command = true) (world : World) :
    (command.effect world).jobs = world.jobs := by
  cases command with
  | supabase command => cases command <;> rfl
  | redis command =>
    cases command with
    | popDue _ | zadd _ _ => cases isQuiet
    | setStatus jobId fields ttlSecs => simp [Command.effect, RedisCommand.effect]
    | expireHash jobId ttlSecs => simp [Command.effect, RedisCommand.effect]
    | expireStream jobId ttlSecs => simp [Command.effect, RedisCommand.effect]
    | setLock _ _ _ | extendLock _ _ _ =>
      simp only [Command.effect, RedisCommand.effect]
      split <;> rfl
    | _ => rfl
  | _ => rfl

theorem exec_jobs {command : Command} (isQuiet : quiet command = true) (outcome : Outcome)
    (world : World) : (Command.exec outcome command world).2.jobs = world.jobs := by
  simp only [Command.exec]
  split
  · exact effect_jobs isQuiet world
  · rfl

structure Ledger where
  stages : Nat → Stage
  /-- The ids that `enqueueWriteRightJob` put in the queue. -/
  put : List String
  /-- The ids in the order in which `_dispatch_job` was started for them. -/
  dispatches : List String
  /-- The ids whose status was written as completed or failed. -/
  ended : List String
  /-- The results of `process_job`, as it wrote or returned them. -/
  produced : List (String × AIResult)

namespace Ledger

def empty : Ledger := ⟨fun _ => .free, [], [], [], []⟩

/-- The job a command puts in the queue for the first time. -/
def puts : Command → List String
  | .redis (.zadd (.enqueued payload) _) => [payload.id]
  | _ => []

def starts : Command → List String
  | .dispatch job => [job.id]
  | _ => []

def ends : Command → List String
  | .redis (.setStatus jobId fields _) => if fields.status.any Status.terminal then [jobId] else []
  | _ => []

def produces : Command → List (String × AIResult)
  | .dispatched job result => [(job.id, result)]
  | .supabase (.updateJobStatus jobId .completed (some result) _) => [(jobId, result)]
  | _ => []

variable (settings : Settings)

@[reducible] def watcher : (jobQueue settings).Ghost where
  State := Ledger
  exchange ledger client command outcome world := {
    stages := Function.update ledger.stages client
      ((ledger.stages client).advance command (Command.exec outcome command world).1)
    put := (if Command.performed outcome then puts command else []) ++ ledger.put
    dispatches := starts command ++ ledger.dispatches
    ended := (if Command.performed outcome then ends command else []) ++ ledger.ended
    produced := produces command ++ ledger.produced }
  crash ledger client _ := { ledger with stages := Function.update ledger.stages client .free }

def phases : (watcher settings).Phases (Stage.observer settings) where
  phase ledger := ledger.stages
  exchange_own _ _ _ _ _ := Function.update_self _ _ _
  exchange_other _ _ _ _ _ _ different := Function.update_of_ne different _ _
  crash_own _ _ _ := Function.update_self _ _ _
  crash_other _ _ _ _ different := Function.update_of_ne different _ _

/-- The ledger after a command. -/
@[reducible] def noted (ledger : Ledger) (world : World) (client : Nat) (command : Command)
    (outcome : Outcome) : Ledger :=
  (watcher settings).exchange ledger client command outcome world

end Ledger

namespace Stage

/-- The job in hand, and whether it may have been dispatched in this round. -/
def credit : Stage → Option (WritingJob × Bool)
  | .holds job => some (job, false)
  | .started job | .drafted job _ | .completed job _ | .published job _ | .gaveUp job =>
    some (job, true)
  | .free | .saw _ | .fell _ _ | .told _ _ => none

theorem credit_of_inHand {job : WritingJob} {stage : Stage} (inHand : InHand job stage) :
    ∃ spent, stage.credit = some (job, spent) := by
  cases inHand with
  | holds => exact ⟨false, rfl⟩
  | started => exact ⟨true, rfl⟩

private theorem credit_of_idle {stage : Stage} (idle : stage.job? = none) :
    stage.credit = none := by
  cases stage <;> first | rfl | cases idle

theorem advance_free_or (stage : Stage) (command : Command) (reply : command.Reply) :
    stage.advance command reply = .free ∨ stage.advance command reply = stage.moved command reply := by
  unfold advance
  split
  · exact .inl rfl
  · exact .inr rfl

/-- A quiet command takes no job in hand, and makes none undispatched. -/
theorem advance_credit {settings : Settings} {stage : Stage} {command : Command}
    (allowed : Allowed settings stage command) (isQuiet : quiet command = true)
    (reply : command.Reply) {job : WritingJob} {spent : Bool}
    (after : (stage.advance command reply).credit = some (job, spent)) :
    ∃ earlier, stage.credit = some (job, earlier) ∧ (earlier = true → spent = true) := by
  rcases advance_free_or stage command reply with dropped | moved
  · rw [dropped] at after
    cases after
  rw [moved] at after
  cases allowed with
  | enqueue | pop | dispatch | requeue => cases isQuiet
  | aside isApart =>
    rw [moved_apart stage isApart] at after
    exact ⟨spent, after, id⟩
  | pend jobId fields pending => cases after
  | slot job =>
    rcases reply with _ | _
    · cases after
    · exact ⟨_, after, id⟩
  | lock job =>
    rcases reply with _ | _ | _
    · cases after
    · cases after
    · exact ⟨_, after, id⟩
  | process job => rcases reply with _ | _ <;> cases after <;> exact ⟨_, rfl, id⟩
  | persist job result => cases after; exact ⟨_, rfl, id⟩
  | dispatched job result => rcases reply with _ | _ <;> cases after <;> exact ⟨_, rfl, id⟩
  | complete job result => rcases reply with _ | _ <;> cases after <;> exact ⟨_, rfl, id⟩
  | publish job result => rcases reply with _ | _ <;> cases after <;> exact ⟨_, rfl, id⟩
  | keep job result =>
    rcases reply with _ | _
    · exact ⟨_, after, id⟩
    · cases after
  | retry inHand =>
    rcases reply with _ | _
    · cases inHand <;> cases after
    · cases inHand <;> exact ⟨_, after, id⟩
  | giveUp inHand =>
    rcases reply with _ | _
    · cases inHand <;> cases after
    · cases inHand <;> cases after <;> exact ⟨_, rfl, fun _ => rfl⟩
  | report job =>
    rcases reply with _ | _
    · cases after
    · exact ⟨_, after, id⟩
  | keepReport job => rcases reply with _ | _ <;> cases after
  | circuit idle =>
    rw [← moved, credit_of_idle (circuit_idle idle reply)] at after
    cases after
  | look idle jobId =>
    rcases reply with _ | _ | hash
    · cases after
    · cases after
    · change (if hash.status = some .completed then Stage.saw jobId else .free).credit = _ at after
      split at after <;> cases after
  | lookRow idle jobId =>
    rcases reply with _ | _ | row
    · cases after
    · cases after
    · change (if row.status = .completed then Stage.fell jobId row.output else .free).credit = _ at after
      split at after <;> cases after
  | fetch jobId => rcases reply with _ | _ <;> cases after
  | fetchRow jobId output => rcases reply with _ | _ <;> cases after

end Stage

section Commands

variable {settings : Settings} {ledger : Ledger} {world : World} {client : Nat}
variable {command : Command} {outcome : Outcome}

/-- The shapes of an allowed command, as far as the places of jobs are concerned. -/
theorem command_cases (allowed : Stage.Allowed settings (ledger.stages client) command) :
    quiet command = true ∨
    (∃ now, command = .redis (.popDue now) ∧ ledger.stages client = .free) ∨
    (∃ job, command = .dispatch job ∧ ledger.stages client = .holds job) ∨
    (∃ job score, command = .redis (.zadd (.requeued job.failedOnce) score) ∧
      Stage.InHand job (ledger.stages client) ∧
      job.failedOnce.attempt < settings.jobMaxRetries) ∨
    (∃ payload score, command = .redis (.zadd (.enqueued payload) score) ∧
      ledger.stages client = .free) := by
  generalize ledger.stages client = stage at allowed
  cases allowed with
  | pop now => exact .inr (.inl ⟨now, rfl, rfl⟩)
  | dispatch job => exact .inr (.inr (.inl ⟨job, rfl, rfl⟩))
  | requeue inHand left score => exact .inr (.inr (.inr (.inl ⟨_, score, rfl, inHand, left⟩)))
  | enqueue payload score => exact .inr (.inr (.inr (.inr ⟨payload, score, rfl, rfl⟩)))
  | aside isApart =>
    left
    rcases command with _ | _ | _ | _ | _ | redis | _ | _ <;> try rfl
    · cases isApart
    · cases redis <;> first | rfl | cases isApart
  | _ => exact .inl rfl

theorem exec_unchanged {job : WritingJob} :
    (Command.exec outcome (.dispatch job) world).2 = world := by
  simp [Command.exec, Command.effect]

/-- An answer with a member means that it was due and is removed. -/
theorem popDue_answered {now : Nat} {member : Member}
    (answered : (Command.exec outcome (.redis (.popDue now)) world).1 = .ok (some member)) :
    world.due? now = some member ∧
      (Command.exec outcome (.redis (.popDue now)) world).2 = world.zrem member := by
  have due : world.due? now = some member ∧ Command.performed outcome = true := by
    cases outcome with
    | failed performed failure => cases answered
    | ok | drafted _ _ => exact ⟨Except.ok.inj answered, rfl⟩
  refine ⟨due.1, ?_⟩
  simp [Command.exec, Command.effect, RedisCommand.effect, due.1, due.2]

def Outcome.succeeds : Outcome → Bool
  | .ok | .drafted _ _ => true
  | .failed _ _ => false

/-- Redis does what it is asked to; what else a worker waits for may fail or time out, but
nobody cancels the worker. -/
def Undisturbed (outcome : Outcome) : Command → Bool
  | .redis _ | .acquireSlot => outcome.succeeds
  | _ => outcome ≠ .failed true .cancelled && outcome ≠ .failed false .cancelled

variable (world) in
/-- A Redis command that succeeds is carried out and answered. -/
theorem exec_undisturbed {redis : RedisCommand}
    (undisturbed : Undisturbed outcome (.redis redis) = true) :
    Command.exec outcome (.redis redis) world = (redis.answer world, redis.effect world) := by
  cases outcome with
  | ok | drafted _ _ => rfl
  | failed _ _ => cases undisturbed

variable (world) in
theorem not_cancels (undisturbed : Undisturbed outcome command = true) :
    Stage.cancels command (Command.exec outcome command world).1 = false := by
  cases command with
  | time | isCircuitOpen => rfl
  | redis redis =>
    rw [exec_undisturbed world undisturbed]
    cases redis with
    | setLock jobId value ttlSecs =>
      simp only [RedisCommand.answer]
      split <;> rfl
    | _ => rfl
  | acquireSlot =>
    cases outcome with
    | ok | drafted _ _ => rfl
    | failed _ _ => cases undisturbed
  | dispatch _ | dispatched _ _ | supabase _ =>
    rcases outcome with _ | _ | ⟨_ | _, _ | _ | _⟩ <;> first | rfl | cases undisturbed
  | model model =>
    cases model <;> rcases outcome with _ | _ | ⟨_ | _, _ | _ | _⟩ <;>
      first | rfl | cases undisturbed

theorem advance_undisturbed (stage : Stage) (undisturbed : Undisturbed outcome command = true) :
    stage.advance command (Command.exec outcome command world).1 =
      stage.moved command (Command.exec outcome command world).1 := by
  simp [Stage.advance, not_cancels world undisturbed]

end Commands

inductive Place where
  | queued (member : Member)
  | held (client : Nat)

/-- The place has the job, dispatched in the present round or not. -/
def Placed (ledger : Ledger) (world : World) : Place → WritingJob → Bool → Prop
  | .queued member, job, spent =>
    (∃ score, (member, score) ∈ world.jobs) ∧ member.job? = some job ∧ spent = false
  | .held client, job, spent => (ledger.stages client).credit = some (job, spent)

/-- The members of the queue with an id, and the workers that have popped a job with it and
neither dropped nor finished nor put it back. -/
def places (ledger : Ledger) (world : World) (jobId : String) : Set Place :=
  {place | ∃ job spent, Placed ledger world place job spent ∧ job.id = jobId}

end BrainMate.WriteRight
