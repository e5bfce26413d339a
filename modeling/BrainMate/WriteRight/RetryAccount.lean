import BrainMate.WriteRight.Ledger
import BrainMate.WriteRight.RetryPhases

/-! The account of one job over a whole run: which workers have it, and when it was dispatched,
given up and put among the dead letters. -/

namespace BrainMate.WriteRight

open Interleaving System Program

/-- The member is this job. -/
def owned (jobId : String) (member : Member) : Bool := member.job?.any fun job => job.id = jobId

namespace World

variable (jobId : String) (world : World)

/-- The members of the queue that are this job. -/
def membersOf : List (Member × Nat) := world.jobs.filter fun stored => owned jobId stored.1

/-- The dead letters of this job. -/
def deadOf : List (DeadEntry × Nat) := world.dead.filter fun stored => stored.1.job.id = jobId

variable {jobId world}

theorem membersOf_zadd (member : Member) (score : Nat) :
    (world.zadd member score).membersOf jobId =
      (if owned jobId member then [(member, score)] else []) ++
        (world.membersOf jobId).filter fun stored => stored.1 ≠ member := by
  simp only [membersOf, zadd, List.filter_cons, List.filter_filter, Bool.and_comm]
  split <;> rfl

theorem membersOf_zrem (member : Member) :
    (world.zrem member).membersOf jobId =
      (world.membersOf jobId).filter fun stored => stored.1 ≠ member := by
  simp only [membersOf, zrem, List.filter_filter, Bool.and_comm]

/-- A member of another job is none of the members of this one. -/
theorem filter_foreign {member : Member} (foreign : owned jobId member = false) :
    ((world.membersOf jobId).filter fun stored => stored.1 ≠ member) = world.membersOf jobId := by
  rw [List.filter_eq_self]
  intro stored found
  have own := (List.mem_filter.mp found).2
  simp only [decide_eq_true_eq]
  rintro rfl
  rw [foreign] at own
  cases own

end World

/-- The command does not touch this job. -/
def foreign (jobId : String) : Command → Bool
  | .dispatch job => job.id ≠ jobId
  | .redis command =>
    match command with
    | .popDue _ => false
    | .zadd member _ => !owned jobId member
    | .zaddDead entry _ => entry.job.id ≠ jobId
    | .setStatus written _ _ => written ≠ jobId
    | _ => true
  | _ => true

theorem exec_membersOf {jobId : String} {command : Command} (away : foreign jobId command = true)
    (outcome : Outcome) (world : World) :
    (Command.exec outcome command world).2.membersOf jobId = world.membersOf jobId := by
  by_cases isQuiet : quiet command = true
  · rw [World.membersOf, exec_jobs isQuiet]
    rfl
  cases command with
  | dispatch job =>
    rw [exec_unchanged]
  | redis command =>
    cases command with
    | popDue now => cases away
    | zadd member score =>
      have other : owned jobId member = false := by simpa [foreign] using away
      simp only [Command.exec, Command.effect, RedisCommand.effect]
      split
      · rw [World.membersOf_zadd, World.filter_foreign other, other]
        rfl
      · rfl
    | _ => exact absurd rfl isQuiet
  | _ => exact absurd rfl isQuiet

@[simp] theorem World.dead_hset (world : World) (jobId : String) (fields : StatusHash) :
    (world.hset jobId fields).dead = world.dead := rfl

@[simp] theorem World.dead_expireHash (world : World) (jobId : String) (ttlSecs : Nat) :
    (world.expireHash jobId ttlSecs).dead = world.dead := by
  unfold World.expireHash
  split <;> rfl

@[simp] theorem World.dead_expireStream (world : World) (jobId : String) (ttlSecs : Nat) :
    (world.expireStream jobId ttlSecs).dead = world.dead := by
  unfold World.expireStream
  split <;> rfl

/-- Only a command that adds one changes the dead letters. -/
theorem effect_dead (command : Command) (world : World) :
    (command.effect world).dead = world.dead ∨ ∃ entry score,
      command = .redis (.zaddDead entry score) ∧
        (command.effect world).dead = (entry, score) :: world.dead := by
  cases command with
  | supabase command => left; cases command <;> rfl
  | redis command =>
    cases command with
    | zaddDead entry score => exact .inr ⟨entry, score, rfl, rfl⟩
    | popDue now | setLock | extendLock =>
      left
      simp only [Command.effect, RedisCommand.effect]
      split <;> rfl
    | setStatus | expireHash | expireStream =>
      left
      simp [Command.effect, RedisCommand.effect]
    | _ => exact .inl rfl
  | _ => exact .inl rfl

theorem exec_deadOf {jobId : String} {command : Command}
    (away : ∀ entry score, command = .redis (.zaddDead entry score) → entry.job.id ≠ jobId)
    (outcome : Outcome) (world : World) :
    (Command.exec outcome command world).2.deadOf jobId = world.deadOf jobId := by
  simp only [Command.exec]
  split
  · rcases effect_dead command world with same | ⟨entry, score, rfl, added⟩
    · rw [World.deadOf, same]
      rfl
    · rw [World.deadOf, added, List.filter_cons_of_neg (by simpa using away entry score rfl)]
      rfl
  · rfl

/-- What happens to a job. -/
inductive Deed where
  | dispatched (job : WritingJob)
  /-- Its status was set to `failed`. -/
  | failed
  /-- It was put among the dead letters. -/
  | buried (job : WritingJob)
  deriving DecidableEq, Repr

/-- The account of one job, the earliest deed first. -/
structure Chronicle where
  phases : Nat → RetryPhase
  /-- `enqueueWriteRightJob` has put the job in the queue. -/
  put : Bool
  deeds : List Deed

namespace Chronicle

def empty : Chronicle := ⟨fun _ => .rest, false, []⟩

/-- The command puts the job in the queue for the first time. -/
def enqueues (jobId : String) : Command → Bool
  | .redis (.zadd (.enqueued payload) _) => payload.id = jobId
  | _ => false

/-- A dispatch counts when it is started, whatever becomes of it. -/
def deedsOf (jobId : String) (outcome : Outcome) : Command → List Deed
  | .dispatch job => if job.id = jobId then [.dispatched job] else []
  | .redis (.setStatus written fields _) =>
    if Command.performed outcome ∧ written = jobId ∧ fields.status = some .failed then [.failed]
    else []
  | .redis (.zaddDead entry _) =>
    if Command.performed outcome ∧ entry.job.id = jobId then [.buried entry.job] else []
  | _ => []

variable (settings : Settings) (jobId : String)

@[reducible] def watcher : (jobQueue settings).Ghost where
  State := Chronicle
  exchange chronicle client command outcome world := {
    phases := Function.update chronicle.phases client
      ((chronicle.phases client).advance command (Command.exec outcome command world).1)
    put := chronicle.put || (Command.performed outcome && enqueues jobId command)
    deeds := chronicle.deeds ++ deedsOf jobId outcome command }
  crash chronicle client _ :=
    { chronicle with phases := Function.update chronicle.phases client .rest }

def phasesOf : (watcher settings jobId).Phases (RetryPhase.observer settings) where
  phase := phases
  exchange_own _ _ _ _ _ := Function.update_self _ _ _
  exchange_other _ _ _ _ _ _ different := Function.update_of_ne different _ _
  crash_own _ _ _ := Function.update_self _ _ _
  crash_other _ _ _ _ different := Function.update_of_ne different _ _

end Chronicle

end BrainMate.WriteRight
