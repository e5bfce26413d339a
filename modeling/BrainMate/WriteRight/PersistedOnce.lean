import Mathlib.Data.Set.Subsingleton
import BrainMate.WriteRight.PersistPhases
import BrainMate.WriteRight.Closing
import BrainMate.WriteRight.StoreAgreement

namespace BrainMate.WriteRight

open Interleaving System

/-- The assistant messages with a job's id. -/
def World.answers (world : World) (jobId : String) : Nat :=
  world.messages.countP fun row =>
    decide (row.role = .assistant ∧ row.metadata.map MessageMetadata.jobId = some jobId)

@[reducible] def persistGhost (settings : Settings) (workerSecret : Option String) :
    (completions settings workerSecret).Ghost where
  State := Nat → PersistPhase
  exchange phases client command outcome world :=
    Function.update phases client
      ((phases client).advance command (CompletionCommand.exec outcome command world).1)
  crash phases client _ := Function.update phases client .free

def persistPhases (settings : Settings) (workerSecret : Option String) :
    Ghost.Phases (persistGhost settings workerSecret) persistObserver where
  phase phases := phases
  exchange_own _ _ _ _ _ := Function.update_self _ _ _
  exchange_other _ _ _ _ _ _ different := Function.update_of_ne different _ _
  crash_own _ _ _ := Function.update_self _ _ _
  crash_other _ _ _ _ different := Function.update_of_ne different _ _

/-- The job whose rows a client may still write. -/
def PersistPhase.jobId? : PersistPhase → Option String
  | .free => none
  | .holds job | .saved job | .recorded job => some job.id
  | .claimed jobId => some jobId

/-- Where a job is: the members of the queue with its id, and the clients that have it. -/
def holders (phases : Nat → PersistPhase) (world : World) (jobId : String) : Set Place :=
  {place | match place with
    | .queued member => (∃ score, (member, score) ∈ world.jobs) ∧ member.job?.map WritingJob.id = some jobId
    | .held client => (phases client).jobId? = some jobId}

/-- What a repeated write would need: a job is put in the queue only while it has no rows, an
enqueued one only if nobody has it either, and the complete route takes up a job that nobody
has and that has no usage row. -/
def Unrepeated (phases : Nat → PersistPhase) (world : World) (outcome : Outcome) :
    CompletionCommand → Prop
  | .queue (.redis (.zadd member _)) => Command.performed outcome = true →
      ∀ job, member.job? = some job →
        world.answers job.id = 0 ∧ world.usages job.id = 0 ∧
        ∀ payload, member = .enqueued payload → holders phases world job.id = ∅
  | .supabase (.selectJob jobId) => outcome.succeeds = true → (world.jobRows.find? jobId).isSome →
      world.usages jobId = 0 ∧ holders phases world jobId = ∅
  | _ => True

variable {settings : Settings} {workerSecret : Option String}

def TakenUpOnce (phases : Nat → PersistPhase)
    (config : (completions settings workerSecret).Config) :
    (completions settings workerSecret).Move → Prop
  | .act (.step client outcome) => ∀ command, (config.threads client).next? = some command →
      Unrepeated phases config.world.queue outcome command
  | .crash _ | .act (.start _ _) | .act (.environment _) => True

/-- The place cannot add a message. -/
def PersistPhase.messaged : PersistPhase → Bool
  | .saved _ | .recorded _ | .claimed _ => true
  | .free | .holds _ => false

/-- The place cannot add a usage row. -/
def PersistPhase.accounted : PersistPhase → Bool
  | .recorded _ => true
  | .free | .holds _ | .saved _ | .claimed _ => false

/-- A client in one of these phases. -/
def HeldWith (phases : Nat → PersistPhase) (property : PersistPhase → Bool) (place : Place) : Prop :=
  ∃ client, place = .held client ∧ property (phases client) = true

/-- The job is in one place at a time, and a place that has it can add no row of a kind that
the job already has. -/
structure RowsOnce (phases : Nat → PersistPhase) (world : World) (jobId : String) : Prop where
  single : (holders phases world jobId).Subsingleton
  messages : world.answers jobId ≤ 1
  messaged : 0 < world.answers jobId → ∀ place ∈ holders phases world jobId,
    HeldWith phases PersistPhase.messaged place
  rows : world.usages jobId ≤ 1
  accounted : 0 < world.usages jobId → ∀ place ∈ holders phases world jobId,
    HeldWith phases PersistPhase.accounted place

namespace RowsOnce

variable {phases later : Nat → PersistPhase} {world after : World} {jobId : String}

/-- A step that writes no row for the job and brings it to no new place. -/
theorem shrunk (once : RowsOnce phases world jobId)
    (answers : after.answers jobId = world.answers jobId)
    (usages : after.usages jobId = world.usages jobId)
    (kept : ∀ place ∈ holders later after jobId, place ∈ holders phases world jobId ∧
      (HeldWith phases PersistPhase.messaged place → HeldWith later PersistPhase.messaged place) ∧
      (HeldWith phases PersistPhase.accounted place → HeldWith later PersistPhase.accounted place)) :
    RowsOnce later after jobId := by
  refine ⟨?_, answers ▸ once.messages, ?_, usages ▸ once.rows, ?_⟩
  · exact fun place member other member' => once.single (kept place member).1 (kept other member').1
  · intro written place member
    obtain ⟨before, messaged, _⟩ := kept place member
    exact messaged (once.messaged (answers ▸ written) place before)
  · intro written place member
    obtain ⟨before, _, accounted⟩ := kept place member
    exact accounted (once.accounted (usages ▸ written) place before)

/-- A step after which the job is in one place at most. -/
theorem only (place : Place) (here : ∀ other ∈ holders later after jobId, other = place)
    (messages : after.answers jobId ≤ 1)
    (messaged : 0 < after.answers jobId → HeldWith later PersistPhase.messaged place)
    (rows : after.usages jobId ≤ 1)
    (accounted : 0 < after.usages jobId → HeldWith later PersistPhase.accounted place) :
    RowsOnce later after jobId := by
  refine ⟨?_, messages, ?_, rows, ?_⟩
  · exact fun first member second member' => (here first member).trans (here second member').symm
  · exact fun written other member => here other member ▸ messaged written
  · exact fun written other member => here other member ▸ accounted written

/-- A step after which the job is nowhere. -/
theorem gone (nowhere : holders later after jobId = ∅) (messages : after.answers jobId ≤ 1)
    (rows : after.usages jobId ≤ 1) : RowsOnce later after jobId := by
  refine ⟨?_, messages, ?_, rows, ?_⟩
  · exact nowhere ▸ Set.subsingleton_empty
  · exact fun _ place member => absurd (nowhere ▸ member) (Set.notMem_empty place)
  · exact fun _ place member => absurd (nowhere ▸ member) (Set.notMem_empty place)

/-- A place that can still add a message has not added one, nor has another one. -/
theorem unanswered (once : RowsOnce phases world jobId) {place : Place}
    (present : place ∈ holders phases world jobId)
    (open_ : ¬ HeldWith phases PersistPhase.messaged place) : world.answers jobId = 0 := by
  by_contra written
  exact open_ (once.messaged (Nat.pos_of_ne_zero written) place present)

private theorem unaccounted (once : RowsOnce phases world jobId) {place : Place}
    (present : place ∈ holders phases world jobId)
    (open_ : ¬ HeldWith phases PersistPhase.accounted place) : world.usages jobId = 0 := by
  by_contra written
  exact open_ (once.accounted (Nat.pos_of_ne_zero written) place present)

end RowsOnce

section Commands

variable {phases : Nat → PersistPhase} {world : CompletionWorld} {client : Nat}
variable {command : CompletionCommand} {outcome : Outcome} {jobId : String} {moved : PersistPhase}

private theorem not_heldWith_queued (property : PersistPhase → Bool) (member : Member) :
    ¬ HeldWith phases property (.queued member) := by
  rintro ⟨client, impossible, _⟩
  cases impossible

theorem not_heldWith_held {property : PersistPhase → Bool} (lacks : property (phases client) = false) :
    ¬ HeldWith phases property (.held client) := by
  rintro ⟨other, same, holds⟩
  cases same
  rw [lacks] at holds
  cases holds

private theorem heldWith_own {property : PersistPhase → Bool} (holds : property moved = true) :
    HeldWith (Function.update phases client moved) property (.held client) :=
  ⟨client, rfl, by rw [Function.update_self]; exact holds⟩

private theorem heldWith_other {property : PersistPhase → Bool} {place : Place}
    (other : place ≠ .held client) (holds : HeldWith phases property place) :
    HeldWith (Function.update phases client moved) property place := by
  obtain ⟨holder, rfl, holds⟩ := holds
  refine ⟨holder, rfl, ?_⟩
  rw [Function.update_of_ne fun same => other (congrArg Place.held same)]
  exact holds

/-- A place after a step, when the client that made it does not have the job. -/
theorem kept_of_away {after : World}
    (fewer : ∀ member, (∃ score, (member, score) ∈ after.jobs) → member.job?.map WritingJob.id = some jobId →
      ∃ score, (member, score) ∈ world.queue.jobs)
    (away : moved.jobId? ≠ some jobId) :
    ∀ place ∈ holders (Function.update phases client moved) after jobId,
      place ∈ holders phases world.queue jobId ∧ place ≠ .held client := by
  rintro (member | holder) present
  · exact ⟨⟨fewer member present.1 present.2, present.2⟩, fun impossible => by cases impossible⟩
  · by_cases own : holder = client
    · subst own
      exact absurd (by simpa [holders] using present) away
    · refine ⟨?_, fun same => own (Place.held.inj same)⟩
      simpa [holders, Function.update_of_ne own] using present

/-- A step of a client that has nothing to do with the job, and writes no row for it. -/
theorem RowsOnce.aside {after : World} (once : RowsOnce phases world.queue jobId)
    (answers : after.answers jobId = world.queue.answers jobId)
    (usages : after.usages jobId = world.queue.usages jobId)
    (fewer : ∀ member, (∃ score, (member, score) ∈ after.jobs) →
      member.job?.map WritingJob.id = some jobId → ∃ score, (member, score) ∈ world.queue.jobs)
    (away : moved.jobId? ≠ some jobId) :
    RowsOnce (Function.update phases client moved) after jobId := by
  refine once.shrunk answers usages fun place member => ?_
  obtain ⟨before, other⟩ := kept_of_away fewer away place member
  exact ⟨before, heldWith_other other, heldWith_other other⟩

theorem queue_exec (command : Command) :
    (CompletionCommand.exec outcome (.queue command) world).2.queue =
      (Command.exec outcome command world.queue).2 := by
  simp only [CompletionCommand.exec, Command.exec]
  split <;> rfl

/-- The command inserts no row that is counted. -/
def writesNoRow : Command → Bool
  | .supabase (.insertMessage _) | .supabase (.insertUsage _) => false
  | _ => true

private theorem tables_silent {command : Command} (silent : writesNoRow command = true)
    (queue : World) :
    (Command.exec outcome command queue).2.messages = queue.messages ∧
      (Command.exec outcome command queue).2.usage = queue.usage := by
  simp only [Command.exec]
  split
  · cases command with
    | redis command => exact (tables_redis command queue).2
    | supabase command => cases command <;> first | exact ⟨rfl, rfl⟩ | cases silent
    | _ => exact ⟨rfl, rfl⟩
  · exact ⟨rfl, rfl⟩

private theorem counts_exec {command : Command} (silent : writesNoRow command = true)
    (queue : World)
    (jobId : String) :
    (Command.exec outcome command queue).2.answers jobId = queue.answers jobId ∧
      (Command.exec outcome command queue).2.usages jobId = queue.usages jobId := by
  obtain ⟨messages, usage⟩ := @tables_silent outcome command silent queue
  rw [World.answers, World.usages, messages, usage]
  exact ⟨rfl, rfl⟩

/-- A step of a client that stays where it is or drops what it has. -/
theorem RowsOnce.still {after : World} (once : RowsOnce phases world.queue jobId)
    (answers : after.answers jobId = world.queue.answers jobId)
    (usages : after.usages jobId = world.queue.usages jobId)
    (fewer : ∀ stored ∈ after.jobs, stored ∈ world.queue.jobs)
    (still : moved = phases client ∨ moved = .free) :
    RowsOnce (Function.update phases client moved) after jobId := by
  have members : ∀ member, (∃ score, (member, score) ∈ after.jobs) →
      ∃ score, (member, score) ∈ world.queue.jobs :=
    fun member ⟨score, stored⟩ => ⟨score, fewer _ stored⟩
  rcases still with rfl | rfl
  · rw [Function.update_eq_self]
    refine once.shrunk answers usages fun place present => ⟨?_, id, id⟩
    cases place with
    | queued member => exact ⟨members member present.1, present.2⟩
    | held holder => exact present
  · exact once.aside answers usages (fun member stored _ => members member stored)
      fun impossible => by cases impossible

/-- A command that adds no job to the queue, of a client that stays or drops what it has. -/
theorem still_step {command : Command}
    (once : ∀ jobId, RowsOnce phases world.queue jobId) (silent : writesNoRow command = true)
    (fewer : ∀ stored ∈ (Command.exec outcome command world.queue).2.jobs, stored ∈ world.queue.jobs)
    (still : moved = phases client ∨ moved = .free) (jobId : String) :
    RowsOnce (Function.update phases client moved)
      (CompletionCommand.exec outcome (.queue command) world).2.queue jobId := by
  rw [queue_exec]
  obtain ⟨answers, usages⟩ := @counts_exec outcome command silent world.queue jobId
  exact (once jobId).still answers usages fewer still

/-- A worker takes a job from the queue. -/
theorem pop_step {now : Nat} {member : Member} {job : WritingJob}
    (once : ∀ jobId, RowsOnce phases world.queue jobId) (due : world.queue.due? now = some member)
    (removed : (Command.exec outcome (.redis (.popDue now)) world.queue).2 = world.queue.zrem member)
    (parsed : member.job? = some job) (jobId : String) :
    RowsOnce (Function.update phases client (.holds job))
      (CompletionCommand.exec outcome (.queue (.redis (.popDue now))) world).2.queue jobId := by
  rw [queue_exec, removed]
  have fewer : ∀ other, (∃ score, (other, score) ∈ (world.queue.zrem member).jobs) →
      (∃ score, (other, score) ∈ world.queue.jobs) ∧ other ≠ member := by
    rintro other ⟨score, stored⟩
    obtain ⟨before, different⟩ := World.mem_zrem.mp stored
    exact ⟨⟨score, before⟩, different⟩
  by_cases own : jobId = job.id
  · subst own
    have here : .queued member ∈ holders phases world.queue job.id :=
      ⟨World.mem_of_due? due, by rw [parsed]; rfl⟩
    have elsewhere : ∀ place ∈ holders phases world.queue job.id, place = .queued member :=
      fun place present => (once job.id).single present here
    refine RowsOnce.only (.held client) ?_ (once job.id).messages ?_ (once job.id).rows ?_
    · rintro (other | holder) present
      · obtain ⟨stored, different⟩ := fewer other present.1
        exact absurd (Place.queued.inj (elsewhere (.queued other) ⟨stored, present.2⟩)) different
      · by_cases same : holder = client
        · rw [same]
        · have before : .held holder ∈ holders phases world.queue job.id := by
            simpa [holders, Function.update_of_ne same] using present
          cases elsewhere _ before
    · intro written
      exact absurd ((once job.id).messaged written _ here) (not_heldWith_queued _ member)
    · intro written
      exact absurd ((once job.id).accounted written _ here) (not_heldWith_queued _ member)
  · refine (once jobId).aside rfl rfl (fun other stored _ => (fewer other stored).1) ?_
    exact fun same => own (Option.some.inj same).symm

/-- A step of the client that has the job, after which it has it still. -/
theorem RowsOnce.keeps {after : World} (once : RowsOnce phases world.queue jobId)
    (jobs : after.jobs = world.queue.jobs) (had : (phases client).jobId? = some jobId)
    (messages : after.answers jobId ≤ 1)
    (messaged : 0 < after.answers jobId → moved.messaged = true)
    (rows : after.usages jobId ≤ 1) (accounted : 0 < after.usages jobId → moved.accounted = true) :
    RowsOnce (Function.update phases client moved) after jobId := by
  have here : .held client ∈ holders phases world.queue jobId := had
  refine RowsOnce.only (.held client) ?_ messages (fun written => heldWith_own (messaged written)) rows
    fun written => heldWith_own (accounted written)
  rintro (member | holder) present
  · have before : .queued member ∈ holders phases world.queue jobId := ⟨jobs ▸ present.1, present.2⟩
    exact once.single before here
  · by_cases same : holder = client
    · rw [same]
    · have before : .held holder ∈ holders phases world.queue jobId := by
        simpa [holders, Function.update_of_ne same] using present
      exact once.single before here

/-- The insert of a message counts once, for the job it names. -/
theorem insertMessage_counts (outcome : Outcome) (row : MessageRow) (queue : World) (jobId : String) :
    (Command.exec outcome (.supabase (.insertMessage row)) queue).2.answers jobId ≤
        queue.answers jobId + 1 ∧
      (row.metadata.map MessageMetadata.jobId ≠ some jobId →
        (Command.exec outcome (.supabase (.insertMessage row)) queue).2.answers jobId =
          queue.answers jobId) ∧
      (Command.exec outcome (.supabase (.insertMessage row)) queue).2.usages jobId =
        queue.usages jobId := by
  have appended : ({ queue with messages := queue.messages ++ [row] } : World).answers jobId =
      queue.answers jobId +
        if row.role = .assistant ∧ row.metadata.map MessageMetadata.jobId = some jobId then 1
        else 0 := by
    simp [World.answers, List.countP_append, List.countP_cons]
  simp only [Command.exec]
  split
  · refine ⟨?_, fun other => ?_, rfl⟩
    · change ({ queue with messages := queue.messages ++ [row] } : World).answers jobId ≤ _
      rw [appended]
      split <;> omega
    · change ({ queue with messages := queue.messages ++ [row] } : World).answers jobId = _
      rw [appended, if_neg fun both => other both.2]
      rfl
  · exact ⟨Nat.le_succ _, fun _ => rfl, rfl⟩

private theorem usages_append (queue : World) (row : UsageRow) (jobId : String) :
    ({ queue with usage := queue.usage ++ [row] } : World).usages jobId =
      queue.usages jobId + if row.jobId = jobId then 1 else 0 := by
  simp [World.usages, List.countP_append, List.countP_cons]

/-- What an insert of a usage row makes of the counts, whoever sends it. -/
structure CountsUsage (row : UsageRow) (before after : World) : Prop where
  answers : ∀ jobId, after.answers jobId = before.answers jobId
  usages : ∀ jobId, after.usages jobId ≤ before.usages jobId + 1
  others : ∀ jobId, row.jobId ≠ jobId → after.usages jobId = before.usages jobId
  jobs : after.jobs = before.jobs

private theorem countsUsage_append (row : UsageRow) (queue : World) :
    CountsUsage row queue { queue with usage := queue.usage ++ [row] } := by
  refine ⟨fun _ => rfl, fun jobId => ?_, fun jobId other => ?_, rfl⟩
  · rw [usages_append]
    split <;> omega
  · rw [usages_append, if_neg other]
    rfl

private theorem countsUsage_refl (row : UsageRow) (queue : World) : CountsUsage row queue queue :=
  ⟨fun _ => rfl, fun _ => Nat.le_succ _, fun _ _ => rfl, rfl⟩

/-- A worker sends the message of its attempt. -/
theorem message_step {row : MessageRow} {job : WritingJob}
    (once : ∀ jobId, RowsOnce phases world.queue jobId) (holds : phases client = .holds job)
    (own : row.metadata.map MessageMetadata.jobId = some job.id) (jobId : String) :
    RowsOnce (Function.update phases client (.saved job))
      (CompletionCommand.exec outcome (.queue (.supabase (.insertMessage row))) world).2.queue jobId := by
  rw [queue_exec]
  have jobs := exec_jobs (rfl : quiet (.supabase (.insertMessage row)) = true) outcome world.queue
  obtain ⟨atMost, others, usages⟩ := insertMessage_counts outcome row world.queue jobId
  by_cases same : jobId = job.id
  · subst same
    have had : (phases client).jobId? = some job.id := by rw [holds]; rfl
    have none : world.queue.answers job.id = 0 :=
      (once job.id).unanswered had (not_heldWith_held (by rw [holds]; rfl))
    have unpaid : world.queue.usages job.id = 0 :=
      (once job.id).unaccounted had (not_heldWith_held (by rw [holds]; rfl))
    exact (once job.id).keeps jobs had (by omega) (fun _ => rfl)
      (usages ▸ (once job.id).rows) fun written => by omega
  · refine (once jobId).aside (others fun given => same (Option.some.inj (given.symm.trans own)))
      usages (fun member stored _ => jobs ▸ stored) ?_
    exact fun given => same (Option.some.inj given).symm

/-- A worker sends the usage row of its attempt. -/
theorem usage_step {row : UsageRow} {job : WritingJob}
    (once : ∀ jobId, RowsOnce phases world.queue jobId) (saved : phases client = .saved job)
    (own : row.jobId = job.id) (jobId : String) :
    RowsOnce (Function.update phases client (.recorded job))
      (CompletionCommand.exec outcome (.queue (.supabase (.insertUsage row))) world).2.queue jobId := by
  rw [queue_exec]
  have counts : CountsUsage row world.queue
      (Command.exec outcome (.supabase (.insertUsage row)) world.queue).2 := by
    simp only [Command.exec]
    split
    · exact countsUsage_append row world.queue
    · exact countsUsage_refl row world.queue
  by_cases same : jobId = job.id
  · subst same
    have had : (phases client).jobId? = some job.id := by rw [saved]; rfl
    have unpaid : world.queue.usages job.id = 0 :=
      (once job.id).unaccounted had (not_heldWith_held (by rw [saved]; rfl))
    have atMost := counts.usages job.id
    exact (once job.id).keeps counts.jobs had (counts.answers job.id ▸ (once job.id).messages)
      (fun _ => rfl) (by omega) fun _ => rfl
  · refine (once jobId).aside (counts.answers jobId) (counts.others jobId fun given => ?_)
      (fun member stored _ => counts.jobs ▸ stored) ?_
    · exact same (given.symm.trans own)
    · exact fun given => same (Option.some.inj given).symm

/-- The complete route sends the usage row of the job it has found. -/
theorem posted_step {row : UsageRow} (once : ∀ jobId, RowsOnce phases world.queue jobId)
    (claimed : phases client = .claimed row.jobId) (jobId : String) :
    RowsOnce (Function.update phases client .free)
      (CompletionCommand.exec outcome (.supabase (.insertUsage row)) world).2.queue jobId := by
  have counts : CountsUsage row world.queue
      (CompletionCommand.exec outcome (.supabase (.insertUsage row)) world).2.queue := by
    simp only [CompletionCommand.exec]
    split
    · exact countsUsage_append row world.queue
    · exact countsUsage_refl row world.queue
  by_cases same : row.jobId = jobId
  · subst same
    have here : .held client ∈ holders phases world.queue row.jobId := by
      change (phases client).jobId? = some row.jobId
      rw [claimed]
      rfl
    have unpaid : world.queue.usages row.jobId = 0 :=
      (once row.jobId).unaccounted here (not_heldWith_held (by rw [claimed]; rfl))
    have atMost := counts.usages row.jobId
    refine RowsOnce.gone (Set.eq_empty_of_forall_notMem fun place present => ?_)
      (counts.answers row.jobId ▸ (once row.jobId).messages) (by omega)
    have away : place ∈ holders phases world.queue row.jobId ∧ place ≠ .held client :=
      kept_of_away (fun member stored _ => counts.jobs ▸ stored)
        (fun impossible => by cases impossible) place present
    exact away.2 ((once row.jobId).single away.1 here)
  · exact (once jobId).aside (counts.answers jobId) (counts.others jobId same)
      (fun member stored _ => counts.jobs ▸ stored) fun impossible => by cases impossible

/-- A job is put in the queue that has no rows, by the client that has it or while nobody
has it. -/
theorem put_step {member : Member} {score : Nat} {job : WritingJob}
    (once : ∀ jobId, RowsOnce phases world.queue jobId) (parsed : member.job? = some job)
    (unwritten : Command.performed outcome = true →
      world.queue.answers job.id = 0 ∧ world.queue.usages job.id = 0 ∧
      ∀ place ∈ holders phases world.queue job.id, place = .held client) (jobId : String) :
    RowsOnce (Function.update phases client .free)
      (CompletionCommand.exec outcome (.queue (.redis (.zadd member score))) world).2.queue jobId := by
  rw [queue_exec]
  obtain ⟨answers, usages⟩ := @counts_exec outcome (.redis (.zadd member score)) rfl world.queue jobId
  by_cases own : jobId = job.id ∧ Command.performed outcome = true
  · obtain ⟨rfl, performed⟩ := own
    obtain ⟨unanswered, unpaid, single⟩ := unwritten performed
    refine RowsOnce.only (.queued member) ?_ (by omega) (fun written => by omega) (by omega)
      fun written => by omega
    rintro (other | holder) present
    · obtain ⟨⟨scored, stored⟩, named⟩ := present
      rcases mem_jobs_zadd stored with rfl | before
      · rfl
      · have impossible := single (.queued other) ⟨⟨scored, before⟩, named⟩
        cases impossible
    · by_cases same : holder = client
      · subst same
        simp [holders, PersistPhase.jobId?] at present
      · have before : .held holder ∈ holders phases world.queue job.id := by
          simpa [holders, Function.update_of_ne same] using present
        exact absurd (Place.held.inj (single _ before)) same
  · refine (once jobId).aside answers usages ?_ fun impossible => by cases impossible
    rintro other ⟨scored, stored⟩ named
    simp only [Command.exec] at stored
    split at stored
    · rename_i performed
      rcases World.mem_zadd.mp stored with ⟨rfl, _⟩ | ⟨before, _⟩
      · rw [parsed] at named
        exact absurd ⟨(Option.some.inj named).symm, performed⟩ own
      · exact ⟨scored, before⟩
    · exact ⟨scored, stored⟩

/-- The complete route finds a job that nobody has and that has no usage row. -/
theorem select_step {found : String} (once : ∀ jobId, RowsOnce phases world.queue jobId)
    (unpaid : world.queue.usages found = 0) (nowhere : holders phases world.queue found = ∅)
    (jobId : String) :
    RowsOnce (Function.update phases client (.claimed found)) world.queue jobId := by
  by_cases own : jobId = found
  · subst own
    refine RowsOnce.only (.held client) ?_ (once jobId).messages
      (fun _ => heldWith_own rfl) (once jobId).rows fun written => by omega
    rintro (member | holder) present
    · exact absurd (nowhere ▸ present : Place.queued member ∈ (∅ : Set Place)) (Set.notMem_empty _)
    · by_cases same : holder = client
      · rw [same]
      · have before : .held holder ∈ holders phases world.queue jobId := by
          simpa [holders, Function.update_of_ne same] using present
        exact absurd (nowhere ▸ before) (Set.notMem_empty _)
  · exact (once jobId).aside rfl rfl (fun _ stored _ => stored)
      fun same => own (Option.some.inj same).symm

end Commands

/-- Each job has at most one message and one usage row, and nobody adds a second one. -/
def PersistsOnce (phases : Nat → PersistPhase) (world : CompletionWorld) : Prop :=
  ∀ jobId, RowsOnce phases world.queue jobId

section Keeping

variable {phases : Nat → PersistPhase} {world : CompletionWorld} {client : Nat} {outcome : Outcome}

/-- The state after a command. -/
def KeptBy (phases : Nat → PersistPhase) (world : CompletionWorld) (client : Nat)
    (outcome : Outcome) (command : CompletionCommand) : Prop :=
  PersistsOnce (Function.update phases client
      ((phases client).advance command (CompletionCommand.exec outcome command world).1))
    (CompletionCommand.exec outcome command world).2

private theorem kept_neutral {command : Command} (once : PersistsOnce phases world)
    (neutral : persistNeutral command = true) : KeptBy phases world client outcome (.queue command) := by
  have silent : writesNoRow command = true := by
    cases command with
    | supabase command => cases command <;> first | rfl | cases neutral
    | _ => rfl
  have jobs : (Command.exec outcome command world.queue).2.jobs = world.queue.jobs := by
    by_cases isQuiet : quiet command = true
    · exact exec_jobs isQuiet outcome world.queue
    · cases command with
      | dispatch job => rw [exec_unchanged]
      | redis command => cases command <;> first | exact absurd rfl isQuiet | cases neutral
      | _ => exact absurd rfl isQuiet
  exact still_step once silent (fun _ stored => jobs ▸ stored)
    (.inl (PersistPhase.advance_of_neutral _ neutral))

/-- A quiet command whose failure makes the client drop what it has. -/
theorem kept_quiet {command : Command} (once : PersistsOnce phases world)
    (isQuiet : quiet command = true) (silent : writesNoRow command = true)
    (still : ∀ reply, (phases client).advance (.queue command) reply = phases client ∨
      (phases client).advance (.queue command) reply = .free) :
    KeptBy phases world client outcome (.queue command) :=
  still_step once silent (fun _ stored => exec_jobs isQuiet outcome world.queue ▸ stored) (still _)

private theorem kept_pop {now : Nat} (once : PersistsOnce phases world)
    (free : phases client = .free) :
    KeptBy phases world client outcome (.queue (.redis (.popDue now))) := by
  unfold KeptBy
  obtain ⟨reply, answered⟩ : ∃ reply,
      (Command.exec outcome (.redis (.popDue now)) world.queue).1 = reply := ⟨_, rfl⟩
  have told : (CompletionCommand.exec outcome (.queue (.redis (.popDue now))) world).1 = reply := answered
  rw [told]
  by_cases taken : ∃ member job, reply = .ok (some member) ∧ member.job? = some job
  · obtain ⟨member, job, rfl, parsed⟩ := taken
    obtain ⟨due, removed⟩ := popDue_answered answered
    have holds : (phases client).advance (.queue (.redis (.popDue now))) (.ok (some member)) =
        .holds job := by
      change (member.job?.map PersistPhase.holds).getD (phases client) = .holds job
      rw [parsed]
      rfl
    rw [holds]
    exact pop_step once due removed parsed
  · have still : (phases client).advance (.queue (.redis (.popDue now))) reply = phases client := by
      rw [free]
      rcases reply with failure | _ | member
      · rfl
      · rfl
      · change (member.job?.map PersistPhase.holds).getD .free = .free
        cases parsed : member.job? with
        | none => rfl
        | some job => exact absurd ⟨member, job, rfl, parsed⟩ taken
    exact still_step once rfl (Sound.popDue_fewer now) (.inl still)

private theorem kept_zadd {member : Member} {score : Nat} (once : PersistsOnce phases world)
    (allowed : (phases client).Allowed (.queue (.redis (.zadd member score))))
    (unrepeated : Unrepeated phases world.queue outcome (.queue (.redis (.zadd member score)))) :
    KeptBy phases world client outcome (.queue (.redis (.zadd member score))) := by
  cases member with
  | malformed text => exact allowed.elim
  | enqueued payload =>
    have free : phases client = .free := allowed
    have still : (phases client).advance (.queue (.redis (.zadd (.enqueued payload) score)))
        (CompletionCommand.exec outcome (.queue (.redis (.zadd (.enqueued payload) score))) world).1 =
          .free := by rw [free]; rfl
    unfold KeptBy
    rw [still]
    refine put_step once rfl fun performed => ?_
    obtain ⟨unanswered, unpaid, nowhere⟩ := unrepeated performed _ rfl
    refine ⟨unanswered, unpaid, fun place present => ?_⟩
    exact absurd (nowhere payload rfl ▸ present) (Set.notMem_empty place)
  | requeued next =>
    obtain ⟨job, inHand, same⟩ := allowed
    have had : .held client ∈ holders phases world.queue next.id := by
      change (phases client).jobId? = some next.id
      rw [same]
      generalize phases client = phase at inHand
      cases inHand <;> rfl
    refine put_step once rfl fun performed => ?_
    obtain ⟨unanswered, unpaid, _⟩ := unrepeated performed _ rfl
    exact ⟨unanswered, unpaid, fun place present => (once next.id).single present had⟩

private theorem kept_queue {command : Command} (once : PersistsOnce phases world)
    (allowed : (phases client).Allowed (.queue command))
    (unrepeated : Unrepeated phases world.queue outcome (.queue command)) :
    KeptBy phases world client outcome (.queue command) := by
  cases command with
  | redis command =>
    cases command with
    | popDue now => exact kept_pop once allowed
    | zadd member score => exact kept_zadd once allowed unrepeated
    | setLock jobId value ttlSecs =>
      refine kept_quiet once rfl rfl ?_
      rintro (failure | _ | _)
      · exact .inr rfl
      · exact .inr rfl
      · exact .inl rfl
    | getLock jobId => exact kept_quiet once rfl rfl fun _ => .inr rfl
    | _ => exact kept_neutral once rfl
  | supabase command =>
    cases command with
    | insertMessage row =>
      obtain ⟨job, holds, own⟩ := allowed
      have saved : (phases client).advance (.queue (.supabase (.insertMessage row)))
          (CompletionCommand.exec outcome (.queue (.supabase (.insertMessage row))) world).1 =
            .saved job := by rw [holds]; rfl
      unfold KeptBy
      rw [saved]
      exact message_step once holds own
    | insertUsage row =>
      obtain ⟨job, saved, own⟩ := allowed
      have recorded : (phases client).advance (.queue (.supabase (.insertUsage row)))
          (CompletionCommand.exec outcome (.queue (.supabase (.insertUsage row))) world).1 =
            .recorded job := by rw [saved]; rfl
      unfold KeptBy
      rw [recorded]
      exact usage_step once saved own
    | _ => exact kept_neutral once rfl
  | acquireSlot =>
    refine kept_quiet once rfl rfl ?_
    rintro (failure | _)
    · exact .inr rfl
    · exact .inl rfl
  | _ => exact kept_neutral once rfl

/-- A command that spares the queue and the two tables, of a client that stays. -/
theorem kept_aside {command : CompletionCommand} (once : PersistsOnce phases world)
    (jobs : (command.effect world).queue.jobs = world.queue.jobs)
    (messages : (command.effect world).queue.messages = world.queue.messages)
    (usage : (command.effect world).queue.usage = world.queue.usage)
    (still : ∀ reply, (phases client).advance command reply = phases client) :
    KeptBy phases world client outcome command := by
  intro jobId
  rw [still]
  simp only [CompletionCommand.exec]
  split
  · refine (once jobId).still ?_ ?_ (fun _ stored => jobs ▸ stored) (.inl rfl)
    · rw [World.answers, messages, World.answers]
    · rw [World.usages, usage, World.usages]
  · exact (once jobId).still rfl rfl (fun _ stored => stored) (.inl rfl)

private theorem advance_selected {phase : PersistPhase} {jobId : String}
    (succeeds : outcome.succeeds = true)
    (found : (world.queue.jobRows.find? jobId).isSome = true) :
    phase.advance (.supabase (.selectJob jobId))
      (CompletionCommand.exec outcome (.supabase (.selectJob jobId)) world).1 = .claimed jobId := by
  obtain ⟨row, present⟩ := Option.isSome_iff_exists.mp found
  have answered : (CompletionSupabase.selectJob jobId).answer world =
      some ⟨row.userId, (world.details jobId).chatId, (world.details jobId).mode⟩ :=
    congrArg (Option.map _) present
  cases outcome with
  | failed => cases succeeds
  | ok | drafted =>
    exact congrArg (fun answer => phase.advance (.supabase (.selectJob jobId)) (.ok answer)) answered

private theorem advance_unselected {phase : PersistPhase} {jobId : String}
    (unfound : ¬ (outcome.succeeds = true ∧ (world.queue.jobRows.find? jobId).isSome = true)) :
    phase.advance (.supabase (.selectJob jobId))
      (CompletionCommand.exec outcome (.supabase (.selectJob jobId)) world).1 = phase := by
  cases outcome with
  | failed => cases phase <;> rfl
  | ok | drafted =>
    have absent : world.queue.jobRows.find? jobId = none :=
      Option.not_isSome_iff_eq_none.mp fun found => unfound ⟨rfl, found⟩
    have answered : (CompletionSupabase.selectJob jobId).answer world = none :=
      congrArg (Option.map _) absent
    refine (congrArg (fun answer => phase.advance (.supabase (.selectJob jobId)) (.ok answer))
      answered).trans ?_
    cases phase <;> rfl

private theorem kept_post {command : CompletionSupabase} (once : PersistsOnce phases world)
    (allowed : (phases client).Allowed (.supabase command))
    (unrepeated : Unrepeated phases world.queue outcome (.supabase command)) :
    KeptBy phases world client outcome (.supabase command) := by
  cases command with
  | insertUsage row => exact posted_step once allowed
  | selectJob jobId =>
    have queue : (CompletionCommand.exec outcome (.supabase (.selectJob jobId)) world).2.queue =
        world.queue := by
      simp only [CompletionCommand.exec]
      split <;> rfl
    intro other
    rw [queue]
    by_cases found : outcome.succeeds = true ∧ (world.queue.jobRows.find? jobId).isSome = true
    · obtain ⟨unpaid, nowhere⟩ := unrepeated found.1 found.2
      rw [advance_selected found.1 found.2]
      exact select_step once unpaid nowhere other
    · rw [advance_unselected found, Function.update_eq_self]
      exact once other
  | completeJob jobId output => exact kept_aside once rfl rfl rfl fun _ => rfl
  | upsertWritingSession session => exact kept_aside once rfl rfl rfl fun _ => rfl

end Keeping

private theorem persist_keeps (settings : Settings) (workerSecret : Option String) :
    (persistPhases settings workerSecret).Keeps TakenUpOnce PersistsOnce where
  follows _ _ _ call _ := completionCall_follows settings workerSecret call
  command phases config client outcome call command rest permitted running allowed once := by
    have unrepeated : Unrepeated phases config.world.queue outcome command := by
      refine permitted command ?_
      rw [running]
      rfl
    cases command with
    | queue command => exact kept_queue once allowed unrepeated
    | redis command =>
      have queue := queue_redis command config.world
      exact kept_aside once (congrArg World.jobs queue) (congrArg World.messages queue)
        (congrArg World.usage queue) fun _ => rfl
    | supabase command => exact kept_post once allowed unrepeated
  event phases config event _ once jobId := by
    obtain ⟨single, messages, messaged, rows, accounted⟩ := once jobId
    cases event <;> exact ⟨single, messages, messaged, rows, accounted⟩
  crash phases config client _ once jobId :=
    (once jobId).still rfl rfl (fun _ stored => stored) (.inr rfl)

/-- Each job has one assistant message and one usage row at most. -/
def RowsAtMostOnce (world : World) : Prop :=
  ∀ jobId, world.answers jobId ≤ 1 ∧ world.usages jobId ≤ 1

/-- In every run in which no job with rows is put back, and no posted result is for a job that
somebody has or that has its usage row, each job gets one assistant message and one usage row
at most. -/
theorem rows_inserted_once (settings : Settings) (workerSecret : Option String)
    {world : CompletionWorld} (empty : world.queue.jobs = []) (before : RowsAtMostOnce world.queue)
    {moves : List (completions settings workerSecret).Move} {final : Nat → PersistPhase}
    {last : (completions settings workerSecret).Config}
    (run : Watched (persistGhost settings workerSecret) TakenUpOnce (fun _ => .free)
      (.initial world) moves final last) : RowsAtMostOnce last.world.queue := by
  have initially : PersistsOnce (fun _ => .free) world := by
    intro jobId
    refine RowsOnce.gone (Set.eq_empty_of_forall_notMem ?_) (before jobId).1 (before jobId).2
    rintro (member | client) present
    · obtain ⟨⟨score, stored⟩, _⟩ := present
      rw [empty] at stored
      cases stored
    · cases present
  have once := (persist_keeps settings workerSecret).run run (fun _ => rfl) initially
  exact fun jobId => ⟨(once jobId).messages, (once jobId).rows⟩

namespace Retry

abbrev SampleMove : Type := (completions sampleSettings none).Move

abbrev SampleConfig : Type := (completions sampleSettings none).Config

def sampleQueue : CompletionWorld := .ofQueue (World.empty 0) fun _ => ⟨"chat", none⟩

/-- A client's next commands all succeed. -/
def succeed (client count : Nat) : List SampleMove :=
  List.replicate count (.act (.step client .ok))

/-- The sample job is enqueued, and a worker goes on until the model answers. -/
def started : List SampleMove :=
  .act (.start 0 (.queue (.enqueue samplePayload))) :: succeed 0 5 ++
    .act (.start 1 (.queue (.consume "w1"))) :: succeed 1 11

/-- Two seconds later a second worker takes the job, and persists it. -/
def retried : List SampleMove :=
  .act (.environment (.advance 2000)) :: .act (.start 2 (.queue (.consume "w2"))) ::
    succeed 2 11 ++ .act (.step 2 (.drafted sampleResult false)) :: succeed 2 7

/-- The model fails in the first attempt. -/
def modelFails : List SampleMove :=
  started ++ .act (.step 1 (.failed false (.raised "model unavailable"))) :: succeed 1 6 ++ retried

/-- The first attempt times out when everything is written. -/
def timesOut : List SampleMove :=
  started ++ .act (.step 1 (.drafted sampleResult false)) :: succeed 1 5 ++
    .act (.step 1 (.failed true .timedOut)) :: succeed 1 6 ++ retried

/-- The moves of the clients 0, 1 and 2, with jobs put in the queue while it has no rows. -/
def unwritten (phases : Nat → PersistPhase) (config : SampleConfig) (move : SampleMove) : Bool :=
  match move with
  | .act (.start client _) => decide (client < 3)
  | .crash _ => false
  | .act (.environment _) => true
  | .act (.step client _) =>
    decide (client < 3) &&
      match (config.threads client).next? with
      | some (.queue (.redis (.zadd member _))) =>
        config.world.queue.messages.isEmpty && config.world.queue.usage.isEmpty &&
          match member with
          | .enqueued _ => config.world.queue.jobs.isEmpty && decide (phases 0 = .free) &&
              decide (phases 1 = .free) && decide (phases 2 = .free)
          | _ => true
      | some (.supabase (.selectJob _)) => false
      | _ => true

/-- Others than the three do not come to have a job. -/
def OnlyThree (phases : Nat → PersistPhase) : Prop := ∀ other, 3 ≤ other → phases other = .free

variable {phases : Nat → PersistPhase} {config next : SampleConfig} {move : SampleMove}

private theorem mover_of_unwritten (permitted : unwritten phases config move = true) {client : Nat}
    (own : move.client? = some client) : client < 3 := by
  cases move with
  | crash => cases permitted
  | act action =>
    cases action with
    | environment => cases own
    | start =>
      cases own
      exact of_decide_eq_true permitted
    | step =>
      cases own
      exact of_decide_eq_true (Bool.and_eq_true_iff.mp permitted).1

theorem OnlyThree.note (permitted : unwritten phases config move = true)
    (moved : config.move? move = some next) (three : OnlyThree phases) :
    OnlyThree ((persistGhost sampleSettings none).note phases config move) := by
  intro other high
  refine ((persistPhases sampleSettings none).note_other moved fun own => ?_).trans (three other high)
  have low := mover_of_unwritten permitted own
  omega

private theorem nowhere_of_free {jobId : String} (jobs : config.world.queue.jobs = [])
    (low : phases 0 = .free ∧ phases 1 = .free ∧ phases 2 = .free) (three : OnlyThree phases) :
    holders phases config.world.queue jobId = ∅ := by
  refine Set.eq_empty_of_forall_notMem ?_
  rintro (member | client) present
  · obtain ⟨⟨score, stored⟩, _⟩ := present
    rw [jobs] at stored
    cases stored
  · have free : phases client = .free := by
      match client with
      | 0 => exact low.1
      | 1 => exact low.2.1
      | 2 => exact low.2.2
      | client + 3 => exact three (client + 3) (by omega)
    have had : (phases client).jobId? = some jobId := present
    rw [free] at had
    cases had

private theorem takenUpOnce_of_unwritten (permitted : unwritten phases config move = true)
    (three : OnlyThree phases) : TakenUpOnce phases config move := by
  cases move with
  | crash => trivial
  | act action =>
    cases action with
    | start | environment => trivial
    | step client outcome =>
      intro command next
      have checked := (Bool.and_eq_true_iff.mp permitted).2
      simp only [next] at checked
      unfold Unrepeated
      split
      · rename_i member score
        simp only [Bool.and_eq_true, List.isEmpty_iff] at checked
        obtain ⟨⟨messages, usage⟩, fresh⟩ := checked
        refine fun _ job _ => ⟨by rw [World.answers, messages]; rfl, by rw [World.usages, usage]; rfl, ?_⟩
        rintro payload rfl
        simp only [Bool.and_eq_true, List.isEmpty_iff, decide_eq_true_eq] at fresh
        obtain ⟨⟨⟨jobs, first⟩, second⟩, third⟩ := fresh
        exact nowhere_of_free jobs ⟨first, second, third⟩ three
      · cases checked
      · trivial

end Retry

open Retry in
/-- The job is put back while it has no rows. -/
theorem sample_rows_once :
    ∃ final last, Watched (persistGhost sampleSettings none) TakenUpOnce (fun _ => .free)
        (.initial sampleQueue) modelFails final last ∧ RowsAtMostOnce last.world.queue := by
  obtain ⟨final, last, run, _⟩ := Watched.of_check (persistGhost sampleSettings none)
    (fun phases config move => unwritten phases config move = true) (fun _ => .free)
    (.initial sampleQueue) modelFails
    (fun _ last => decide (last.world.queue.answers samplePayload.id = 1 ∧
      last.world.queue.usages samplePayload.id = 1)) (by decide +kernel)
  have run := run.imp_of_invariant (fun phases _ => OnlyThree phases)
    (fun _ _ _ _ permitted moved => OnlyThree.note permitted moved)
    (fun _ _ _ => takenUpOnce_of_unwritten) fun _ _ => rfl
  exact ⟨final, last, run, rows_inserted_once sampleSettings none rfl
    (fun _ => ⟨Nat.zero_le _, Nat.zero_le _⟩) run⟩

open Retry in
/-- The job is put back when its attempt has written everything. -/
theorem rows_inserted_twice : ¬ ∀ moves final last, Watched (persistGhost sampleSettings none)
    (fun _ _ _ => True) (fun _ => .free) (.initial sampleQueue) moves final last →
      RowsAtMostOnce last.world.queue := by
  intro always
  obtain ⟨final, last, run, checked⟩ := Watched.of_check (persistGhost sampleSettings none)
    (fun _ _ _ => True) (fun _ => .free) (.initial sampleQueue) timesOut
    (fun _ last => decide (last.world.queue.answers samplePayload.id = 2 ∧
      last.world.queue.usages samplePayload.id = 2)) (by decide +kernel)
  have once := always timesOut final last run samplePayload.id
  have twice := of_decide_eq_true checked
  omega

end BrainMate.WriteRight
