import BrainMate.Interleaving.Progress
import BrainMate.WriteRight.Repertoire
import BrainMate.WriteRight.Results

namespace BrainMate.WriteRight

open Interleaving System Program Storage

/-- An assistant's message with the id of the job and the result as its content. -/
def isReply (jobId : String) (result : AIResult) (row : MessageRow) : Bool :=
  row.role = .assistant && row.metadata.any (fun metadata => metadata.jobId = jobId) &&
    row.content = .dumped result

namespace World

def replies (world : World) (jobId : String) (result : AIResult) : Nat :=
  world.messages.countP (isReply jobId result)

def usages (world : World) (jobId : String) : Nat :=
  world.usage.countP fun row => row.jobId = jobId

end World

/-- The three tables agree that the job is completed with the result. -/
structure Agreed (jobId : String) (result : AIResult) (world : World) : Prop where
  row : ∃ row, world.jobRows.find? jobId = some row ∧ row.status = .completed ∧
    row.output = .result result
  reply : world.replies jobId result = 1
  usage : world.usages jobId = 1

/-- What others do while a worker has the job: they complete neither its row nor undo that,
neither add nor delete the row, and write no message and no usage for the job. -/
structure Apart (jobId : String) (before after : World) : Prop where
  present : (after.jobRows.find? jobId).isSome = (before.jobRows.find? jobId).isSome
  completed : ∀ row, row.status = .completed →
    (after.jobRows.find? jobId = some row ↔ before.jobRows.find? jobId = some row)
  replies : ∀ result, after.replies jobId result = before.replies jobId result
  usages : after.usages jobId = before.usages jobId

/-- The commands that write about the job in one of the tables. -/
def concerns (jobId : String) : Command → Bool
  | .supabase (.updateJobStatus other _ _ _) => other = jobId
  | .supabase (.insertMessage row) => row.metadata.any fun metadata => metadata.jobId = jobId
  | .supabase (.insertUsage row) => row.jobId = jobId
  | _ => false

variable {settings : Settings} {jobId : String} {world middle last : World}

namespace Apart

theorem refl (jobId : String) (world : World) : Apart jobId world world :=
  ⟨rfl, fun _ _ => Iff.rfl, fun _ => rfl, rfl⟩

theorem trans (first : Apart jobId world middle) (second : Apart jobId middle last) :
    Apart jobId world last :=
  ⟨second.present.trans first.present,
    fun row completed => (second.completed row completed).trans (first.completed row completed),
    fun result => (second.replies result).trans (first.replies result),
    second.usages.trans first.usages⟩

private theorem of_tables (rows : last.jobRows = world.jobRows)
    (messages : last.messages = world.messages)
    (usage : last.usage = world.usage) : Apart jobId world last := by
  constructor <;> simp [rows, messages, usage, World.replies, World.usages]

end Apart

private theorem find?_updateJobStatus (jobId : String) (status : Status) (output : Option AIResult)
    (error : Option String) (world : World) :
    ((SupabaseCommand.updateJobStatus jobId status output error).effect world).jobRows.find?
      jobId = (world.jobRows.find? jobId).map fun row => row.assign status output error := by
  refine (Table.find?_updateWhere world.jobRows (fun row => decide (row.id = jobId))
    (fun row => row.assign status output error) (fun _ => rfl) jobId).trans ?_
  refine Option.map_congr fun row found => ?_
  rw [if_pos]
  exact decide_eq_true (Table.find?_key _ (Option.mem_def.mp found))

private theorem find?_updateJobStatus_other {other : String} (different : other ≠ jobId)
    (status : Status)
    (output : Option AIResult) (error : Option String) (world : World) :
    ((Command.supabase (.updateJobStatus other status output error)).effect world).jobRows.find?
      jobId = world.jobRows.find? jobId := by
  refine (Table.find?_updateWhere world.jobRows (fun row => decide (row.id = other))
    (fun row => row.assign status output error) (fun _ => rfl) jobId).trans ?_
  refine (Option.map_congr fun row found => ?_).trans Option.map_id'
  have own : row.id = jobId := Table.find?_key _ (Option.mem_def.mp found)
  rw [if_neg]
  simp [own, different.symm]

/-- The timeout of a stream fails a row that is not completed, and leaves the others. -/
theorem find?_failActiveJob (other error jobId : String) (world : World) :
    ∃ assign : JobRow → JobRow,
      (∀ row, assign row = row ∨ (assign row).status = .failed ∧ row.status ≠ .completed) ∧
      ((Command.supabase (.failActiveJob other error)).effect world).jobRows.find? jobId =
        (world.jobRows.find? jobId).map assign := by
  refine ⟨_, fun row => ?_, Table.find?_updateWhere world.jobRows
    (fun row => decide (row.id = other ∧ (row.status = .pending ∨ row.status = .processing)))
    (fun row => row.assign .failed none (some error)) (fun _ => rfl) jobId⟩
  split
  · rename_i selected
    refine .inr ⟨rfl, fun completed => ?_⟩
    simp [completed] at selected
  · exact .inl rfl

/-- All commands but those that write about the job, the timeout of a stream included. -/
theorem apart_exec {command : Command} (foreign : concerns jobId command = false)
    (outcome : Outcome) (world : World) :
    Apart jobId world (Command.exec outcome command world).2 := by
  simp only [Command.exec]
  split
  swap
  · exact .refl jobId world
  cases command with
  | redis command =>
    obtain ⟨rows, messages, usage⟩ := tables_redis command world
    exact .of_tables rows messages usage
  | supabase command =>
    cases command with
    | updateJobStatus other status output error =>
      have different : other ≠ jobId := by simpa [concerns] using foreign
      have unchanged := find?_updateJobStatus_other different status output error world
      exact ⟨by rw [unchanged], fun row _ => by rw [unchanged], fun _ => rfl, rfl⟩
    | insertMessage row =>
      have none_ (result : AIResult) : isReply jobId result row = false := by
        simp only [concerns] at foreign
        simp [isReply, foreign]
      refine ⟨rfl, fun _ _ => Iff.rfl, fun result => ?_, rfl⟩
      simp [Command.effect, SupabaseCommand.effect, World.replies, none_]
    | insertUsage row =>
      simp only [concerns, decide_eq_false_iff_not] at foreign
      refine ⟨rfl, fun _ _ => Iff.rfl, fun _ => rfl, ?_⟩
      simp [Command.effect, SupabaseCommand.effect, World.usages, foreign]
    | failActiveJob other error =>
      obtain ⟨assigned, unfinished, found⟩ := find?_failActiveJob other error jobId world
      refine ⟨by rw [found, Option.isSome_map], fun row completed => ?_, fun _ => rfl, rfl⟩
      rw [found, Option.map_eq_some_iff]
      constructor
      · rintro ⟨before, stored, rfl⟩
        rcases unfinished before with same | ⟨failed, _⟩
        · rw [same]
          exact stored
        · rw [failed] at completed
          cases completed
      · intro stored
        refine ⟨row, stored, ?_⟩
        rcases unfinished row with same | ⟨_, active⟩
        · exact same
        · exact absurd completed active
    | _ => exact .refl jobId world
  | _ => exact .refl jobId world

/-- Redis and Supabase do what they are asked to; the model may fail, and time may run out. -/
def Succeeds (exchange : (jobQueue settings).Exchange) : Prop :=
  match exchange.command with
  | .redis _ | .supabase _ => exchange.outcome.succeeds = true
  | _ => True

variable {job : WritingJob} {trace : List (jobQueue settings).Exchange} {result : AIResult}

theorem apart_of_executes {α : Type} {program : Program Command Command.Reply α} {value : α}
    (executes : Executes (Apart jobId) program world trace value last)
    (every : program.Every fun command => concerns jobId command = false) :
    Apart jobId world last := by
  have tolerates : Tolerates (jobQueue settings) (Apart jobId) (Apart jobId)
      fun command => concerns jobId command = false :=
    ⟨Apart.refl jobId, Apart.trans, id, apart_exec⟩
  exact executes.respects tolerates every

private theorem executes_supabase {command : SupabaseCommand} {value : Except Failure command.Reply}
    (executes : Executes (Apart jobId) (supabase command).run world trace value last)
    (succeed : ∀ exchange ∈ trace, Succeeds exchange) :
    ∃ middle, Apart jobId world middle ∧ value = .ok (command.answer middle) ∧
      last = command.effect middle := by
  obtain ⟨middle, outcome, later, waits, rfl, rest⟩ := Executes.of_call executes
  obtain ⟨rfl, rfl, _⟩ := Executes.of_done rest
  have succeeds : outcome.succeeds = true := succeed _ (.head _)
  refine ⟨middle, waits, ?_⟩
  cases outcome with
  | ok | drafted _ _ => exact ⟨rfl, rfl⟩
  | failed _ _ => cases succeeds

theorem executes_catching {command : SupabaseCommand} {fallback : Async command.Reply}
    {value : Except Failure command.Reply}
    (executes : Executes (Apart jobId) (catching (supabase command) fallback).run world trace value
      last) (succeed : ∀ exchange ∈ trace, Succeeds exchange) :
    ∃ middle, Apart jobId world middle ∧ value = .ok (command.answer middle) ∧
      last = command.effect middle := by
  obtain ⟨earlier, later, tried, between, rfl, first, second⟩ := Executes.of_bind executes
  obtain ⟨middle, waits, rfl, rfl⟩ :=
    executes_supabase first fun exchange member => succeed exchange (List.mem_append_left _ member)
  obtain ⟨rfl, rfl, _⟩ := Executes.of_done second
  exact ⟨middle, waits, rfl, rfl⟩

/-- What `process_job` leaves in the tables for a result of the model. -/
structure Persisted (jobId : String) (result : AIResult) (before after : World) : Prop where
  present : (after.jobRows.find? jobId).isSome = (before.jobRows.find? jobId).isSome
  row : ∀ row, after.jobRows.find? jobId = some row → row.status = .completed ∧
    row.output = .result result
  replies : after.replies jobId result = before.replies jobId result + 1
  usages : after.usages jobId = before.usages jobId + 1

/-- Others leave a completed row as it is. -/
theorem Apart.completed_row (apart : Apart jobId world last)
    (completed : ∀ row, world.jobRows.find? jobId = some row → row.status = .completed ∧
      row.output = .result result) (row : JobRow) (found : last.jobRows.find? jobId = some row) :
    row.status = .completed ∧ row.output = .result result := by
  obtain ⟨stored, held⟩ := Option.isSome_iff_exists.mp
    (apart.present.symm.trans (congrArg Option.isSome found))
  have facts := completed stored held
  cases found.symm.trans ((apart.completed stored facts.1).mpr held)
  exact facts

theorem Persisted.since {first : World} (persisted : Persisted jobId result first last)
    (present : (first.jobRows.find? jobId).isSome = (world.jobRows.find? jobId).isSome)
    (replies : first.replies jobId result = world.replies jobId result)
    (usages : first.usages jobId = world.usages jobId) : Persisted jobId result world last :=
  ⟨persisted.present.trans present, persisted.row, replies ▸ persisted.replies,
    usages ▸ persisted.usages⟩

theorem Apart.persisted (apart : Apart jobId world middle)
    (persisted : Persisted jobId result middle last) : Persisted jobId result world last :=
  persisted.since apart.present (apart.replies result) apart.usages

theorem Persisted.lasts (persisted : Persisted jobId result world middle)
    (apart : Apart jobId middle last) : Persisted jobId result world last :=
  ⟨apart.present.trans persisted.present, apart.completed_row persisted.row,
    (apart.replies result).trans persisted.replies, apart.usages.trans persisted.usages⟩

/-- Others complete no row. -/
theorem Apart.unfinished (apart : Apart jobId world last)
    (unfinished : ∀ row, world.jobRows.find? jobId = some row → row.status ≠ .completed)
    (row : JobRow) (found : last.jobRows.find? jobId = some row) : row.status ≠ .completed := by
  intro completed
  exact unfinished row ((apart.completed row completed).mp found) completed

private theorem replies_insertMessage {row : MessageRow} (reply : isReply jobId result row = true)
    (world : World) : ((SupabaseCommand.insertMessage row).effect world).replies jobId result =
      world.replies jobId result + 1 := by
  simp [SupabaseCommand.effect, World.replies, reply]

private theorem usages_insertUsage {row : UsageRow} (own : row.jobId = jobId) (world : World) :
    ((SupabaseCommand.insertUsage row).effect world).usages jobId = world.usages jobId + 1 := by
  simp [SupabaseCommand.effect, World.usages, own]

private theorem persist_persists {injectionDetected : Bool}
    (executes : Executes (Apart job.id) (persist job result injectionDetected).run world trace
      (.ok ()) last) (succeed : ∀ exchange ∈ trace, Succeeds exchange) :
    Persisted job.id result world last := by
  obtain ⟨trace₁, rest, _, after₁, rfl, saved, executes⟩ := Executes.of_andThen executes
  obtain ⟨trace₂, rest, _, after₂, rfl, updated, executes⟩ := Executes.of_andThen executes
  obtain ⟨trace₃, trace₄, _, after₃, rfl, recorded, streak⟩ := Executes.of_andThen executes
  simp only [List.mem_append, or_imp, forall_and] at succeed
  obtain ⟨before₁, apart₁, _, rfl⟩ := executes_catching saved succeed.1
  obtain ⟨before₂, apart₂, _, rfl⟩ := executes_catching updated succeed.2.1
  obtain ⟨before₃, apart₃, _, rfl⟩ := executes_catching recorded succeed.2.2.1
  obtain ⟨before₄, apart₄, _, rfl⟩ := executes_catching streak succeed.2.2.2
  have assigned := find?_updateJobStatus job.id .completed (some result) none before₂
  have completed : ∀ row, ((SupabaseCommand.updateJobStatus job.id .completed (some result)
      none).effect before₂).jobRows.find? job.id = some row →
      row.status = .completed ∧ row.output = .result result := by
    intro row found
    rw [assigned] at found
    obtain ⟨stored, _, rfl⟩ := Option.map_eq_some_iff.mp found
    exact ⟨rfl, rfl⟩
  refine ⟨?_, apart₄.completed_row (apart₃.completed_row completed), ?_, ?_⟩
  · have kept := apart₄.present.trans apart₃.present
    rw [assigned, Option.isSome_map] at kept
    exact kept.trans (apart₂.present.trans apart₁.present)
  · have kept := (apart₄.replies result).trans ((apart₃.replies result).trans (apart₂.replies result))
    refine (kept.trans (replies_insertMessage ?_ before₁)).trans (congrArg (· + 1) (apart₁.replies result))
    simp [isReply]
  · refine (apart₄.usages.trans (usages_insertUsage rfl before₃)).trans ?_
    rw [apart₃.usages, ← apart₁.usages]
    exact congrArg (· + 1) apart₂.usages

private theorem finalize_persists {revised : AIResult} {injectionDetected : Bool}
    (executes : Executes (Apart job.id) (do
      publishStage job "finalizing"
      persist job revised injectionDetected
      return revised : Async AIResult).run world trace (.ok result) last)
    (succeed : ∀ exchange ∈ trace, Succeeds exchange) : Persisted job.id result world last := by
  obtain ⟨trace₁, rest, _, after₁, rfl, published, executes⟩ := Executes.of_andThen executes
  obtain ⟨trace₂, trace₃, _, after₂, rfl, persisted, returned⟩ := Executes.of_andThen executes
  obtain ⟨same, rfl, rfl⟩ := Executes.of_done returned
  cases same
  simp only [List.mem_append, or_imp, forall_and] at succeed
  exact (apart_of_executes published ⟨rfl, fun _ => trivial⟩).persisted
    (persist_persists persisted succeed.2.1)

private theorem improve_persists {history : List (Role × MessageContent)} {profile : List String}
    (executes : Executes (Apart job.id) (improve settings job history profile).run world trace
      (.ok result) last) (succeed : ∀ exchange ∈ trace, Succeeds exchange) :
    Persisted job.id result world last := by
  obtain ⟨trace₁, rest, ⟨draft, injectionDetected⟩, after₁, rfl, drafted, executes⟩ :=
    Executes.of_andThen executes
  have apart₁ := apart_of_executes drafted ⟨rfl, fun _ => trivial⟩
  simp only [List.mem_append, or_imp, forall_and] at succeed
  dsimp only at executes
  split at executes
  · obtain ⟨trace₂, rest, _, after₂, rfl, published, executes⟩ := Executes.of_andThen executes
    obtain ⟨trace₃, rest, revised, after₃, rfl, critiqued, executes⟩ := Executes.of_andThen executes
    simp only [List.mem_append, or_imp, forall_and] at succeed
    have apart₂ := apart_of_executes published ⟨rfl, fun _ => trivial⟩
    have apart₃ := apart_of_executes critiqued
      (Every.rescue ⟨rfl, fun _ => trivial⟩ fun failure => by cases failure <;> trivial)
    exact ((apart₁.trans apart₂).trans apart₃).persisted (finalize_persists executes succeed.2.2.2)
  · exact apart₁.persisted (finalize_persists executes succeed.2)

/-- The row is not completed while the job is worked on. -/
theorem processJob_writes
    (executes : Executes (Apart job.id) (processJob settings job).run world trace (.ok result) last)
    (succeed : ∀ exchange ∈ trace, Succeeds exchange) :
    if (isProcessableInput settings job.content).1 then
      Persisted job.id result world last
    else ∀ row, last.jobRows.find? job.id = some row → row.status ≠ .completed := by
  obtain ⟨trace₁, rest, _, after₁, rfl, marked, executes₁⟩ := Executes.of_andThen executes
  obtain ⟨trace₂, rest, history, after₂, rfl, read, executes₂⟩ := Executes.of_andThen executes₁
  obtain ⟨trace₃, rest, profile, after₃, rfl, profiled, executes₃⟩ := Executes.of_andThen executes₂
  clear executes executes₁ executes₂
  simp only [List.mem_append, or_imp, forall_and] at succeed
  obtain ⟨before, apart₁, _, rfl⟩ := executes_catching marked succeed.1
  have apart₂ := apart_of_executes read
    (Every.rescue ⟨rfl, fun _ => trivial⟩ fun failure => by cases failure <;> trivial)
  have apart₃ := apart_of_executes profiled
    (Every.rescue ⟨rfl, fun _ => trivial⟩ fun failure => by cases failure <;> trivial)
  have marked := find?_updateJobStatus job.id .processing none none before
  have unfinished : ∀ row, after₃.jobRows.find? job.id = some row → row.status ≠ .completed := by
    refine (apart₂.trans apart₃).unfinished fun row found => ?_
    rw [marked] at found
    obtain ⟨stored, _, rfl⟩ := Option.map_eq_some_iff.mp found
    simp [JobRow.assign]
  have persisted (improved : Persisted job.id result after₃ last) :
      Persisted job.id result world last := by
    refine ((apart₂.trans apart₃).persisted improved).since ?_ (apart₁.replies result) apart₁.usages
    rw [marked, Option.isSome_map]
    exact apart₁.present
  rcases processable : isProcessableInput settings job.content with ⟨_ | _, reason⟩
  · rw [processable] at executes₃
    obtain ⟨_, rfl, _⟩ := Executes.of_done executes₃
    simpa [processable] using unfinished
  · rw [processable] at executes₃
    obtain ⟨trace₄, rest, _, after₄, rfl, published, executes₄⟩ := Executes.of_andThen executes₃
    have apart₄ := apart_of_executes published ⟨rfl, fun _ => trivial⟩
    simp only [List.mem_append, or_imp, forall_and] at succeed
    rcases gated : qualityGate settings job.content with ⟨_ | _, reason⟩
    · rw [gated] at executes₄
      cases (Executes.of_done executes₄).1
    · rw [gated] at executes₄
      simpa [processable] using
        persisted (apart₄.persisted (improve_persists executes₄ succeed.2.2.2.2))

/-- The command that sets the Redis status of a job to completed. -/
def completing (jobId : String) : Command :=
  .redis (.setStatus jobId { status := some .completed } statusTtlSecs)

section Issues

/-- The command does not write `completed`. -/
def incomplete : Command → Bool
  | .redis (.setStatus _ fields _) => fields.status ≠ some .completed
  | _ => true

theorem Incomplete.ne {α : Type} {program : Program Command Command.Reply α}
    (every : program.Every fun command => incomplete command = true) (jobId : String) :
    program.Every (· ≠ completing jobId) := by
  refine every.imp ?_
  rintro command other rfl
  cases other

private theorem incomplete_of_asks {α : Type} {body : Async α} (asks : Asks body) :
    Every (fun command => incomplete command = true) body.run := by
  refine Every.imp asks fun command asking => ?_
  cases command with
  | redis command => cases command <;> first | rfl | cases asking
  | _ => rfl

private theorem waitForDispatch_incomplete :
    Every (fun command => incomplete command = true) (waitForDispatch settings job).run :=
  Every.andThen ⟨rfl, fun _ => trivial⟩ fun _ =>
    Every.andThen (incomplete_of_asks (asks_dispatchJob job settings)) fun _ =>
      Every.andThen ⟨rfl, fun _ => trivial⟩ fun _ => trivial

private theorem handleFailure_incomplete (error : String) :
    Every (fun command => incomplete command = true) (handleFailure settings job error).run := by
  unfold handleFailure
  split
  · refine Every.andThen ⟨rfl, fun _ => trivial⟩ fun _ => ?_
    refine Every.andThen (Every.andThen ⟨rfl, fun _ => trivial⟩ fun _ => ⟨rfl, fun _ => trivial⟩)
      fun _ => ?_
    refine Every.andThen (every_tolerating ⟨rfl, fun _ => trivial⟩) fun _ => every_tolerating ?_
    refine Every.andThen ⟨rfl, fun _ => trivial⟩ fun _ => ?_
    exact Every.andThen ⟨rfl, fun _ => trivial⟩ fun _ => ⟨rfl, fun _ => trivial⟩
  · refine Every.andThen ⟨rfl, fun _ => trivial⟩ fun _ => ?_
    refine Every.andThen ⟨rfl, fun _ => trivial⟩ fun _ => ?_
    exact Every.andThen ⟨rfl, fun _ => trivial⟩ fun _ => every_tolerating ⟨rfl, fun _ => trivial⟩

/-- What `complete` does after its first command. -/
theorem publish_incomplete (result : AIResult) :
    Every (fun command => incomplete command = true) (do
      publishResult job.id (.result result)
      tolerating do
        redis (.setCache (cacheMaterial job) result statusTtlSecs)
        redis (.deleteStats job.userId) : Async Unit).run := by
  refine Every.andThen (Every.andThen ⟨rfl, fun _ => trivial⟩ fun _ => ⟨rfl, fun _ => trivial⟩)
    fun _ => every_tolerating ?_
  exact Every.andThen ⟨rfl, fun _ => trivial⟩ fun _ => ⟨rfl, fun _ => trivial⟩

end Issues

/-- `wait_for` hands over what `process_job` has returned. -/
theorem waitForDispatch_writes
    (executes : Executes (Apart job.id) (waitForDispatch settings job).run world trace (.ok result)
      last) (succeed : ∀ exchange ∈ trace, Succeeds exchange) :
    ∃ outcome reply earlier start finish,
      trace = earlier ++ [⟨.dispatched job result, outcome, reply⟩] ∧ Apart job.id world start ∧
      (if (isProcessableInput settings job.content).1 then
        Persisted job.id result start finish
      else ∀ row, finish.jobRows.find? job.id = some row → row.status ≠ .completed) ∧
      Apart job.id finish last := by
  obtain ⟨trace₁, rest, _, start, rfl, started, executes₁⟩ := Executes.of_andThen executes
  obtain ⟨trace₂, rest, returned, finish, rfl, processed, executes₂⟩ := Executes.of_andThen executes₁
  obtain ⟨trace₃, rest, _, after₃, rfl, handed, executes₃⟩ := Executes.of_andThen executes₂
  obtain ⟨same, rfl, rfl⟩ := Executes.of_done executes₃
  cases same
  have apart₁ := apart_of_executes started ⟨rfl, fun _ => trivial⟩
  have apart₃ := apart_of_executes handed ⟨rfl, fun _ => trivial⟩
  obtain ⟨_, outcome, later, _, rfl, ended⟩ := Executes.of_call handed
  obtain ⟨_, _, rfl⟩ := Executes.of_done ended
  unfold dispatchJob at processed
  split at processed
  · refine ⟨outcome, _, trace₁ ++ trace₂, start, finish, by simp; rfl, apart₁, ?_, apart₃⟩
    exact processJob_writes processed fun exchange member => succeed exchange (by simp [member])
  · cases (Executes.of_done processed).1

/-- Where a worker that is about to write `completed` comes from: `_dispatch_job` has just
handed over a result. -/
theorem reaches_completing {workerId : String}
    {left : Program Command Command.Reply (Except Failure Unit)}
    (reaches : Reaches (Apart job.id) (processJobSafe settings workerId job).run world trace left last)
    (headed : left.head? = some (completing job.id))
    (succeed : ∀ exchange ∈ trace, Succeeds exchange) :
    ∃ result outcome reply start finish, 
      trace.getLast? = some ⟨.dispatched job result, outcome, reply⟩ ∧
      Apart job.id world start ∧
      (if (isProcessableInput settings job.content).1 then
        Persisted job.id result start finish
      else ∀ row, finish.jobRows.find? job.id = some row → row.status ≠ .completed) ∧
      Apart job.id finish last := by
  have asks : Every (fun command => incomplete command = true) time.run := ⟨rfl, fun _ => trivial⟩
  have locks (value : String) : Every (fun command => incomplete command = true)
      (redis (.setLock job.id value settings.lockTtlSecs)).run := ⟨rfl, fun _ => trivial⟩
  have marks : Every (fun command => incomplete command = true)
      (setJobStatus job.id .processing none).run := ⟨rfl, fun _ => trivial⟩
  have releases (value : String) : Every (fun command => incomplete command = true)
      (releaseLock job.id value).run := by
    refine Every.andThen ⟨rfl, fun _ => trivial⟩ fun current => ?_
    split
    · exact ⟨rfl, fun _ => trivial⟩
    · trivial
  obtain ⟨trace₁, rest, now, after₁, rfl, timed, reaches₁⟩ :=
    Reaches.past_body reaches headed (Incomplete.ne asks _)
  obtain ⟨trace₂, rest, acquired, after₂, rfl, locked, reaches₂⟩ :=
    Reaches.past_body reaches₁ headed (Incomplete.ne (locks _) _)
  split at reaches₂
  swap
  · cases reaches₂ with
    | here => cases headed
  obtain ⟨left₃, reaches₃, headed⟩ :=
    Reaches.within_ensuring reaches₂ headed (Incomplete.ne (releases _) _)
  obtain ⟨left₄, reaches₄, headed⟩ := Reaches.within_rescue reaches₃ headed fun failure => by
    cases failure with
    | raised error | timedOut => exact Incomplete.ne (handleFailure_incomplete _) _
    | cancelled => trivial
  obtain ⟨trace₅, rest, _, after₅, rfl, marked, reaches₅⟩ :=
    Reaches.past_body reaches₄ headed (Incomplete.ne marks _)
  obtain ⟨trace₆, rest, result, after₆, rfl, waited, reaches₆⟩ :=
    Reaches.past_body reaches₅ headed (Incomplete.ne waitForDispatch_incomplete _)
  obtain ⟨rfl, waits⟩ := Reaches.first reaches₆ headed fun reply => by
    cases reply with
    | error failure => trivial
    | ok _ => exact Incomplete.ne (publish_incomplete result) job.id
  obtain ⟨outcome, reply, trace₇, start, finish, rfl, apart₇, writes, apart₈⟩ :=
    waitForDispatch_writes waited fun exchange member => succeed exchange (by simp [member])
  refine ⟨result, outcome, reply, start, finish, by simp, ?_, writes, apart₈.trans waits⟩
  have apart₁ := apart_of_executes timed ⟨rfl, fun _ => trivial⟩
  have apart₂ := apart_of_executes locked ⟨rfl, fun _ => trivial⟩
  have apart₅ := apart_of_executes marked ⟨rfl, fun _ => trivial⟩
  exact ((apart₁.trans apart₂).trans apart₅).trans apart₇

/-- In every run of `_process_job_safe` whose Redis and Supabase calls succeed, whatever the
model answers and whatever others do meanwhile: when the worker writes `completed` to Redis,
the tables agree if and only if the text passes the first gate, the job has a row, and no
earlier attempt left a usage row or the same message. -/
theorem stores_agree_iff (settings : Settings) (workerId : String) (job : WritingJob)
    {world last : World} {trace : List (jobQueue settings).Exchange}
    {left : Program Command Command.Reply (Except Failure Unit)}
    (reaches : Reaches (Apart job.id) (processJobSafe settings workerId job).run world trace left last)
    (headed : left.head? = some (completing job.id))
    (succeed : ∀ exchange ∈ trace, Succeeds exchange) {result : AIResult} {outcome : Outcome}
    {reply : Except Failure Unit}
    (handed : trace.getLast? = some ⟨.dispatched job result, outcome, reply⟩) :
    Agreed job.id result last ↔
      (isProcessableInput settings job.content).1 = true ∧
      (world.jobRows.find? job.id).isSome = true ∧ world.replies job.id result = 0 ∧
      world.usages job.id = 0 := by
  obtain ⟨returned, _, _, start, finish, last_, before, writes, after⟩ :=
    reaches_completing reaches headed succeed
  have same : returned = result := by
    have commands := congrArg Exchange.command (Option.some.inj (last_.symm.trans handed))
    exact (Command.dispatched.inj commands).2
  subst same
  split at writes
  · rename_i passes
    have persisted := (before.persisted writes).lasts after
    constructor
    · rintro ⟨⟨row, found, _⟩, replied, used⟩
      have present := persisted.present
      rw [found] at present
      exact ⟨passes, present.symm, by have := persisted.replies; omega,
        by have := persisted.usages; omega⟩
    · rintro ⟨_, present, unreplied, unused⟩
      obtain ⟨row, found⟩ := Option.isSome_iff_exists.mp (persisted.present.trans present)
      exact ⟨⟨row, found, persisted.row row found⟩, by rw [persisted.replies, unreplied],
        by rw [persisted.usages, unused]⟩
  · rename_i stopped
    constructor
    · rintro ⟨⟨row, found, completed, _⟩, _, _⟩
      exact absurd completed (after.unfinished writes row found)
    · rintro ⟨processable, _⟩
      exact absurd processable stopped

/-- A worker is about to write `completed` to Redis for the job, with the result. -/
def Completes (job : WritingJob) (world : World) (result : AIResult) (last : World) : Prop :=
  ∃ trace left outcome reply,
    Reaches (Apart job.id) (processJobSafe sampleSettings "w1" job).run world trace left last ∧
    left.head? = some (completing job.id) ∧ (∀ exchange ∈ trace, Succeeds exchange) ∧
    (trace.getLast? : Option (jobQueue sampleSettings).Exchange) =
      some ⟨.dispatched job result, outcome, reply⟩

theorem Completes.of_check (job : WritingJob) (world : World) (outcomes : List Outcome)
    (result : AIResult) (check : World → Bool)
    (evaluated : ((jobQueue sampleSettings).reach? outcomes
      (processJobSafe sampleSettings "w1" job).run world).any (fun (trace, left, last) =>
        decide (left.head? = some (completing job.id)) &&
        trace.all (fun exchange => exchange.outcome.succeeds) &&
        decide (trace.getLast?.map Exchange.command = some (.dispatched job result)) &&
        check last) = true) :
    ∃ last, Completes job world result last ∧ check last = true := by
  obtain ⟨⟨trace, left, last⟩, reached, checked⟩ := (Option.any_eq_true _ _).mp evaluated
  simp only [Bool.and_eq_true, decide_eq_true_eq, List.all_eq_true] at checked
  obtain ⟨⟨⟨headed, succeed⟩, handed⟩, checked⟩ := checked
  obtain ⟨⟨command, outcome, reply⟩, final, same⟩ := Option.map_eq_some_iff.mp handed
  subst same
  refine ⟨last, ⟨trace, left, outcome, reply, .of_reach? (Apart.refl job.id) reached, headed, ?_,
    final⟩, checked⟩
  intro exchange member
  unfold Succeeds
  split
  · exact succeed exchange member
  · exact succeed exchange member
  · trivial

def sampleJob : WritingJob where
  id := samplePayload.id
  chatId := "chat"
  userId := "user"
  messageId := "message"
  content := "please reply to this mail"
  tone := "Friendly"
  mode := "email"

/-- The row of the sample job, as the enqueuing route inserted it. -/
def sampleWorld : World :=
  { World.empty 0 with jobRows := ⟨[⟨samplePayload.id, "user", .pending, .empty, none⟩], by simp⟩ }

theorem sample_stores_agree :
    ∃ last, Completes sampleJob sampleWorld sampleResult last ∧
      (Agreed sampleJob.id sampleResult last ↔
        (isProcessableInput sampleSettings sampleJob.content).1 = true ∧
        (sampleWorld.jobRows.find? sampleJob.id).isSome = true ∧
        sampleWorld.replies sampleJob.id sampleResult = 0 ∧ sampleWorld.usages sampleJob.id = 0) ∧
      Agreed sampleJob.id sampleResult last := by
  obtain ⟨last, completes, _⟩ := Completes.of_check sampleJob sampleWorld
    (List.replicate 8 .ok ++ .drafted sampleResult false :: List.replicate 6 .ok) sampleResult
    (fun _ => true) (by decide +kernel)
  obtain ⟨trace, left, outcome, reply, reaches, headed, succeed, handed⟩ := id completes
  have agree := stores_agree_iff sampleSettings "w1" sampleJob reaches headed succeed handed
  exact ⟨last, completes, agree, agree.mpr (by decide +kernel)⟩

/-- A text of two letters is refused by the first gate: the status becomes `completed`, and
the row is still in processing, without a message and without usage. -/
theorem refused_text_completed :
    ∃ last, Completes { sampleJob with content := "Hi" } sampleWorld
        (unprocessableResult "Hi" "Text is too short to improve meaningfully.") last ∧
      ¬ Agreed sampleJob.id (unprocessableResult "Hi" "Text is too short to improve meaningfully.")
        last := by
  obtain ⟨last, completes, unfinished⟩ := Completes.of_check { sampleJob with content := "Hi" }
    sampleWorld (List.replicate 8 .ok)
    (unprocessableResult "Hi" "Text is too short to improve meaningfully.")
    (fun last => last.messages.isEmpty && last.usage.isEmpty &&
      decide ((last.jobRows.find? sampleJob.id).map JobRow.status = some .processing))
    (by decide +kernel)
  simp only [Bool.and_eq_true, decide_eq_true_eq] at unfinished
  refine ⟨last, completes, ?_⟩
  rintro ⟨⟨row, found, completed, _⟩, _, _⟩
  have status := unfinished.2
  rw [found, Option.map_some, completed] at status
  cases status

end BrainMate.WriteRight
