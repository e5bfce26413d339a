import BrainMate.WriteRight.Ledger

namespace BrainMate.WriteRight

open Interleaving Storage

variable {settings : Settings} {stage : Stage} {command : Command} {outcome : Outcome}
variable {world : World} {jobId : String}

/-- The job whose stream a command writes. -/
def streamOf : Command → Option String
  | .redis (.xadd jobId _) | .redis (.expireStream jobId _) => some jobId
  | _ => none

/-- The job of a worker that is about to publish how it ended. -/
def Stage.publishing? : Stage → Option WritingJob
  | .completed job _ | .gaveUp job => some job
  | .free | .holds _ | .started _ | .drafted _ _ | .published _ _ | .saw _ | .fell _ _
  | .told _ _ => none

theorem Stage.publishing_of_idle (idle : stage.job? = none) : stage.publishing? = none := by
  cases stage with
  | completed | gaveUp => cases idle
  | _ => rfl

/-- A worker that is about to publish was about to before, or has ended its job now. -/
theorem Stage.publishing_advance (allowed : Stage.Allowed settings stage command)
    {reply : command.Reply} {job : WritingJob}
    (after : (stage.advance command reply).publishing? = some job) :
    stage.publishing? = some job ∨ stage.open? = some job := by
  rcases Stage.advance_free_or stage command reply with dropped | moved
  · rw [dropped] at after
    cases after
  rw [moved] at after
  cases allowed with
  | aside isApart =>
    rw [Stage.moved_apart stage isApart] at after
    exact .inl after
  | pop =>
    rcases reply with _ | _ | member
    · cases after
    · cases after
    · change ((member.job?.map Stage.holds).getD .free).publishing? = _ at after
      cases parsed : member.job? <;> rw [parsed] at after <;> cases after
  | complete job result =>
    rcases reply with _ | _ <;> cases after
    exact .inr rfl
  | publish job result => rcases reply with _ | _ <;> cases after
  | report job =>
    rcases reply with _ | _
    · cases after
    · exact .inl after
  | keepReport job => rcases reply with _ | _ <;> cases after
  | retry inHand =>
    rcases reply with _ | _ <;> cases inHand <;> cases after
  | giveUp inHand =>
    rcases reply with _ | _ <;> cases inHand <;> cases after <;> exact .inr rfl
  | circuit idle =>
    rw [← moved, publishing_of_idle (circuit_idle idle reply)] at after
    cases after
  | look idle jobId =>
    rcases reply with _ | _ | hash
    · cases after
    · cases after
    · change (if hash.status = some .completed then Stage.saw jobId else .free).publishing? = _
        at after
      split at after <;> cases after
  | lookRow idle jobId =>
    rcases reply with _ | _ | row
    · cases after
    · cases after
    · change (if row.status = .completed then Stage.fell jobId row.output
        else .free).publishing? = _ at after
      split at after <;> cases after
  | lock => rcases reply with _ | _ | _ <;> cases after
  | slot | process | dispatched | keep | fetch | fetchRow =>
    rcases reply with _ | _ <;> cases after
  | enqueue | pend | dispatch | persist | requeue => cases after

theorem streams_exec (other : streamOf command ≠ some jobId) :
    (Command.exec outcome command world).2.streams jobId = world.streams jobId := by
  simp only [Command.exec]
  split
  · cases command with
    | redis command =>
      cases command with
      | xadd written data =>
        have different : jobId ≠ written := fun same => other (by rw [same]; rfl)
        simp [Command.effect, RedisCommand.effect, World.xadd, Function.update_of_ne different]
      | expireStream written ttlSecs =>
        have different : jobId ≠ written := fun same => other (by rw [same]; rfl)
        simp only [Command.effect, RedisCommand.effect, World.expireStream]
        split
        · simp [Function.update_of_ne different]
        · rfl
      | popDue | setLock | extendLock =>
        simp only [Command.effect, RedisCommand.effect]
        split <;> rfl
      | setStatus written fields ttlSecs =>
        simp only [Command.effect, RedisCommand.effect, World.expireHash]
        split <;> rfl
      | expireHash written ttlSecs =>
        simp only [Command.effect, RedisCommand.effect, World.expireHash]
        split <;> rfl
      | _ => rfl
    | supabase command => cases command <;> rfl
    | _ => rfl
  · rfl

theorem World.stream?_eq_some {entries : List ResultData} :
    world.stream? jobId = some entries ↔
      ∃ stored, world.streams jobId = some stored ∧ stored.alive world.clock = true ∧
        stored.value = entries := by
  simp [World.stream?, Option.map_eq_some_iff, Option.filter_eq_some_iff, and_assoc]

/-- EXPIRE keeps the entries of a stream. -/
theorem streams_expireStream (ttlSecs : Nat) :
    ((Command.exec outcome (.redis (.expireStream jobId ttlSecs)) world).2.streams jobId).map
      Stored.value = (world.streams jobId).map Stored.value := by
  simp only [Command.exec]
  split
  · simp only [Command.effect, RedisCommand.effect, World.expireStream]
    split
    · rename_i entries found
      obtain ⟨stored, held, _, rfl⟩ := World.stream?_eq_some.mp found
      simp [held]
    · rfl
  · rfl

theorem streams_xadd {data : ResultData} {stored : Stored (List ResultData)}
    (held : (Command.exec outcome (.redis (.xadd jobId data)) world).2.streams jobId =
      some stored) :
    world.streams jobId = some stored ∨ stored.value = [data] ∨
      ∃ before, world.streams jobId = some before ∧ stored.value = before.value ++ [data] := by
  simp only [Command.exec] at held
  split at held
  · simp only [Command.effect, RedisCommand.effect, World.xadd, Function.update_self,
      Option.some.injEq] at held
    split at held
    · rename_i entries found
      obtain ⟨before, held', _, rfl⟩ := World.stream?_eq_some.mp found
      exact .inr (.inr ⟨before, held', by rw [← held]⟩)
    · exact .inr (.inl (by rw [← held]))
  · exact .inl held

/-- Only the worker that ended a job writes its stream. -/
theorem streamOf_cases (allowed : Stage.Allowed settings stage command)
    (written : streamOf command = some jobId) :
    ∃ job, job.id = jobId ∧
      ((∃ result, stage = .completed job result ∧ command = .redis (.xadd jobId (.result result))) ∨
        (∃ result, stage = .published job result ∧
          command = .redis (.expireStream jobId statusTtlSecs)) ∨
        (∃ error, stage = .gaveUp job ∧ command = .redis (.xadd jobId (.failure error))) ∨
        (stage = .gaveUp job ∧ command = .redis (.expireStream jobId statusTtlSecs))) := by
  cases allowed with
  | publish job result =>
    cases written
    exact ⟨job, rfl, .inl ⟨result, rfl, rfl⟩⟩
  | keep job result =>
    cases written
    exact ⟨job, rfl, .inr (.inl ⟨result, rfl, rfl⟩)⟩
  | report job error =>
    cases written
    exact ⟨job, rfl, .inr (.inr (.inl ⟨error, rfl, rfl⟩))⟩
  | keepReport job =>
    cases written
    exact ⟨job, rfl, .inr (.inr (.inr ⟨rfl, rfl⟩))⟩
  | aside isApart =>
    rcases command with _ | _ | _ | _ | _ | redis | _ | _
    · cases written
    · cases written
    · cases written
    · cases written
    · cases written
    · cases redis <;> first | cases isApart; done | cases written
    · cases written
    · cases written
  | _ => cases written

/-- A completed row was so before the command, or the command is the one of `_persist`. -/
theorem rows_exec (allowed : Stage.Allowed settings stage command) {row : JobRow}
    (stored : row ∈ (Command.exec outcome command world).2.jobRows.rows)
    (completed : row.status = .completed) :
    row ∈ world.jobRows.rows ∨
      ∃ result, command = .supabase (.updateJobStatus row.id .completed (some result) none) ∧
        row.output = .result result := by
  simp only [Command.exec] at stored
  split at stored
  swap
  · exact .inl stored
  cases allowed with
  | persist job result =>
    simp only [Command.effect, SupabaseCommand.effect] at stored
    refine (Table.mem_updateWhere _ stored).imp id ?_
    rintro ⟨before, _, selected, rfl⟩
    exact ⟨result, by rw [← of_decide_eq_true selected]; rfl, rfl⟩
  | aside isApart =>
    left
    rcases command with _ | _ | _ | _ | _ | redis | supabase | _
    · exact stored
    · cases isApart
    · exact stored
    · exact stored
    · exact stored
    · rwa [(tables_redis _ world).1] at stored
    · cases supabase with
      | updateJobStatus jobId status output error =>
        simp only [Command.effect, SupabaseCommand.effect] at stored
        rcases Table.mem_updateWhere _ stored with before | ⟨before, _, _, rfl⟩
        · exact before
        · simp only [Stage.apart, Bool.and_eq_true, decide_eq_true_eq] at isApart
          exact absurd completed isApart.1
      | failActiveJob jobId error =>
        simp only [Command.effect, SupabaseCommand.effect] at stored
        rcases Table.mem_updateWhere _ stored with before | ⟨before, _, _, rfl⟩
        · exact before
        · cases completed
      | _ => exact stored
    · exact stored
  | enqueue | pend | pop | lock | process | complete | publish | keep | retry | requeue | giveUp
  | report | keepReport | look | fetch | fetchRow =>
    left
    rwa [(tables_redis _ world).1] at stored
  | _ => exact .inl stored

theorem row_of_selectJob {userId : String} {row : JobRow}
    (answered : (Command.exec outcome (.supabase (.selectJob jobId userId)) world).1 =
      .ok (some row)) : row ∈ world.jobRows.rows ∧ row.id = jobId := by
  have selected : (world.jobRows.find? jobId).filter (fun row => row.userId = userId) = some row := by
    cases outcome with
    | ok | drafted _ _ => exact Except.ok.inj answered
    | failed _ _ => cases answered
  obtain ⟨found, _⟩ := Option.filter_eq_some_iff.mp selected
  exact (Table.find?_eq_some_iff _).mp found

end BrainMate.WriteRight
