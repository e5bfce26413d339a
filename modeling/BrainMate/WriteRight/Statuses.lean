import BrainMate.WriteRight.Ledger

namespace BrainMate.WriteRight

open Interleaving System Program

namespace World

variable {world : World} {jobId other : String}

theorem hash?_eq_some {hash : StatusHash} :
    world.hash? jobId = some hash ↔
      ∃ stored, world.hashes jobId = some stored ∧ stored.alive world.clock = true ∧
        stored.value = hash := by
  simp [hash?, Option.map_eq_some_iff, Option.filter_eq_some_iff, and_assoc]

private theorem hash?_hset_self (fields : StatusHash) :
    (world.hset jobId fields).hash? jobId = some (((world.hash? jobId).getD {}).hset fields) := by
  cases found : world.hash? jobId with
  | none =>
    refine hash?_eq_some.mpr ⟨⟨fields, none⟩, by simp [hset, found], rfl, ?_⟩
    simp [StatusHash.hset]
  | some hash =>
    obtain ⟨stored, held, alive, rfl⟩ := hash?_eq_some.mp found
    exact hash?_eq_some.mpr ⟨⟨stored.value.hset fields, stored.deadline⟩,
      by simp [hset, found, held], alive, rfl⟩

private theorem hash?_hset_other (different : other ≠ jobId) (fields : StatusHash) :
    (world.hset jobId fields).hash? other = world.hash? other := by
  simp [hash?, hset, Function.update_of_ne different]

private theorem hash?_expireHash {ttlSecs : Nat} (positive : ttlSecs ≠ 0) :
    (world.expireHash jobId ttlSecs).hash? other = world.hash? other := by
  unfold expireHash
  cases found : world.hash? jobId with
  | none => rfl
  | some hash =>
    by_cases same : other = jobId
    · subst same
      rw [found]
      refine hash?_eq_some.mpr ⟨⟨hash, world.deadlineIn ttlSecs⟩, by simp, ?_, rfl⟩
      simp only [Stored.alive, deadlineIn, decide_eq_true_eq]
      omega
    · simp [hash?, Function.update_of_ne same]

private theorem status?_hset (fields : StatusHash) :
    (world.hset jobId fields).status? other =
      if other = jobId then fields.status <|> world.status? other else world.status? other := by
  split
  · rename_i same
    subst same
    simp only [status?, hash?_hset_self, Option.bind_some]
    cases world.hash? other <;> simp [StatusHash.hset]
  · rename_i different
    simp [status?, hash?_hset_other different]

private theorem status?_expireHash {ttlSecs : Nat} (positive : ttlSecs ≠ 0) :
    (world.expireHash jobId ttlSecs).status? other = world.status? other := by
  simp [status?, hash?_expireHash positive]

theorem status?_untouched {changed : World} (hashes : changed.hashes = world.hashes)
    (clock : changed.clock = world.clock) : changed.status? jobId = world.status? jobId := by
  simp [status?, hash?, hashes, clock]

end World

/-- The job and the status a command writes. -/
def writes : Command → Option (String × Status)
  | .redis (.setStatus jobId fields _) | .redis (.hset jobId fields) =>
    fields.status.map fun status => (jobId, status)
  | _ => none

variable {settings : Settings} {stage : Stage} {command : Command}

theorem status?_effect (allowed : Stage.Allowed settings stage command) (world : World)
    (jobId : String) :
    (command.effect world).status? jobId =
      match writes command with
      | some (written, status) => if jobId = written then some status else world.status? jobId
      | none => world.status? jobId := by
  have set (written : String) (fields : StatusHash) :
      ((world.hset written fields).expireHash written statusTtlSecs).status? jobId =
        if jobId = written then fields.status <|> world.status? jobId else world.status? jobId := by
    rw [World.status?_expireHash (by decide), World.status?_hset]
  cases allowed with
  | process | complete | retry | giveUp => exact set _ _
  | pend written fields pending =>
    simp only [Command.effect, RedisCommand.effect, World.status?_hset, writes, pending]
    rfl
  | pop now =>
    simp only [Command.effect, RedisCommand.effect, writes]
    split <;> exact World.status?_untouched rfl rfl
  | lock =>
    simp only [Command.effect, RedisCommand.effect, writes]
    split <;> exact World.status?_untouched rfl rfl
  | keep | keepReport =>
    simp only [Command.effect, RedisCommand.effect, writes, World.expireStream]
    split <;> exact World.status?_untouched rfl rfl
  | aside isApart =>
    rcases command with _ | _ | _ | _ | _ | redis | supabase | _
    · rfl
    · cases isApart
    · rfl
    · rfl
    · rfl
    · cases redis with
      | expireHash written ttlSecs =>
        exact World.status?_expireHash (by simpa [Stage.apart] using isApart)
      | extendLock =>
        simp only [Command.effect, RedisCommand.effect, writes]
        split <;> exact World.status?_untouched rfl rfl
      | zaddDead | expireDead | getLock | deleteLock | setCache | deleteStats | publish =>
        exact World.status?_untouched rfl rfl
      | popDue | zadd | setStatus | hset | hgetall | xadd | expireStream | xrange | setLock =>
        cases isApart
    · cases supabase <;> exact World.status?_untouched rfl rfl
    · rfl
  | _ => exact World.status?_untouched rfl rfl

theorem status?_exec (allowed : Stage.Allowed settings stage command) (outcome : Outcome)
    (world : World) (jobId : String) :
    (Command.exec outcome command world).2.status? jobId =
      if Command.performed outcome then
        match writes command with
        | some (written, status) => if jobId = written then some status else world.status? jobId
        | none => world.status? jobId
      else world.status? jobId := by
  simp only [Command.exec]
  split
  · exact status?_effect allowed world jobId
  · rfl

theorem status?_exec_unwritten (allowed : Stage.Allowed settings stage command) {outcome : Outcome}
    {world : World} {jobId : String}
    (unwritten : ∀ status, writes command ≠ some (jobId, status)) :
    (Command.exec outcome command world).2.status? jobId = world.status? jobId := by
  rw [status?_exec allowed]
  split
  · split
    · rename_i written status given
      split
      · rename_i same
        exact absurd (same ▸ given) (unwritten status)
      · rfl
    · rfl
  · rfl

/-- A status after a command was there before it, or the command wrote it. -/
theorem status?_exec_cases (allowed : Stage.Allowed settings stage command) {outcome : Outcome}
    {world : World} {jobId : String} {status : Status}
    (found : (Command.exec outcome command world).2.status? jobId = some status) :
    (Command.performed outcome = true ∧ writes command = some (jobId, status)) ∨
      world.status? jobId = some status := by
  rw [status?_exec allowed] at found
  split at found
  · rename_i performed
    split at found
    · rename_i written other given
      split at found
      · rename_i same
        cases found
        exact .inl ⟨performed, same ▸ given⟩
      · exact .inr found
    · exact .inr found
  · exact .inr found

theorem writes_apart (isApart : Stage.apart command = true) : writes command = none := by
  rcases command with _ | _ | _ | _ | _ | redis | _ | _
  · rfl
  · rfl
  · rfl
  · rfl
  · rfl
  · cases redis <;> first | rfl | cases isApart
  · rfl
  · rfl

/-- A job's status is written by the enqueuing route and by the worker that has the job. -/
theorem writes_cases (allowed : Stage.Allowed settings stage command) {jobId : String}
    {status : Status} (written : writes command = some (jobId, status)) :
    (status = .pending ∧ stage = .free ∧ ∃ fields, command = .redis (.hset jobId fields)) ∨
    (∃ job, job.id = jobId ∧
      ((status = .processing ∧ stage = .holds job) ∨
        (status = .retrying ∧ Stage.InHand job stage) ∨
        (status = .failed ∧ Stage.InHand job stage) ∨
        (status = .completed ∧ ∃ result, stage = .drafted job result))) := by
  cases allowed with
  | pend written' fields pending =>
    simp only [writes, pending, Option.map_some, Option.some.injEq, Prod.mk.injEq] at written
    obtain ⟨rfl, rfl⟩ := written
    exact .inl ⟨rfl, rfl, fields, rfl⟩
  | process job =>
    cases written
    exact .inr ⟨job, rfl, .inl ⟨rfl, rfl⟩⟩
  | complete job result =>
    cases written
    exact .inr ⟨job, rfl, .inr (.inr (.inr ⟨rfl, result, rfl⟩))⟩
  | retry inHand error =>
    cases written
    exact .inr ⟨_, rfl, .inr (.inl ⟨rfl, inHand⟩)⟩
  | giveUp inHand error =>
    cases written
    exact .inr ⟨_, rfl, .inr (.inr (.inl ⟨rfl, inHand⟩))⟩
  | aside isApart =>
    rw [writes_apart isApart] at written
    cases written
  | _ => cases written

end BrainMate.WriteRight
