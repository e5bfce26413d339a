import BrainMate.Gateway.Effects

namespace BrainMate.Gateway

/-- The members of the sorted set under a key, with their scores. -/
def World.scored (world : World) (key : RedisKey) : List (QueueMember × Nat) :=
  match world.lookup key with
  | some (.queue members) => members
  | _ => []

def World.members (world : World) (key : RedisKey) : List QueueMember :=
  (world.scored key).map Prod.fst

/-- The key holds a sorted set or nothing, so that ZADD can add to it. -/
def World.holdsQueue (world : World) (key : RedisKey) : Bool :=
  match world.lookup key with
  | none | some (.queue _) => true
  | some _ => false

/-- What a key can hold, as seen by the commands for sorted sets. -/
theorem World.queue_cases (world : World) (key : RedisKey) :
    (world.lookup key = none ∧ world.scored key = [] ∧ world.holdsQueue key = true) ∨
    (∃ members, world.lookup key = some (.queue members) ∧ world.scored key = members ∧
      world.holdsQueue key = true) ∨
    (∃ value, world.lookup key = some value ∧ (∀ members, value ≠ .queue members) ∧
      world.scored key = [] ∧ world.holdsQueue key = false) := by
  cases found : world.lookup key with
  | none => exact .inl ⟨rfl, by simp [scored, found], by simp [holdsQueue, found]⟩
  | some value =>
    cases value with
    | queue members =>
      exact .inr (.inl ⟨members, rfl, by simp [scored, found], by simp [holdsQueue, found]⟩)
    | _ =>
      exact .inr (.inr ⟨_, rfl, by simp, by simp [scored, found], by simp [holdsQueue, found]⟩)

/-- A fresh entry without a deadline is there. -/
theorem World.lookup_fresh (world : World) (key : RedisKey) (value : RedisValue) :
    (world.store key ⟨value, none⟩).lookup key = some value := by
  simp [World.lookup_store_same, RedisEntry.alive]

/-- An entry that is changed in place keeps its deadline, and so stays alive. -/
theorem World.lookup_restored {world : World} {key : RedisKey} {value : RedisValue}
    (found : world.lookup key = some value) (changed : RedisValue) :
    (world.store key ⟨changed, (world.redis key).bind (·.deadline)⟩).lookup key =
      some changed := by
  obtain ⟨entry, kept, _⟩ := Option.map_eq_some_iff.mp found
  obtain ⟨stored, alive⟩ := Option.filter_eq_some_iff.mp kept
  rw [World.lookup_store_same, stored, Option.filter_some, Option.bind_some]
  exact congrArg (Option.map RedisEntry.value) (if_pos alive)

section

variable (world : World) (key : RedisKey) (member : QueueMember) (score : Nat)

theorem scored_congr {world later : World} {key : RedisKey}
    (same : later.lookup key = world.lookup key) : later.scored key = world.scored key := by
  simp [World.scored, same]

theorem holdsQueue_congr {world later : World} {key : RedisKey}
    (same : later.lookup key = world.lookup key) : later.holdsQueue key = world.holdsQueue key := by
  simp [World.holdsQueue, same]

private theorem scored_of_lookup {world : World} {key : RedisKey}
    {members : List (QueueMember × Nat)}
    (found : world.lookup key = some (.queue members)) : world.scored key = members := by
  simp [World.scored, found]

private theorem scored_zadd :
    (RedisCommand.effect (.zadd key score member) world).scored key =
      if world.holdsQueue key then
        (member, score) :: (world.scored key).filter fun stored => stored.1 ≠ member
      else world.scored key := by
  obtain ⟨absent, empty, queue⟩ | ⟨members, found, same, queue⟩ | ⟨value, found, other, _, queue⟩ :=
    world.queue_cases key
  · simp only [RedisCommand.effect, absent]
    rw [scored_of_lookup (world.lookup_fresh key _), empty, queue]
    rfl
  · simp only [RedisCommand.effect, found]
    rw [scored_of_lookup (World.lookup_restored found _), same, queue]
    rfl
  · have unchanged : RedisCommand.effect (.zadd key score member) world = world := by
      cases value with
      | queue members => exact absurd rfl (other members)
      | _ => simp only [RedisCommand.effect, found]
    rw [unchanged, queue]
    rfl

theorem scored_keepMembers (kept : QueueMember × Nat → Bool) :
    (RedisCommand.keepMembers world key kept).scored key = (world.scored key).filter kept := by
  obtain ⟨absent, empty, _⟩ | ⟨members, found, same, _⟩ | ⟨value, found, other, empty, _⟩ :=
    world.queue_cases key
  · simp only [RedisCommand.keepMembers, absent, empty]
    rfl
  · simp only [RedisCommand.keepMembers, found, same]
    split
    · rename_i nothing
      simp [World.scored, nothing]
    · exact scored_of_lookup (World.lookup_restored found _)
  · have unchanged : RedisCommand.keepMembers world key kept = world := by
      cases value with
      | queue members => exact absurd rfl (other members)
      | _ => simp only [RedisCommand.keepMembers, found]
    rw [unchanged, empty]
    rfl

/-- ZADD puts its member in and leaves the others. -/
theorem mem_zadd {other : QueueMember} :
    other ∈ (RedisCommand.effect (.zadd key score member) world).members key ↔
      other ∈ world.members key ∨ (other = member ∧ world.holdsQueue key = true) := by
  simp only [World.members, scored_zadd]
  split
  · rename_i queue
    by_cases same : other = member
    · simp [same, queue]
    · simp [same]
  · rename_i queue
    simp [queue]

/-- ZREM takes its member out and leaves the others. -/
theorem mem_zrem {other : QueueMember} :
    other ∈ (RedisCommand.effect (.zrem key member) world).members key ↔
      other ∈ world.members key ∧ other ≠ member := by
  simp only [RedisCommand.effect, World.members, scored_keepMembers]
  constructor
  · intro present
    obtain ⟨stored, kept, rfl⟩ := List.mem_map.mp present
    obtain ⟨before, different⟩ := List.mem_filter.mp kept
    exact ⟨List.mem_map_of_mem before, of_decide_eq_true different⟩
  · rintro ⟨present, different⟩
    obtain ⟨stored, before, rfl⟩ := List.mem_map.mp present
    exact List.mem_map_of_mem (List.mem_filter.mpr ⟨before, decide_eq_true different⟩)

theorem zrem_present (present : member ∈ world.members key) :
    RedisCommand.answer (.zrem key member) world = .ok 1 := by
  obtain ⟨_, empty, _⟩ | ⟨members, found, same, _⟩ | ⟨_, _, _, empty, _⟩ := world.queue_cases key
  · simp [World.members, empty] at present
  · rw [World.members, same] at present
    simp only [RedisCommand.answer, found, List.contains_iff_mem, present, ↓reduceIte]
  · simp [World.members, empty] at present

/-- ZREM counts only what was there. -/
theorem mem_of_zrem {count : Nat}
    (answered : RedisCommand.answer (.zrem key member) world = .ok (count + 1)) :
    member ∈ world.members key := by
  by_contra absent
  obtain ⟨missing, _, _⟩ | ⟨members, found, same, _⟩ | ⟨value, found, other, _, _⟩ :=
    world.queue_cases key
  · simp [RedisCommand.answer, missing] at answered
  · rw [World.members, same] at absent
    simp only [RedisCommand.answer, found, List.contains_iff_mem, absent, ↓reduceIte] at answered
    cases answered
  · cases value with
    | queue members => exact absurd rfl (other members)
    | _ => simp [RedisCommand.answer, found] at answered

/-- Adding a member makes a queue of nothing, and of nothing else. -/
theorem holdsQueue_zadd :
    (RedisCommand.effect (.zadd key score member) world).holdsQueue key = world.holdsQueue key := by
  obtain ⟨absent, _, queue⟩ | ⟨members, found, _, queue⟩ | ⟨value, found, other, _, _⟩ :=
    world.queue_cases key
  · rw [queue]
    simp only [RedisCommand.effect, absent, World.holdsQueue, world.lookup_fresh]
  · rw [queue]
    simp only [RedisCommand.effect, found, World.holdsQueue, World.lookup_restored found]
  · cases value with
    | queue members => exact absurd rfl (other members)
    | _ => simp only [RedisCommand.effect, found]

end

/-- The key holds a sorted set without a deadline, or nothing. -/
def World.Intact (world : World) (key : RedisKey) : Prop :=
  ∀ entry, world.redis key = some entry →
    entry.deadline = none ∧ ∃ members, entry.value = .queue members

namespace World.Intact

variable {world later : World} {key : RedisKey}

theorem congr (intact : world.Intact key) (same : later.redis key = world.redis key) :
    later.Intact key := by
  intro entry stored
  exact intact entry (same ▸ stored)

/-- Time does nothing to it. -/
theorem lookup (intact : world.Intact key) (same : later.redis key = world.redis key) :
    later.lookup key = (world.redis key).map RedisEntry.value := by
  cases stored : world.redis key with
  | none => simp [World.lookup, same, stored]
  | some entry =>
    obtain ⟨forever, _⟩ := intact entry stored
    refine World.lookup_alive (same.trans stored) ?_
    simp [RedisEntry.alive, forever]

theorem scored (intact : world.Intact key) (same : later.redis key = world.redis key) :
    later.scored key = world.scored key :=
  scored_congr ((intact.lookup same).trans (intact.lookup rfl).symm)

theorem holdsQueue (intact : world.Intact key) : world.holdsQueue key = true := by
  have found := intact.lookup rfl
  cases stored : world.redis key with
  | none =>
    rw [stored] at found
    simp only [World.holdsQueue, found, Option.map_none]
  | some entry =>
    obtain ⟨_, members, value⟩ := intact entry stored
    rw [stored] at found
    simp only [World.holdsQueue, found, Option.map_some, value]

theorem deadline (intact : world.Intact key) : (world.redis key).bind (·.deadline) = none := by
  cases stored : world.redis key with
  | none => rfl
  | some entry => exact (intact entry stored).1

/-- A sorted set stored without a deadline, or with the one it had. -/
theorem store {deadline : Option Nat} (forever : deadline = none) (members : List (QueueMember × Nat)) :
    (world.store key ⟨.queue members, deadline⟩).Intact key := by
  intro entry stored
  simp only [World.store, Function.update_self, Option.some.injEq] at stored
  subst stored
  exact ⟨forever, members, rfl⟩

theorem zadd (intact : world.Intact key) (score : Nat) (member : QueueMember) :
    (RedisCommand.effect (.zadd key score member) world).Intact key := by
  obtain ⟨absent, _, _⟩ | ⟨members, found, _, _⟩ | ⟨_, _, _, _, other⟩ := world.queue_cases key
  · simp only [RedisCommand.effect, absent]
    exact store rfl _
  · simp only [RedisCommand.effect, found]
    exact store intact.deadline _
  · rw [intact.holdsQueue] at other
    cases other

theorem keepMembers (intact : world.Intact key) (kept : QueueMember × Nat → Bool) :
    (RedisCommand.keepMembers world key kept).Intact key := by
  obtain same | gone | ⟨members, _, less⟩ := RedisCommand.keepMembers_cases world key kept
  · rwa [same]
  · rw [gone]
    intro entry stored
    simp [World.remove] at stored
  · rw [less]
    exact store intact.deadline _

end World.Intact

/-- The commands for sorted sets, and those that only look. -/
def RedisCommand.ofQueue : RedisCommand → Bool
  | .zadd _ _ _ | .zrem _ _ | .zremrangeByScore _ _ => true
  | command => command.reads

theorem World.Intact.effect {world : World} {key : RedisKey} (intact : world.Intact key)
    {command : RedisCommand} (own : command.key = key → command.ofQueue = true) :
    (command.effect world).Intact key := by
  by_cases same : command.key = key
  · have queue := own same
    subst same
    cases command with
    | zadd key score member => exact intact.zadd score member
    | zrem key member => exact intact.keepMembers _
    | zremrangeByScore key maxScore => exact intact.keepMembers _
    | _ => first | exact intact | cases queue
  · exact intact.congr (command.effect_redis_other world (Ne.symm same))

theorem World.Intact.exec {world : World} {key : RedisKey} (intact : world.Intact key)
    (outcome : Outcome) {command : RedisCommand} (own : command.key = key → command.ofQueue = true) :
    (Command.exec outcome (.redis command) world).2.Intact key := by
  rcases Command.exec_world outcome (.redis command) world with same | same <;> rw [same]
  · exact intact
  · exact intact.effect own

end BrainMate.Gateway
