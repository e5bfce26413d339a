import BrainMate.Gateway.Clients

namespace BrainMate.Gateway

open Interleaving Storage

theorem RedisEntry.alive_earlier (entry : RedisEntry) {clock milliseconds : Nat}
    (later : entry.alive (clock + milliseconds) = true) : entry.alive clock = true := by
  unfold alive at later ⊢
  split
  · rfl
  · rename_i deadline stored
    rw [stored] at later
    have alive : clock + milliseconds < deadline := by simpa using later
    exact decide_eq_true (by omega)

/-- The command changed its store, whatever it answered. -/
def Outcome.takesEffect : Outcome → Bool
  | .lost _ => false
  | .success | .applied _ => true

namespace World

variable (world : World) (key other : RedisKey) (entry : RedisEntry)

variable {world key entry} in
theorem lookup_alive (stored : world.redis key = some entry)
    (alive : entry.alive world.clock = true) : world.lookup key = some entry.value := by
  rw [lookup, stored, Option.filter_some, if_pos alive, Option.map_some]

variable {world key entry} in
theorem lookup_dead (stored : world.redis key = some entry)
    (dead : ¬ entry.alive world.clock = true) : world.lookup key = none := by
  rw [lookup, stored, Option.filter_some, if_neg dead, Option.map_none]

theorem lookup_store_same : (world.store key entry).lookup key =
    ((some entry).filter fun entry => entry.alive world.clock).map RedisEntry.value := by
  simp [lookup, store]

theorem lookup_store_other (different : other ≠ key) :
    (world.store key entry).lookup other = world.lookup other := by
  simp [lookup, store, Function.update_of_ne different]

@[simp] theorem lookup_remove_same : (world.remove key).lookup key = none := by
  simp [lookup, remove]

theorem lookup_remove_other (different : other ≠ key) :
    (world.remove key).lookup other = world.lookup other := by
  simp [lookup, remove, Function.update_of_ne different]

@[simp] theorem store_db : (world.store key entry).db = world.db := rfl

@[simp] theorem store_clock : (world.store key entry).clock = world.clock := rfl

@[simp] theorem remove_db : (world.remove key).db = world.db := rfl

@[simp] theorem remove_clock : (world.remove key).clock = world.clock := rfl

end World

namespace RedisCommand

/-- Each command is about one key. -/
def key : RedisCommand → RedisKey
  | .get key | .setEx key _ _ | .setNxEx key _ _ | .existsKey key | .delete key | .getDel key |
    .incrEx key _ | .decr key | .zadd key _ _ | .zrem key _ | .zcard key | .zrangeByScore key _ _ |
    .zremrangeByScore key _ | .takeToken key _ _ _ | .incr key | .expire key _ => key

/-- The command may leave a value under its key. -/
def writes : RedisCommand → Bool
  | .setEx _ _ _ | .setNxEx _ _ _ | .incrEx _ _ | .decr _ | .zadd _ _ _ | .zrem _ _ |
    .zremrangeByScore _ _ | .takeToken _ _ _ _ | .incr _ | .expire _ _ => true
  | .get _ | .existsKey _ | .delete _ | .getDel _ | .zcard _ | .zrangeByScore _ _ _ => false

/-- The command only looks. -/
def reads : RedisCommand → Bool
  | .get _ | .existsKey _ | .zcard _ | .zrangeByScore _ _ _ => true
  | _ => false

theorem effect_reads {command : RedisCommand} (reads : command.reads = true) (world : World) :
    command.effect world = world := by
  cases command <;> first | rfl | cases reads

/-- Members leave a sorted set: nothing happens, or the key goes, or what is left is stored. -/
theorem keepMembers_cases (world : World) (key : RedisKey) (kept : QueueMember × Nat → Bool) :
    keepMembers world key kept = world ∨ keepMembers world key kept = world.remove key ∨
      ∃ members, world.lookup key = some (.queue members) ∧
        keepMembers world key kept =
          world.store key ⟨.queue (members.filter kept), (world.redis key).bind (·.deadline)⟩ := by
  unfold keepMembers
  split
  · rename_i members found
    split
    · exact .inr (.inl rfl)
    · exact .inr (.inr ⟨members, found, rfl⟩)
  · exact .inl rfl

/-- A command does nothing, removes its key, or stores an entry under it. -/
theorem effect_cases (command : RedisCommand) (world : World) :
    command.effect world = world ∨ command.effect world = world.remove command.key ∨
      (command.writes = true ∧ ∃ entry, command.effect world = world.store command.key entry) := by
  have dropped (key : RedisKey) (kept : QueueMember × Nat → Bool) :
      keepMembers world key kept = world ∨ keepMembers world key kept = world.remove key ∨
        ∃ entry, keepMembers world key kept = world.store key entry := by
    obtain same | gone | ⟨_, _, less⟩ := keepMembers_cases world key kept
    · exact .inl same
    · exact .inr (.inl gone)
    · exact .inr (.inr ⟨_, less⟩)
  cases command with
  | get => exact .inl rfl
  | existsKey => exact .inl rfl
  | zcard => exact .inl rfl
  | zrangeByScore => exact .inl rfl
  | zrem key member => exact (dropped key _).imp id (Or.imp id fun stored => ⟨rfl, stored⟩)
  | zremrangeByScore key maxScore =>
    exact (dropped key _).imp id (Or.imp id fun stored => ⟨rfl, stored⟩)
  | takeToken key burst refillPerSec now =>
    simp only [effect]
    split
    · exact .inl rfl
    · split
      · exact .inr (.inr ⟨rfl, _, rfl⟩)
      · exact .inl rfl
  | incr key =>
    simp only [effect]
    split
    · exact .inr (.inr ⟨rfl, _, rfl⟩)
    · exact .inr (.inr ⟨rfl, _, rfl⟩)
    · exact .inl rfl
  | expire key ttlSecs =>
    simp only [effect]
    split
    · exact .inl rfl
    · split
      · exact .inr (.inl rfl)
      · split
        · exact .inr (.inr ⟨rfl, _, rfl⟩)
        · exact .inl rfl
  | delete => exact .inr (.inl rfl)
  | getDel => exact .inr (.inl rfl)
  | setEx key value ttlSecs =>
    simp only [effect]
    split
    · exact .inr (.inr ⟨rfl, _, rfl⟩)
    · exact .inl rfl
  | setNxEx key value ttlSecs =>
    simp only [effect]
    split
    · exact .inr (.inr ⟨rfl, _, rfl⟩)
    · exact .inl rfl
  | incrEx key ttlSecs =>
    simp only [effect]
    split
    · split
      · exact .inr (.inl rfl)
      · split <;> exact .inr (.inr ⟨rfl, _, rfl⟩)
    · split
      · exact .inr (.inl rfl)
      · split <;> exact .inr (.inr ⟨rfl, _, rfl⟩)
    · exact .inl rfl
  | decr key =>
    simp only [effect]
    split
    · exact .inr (.inr ⟨rfl, _, rfl⟩)
    · exact .inr (.inr ⟨rfl, _, rfl⟩)
    · exact .inl rfl
  | zadd key score member =>
    simp only [effect]
    split
    · exact .inr (.inr ⟨rfl, _, rfl⟩)
    · exact .inr (.inr ⟨rfl, _, rfl⟩)
    · exact .inl rfl

variable (command : RedisCommand) (world : World)

@[simp] theorem effect_db : (command.effect world).db = world.db := by
  rcases command.effect_cases world with same | same | ⟨_, _, same⟩ <;> simp [same]

@[simp] theorem effect_clock : (command.effect world).clock = world.clock := by
  rcases command.effect_cases world with same | same | ⟨_, _, same⟩ <;> simp [same]

theorem effect_redis_other {other : RedisKey} (different : other ≠ command.key) :
    (command.effect world).redis other = world.redis other := by
  rcases command.effect_cases world with same | same | ⟨_, _, same⟩ <;> rw [same]
  · exact Function.update_of_ne different _ _
  · exact Function.update_of_ne different _ _

theorem effect_lookup_other {other : RedisKey} (different : other ≠ command.key) :
    (command.effect world).lookup other = world.lookup other := by
  rcases command.effect_cases world with same | same | ⟨_, _, same⟩ <;> rw [same]
  · exact world.lookup_remove_other _ _ different
  · exact world.lookup_store_other _ _ _ different

/-- A key changes hands only to be removed, unless the command writes it. -/
theorem effect_lookup {other : RedisKey}
    (silent : ¬ (command.writes = true ∧ command.key = other)) :
    (command.effect world).lookup other = world.lookup other ∨
      (command.effect world).lookup other = none := by
  by_cases own : other = command.key
  · subst other
    rcases command.effect_cases world with same | same | ⟨writes, _, same⟩
    · exact .inl (by rw [same])
    · exact .inr (by simp [same])
    · exact absurd ⟨writes, rfl⟩ silent
  · exact .inl (command.effect_lookup_other world own)

end RedisCommand

namespace Command

/-- The command may leave a value under this Redis key. -/
def WritesKey (key : RedisKey) : Command → Prop
  | .redis command => command.writes = true ∧ command.key = key
  | _ => False

instance (key : RedisKey) : (command : Command) → Decidable (command.WritesKey key)
  | .redis command => inferInstanceAs (Decidable (command.writes = true ∧ command.key = key))
  | .now => inferInstanceAs (Decidable False)
  | .db _ => inferInstanceAs (Decidable False)
  | .http => inferInstanceAs (Decidable False)

theorem exec_effect {outcome : Outcome} (effective : outcome.takesEffect = true)
    (command : Command) (world : World) :
    (exec outcome command world).2 = command.effect world := by
  cases outcome
  · rfl
  · cases effective
  · rfl

theorem exec_lost {outcome : Outcome} (ineffective : outcome.takesEffect = false)
    (command : Command) (world : World) : (exec outcome command world).2 = world := by
  cases outcome
  · cases ineffective
  · rfl
  · cases ineffective

theorem effect_lookup (command : Command) (world : World) {key : RedisKey}
    (silent : ¬ command.WritesKey key) :
    (command.effect world).lookup key = world.lookup key ∨
      (command.effect world).lookup key = none := by
  cases command with
  | now => exact .inl rfl
  | redis command => exact command.effect_lookup world silent
  | db command => exact .inl rfl
  | http => exact .inl rfl

end Command

namespace Command

@[simp] theorem exec_redis_db (outcome : Outcome) (command : RedisCommand) (world : World) :
    (exec outcome (.redis command) world).2.db = world.db := by
  rcases exec_world outcome (.redis command) world with same | same <;> rw [same]
  exact command.effect_db world

theorem exec_lookup_other (outcome : Outcome) (command : RedisCommand) (world : World)
    {key : RedisKey} (different : key ≠ command.key) :
    (exec outcome (.redis command) world).2.lookup key = world.lookup key := by
  rcases exec_world outcome (.redis command) world with same | same <;> rw [same]
  exact command.effect_lookup_other world different

theorem exec_reads (outcome : Outcome) {command : RedisCommand} (reads : command.reads = true)
    (world : World) : (exec outcome (.redis command) world).2 = world := by
  rcases exec_world outcome (.redis command) world with same | same <;> rw [same]
  exact RedisCommand.effect_reads reads world

@[simp] theorem exec_clock (outcome : Outcome) (command : Command) (world : World) :
    (exec outcome command world).2.clock = world.clock := by
  rcases exec_world outcome command world with same | same <;> rw [same]
  cases command with
  | now => rfl
  | redis command => exact command.effect_clock world
  | db command => rfl
  | http => rfl

section

variable {key : RedisKey} {value : RedisValue} {ttlSecs : Nat} {outcome : Outcome} {world : World}

/-- A SETEX that was acknowledged stored its value. -/
theorem setEx_answered (answered : (exec outcome (.redis (.setEx key value ttlSecs)) world).1 = .ok ()) :
    outcome = .success ∧ acceptsTtl world.clock ttlSecs = true ∧
      (exec outcome (.redis (.setEx key value ttlSecs)) world).2 =
        world.store key ⟨value, some (world.clock + ttlSecs * 1000)⟩ := by
  cases outcome with
  | lost => cases answered
  | applied => cases answered
  | success =>
    simp only [exec, answer, RedisCommand.answer] at answered
    split at answered
    · rename_i accepted
      exact ⟨rfl, accepted, by simp [exec, effect, RedisCommand.effect, accepted]⟩
    · cases answered

variable (key value ttlSecs world) in
theorem setNxEx_success :
    (exec .success (.redis (.setNxEx key value ttlSecs)) world).1 =
      if acceptsTtl world.clock ttlSecs then .ok (world.lookup key).isNone
      else .error (.command "invalid expire time") := rfl

/-- A GET that found a value read it from the store. -/
theorem get_found (answered : (exec outcome (.redis (.get key)) world).1 = .ok (some value)) :
    world.lookup key = some value := by
  cases outcome with
  | lost => cases answered
  | applied => cases answered
  | success => exact Except.ok.inj answered

variable (key value) in
theorem setEx_accepted (accepted : acceptsTtl world.clock ttlSecs = true) :
    (exec .success (.redis (.setEx key value ttlSecs)) world).1 = .ok () := by
  simp [exec, answer, RedisCommand.answer, accepted]

end

end Command

/-- A value stored with a TTL that Redis accepts is there. -/
theorem World.lookup_stored {world : World} {key : RedisKey} {value : RedisValue} {ttlSecs : Nat}
    (accepted : acceptsTtl world.clock ttlSecs = true) :
    (world.store key ⟨value, some (world.clock + ttlSecs * 1000)⟩).lookup key = some value := by
  have positive : 0 < ttlSecs := by
    simp only [acceptsTtl, Bool.and_eq_true, decide_eq_true_eq] at accepted
    exact accepted.1
  simp [World.lookup_store_same, RedisEntry.alive, positive]

theorem environment_lookup (event : Event) (world : World) (key : RedisKey) :
    (environment event world).lookup key = world.lookup key ∨
      (environment event world).lookup key = none := by
  cases event with
  | tick milliseconds =>
    simp only [environment, World.lookup]
    cases world.redis key with
    | none => exact .inl rfl
    | some entry =>
      simp only [Option.filter_some]
      by_cases later : entry.alive (world.clock + milliseconds) = true
      · exact .inl (by simp [later, entry.alive_earlier later])
      · exact .inr (by simp [later])
  | evict removed =>
    by_cases same : key = removed
    · subst removed
      exact .inr (by simp [environment])
    · exact .inl (world.lookup_remove_other _ _ same)

@[simp] theorem environment_db (event : Event) (world : World) :
    (environment event world).db = world.db := by
  cases event <;> rfl

/-- The only value an entry just stored can show is its own. -/
theorem World.value_of_stored {world : World} {key : RedisKey} {entry : RedisEntry}
    {value : RedisValue} (found : (world.store key entry).lookup key = some value) :
    entry.value = value := by
  rw [World.lookup_store_same, Option.map_eq_some_iff] at found
  obtain ⟨stored, kept, same⟩ := found
  obtain ⟨identical, _⟩ := Option.filter_eq_some_iff.mp kept
  cases identical
  exact same

/-- A value that Redis computes itself, never one that a client hands over. -/
def RedisValue.computed : RedisValue → Bool
  | .counter _ | .bucket _ _ | .queue _ => true
  | .text _ | .session _ | .refresh _ | .claims _ | .context _ | .audit _ => false

theorem RedisCommand.keepMembers_value {world : World} {key : RedisKey}
    {kept : QueueMember × Nat → Bool} {value : RedisValue}
    (found : (keepMembers world key kept).lookup key = some value) :
    world.lookup key = some value ∨ ∃ members, value = .queue members := by
  obtain same | gone | ⟨members, _, less⟩ := keepMembers_cases world key kept
  · exact .inl (by rwa [same] at found)
  · simp [gone] at found
  · rw [less] at found
    cases World.value_of_stored found
    exact .inr ⟨_, rfl⟩

/-- The command stores a value of this kind that Redis computes. -/
def RedisCommand.computes : RedisCommand → RedisValue → Bool
  | .incrEx _ _, .counter _ | .decr _, .counter _ | .incr _, .counter _ => true
  | .zadd _ _ _, .queue _ | .zrem _ _, .queue _ | .zremrangeByScore _ _, .queue _ => true
  | .takeToken _ _ _ _, .bucket _ _ => true
  | _, _ => false

/-- A value under a key was there before, or one of the two SET commands stored it,
or Redis computed it. -/
theorem RedisCommand.effect_value (command : RedisCommand) (world : World) {key : RedisKey}
    {value : RedisValue} (found : (command.effect world).lookup key = some value) :
    world.lookup key = some value ∨
      (∃ ttlSecs, command = .setEx key value ttlSecs ∧ acceptsTtl world.clock ttlSecs = true) ∨
      (∃ ttlSecs, command = .setNxEx key value ttlSecs ∧ acceptsTtl world.clock ttlSecs = true ∧
        world.lookup key = none) ∨
      (value.computed = true ∧ command.computes value = true) := by
  by_cases own : key = command.key
  · cases command <;> simp only [RedisCommand.key] at own <;> subst own <;>
      simp only [RedisCommand.effect] at found
    case get | existsKey | zcard | zrangeByScore => exact .inl found
    case delete | getDel => simp at found
    case zrem member =>
      obtain before | ⟨members, rfl⟩ := keepMembers_value found
      · exact .inl before
      · exact .inr (.inr (.inr ⟨rfl, rfl⟩))
    case zremrangeByScore maxScore =>
      obtain before | ⟨members, rfl⟩ := keepMembers_value found
      · exact .inl before
      · exact .inr (.inr (.inr ⟨rfl, rfl⟩))
    case takeToken burst refillPerSec now =>
      split at found
      · exact .inl found
      · split at found
        · cases World.value_of_stored found
          exact .inr (.inr (.inr ⟨rfl, rfl⟩))
        · exact .inl found
    case incr =>
      split at found
      · cases World.value_of_stored found
        exact .inr (.inr (.inr ⟨rfl, rfl⟩))
      · cases World.value_of_stored found
        exact .inr (.inr (.inr ⟨rfl, rfl⟩))
      · exact .inl found
    case expire ttlSecs =>
      split at found
      · exact .inl found
      · rename_i stored present
        split at found
        · simp at found
        · split at found
          · cases World.value_of_stored found
            exact .inl present
          · exact .inl found
    case setEx stored ttlSecs =>
      split at found
      · rename_i accepted
        cases World.value_of_stored found
        exact .inr (.inl ⟨ttlSecs, rfl, accepted⟩)
      · exact .inl found
    case setNxEx stored ttlSecs =>
      split at found
      · rename_i accepted
        cases World.value_of_stored found
        simp only [Bool.and_eq_true, Option.isNone_iff_eq_none] at accepted
        exact .inr (.inr (.inl ⟨ttlSecs, rfl, accepted.1, accepted.2⟩))
      · exact .inl found
    case incrEx ttlSecs =>
      split at found
      · split at found
        · simp at found
        · split at found <;> cases World.value_of_stored found <;> exact .inr (.inr (.inr ⟨rfl, rfl⟩))
      · split at found
        · simp at found
        · split at found <;> cases World.value_of_stored found <;> exact .inr (.inr (.inr ⟨rfl, rfl⟩))
      · exact .inl found
    case decr =>
      split at found
      · cases World.value_of_stored found
        exact .inr (.inr (.inr ⟨rfl, rfl⟩))
      · cases World.value_of_stored found
        exact .inr (.inr (.inr ⟨rfl, rfl⟩))
      · exact .inl found
    case zadd score member =>
      split at found
      · cases World.value_of_stored found
        exact .inr (.inr (.inr ⟨rfl, rfl⟩))
      · cases World.value_of_stored found
        exact .inr (.inr (.inr ⟨rfl, rfl⟩))
      · exact .inl found
  · exact .inl (by rwa [command.effect_lookup_other world own] at found)

/-- The record a command would cache for a refresh token, with its TTL. -/
def Command.cachesToken (tokenHash : String) : Command → Option (RefreshTokenRecord × Nat)
  | .redis (.setEx (.refresh stored) (.refresh record) ttlSecs)
  | .redis (.setNxEx (.refresh stored) (.refresh record) ttlSecs) =>
    if stored = tokenHash then some (record, ttlSecs) else none
  | _ => none

/-- A cached record was cached before, or the command stored it just now. -/
theorem Command.effect_cached (command : Command) (world : World) {tokenHash : String}
    {record : RefreshTokenRecord}
    (cached : (command.effect world).lookup (.refresh tokenHash) = some (.refresh record)) :
    world.lookup (.refresh tokenHash) = some (.refresh record) ∨
      ∃ ttlSecs, command.cachesToken tokenHash = some (record, ttlSecs) ∧
        acceptsTtl world.clock ttlSecs = true := by
  cases command with
  | now => exact .inl cached
  | db command => exact .inl cached
  | http => exact .inl cached
  | redis command =>
    obtain before | ⟨ttlSecs, rfl, accepted⟩ | ⟨ttlSecs, rfl, accepted, _⟩ | ⟨computed, _⟩ :=
      command.effect_value world cached
    · exact .inl before
    · exact .inr ⟨ttlSecs, by simp [cachesToken], accepted⟩
    · exact .inr ⟨ttlSecs, by simp [cachesToken], accepted⟩
    · cases computed

theorem environment_cached {event : Event} {world : World} {key : RedisKey} {value : RedisValue}
    (cached : (environment event world).lookup key = some value) : world.lookup key = some value := by
  rcases environment_lookup event world key with same | gone
  · rwa [same] at cached
  · rw [gone] at cached
    cases cached

/-- Redis holds a record of the token that is not marked. -/
def CachedLive (tokenHash : String) (world : World) : Prop :=
  ∃ record, world.lookup (.refresh tokenHash) = some (.refresh record) ∧ record.revoked = false

instance (tokenHash : String) (world : World) : Decidable (CachedLive tokenHash world) :=
  match found : world.lookup (.refresh tokenHash) with
  | some (.refresh record) =>
    decidable_of_iff (record.revoked = false) (by simp [CachedLive, found])
  | some (.text _) | some (.counter _) | some (.session _) | some (.claims _) | some (.context _) |
    some (.audit _) | some (.bucket _ _) | some (.queue _) | none =>
    isFalse (by simp [CachedLive, found])

namespace DbCommand

/-- A session row stays as it is or becomes revoked, until the cleanup job. -/
theorem effect_session (command : DbCommand) (world : World) {sessionId : String} {row : DbSession}
    (kept : command ≠ .cleanupExpiredAuth)
    (found : world.db.sessions.find? sessionId = some row) :
    ∃ after, (command.effect world).sessions.find? sessionId = some after ∧
      (after = row ∨ after = { row with revoked := true }) := by
  cases command
  case insertSession record =>
    refine ⟨row, ?_, .inl rfl⟩
    simp only [effect, Table.find?_insertNew, found, Option.getD_some, ite_self]
  case revokeSession target =>
    simp only [effect, revokeSessionRow, Table.find?_updateWhere, found, Option.map_some]
    refine ⟨_, rfl, ?_⟩
    split
    · exact .inr rfl
    · exact .inl rfl
  case cleanupExpiredAuth => exact absurd rfl kept
  case rotateRefreshTokenTx =>
    refine ⟨row, ?_, .inl rfl⟩
    simp only [effect]
    split <;> exact found
  all_goals exact ⟨row, found, .inl rfl⟩

end DbCommand

/-- The row of a session is in the table and revoked. -/
def SessionRevoked (sessionId : String) (world : World) : Prop :=
  ∃ row, world.db.sessions.find? sessionId = some row ∧ row.revoked = true

def SessionPresent (sessionId : String) (world : World) : Prop :=
  ∃ row, world.db.sessions.find? sessionId = some row

instance (sessionId : String) (world : World) : Decidable (SessionRevoked sessionId world) :=
  decidable_of_iff ((world.db.sessions.find? sessionId).any (·.revoked) = true)
    (by simp [SessionRevoked, Option.any_eq_true])

instance (sessionId : String) (world : World) : Decidable (SessionPresent sessionId world) :=
  decidable_of_iff ((world.db.sessions.find? sessionId).isSome = true)
    (by simp [SessionPresent, Option.isSome_iff_exists])

theorem Command.effect_session (command : Command) (world : World) {sessionId : String}
    {row : DbSession} (kept : command ≠ .db .cleanupExpiredAuth)
    (found : world.db.sessions.find? sessionId = some row) :
    ∃ after, (command.effect world).db.sessions.find? sessionId = some after ∧
      (after = row ∨ after = { row with revoked := true }) := by
  cases command with
  | now => exact ⟨row, found, .inl rfl⟩
  | http => exact ⟨row, found, .inl rfl⟩
  | redis command => exact ⟨row, by simpa [effect] using found, .inl rfl⟩
  | db command => exact command.effect_session world (fun same => kept (by rw [same])) found

theorem SessionRevoked.effect {sessionId : String} {world : World}
    (revoked : SessionRevoked sessionId world) {command : Command}
    (kept : command ≠ .db .cleanupExpiredAuth) : SessionRevoked sessionId (command.effect world) := by
  obtain ⟨row, found, marked⟩ := revoked
  obtain ⟨after, stored, rfl | rfl⟩ := command.effect_session world kept found
  · exact ⟨after, stored, marked⟩
  · exact ⟨_, stored, rfl⟩

theorem SessionPresent.effect {sessionId : String} {world : World}
    (present : SessionPresent sessionId world) {command : Command}
    (kept : command ≠ .db .cleanupExpiredAuth) : SessionPresent sessionId (command.effect world) := by
  obtain ⟨row, found⟩ := present
  obtain ⟨after, stored, _⟩ := command.effect_session world kept found
  exact ⟨after, stored⟩

namespace DbCommand

/-- What a statement can do to a refresh token row, the cleanup job apart. -/
theorem effect_token (command : DbCommand) (world : World) {tokenHash : String}
    {row : DbRefreshToken} (kept : command ≠ .cleanupExpiredAuth)
    (found : world.db.refreshTokens.find? tokenHash = some row) :
    ∃ after, (command.effect world).refreshTokens.find? tokenHash = some after ∧
      (after = row ∨ after = { row with revoked := true } ∨
        ∃ newHash userId deviceId expiresAt nowSecs,
          command = .rotateRefreshTokenTx tokenHash newHash userId deviceId expiresAt nowSecs ∧
          row.revoked = false ∧ after = { row with revoked := true, rotatedTo := some newHash }) := by
  have marked (condition : DbRefreshToken → Bool) :
      ∃ after, (revokeTokensWhere world.db.refreshTokens condition).find? tokenHash = some after ∧
        (after = row ∨ after = { row with revoked := true }) := by
    simp only [revokeTokensWhere, Table.find?_updateWhere, found, Option.map_some]
    refine ⟨_, rfl, ?_⟩
    split
    · exact .inr rfl
    · exact .inl rfl
  have sameHash : row.tokenHash = tokenHash := world.db.refreshTokens.find?_key found
  cases command
  case insertRefreshToken record =>
    refine ⟨row, ?_, .inl rfl⟩
    simp only [effect, Table.find?_insertNew, found, Option.getD_some, ite_self]
  case rotateRefreshTokenTx oldHash newHash userId deviceId expiresAt nowSecs =>
    simp only [effect]
    split
    · simp only [rotateTokens, Table.find?_insertNew, Table.find?_updateWhere, found,
        Option.map_some, Option.getD_some, ite_self]
      refine ⟨_, rfl, ?_⟩
      split
      · rename_i consumed
        simp only [rotatable, Bool.and_eq_true, beq_iff_eq, Bool.not_eq_true'] at consumed
        obtain ⟨⟨rfl, live⟩, _⟩ := consumed
        exact .inr (.inr ⟨newHash, userId, deviceId, expiresAt, nowSecs, by rw [sameHash], live, rfl⟩)
      · exact .inl rfl
    · exact ⟨row, found, .inl rfl⟩
  case revokeRefreshToken target =>
    obtain ⟨after, stored, same⟩ := marked fun row => row.tokenHash == target
    exact ⟨after, stored, same.imp id .inl⟩
  case revokeAllRefreshTokensForDevice userId =>
    obtain ⟨after, stored, same⟩ := marked fun row => row.userId == userId
    exact ⟨after, stored, same.imp id .inl⟩
  case cleanupExpiredAuth => exact absurd rfl kept
  all_goals exact ⟨row, found, .inl rfl⟩

/-- A refresh token row that was not there comes from one of the two INSERTs. -/
theorem effect_token_new (command : DbCommand) (world : World) {tokenHash : String}
    {row : DbRefreshToken} (absent : world.db.refreshTokens.find? tokenHash = none)
    (stored : (command.effect world).refreshTokens.find? tokenHash = some row) :
    (∃ record, command = .insertRefreshToken record ∧ record.tokenHash = tokenHash ∧
      row = { record with revoked := false, rotatedTo := none }) ∨
    ∃ oldHash userId deviceId expiresAt nowSecs,
      command = .rotateRefreshTokenTx oldHash tokenHash userId deviceId expiresAt nowSecs ∧
      row = ⟨tokenHash, userId, deviceId, expiresAt, false, none⟩ := by
  cases command
  case insertRefreshToken record =>
    simp only [effect, Table.find?_insertNew, absent, Option.getD_none] at stored
    split at stored
    · rename_i same
      exact .inl ⟨record, rfl, same, (Option.some.inj stored).symm⟩
    · cases stored
  case rotateRefreshTokenTx oldHash newHash userId deviceId expiresAt nowSecs =>
    simp only [effect] at stored
    split at stored
    · simp only [rotateTokens, Table.find?_insertNew, Table.find?_updateWhere, absent,
        Option.map_none, Option.getD_none] at stored
      split at stored
      · rename_i same
        subst newHash
        exact .inr ⟨oldHash, userId, deviceId, expiresAt, nowSecs, rfl,
          (Option.some.inj stored).symm⟩
      · cases stored
    · rw [absent] at stored
      cases stored
  all_goals simp [effect, revokeTokensWhere, absent] at stored

end DbCommand

/-- The row of a refresh token is in the table and revoked. -/
def TokenRevoked (tokenHash : String) (world : World) : Prop :=
  ∃ row, world.db.refreshTokens.find? tokenHash = some row ∧ row.revoked = true

def TokenPresent (tokenHash : String) (world : World) : Prop :=
  ∃ row, world.db.refreshTokens.find? tokenHash = some row

instance (tokenHash : String) (world : World) : Decidable (TokenRevoked tokenHash world) :=
  decidable_of_iff ((world.db.refreshTokens.find? tokenHash).any (·.revoked) = true)
    (by simp [TokenRevoked, Option.any_eq_true])

instance (tokenHash : String) (world : World) : Decidable (TokenPresent tokenHash world) :=
  decidable_of_iff ((world.db.refreshTokens.find? tokenHash).isSome = true)
    (by simp [TokenPresent, Option.isSome_iff_exists])

/-- A present row stays present, and a revoked one revoked, but for the cleanup job. -/
theorem Command.effect_token (command : Command) (world : World) {tokenHash : String}
    {row : DbRefreshToken} (kept : command ≠ .db .cleanupExpiredAuth)
    (found : world.db.refreshTokens.find? tokenHash = some row) :
    ∃ after, (command.effect world).db.refreshTokens.find? tokenHash = some after ∧
      (row.revoked = true → after.revoked = true) := by
  cases command with
  | now => exact ⟨row, found, id⟩
  | http => exact ⟨row, found, id⟩
  | redis command => exact ⟨row, by simpa [effect] using found, id⟩
  | db command =>
    obtain ⟨after, stored, change⟩ :=
      command.effect_token world (fun same => kept (by rw [same])) found
    refine ⟨after, stored, fun marked => ?_⟩
    obtain rfl | rfl | ⟨_, _, _, _, _, _, _, rfl⟩ := change
    · exact marked
    · rfl
    · rfl

theorem TokenRevoked.effect {tokenHash : String} {world : World}
    (revoked : TokenRevoked tokenHash world) {command : Command}
    (kept : command ≠ .db .cleanupExpiredAuth) : TokenRevoked tokenHash (command.effect world) := by
  obtain ⟨row, found, marked⟩ := revoked
  obtain ⟨after, stored, still⟩ := command.effect_token world kept found
  exact ⟨after, stored, still marked⟩

theorem TokenPresent.effect {tokenHash : String} {world : World}
    (present : TokenPresent tokenHash world) {command : Command}
    (kept : command ≠ .db .cleanupExpiredAuth) : TokenPresent tokenHash (command.effect world) := by
  obtain ⟨row, found⟩ := present
  obtain ⟨after, stored, _⟩ := command.effect_token world kept found
  exact ⟨after, stored⟩

/-- The cleanup job deletes a row or leaves it as it is. -/
theorem cleanup_token (world : World) (tokenHash : String) :
    (DbCommand.cleanupExpiredAuth.effect world).refreshTokens.find? tokenHash =
      (world.db.refreshTokens.find? tokenHash).filter
        fun row => !decide (row.expiresAt < world.pgEpoch) := by
  simp [DbCommand.effect]

section

variable {oldHash newHash userId deviceId : String} {expiresAt nowSecs : Int}
variable {outcome : Outcome} {world : World} {row : DbRefreshToken}

/-- A transaction that returns a row succeeded on a live row. -/
theorem rotateTx_answered
    (answered : (Command.exec outcome
      (.db (.rotateRefreshTokenTx oldHash newHash userId deviceId expiresAt nowSecs)) world).1 =
        .ok (some row)) :
    outcome = .success ∧ DbCommand.rotationGate world.db oldHash nowSecs = true ∧
      row = ⟨newHash, userId, deviceId, expiresAt, false, none⟩ := by
  cases outcome with
  | lost detail => cases answered
  | applied detail => cases answered
  | success =>
    simp only [Command.exec, Command.answer, DbCommand.answer, Except.ok.injEq] at answered
    split at answered
    · rename_i gate
      exact ⟨rfl, gate, (Option.some.inj answered).symm⟩
    · cases answered

theorem rotationGate_row (gate : DbCommand.rotationGate world.db oldHash nowSecs = true) :
    ∃ stored, world.db.refreshTokens.find? oldHash = some stored ∧ stored.revoked = false ∧
      nowSecs < stored.expiresAt := by
  obtain ⟨stored, found, live⟩ := (Option.any_eq_true _ _).mp gate
  simp only [DbCommand.rotatable, Bool.and_eq_true, Bool.not_eq_true', decide_eq_true_eq] at live
  exact ⟨stored, found, live.1.2, live.2⟩

/-- Behind an open gate the transaction revokes the row. -/
theorem rotateTx_revokes (gate : DbCommand.rotationGate world.db oldHash nowSecs = true) :
    TokenRevoked oldHash
      (Command.effect (.db (.rotateRefreshTokenTx oldHash newHash userId deviceId expiresAt nowSecs))
        world) := by
  obtain ⟨stored, found, live⟩ := (Option.any_eq_true _ _).mp gate
  simp [TokenRevoked, Command.effect, DbCommand.effect, gate, DbCommand.rotateTokens, found, live]

end

end BrainMate.Gateway
