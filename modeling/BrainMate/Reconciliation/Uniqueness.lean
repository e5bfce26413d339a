import BrainMate.Reconciliation.Stages

namespace BrainMate.Reconciliation.Uniqueness

open Interleaving System Gateway Stage

/-- The command is answered, and not with an error of Redis. -/
def answered : (command : Command) → command.Reply → Bool
  | .redis _, reply => reply.isOk
  | .now, _ | .db _, _ | .http, _ => true

/-- The command sets an idempotency key with SETEX that is set already. -/
def overwrites (world : World) : Command → Bool
  | .redis (.setEx (.reconciliationIdem id) _ _) => (world.lookup (.reconciliationIdem id)).isSome
  | _ => false

/-- No Redis command fails. The database and the gateway may, and clients may stop. -/
def noRedisFailure (config : queue.Config) : queue.Move → Bool
  | .act (.step client outcome) =>
    match (config.threads client).next? with
    | some (.redis command) => outcome == .success &&
        answered (.redis command) (Command.exec outcome (.redis command) config.world).1
    | _ => true
  | .act (.start _ _) | .act (.environment _) | .crash _ => true

/-- No idempotency key expires or is written by anybody else. -/
def noKeyExpiry (config : queue.Config) : queue.Move → Prop
  | .act (.environment event) => ∀ id,
      (environment event config.world).lookup (.reconciliationIdem id) =
        config.world.lookup (.reconciliationIdem id)
  | _ => True

/-- No SETEX of `enqueueReconciliation` finds the key set since its EXISTS. -/
def uninterrupted (config : queue.Config) : queue.Move → Bool
  | .act (.step client _) =>
    match (config.threads client).next? with
    | some command => !overwrites config.world command
    | none => true
  | .act (.start _ _) | .act (.environment _) | .crash _ => true

inductive Spot where
  | pending (member : QueueMember)
  | client (client : Nat)

/-- Whatever goes by an id is at the one spot of the id, and the key is set. -/
structure Guarded (stages : Nat → Stage) (world : World) (spot : String → Spot) : Prop where
  pending : ∀ member ∈ world.members .reconciliationPending, ∃ entry encoding,
    member = .entry entry encoding ∧ spot entry.id = .pending member ∧
      world.lookup (.reconciliationIdem entry.id) ≠ none
  clients : ∀ client id, stages client = .announced id ∨ stages client = .holds id →
    spot id = .client client ∧ world.lookup (.reconciliationIdem id) ≠ none
  straight : ∀ client, stages client ≠ .stray

section

variable {stages : Nat → Stage} {world later : World} {spot : String → Spot} {client : Nat}
variable {id : String} {stage : Stage}

theorem straight_update (straight : ∀ client, stages client ≠ .stray) (new : stage ≠ .stray)
    (holder : Nat) : Function.update stages client stage holder ≠ .stray := by
  by_cases own : holder = client
  · subst own
    rwa [Function.update_self]
  · rw [Function.update_of_ne own]
    exact straight holder

/-- A client that vouches for nothing, before and after, may go on; the queue may shrink. -/
theorem Guarded.quiet (guarded : Guarded stages world spot)
    (fewer : ∀ member ∈ later.members .reconciliationPending,
      member ∈ world.members .reconciliationPending)
    (keys : ∀ id, later.lookup (.reconciliationIdem id) = world.lookup (.reconciliationIdem id))
    (vouches : ∀ id, stage = .announced id ∨ stage = .holds id → stage = stages client)
    (straight : stage ≠ .stray) : Guarded (Function.update stages client stage) later spot := by
  refine ⟨fun member present => ?_, fun holder id here => ?_, fun holder => ?_⟩
  · obtain ⟨entry, encoding, same, here, exists_⟩ := guarded.pending member (fewer member present)
    exact ⟨entry, encoding, same, here, by rwa [keys]⟩
  · rw [keys]
    by_cases own : holder = client
    · subst own
      rw [Function.update_self] at here
      rw [vouches id here] at here
      exact guarded.clients holder id here
    · rw [Function.update_of_ne own] at here
      exact guarded.clients holder id here
  · exact straight_update guarded.straight straight holder

/-- While the key is not set, nothing goes by the id. -/
theorem Guarded.apart (guarded : Guarded stages world spot)
    (absent : world.lookup (.reconciliationIdem id) = none) :
    (∀ member ∈ world.members .reconciliationPending, ∀ entry encoding,
      member = .entry entry encoding → entry.id ≠ id) ∧
    ∀ client other, stages client = .announced other ∨ stages client = .holds other → other ≠ id := by
  constructor
  · rintro member present entry encoding rfl rfl
    obtain ⟨_, _, ⟨⟩, _, exists_⟩ := guarded.pending _ present
    exact exists_ absent
  · rintro client other here rfl
    exact (guarded.clients client other here).2 absent

/-- A client sets a key that was not set. -/
theorem Guarded.announce (guarded : Guarded stages world spot)
    (absent : world.lookup (.reconciliationIdem id) = none)
    (members : later.members .reconciliationPending = world.members .reconciliationPending)
    (set : later.lookup (.reconciliationIdem id) ≠ none)
    (keys : ∀ other, other ≠ id →
      later.lookup (.reconciliationIdem other) = world.lookup (.reconciliationIdem other)) :
    Guarded (Function.update stages client (.announced id)) later
      (Function.update spot id (.client client)) := by
  obtain ⟨apartPending, apartClients⟩ := guarded.apart absent
  refine ⟨fun member present => ?_, fun holder other here => ?_, fun holder => ?_⟩
  · rw [members] at present
    obtain ⟨entry, encoding, same, here, exists_⟩ := guarded.pending member present
    have different := apartPending member present entry encoding same
    exact ⟨entry, encoding, same, (Function.update_of_ne different _ _).trans here,
      by rwa [keys _ different]⟩
  · by_cases own : holder = client
    · subst own
      rw [Function.update_self] at here
      rcases here with ⟨⟨⟩⟩ | ⟨⟨⟩⟩
      exact ⟨Function.update_self _ _ _, set⟩
    · rw [Function.update_of_ne own] at here
      have different := apartClients holder other here
      obtain ⟨there, exists_⟩ := guarded.clients holder other here
      exact ⟨(Function.update_of_ne different _ _).trans there, by rwa [keys _ different]⟩
  · refine straight_update guarded.straight ?_ holder
    nofun

/-- The client that goes by an id hands it on to the queue. -/
theorem Guarded.add (guarded : Guarded stages world spot) {entry : QueueEntry} {encoding : Encoding}
    (mine : stages client = .announced entry.id ∨ stages client = .holds entry.id)
    (members : ∀ member ∈ later.members .reconciliationPending,
      member ∈ world.members .reconciliationPending ∨ member = .entry entry encoding)
    (keys : ∀ id, later.lookup (.reconciliationIdem id) = world.lookup (.reconciliationIdem id)) :
    Guarded (Function.update stages client .free) later
      (Function.update spot entry.id (.pending (.entry entry encoding))) := by
  obtain ⟨here, exists_⟩ := guarded.clients client entry.id mine
  refine ⟨fun member present => ?_, fun holder other there => ?_, fun holder => ?_⟩
  · rcases members member present with before | rfl
    · obtain ⟨source, form, same, place, set⟩ := guarded.pending member before
      have different : source.id ≠ entry.id := by
        intro equal
        rw [equal, here] at place
        cases place
      exact ⟨source, form, same, (Function.update_of_ne different _ _).trans place, by rwa [keys]⟩
    · exact ⟨entry, encoding, rfl, Function.update_self _ _ _, by rwa [keys]⟩
  · by_cases own : holder = client
    · subst own
      rw [Function.update_self] at there
      rcases there with ⟨⟨⟩⟩ | ⟨⟨⟩⟩
    · rw [Function.update_of_ne own] at there
      obtain ⟨place, set⟩ := guarded.clients holder other there
      have different : other ≠ entry.id := by
        rintro rfl
        exact own (Spot.client.inj (place.symm.trans here))
      exact ⟨(Function.update_of_ne different _ _).trans place, by rwa [keys]⟩
  · refine straight_update guarded.straight ?_ holder
    nofun

/-- A worker takes an entry out of the queue. -/
theorem Guarded.claim (guarded : Guarded stages world spot) {entry : QueueEntry}
    {encoding : Encoding} (present : .entry entry encoding ∈ world.members .reconciliationPending)
    (members : ∀ member ∈ later.members .reconciliationPending,
      member ∈ world.members .reconciliationPending ∧ member ≠ .entry entry encoding)
    (keys : ∀ id, later.lookup (.reconciliationIdem id) = world.lookup (.reconciliationIdem id)) :
    Guarded (Function.update stages client (.holds entry.id)) later
      (Function.update spot entry.id (.client client)) := by
  obtain ⟨_, _, ⟨⟩, here, exists_⟩ := guarded.pending _ present
  refine ⟨fun member stays => ?_, fun holder other there => ?_, fun holder => ?_⟩
  · obtain ⟨before, distinct⟩ := members member stays
    obtain ⟨source, form, same, place, set⟩ := guarded.pending member before
    have different : source.id ≠ entry.id := by
      intro equal
      rw [equal, here] at place
      exact distinct (Spot.pending.inj place).symm
    exact ⟨source, form, same, (Function.update_of_ne different _ _).trans place, by rwa [keys]⟩
  · by_cases own : holder = client
    · subst own
      rw [Function.update_self] at there
      rcases there with ⟨⟨⟩⟩ | ⟨⟨⟩⟩
      exact ⟨Function.update_self _ _ _, by rwa [keys]⟩
    · rw [Function.update_of_ne own] at there
      obtain ⟨place, set⟩ := guarded.clients holder other there
      have different : other ≠ entry.id := by
        rintro rfl
        cases place.symm.trans here
      exact ⟨(Function.update_of_ne different _ _).trans place, by rwa [keys]⟩
  · refine straight_update guarded.straight ?_ holder
    nofun

/-- The worker that goes by an id deletes the key and is done with it. -/
theorem Guarded.forget (guarded : Guarded stages world spot) (mine : stages client = .holds id)
    (members : later.members .reconciliationPending = world.members .reconciliationPending)
    (keys : ∀ other, other ≠ id →
      later.lookup (.reconciliationIdem other) = world.lookup (.reconciliationIdem other)) :
    Guarded (Function.update stages client .free) later spot := by
  obtain ⟨here, _⟩ := guarded.clients client id (.inr mine)
  refine ⟨fun member present => ?_, fun holder other there => ?_, fun holder => ?_⟩
  · rw [members] at present
    obtain ⟨entry, encoding, same, place, exists_⟩ := guarded.pending member present
    have different : entry.id ≠ id := by
      rintro rfl
      cases place.symm.trans here
    exact ⟨entry, encoding, same, place, by rwa [keys _ different]⟩
  · by_cases own : holder = client
    · subst own
      rw [Function.update_self] at there
      rcases there with ⟨⟨⟩⟩ | ⟨⟨⟩⟩
    · rw [Function.update_of_ne own] at there
      obtain ⟨place, set⟩ := guarded.clients holder other there
      have different : other ≠ id := by
        rintro rfl
        exact own (Spot.client.inj (place.symm.trans here))
      exact ⟨place, by rwa [keys _ different]⟩
  · refine straight_update guarded.straight ?_ holder
    nofun

def Unique (stages : Nat → Stage) (world : World) : Prop := ∃ spot, Guarded stages world spot

private theorem lookup_other (command : RedisCommand) (world : World)
    (other : ∀ id, command.key ≠ .reconciliationIdem id) (id : String) :
    (command.effect world).lookup (.reconciliationIdem id) =
      world.lookup (.reconciliationIdem id) :=
  command.effect_lookup_other world (Ne.symm (other id))

theorem members_other (command : RedisCommand) (world : World)
    (other : .reconciliationPending ≠ command.key) :
    (command.effect world).members .reconciliationPending =
      world.members .reconciliationPending := by
  rw [World.members, scored_congr (command.effect_lookup_other world other), World.members]

theorem Unique.set (unique : Unique stages world) (value : RedisValue) {ttlSecs : Nat}
    (absent : world.lookup (.reconciliationIdem id) = none)
    (accepted : acceptsTtl world.clock ttlSecs = true) :
    Unique (Function.update stages client (.announced id))
      (world.store (.reconciliationIdem id) ⟨value, some (world.clock + ttlSecs * 1000)⟩) := by
  obtain ⟨spot, guarded⟩ := unique
  refine ⟨_, guarded.announce absent ?_ ?_ ?_⟩
  · have same : (world.store (.reconciliationIdem id)
        ⟨value, some (world.clock + ttlSecs * 1000)⟩).lookup .reconciliationPending =
        world.lookup .reconciliationPending := world.lookup_store_other _ _ _ nofun
    rw [World.members, scored_congr same, World.members]
  · rw [World.lookup_stored accepted]
    exact Option.some_ne_none _
  · intro other different
    exact world.lookup_store_other _ _ _ fun same => different (RedisKey.reconciliationIdem.inj same)

/-- A client that stays in its stage while the queue and the keys stay as they are. -/
theorem Unique.stay (unique : Unique stages world)
    (fewer : ∀ member ∈ later.members .reconciliationPending,
      member ∈ world.members .reconciliationPending)
    (keys : ∀ id, later.lookup (.reconciliationIdem id) = world.lookup (.reconciliationIdem id)) :
    Unique (Function.update stages client (stages client)) later := by
  obtain ⟨spot, guarded⟩ := unique
  exact ⟨spot, guarded.quiet fewer keys (fun _ _ => rfl) (guarded.straight client)⟩

theorem Unique.add (unique : Unique stages world) (score : Nat) {entry : QueueEntry}
    (encoding : Encoding)
    (mine : stages client = .announced entry.id ∨ stages client = .holds entry.id) :
    Unique (Function.update stages client .free)
      (RedisCommand.effect (.zadd .reconciliationPending score (.entry entry encoding)) world) := by
  obtain ⟨spot, guarded⟩ := unique
  refine ⟨Function.update spot entry.id (.pending (.entry entry encoding)),
    guarded.add mine (fun member present => ?_) (lookup_other _ world nofun)⟩
  exact ((mem_zadd world _ _ score).mp present).imp_right And.left

theorem Unique.claim (unique : Unique stages world) (member : QueueMember)
    (ok : (RedisCommand.answer (.zrem .reconciliationPending member) world).isOk = true) :
    Unique (Function.update stages client
      (advance (stages client) (.redis (.zrem .reconciliationPending member))
        (RedisCommand.answer (.zrem .reconciliationPending member) world)))
      (RedisCommand.effect (.zrem .reconciliationPending member) world) := by
  have fewer : ∀ other ∈ (RedisCommand.effect (.zrem .reconciliationPending member) world).members
      .reconciliationPending, other ∈ world.members .reconciliationPending ∧ other ≠ member :=
    fun other present => (mem_zrem world _ _).mp present
  have keys := lookup_other (.zrem .reconciliationPending member) world nofun
  by_cases present : member ∈ world.members .reconciliationPending
  · rw [zrem_present world _ _ present]
    obtain ⟨spot, guarded⟩ := unique
    obtain ⟨entry, encoding, rfl, _⟩ := guarded.pending member present
    exact ⟨_, guarded.claim present fewer keys⟩
  · have stays : advance (stages client) (.redis (.zrem .reconciliationPending member))
        (RedisCommand.answer (.zrem .reconciliationPending member) world) = stages client := by
      generalize answered : RedisCommand.answer (.zrem .reconciliationPending member) world = reply
      rcases reply with error | _ | count
      · rw [answered] at ok
        cases ok
      · cases member <;> rfl
      · exact absurd (mem_of_zrem world _ _ answered) present
    rw [stays]
    exact unique.stay (fun other present => (fewer other present).1) keys

theorem Unique.redis (unique : Unique stages world) {command : RedisCommand}
    (allowed : Allowed (stages client) (.redis command))
    (ok : (RedisCommand.answer command world).isOk = true)
    (uninterrupted : overwrites world (.redis command) = false) :
    Unique (Function.update stages client
      (advance (stages client) (.redis command) (RedisCommand.answer command world)))
      (command.effect world) := by
  have straight : stages client ≠ .stray := by
    obtain ⟨spot, guarded⟩ := unique
    exact guarded.straight client
  -- A command that is not answered with an error and vouches for nothing.
  have aside (other : ∀ id, command.key ≠ .reconciliationIdem id)
      (members : (command.effect world).members .reconciliationPending =
        world.members .reconciliationPending)
      (stays : advance (stages client) (.redis command) (RedisCommand.answer command world) =
        stages client) : Unique (Function.update stages client
          (advance (stages client) (.redis command) (RedisCommand.answer command world)))
          (command.effect world) := by
    rw [stays]
    exact unique.stay (fun member present => members ▸ present) (lookup_other command world other)
  obtain ⟨stage, here⟩ : ∃ stage, stages client = stage := ⟨_, rfl⟩
  rw [here] at allowed
  cases allowed with
  | check id =>
    obtain ⟨spot, guarded⟩ := unique
    rw [here]
    simp only [RedisCommand.answer, RedisCommand.effect]
    refine ⟨spot, guarded.quiet (fun _ present => present) (fun _ => rfl) ?_ ?_⟩
    all_goals
      cases (world.lookup (.reconciliationIdem id)).isSome <;> simp [advance]
  | set id value ttlSecs =>
    have absent : world.lookup (.reconciliationIdem id) = none := by
      simpa [overwrites] using uninterrupted
    by_cases accepted : acceptsTtl world.clock ttlSecs = true
    · simp only [RedisCommand.answer, RedisCommand.effect, accepted, ↓reduceIte]
      exact unique.set value absent accepted
    · simp [RedisCommand.answer, accepted, Except.isOk, Except.toBool] at ok
  | setNew id value ttlSecs =>
    by_cases accepted : acceptsTtl world.clock ttlSecs = true
    · cases absent : world.lookup (.reconciliationIdem id) with
      | none =>
        simp only [RedisCommand.answer, RedisCommand.effect, accepted, absent, Option.isNone_none,
          Bool.and_self, ↓reduceIte]
        exact unique.set value absent accepted
      | some present =>
        simp only [RedisCommand.answer, RedisCommand.effect, accepted, absent, Option.isNone_some,
          Bool.and_false, Bool.false_eq_true, ↓reduceIte]
        exact unique.stay (fun _ present => present) fun _ => rfl
    · simp [RedisCommand.answer, accepted, Except.isOk, Except.toBool] at ok
  | add score entry encoding => exact unique.add score encoding (.inl here)
  | claim idle member => exact unique.claim member ok
  | putBack score entry encoding => exact unique.add score encoding (.inr here)
  | forget id =>
    obtain ⟨spot, guarded⟩ := unique
    refine ⟨spot, guarded.forget here (members_other _ world (by rintro ⟨⟩))
      fun other different => ?_⟩
    exact world.lookup_remove_other _ _ fun same => different (RedisKey.reconciliationIdem.inj same)
  | revive score member => exact absurd here straight
  | forgetLate id => exact absurd here straight
  | release idle id =>
    exact aside (by rintro _ ⟨⟩) (members_other _ world (by rintro ⟨⟩)) rfl
  | bury _ score member =>
    refine aside (by rintro _ ⟨⟩) (members_other _ world (by rintro ⟨⟩)) ?_
    generalize RedisCommand.answer (.zadd .reconciliationDlq score member) world = reply at ok
    cases reply with
    | ok count => rfl
    | error error => cases ok
  | prune _ cutoff =>
    refine aside (by rintro _ ⟨⟩) (members_other _ world (by rintro ⟨⟩)) ?_
    generalize RedisCommand.answer (.zremrangeByScore .reconciliationDlq cutoff) world = reply at ok
    cases reply with
    | ok count => rfl
    | error error => cases ok
  | aside apart =>
    obtain ⟨other, reads, _⟩ := id apart
    refine aside other ?_ (advance_apart apart _ _)
    rcases reads with reads | elsewhere
    · rw [RedisCommand.effect_reads reads]
    · refine members_other command world fun own => ?_
      rw [← own] at elsewhere
      cases elsewhere

theorem Unique.event (unique : Unique stages world) {event : Event}
    (keys : ∀ id, (environment event world).lookup (.reconciliationIdem id) =
      world.lookup (.reconciliationIdem id)) : Unique stages (environment event world) := by
  have fewer : ∀ member ∈ (environment event world).members .reconciliationPending,
      member ∈ world.members .reconciliationPending := by
    have shown : (environment event world).lookup .reconciliationPending =
        world.lookup .reconciliationPending ∨
        (environment event world).lookup .reconciliationPending = none := by
      cases event with
      | gateway event => exact environment_lookup event world _
      | elsewhere command =>
        simp only [environment]
        split
        · exact .inl rfl
        · rename_i aside
          apply command.effect_lookup world
          intro writes
          cases command with
          | redis command => exact aside (congrArg isQueue writes.2)
          | _ => exact writes
    intro member present
    rcases shown with same | gone
    · rwa [World.members, scored_congr same] at present
    · simp [World.members, World.scored, gone] at present
  have stayed : Unique (Function.update stages 0 (stages 0)) (environment event world) :=
    unique.stay fewer keys
  rwa [Function.update_eq_self] at stayed

/-- The database and the gateway have nothing to do with the queue. -/
theorem Unique.elsewhere (unique : Unique stages world) {command : Command} {outcome : Outcome}
    (stays : advance (stages client) command (Command.exec outcome command world).1 = stages client)
    (redis : (Command.exec outcome command world).2.redis = world.redis) :
    Unique (watcher.exchange stages client command outcome world)
      (Command.exec outcome command world).2 := by
  have same (key : RedisKey) : (Command.exec outcome command world).2.lookup key =
      world.lookup key := by
    simp only [World.lookup, redis, Command.exec_clock]
  simp only [stays]
  refine unique.stay (fun member present => ?_) fun id => same _
  rwa [World.members, scored_congr (same _)] at present

end

private theorem uniqueness_keeps :
    phases.Keeps (fun _ config move => noRedisFailure config move = true ∧
      noKeyExpiry config move ∧ uninterrupted config move = true) Unique where
  follows _ _ _ call _ := program_follows call
  command stages config client outcome call command rest permitted running allowed unique := by
    obtain ⟨answered, _, alone⟩ := permitted
    simp only [uninterrupted, running, Thread.next?, Bool.not_eq_true'] at alone
    cases command with
    | redis command =>
      simp only [noRedisFailure, running, Thread.next?, Bool.and_eq_true, beq_iff_eq] at answered
      obtain ⟨rfl, ok⟩ := answered
      exact unique.redis allowed ok alone
    | now => exact unique.elsewhere rfl (by cases outcome <;> rfl)
    | db command => exact unique.elsewhere rfl (by cases outcome <;> rfl)
    | http => exact unique.elsewhere rfl (by cases outcome <;> rfl)
  event _ _ _ permitted unique := unique.event permitted.2.1
  crash stages config client _ unique := by
    obtain ⟨spot, guarded⟩ := unique
    refine ⟨spot, guarded.quiet (fun _ present => present) (fun _ => rfl) ?_ ?_⟩
    · rintro _ (⟨⟨⟩⟩ | ⟨⟨⟩⟩)
    · rintro ⟨⟩

/-- In a run without Redis failures and without key expiry on a queue that was empty: as
long as no SETEX of `enqueueReconciliation` finds a key that was set after its EXISTS,
no two pending entries have the same id. -/
theorem pending_unique_of_uninterrupted {world : World} {moves : List queue.Move}
    {stages : Nat → Stage} {last : queue.Config}
    (empty : world.members .reconciliationPending = [])
    (run : Watched watcher (fun _ config move => noRedisFailure config move = true ∧
      noKeyExpiry config move ∧ uninterrupted config move = true) (fun _ => .free) (.initial world)
      moves stages last)
    {first second : QueueEntry} {form shape : Encoding}
    (one : .entry first form ∈ last.world.members .reconciliationPending)
    (other : .entry second shape ∈ last.world.members .reconciliationPending)
    (same : first.id = second.id) : QueueMember.entry first form = .entry second shape := by
  have initially : Unique (fun _ => .free) world := by
    refine ⟨fun _ => .client 0, ?_, nofun, nofun⟩
    rw [empty]
    nofun
  obtain ⟨spot, guarded⟩ := uniqueness_keeps.run run (fun _ => rfl) initially
  obtain ⟨_, _, ⟨⟩, here, _⟩ := guarded.pending _ one
  obtain ⟨_, _, ⟨⟩, there, _⟩ := guarded.pending _ other
  rw [same] at here
  exact Spot.pending.inj (here.symm.trans there)

def times (count client : Nat) : List queue.Move :=
  List.replicate count (.act (.step client Outcome.success))

/-- Nothing happens but the steps of the clients. -/
def undisturbed : queue.Move → Bool
  | .act (.environment _) => false
  | _ => true

private theorem noKeyExpiry_of_undisturbed {config : queue.Config} {move : queue.Move}
    (quiet : undisturbed move = true) : noKeyExpiry config move := by
  rcases move with (_ | _ | _) | _
  · trivial
  · trivial
  · cases quiet
  · trivial

/-- An entry is put back after its database failed; an `enqueueReconciliation` for the same
operation comes meanwhile. -/
def retried : List queue.Move :=
  .act (.start 0 (.enqueue (.tokenRevocation "jti_1" 60))) :: times 4 0 ++
  .act (.start 1 (.processBatch ⟨Sample.sha256Hex, true, 86400, 5, "worker:1"⟩)) :: times 6 1 ++
  .act (.step 1 (Outcome.lost "connection refused")) ::
  .act (.start 2 (.enqueueReconciliation true none none (.tokenRevocation "jti_1" 60))) :: times 4 2 ++
  times 3 1

/-- Both calls ask for the key before either sets it. -/
def raced : List queue.Move :=
  .act (.start 0 (.enqueueReconciliation true (some "00-a") none (.tokenRevocation "jti_1" 60))) ::
  .act (.start 1 (.enqueueReconciliation true (some "00-b") none (.tokenRevocation "jti_1" 60))) ::
  times 4 0 ++ times 4 1 ++ times 3 0 ++ times 3 1

theorem retried_unique :
    ∃ stages last, Watched watcher (fun _ config move => noRedisFailure config move = true ∧
        noKeyExpiry config move ∧ uninterrupted config move = true) (fun _ => .free)
        (.initial (World.empty 1000000)) retried stages last ∧
      last.world.members .reconciliationPending ≠ [] ∧
      ∀ first form second shape,
        .entry first form ∈ last.world.members .reconciliationPending →
        .entry second shape ∈ last.world.members .reconciliationPending →
        first.id = second.id → QueueMember.entry first form = .entry second shape := by
  obtain ⟨stages, last, run, checked⟩ := Watched.of_check watcher
    (fun _ config move => noRedisFailure config move = true ∧ undisturbed move = true ∧
      uninterrupted config move = true) (fun _ => .free) (.initial (World.empty 1000000)) retried
    (fun _ config => !(config.world.members .reconciliationPending).isEmpty)
    (by decide +kernel)
  have calm : Watched watcher (fun _ config move => noRedisFailure config move = true ∧
      noKeyExpiry config move ∧ uninterrupted config move = true) (fun _ => .free)
      (.initial (World.empty 1000000)) retried stages last := by
    refine run.imp ?_
    rintro _ config move ⟨answered, quiet, alone⟩
    exact ⟨answered, noKeyExpiry_of_undisturbed quiet, alone⟩
  refine ⟨stages, last, calm, by simpa using checked, ?_⟩
  intro first form second shape one other same
  exact pending_unique_of_uninterrupted rfl calm one other same

/-- The later of the two finds the key set and sets it again. -/
theorem raced_twice :
    ∃ stages last, Watched watcher (fun _ config move => noRedisFailure config move = true ∧
        noKeyExpiry config move) (fun _ => .free) (.initial (World.empty 1000000)) raced stages
        last ∧
      ∃ first form second shape,
        .entry first form ∈ last.world.members .reconciliationPending ∧
        .entry second shape ∈ last.world.members .reconciliationPending ∧
        first.id = second.id ∧ QueueMember.entry first form ≠ .entry second shape := by
  let entry : QueueEntry :=
    ⟨"revoke:jti_1", .tokenRevocation "jti_1" 60, 0, 5, 1000000, none⟩
  obtain ⟨stages, last, run, checked⟩ := Watched.of_check watcher
    (fun _ config move => noRedisFailure config move = true ∧ undisturbed move = true)
    (fun _ => .free) (.initial (World.empty 1000000)) raced
    (fun _ config =>
      (config.world.members .reconciliationPending).contains
        (.entry entry (.stringify (some "00-a") none)) &&
      (config.world.members .reconciliationPending).contains
        (.entry entry (.stringify (some "00-b") none)))
    (by decide +kernel)
  simp only [Bool.and_eq_true, List.contains_iff_mem] at checked
  refine ⟨stages, last, run.imp ?_, entry, _, entry, _, checked.1, checked.2, rfl, by decide⟩
  rintro _ config move ⟨answered, quiet⟩
  exact ⟨answered, noKeyExpiry_of_undisturbed quiet⟩

end BrainMate.Reconciliation.Uniqueness
