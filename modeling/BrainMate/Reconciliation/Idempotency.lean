import BrainMate.Reconciliation.Stages

namespace BrainMate.Reconciliation.Idempotency

open Interleaving System Gateway Stage

/-- An entry with the id is pending, or in the hands of a worker that removed it and has
neither put it back nor deleted the key. -/
def Told (stages : Nat → Stage) (world : World) (id : String) : Prop :=
  (∃ entry encoding, .entry entry encoding ∈ world.members .reconciliationPending ∧ entry.id = id) ∨
  ∃ client, stages client = .holds id

/-- Redis does not drop the queues, and nobody else sets idempotency keys. -/
def ofProtocol : queue.Move → Bool
  | .act (.environment (.gateway (.evict key))) => !isQueue key
  | .act (.environment (.elsewhere (.redis command))) =>
    match command.key with
    | .reconciliationIdem _ => false
    | _ => true
  | _ => true

/-- The client has set a key or removed an entry, and is not done with it. -/
def busy : Stage → Bool
  | .announced _ | .holds _ => true
  | .free | .checked _ | .stray => false

/-- The command leaves a key behind that no entry goes with: a SET takes effect and is
answered with an error, an entry is removed without its worker being told, or what a
client has yet to write or delete is not written or deleted. -/
def strands (stage : Stage) (outcome : Outcome) (world : World) : Command → Bool
  | .redis (.setEx (.reconciliationIdem _) _ _) => outcome.takesEffect && outcome != .success
  | .redis (.zrem .reconciliationPending member) =>
    outcome.takesEffect && outcome != .success &&
      (world.members .reconciliationPending).contains member
  | .redis (.zadd .reconciliationPending _ _) | .redis (.delete (.reconciliationIdem _)) =>
    busy stage && !outcome.takesEffect
  | .redis (.zadd .reconciliationDlq _ _) | .redis (.zremrangeByScore .reconciliationDlq _) =>
    busy stage && outcome != .success
  | _ => false

/-- No client stops while it is busy, and none of its commands leaves a key behind. -/
def careful (stages : Nat → Stage) (config : queue.Config) : queue.Move → Bool
  | .act (.step client outcome) =>
    match (config.threads client).next? with
    | some command => !strands (stages client) outcome config.world command
    | none => true
  | .crash client => !busy (stages client)
  | .act (.start _ _) | .act (.environment _) => true

theorem busy_of_vouches {stage : Stage} {id : String}
    (vouches : stage = .announced id ∨ stage = .holds id) : busy stage = true := by
  rcases vouches with rfl | rfl <;> rfl

private theorem not_busy_of_idle {stage : Stage} (idle : stage.idle = true) :
    busy stage = false := by
  cases stage <;> first | rfl | cases idle

/-- Besides the two ways in which the key tells the truth, an enqueuing call may stand
between setting the key and adding the entry. -/
def Founded (stages : Nat → Stage) (world : World) (id : String) : Prop :=
  Told stages world id ∨ ∃ client, stages client = .announced id

structure Truthful (stages : Nat → Stage) (world : World) : Prop where
  pending : world.Intact .reconciliationPending
  dead : world.Intact .reconciliationDlq
  founded : ∀ id, world.lookup (.reconciliationIdem id) ≠ none → Founded stages world id

section

variable {stages : Nat → Stage} {world later : World} {client : Nat} {outcome : Outcome}
variable {id : String} {stage : Stage}

/-- A client that stays in its stage. -/
theorem Founded.stay (founded : Founded stages world id)
    (kept : ∀ member ∈ world.members .reconciliationPending,
      member ∈ later.members .reconciliationPending) : Founded stages later id := by
  rcases founded with (⟨entry, encoding, present, same⟩ | held) | announced
  · exact .inl (.inl ⟨entry, encoding, kept _ present, same⟩)
  · exact .inl (.inr held)
  · exact .inr announced

/-- What a client has to see to when it goes on to another stage: it vouches for a key it
set, for an entry it removed, and does not forget what it vouched for. -/
theorem Truthful.step (truthful : Truthful stages world)
    (pending : later.Intact .reconciliationPending) (dead : later.Intact .reconciliationDlq)
    (keys : ∀ id, later.lookup (.reconciliationIdem id) ≠ none →
      world.lookup (.reconciliationIdem id) ≠ none ∨ stage = .announced id)
    (kept : ∀ entry encoding, .entry entry encoding ∈ world.members .reconciliationPending →
      .entry entry encoding ∈ later.members .reconciliationPending ∨ stage = .holds entry.id)
    (own : ∀ id, stages client = .announced id ∨ stages client = .holds id →
      later.lookup (.reconciliationIdem id) ≠ none → stage = stages client ∨
        ∃ entry encoding, .entry entry encoding ∈ later.members .reconciliationPending ∧
          entry.id = id) : Truthful (Function.update stages client stage) later := by
  refine ⟨pending, dead, fun id exists_ => ?_⟩
  rcases keys id exists_ with before | rfl
  · -- The key was there; whoever vouched for it still does, or has done its part.
    have vouched (holder : Nat) (here : stages holder = .announced id ∨ stages holder = .holds id) :
        Function.update stages client stage holder = stages holder ∨
          ∃ entry encoding, .entry entry encoding ∈ later.members .reconciliationPending ∧
            entry.id = id := by
      by_cases mine : holder = client
      · subst mine
        rw [Function.update_self]
        exact own id here exists_
      · exact .inl (Function.update_of_ne mine _ _)
    rcases truthful.founded id before with
      (⟨entry, encoding, present, rfl⟩ | ⟨holder, here⟩) | ⟨holder, here⟩
    · rcases kept entry encoding present with stays | rfl
      · exact .inl (.inl ⟨entry, encoding, stays, rfl⟩)
      · exact .inl (.inr ⟨client, Function.update_self _ _ _⟩)
    · rcases vouched holder (.inr here) with same | done
      · exact .inl (.inr ⟨holder, same.trans here⟩)
      · exact .inl (.inl done)
    · rcases vouched holder (.inl here) with same | done
      · exact .inr ⟨holder, same.trans here⟩
      · exact .inl (.inl done)
  · exact .inr ⟨client, Function.update_self _ _ _⟩

/-- Commands and events that keep away from the queues and set no key. -/
theorem Truthful.quiet (truthful : Truthful stages world)
    (pending : later.redis .reconciliationPending = world.redis .reconciliationPending)
    (dead : later.redis .reconciliationDlq = world.redis .reconciliationDlq)
    (keys : ∀ id, later.lookup (.reconciliationIdem id) = world.lookup (.reconciliationIdem id) ∨
      later.lookup (.reconciliationIdem id) = none) : Truthful stages later := by
  refine ⟨truthful.pending.congr pending, truthful.dead.congr dead, fun id exists_ => ?_⟩
  have before : world.lookup (.reconciliationIdem id) ≠ none := by
    rcases keys id with same | gone
    · rwa [← same]
    · exact absurd gone exists_
  apply (truthful.founded id before).stay
  intro member present
  rw [World.members, truthful.pending.scored pending]
  exact present

variable (outcome world) in
/-- Commands for other keys leave the idempotency keys alone. -/
theorem lookup_idem (command : RedisCommand) (other : ∀ id, command.key ≠ .reconciliationIdem id)
    (id : String) : (Command.exec outcome (.redis command) world).2.lookup (.reconciliationIdem id) =
      world.lookup (.reconciliationIdem id) :=
  Command.exec_lookup_other outcome command world (Ne.symm (other id))

variable (outcome world) in
/-- Commands for other keys leave the pending entries alone. -/
theorem members_other (command : RedisCommand) (other : .reconciliationPending ≠ command.key) :
    (Command.exec outcome (.redis command) world).2.members .reconciliationPending =
      world.members .reconciliationPending := by
  rw [World.members, scored_congr (Command.exec_lookup_other outcome command world other),
    World.members]

theorem Truthful.zadd (truthful : Truthful stages world) (score : Nat) (member : QueueMember)
    (covered : ∀ id, stages client = .announced id ∨ stages client = .holds id →
      outcome.takesEffect = true ∧ ∃ entry encoding, member = .entry entry encoding ∧ entry.id = id) :
    Truthful
      (watcher.exchange stages client (.redis (.zadd .reconciliationPending score member)) outcome world)
      (Command.exec outcome (.redis (.zadd .reconciliationPending score member)) world).2 := by
  refine truthful.step (truthful.pending.exec outcome fun _ => rfl)
    (truthful.dead.exec outcome fun _ => rfl) ?_ ?_ ?_
  · intro id exists_
    rw [lookup_idem world outcome (.zadd .reconciliationPending score member) nofun] at exists_
    exact .inl exists_
  · intro entry encoding present
    rcases Command.exec_world outcome (.redis (.zadd .reconciliationPending score member)) world with
      same | same <;> rw [same]
    · exact .inl present
    · exact .inl ((mem_zadd world _ _ score).mpr (.inl present))
  · intro id here _
    obtain ⟨effective, entry, encoding, rfl, same⟩ := covered id here
    rw [Command.exec_effect effective]
    exact .inr ⟨entry, encoding, (mem_zadd world _ _ score).mpr
      (.inr ⟨rfl, truthful.pending.holdsQueue⟩), same⟩

theorem Truthful.zrem (truthful : Truthful stages world) (member : QueueMember)
    (idle : (stages client).idle = true)
    (told : strands (stages client) outcome world
      (.redis (.zrem .reconciliationPending member)) = false) :
    Truthful
      (watcher.exchange stages client (.redis (.zrem .reconciliationPending member)) outcome world)
      (Command.exec outcome (.redis (.zrem .reconciliationPending member)) world).2 := by
  refine truthful.step (truthful.pending.exec outcome fun _ => rfl)
    (truthful.dead.exec outcome fun _ => rfl) ?_ ?_ ?_
  · intro id exists_
    rw [lookup_idem world outcome (.zrem .reconciliationPending member) nofun] at exists_
    exact .inl exists_
  · intro entry encoding present
    by_cases taken : QueueMember.entry entry encoding = member
    · subst taken
      cases outcome with
      | lost detail => exact .inl present
      | applied detail => simp [strands, Outcome.takesEffect, present] at told
      | success =>
        have answered : (Command.exec .success
            (.redis (.zrem .reconciliationPending (.entry entry encoding))) world).1 = .ok 1 :=
          zrem_present world _ _ present
        refine .inr ?_
        rw [answered]
        rfl
    · rcases Command.exec_world outcome (.redis (.zrem .reconciliationPending member)) world with
        same | same <;> rw [same]
      · exact .inl present
      · exact .inl ((mem_zrem world _ _).mpr ⟨present, taken⟩)
  · intro id here
    rcases here with here | here <;> rw [here] at idle <;> cases idle

theorem Truthful.delete (truthful : Truthful stages world) (id : String)
    (own : ∀ other, stages client = .announced other ∨ stages client = .holds other →
      other = id ∧ outcome.takesEffect = true) :
    Truthful
      (watcher.exchange stages client (.redis (.delete (.reconciliationIdem id))) outcome world)
      (Command.exec outcome (.redis (.delete (.reconciliationIdem id))) world).2 := by
  refine truthful.step (truthful.pending.exec outcome nofun) (truthful.dead.exec outcome nofun) ?_ ?_ ?_
  · intro other exists_
    refine .inl ?_
    rcases Command.exec_world outcome (.redis (.delete (.reconciliationIdem id))) world with
      same | same <;> rw [same] at exists_
    · exact exists_
    · by_cases gone : other = id
      · subst gone
        exact absurd (world.lookup_remove_same _) exists_
      · rwa [← world.lookup_remove_other (.reconciliationIdem id) (.reconciliationIdem other)
          fun same => gone (RedisKey.reconciliationIdem.inj same)]
  · intro entry encoding present
    rw [members_other world outcome (.delete (.reconciliationIdem id)) nofun]
    exact .inl present
  · intro other here exists_
    obtain ⟨rfl, effective⟩ := own other here
    rw [Command.exec_effect effective] at exists_
    exact absurd (world.lookup_remove_same _) exists_

/-- A key that a client sets is one that it vouches for. -/
theorem Truthful.set (truthful : Truthful stages world) {command : RedisCommand}
    (key : command.key = .reconciliationIdem id) (idle : busy (stages client) = false)
    (vouches : (Command.exec outcome (.redis command) world).2 = world ∨
      advance (stages client) (.redis command) (Command.exec outcome (.redis command) world).1 =
        .announced id) :
    Truthful (watcher.exchange stages client (.redis command) outcome world)
      (Command.exec outcome (.redis command) world).2 := by
  have apart {queue : RedisKey} (different : ∀ id, queue ≠ .reconciliationIdem id) :
      command.key = queue → command.ofQueue = true :=
    fun same => absurd (same.symm.trans key) (different id)
  refine truthful.step (truthful.pending.exec outcome (apart nofun))
    (truthful.dead.exec outcome (apart nofun)) ?_ ?_ ?_
  · intro other exists_
    by_cases mine : other = id
    · subst mine
      rcases vouches with unchanged | announced
      · rw [unchanged] at exists_
        exact .inl exists_
      · exact .inr announced
    · refine .inl ?_
      rwa [Command.exec_lookup_other outcome command world
        fun same => mine (RedisKey.reconciliationIdem.inj (same.trans key))] at exists_
  · intro entry encoding present
    rw [members_other world outcome command fun same => by rw [key] at same; cases same]
    exact .inl present
  · intro other here
    exact absurd (idle.symm.trans (busy_of_vouches here)) Bool.false_ne_true

/-- A client that keeps away from the queues and the keys, or whose stage is none to
vouch for anything. -/
theorem Truthful.aside (truthful : Truthful stages world) {command : RedisCommand}
    (other : ∀ id, command.key ≠ .reconciliationIdem id)
    (kept : (Command.exec outcome (.redis command) world).2.members .reconciliationPending =
      world.members .reconciliationPending)
    (own : isQueue command.key = true → command.ofQueue = true)
    (stays : busy (stages client) = true →
      advance (stages client) (.redis command) (Command.exec outcome (.redis command) world).1 =
        stages client) :
    Truthful (watcher.exchange stages client (.redis command) outcome world)
      (Command.exec outcome (.redis command) world).2 := by
  refine truthful.step (truthful.pending.exec outcome fun same => own (by rw [same]; rfl))
    (truthful.dead.exec outcome fun same => own (by rw [same]; rfl)) ?_ ?_ ?_
  · intro id exists_
    rw [lookup_idem world outcome command other] at exists_
    exact .inl exists_
  · intro entry encoding present
    rw [kept]
    exact .inl present
  · intro id here _
    refine .inl (stays ?_)
    exact busy_of_vouches here

theorem Truthful.unmoved (truthful : Truthful stages world) {command : Command}
    (stays : advance (stages client) command (Command.exec outcome command world).1 = stages client)
    (redis : (Command.exec outcome command world).2.redis = world.redis) :
    Truthful (watcher.exchange stages client command outcome world)
      (Command.exec outcome command world).2 := by
  simp only [stays, Function.update_eq_self]
  refine truthful.quiet (congrFun redis _) (congrFun redis _) fun id => .inl ?_
  simp only [World.lookup, redis, Command.exec_clock]

/-- The dead letters take what they are given. -/
theorem dlq_answered (dead : world.Intact .reconciliationDlq) (score cutoff : Nat)
    (member : QueueMember) :
    (∃ count, RedisCommand.answer (.zadd .reconciliationDlq score member) world = .ok count) ∧
      ∃ count, RedisCommand.answer (.zremrangeByScore .reconciliationDlq cutoff) world = .ok count := by
  have queue := dead.holdsQueue
  rw [World.holdsQueue] at queue
  simp only [RedisCommand.answer]
  cases found : world.lookup .reconciliationDlq with
  | none => exact ⟨⟨_, rfl⟩, _, rfl⟩
  | some value =>
    rw [found] at queue
    cases value with
    | queue members => exact ⟨⟨_, rfl⟩, _, rfl⟩
    | _ => cases queue

theorem Truthful.command (truthful : Truthful stages world) {command : Command}
    (allowed : Allowed (stages client) command)
    (careful : strands (stages client) outcome world command = false) :
    Truthful (watcher.exchange stages client command outcome world)
      (Command.exec outcome command world).2 := by
  generalize here : stages client = stage at allowed
  cases allowed with
  | check id =>
    exact truthful.set rfl (by rw [here]; rfl) (.inl (Command.exec_reads outcome rfl world))
  | set id value ttlSecs =>
    refine truthful.set rfl (by rw [here]; rfl) ?_
    cases outcome with
    | lost detail => exact .inl rfl
    | applied detail => simp [strands, Outcome.takesEffect] at careful
    | success =>
      by_cases accepted : acceptsTtl world.clock ttlSecs = true
      · refine .inr ?_
        rw [Command.setEx_accepted _ _ accepted]
        rfl
      · refine .inl ?_
        simp [Command.exec, Command.effect, RedisCommand.effect, accepted]
  | setNew id value ttlSecs =>
    refine truthful.set rfl (by rw [here]; rfl) ?_
    cases outcome with
    | lost detail => exact .inl rfl
    | applied detail => exact .inr rfl
    | success =>
      cases absent : (world.lookup (.reconciliationIdem id)).isNone with
      | false =>
        refine .inl ?_
        simp [Command.exec, Command.effect, RedisCommand.effect, absent]
      | true =>
        refine .inr ?_
        rw [Command.setNxEx_success, absent]
        split <;> rfl
  | add score entry encoding =>
    refine truthful.zadd score _ fun id vouches => ?_
    have effective : outcome.takesEffect = true := by simpa [strands, here, busy] using careful
    rw [here] at vouches
    rcases vouches with ⟨⟨⟩⟩ | ⟨⟨⟩⟩
    exact ⟨effective, entry, encoding, rfl, rfl⟩
  | claim idle member => exact truthful.zrem member (here ▸ idle) careful
  | putBack score entry encoding =>
    refine truthful.zadd score _ fun id vouches => ?_
    have effective : outcome.takesEffect = true := by simpa [strands, here, busy] using careful
    rw [here] at vouches
    rcases vouches with ⟨⟨⟩⟩ | ⟨⟨⟩⟩
    exact ⟨effective, entry, encoding, rfl, rfl⟩
  | forget id =>
    refine truthful.delete id fun other vouches => ?_
    have effective : outcome.takesEffect = true := by simpa [strands, here, busy] using careful
    rw [here] at vouches
    rcases vouches with ⟨⟨⟩⟩ | ⟨⟨⟩⟩
    exact ⟨rfl, effective⟩
  | revive score member =>
    refine truthful.zadd score _ fun id vouches => ?_
    have full := busy_of_vouches vouches
    rw [here] at full
    cases full
  | forgetLate id =>
    refine truthful.delete id fun other vouches => ?_
    have full := busy_of_vouches vouches
    rw [here] at full
    cases full
  | release idle id =>
    refine truthful.aside (by rintro _ ⟨⟩) (members_other world outcome _ (by rintro ⟨⟩))
      (by rintro ⟨⟩) fun full => ?_
    rw [here, not_busy_of_idle idle] at full
    cases full
  | bury _ score member =>
    refine truthful.aside (by rintro _ ⟨⟩) (members_other world outcome _ (by rintro ⟨⟩))
      (fun _ => rfl) fun full => ?_
    have success : outcome = .success := by simpa [strands, full] using careful
    subst success
    obtain ⟨count, answered⟩ := (dlq_answered truthful.dead score 0 member).1
    have replied : (Command.exec .success (.redis (.zadd .reconciliationDlq score member)) world).1 =
        .ok count := answered
    rw [replied]
    rfl
  | prune _ cutoff =>
    refine truthful.aside (by rintro _ ⟨⟩) (members_other world outcome _ (by rintro ⟨⟩))
      (fun _ => rfl) fun full => ?_
    have success : outcome = .success := by simpa [strands, full] using careful
    subst success
    obtain ⟨count, answered⟩ := (dlq_answered truthful.dead 0 cutoff (.malformed "")).2
    have replied : (Command.exec .success
        (.redis (.zremrangeByScore .reconciliationDlq cutoff)) world).1 = .ok count := answered
    rw [replied]
    rfl
  | aside apart =>
    have same := advance_apart apart (stages client) (Command.exec outcome command world).1
    cases command with
    | redis command =>
      obtain ⟨other, reads, _⟩ := apart
      refine truthful.aside other ?_ ?_ fun _ => same
      · rcases reads with reads | elsewhere
        · rw [Command.exec_reads outcome reads]
        · refine members_other world outcome command fun own => ?_
          rw [← own] at elsewhere
          cases elsewhere
      · intro own
        rcases reads with reads | elsewhere
        · cases command <;> first | rfl | cases reads
        · exact absurd (elsewhere.symm.trans own) Bool.false_ne_true
    | now => exact truthful.unmoved same (by cases outcome <;> rfl)
    | db command => exact truthful.unmoved same (by cases outcome <;> rfl)
    | http => exact truthful.unmoved same (by cases outcome <;> rfl)

theorem Truthful.event (truthful : Truthful stages world) {event : Event}
    (permitted : ofProtocol (.act (.environment event)) = true) :
    Truthful stages (environment event world) := by
  cases event with
  | gateway event =>
    refine truthful.quiet ?_ ?_ fun id => environment_lookup event world _
    all_goals
      cases event with
      | tick milliseconds => rfl
      | evict key =>
        refine Function.update_of_ne ?_ _ _
        rintro rfl
        simp [ofProtocol, isQueue] at permitted
  | elsewhere command =>
    simp only [environment]
    split
    · exact truthful
    rename_i aside
    cases command with
    | redis command =>
      have elsewhere {key : RedisKey} (own : isQueue key = true) : key ≠ command.key := by
        rintro rfl
        exact aside own
      refine truthful.quiet (command.effect_redis_other world (elsewhere rfl))
        (command.effect_redis_other world (elsewhere rfl)) fun id => .inl ?_
      apply command.effect_lookup_other world
      intro same
      simp [ofProtocol, ← same] at permitted
    | now => exact truthful.quiet rfl rfl fun _ => .inl rfl
    | db command => exact truthful.quiet rfl rfl fun _ => .inl rfl
    | http => exact truthful.quiet rfl rfl fun _ => .inl rfl

theorem Truthful.crash (truthful : Truthful stages world) (idle : busy (stages client) = false) :
    Truthful (Function.update stages client .free) world := by
  refine truthful.step truthful.pending truthful.dead (fun _ => .inl) (fun _ _ => .inl) ?_
  intro id vouches
  exact absurd (idle.symm.trans (busy_of_vouches vouches)) Bool.false_ne_true

end

private theorem idempotency_keeps :
    phases.Keeps (fun stages config move =>
      ofProtocol move = true ∧ careful stages config move = true) Truthful where
  follows _ _ _ call _ := program_follows call
  command stages config client outcome call command rest permitted running allowed truthful := by
    have careful := permitted.2
    simp only [Idempotency.careful, running, Thread.next?, Bool.not_eq_true'] at careful
    exact truthful.command allowed careful
  event _ _ _ permitted truthful := truthful.event permitted.1
  crash stages config client permitted truthful := by
    have careful := permitted.2
    simp only [Idempotency.careful, Bool.not_eq_true'] at careful
    exact truthful.crash careful

/-- In a run in which no client stops while it has set a key or removed an entry and is
not done with it, and in which no command leaves a key behind: after each move, a key
that no enqueuing call is just about to follow up has an entry that is pending or in
the hands of a worker. -/
theorem key_told_of_careful {world : World} {moves : List queue.Move} {stages : Nat → Stage}
    {last : queue.Config} {id : String} (pending : world.Intact .reconciliationPending)
    (dead : world.Intact .reconciliationDlq)
    (fresh : ∀ id, world.lookup (.reconciliationIdem id) = none)
    (run : Watched watcher (fun stages config move =>
      ofProtocol move = true ∧ careful stages config move = true) (fun _ => .free) (.initial world)
      moves stages last)
    (exists_ : last.world.lookup (.reconciliationIdem id) ≠ none)
    (settled : ∀ client, stages client ≠ .announced id) : Told stages last.world id := by
  have truthful := idempotency_keeps.run run (fun _ => rfl)
    ⟨pending, dead, fun id there => absurd (fresh id) there⟩
  rcases truthful.founded id exists_ with told | ⟨client, announced⟩
  · exact told
  · exact absurd announced (settled client)

def sampleOp : ReconciliationOp := .tokenRevocation "jti_1" 60

/-- An operation is enqueued, and a worker removes it from the queue. -/
def claimed : List queue.Move :=
  .act (.start 0 (.enqueue sampleOp)) ::
    (List.replicate 4 (.act (.step 0 Outcome.success)) ++
      .act (.start 1 (.processBatch ⟨Sample.sha256Hex, true, 86400, 5, "worker:1"⟩)) ::
        List.replicate 5 (.act (.step 1 Outcome.success)))

/-- A call stops after setting the key, and another one for the same operation follows. -/
def interrupted : List queue.Move :=
  [.act (.start 0 (.enqueue sampleOp)), .act (.step 0 Outcome.success),
    .act (.step 0 Outcome.success), .crash 0, .act (.start 1 (.enqueue sampleOp)),
    .act (.step 1 Outcome.success), .act (.step 1 Outcome.success)]

theorem intact_empty (clock : Nat) (key : RedisKey) : (World.empty clock).Intact key := nofun

theorem key_told_while_claimed :
    ∃ stages last, Watched watcher (fun stages config move =>
        ofProtocol move = true ∧ careful stages config move = true) (fun _ => .free)
        (.initial (World.empty 1000000)) claimed stages last ∧
      last.world.lookup (.reconciliationIdem "revoke:jti_1") ≠ none ∧
      last.world.members .reconciliationPending = [] ∧
      Told stages last.world "revoke:jti_1" := by
  obtain ⟨stages, last, run, checked⟩ := Watched.of_check watcher
    (fun stages config move => ofProtocol move = true ∧ careful stages config move = true)
    (fun _ => .free) (.initial (World.empty 1000000)) claimed
    (fun stages config => (config.world.lookup (.reconciliationIdem "revoke:jti_1")).isSome &&
      (config.world.members .reconciliationPending).isEmpty && stages 0 == .free &&
      stages 1 == .holds "revoke:jti_1")
    (by decide +kernel)
  simp only [Bool.and_eq_true, beq_iff_eq, List.isEmpty_iff, Option.isSome_iff_ne_none] at checked
  obtain ⟨⟨⟨exists_, empty⟩, first⟩, second⟩ := checked
  refine ⟨stages, last, run, exists_, empty, ?_⟩
  apply key_told_of_careful (intact_empty _ _) (intact_empty _ _) (fun _ => rfl) run exists_
  rintro (_ | _ | client) announced
  · cases first.symm.trans announced
  · cases second.symm.trans announced
  · have still : ∀ move ∈ claimed, move.client? ≠ some (client + 2) := by
      simp [claimed, Move.client?]
    cases (phases.unmoved run still).symm.trans announced

/-- The key outlives the call that stopped; the second call is skipped as a duplicate, and
the operation is nowhere. -/
theorem key_left_by_crash :
    ∃ stages last, Watched watcher (fun _ _ move => ofProtocol move = true) (fun _ => .free)
        (.initial (World.empty 1000000)) interrupted stages last ∧
      last.world.lookup (.reconciliationIdem "revoke:jti_1") ≠ none ∧
      (∀ client, stages client ≠ .announced "revoke:jti_1") ∧
      ¬ Told stages last.world "revoke:jti_1" := by
  obtain ⟨stages, last, run, checked⟩ := Watched.of_check watcher
    (fun _ _ move => ofProtocol move = true) (fun _ => .free) (.initial (World.empty 1000000))
    interrupted
    (fun stages config => (config.world.lookup (.reconciliationIdem "revoke:jti_1")).isSome &&
      (config.world.members .reconciliationPending).isEmpty && stages 0 == .free &&
      stages 1 == .free)
    (by decide +kernel)
  simp only [Bool.and_eq_true, beq_iff_eq, List.isEmpty_iff, Option.isSome_iff_ne_none] at checked
  obtain ⟨⟨⟨exists_, empty⟩, first⟩, second⟩ := checked
  have free (client : Nat) : stages client = .free := by
    match client with
    | 0 => exact first
    | 1 => exact second
    | client + 2 =>
      have still : ∀ move ∈ interrupted, move.client? ≠ some (client + 2) := by
        simp [interrupted, Move.client?]
      exact phases.unmoved run still
  refine ⟨stages, last, run, exists_, fun client announced => ?_, ?_⟩
  · cases (free client).symm.trans announced
  · rintro (⟨_, _, present, _⟩ | ⟨client, held⟩)
    · rw [empty] at present
      cases present
    · cases (free client).symm.trans held

end BrainMate.Reconciliation.Idempotency
