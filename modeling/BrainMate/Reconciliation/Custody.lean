import BrainMate.Reconciliation.Clients

namespace BrainMate.Reconciliation.Custody

open Interleaving System Gateway

def stems (source : Origin) : QueueMember → Bool
  | .entry entry _ => origin entry == source
  | .malformed _ => false

/-- What the ghost notes: the entry each worker has in its hands, between its ZREM and its
follow-up write, and the operations that are accepted and neither executed nor pruned. -/
structure Ledger where
  hands : Nat → Option QueueEntry
  due : List Origin

def Ledger.empty : Ledger := ⟨fun _ => none, []⟩

/-- The worker takes an entry with a ZREM that is answered with one; it lets go of it with
the write that puts it back or sets it aside, or with the first command after a
successful execution. -/
def grip (held : Option QueueEntry) : (command : Command) → command.Reply → Option QueueEntry
  | .redis (.zrem .reconciliationPending (.entry entry _)), .ok (_ + 1) =>
    some { entry with attempt := entry.attempt + 1 }
  | .redis (.zadd .reconciliationPending _ _), _ | .redis (.zadd .reconciliationDlq _ _), _ |
    .redis (.delete (.reconciliationIdem _)), _ => none
  | _, _ => held

/-- The operation in somebody's hands is executed. -/
def settleDue (held : Option QueueEntry) (due : List Origin) : List Origin :=
  match held with
  | some entry => due.filter (· ≠ origin entry)
  | none => due

/-- The origins of the dead letters up to a score. -/
def pruned (world : World) (cutoff : Nat) (source : Origin) : Bool :=
  (world.scored .reconciliationDlq).any fun stored => stems source stored.1 && stored.2 ≤ cutoff

def account (held : Option QueueEntry) (due : List Origin) (outcome : Outcome) (world : World) :
    Command → List Origin
  | .redis (.zadd .reconciliationPending score (.entry entry encoding)) =>
    if (Command.exec outcome (.redis (.zadd .reconciliationPending score (.entry entry encoding)))
      world).1.isOk then origin entry :: due else due
  | .redis (.delete (.reconciliationIdem _)) => settleDue held due
  | .redis (.zremrangeByScore .reconciliationDlq cutoff) =>
    if outcome.takesEffect then due.filter fun source => !pruned world cutoff source else due
  | _ => due

/-- The execution in a crashing worker had succeeded if it was about to say so. -/
def aboutToForget : Option Command → Bool
  | some (.redis (.delete (.reconciliationIdem _))) => true
  | _ => false

@[reducible] def ledger : queue.Ghost where
  State := Ledger
  exchange state client command outcome world :=
    ⟨Function.update state.hands client
      (grip (state.hands client) command (Command.exec outcome command world).1),
      account (state.hands client) state.due outcome world command⟩
  crash state client next :=
    ⟨Function.update state.hands client none,
      if aboutToForget next then settleDue (state.hands client) state.due else state.due⟩

/-- The operation is pending, among the dead letters, or in the hands of a worker. -/
def Located (state : Ledger) (world : World) (source : Origin) : Prop :=
  (∃ member ∈ world.members .reconciliationPending, stems source member = true) ∨
  (∃ member ∈ world.members .reconciliationDlq, stems source member = true) ∨
  ∃ client entry, state.hands client = some entry ∧ origin entry = source

/-- The runs in question: calls of the gateway, whose commands may fail and which may
crash at any time. Redis does not drop the queues. -/
def ofGateway : queue.Move → Bool
  | .act (.start _ call) => call.ofGateway
  | .act (.environment (.gateway (.evict key))) => !isQueue key
  | .act (.step _ _) | .act (.environment _) | .crash _ => true

/-- The command takes an entry without its worker being told. -/
def snatches (outcome : Outcome) (world : World) : Command → Bool
  | .redis (.zrem .reconciliationPending member) =>
    outcome.takesEffect && outcome != .success &&
      (world.members .reconciliationPending).contains member
  | _ => false

/-- The command is to put back or set aside an entry, and fails. -/
def drops (held : Option QueueEntry) (outcome : Outcome) : Command → Bool
  | .redis (.zadd _ _ _) => held.isSome && !outcome.takesEffect
  | _ => false

/-- No worker crashes with an entry in its hands, no ZREM takes an entry without telling,
and no follow-up write fails. -/
def careful (state : Ledger) (config : queue.Config) : queue.Move → Bool
  | .act (.step client outcome) =>
    match (config.threads client).next? with
    | some command =>
      !snatches outcome config.world command && !drops (state.hands client) outcome command
    | none => true
  | .crash client =>
    (state.hands client).isNone || aboutToForget (config.threads client).next?
  | .act (.start _ _) | .act (.environment _) => true

inductive Allowed : Option QueueEntry → Command → Prop where
  | claim (member : QueueMember) : Allowed none (.redis (.zrem .reconciliationPending member))
  | add (score : Nat) (member : QueueMember) :
      Allowed none (.redis (.zadd .reconciliationPending score member))
  | putBack {key : RedisKey} (entry : QueueEntry) (lastError : Option String) (score : Nat)
      (encoding : Encoding) (own : isQueue key = true) :
      Allowed (some entry)
        (.redis (.zadd key score (.entry { entry with lastError := lastError } encoding)))
  | prune (held : Option QueueEntry) (cutoff : Nat) :
      Allowed held (.redis (.zremrangeByScore .reconciliationDlq cutoff))
  | list (held : Option QueueEntry) (maxScore limit : Nat) :
      Allowed held (.redis (.zrangeByScore .reconciliationPending maxScore limit))
  | aside {held : Option QueueEntry} {command : Command} (elsewhere : touchesQueue command = false) :
      Allowed held command

@[reducible] def observer : Observer Command Command.Reply := ⟨Option QueueEntry, none, grip, Allowed⟩

def phases : ledger.Phases observer where
  phase state := state.hands
  exchange_own _ _ _ _ _ := Function.update_self _ _ _
  exchange_other _ _ _ _ _ _ different := Function.update_of_ne different _ _
  crash_own _ _ _ := Function.update_self _ _ _
  crash_other _ _ _ _ different := Function.update_of_ne different _ _

private theorem touchesQueue_outside {command : Command} (outside : Within Outside command) :
    touchesQueue command = false := by
  cases command with
  | redis command => exact outside.1
  | _ => rfl

/-- Only the commands of the protocol change hands. -/
theorem grip_outside {command : Command} (outside : Within Outside command)
    (held : Option QueueEntry) (reply : command.Reply) : grip held command reply = held := by
  unfold grip
  split
  · cases outside.1
  · cases outside.1
  · cases outside.1
  · exact absurd rfl (outside.2.1 _)
  · rfl

/-- Executing an operation keeps the entry in its hands. -/
theorem execute_follows (worker : Gateway.Reconciliation.Worker) (held : Option QueueEntry)
    (op : ReconciliationOp) :
    observer.Follows (fun _ final => final = held) held (worker.execute op) := by
  refine Observer.follows_of_every observer held ?_ ?_ (execute_outside worker op)
  · intro command outside
    exact .aside (touchesQueue_outside outside)
  · intro command reply outside
    exact grip_outside outside held reply

section

open Gateway.Reconciliation

theorem release_follows (entry : QueueEntry) :
    observer.Follows (fun _ final => final = none) none (Worker.release entry) :=
  ⟨.aside rfl, fun _ => rfl⟩

theorem forget_follows (held : Option QueueEntry) (entry : QueueEntry) :
    observer.Follows (fun _ final => final = none) held (Worker.forget entry) :=
  ⟨.aside rfl, fun _ => release_follows entry⟩

theorem settle_follows (entry : QueueEntry) (result : Except String Unit) :
    observer.Follows (fun _ final => final = none) (some entry) (Worker.settle entry result) := by
  rcases result with error | _
  · simp only [Worker.settle]
    split
    · refine ⟨.aside rfl, fun dlqScore => ⟨.putBack entry (some error) dlqScore .serde rfl, ?_⟩⟩
      exact fun _ => ⟨.aside rfl, fun now => ⟨.prune none _, fun _ => forget_follows none _⟩⟩
    · refine ⟨.aside rfl, fun now => ⟨.putBack entry (some error) _ .serde rfl, ?_⟩⟩
      exact fun _ => release_follows _
  · exact forget_follows (some entry) entry

theorem processEntry_follows (worker : Worker) (member : QueueMember) :
    observer.Follows (fun _ final => final = none) none (worker.processEntry member) := by
  unfold Worker.processEntry
  cases member with
  | malformed text => exact ⟨.claim _, fun _ => rfl⟩
  | entry entry encoding =>
    refine ⟨.aside rfl, fun millis => ⟨.aside rfl, ?_⟩⟩
    rintro (error | _ | _)
    · rfl
    · rfl
    · refine ⟨.claim _, ?_⟩
      rintro (error | _ | removed)
      · exact release_follows entry
      · exact release_follows entry
      · refine (execute_follows worker _ _).bind ?_
        rintro result _ rfl
        exact settle_follows _ result

theorem processEntries_follows (worker : Worker) (members : List QueueMember) :
    observer.Follows (fun _ final => final = none) none (worker.processEntries members) := by
  induction members with
  | nil => rfl
  | cons member rest ih =>
    refine (processEntry_follows worker member).bind ?_
    rintro _ _ rfl
    exact ih

theorem processBatch_follows (worker : Worker) :
    observer.Follows (fun _ _ => True) none worker.processBatch := by
  refine ⟨.aside rfl, fun now => ⟨.list none now batchSize, ?_⟩⟩
  rintro (error | entries)
  · trivial
  · exact (processEntries_follows worker entries).bind fun _ _ _ => trivial

theorem enqueue_follows (op : ReconciliationOp) :
    observer.Follows (fun _ _ => True) none (enqueue op) := by
  refine ⟨.aside rfl, fun createdAt => ⟨.aside rfl, ?_⟩⟩
  rintro (error | _ | _)
  · exact ⟨.aside rfl, fun score => ⟨.add score _, fun _ => trivial⟩⟩
  · trivial
  · exact ⟨.aside rfl, fun score => ⟨.add score _, fun _ => trivial⟩⟩

end

structure Accounted (state : Ledger) (world : World) : Prop where
  pending : world.Intact .reconciliationPending
  dead : world.Intact .reconciliationDlq
  located : ∀ source ∈ state.due, Located state world source

section

variable {state : Ledger} {world : World} {client : Nat} {outcome : Outcome} {source : Origin}

private theorem mem_settleDue {held : Option QueueEntry} {due : List Origin}
    (member : source ∈ settleDue held due) :
    source ∈ due ∧ ∀ entry, held = some entry → origin entry ≠ source := by
  cases held with
  | none => exact ⟨member, nofun⟩
  | some entry =>
    obtain ⟨before, different⟩ := List.mem_filter.mp member
    refine ⟨before, ?_⟩
    rintro _ ⟨⟩ same
    exact of_decide_eq_true different same.symm

/-- A client that lets go of what is not the source's leaves it where it is. -/
theorem Located.letGo (located : Located state world source)
    (other : ∀ entry, state.hands client = some entry → origin entry ≠ source) (due : List Origin) :
    Located ⟨Function.update state.hands client none, due⟩ world source := by
  rcases located with pending | dead | ⟨holder, entry, held, same⟩
  · exact .inl pending
  · exact .inr (.inl dead)
  · refine .inr (.inr ⟨holder, entry, ?_, same⟩)
    have different : holder ≠ client := by
      rintro rfl
      exact other entry held same
    exact (Function.update_of_ne different _ _).trans held

/-- Worlds that agree on the two queues agree on where operations are. -/
theorem Located.agree {later : World} (located : Located state world source)
    (pending : later.scored .reconciliationPending = world.scored .reconciliationPending)
    (dead : later.scored .reconciliationDlq = world.scored .reconciliationDlq) :
    Located state later source := by
  simp only [Located, World.members, pending, dead]
  exact located

theorem Accounted.agree {later : World} (accounted : Accounted state world)
    (pending : later.redis .reconciliationPending = world.redis .reconciliationPending)
    (dead : later.redis .reconciliationDlq = world.redis .reconciliationDlq) :
    Accounted state later :=
  ⟨accounted.pending.congr pending, accounted.dead.congr dead, fun source due =>
    (accounted.located source due).agree (accounted.pending.scored pending)
      (accounted.dead.scored dead)⟩

variable (outcome world) in
/-- A command about another key leaves the queues alone. -/
theorem exec_elsewhere {command : Command} (elsewhere : touchesQueue command = false)
    {key : RedisKey} (own : isQueue key = true) :
    (Command.exec outcome command world).2.redis key = world.redis key := by
  rcases Command.exec_world outcome command world with same | same <;> rw [same]
  cases command with
  | redis command =>
    refine command.effect_redis_other world ?_
    rintro rfl
    exact Bool.false_ne_true (elsewhere.symm.trans own)
  | _ => rfl

variable (outcome world) in
private theorem account_elsewhere {command : Command} (elsewhere : touchesQueue command = false)
    (held : Option QueueEntry) (due : List Origin) (reply : command.Reply) :
    (grip held command reply = held ∧ account held due outcome world command = due) ∨
      (grip held command reply = none ∧
        account held due outcome world command = settleDue held due) := by
  cases command with
  | now => exact .inl ⟨rfl, rfl⟩
  | db => exact .inl ⟨rfl, rfl⟩
  | http => exact .inl ⟨rfl, rfl⟩
  | redis command =>
    have other (key : RedisKey) (same : command.key = key) : isQueue key = false :=
      same ▸ elsewhere
    cases command with
    | delete key =>
      cases key with
      | reconciliationIdem id => exact .inr ⟨rfl, rfl⟩
      | _ => exact .inl ⟨rfl, rfl⟩
    | zadd key => cases key <;> first | exact .inl ⟨rfl, rfl⟩ | cases other _ rfl
    | zrem key => cases key <;> first | exact .inl ⟨rfl, rfl⟩ | cases other _ rfl
    | zremrangeByScore key => cases key <;> first | exact .inl ⟨rfl, rfl⟩ | cases other _ rfl
    | _ => exact .inl ⟨rfl, rfl⟩

theorem Accounted.elsewhere {command : Command} (accounted : Accounted state world)
    (elsewhere : touchesQueue command = false) :
    Accounted (ledger.exchange state client command outcome world)
      (Command.exec outcome command world).2 := by
  have moved := accounted.agree (exec_elsewhere world outcome elsewhere rfl)
    (exec_elsewhere world outcome elsewhere rfl)
  obtain ⟨kept, same⟩ | ⟨released, settled⟩ := account_elsewhere world outcome elsewhere
    (state.hands client) state.due (Command.exec outcome command world).1
  · simp only [kept, same, Function.update_eq_self]
    exact moved
  · simp only [released, settled]
    refine ⟨moved.pending, moved.dead, fun source due => ?_⟩
    obtain ⟨before, different⟩ := mem_settleDue due
    exact (moved.located source before).letGo different _

/-- A ZREM that is answered hands the entry over; one that fails without a word has to
have had nothing to take. -/
theorem Accounted.claim {member : QueueMember} (accounted : Accounted state world)
    (free : state.hands client = none)
    (told : snatches outcome world (.redis (.zrem .reconciliationPending member)) = false) :
    Accounted
      (ledger.exchange state client (.redis (.zrem .reconciliationPending member)) outcome world)
      (Command.exec outcome (.redis (.zrem .reconciliationPending member)) world).2 := by
  have taken : (RedisCommand.effect (.zrem .reconciliationPending member) world).Intact
      .reconciliationPending := accounted.pending.keepMembers _
  have apart : (RedisCommand.effect (.zrem .reconciliationPending member) world).redis
      .reconciliationDlq = world.redis .reconciliationDlq :=
    RedisCommand.effect_redis_other _ world nofun
  have left (other : QueueMember) (present : other ∈ world.members .reconciliationPending)
      (different : other ≠ member) : other ∈
        (RedisCommand.effect (.zrem .reconciliationPending member) world).members
          .reconciliationPending :=
    (mem_zrem world _ _).mpr ⟨present, different⟩
  cases outcome with
  | lost detail =>
    simp only [account, Command.exec, Command.failure, grip, Function.update_eq_self]
    exact accounted
  | applied detail =>
    have absent : member ∉ world.members .reconciliationPending := by
      simpa [snatches, Outcome.takesEffect] using told
    simp only [account, Command.exec, Command.failure, grip, Function.update_eq_self]
    refine ⟨taken, accounted.dead.congr apart, fun source due => ?_⟩
    rcases accounted.located source due with ⟨other, present, stem⟩ | dead | held
    · exact .inl ⟨other, left other present (ne_of_mem_of_not_mem present absent), stem⟩
    · simp only [Located, World.members, Command.effect, accounted.dead.scored apart]
      exact .inr (.inl dead)
    · exact .inr (.inr held)
  | success =>
    refine ⟨taken, accounted.dead.congr apart, fun source due => ?_⟩
    rcases accounted.located source due with ⟨other, present, stem⟩ | dead | ⟨holder, entry, held, same⟩
    · by_cases own : other = member
      · subst own
        cases other with
        | malformed text => cases stem
        | entry entry encoding =>
          refine .inr (.inr ⟨client, { entry with attempt := entry.attempt + 1 }, ?_, ?_⟩)
          · simp only [Command.exec, Command.answer, zrem_present world _ _ present, grip,
              Function.update_self]
          · exact of_decide_eq_true stem
      · exact .inl ⟨other, left other present own, stem⟩
    · refine .inr (.inl ?_)
      simp only [World.members, Command.exec, Command.effect, accounted.dead.scored apart]
      exact dead
    · have different : holder ≠ client := by
        rintro rfl
        rw [free] at held
        cases held
      exact .inr (.inr ⟨holder, entry, (Function.update_of_ne different _ _).trans held, same⟩)

theorem Accounted.intact (accounted : Accounted state world) {key : RedisKey}
    (own : isQueue key = true) : world.Intact key := by
  simp only [isQueue, Bool.or_eq_true, beq_iff_eq] at own
  rcases own with rfl | rfl
  · exact accounted.pending
  · exact accounted.dead

/-- It is enough to find an operation in one of the two queues. -/
theorem located_of_member {key : RedisKey} {member : QueueMember} (own : isQueue key = true)
    (present : member ∈ world.members key) (stem : stems source member = true) :
    Located state world source := by
  simp only [isQueue, Bool.or_eq_true, beq_iff_eq] at own
  rcases own with rfl | rfl
  · exact .inl ⟨member, present, stem⟩
  · exact .inr (.inl ⟨member, present, stem⟩)

section Write

variable {key : RedisKey} {score : Nat} {member : QueueMember}

theorem Accounted.zadd_intact (accounted : Accounted state world) (own : isQueue key = true)
    {queue : RedisKey} (isOne : isQueue queue = true) :
    (Command.exec outcome (.redis (.zadd key score member)) world).2.Intact queue := by
  rcases Command.exec_world outcome (.redis (.zadd key score member)) world with same | same <;>
    rw [same]
  · exact accounted.intact isOne
  · by_cases written : queue = key
    · subst written
      exact (accounted.intact own).zadd score member
    · exact (accounted.intact isOne).congr (RedisCommand.effect_redis_other _ world written)

/-- ZADD takes nothing out of either queue. -/
theorem Accounted.zadd_keeps (accounted : Accounted state world) {queue : RedisKey}
    (isOne : isQueue queue = true) {other : QueueMember} (present : other ∈ world.members queue) :
    other ∈ (Command.exec outcome (.redis (.zadd key score member)) world).2.members queue := by
  rcases Command.exec_world outcome (.redis (.zadd key score member)) world with same | same <;>
    rw [same]
  · exact present
  · by_cases written : queue = key
    · subst written
      exact (mem_zadd world _ _ score).mpr (.inl present)
    · simp only [World.members, (accounted.intact isOne).scored
        (RedisCommand.effect_redis_other (.zadd key score member) world written), Command.effect]
      exact present

theorem Accounted.zadd_adds (accounted : Accounted state world) (own : isQueue key = true)
    (effective : outcome.takesEffect = true) :
    member ∈ (Command.exec outcome (.redis (.zadd key score member)) world).2.members key := by
  rw [Command.exec_effect effective]
  exact (mem_zadd world _ _ score).mpr (.inr ⟨rfl, (accounted.intact own).holdsQueue⟩)

/-- An acknowledged ZADD to the pending queue makes its operation due; no other one does. -/
theorem mem_account_zadd {held : Option QueueEntry} {due : List Origin}
    (own : source ∈ account held due outcome world (.redis (.zadd key score member))) :
    source ∈ due ∨ (outcome.takesEffect = true ∧ stems source member = true) := by
  unfold account at own
  split at own
  · rename_i written entry encoding same
    cases same
    split at own
    · rename_i acknowledged
      rcases List.mem_cons.mp own with rfl | before
      · refine .inr ⟨?_, decide_eq_true rfl⟩
        cases outcome with
        | lost => cases acknowledged
        | applied => rfl
        | success => rfl
      · exact .inl before
    · exact .inl own
  · rename_i same
    cases same
  · rename_i same
    cases same
  · exact .inl own

private theorem grip_write (own : isQueue key = true) (held : Option QueueEntry)
    (reply : Except RedisLayerError Nat) :
    grip held (.redis (.zadd key score member)) reply = none := by
  simp only [isQueue, Bool.or_eq_true, beq_iff_eq] at own
  rcases own with rfl | rfl <;> rfl

/-- A ZADD by a client with empty hands, or one that takes effect and writes what the
client has in its hands. -/
theorem Accounted.write (accounted : Accounted state world) (own : isQueue key = true)
    (covered : ∀ entry, state.hands client = some entry →
      outcome.takesEffect = true ∧ stems (origin entry) member = true) :
    Accounted (ledger.exchange state client (.redis (.zadd key score member)) outcome world)
      (Command.exec outcome (.redis (.zadd key score member)) world).2 := by
  refine ⟨accounted.zadd_intact own rfl, accounted.zadd_intact own rfl, fun source due => ?_⟩
  simp only [grip_write own]
  rcases mem_account_zadd due with before | ⟨effective, stem⟩
  · rcases accounted.located source before with
      ⟨other, present, stem⟩ | ⟨other, present, stem⟩ | ⟨holder, entry, held, same⟩
    · exact .inl ⟨other, accounted.zadd_keeps rfl present, stem⟩
    · exact .inr (.inl ⟨other, accounted.zadd_keeps rfl present, stem⟩)
    · by_cases letsGo : holder = client
      · subst letsGo
        obtain ⟨effective, stem⟩ := covered entry held
        exact located_of_member own (accounted.zadd_adds own effective) (same ▸ stem)
      · exact .inr (.inr ⟨holder, entry, (Function.update_of_ne letsGo _ _).trans held, same⟩)
  · exact located_of_member own (accounted.zadd_adds own effective) stem

end Write

/-- Pruning takes out of the books what it takes out of the dead letters. -/
theorem Accounted.prune (accounted : Accounted state world) (cutoff : Nat) :
    Accounted
      (ledger.exchange state client (.redis (.zremrangeByScore .reconciliationDlq cutoff)) outcome
        world)
      (Command.exec outcome (.redis (.zremrangeByScore .reconciliationDlq cutoff)) world).2 := by
  simp only [grip, Function.update_eq_self, account]
  cases effective : outcome.takesEffect with
  | false =>
    rw [Command.exec_lost effective]
    exact accounted
  | true =>
    have apart : (RedisCommand.effect (.zremrangeByScore .reconciliationDlq cutoff) world).redis
        .reconciliationPending = world.redis .reconciliationPending :=
      RedisCommand.effect_redis_other _ world nofun
    rw [Command.exec_effect effective]
    refine ⟨accounted.pending.congr apart, accounted.dead.keepMembers _, fun source due => ?_⟩
    obtain ⟨before, spared⟩ := List.mem_filter.mp due
    rcases accounted.located source before with pending | ⟨member, present, stem⟩ | held
    · refine .inl ?_
      simp only [World.members, Command.effect, accounted.pending.scored apart]
      exact pending
    · obtain ⟨stored, kept, rfl⟩ := List.mem_map.mp present
      have young : cutoff < stored.2 := by
        by_contra old
        have gone : pruned world cutoff source = true :=
          List.any_eq_true.mpr ⟨stored, kept, by simp [stem, Nat.le_of_not_lt old]⟩
        simp [gone] at spared
      refine .inr (.inl ⟨stored.1, List.mem_map_of_mem ?_, stem⟩)
      simp only [Command.effect, RedisCommand.effect, scored_keepMembers]
      exact List.mem_filter.mpr ⟨kept, decide_eq_true young⟩
    · exact .inr (.inr held)

/-- Listing the queue changes nothing. -/
theorem Accounted.list (accounted : Accounted state world) (maxScore limit : Nat) :
    Accounted
      (ledger.exchange state client
        (.redis (.zrangeByScore .reconciliationPending maxScore limit)) outcome world)
      (Command.exec outcome (.redis (.zrangeByScore .reconciliationPending maxScore limit))
        world).2 := by
  have unchanged : (Command.exec outcome
      (.redis (.zrangeByScore .reconciliationPending maxScore limit)) world).2 = world := by
    rcases Command.exec_world outcome
      (.redis (.zrangeByScore .reconciliationPending maxScore limit)) world with same | same <;>
        exact same
  simp only [grip, Function.update_eq_self, account, unchanged]
  exact accounted

theorem Accounted.command {command : Command} (accounted : Accounted state world)
    (allowed : Allowed (state.hands client) command)
    (told : snatches outcome world command = false)
    (written : drops (state.hands client) outcome command = false) :
    Accounted (ledger.exchange state client command outcome world)
      (Command.exec outcome command world).2 := by
  generalize held : state.hands client = hand at allowed
  cases allowed with
  | claim member => exact accounted.claim held told
  | add score member =>
    exact accounted.write rfl fun entry full => by cases held.symm.trans full
  | putBack entry lastError score encoding own =>
    refine accounted.write own fun other full => ?_
    cases held.symm.trans full
    have effective : outcome.takesEffect = true := by simpa [drops, held] using written
    exact ⟨effective, decide_eq_true rfl⟩
  | prune _ cutoff => exact accounted.prune cutoff
  | list _ maxScore limit => exact accounted.list maxScore limit
  | aside elsewhere => exact accounted.elsewhere elsewhere

end

theorem Accounted.event {state : Ledger} {world : World} {event : Event}
    (accounted : Accounted state world)
    (permitted : ofGateway (.act (.environment event)) = true) :
    Accounted state (environment event world) := by
  cases event with
  | elsewhere command =>
    simp only [environment]
    split
    · exact accounted
    · rename_i aside
      have elsewhere : touchesQueue command = false := Bool.eq_false_iff.mpr aside
      exact accounted.agree (exec_elsewhere world .success elsewhere rfl)
        (exec_elsewhere world .success elsewhere rfl)
  | gateway event =>
    cases event with
    | tick milliseconds => exact accounted.agree rfl rfl
    | evict key =>
      have other {queue : RedisKey} (own : isQueue queue = true) : queue ≠ key := by
        rintro rfl
        simp [ofGateway, own] at permitted
      exact accounted.agree (Function.update_of_ne (other rfl) _ _)
        (Function.update_of_ne (other rfl) _ _)

private theorem custody_keeps :
    phases.Keeps (fun state config move =>
      ofGateway move = true ∧ careful state config move = true) Accounted where
  follows state config client call permitted := by
    cases call with
    | enqueue op => exact enqueue_follows op
    | processBatch worker => exact processBatch_follows worker
    | enqueueReconciliation => cases permitted.1
    | processPendingOperations => cases permitted.1
  command state config client outcome call command rest permitted running allowed accounted := by
    have careful := permitted.2
    simp only [Custody.careful, running, Thread.next?, Bool.and_eq_true, Bool.not_eq_true'] at careful
    exact accounted.command allowed careful.1 careful.2
  event state config event permitted accounted := accounted.event permitted.1
  crash state config client permitted accounted := by
    refine ⟨accounted.pending, accounted.dead, fun source due => ?_⟩
    have careful := permitted.2
    simp only [Custody.careful, Bool.or_eq_true, Option.isNone_iff_eq_none] at careful
    rcases careful with free | finished
    · have before : source ∈ state.due := by
        simpa [settleDue, free] using due
      exact (accounted.located source before).letGo (fun entry full => by cases free.symm.trans full) _
    · simp only [finished, ↓reduceIte] at due
      obtain ⟨before, different⟩ := mem_settleDue due
      exact (accounted.located source before).letGo different _

/-- In a run in which no worker crashes with an entry in its hands, no ZREM takes an entry
without its worker being told, and no write that puts an entry back fails, every
accepted operation that is neither executed nor pruned is pending, a dead letter, or
in the hands of a worker, after each move. -/
theorem operations_located_of_careful {world : World} {moves : List queue.Move} {state : Ledger}
    {last : queue.Config} (pending : world.Intact .reconciliationPending)
    (dead : world.Intact .reconciliationDlq)
    (run : Watched ledger (fun state config move =>
      ofGateway move = true ∧ careful state config move = true) Ledger.empty (.initial world) moves
      state last) :
    ∀ source ∈ state.due, Located state last.world source :=
  (custody_keeps.run run (fun _ => rfl) ⟨pending, dead, nofun⟩).located

def sampleWorker : Gateway.Reconciliation.Worker := ⟨Sample.sha256Hex, true, 86400, 5, "worker:1"⟩

def sampleOp : ReconciliationOp := .tokenRevocation "jti_1" 60

/-- An operation is enqueued, and a worker removes it from the queue. -/
def claimed : List queue.Move :=
  .act (.start 0 (.enqueue sampleOp)) ::
    (List.replicate 4 (.act (.step 0 Outcome.success)) ++
      .act (.start 1 (.processBatch sampleWorker)) ::
        List.replicate 5 (.act (.step 1 Outcome.success)))

/-- The database fails, and the entry is put back. -/
def putBack : List queue.Move :=
  [.act (.step 1 Outcome.success), .act (.step 1 (Outcome.lost "connection refused")),
    .act (.step 1 Outcome.success), .act (.step 1 Outcome.success),
    .act (.step 1 Outcome.success)]

def sampleOrigin : Origin := ⟨"revoke:jti_1", sampleOp, 5, 1000000⟩

theorem intact_empty (clock : Nat) (key : RedisKey) : (World.empty clock).Intact key := nofun

theorem operation_put_back :
    ∃ state last, Watched ledger (fun state config move =>
        ofGateway move = true ∧ careful state config move = true) Ledger.empty
        (.initial (World.empty 1000000)) (claimed ++ putBack) state last ∧
      state.hands 1 = none ∧ Located state last.world sampleOrigin := by
  obtain ⟨state, last, run, checked⟩ := Watched.of_check ledger
    (fun state config move => ofGateway move = true ∧ careful state config move = true)
    Ledger.empty (.initial (World.empty 1000000)) (claimed ++ putBack)
    (fun state _ => state.due == [sampleOrigin, sampleOrigin] && (state.hands 1).isNone)
    (by decide +kernel)
  simp only [Bool.and_eq_true, beq_iff_eq, Option.isNone_iff_eq_none] at checked
  refine ⟨state, last, run, checked.2, ?_⟩
  apply operations_located_of_careful (intact_empty _ _) (intact_empty _ _) run
  rw [checked.1]
  exact .head _

/-- The worker crashes between its ZREM and its next command, and the operation is
nowhere any more. -/
theorem operation_lost_by_crash :
    ∃ state last, Watched ledger (fun _ _ move => ofGateway move = true) Ledger.empty
        (.initial (World.empty 1000000)) (claimed ++ [.crash 1]) state last ∧
      ∃ source ∈ state.due, ¬ Located state last.world source := by
  obtain ⟨state, last, run, checked⟩ := Watched.of_check ledger
    (fun _ _ move => ofGateway move = true) Ledger.empty (.initial (World.empty 1000000))
    (claimed ++ [.crash 1])
    (fun state config => state.due == [sampleOrigin] &&
      (config.world.members .reconciliationPending).isEmpty &&
      (config.world.members .reconciliationDlq).isEmpty &&
      (state.hands 0).isNone && (state.hands 1).isNone)
    (by decide +kernel)
  simp only [Bool.and_eq_true, beq_iff_eq, List.isEmpty_iff, Option.isNone_iff_eq_none] at checked
  obtain ⟨⟨⟨⟨due, pending⟩, dead⟩, first⟩, second⟩ := checked
  refine ⟨state, last, run, sampleOrigin, by rw [due]; exact .head _, ?_⟩
  rintro (⟨_, present, _⟩ | ⟨_, present, _⟩ | ⟨client, entry, held, _⟩)
  · rw [pending] at present
    cases present
  · rw [dead] at present
    cases present
  · match client with
    | 0 => cases first.symm.trans held
    | 1 => cases second.symm.trans held
    | client + 2 =>
      have still : ∀ move ∈ claimed ++ [.crash 1], move.client? ≠ some (client + 2) := by
        simp [claimed, Move.client?]
      cases (phases.unmoved run still).symm.trans held

end BrainMate.Reconciliation.Custody
