import BrainMate.Reconciliation.Clients

namespace BrainMate.Reconciliation.Claiming

open Interleaving System Gateway

/-- A member entered `reconciliation:pending`. The root is the number of the insertion by
which its entry was enqueued; a retry is another insertion with the same root. -/
structure Insertion where
  member : QueueMember
  root : Nat
  deriving DecidableEq, Repr

/-- A worker reached `execute` or `executeOperation`; the entry counts the attempt. -/
structure Execution where
  client : Nat
  insertion : Nat
  root : Nat
  entry : QueueEntry
  deriving DecidableEq, Repr

/-- What the ghost notes: all insertions in their order, the last insertion of each member,
the entry that each worker claimed and has not put back, and all executions. -/
structure Register where
  inserted : List Insertion
  place : QueueMember → Nat
  hands : Nat → Option (Nat × QueueEntry)
  executions : List Execution

namespace Register

def empty : Register := ⟨[], fun _ => 0, fun _ => none, []⟩

variable (state : Register)

/-- The root of the last insertion of a member. -/
def rootOf (member : QueueMember) : Nat :=
  (state.inserted[state.place member]?).elim 0 Insertion.root

/-- The attempts at one enqueued entry, in their order. -/
def attempts (root : Nat) : List Nat :=
  (state.executions.filter fun execution => execution.root == root).map (·.entry.attempt)

def letGo (client : Nat) : Register :=
  { state with hands := Function.update state.hands client none }

/-- A member enters the queue: the entry that the client has in its hands, or a new one. -/
def enter (client : Nat) (member : QueueMember) : Register :=
  let number := state.inserted.length
  let root := (state.hands client).elim number Prod.fst
  ⟨state.inserted ++ [⟨member, root⟩], Function.update state.place member number,
    Function.update state.hands client none, state.executions⟩

/-- A ZREM is answered with one, and the worker goes on to execute the entry. -/
def claim (client : Nat) (entry : QueueEntry) (encoding : Encoding) : Register :=
  let member := QueueMember.entry entry encoding
  let counted := { entry with attempt := entry.attempt + 1 }
  { state with
    hands := Function.update state.hands client (some (state.rootOf member, counted))
    executions := state.executions ++
      [⟨client, state.place member, state.rootOf member, counted⟩] }

end Register

/-- ZADD inserts a member that is not there; one that is there only changes its score. -/
def enters (outcome : Outcome) (world : World) (member : QueueMember) : Bool :=
  outcome.takesEffect && world.holdsQueue .reconciliationPending &&
    !(world.members .reconciliationPending).contains member

def note (state : Register) (client : Nat) (outcome : Outcome) (world : World) :
    (command : Command) → command.Reply → Register
  | .redis (.zrem .reconciliationPending (.entry entry encoding)), .ok (_ + 1) =>
    state.claim client entry encoding
  | .redis (.zadd .reconciliationPending _ member), _ =>
    if enters outcome world member then state.enter client member else state.letGo client
  | _, _ => state

@[reducible] def register : queue.Ghost where
  State := Register
  exchange state client command outcome world :=
    note state client outcome world command (Command.exec outcome command world).1
  crash state client _ := state.letGo client

def grip (held : Option QueueEntry) : (command : Command) → command.Reply → Option QueueEntry
  | .redis (.zrem .reconciliationPending (.entry entry _)), .ok (_ + 1) =>
    some { entry with attempt := entry.attempt + 1 }
  | .redis (.zadd .reconciliationPending _ _), _ => none
  | _, _ => held

/-- An entry is put back with nothing changed but its error, as long as it has attempts
left; a new entry has all of them. -/
inductive Allowed : Option QueueEntry → Command → Prop where
  | claim (held : Option QueueEntry) (member : QueueMember) :
      Allowed held (.redis (.zrem .reconciliationPending member))
  | add (score : Nat) (entry : QueueEntry) (encoding : Encoding) (new : entry.attempt = 0)
      (left : 0 < entry.maxAttempts) :
      Allowed none (.redis (.zadd .reconciliationPending score (.entry entry encoding)))
  | putBack (score : Nat) (entry : QueueEntry) (lastError : Option String) (encoding : Encoding)
      (left : entry.attempt < entry.maxAttempts) :
      Allowed (some entry) (.redis (.zadd .reconciliationPending score
        (.entry { entry with lastError := lastError } encoding)))
  | aside {held : Option QueueEntry} {command : Command}
      (silent : ¬ command.WritesKey .reconciliationPending) : Allowed held command

@[reducible] def observer : Observer Command Command.Reply := ⟨Option QueueEntry, none, grip, Allowed⟩

theorem note_other (state : Register) {client other : Nat} (different : other ≠ client)
    (outcome : Outcome) (world : World) (command : Command) (reply : command.Reply) :
    (note state client outcome world command reply).hands other = state.hands other := by
  unfold note
  split
  · exact Function.update_of_ne different _ _
  · split <;> exact Function.update_of_ne different _ _
  · rfl

private theorem note_own (state : Register) (client : Nat) (outcome : Outcome) (world : World)
    (command : Command) (reply : command.Reply) :
    ((note state client outcome world command reply).hands client).map Prod.snd =
      grip ((state.hands client).map Prod.snd) command reply := by
  unfold note
  split
  · simp [Register.claim, grip]
  · split <;> simp [Register.enter, Register.letGo, grip]
  · rename_i noClaim noAdd
    unfold grip
    split
    · exact absurd HEq.rfl (noClaim _ _ _ rfl)
    · exact absurd HEq.rfl (noAdd _ _ _ rfl)
    · rfl

def phases : register.Phases observer where
  phase state client := (state.hands client).map Prod.snd
  exchange_own state client command outcome world := note_own state client outcome world command _
  exchange_other state client command outcome world other different := by
    rw [note_other state different]
  crash_own state client _ := by simp [Register.letGo]
  crash_other state client _ other different := by
    simp [Register.letGo, Function.update_of_ne different]

private theorem silent_of_outside {command : Command} (outside : Within Outside command) :
    ¬ command.WritesKey .reconciliationPending := by
  cases command with
  | redis command =>
    rintro ⟨_, same⟩
    have aside := outside.1
    rw [same] at aside
    cases aside
  | _ => exact id

private theorem silent_of_read {command : RedisCommand} (reads : command.writes = false)
    {key : RedisKey} :
    ¬ (Command.redis command).WritesKey key :=
  fun writes => Bool.false_ne_true (reads.symm.trans writes.1)

theorem grip_outside {command : Command} (outside : Within Outside command)
    (held : Option QueueEntry) (reply : command.Reply) : grip held command reply = held := by
  unfold grip
  split
  · cases outside.1
  · cases outside.1
  · rfl

/-- Whatever a worker does outside the protocol, it keeps what it has in its hands. -/
theorem follows_of_outside {α : Type} {procedure : Procedure α}
    (outside : procedure.Every (Within Outside)) (held : Option QueueEntry) :
    observer.Follows (fun _ final => final = held) held procedure := by
  refine Observer.follows_of_every observer held ?_ ?_ outside
  · intro command outside
    exact .aside (silent_of_outside outside)
  · intro command reply outside
    exact grip_outside outside held reply

section

open Gateway.Reconciliation

theorem forget_follows (held : Option QueueEntry) (entry : QueueEntry) :
    observer.Follows (fun _ _ => True) held (Worker.forget entry) :=
  ⟨.aside nofun, fun _ => ⟨.aside nofun, fun _ => trivial⟩⟩

theorem settle_follows (entry : QueueEntry) (result : Except String Unit) :
    observer.Follows (fun _ _ => True) (some entry) (Worker.settle entry result) := by
  rcases result with error | _
  · simp only [Worker.settle]
    split
    · refine ⟨.aside nofun, fun dlqScore => ⟨.aside nofun, fun _ => ⟨.aside nofun, fun now => ?_⟩⟩⟩
      exact ⟨.aside nofun, fun _ => forget_follows _ _⟩
    · rename_i left
      refine ⟨.aside nofun, fun now => ⟨.putBack _ entry (some error) .serde ?_, fun _ => ?_⟩⟩
      · exact Nat.lt_of_not_le left
      · exact ⟨.aside nofun, fun _ => trivial⟩
  · exact forget_follows _ _

theorem processEntry_follows (worker : Worker) (member : QueueMember) (held : Option QueueEntry) :
    observer.Follows (fun _ _ => True) held (worker.processEntry member) := by
  cases member with
  | malformed text => exact ⟨.claim _ _, fun _ => trivial⟩
  | entry entry encoding =>
    refine ⟨.aside nofun, fun millis => ⟨.aside nofun, ?_⟩⟩
    rintro (error | _ | _)
    · trivial
    · trivial
    · refine ⟨.claim _ _, ?_⟩
      rintro (error | _ | removed)
      · exact ⟨.aside nofun, fun _ => trivial⟩
      · exact ⟨.aside nofun, fun _ => trivial⟩
      · refine (follows_of_outside (execute_outside worker _) _).bind ?_
        rintro result _ rfl
        exact settle_follows _ result

theorem processEntries_follows (worker : Worker) (members : List QueueMember)
    (held : Option QueueEntry) :
    observer.Follows (fun _ _ => True) held (worker.processEntries members) := by
  induction members generalizing held with
  | nil => trivial
  | cons member rest ih => exact (processEntry_follows worker member held).bind fun _ held _ => ih held

theorem processBatch_follows (worker : Worker) :
    observer.Follows (fun _ _ => True) none worker.processBatch := by
  refine ⟨.aside nofun, fun now => ⟨.aside (silent_of_read rfl), ?_⟩⟩
  rintro (error | entries)
  · trivial
  · exact (processEntries_follows worker entries none).bind fun _ _ _ => trivial

theorem enqueue_follows (op : ReconciliationOp) :
    observer.Follows (fun _ _ => True) none (enqueue op) := by
  have add (createdAt : Nat) : observer.Follows (fun _ _ => True) none
      (addPending ⟨operationId op, op, 0, maxAttempts, createdAt, none⟩) :=
    ⟨.aside nofun, fun score => ⟨.add score _ .serde rfl (Nat.zero_lt_succ 4), fun _ => trivial⟩⟩
  refine ⟨.aside nofun, fun createdAt => ⟨.aside nofun, ?_⟩⟩
  rintro (error | _ | _)
  · exact add createdAt
  · trivial
  · exact add createdAt

end

section

open Nextjs

theorem delete_follows (id : String) (held : Option QueueEntry) :
    observer.Follows (fun _ final => final = held) held
      (Server.delete (.reconciliationIdem id)) ∧
    observer.Follows (fun _ final => final = held) held
      (Server.delete (.reconciliationLock id)) := by
  constructor
  · refine ⟨.aside nofun, ?_⟩
    rintro (error | _) <;> rfl
  · refine ⟨.aside nofun, ?_⟩
    rintro (error | _) <;> rfl

theorem perform_follows (server : Server) (entry : QueueEntry) (held : Option QueueEntry) :
    observer.Follows (fun _ final => final = held) held (server.perform entry) := by
  refine (follows_of_outside (executeOperation_outside server entry.op) held).bind ?_
  rintro (error | _) _ rfl
  · rfl
  · refine (delete_follows entry.id _).1.bind ?_
    rintro (error | _) _ rfl
    · rfl
    · exact (delete_follows entry.id _).2

theorem moveToDlq_follows (now : Nat) (entry : QueueEntry) (encoding : Encoding)
    (held : Option QueueEntry) :
    observer.Follows (fun _ _ => True) held (Server.moveToDlq now entry encoding) := by
  refine ⟨.aside nofun, ?_⟩
  rintro (error | _)
  · trivial
  · refine ⟨.aside nofun, fun millis => ⟨.aside nofun, ?_⟩⟩
    rintro (error | _)
    · trivial
    · refine (delete_follows entry.id _).1.bind ?_
      rintro (error | _) _ rfl
      · trivial
      · exact (delete_follows entry.id _).2.imp fun _ _ _ => trivial

theorem retry_follows (entry : QueueEntry) (lastError : Option String) (encoding : Encoding)
    (left : entry.attempt < entry.maxAttempts) :
    observer.Follows (fun _ _ => True) (some entry)
      (Server.retry { entry with lastError := lastError } encoding) := by
  refine ⟨.aside nofun, fun millis => ⟨.putBack _ entry lastError encoding left, ?_⟩⟩
  rintro (error | _)
  · trivial
  · exact (delete_follows entry.id _).2.imp fun _ _ _ => trivial

theorem attempt_follows (server : Server) (now : Nat) (entry : QueueEntry) (encoding : Encoding) :
    observer.Follows (fun _ _ => True) (some { entry with attempt := entry.attempt + 1 })
      (server.attempt now entry encoding) := by
  refine (perform_follows server _ _).bind ?_
  rintro (error | _) _ rfl
  · dsimp only
    split
    · exact (moveToDlq_follows now _ encoding _).bind fun _ _ _ => trivial
    · rename_i left
      exact (retry_follows _ (some error) encoding (Nat.lt_of_not_le left)).bind fun _ _ _ => trivial
  · trivial

theorem processEntry_follows_nextjs (server : Server) (now : Nat) (member : QueueMember)
    (held : Option QueueEntry) :
    observer.Follows (fun _ _ => True) held (server.processEntry now member) := by
  cases member with
  | malformed text =>
    refine ⟨.claim _ _, ?_⟩
    rintro (error | _)
    · trivial
    · refine ⟨.aside nofun, ?_⟩
      rintro (error | _) <;> trivial
  | entry entry encoding =>
    refine ⟨.aside nofun, fun millis => ⟨.aside nofun, ?_⟩⟩
    rintro (error | _ | _)
    · trivial
    · trivial
    · refine ⟨.claim _ _, ?_⟩
      rintro (error | _ | removed)
      · trivial
      · exact (delete_follows entry.id _).2.bind fun _ _ _ => trivial
      · exact attempt_follows server now entry encoding

theorem processEntries_follows_nextjs (server : Server) (now processed : Nat)
    (members : List QueueMember) (held : Option QueueEntry) :
    observer.Follows (fun _ _ => True) held (server.processEntries now processed members) := by
  induction members generalizing processed held with
  | nil => trivial
  | cons member rest ih =>
    refine (processEntry_follows_nextjs server now member held).bind ?_
    rintro (error | _ | _) held _
    · trivial
    · exact ih processed held
    · exact ih (processed + 1) held

theorem processPendingOperations_follows (server : Server) (admitted : Bool) :
    observer.Follows (fun _ _ => True) none (server.processPendingOperations admitted) := by
  cases admitted with
  | false => trivial
  | true =>
    refine ⟨.aside nofun, fun now => ⟨.aside (silent_of_read rfl), ?_⟩⟩
    rintro (error | entries)
    · trivial
    · exact processEntries_follows_nextjs server now 0 entries none

theorem addPending_follows (entry : QueueEntry) (encoding : Encoding) (new : entry.attempt = 0)
    (left : 0 < entry.maxAttempts) :
    observer.Follows (fun _ _ => True) none (addPending entry encoding) := by
  refine ⟨.aside nofun, ?_⟩
  rintro (error | _ | _)
  · trivial
  · refine ⟨.aside nofun, ?_⟩
    rintro (error | _)
    · trivial
    · exact ⟨.aside nofun, fun score => ⟨.add score entry encoding new left, fun _ => trivial⟩⟩
  · trivial

theorem enqueueReconciliation_follows (admitted : Bool) (traceparent tracestate : Option String)
    (op : Operation) :
    observer.Follows (fun _ _ => True) none
      (enqueueReconciliation admitted traceparent tracestate op) := by
  cases admitted with
  | false => trivial
  | true =>
    refine ⟨.aside nofun, fun createdAt => ⟨.aside (silent_of_read rfl), ?_⟩⟩
    rintro (error | pendingCount)
    · trivial
    · refine ⟨.aside nofun, ?_⟩
      rintro (error | _)
      · trivial
      · simp only []
        split
        · trivial
        · refine (follows_of_outside (ensureSessionVersion_outside op) none).bind ?_
          rintro (error | _) _ rfl
          · trivial
          · exact addPending_follows _ _ rfl (Nat.zero_lt_succ 4)

end

/-- The entry is, but for its attempts, the one that was enqueued with the root. -/
def Rooted (state : Register) (root : Nat) (entry : QueueEntry) : Prop :=
  ∃ source encoding, state.inserted[root]? = some ⟨.entry source encoding, root⟩ ∧
    source.attempt = 0 ∧ origin entry = origin source

/-- Every insertion is executed at most once, and every enqueued entry with the attempt
numbers 1, 2, 3, … up to at most its maximum. -/
structure Orderly (state : Register) : Prop where
  rooted : ∀ insertion ∈ state.inserted, ∃ entry encoding,
    insertion.member = .entry entry encoding ∧ Rooted state insertion.root entry
  claimed : ∀ execution ∈ state.executions, ∃ entry encoding,
    state.inserted[execution.insertion]? = some ⟨.entry entry encoding, execution.root⟩ ∧
      execution.entry = { entry with attempt := entry.attempt + 1 }
  once : (state.executions.map Execution.insertion).Nodup
  numbered : ∀ root, state.attempts root = List.range' 1 (state.attempts root).length
  bounded : ∀ execution ∈ state.executions, execution.entry.attempt ≤ execution.entry.maxAttempts

/-- Where the entry with a root is, if it is anywhere. -/
inductive Spot where
  | pending (member : QueueMember)
  | hands (client : Nat)

structure Waiting (state : Register) (spot : Nat → Spot) (entry : QueueEntry)
    (encoding : Encoding) (root : Nat) : Prop where
  inserted : state.inserted[state.place (.entry entry encoding)]? = some ⟨.entry entry encoding, root⟩
  here : spot root = .pending (.entry entry encoding)
  counted : (state.attempts root).length = entry.attempt
  left : entry.attempt < entry.maxAttempts
  unclaimed : state.place (.entry entry encoding) ∉ state.executions.map Execution.insertion

structure Held (state : Register) (spot : Nat → Spot) (client root : Nat) (entry : QueueEntry) :
    Prop where
  rooted : Rooted state root entry
  here : spot root = .hands client
  counted : (state.attempts root).length = entry.attempt

structure Placed (state : Register) (members : List QueueMember) (spot : Nat → Spot) : Prop where
  pending : ∀ member ∈ members, ∃ entry encoding root,
    member = .entry entry encoding ∧ Waiting state spot entry encoding root
  hands : ∀ client root entry, state.hands client = some (root, entry) →
    Held state spot client root entry

section

variable {state : Register} {spot : Nat → Spot} {client root : Nat} {entry : QueueEntry}
variable {encoding : Encoding} {members : List QueueMember}

theorem Rooted.lt (rooted : Rooted state root entry) : root < state.inserted.length := by
  obtain ⟨source, encoding, found, _⟩ := rooted
  exact (List.getElem?_eq_some_iff.mp found).1

private theorem getElem?_enter {number : Nat} {insertion : Insertion} (member : QueueMember)
    (found : state.inserted[number]? = some insertion) :
    (state.enter client member).inserted[number]? = some insertion := by
  have within := (List.getElem?_eq_some_iff.mp found).1
  exact (List.getElem?_append_left within).trans found

theorem Rooted.enter (rooted : Rooted state root entry) (member : QueueMember) :
    Rooted (state.enter client member) root entry := by
  obtain ⟨source, encoding, found, same⟩ := rooted
  exact ⟨source, encoding, getElem?_enter member found, same⟩

theorem Orderly.root_lt (orderly : Orderly state) {number : Nat} {insertion : Insertion}
    (found : state.inserted[number]? = some insertion) : insertion.root < state.inserted.length := by
  obtain ⟨entry, encoding, _, rooted⟩ := orderly.rooted insertion (List.mem_of_getElem? found)
  exact rooted.lt

/-- Nothing was executed under the number of the next insertion. -/
theorem Orderly.attempts_fresh (orderly : Orderly state) :
    state.attempts state.inserted.length = [] := by
  simp only [Register.attempts, List.map_eq_nil_iff, List.filter_eq_nil_iff, beq_iff_eq]
  intro execution executed same
  obtain ⟨entry, encoding, found, _⟩ := orderly.claimed execution executed
  have below : execution.root < state.inserted.length := orderly.root_lt found
  omega

theorem Waiting.rootOf (waiting : Waiting state spot entry encoding root) :
    state.rootOf (.entry entry encoding) = root := by
  simp [Register.rootOf, waiting.inserted]

private theorem attempts_claim (other : Nat) :
    (state.claim client entry encoding).attempts other =
      if state.rootOf (.entry entry encoding) = other then
        state.attempts other ++ [entry.attempt + 1]
      else state.attempts other := by
  simp only [Register.attempts, Register.claim, List.filter_append, List.map_append]
  split
  · rename_i same
    simp [same]
  · rename_i different
    simp [different]

/-- What leaves the queue unclaimed is of no more interest. -/
theorem Placed.shrink (placed : Placed state members spot) {fewer : List QueueMember}
    (subset : fewer ⊆ members) : Placed state fewer spot :=
  ⟨fun member present => placed.pending member (subset present), placed.hands⟩

theorem Placed.letGo (placed : Placed state members spot) : Placed (state.letGo client) members spot := by
  refine ⟨fun member present => ?_, fun other root entry held => ?_⟩
  · obtain ⟨entry, encoding, root, same, waiting⟩ := placed.pending member present
    exact ⟨entry, encoding, root, same,
      waiting.inserted, waiting.here, waiting.counted, waiting.left, waiting.unclaimed⟩
  · have before : state.hands other = some (root, entry) := by
      by_cases own : other = client
      · subst own
        simp [Register.letGo] at held
      · simpa [Register.letGo, Function.update_of_ne own] using held
    obtain ⟨rooted, here, counted⟩ := placed.hands other root entry before
    exact ⟨rooted, here, counted⟩

theorem Orderly.letGo (orderly : Orderly state) : Orderly (state.letGo client) :=
  ⟨orderly.rooted, orderly.claimed, orderly.once, orderly.numbered, orderly.bounded⟩

theorem Orderly.claim (orderly : Orderly state) (waiting : Waiting state spot entry encoding root) :
    Orderly (state.claim client entry encoding) where
  rooted := orderly.rooted
  claimed execution executed := by
    rcases List.mem_append.mp executed with before | new
    · exact orderly.claimed execution before
    · cases List.mem_singleton.mp new
      refine ⟨entry, encoding, ?_, rfl⟩
      rw [waiting.rootOf]
      exact waiting.inserted
  once := by
    simp only [Register.claim, List.map_append, List.map_cons, List.map_nil]
    apply List.Nodup.append orderly.once (List.nodup_singleton _)
    rw [List.disjoint_singleton]
    exact waiting.unclaimed
  numbered other := by
    rw [attempts_claim]
    split
    · rename_i same
      have counted : (state.attempts other).length = entry.attempt := by
        rw [← same, waiting.rootOf, waiting.counted]
      rw [List.length_append, List.length_singleton, List.range'_1_concat, ← orderly.numbered other,
        counted, Nat.add_comm 1]
    · exact orderly.numbered other
  bounded execution executed := by
    rcases List.mem_append.mp executed with before | new
    · exact orderly.bounded execution before
    · cases List.mem_singleton.mp new
      exact waiting.left

theorem Waiting.rooted (waiting : Waiting state spot entry encoding root)
    (orderly : Orderly state) : Rooted state root entry := by
  obtain ⟨source, form, same, rooted⟩ :=
    orderly.rooted _ (List.mem_of_getElem? waiting.inserted)
  cases same
  exact rooted

theorem Placed.claim (placed : Placed state members spot) (orderly : Orderly state)
    (waiting : Waiting state spot entry encoding root) {fewer : List QueueMember}
    (others : ∀ member ∈ fewer, member ∈ members ∧ member ≠ .entry entry encoding) :
    Placed (state.claim client entry encoding) fewer (Function.update spot root (.hands client)) := by
  -- The attempts and the spots of the other entries stay as they are.
  have unmoved {other : Nat} (different : root ≠ other) :
      ((state.claim client entry encoding).attempts other).length = (state.attempts other).length ∧
        Function.update spot root (.hands client) other = spot other := by
    rw [attempts_claim, waiting.rootOf, if_neg different]
    exact ⟨rfl, Function.update_of_ne (Ne.symm different) _ _⟩
  refine ⟨fun member present => ?_, fun other otherRoot held hand => ?_⟩
  · obtain ⟨before, different⟩ := others member present
    obtain ⟨mine, form, otherRoot, rfl, kept⟩ := placed.pending member before
    have apart : root ≠ otherRoot := by
      rintro rfl
      exact different (Spot.pending.inj (kept.here.symm.trans waiting.here))
    have elsewhere : state.place (.entry mine form) ≠ state.place (.entry entry encoding) := by
      intro same
      have both := (same ▸ kept.inserted).symm.trans waiting.inserted
      exact different (Insertion.mk.inj (Option.some.inj both)).1
    refine ⟨mine, form, otherRoot, rfl, kept.inserted, (unmoved apart).2.trans kept.here,
      (unmoved apart).1.trans kept.counted, kept.left, ?_⟩
    simp only [Register.claim, List.map_append, List.mem_append, not_or]
    exact ⟨kept.unclaimed, fun new => elsewhere (List.mem_singleton.mp new)⟩
  · by_cases own : other = client
    · subst own
      simp only [Register.claim, Function.update_self, waiting.rootOf, Option.some.injEq,
        Prod.mk.injEq] at hand
      obtain ⟨rfl, rfl⟩ := hand
      refine ⟨?_, Function.update_self _ _ _, ?_⟩
      · exact waiting.rooted orderly
      · rw [attempts_claim, waiting.rootOf, if_pos rfl, List.length_append, waiting.counted]
        rfl
    · simp only [Register.claim, Function.update_of_ne own] at hand
      obtain ⟨rooted, here, counted⟩ := placed.hands other otherRoot held hand
      have apart : root ≠ otherRoot := by
        rintro rfl
        cases here.symm.trans waiting.here
      exact ⟨rooted, (unmoved apart).2.trans here, (unmoved apart).1.trans counted⟩

theorem Orderly.enter (orderly : Orderly state)
    (rooted : Rooted (state.enter client (.entry entry encoding)) root entry)
    (same : (state.hands client).elim state.inserted.length Prod.fst = root) :
    Orderly (state.enter client (.entry entry encoding)) where
  rooted insertion inserted := by
    rcases List.mem_append.mp inserted with before | new
    · obtain ⟨source, form, member, known⟩ := orderly.rooted insertion before
      exact ⟨source, form, member, known.enter _⟩
    · cases List.mem_singleton.mp new
      exact ⟨entry, encoding, rfl, same ▸ rooted⟩
  claimed execution executed := by
    obtain ⟨source, form, found, counted⟩ := orderly.claimed execution executed
    exact ⟨source, form, getElem?_enter _ found, counted⟩
  once := orderly.once
  numbered := orderly.numbered
  bounded := orderly.bounded

theorem Placed.enter (placed : Placed state members spot) (orderly : Orderly state)
    (same : (state.hands client).elim state.inserted.length Prod.fst = root)
    (counted : (state.attempts root).length = entry.attempt)
    (left : entry.attempt < entry.maxAttempts) (absent : .entry entry encoding ∉ members)
    (apartPending : ∀ source form other, Waiting state spot source form other → other ≠ root)
    (apartHands : ∀ holder other held, holder ≠ client → Held state spot holder other held →
      other ≠ root) {more : List QueueMember}
    (others : ∀ member ∈ more, member ∈ members ∨ member = .entry entry encoding) :
    Placed (state.enter client (.entry entry encoding)) more
      (Function.update spot root (.pending (.entry entry encoding))) := by
  refine ⟨fun member present => ?_, fun holder other held hand => ?_⟩
  · rcases others member present with before | rfl
    · obtain ⟨source, form, other, rfl, kept⟩ := placed.pending member before
      have different : QueueMember.entry source form ≠ .entry entry encoding :=
        fun equal => absent (equal ▸ before)
      have stays : (state.enter client (.entry entry encoding)).place (.entry source form) =
          state.place (.entry source form) := Function.update_of_ne different _ _
      refine ⟨source, form, other, rfl, ?_, ?_, kept.counted, kept.left, ?_⟩
      · rw [stays]
        exact getElem?_enter _ kept.inserted
      · exact (Function.update_of_ne (apartPending _ _ _ kept) _ _).trans kept.here
      · rw [stays]
        exact kept.unclaimed
    · have number : (state.enter client (.entry entry encoding)).place (.entry entry encoding) =
          state.inserted.length := Function.update_self _ _ _
      refine ⟨entry, encoding, root, rfl, ?_, Function.update_self _ _ _, counted, left, ?_⟩
      · rw [number]
        simp [Register.enter, same]
      · rw [number]
        intro executed
        obtain ⟨execution, executed, equal⟩ := List.mem_map.mp executed
        obtain ⟨source, form, found, _⟩ := orderly.claimed execution executed
        have below := (List.getElem?_eq_some_iff.mp found).1
        omega
  · have apart : holder ≠ client := by
      rintro rfl
      simp [Register.enter] at hand
    simp only [Register.enter, Function.update_of_ne apart] at hand
    have before := placed.hands holder other held hand
    have different := apartHands holder other held apart before
    exact ⟨before.rooted.enter _, (Function.update_of_ne different _ _).trans before.here,
      before.counted⟩

end

def Kept (state : Register) (world : World) : Prop :=
  Orderly state ∧ ∃ spot, Placed state (world.members .reconciliationPending) spot

section

variable {state : Register} {world : World} {client : Nat} {outcome : Outcome}

theorem Kept.shrink (kept : Kept state world) {later : World}
    (subset : later.members .reconciliationPending ⊆ world.members .reconciliationPending) :
    Kept state later := by
  obtain ⟨orderly, spot, placed⟩ := kept
  exact ⟨orderly, spot, placed.shrink subset⟩

theorem Kept.letGo (kept : Kept state world) : Kept (state.letGo client) world := by
  obtain ⟨orderly, spot, placed⟩ := kept
  exact ⟨orderly.letGo, spot, placed.letGo⟩

/-- A queue that shows what it showed, or nothing any more. -/
theorem members_subset {later : World} {key : RedisKey}
    (shown : later.lookup key = world.lookup key ∨ later.lookup key = none) :
    later.members key ⊆ world.members key := by
  rcases shown with same | gone
  · simp [World.members, scored_congr same]
  · simp [World.members, World.scored, gone]

theorem Kept.silent (kept : Kept state world) {command : Command}
    (silent : ¬ command.WritesKey .reconciliationPending) :
    Kept state (Command.exec outcome command world).2 := by
  apply kept.shrink
  apply members_subset
  rcases Command.exec_world outcome command world with same | same <;> rw [same]
  · exact .inl rfl
  · exact command.effect_lookup world silent

private theorem note_silent (state : Register) {command : Command}
    (silent : ¬ command.WritesKey .reconciliationPending) (reply : command.Reply) :
    note state client outcome world command reply = state := by
  unfold note
  split
  · exact absurd ⟨rfl, rfl⟩ silent
  · exact absurd ⟨rfl, rfl⟩ silent
  · rfl

/-- A worker that is not told that it took the member goes on without it. -/
theorem note_untold (state : Register) (member : QueueMember)
    (reply : Except RedisLayerError Nat) (untold : ∀ count, reply ≠ .ok (count + 1)) :
    note state client outcome world (.redis (.zrem .reconciliationPending member)) reply = state := by
  rcases reply with error | _ | count
  · cases member <;> rfl
  · cases member <;> rfl
  · exact absurd rfl (untold count)

/-- The worker is told of what its ZREM took, or it goes on without it. -/
theorem Kept.zrem (kept : Kept state world) (member : QueueMember) :
    Kept (register.exchange state client (.redis (.zrem .reconciliationPending member)) outcome world)
      (Command.exec outcome (.redis (.zrem .reconciliationPending member)) world).2 := by
  have fewer : (Command.exec outcome (.redis (.zrem .reconciliationPending member)) world).2.members
      .reconciliationPending ⊆ world.members .reconciliationPending := by
    rcases Command.exec_world outcome (.redis (.zrem .reconciliationPending member)) world with
      same | same <;> rw [same]
    · exact List.Subset.refl _
    · exact fun other present => ((mem_zrem world _ member).mp present).1
  by_cases told : outcome = .success ∧ member ∈ world.members .reconciliationPending
  · obtain ⟨rfl, present⟩ := told
    obtain ⟨orderly, spot, placed⟩ := kept
    obtain ⟨entry, encoding, root, rfl, waiting⟩ := placed.pending member present
    have answered : (Command.exec .success
        (.redis (.zrem .reconciliationPending (.entry entry encoding))) world).1 = .ok 1 :=
      zrem_present world _ _ present
    have noted : register.exchange state client
        (.redis (.zrem .reconciliationPending (.entry entry encoding))) .success world =
        state.claim client entry encoding := by
      simp only [answered, note]
    rw [noted]
    refine ⟨orderly.claim waiting, _, placed.claim orderly waiting ?_⟩
    exact fun other present => (mem_zrem world _ _).mp present
  · have noted : register.exchange state client
        (.redis (.zrem .reconciliationPending member)) outcome world = state := by
      apply note_untold
      intro count answered
      cases outcome with
      | success => exact told ⟨rfl, mem_of_zrem world _ _ answered⟩
      | lost detail => cases answered
      | applied detail => cases answered
    rw [noted]
    exact kept.shrink fewer

/-- ZADD either inserts its member or leaves the members as they are. -/
theorem members_zadd (outcome : Outcome) (world : World) (score : Nat) (member : QueueMember) :
    (enters outcome world member = true ∧ member ∉ world.members .reconciliationPending ∧
      ∀ other ∈ (Command.exec outcome (.redis (.zadd .reconciliationPending score member)) world).2.members
        .reconciliationPending, other ∈ world.members .reconciliationPending ∨ other = member) ∨
    (enters outcome world member = false ∧
      (Command.exec outcome (.redis (.zadd .reconciliationPending score member)) world).2.members
        .reconciliationPending ⊆ world.members .reconciliationPending) := by
  have added : ∀ other ∈ (RedisCommand.effect (.zadd .reconciliationPending score member)
      world).members .reconciliationPending, other ∈ world.members .reconciliationPending ∨
        (other = member ∧ world.holdsQueue .reconciliationPending = true) :=
    fun other present => (mem_zadd world _ _ score).mp present
  cases entered : enters outcome world member with
  | true =>
    simp only [enters, Bool.and_eq_true, Bool.not_eq_true', List.contains_eq_mem,
      decide_eq_false_iff_not] at entered
    obtain ⟨⟨effective, _⟩, absent⟩ := entered
    rw [Command.exec_effect effective]
    exact .inl ⟨rfl, absent, fun other present => (added other present).imp_right And.left⟩
  | false =>
    refine .inr ⟨rfl, ?_⟩
    cases effective : outcome.takesEffect with
    | false =>
      rw [Command.exec_lost effective]
      exact List.Subset.refl _
    | true =>
      rw [Command.exec_effect effective]
      intro other present
      rcases added other present with before | ⟨rfl, queue⟩
      · exact before
      · simpa [enters, effective, queue] using entered

theorem Kept.add (kept : Kept state world) {score : Nat} {entry : QueueEntry} {encoding : Encoding}
    (free : state.hands client = none) (new : entry.attempt = 0) (left : 0 < entry.maxAttempts) :
    Kept
      (register.exchange state client
        (.redis (.zadd .reconciliationPending score (.entry entry encoding))) outcome world)
      (Command.exec outcome
        (.redis (.zadd .reconciliationPending score (.entry entry encoding))) world).2 := by
  simp only [note]
  obtain ⟨entered, absent, others⟩ | ⟨unchanged, fewer⟩ :=
    members_zadd outcome world score (.entry entry encoding)
  · obtain ⟨orderly, spot, placed⟩ := kept
    have root : (state.hands client).elim state.inserted.length Prod.fst = state.inserted.length := by
      rw [free]
      rfl
    have rooted : Rooted (state.enter client (.entry entry encoding)) state.inserted.length entry :=
      ⟨entry, encoding, by simp [Register.enter, free], new, rfl⟩
    rw [if_pos entered]
    refine ⟨orderly.enter rooted root, _, placed.enter orderly root ?_ ?_ absent ?_ ?_ others⟩
    · rw [orderly.attempts_fresh, new]
      rfl
    · omega
    · exact fun _ _ _ waiting => Nat.ne_of_lt (waiting.rooted orderly).lt
    · exact fun _ _ _ _ held => Nat.ne_of_lt held.rooted.lt
  · rw [unchanged]
    exact (kept.shrink fewer).letGo

theorem Kept.putBack (kept : Kept state world) {score root : Nat} {entry : QueueEntry}
    {lastError : Option String} {encoding : Encoding}
    (full : state.hands client = some (root, entry)) (left : entry.attempt < entry.maxAttempts) :
    Kept
      (register.exchange state client (.redis (.zadd .reconciliationPending score
        (.entry { entry with lastError := lastError } encoding))) outcome world)
      (Command.exec outcome (.redis (.zadd .reconciliationPending score
        (.entry { entry with lastError := lastError } encoding))) world).2 := by
  simp only [note]
  obtain ⟨entered, absent, others⟩ | ⟨unchanged, fewer⟩ :=
    members_zadd outcome world score (.entry { entry with lastError := lastError } encoding)
  · obtain ⟨orderly, spot, placed⟩ := kept
    obtain ⟨rooted, here, counted⟩ := placed.hands client root entry full
    have same : (state.hands client).elim state.inserted.length Prod.fst = root := by
      rw [full]
      rfl
    have kept : Rooted (state.enter client (.entry { entry with lastError := lastError } encoding))
        root { entry with lastError := lastError } := rooted.enter _
    rw [if_pos entered]
    refine ⟨orderly.enter kept same, _, placed.enter orderly same ?_ ?_ absent ?_ ?_ others⟩
    · exact counted
    · exact left
    · rintro source form other waiting rfl
      cases here.symm.trans waiting.here
    · rintro holder other held different before rfl
      exact different (Spot.hands.inj (before.here.symm.trans here))
  · rw [unchanged]
    exact (kept.shrink fewer).letGo

theorem Kept.event (kept : Kept state world) (event : Event) : Kept state (environment event world) := by
  cases event with
  | gateway event => exact kept.shrink (members_subset (environment_lookup event world _))
  | elsewhere command =>
    simp only [environment]
    split
    · exact kept
    · rename_i aside
      apply kept.shrink
      apply members_subset
      apply command.effect_lookup world
      intro writes
      cases command with
      | redis command => exact aside (congrArg isQueue writes.2)
      | _ => exact writes

end

private theorem claiming_keeps : phases.Keeps (fun _ _ _ => True) Kept where
  follows _ _ _ call _ := by
    cases call with
    | enqueue op => exact enqueue_follows op
    | processBatch worker => exact processBatch_follows worker
    | enqueueReconciliation => exact enqueueReconciliation_follows _ _ _ _
    | processPendingOperations => exact processPendingOperations_follows _ _
  command state config client outcome call command rest _ _ allowed kept := by
    simp only [phases] at allowed
    generalize held : (state.hands client).map Prod.snd = hand at allowed
    cases allowed with
    | claim _ member => exact kept.zrem member
    | add score entry encoding new left => exact kept.add (Option.map_eq_none_iff.mp held) new left
    | putBack score entry lastError encoding left =>
      obtain ⟨⟨root, _⟩, full, rfl⟩ := Option.map_eq_some_iff.mp held
      exact kept.putBack full left
    | aside silent =>
      have noted : register.exchange state client command outcome config.world = state :=
        note_silent state silent _
      rw [noted]
      exact kept.silent silent
  event _ _ event _ kept := kept.event event
  crash _ _ _ _ kept := kept.letGo

/-- In every run of enqueuers and workers of both services on a queue that was empty,
whatever commands fail, whichever client crashes, and whatever happens to the locks:
every execution belongs to an insertion of its entry, no insertion has two, and the
attempts at each enqueued entry are numbered 1, 2, 3, … up to at most its maximum. -/
theorem executed_once_in_order {world : World} {moves : List queue.Move} {state : Register}
    {last : queue.Config} (empty : world.members .reconciliationPending = [])
    (run : Watched register (fun _ _ _ => True) Register.empty (.initial world) moves state last) :
    Orderly state := by
  have initially : Kept Register.empty world := by
    have orderly : Orderly Register.empty :=
      ⟨List.forall_mem_nil _, List.forall_mem_nil _, List.nodup_nil, fun _ => rfl,
        List.forall_mem_nil _⟩
    refine ⟨orderly, fun _ => .hands 0, ?_, nofun⟩
    rw [empty]
    exact List.forall_mem_nil _
  exact (claiming_keeps.run run (fun _ => rfl) initially).1

def sampleWorker : Gateway.Reconciliation.Worker := ⟨Sample.sha256Hex, true, 86400, 5, "worker:1"⟩

def sampleServer : Nextjs.Server := ⟨Sample.sha256Hex, true, 86400, 5, ["token"], ["token"], "web:1"⟩

def times (count client : Nat) : List queue.Move :=
  List.replicate count (.act (.step client Outcome.success))

/-- Two workers list the same entry, and the lock between them vanishes; the one that
gets hold of the entry fails, and a third worker tries again. -/
def contended : List queue.Move :=
  .act (.start 0 (.enqueue (.tokenRevocation "jti_1" 60))) :: times 4 0 ++
  .act (.start 1 (.processBatch sampleWorker)) :: times 4 1 ++
  .act (.start 2 (.processPendingOperations sampleServer true)) :: times 2 2 ++
  .act (.environment (.gateway (.evict (.reconciliationLock "revoke:jti_1")))) :: times 2 2 ++
  times 1 1 ++ times 2 2 ++ times 1 1 ++
  .act (.step 1 (Outcome.lost "connection refused")) :: times 3 1 ++
  .act (.environment (.gateway (.tick 2000))) ::
  .act (.start 3 (.processPendingOperations sampleServer true)) :: times 8 3

theorem contended_in_order :
    ∃ state last, Watched register (fun _ _ _ => True) Register.empty
        (.initial (World.empty 1000000)) contended state last ∧
      state.executions.map Execution.client = [1, 3] ∧ state.attempts 0 = [1, 2] ∧
      Orderly state := by
  obtain ⟨state, last, run, checked⟩ := Watched.of_check register (fun _ _ _ => True)
    Register.empty (.initial (World.empty 1000000)) contended
    (fun state _ => state.executions.map Execution.client == [1, 3] && state.attempts 0 == [1, 2])
    (by decide +kernel)
  simp only [Bool.and_eq_true, beq_iff_eq] at checked
  exact ⟨state, last, run, checked.1, checked.2, executed_once_in_order rfl run⟩

end BrainMate.Reconciliation.Claiming
