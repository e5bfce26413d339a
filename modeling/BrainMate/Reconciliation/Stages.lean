import BrainMate.Reconciliation.Clients

namespace BrainMate.Reconciliation

open Interleaving System Gateway

inductive Stage where
  | free
  /-- `enqueueReconciliation` has seen that there is no key. -/
  | checked (id : String)
  /-- The key is set; the entry is about to be added. -/
  | announced (id : String)
  /-- An entry with this id was removed from the queue, and neither put back nor is its key
  deleted. -/
  | holds (id : String)
  /-- A follow-up command was answered with an error. -/
  | stray
  deriving DecidableEq, Repr

namespace Stage

def advance (stage : Stage) : (command : Command) → command.Reply → Stage
  | .redis (.existsKey key), reply =>
    match key, reply with
    | .reconciliationIdem id, .ok false => .checked id
    | _, _ => stage
  | .redis (.setNxEx key _ _), reply =>
    match key, reply with
    | .reconciliationIdem _, .ok false => stage
    | .reconciliationIdem id, _ => .announced id
    | _, _ => stage
  | .redis (.setEx key _ _), reply =>
    match key, reply with
    | .reconciliationIdem id, .ok () => .announced id
    | .reconciliationIdem _, .error _ => .free
    | _, _ => stage
  | .redis (.zadd key _ _), reply =>
    match key, reply with
    | .reconciliationPending, _ => .free
    | .reconciliationDlq, .error _ => .stray
    | _, _ => stage
  | .redis (.zrem key member), reply =>
    match key, member, reply with
    | .reconciliationPending, .entry entry _, .ok (_ + 1) => .holds entry.id
    | _, _, _ => stage
  | .redis (.zremrangeByScore key _), reply =>
    match key, reply with
    | .reconciliationDlq, .error _ => .stray
    | _, _ => stage
  | .redis (.delete key), reply =>
    match key, reply with
    | .reconciliationIdem _, .ok _ => .free
    | .reconciliationIdem _, .error _ | .reconciliationLock _, .error _ => .stray
    | _, _ => stage
  | _, _ => stage

/-- The client is between two entries. -/
def idle : Stage → Bool
  | .free | .stray => true
  | .checked _ | .announced _ | .holds _ => false

/-- The command changes neither of the queues, has nothing to do with idempotency keys,
and is not the end of an attempt. -/
def Apart : Command → Prop
  | .redis command => (∀ id, command.key ≠ .reconciliationIdem id) ∧
      (command.reads = true ∨ isQueue command.key = false) ∧
      ∀ id, command ≠ .delete (.reconciliationLock id)
  | .now | .db _ | .http => True

inductive Allowed : Stage → Command → Prop where
  | check (id : String) : Allowed .free (.redis (.existsKey (.reconciliationIdem id)))
  | set (id : String) (value : RedisValue) (ttlSecs : Nat) :
      Allowed (.checked id) (.redis (.setEx (.reconciliationIdem id) value ttlSecs))
  | setNew (id : String) (value : RedisValue) (ttlSecs : Nat) :
      Allowed .free (.redis (.setNxEx (.reconciliationIdem id) value ttlSecs))
  | add (score : Nat) (entry : QueueEntry) (encoding : Encoding) :
      Allowed (.announced entry.id)
        (.redis (.zadd .reconciliationPending score (.entry entry encoding)))
  | claim {stage : Stage} (idle : stage.idle = true) (member : QueueMember) :
      Allowed stage (.redis (.zrem .reconciliationPending member))
  | putBack (score : Nat) (entry : QueueEntry) (encoding : Encoding) :
      Allowed (.holds entry.id)
        (.redis (.zadd .reconciliationPending score (.entry entry encoding)))
  | forget (id : String) : Allowed (.holds id) (.redis (.delete (.reconciliationIdem id)))
  | revive (score : Nat) (member : QueueMember) :
      Allowed .stray (.redis (.zadd .reconciliationPending score member))
  | forgetLate (id : String) : Allowed .stray (.redis (.delete (.reconciliationIdem id)))
  | release {stage : Stage} (idle : stage.idle = true) (id : String) :
      Allowed stage (.redis (.delete (.reconciliationLock id)))
  | bury (stage : Stage) (score : Nat) (member : QueueMember) :
      Allowed stage (.redis (.zadd .reconciliationDlq score member))
  | prune (stage : Stage) (cutoff : Nat) :
      Allowed stage (.redis (.zremrangeByScore .reconciliationDlq cutoff))
  | aside {stage : Stage} {command : Command} (apart : Apart command) : Allowed stage command

@[reducible] def observer : Observer Command Command.Reply := ⟨Stage, .free, advance, Allowed⟩

/-- The ghost knows the stage of each client. -/
@[reducible] def watcher : queue.Ghost where
  State := Nat → Stage
  exchange stages client command outcome world :=
    Function.update stages client
      (advance (stages client) command (Command.exec outcome command world).1)
  crash stages client _ := Function.update stages client .free

def phases : watcher.Phases observer where
  phase stages := stages
  exchange_own _ _ _ _ _ := Function.update_self _ _ _
  exchange_other _ _ _ _ _ _ different := Function.update_of_ne different _ _
  crash_own _ _ _ := Function.update_self _ _ _
  crash_other _ _ _ _ different := Function.update_of_ne different _ _

private theorem apart_of_outside {command : Command} (outside : Within Outside command) :
    Apart command := by
  cases command with
  | redis command =>
    obtain ⟨queue, idem, lock⟩ := outside
    refine ⟨idem, .inr queue, ?_⟩
    rintro id rfl
    exact lock id rfl
  | _ => trivial

theorem advance_apart {command : Command} (apart : Apart command) (stage : Stage)
    (reply : command.Reply) : advance stage command reply = stage := by
  cases command with
  | redis command =>
    obtain ⟨idem, queue, lock⟩ := apart
    cases command with
    | existsKey key => cases key <;> first | rfl | exact absurd rfl (idem _)
    | setNxEx key => cases key <;> first | rfl | exact absurd rfl (idem _)
    | setEx key => cases key <;> first | rfl | exact absurd rfl (idem _)
    | zadd key => cases key <;> first | rfl | (rcases queue with only | only <;> cases only)
    | zrem key => cases key <;> first | rfl | (rcases queue with only | only <;> cases only)
    | zremrangeByScore key => cases key <;> first | rfl | (rcases queue with only | only <;> cases only)
    | delete key => cases key <;> first | rfl | exact absurd rfl (idem _) | exact absurd rfl (lock _)
    | _ => rfl
  | _ => rfl

/-- Whatever a client does outside the protocol, it stays in its stage. -/
theorem follows_of_outside {α : Type} {procedure : Procedure α}
    (outside : procedure.Every (Within Outside)) (stage : Stage) :
    observer.Follows (fun _ final => final = stage) stage procedure := by
  refine Observer.follows_of_every observer stage ?_ ?_ outside
  · intro command outside
    exact .aside (apart_of_outside outside)
  · intro command reply outside
    exact advance_apart (apart_of_outside outside) stage reply

/-- The worker has an entry with this id to finish with, or has lost it. -/
def Finishing (id : String) (stage : Stage) : Prop := stage = .holds id ∨ stage = .stray

private theorem delete_lock {stage : Stage} (idle : stage.idle = true) (id : String)
    (reply : Except RedisLayerError Nat) :
    (advance stage (.redis (.delete (.reconciliationLock id))) reply).idle = true := by
  cases reply with
  | ok => exact idle
  | error => rfl

private theorem delete_idem (stage : Stage) (id : String) (reply : Except RedisLayerError Nat) :
    (advance stage (.redis (.delete (.reconciliationIdem id))) reply).idle = true := by
  cases reply <;> rfl

private theorem allowed_forget {id : String} {stage : Stage} (finishing : Finishing id stage) :
    Allowed stage (.redis (.delete (.reconciliationIdem id))) := by
  rcases finishing with rfl | rfl
  · exact .forget id
  · exact .forgetLate id

theorem Finishing.bury {id : String} {stage : Stage} (finishing : Finishing id stage) (score : Nat)
    (member : QueueMember) (reply : Except RedisLayerError Nat) :
    Finishing id (advance stage (.redis (.zadd .reconciliationDlq score member)) reply) := by
  cases reply with
  | ok => exact finishing
  | error => exact .inr rfl

theorem Finishing.prune {id : String} {stage : Stage} (finishing : Finishing id stage)
    (cutoff : Nat) (reply : Except RedisLayerError Nat) :
    Finishing id (advance stage (.redis (.zremrangeByScore .reconciliationDlq cutoff)) reply) := by
  cases reply with
  | ok => exact finishing
  | error => exact .inr rfl

theorem apart_now : Apart .now := trivial

private theorem apart_claim (id : String) (value : RedisValue) (ttlSecs : Nat) :
    Apart (.redis (.setNxEx (.reconciliationLock id) value ttlSecs)) := ⟨nofun, .inr rfl, nofun⟩

private theorem apart_list (maxScore limit : Nat) :
    Apart (.redis (.zrangeByScore .reconciliationPending maxScore limit)) := ⟨nofun, .inl rfl, nofun⟩

private theorem apart_count (key : RedisKey) (other : ∀ id, key ≠ .reconciliationIdem id) :
    Apart (.redis (.zcard key)) := ⟨other, .inl rfl, nofun⟩

section

open Gateway.Reconciliation

theorem release_follows (entry : QueueEntry) {stage : Stage} (idle : stage.idle = true) :
    observer.Follows (fun _ final => final.idle = true) stage (Worker.release entry) :=
  ⟨.release idle entry.id, fun reply => delete_lock idle entry.id reply⟩

theorem forget_follows (entry : QueueEntry) {stage : Stage} (finishing : Finishing entry.id stage) :
    observer.Follows (fun _ final => final.idle = true) stage (Worker.forget entry) :=
  ⟨allowed_forget finishing, fun reply => release_follows entry (delete_idem stage entry.id reply)⟩

theorem moveToDlq_follows (entry : QueueEntry) :
    observer.Follows (fun _ final => final.idle = true) (.holds entry.id) (Worker.moveToDlq entry) := by
  refine ⟨.aside apart_now, fun dlqScore => ⟨.bury _ _ _, fun buried => ?_⟩⟩
  refine ⟨.aside apart_now, fun now => ⟨.prune _ _, fun pruned => ?_⟩⟩
  apply forget_follows
  exact Finishing.prune (Finishing.bury (.inl rfl) _ _ buried) _ pruned

theorem settle_follows (entry : QueueEntry) (result : Except String Unit) :
    observer.Follows (fun _ final => final.idle = true) (.holds entry.id)
      (Worker.settle entry result) := by
  rcases result with error | _
  · simp only [Worker.settle]
    split
    · exact moveToDlq_follows { entry with lastError := some error }
    · refine ⟨.aside apart_now, fun now => ⟨.putBack _ { entry with lastError := some error } .serde, ?_⟩⟩
      exact fun _ => release_follows _ rfl
  · exact forget_follows entry (.inl rfl)

theorem processEntry_follows (worker : Worker) (member : QueueMember) {stage : Stage}
    (idle : stage.idle = true) :
    observer.Follows (fun _ final => final.idle = true) stage (worker.processEntry member) := by
  cases member with
  | malformed text => exact ⟨.claim idle _, fun _ => idle⟩
  | entry entry encoding =>
    refine ⟨.aside apart_now, fun millis => ⟨.aside (apart_claim _ _ _), ?_⟩⟩
    rintro (error | _ | _)
    · exact idle
    · exact idle
    · refine ⟨.claim idle _, ?_⟩
      rintro (error | _ | removed)
      · exact release_follows entry idle
      · exact release_follows entry idle
      · refine (follows_of_outside (execute_outside worker _) _).bind ?_
        rintro result _ rfl
        exact settle_follows { entry with attempt := entry.attempt + 1 } result

theorem processEntries_follows (worker : Worker) (members : List QueueMember) {stage : Stage}
    (idle : stage.idle = true) :
    observer.Follows (fun _ final => final.idle = true) stage (worker.processEntries members) := by
  induction members generalizing stage with
  | nil => exact idle
  | cons member rest ih => exact (processEntry_follows worker member idle).bind fun _ _ idle => ih idle

theorem processBatch_follows (worker : Worker) :
    observer.Follows (fun _ _ => True) .free worker.processBatch := by
  refine ⟨.aside apart_now, fun now => ⟨.aside (apart_list _ _), ?_⟩⟩
  rintro (error | entries)
  · trivial
  · exact (processEntries_follows worker entries rfl).bind fun _ _ _ => trivial

theorem enqueue_follows (op : ReconciliationOp) :
    observer.Follows (fun _ _ => True) .free (enqueue op) := by
  have add (createdAt : Nat) : observer.Follows (fun _ _ => True) (.announced (operationId op))
      (addPending ⟨operationId op, op, 0, maxAttempts, createdAt, none⟩) :=
    ⟨.aside apart_now, fun score =>
      ⟨.add score ⟨operationId op, op, 0, maxAttempts, createdAt, none⟩ .serde, fun _ => trivial⟩⟩
  refine ⟨.aside apart_now, fun createdAt => ⟨.setNew _ _ _, ?_⟩⟩
  rintro (error | _ | _)
  · exact add createdAt
  · trivial
  · exact add createdAt

end

section

open Nextjs

private theorem delete_idem_follows (id : String) {stage : Stage} (finishing : Finishing id stage) :
    observer.Follows
      (fun answer final => (answer = .ok () ∧ final = .free) ∨ (answer.isOk = false ∧ final = .stray))
      stage (Server.delete (.reconciliationIdem id)) := by
  refine ⟨allowed_forget finishing, ?_⟩
  rintro (error | count)
  · exact .inr ⟨rfl, rfl⟩
  · exact .inl ⟨rfl, rfl⟩

theorem delete_lock_follows (id : String) {stage : Stage} (idle : stage.idle = true) :
    observer.Follows
      (fun answer final => (answer = .ok () ∧ final = stage) ∨ (answer.isOk = false ∧ final = .stray))
      stage (Server.delete (.reconciliationLock id)) := by
  refine ⟨.release idle id, ?_⟩
  rintro (error | count)
  · exact .inr ⟨rfl, rfl⟩
  · exact .inl ⟨rfl, rfl⟩

/-- An attempt that succeeds is done with its entry; one that fails has it to finish with. -/
theorem perform_follows (server : Server) (entry : QueueEntry) :
    observer.Follows
      (fun answer final => (answer = .ok () ∧ final = .free) ∨
        ((∃ error, answer = .error error) ∧ Finishing entry.id final))
      (.holds entry.id) (server.perform entry) := by
  refine (follows_of_outside (executeOperation_outside server entry.op) _).bind ?_
  rintro (error | _) _ rfl
  · exact .inr ⟨⟨error, rfl⟩, .inl rfl⟩
  · refine (delete_idem_follows entry.id (.inl rfl)).bind ?_
    rintro (error | _) final (⟨⟨⟩, rfl⟩ | ⟨⟨⟩, rfl⟩)
    · exact .inr ⟨⟨error, rfl⟩, .inr rfl⟩
    · refine (delete_lock_follows entry.id rfl).imp ?_
      rintro (error | _) final (⟨⟨⟩, rfl⟩ | ⟨⟨⟩, rfl⟩)
      · exact .inr ⟨⟨error, rfl⟩, .inr rfl⟩
      · exact .inl ⟨rfl, rfl⟩

private theorem moveToDlq_follows_nextjs (now : Nat) (entry : QueueEntry) (encoding : Encoding)
    {stage : Stage} (finishing : Finishing entry.id stage) :
    observer.Follows (fun _ final => final.idle = true) stage
      (Server.moveToDlq now entry encoding) := by
  refine ⟨.bury _ _ _, ?_⟩
  rintro (error | buried)
  · rfl
  · refine ⟨.aside apart_now, fun millis => ⟨.prune _ _, ?_⟩⟩
    rintro (error | pruned)
    · rfl
    · refine (delete_idem_follows entry.id finishing).bind ?_
      rintro (error | _) final (⟨⟨⟩, rfl⟩ | ⟨⟨⟩, rfl⟩)
      · rfl
      · refine (delete_lock_follows entry.id rfl).imp ?_
        rintro answer final (⟨_, rfl⟩ | ⟨_, rfl⟩) <;> rfl

theorem retry_follows (entry : QueueEntry) (encoding : Encoding) {stage : Stage}
    (finishing : Finishing entry.id stage) :
    observer.Follows (fun _ final => final.idle = true) stage (Server.retry entry encoding) := by
  refine ⟨.aside apart_now, fun millis => ⟨?_, ?_⟩⟩
  · rcases finishing with rfl | rfl
    · exact .putBack _ entry encoding
    · exact .revive _ _
  · rintro (error | _)
    · rfl
    · refine (delete_lock_follows entry.id rfl).imp ?_
      rintro answer final (⟨_, rfl⟩ | ⟨_, rfl⟩) <;> rfl

theorem attempt_follows (server : Server) (now : Nat) (entry : QueueEntry) (encoding : Encoding) :
    observer.Follows (fun _ final => final.idle = true) (.holds entry.id)
      (server.attempt now entry encoding) := by
  refine (perform_follows server { entry with attempt := entry.attempt + 1 }).bind ?_
  rintro (error | _) final (⟨⟨⟩, rfl⟩ | ⟨⟨_, ⟨⟩⟩, finishing⟩)
  · dsimp only
    split
    · exact (moveToDlq_follows_nextjs now
        { entry with attempt := entry.attempt + 1, lastError := some error } encoding
        finishing).bind fun _ _ idle => idle
    · exact (retry_follows { entry with attempt := entry.attempt + 1, lastError := some error }
        encoding finishing).bind fun _ _ idle => idle
  · rfl

theorem processEntry_follows_nextjs (server : Server) (now : Nat) (member : QueueMember)
    {stage : Stage} (idle : stage.idle = true) :
    observer.Follows (fun _ final => final.idle = true) stage (server.processEntry now member) := by
  cases member with
  | malformed text =>
    refine ⟨.claim idle _, ?_⟩
    rintro (error | count)
    · exact idle
    · refine ⟨.bury _ _ _, ?_⟩
      rintro (error | _)
      · rfl
      · exact idle
  | entry entry encoding =>
    refine ⟨.aside apart_now, fun millis => ⟨.aside (apart_claim _ _ _), ?_⟩⟩
    rintro (error | _ | _)
    · exact idle
    · exact idle
    · refine ⟨.claim idle _, ?_⟩
      rintro (error | _ | removed)
      · exact idle
      · refine (delete_lock_follows entry.id idle).bind ?_
        rintro answer final (⟨_, rfl⟩ | ⟨_, rfl⟩)
        · exact idle
        · rfl
      · exact attempt_follows server now entry encoding

theorem processEntries_follows_nextjs (server : Server) (now processed : Nat)
    (members : List QueueMember) {stage : Stage} (idle : stage.idle = true) :
    observer.Follows (fun _ _ => True) stage (server.processEntries now processed members) := by
  induction members generalizing processed stage with
  | nil => trivial
  | cons member rest ih =>
    refine (processEntry_follows_nextjs server now member idle).bind ?_
    rintro (error | _ | _) final idle
    · trivial
    · exact ih processed idle
    · exact ih (processed + 1) idle

theorem processPendingOperations_follows (server : Server) (admitted : Bool) :
    observer.Follows (fun _ _ => True) .free (server.processPendingOperations admitted) := by
  cases admitted with
  | false => trivial
  | true =>
    refine ⟨.aside apart_now, fun now => ⟨.aside (apart_list _ _), ?_⟩⟩
    rintro (error | entries)
    · trivial
    · exact processEntries_follows_nextjs server now 0 entries rfl

theorem addPending_follows (entry : QueueEntry) (encoding : Encoding) :
    observer.Follows (fun _ _ => True) .free (addPending entry encoding) := by
  refine ⟨.check entry.id, ?_⟩
  rintro (error | _ | _)
  · trivial
  · refine ⟨.set entry.id _ _, ?_⟩
    rintro (error | _)
    · trivial
    · exact ⟨.aside apart_now, fun score => ⟨.add score entry encoding, fun _ => trivial⟩⟩
  · trivial

theorem enqueueReconciliation_follows (admitted : Bool) (traceparent tracestate : Option String)
    (op : Operation) :
    observer.Follows (fun _ _ => True) .free
      (enqueueReconciliation admitted traceparent tracestate op) := by
  cases admitted with
  | false => trivial
  | true =>
    refine ⟨.aside apart_now, fun createdAt => ⟨.aside (apart_count _ nofun), ?_⟩⟩
    rintro (error | pendingCount)
    · trivial
    · refine ⟨.aside (apart_count _ nofun), ?_⟩
      rintro (error | _)
      · trivial
      · dsimp only
        split
        · trivial
        · refine (follows_of_outside (ensureSessionVersion_outside op) _).bind ?_
          rintro (error | _) _ rfl
          · trivial
          · exact addPending_follows _ _

end

/-- Every call keeps to the stages. -/
theorem program_follows (call : Call) :
    observer.Follows (fun _ _ => True) .free (Call.program call) := by
  cases call with
  | enqueue op => exact enqueue_follows op
  | processBatch worker => exact processBatch_follows worker
  | enqueueReconciliation => exact enqueueReconciliation_follows _ _ _ _
  | processPendingOperations => exact processPendingOperations_follows _ _

end Stage

end BrainMate.Reconciliation
