import BrainMate.Gateway.LogoutWindow
import BrainMate.Gateway.Queue

namespace BrainMate.Gateway.LogoutSafety

open Interleaving System

/-- Executing the operation blacklists the token. -/
def coversToken (jti : String) : ReconciliationOp → Bool
  | .tokenRevocation named _ => named == jti
  | .sessionRevoke _ (some named) (some _) _ => named == jti
  | _ => false

/-- Executing the operation revokes the session. -/
def coversSession (sessionId : String) : ReconciliationOp → Bool
  | .sessionRevoke named _ _ _ => named == sessionId
  | _ => false

def coveredBy (covers : ReconciliationOp → Bool) : QueueMember → Bool
  | .entry entry _ => covers entry.op
  | .malformed _ => false

/-- An operation of this kind is in `reconciliation:pending`. -/
def queued (world : World) (covers : ReconciliationOp → Bool) : Bool :=
  (world.members .reconciliationPending).any (coveredBy covers)

/-- One of the stores refuses the token. -/
def blacklisted (db : Bool) (world : World) (jti : String) : Bool :=
  (world.lookup (.blacklist jti)).isSome || (db && LogoutWindow.listed world jti)

section

variable (site : Deployment) (pattern : Command → Outcome)

/-- A procedure served at one instant, each command having the outcome the pattern
gives it, with its answer and the world it leaves. -/
def serve {α : Type} (program : Procedure α) (world : World) : α × World :=
  (site.system.serveBy pattern program world).2

variable (world : World) (context : Auth.UserContext)

/-- The answer of the session store inside `logout`. -/
def sessionAnswer : Except ApiError Unit :=
  (serve site pattern (SessionStore.revokeSession site.sha256Hex site.db context.sessionId)
    (serve site pattern (Auth.logoutToken site.db site.reconciliation context) world).2).1

/-- A logout that answers 204 leaves nothing live and unscheduled. -/
def Safe : Prop :=
  let (answer, after) :=
    serve site pattern (Auth.logout site.sha256Hex site.db site.reconciliation context) world
  answer = .ok () →
    (blacklisted site.db after context.tokenId || queued after (coversToken context.tokenId)) ∧
    ((sessionAnswer site pattern world context).isOk ||
      queued after (coversSession context.sessionId))

instance : Decidable (Safe site pattern world context) :=
  inferInstanceAs (Decidable (_ = _ → _ ∧ _))

end

section

variable (db : Bool) (pattern : Command → Outcome) (world : World)

/-- The command was answered without an error. -/
def succeeds (command : Command) : Bool := pattern command == .success

/-- The idempotency key makes `enqueue` skip the operation. -/
def skipped (op : ReconciliationOp) : Bool :=
  let key := RedisKey.reconciliationIdem (Reconciliation.operationId op)
  succeeds pattern (.redis (.setNxEx key (.text "1") Reconciliation.idemTtlSecs)) &&
    acceptsTtl world.clock Reconciliation.idemTtlSecs && (world.lookup key).isSome

/-- What `enqueue` puts in the queue for an operation. -/
def newMember (op : ReconciliationOp) : QueueMember :=
  .entry ⟨Reconciliation.operationId op, op, 0, Reconciliation.maxAttempts, world.clock, none⟩ .serde

/-- `enqueue` puts the operation in the queue. -/
def adds (op : ReconciliationOp) : Bool :=
  !skipped pattern world op && world.holdsQueue .reconciliationPending &&
    (pattern (.redis (.zadd .reconciliationPending world.clock (newMember world op)))).takesEffect

variable (jti : String) (ttlSecs : Nat)

/-- What the database would store as the end of the revocation. -/
def rowExpiry : Int := addI64 (asI64 world.second) (asI64 ttlSecs)

/-- The INSERT of `TokenBlacklist::revoke` is answered, or there is none. -/
def inserted : Bool := !db || succeeds pattern (.db (.addToBlacklist jti (rowExpiry world ttlSecs)))

/-- The store that decides the answer of `TokenBlacklist::revoke` acknowledges. -/
def tokenReported : Bool :=
  (TokenBlacklist.validateTokenId jti).isOk && inserted db pattern world jti ttlSecs &&
    (db || (succeeds pattern (.redis (.setEx (.blacklist jti) (.text "1") ttlSecs)) &&
      acceptsTtl world.clock ttlSecs))

/-- `TokenBlacklist::revoke` reaches one of the stores: the SETEX is issued and stores
its key, or the INSERT adds a row that is not expired. -/
def tokenMarked : Bool :=
  (TokenBlacklist.validateTokenId jti).isOk &&
    ((inserted db pattern world jti ttlSecs && acceptsTtl world.clock ttlSecs &&
        (pattern (.redis (.setEx (.blacklist jti) (.text "1") ttlSecs))).takesEffect) ||
      (db && (world.db.blacklist.find? jti).isNone &&
        decide (asI64 world.second < rowExpiry world ttlSecs) &&
        (pattern (.db (.addToBlacklist jti (rowExpiry world ttlSecs)))).takesEffect))

/-- The store that decides the answer of `SessionStore::revoke_session` acknowledges. -/
def sessionReported (sessionId : String) : Bool :=
  (SessionStore.validateSessionId sessionId).isOk &&
    succeeds pattern (if db then .db (.revokeSession sessionId) else .redis (.getDel (.session sessionId)))

end

section

variable (site : Deployment) (pattern : Command → Outcome) (world : World)
variable (context : Auth.UserContext)

def tokenOp : ReconciliationOp :=
  .tokenRevocation context.tokenId (context.expiresAt - world.second)

def sessionOp : ReconciliationOp :=
  .sessionRevoke context.sessionId (some context.tokenId) (some context.expiresAt) none

/-- The worker is there, the session store reported an error, and the queue takes the
operation. -/
def sessionScheduled : Bool :=
  site.reconciliation && !sessionReported site.db pattern context.sessionId &&
    adds pattern world (sessionOp context)

def tokenScheduled : Bool :=
  site.reconciliation &&
    !tokenReported site.db pattern world context.tokenId (context.expiresAt - world.second) &&
    adds pattern world (tokenOp world context)

/-- The token was withdrawn or queued before, or a store takes the revocation, or the
queue takes one of the two operations that carry the token. -/
def tokenCovered : Bool :=
  blacklisted site.db world context.tokenId || queued world (coversToken context.tokenId) ||
    tokenMarked site.db pattern world context.tokenId (context.expiresAt - world.second) ||
    tokenScheduled site pattern world context || sessionScheduled site pattern world context

def sessionCovered : Bool :=
  sessionReported site.db pattern context.sessionId ||
    queued world (coversSession context.sessionId) || sessionScheduled site pattern world context

end

/-- The clock shows the same time and only the touched keys may have changed. -/
structure Leaves (touched : RedisKey → Prop) (before after : World) : Prop where
  clock : after.clock = before.clock
  lookup : ∀ key, ¬ touched key → after.lookup key = before.lookup key

section

variable {site : Deployment} {pattern : Command → Outcome} {touched : RedisKey → Prop}

private theorem leaves_tolerates : Tolerates site.system Eq (Leaves touched) (Within touched) where
  refl world := ⟨rfl, fun _ _ => rfl⟩
  trans first second :=
    ⟨second.clock.trans first.clock,
      fun key aside => (second.lookup key aside).trans (first.lookup key aside)⟩
  elapse same := same ▸ ⟨rfl, fun _ _ => rfl⟩
  command {command} within outcome world := by
    refine ⟨command.exec_clock outcome world, fun key aside => ?_⟩
    rcases Command.exec_world outcome command world with same | same <;> simp only [same]
    cases command with
    | redis command => exact command.effect_lookup_other world fun own => aside (own ▸ within)
    | _ => rfl

theorem serve_leaves {α : Type} {program : Procedure α} (within : program.Every (Within touched))
    (world : World) : Leaves touched world (serve site pattern program world).2 :=
  (executes_serveBy site.system pattern program world).respects leaves_tolerates within

/-- What is not about the blacklist leaves it as it is. -/
theorem serve_blacklisted {α : Type} {program : Procedure α}
    (within : program.Every (Within touched)) (aside : program.Every LogoutWindow.Aside)
    (world : World) (jti : String) :
    blacklisted site.db (serve site pattern program world).2 jti = blacklisted site.db world jti := by
  have left : Leaves touched world (serve site pattern program world).2 :=
    serve_leaves within world
  have kept := ((executes_serveBy site.system pattern program world).mono waits_of_eq).respects
    (LogoutWindow.undisturbed_tolerates jti) aside
  have second : (serve site pattern program world).2.second = world.second := by
    simp only [World.second, left.clock]
  have entry : (serve site pattern program world).2.lookup (.blacklist jti) =
      world.lookup (.blacklist jti) := by
    simp only [World.lookup, left.clock]
    exact congrArg _ (congrArg _ kept.entry)
  have row : (serve site pattern program world).2.db.blacklist.find? jti =
      world.db.blacklist.find? jti := kept.row
  simp only [blacklisted, LogoutWindow.listed, second, entry, row]

end

section

variable {site : Deployment} {pattern : Command → Outcome} {α β : Type}

theorem serve_bind (program : Procedure α) (next : α → Procedure β) (world : World) :
    serve site pattern (program >>= next) world =
      serve site pattern (next (serve site pattern program world).1)
        (serve site pattern program world).2 :=
  @serveBy_bind _ _ site.system _ _ pattern program next world

theorem serve_call {command : Command} (next : command.Reply → Procedure α) (world : World) :
    serve site pattern (.call command next) world =
      serve site pattern (next (Command.exec (pattern command) command world).1)
        (Command.exec (pattern command) command world).2 := rfl

/-- Reading the clock changes nothing and always succeeds. -/
theorem serve_now (next : Nat → Procedure α) (world : World) :
    serve site pattern (.call .now next) world = serve site pattern (next world.clock) world := by
  rw [serve_call]
  cases pattern .now <;> rfl

end

section

variable (site : Deployment) (db : Bool) (pattern : Command → Outcome) (world : World)
variable (jti : String) (ttlSecs : Nat)

private theorem cacheRevocation_answer :
    (serve site pattern (TokenBlacklist.cacheRevocation db jti ttlSecs) world).1.isOk =
      (db || (succeeds pattern (.redis (.setEx (.blacklist jti) (.text "1") ttlSecs)) &&
        acceptsTtl world.clock ttlSecs)) := by
  simp only [TokenBlacklist.cacheRevocation, redis_eq, Program.call_bind, Program.done_bind,
    serve_call, succeeds]
  cases pattern (.redis (.setEx (.blacklist jti) (.text "1") ttlSecs)) with
  | success =>
    simp only [Command.exec, Command.answer, RedisCommand.answer]
    cases acceptsTtl world.clock ttlSecs <;> cases db <;> rfl
  | lost detail => cases db <;> rfl
  | applied detail => cases db <;> rfl

private theorem cacheRevocation_world :
    (serve site pattern (TokenBlacklist.cacheRevocation db jti ttlSecs) world).2 =
      (Command.exec (pattern (.redis (.setEx (.blacklist jti) (.text "1") ttlSecs)))
        (.redis (.setEx (.blacklist jti) (.text "1") ttlSecs)) world).2 := by
  simp only [TokenBlacklist.cacheRevocation, redis_eq, Program.call_bind, Program.done_bind,
    serve_call]
  split
  · rfl
  · split <;> rfl

variable {world} in
/-- A SETEX that Redis accepts and carries out leaves its key there. -/
theorem setEx_isSome (outcome : Outcome) (key : RedisKey) (value : RedisValue) :
    ((Command.exec outcome (.redis (.setEx key value ttlSecs)) world).2.lookup key).isSome =
      ((acceptsTtl world.clock ttlSecs && outcome.takesEffect) || (world.lookup key).isSome) := by
  cases effective : outcome.takesEffect with
  | false => simp [Command.exec_lost effective]
  | true =>
    rw [Command.exec_effect effective]
    simp only [Command.effect, RedisCommand.effect]
    cases accepted : acceptsTtl world.clock ttlSecs with
    | false => simp
    | true => simp [World.lookup_stored accepted]

variable {world} in
/-- The INSERT lists the token unless there is a row, or its expiry is not in the future. -/
theorem addToBlacklist_listed (outcome : Outcome) (expiresAt : Int) :
    LogoutWindow.listed (Command.exec outcome (.db (.addToBlacklist jti expiresAt)) world).2 jti =
      (LogoutWindow.listed world jti || ((world.db.blacklist.find? jti).isNone &&
        decide (asI64 world.second < expiresAt) && outcome.takesEffect)) := by
  cases effective : outcome.takesEffect with
  | false => simp [Command.exec_lost effective]
  | true =>
    rw [Command.exec_effect effective]
    have row : (Command.effect (.db (.addToBlacklist jti expiresAt)) world).db.blacklist.find? jti =
        some ((world.db.blacklist.find? jti).getD ⟨jti, expiresAt⟩) :=
      (world.db.blacklist.find?_insertNew _ jti).trans (if_pos rfl)
    have second : (Command.effect (.db (.addToBlacklist jti expiresAt)) world).second =
        world.second := rfl
    simp only [LogoutWindow.listed, row, second]
    cases world.db.blacklist.find? jti with
    | none => simp
    | some row => simp

private theorem listed_exec_redis (outcome : Outcome) (command : RedisCommand) :
    LogoutWindow.listed (Command.exec outcome (.redis command) world).2 jti =
      LogoutWindow.listed world jti := by
  have second : (Command.exec outcome (.redis command) world).2.second = world.second :=
    congrArg (· / 1000) (Command.exec_clock _ _ _)
  simp only [LogoutWindow.listed, second, Command.exec_redis_db]

private theorem lookup_exec_db (outcome : Outcome) (command : DbCommand) (key : RedisKey) :
    (Command.exec outcome (.db command) world).2.lookup key = world.lookup key := by
  cases outcome <;> rfl

variable {jti} in
/-- With a database the INSERT comes first, and its error ends the revocation. -/
theorem revoke_serve (valid : TokenBlacklist.validateTokenId jti = .ok ()) :
    let insert : Command := .db (.addToBlacklist jti (rowExpiry world ttlSecs))
    let after := (Command.exec (pattern insert) insert world).2
    (succeeds pattern insert = true ∧
      serve site pattern (TokenBlacklist.revoke true jti ttlSecs) world =
        serve site pattern (TokenBlacklist.cacheRevocation true jti ttlSecs) after) ∨
    (succeeds pattern insert = false ∧
      ∃ error, serve site pattern (TokenBlacklist.revoke true jti ttlSecs) world =
        (.error error, after)) := by
  have expiry : addI64 (asI64 (world.clock / 1000)) (asI64 ttlSecs) = rowExpiry world ttlSecs := rfl
  simp only [TokenBlacklist.revoke, valid, ↓reduceIte, nowUnixSecs_eq, database_eq,
    Program.call_bind, Program.done_bind]
  rw [serve_now, serve_call, expiry]
  unfold succeeds
  cases pattern (.db (.addToBlacklist jti (rowExpiry world ttlSecs))) with
  | success => exact .inl ⟨rfl, rfl⟩
  | lost detail => exact .inr ⟨rfl, _, rfl⟩
  | applied detail => exact .inr ⟨rfl, _, rfl⟩

private theorem revoke_answer :
    (serve site pattern (TokenBlacklist.revoke db jti ttlSecs) world).1.isOk =
      tokenReported db pattern world jti ttlSecs := by
  unfold tokenReported inserted
  cases valid : TokenBlacklist.validateTokenId jti with
  | error error =>
    simp only [TokenBlacklist.revoke, valid]
    rfl
  | ok =>
    cases db with
    | false =>
      simp only [TokenBlacklist.revoke, valid]
      exact cacheRevocation_answer site false pattern world jti ttlSecs
    | true =>
      obtain ⟨answered, served⟩ | ⟨failed, error, served⟩ :=
        revoke_serve site pattern world ttlSecs valid
      · rw [served, cacheRevocation_answer, answered]
        rfl
      · rw [served, failed]
        rfl

/-- The token is refused afterwards if it was before, or if one of the stores took the
revocation. -/
theorem revoke_blacklisted :
    blacklisted db (serve site pattern (TokenBlacklist.revoke db jti ttlSecs) world).2 jti =
      (blacklisted db world jti || tokenMarked db pattern world jti ttlSecs) := by
  unfold tokenMarked inserted
  cases valid : TokenBlacklist.validateTokenId jti with
  | error error =>
    simp only [TokenBlacklist.revoke, valid]
    exact (Bool.or_false _).symm
  | ok =>
    cases db with
    | false =>
      simp only [TokenBlacklist.revoke, valid, blacklisted, Bool.false_eq_true, ↓reduceIte,
        cacheRevocation_world, setEx_isSome]
      simp [Except.isOk, Except.toBool, Bool.or_comm]
    | true =>
      obtain ⟨answered, served⟩ | ⟨failed, error, served⟩ :=
        revoke_serve site pattern world ttlSecs valid
      · simp only [served, answered, blacklisted, cacheRevocation_world, setEx_isSome,
          Command.exec_clock, listed_exec_redis, lookup_exec_db, addToBlacklist_listed]
        simp [Except.isOk, Except.toBool, Bool.or_assoc, Bool.or_left_comm, Bool.or_comm]
      · simp only [served, failed, blacklisted, lookup_exec_db, addToBlacklist_listed]
        simp [Except.isOk, Except.toBool, Bool.or_assoc]

end

section

variable (site : Deployment) (pattern : Command → Outcome) (world : World)
variable (covers : ReconciliationOp → Bool)

private theorem zadd_queued (outcome : Outcome) (score : Nat) (entry : QueueEntry) :
    queued (Command.exec outcome
      (.redis (.zadd .reconciliationPending score (.entry entry .serde))) world).2 covers =
        (queued world covers ||
          (world.holdsQueue .reconciliationPending && outcome.takesEffect && covers entry.op)) := by
  cases effective : outcome.takesEffect with
  | false => simp [Command.exec_lost effective]
  | true =>
    rw [Command.exec_effect effective, Bool.eq_iff_iff]
    simp only [queued, Bool.or_eq_true, Bool.and_eq_true, List.any_eq_true, Command.effect]
    constructor
    · rintro ⟨member, present, covered⟩
      rcases (mem_zadd world _ _ score).mp present with before | ⟨rfl, queue⟩
      · exact .inl ⟨member, before, covered⟩
      · exact .inr ⟨⟨queue, trivial⟩, covered⟩
    · rintro (⟨member, before, covered⟩ | ⟨⟨queue, _⟩, covered⟩)
      · exact ⟨member, (mem_zadd world _ _ score).mpr (.inl before), covered⟩
      · exact ⟨_, (mem_zadd world _ _ score).mpr (.inr ⟨rfl, queue⟩), covered⟩

private theorem addPending_world (entry : QueueEntry) :
    (serve site pattern (Reconciliation.addPending entry) world).2 =
      (Command.exec
        (pattern (.redis (.zadd .reconciliationPending world.clock (.entry entry .serde))))
        (.redis (.zadd .reconciliationPending world.clock (.entry entry .serde))) world).2 := by
  simp only [Reconciliation.addPending, nowMs_eq, redis_eq, Program.call_bind, Program.done_bind]
  rw [serve_now, serve_call]
  rfl

private theorem addPending_holdsQueue (entry : QueueEntry) :
    (serve site pattern (Reconciliation.addPending entry) world).2.holdsQueue
      .reconciliationPending = world.holdsQueue .reconciliationPending := by
  rw [addPending_world]
  generalize pattern (.redis (.zadd .reconciliationPending world.clock (.entry entry .serde))) =
    outcome
  rcases Command.exec_world outcome
    (.redis (.zadd .reconciliationPending world.clock (.entry entry .serde))) world with same | same <;>
      rw [same]
  exact holdsQueue_zadd world _ _ _

/-- The SET NX of `enqueue` answers "already there", or the operation is added. -/
theorem enqueue_serve (op : ReconciliationOp) :
    let claim : Command := .redis (.setNxEx (.reconciliationIdem (Reconciliation.operationId op))
      (.text "1") Reconciliation.idemTtlSecs)
    let claimed := (Command.exec (pattern claim) claim world).2
    (skipped pattern world op = true ∧
      serve site pattern (Reconciliation.enqueue op) world = ((), claimed)) ∨
    (skipped pattern world op = false ∧
      serve site pattern (Reconciliation.enqueue op) world =
        serve site pattern (Reconciliation.addPending ⟨Reconciliation.operationId op, op, 0,
          Reconciliation.maxAttempts, world.clock, none⟩) claimed) := by
  simp only [Reconciliation.enqueue, nowMs_eq, redis_eq, Program.call_bind, Program.done_bind,
    skipped, succeeds]
  rw [serve_now, serve_call]
  generalize Reconciliation.idemTtlSecs = ttlSecs
  cases pattern (.redis (.setNxEx (.reconciliationIdem (Reconciliation.operationId op))
      (.text "1") ttlSecs)) with
  | lost detail => exact .inr ⟨rfl, rfl⟩
  | applied detail => exact .inr ⟨rfl, rfl⟩
  | success =>
    rw [Command.setNxEx_success]
    cases acceptsTtl world.clock ttlSecs with
    | false => exact .inr ⟨rfl, rfl⟩
    | true =>
      cases world.lookup (.reconciliationIdem (Reconciliation.operationId op)) with
      | none => exact .inr ⟨rfl, rfl⟩
      | some value => exact .inl ⟨rfl, rfl⟩

/-- The idempotency key is not the queue. -/
theorem claim_pending (outcome : Outcome) (id : String) (value : RedisValue) (ttlSecs : Nat) :
    (Command.exec outcome (.redis (.setNxEx (.reconciliationIdem id) value ttlSecs)) world).2.lookup
      .reconciliationPending = world.lookup .reconciliationPending := by
  rcases Command.exec_world outcome (.redis (.setNxEx (.reconciliationIdem id) value ttlSecs)) world
    with same | same <;> rw [same]
  exact RedisCommand.effect_lookup_other _ world nofun

/-- An operation is in the queue afterwards if it was before, or if it was added. -/
theorem enqueue_queued (op : ReconciliationOp) :
    queued (serve site pattern (Reconciliation.enqueue op) world).2 covers =
      (queued world covers || (adds pattern world op && covers op)) := by
  have unchanged (outcome : Outcome) (id : String) (value : RedisValue) (ttlSecs : Nat) :
      queued (Command.exec outcome (.redis (.setNxEx (.reconciliationIdem id) value ttlSecs)) world).2
        covers = queued world covers := by
    simp only [queued, World.members, scored_congr (claim_pending world outcome id value ttlSecs)]
  obtain ⟨duplicate, served⟩ | ⟨fresh, served⟩ := enqueue_serve site pattern world op
  · simp [served, unchanged, adds, duplicate]
  · simp [served, addPending_world, zadd_queued, unchanged, holdsQueue_congr (claim_pending world _ _ _ _),
      adds, fresh, newMember, Bool.and_assoc]

/-- Whether the queue takes an operation depends on its own key and on the queue's type. -/
theorem adds_congr {later : World} {op : ReconciliationOp} (clock : later.clock = world.clock)
    (key : later.lookup (.reconciliationIdem (Reconciliation.operationId op)) =
      world.lookup (.reconciliationIdem (Reconciliation.operationId op)))
    (queue : later.holdsQueue .reconciliationPending = world.holdsQueue .reconciliationPending) :
    adds pattern later op = adds pattern world op := by
  simp only [adds, skipped, newMember, clock, key, queue]

private theorem enqueue_holdsQueue (op : ReconciliationOp) :
    (serve site pattern (Reconciliation.enqueue op) world).2.holdsQueue .reconciliationPending =
      world.holdsQueue .reconciliationPending := by
  obtain ⟨_, served⟩ | ⟨_, served⟩ := enqueue_serve site pattern world op
  · rw [served]
    exact holdsQueue_congr (claim_pending world _ _ _ _)
  · rw [served, addPending_holdsQueue]
    exact holdsQueue_congr (claim_pending world _ _ _ _)

end

section

variable (site : Deployment) (pattern : Command → Outcome) (world : World)
variable (sha256Hex : String → String) (db : Bool) (sessionId : String)

private theorem dropCachedSession_answer :
    (serve site pattern (SessionStore.dropCachedSession sha256Hex db sessionId) world).1.isOk =
      (db || succeeds pattern (.redis (.getDel (.session sessionId)))) := by
  simp only [SessionStore.dropCachedSession, redis_eq, Program.call_bind, Program.done_bind, succeeds]
  rw [serve_call]
  cases pattern (.redis (.getDel (.session sessionId))) with
  | lost detail => cases db <;> rfl
  | applied detail => cases db <;> rfl
  | success =>
    have answered : (Command.exec .success (.redis (.getDel (.session sessionId))) world).1 =
        .ok (world.lookup (.session sessionId)) := rfl
    rw [answered]
    cases world.lookup (.session sessionId) with
    | none => exact (Bool.or_true db).symm
    | some existing =>
      dsimp only
      cases existing.asSession with
      | error error => exact (Bool.or_true db).symm
      | ok record =>
        simp only [SessionStore.decrementUserSessionCount, redis_eq, Program.call_bind,
          Program.done_bind, serve_call]
        split <;> exact (Bool.or_true db).symm

private theorem revokeSession_answer :
    (serve site pattern (SessionStore.revokeSession sha256Hex db sessionId) world).1.isOk =
      sessionReported db pattern sessionId := by
  unfold SessionStore.revokeSession sessionReported
  cases SessionStore.validateSessionId sessionId with
  | error error => rfl
  | ok =>
    cases db with
    | false => exact dropCachedSession_answer site pattern world sha256Hex false sessionId
    | true =>
      simp only [↓reduceIte, database_eq, Program.call_bind, Program.done_bind, succeeds]
      rw [serve_call]
      cases pattern (.db (.revokeSession sessionId)) with
      | success => exact dropCachedSession_answer site pattern _ sha256Hex true sessionId
      | lost detail => rfl
      | applied detail => rfl

end

theorem queued_congr {world later : World}
    (same : later.lookup .reconciliationPending = world.lookup .reconciliationPending)
    (covers : ReconciliationOp → Bool) : queued later covers = queued world covers := by
  simp only [queued, World.members, scored_congr same]

def queueKey (op : ReconciliationOp) (key : RedisKey) : Prop :=
  key = .reconciliationPending ∨ key = .reconciliationIdem (Reconciliation.operationId op)

private theorem enqueue_within (op : ReconciliationOp) :
    (Reconciliation.enqueue op).Every (Within (queueKey op)) := by
  refine (Reconciliation.enqueue_footprint op).imp ?_
  rintro _ (_ | _ | ⟨score, createdAt⟩)
  · trivial
  · exact .inr rfl
  · exact .inl rfl

section

variable (site : Deployment) (pattern : Command → Outcome) (world : World)
variable (context : Auth.UserContext)

/-- What the rest of `logout` needs to know of its first step. -/
structure TokenStep (after : World) : Prop where
  clock : after.clock = world.clock
  key : after.lookup (.reconciliationIdem (Reconciliation.operationId (sessionOp context))) =
    world.lookup (.reconciliationIdem (Reconciliation.operationId (sessionOp context)))
  queue : after.holdsQueue .reconciliationPending = world.holdsQueue .reconciliationPending
  blacklisted : blacklisted site.db after context.tokenId =
    (blacklisted site.db world context.tokenId ||
      tokenMarked site.db pattern world context.tokenId (context.expiresAt - world.second))
  queued : ∀ covers, queued after covers =
    (queued world covers || (tokenScheduled site pattern world context &&
      covers (tokenOp world context)))

/-- The keys of the two operations differ in their first letters. -/
theorem operationId_apart :
    Reconciliation.operationId (sessionOp context) ≠
      Reconciliation.operationId (tokenOp world context) := by
  intro same
  have chars := congrArg String.toList same
  simp [Reconciliation.operationId, sessionOp, tokenOp] at chars

private theorem serve_remainingTtl (expiresAt : Nat) :
    serve site pattern (Auth.remainingTtl expiresAt) world = (expiresAt - world.second, world) := by
  simp only [Auth.remainingTtl, nowUnixSecs_eq, Program.call_bind, Program.done_bind]
  rw [serve_now]
  rfl

variable {world context} in
/-- The first step revokes the token and, if that is reported to have failed, queues the
revocation. -/
theorem logoutToken_serve (current : world.second < context.expiresAt) :
    let revoked := (serve site pattern
      (TokenBlacklist.revoke site.db context.tokenId (context.expiresAt - world.second)) world).2
    let reported :=
      tokenReported site.db pattern world context.tokenId (context.expiresAt - world.second)
    (serve site pattern (Auth.logoutToken site.db site.reconciliation context) world).2 =
      if site.reconciliation && !reported then
        (serve site pattern (Reconciliation.enqueue (tokenOp world context)) revoked).2
      else revoked := by
  intro revoked reported
  have positive : 0 < context.expiresAt - world.second := Nat.sub_pos_of_lt current
  have answer : (serve site pattern
      (TokenBlacklist.revoke site.db context.tokenId (context.expiresAt - world.second)) world).1.isOk =
        reported := revoke_answer ..
  rw [← answer]
  unfold Auth.logoutToken
  rw [serve_bind, serve_remainingTtl, if_pos positive, serve_bind]
  cases (serve site pattern (TokenBlacklist.revoke site.db context.tokenId
    (context.expiresAt - world.second)) world).1 with
  | ok =>
    cases site.reconciliation <;> rfl
  | error error =>
    cases site.reconciliation <;> rfl

variable {world context} in
private theorem logoutToken_step (current : world.second < context.expiresAt) :
    TokenStep site pattern world context
      (serve site pattern (Auth.logoutToken site.db site.reconciliation context) world).2 := by
  have kept : Leaves (· = .blacklist context.tokenId) world (serve site pattern
      (TokenBlacklist.revoke site.db context.tokenId (context.expiresAt - world.second)) world).2 :=
    serve_leaves (TokenBlacklist.revoke_within _ _ _) world
  have marked := revoke_blacklisted site site.db pattern world context.tokenId
    (context.expiresAt - world.second)
  rw [logoutToken_serve site pattern current]
  revert kept marked
  generalize (serve site pattern (TokenBlacklist.revoke site.db context.tokenId
    (context.expiresAt - world.second)) world).2 = revoked
  intro kept marked
  have pendingKept := kept.lookup .reconciliationPending nofun
  cases scheduled : site.reconciliation &&
    !tokenReported site.db pattern world context.tokenId (context.expiresAt - world.second) with
  | false =>
    exact ⟨kept.clock, kept.lookup _ nofun, holdsQueue_congr pendingKept, marked,
      fun covers => by simp [tokenScheduled, scheduled, queued_congr pendingKept]⟩
  | true =>
    have left : Leaves (queueKey (tokenOp world context)) revoked
        (serve site pattern (Reconciliation.enqueue (tokenOp world context)) revoked).2 :=
      serve_leaves (enqueue_within _) revoked
    have same : adds pattern revoked (tokenOp world context) =
        adds pattern world (tokenOp world context) :=
      adds_congr pattern world kept.clock (kept.lookup _ nofun) (holdsQueue_congr pendingKept)
    refine ⟨left.clock.trans kept.clock, ?_, ?_, ?_, fun covers => ?_⟩
    · refine (left.lookup _ ?_).trans (kept.lookup _ nofun)
      rintro (impossible | own)
      · cases impossible
      · exact operationId_apart world context (RedisKey.reconciliationIdem.inj own)
    · exact (enqueue_holdsQueue ..).trans (holdsQueue_congr pendingKept)
    · exact (serve_blacklisted (enqueue_within _) (LogoutWindow.enqueue_aside _) ..).trans marked
    · rw [if_pos rfl, enqueue_queued, same, queued_congr pendingKept]
      simp [tokenScheduled, scheduled]

private theorem logoutSession_serve :
    let revoked := (serve site pattern
      (SessionStore.revokeSession site.sha256Hex site.db context.sessionId) world).2
    (serve site pattern (Auth.logoutSession site.sha256Hex site.db site.reconciliation context)
      world).2 =
      if site.reconciliation && !sessionReported site.db pattern context.sessionId then
        (serve site pattern (Reconciliation.enqueue (sessionOp context)) revoked).2
      else revoked := by
  intro revoked
  rw [← revokeSession_answer site pattern world site.sha256Hex site.db context.sessionId]
  unfold Auth.logoutSession
  rw [serve_bind]
  cases (serve site pattern
    (SessionStore.revokeSession site.sha256Hex site.db context.sessionId) world).1 with
  | ok => cases site.reconciliation <;> rfl
  | error error => cases site.reconciliation <;> rfl

private theorem logoutSession_step :
    let after := (serve site pattern
      (Auth.logoutSession site.sha256Hex site.db site.reconciliation context) world).2
    (∀ jti, blacklisted site.db after jti = blacklisted site.db world jti) ∧
      ∀ covers, queued after covers =
        (queued world covers || (sessionScheduled site pattern world context &&
          covers (sessionOp context))) := by
  have kept : Leaves SessionStore.ownKey world (serve site pattern
      (SessionStore.revokeSession site.sha256Hex site.db context.sessionId) world).2 :=
    serve_leaves (SessionStore.revokeSession_within _ _ _) world
  have marked (jti : String) : blacklisted site.db (serve site pattern
      (SessionStore.revokeSession site.sha256Hex site.db context.sessionId) world).2 jti =
        blacklisted site.db world jti :=
    serve_blacklisted (SessionStore.revokeSession_within _ _ _) (LogoutWindow.revokeSession_aside _ _ _) world jti
  rw [logoutSession_serve site pattern world context]
  revert kept marked
  generalize (serve site pattern
    (SessionStore.revokeSession site.sha256Hex site.db context.sessionId) world).2 = revoked
  intro kept marked
  have aside (id : String) : ¬ SessionStore.ownKey (.reconciliationIdem id) := by simp [SessionStore.ownKey]
  have pendingKept := kept.lookup .reconciliationPending (by simp [SessionStore.ownKey])
  cases scheduled : site.reconciliation && !sessionReported site.db pattern context.sessionId with
  | false =>
    refine ⟨marked, fun covers => ?_⟩
    simp [sessionScheduled, scheduled, queued_congr pendingKept]
  | true =>
    have same : adds pattern revoked (sessionOp context) = adds pattern world (sessionOp context) :=
      adds_congr pattern world kept.clock (kept.lookup _ (aside _)) (holdsQueue_congr pendingKept)
    refine ⟨fun jti => ?_, fun covers => ?_⟩
    · exact (serve_blacklisted (enqueue_within _) (LogoutWindow.enqueue_aside _) ..).trans (marked jti)
    · rw [if_pos rfl, enqueue_queued, same, queued_congr pendingKept]
      simp [sessionScheduled, scheduled]

variable {world context} in
/-- A logout with time left on the token withdraws or schedules both credentials exactly
if what the stores already hold and which commands take effect make it so. -/
theorem logout_safe_iff_covered (current : world.second < context.expiresAt) :
    Safe site pattern world context ↔
      tokenCovered site pattern world context = true ∧
        sessionCovered site pattern world context = true := by
  have first := logoutToken_step site pattern current
  have answered : (sessionAnswer site pattern world context).isOk =
      sessionReported site.db pattern context.sessionId :=
    revokeSession_answer ..
  have served : serve site pattern
      (Auth.logout site.sha256Hex site.db site.reconciliation context) world =
        (.ok (), (serve site pattern
          (Auth.logoutSession site.sha256Hex site.db site.reconciliation context)
          (serve site pattern (Auth.logoutToken site.db site.reconciliation context) world).2).2) := by
    unfold Auth.logout
    rw [serve_bind, serve_bind]
    rfl
  obtain ⟨marked, queuedAfter⟩ := logoutSession_step site pattern
    (serve site pattern (Auth.logoutToken site.db site.reconciliation context) world).2 context
  have same : sessionScheduled site pattern
      (serve site pattern (Auth.logoutToken site.db site.reconciliation context) world).2 context =
        sessionScheduled site pattern world context := by
    simp only [sessionScheduled, adds_congr pattern world first.clock first.key first.queue]
  unfold Safe
  simp only [served, answered, marked, queuedAfter, same, first.blacklisted, first.queued]
  simp [tokenCovered, sessionCovered, coversToken, coversSession, tokenOp, sessionOp, or_assoc,
    or_left_comm]

end

/-- The database cannot be reached; of Redis as much works as is said. -/
def databaseDown (redis : Outcome) : Command → Outcome
  | .db _ => .lost "connection refused"
  | .redis _ => redis
  | .now | .http => .success

def sampleContext : Auth.UserContext :=
  ⟨"user_1", "sid_1", "jti_1", "https://clerk.example.com", none, none, some 1000, 2000⟩

/-- With the database down both withdrawals are queued. -/
theorem logout_scheduled_without_database :
    Safe (Sample.site true) (databaseDown .success) (World.empty 1000000) sampleContext :=
  (logout_safe_iff_covered _ _ (by decide)).mpr ⟨by decide +kernel, by decide +kernel⟩

/-- With Redis down too the queue fails as well, and `logout` still answers 204. -/
theorem logout_unscheduled_without_redis :
    ¬ Safe (Sample.site true) (databaseDown (.lost "connection refused")) (World.empty 1000000)
      sampleContext := by
  decide +kernel

end BrainMate.Gateway.LogoutSafety
