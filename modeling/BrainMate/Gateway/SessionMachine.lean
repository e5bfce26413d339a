import BrainMate.Gateway.Serving

/-! With a database and with Redis down, the session store is a table of sessions.
Every Redis command has a branch for its failure; taken together these branches
leave what the table says. -/

namespace BrainMate.Gateway.SessionMachine

open Interleaving System

inductive Operation where
  | create (sessionId userId : String) (issuedAt : Option Nat) (deviceInfo : Option String)
      (ttlSecs maxSessions : Nat)
  | validate (sessionId userId : String)
  | revoke (sessionId : String)
  deriving DecidableEq, Repr

inductive Answer where
  | created
  | limitReached
  | accepted (record : SessionRecord)
  | refused
  | revoked
  deriving DecidableEq, Repr

/-- The rows of the table, in the order of their registration. -/
abbrev State := List DbSession

namespace State

/-- The unrevoked rows of a user that expire after an epoch. -/
def active (state : State) (userId : String) (epoch : Int) : Nat :=
  state.countP fun row => row.userId = userId ∧ row.revoked = false ∧ epoch < row.expiresAt

def register (state : State) (row : DbSession) : State :=
  if row.id ∈ state.map DbSession.id then state else state ++ [row]

def mark (state : State) (sessionId : String) : State :=
  state.map fun row => if row.id = sessionId then { row with revoked := true } else row

/-- The row of a session that the user may use. -/
def usable (state : State) (sessionId userId : String) (now : Int) : Option DbSession :=
  state.find? fun row => row.id = sessionId ∧ row.userId = userId ∧ row.revoked = false ∧
    now < row.expiresAt

/-- One operation; `now` is the gateway's clock in seconds and `epoch` that of the
database, which rounds. Times are BIGINT columns, so below `2 ^ 63` they are exact. -/
def step (state : State) (now : Nat) (epoch : Int) : Operation → Answer × State
  | .create sessionId userId issuedAt deviceInfo ttlSecs maxSessions =>
    if maxSessions ≤ state.active userId epoch then (.limitReached, state)
    else (.created, state.register
      ⟨sessionId, userId, issuedAt.map asI64, deviceInfo, asI64 (now + ttlSecs), false⟩)
  | .validate sessionId userId =>
    match state.usable sessionId userId (asI64 now) with
    | some row => (.accepted ⟨row.userId, row.issuedAt.map asU64, row.deviceInfo⟩, state)
    | none => (.refused, state)
  | .revoke sessionId => (.revoked, state.mark sessionId)

end State

namespace Operation

def call : Operation → Call
  | .create sessionId userId issuedAt deviceInfo ttlSecs maxSessions =>
    .createSession sessionId userId issuedAt deviceInfo ttlSecs maxSessions
  | .validate sessionId userId => .validateSession sessionId userId
  | .revoke sessionId => .revokeSession sessionId

/-- The session id is valid and the user of a creation is not blank. -/
def Valid : Operation → Prop
  | .create sessionId userId _ _ _ _ =>
    SessionStore.validateSessionId sessionId = .ok () ∧ (trim userId).isEmpty = false
  | .validate sessionId _ | .revoke sessionId => SessionStore.validateSessionId sessionId = .ok ()

end Operation

/-- The machine's view of an answer; `none` for an answer that is not the machine's. -/
def observe : (operation : Operation) → operation.call.Result → Option Answer
  | .create _ _ _ _ _ _, .ok () => some .created
  | .create _ _ _ _ _ _, .error (.badRequest _) => some .limitReached
  | .validate _ _, .ok record => some (.accepted record)
  | .validate _ _, .error (.unauthorized _) => some .refused
  | .revoke _, .ok () => some .revoked
  | _, _ => none

structure Service where
  operation : Operation
  answer : operation.call.Result
  started : Nat
  finished : Nat

/-- Time passes and Redis does as it likes, but the tables stay as they are. -/
structure Elapses (world later : World) : Prop where
  clock : world.clock ≤ later.clock
  db : later.db = world.db

/-- Every Redis command fails, before or after its effect, and no other one does. -/
def RedisDown {site : Deployment} (trace : List site.system.Exchange) : Prop :=
  ∀ exchange ∈ trace, match exchange.command with
    | .now | .http => True
    | .redis _ => exchange.outcome ≠ .success
    | .db _ => exchange.outcome = .success

/-- Calls served one after another with Redis down. -/
inductive Serves (site : Deployment) : World → List Service → World → Prop where
  | idle {world last : World} (elapses : Elapses world last) : Serves site world [] last
  | serve {operation : Operation} {answer : operation.call.Result} {world start finish last : World}
      {trace : List site.system.Exchange} {later : List Service} (valid : operation.Valid)
      (elapses : Elapses world start)
      (executes : Executes Elapses (site.program operation.call) start trace answer finish)
      (down : RedisDown trace) (rest : Serves site finish later last) :
      Serves site world (⟨operation, answer, start.clock, finish.clock⟩ :: later) last

/-- Each answer is the machine's at instants of the call, the gateway's before the
database's, and the machine ends in the final state. -/
def Explains : State → List Service → State → Prop
  | state, [], final => final = state
  | state, service :: later, final => ∃ asked begun, service.started ≤ asked ∧ asked ≤ begun ∧
      begun ≤ service.finished ∧
      observe service.operation service.answer =
        some (state.step (asked / 1000) ((begun + 500) / 1000 : Nat) service.operation).1 ∧
      Explains (state.step (asked / 1000) ((begun + 500) / 1000 : Nat) service.operation).2 later
        final

section

variable {site : Deployment} {α : Type} {world after last : World} {value : α}
variable {trace : List site.system.Exchange}

theorem Elapses.refl (world : World) : Elapses world world := ⟨Nat.le_refl _, rfl⟩

theorem Elapses.trans (first : Elapses world after) (second : Elapses after last) :
    Elapses world last :=
  ⟨Nat.le_trans first.clock second.clock, second.db.trans first.db⟩

/-- A Redis command that fails is answered with an error and leaves the tables alone. -/
theorem executes_redis {command : RedisCommand}
    {next : Except RedisLayerError command.Reply → Procedure α} (down : RedisDown trace)
    (executes : Executes Elapses (.call (.redis command) next) world trace value last) :
    ∃ (error : RedisLayerError) (reached : World) (later : List site.system.Exchange),
      Elapses world reached ∧ RedisDown later ∧
      Executes Elapses (next (.error error)) reached later value last := by
  obtain ⟨middle, outcome, later, elapses, rfl, continues⟩ := executes.of_call
  have failed : outcome ≠ .success := down _ (.head _)
  have rest : RedisDown later := fun exchange member => down exchange (.tail _ member)
  have same : Elapses middle (Command.exec outcome (.redis command) middle).2 :=
    ⟨Nat.le_of_eq (Command.exec_clock outcome _ middle).symm, Command.exec_redis_db outcome command middle⟩
  cases outcome with
  | success => exact absurd rfl failed
  | lost detail => exact ⟨_, _, later, elapses.trans same, rest, continues⟩
  | applied detail => exact ⟨_, _, later, elapses.trans same, rest, continues⟩

theorem executes_database {command : DbCommand}
    {next : Except DbError command.Reply → Procedure α} (down : RedisDown trace)
    (executes : Executes Elapses (.call (.db command) next) world trace value last) :
    ∃ (reached : World) (later : List site.system.Exchange),
      Elapses world reached ∧ RedisDown later ∧
      Executes Elapses (next (.ok (command.answer reached)))
        { reached with db := command.effect reached } later value last := by
  obtain ⟨middle, outcome, later, elapses, rfl, continues⟩ := executes.of_call
  have succeeded : outcome = .success := down _ (.head _)
  subst succeeded
  exact ⟨middle, later, elapses, fun exchange member => down exchange (.tail _ member), continues⟩

theorem executes_clock {next : Nat → Procedure α} (down : RedisDown trace)
    (executes : Executes Elapses (.call .now next) world trace value last) :
    ∃ (reached : World) (later : List site.system.Exchange),
      Elapses world reached ∧ RedisDown later ∧
      Executes Elapses (next reached.clock) reached later value last := by
  obtain ⟨asked, _, later, elapses, rfl, continues⟩ := executes_now executes
  exact ⟨asked, later, elapses, fun exchange member => down exchange (.tail _ member), continues⟩

end

section

variable (sessions : Storage.Table DbSession String DbSession.id)

private theorem active_rows (userId : String) (epoch : Int) :
    sessions.countWhere (fun row =>
      row.userId == userId && !row.revoked && decide (epoch < row.expiresAt)) =
        State.active sessions.rows userId epoch := by
  unfold Storage.Table.countWhere State.active
  apply List.countP_congr
  intro row _
  simp [and_assoc]

private theorem register_rows (row : DbSession) :
    (sessions.insertNew row).rows = State.register sessions.rows row := by
  unfold Storage.Table.insertNew State.register
  split <;> rfl

private theorem mark_rows (sessionId : String) :
    (DbCommand.revokeSessionRow sessions sessionId).rows = State.mark sessions.rows sessionId := by
  apply List.map_congr_left
  intro row _
  -- Marking a row again changes nothing.
  by_cases own : row.id = sessionId
  · subst own
    cases marked : row.revoked with
    | false => simp [marked]
    | true =>
      have again : { row with revoked := true } = row := by rw [← marked]
      rw [if_neg (by simp [marked]), if_pos rfl, again]
  · simp [own]

private theorem usable_rows (sessionId userId : String) (now : Int) :
    State.usable sessions.rows sessionId userId now =
      (sessions.find? sessionId).filter fun row =>
        row.userId = userId ∧ row.revoked = false ∧ now < row.expiresAt := by
  apply Option.ext
  intro row
  rw [Option.filter_eq_some_iff, Storage.Table.find?_eq_some_iff]
  constructor
  · intro found
    have member := List.mem_of_find?_eq_some found
    have met := List.find?_some found
    simp only [decide_eq_true_eq] at met ⊢
    exact ⟨⟨member, met.1⟩, met.2⟩
  · rintro ⟨⟨member, own⟩, met⟩
    -- No other row carries the id, so the row that is found is this one.
    obtain ⟨other, found⟩ : ∃ other, State.usable sessions.rows sessionId userId now = some other := by
      apply Option.isSome_iff_exists.mp
      refine List.find?_isSome.mpr ⟨row, member, ?_⟩
      simpa [own] using met
    have present := List.mem_of_find?_eq_some found
    have same : other.id = row.id := by
      have known := List.find?_some found
      simp only [decide_eq_true_eq] at known
      rw [known.1, own]
    rw [found, List.inj_on_of_nodup_map sessions.unique present member same]

end

/-- The call did what the machine does at two instants of the call. -/
def Follows (operation : Operation) (started : World) (answer : operation.call.Result)
    (finished : World) : Prop :=
  ∃ asked begun, started.clock ≤ asked ∧ asked ≤ begun ∧ begun ≤ finished.clock ∧
    ∃ expected next, State.step started.db.sessions.rows (asked / 1000)
        ((begun + 500) / 1000 : Nat) operation = (expected, next) ∧
      observe operation answer = some expected ∧ finished.db.sessions.rows = next

section

variable {site : Deployment} {world last : World} {trace : List site.system.Exchange}
variable {sessionId userId : String}

/-- The transaction counts at its own epoch and inserts when there is room. -/
theorem createSessionGuarded_served {record : DbSession} {maxSessions : Nat}
    {answer : Except DbError Bool} (down : RedisDown trace)
    (executes : Executes Elapses (SessionStore.createSessionGuarded record maxSessions) world trace
      answer last) :
    ∃ begun, world.clock ≤ begun ∧ begun ≤ last.clock ∧
      if maxSessions ≤ State.active world.db.sessions.rows record.userId ((begun + 500) / 1000 : Nat)
      then answer = .error (.protocol "max_sessions_exceeded") ∧ last.db = world.db
      else answer.isOk = true ∧ last.db.sessions.rows =
        State.register world.db.sessions.rows { record with revoked := false } := by
  simp only [SessionStore.createSessionGuarded, database_eq, Program.call_bind,
    Program.done_bind] at executes
  obtain ⟨begun, _, toBegun, down, executes⟩ := executes_database down executes
  obtain ⟨counted, _, toCounted, down, executes⟩ := executes_database down executes
  have db : counted.db = world.db := toCounted.db.trans toBegun.db
  have epoch : DbCommand.answer .begin begun = ((begun.clock + 500) / 1000 : Nat) := rfl
  have count : DbCommand.answer
      (.countActiveSessionsForUser record.userId ((begun.clock + 500) / 1000 : Nat)) counted =
        (State.active world.db.sessions.rows record.userId
          ((begun.clock + 500) / 1000 : Nat) : Nat) := by
    simp only [DbCommand.answer, db, active_rows]
  rw [epoch, count] at executes
  dsimp only at executes
  refine ⟨begun.clock, toBegun.clock, ?_⟩
  split at executes
  · rename_i full
    obtain ⟨ended, _, toEnded, _, executes⟩ := executes_database down executes
    obtain ⟨rfl, rfl, _⟩ := executes.of_done
    refine ⟨toCounted.clock.trans toEnded.clock, ?_⟩
    rw [if_pos (Int.ofNat_le.mp full)]
    exact ⟨rfl, toEnded.db.trans db⟩
  · rename_i room
    obtain ⟨inserted, _, toInserted, _, executes⟩ := executes_database down executes
    obtain ⟨rfl, rfl, _⟩ := executes.of_done
    refine ⟨toCounted.clock.trans toInserted.clock, ?_⟩
    rw [if_neg (fun full => room (Int.ofNat_le.mpr full))]
    have same : inserted.db = world.db := toInserted.db.trans db
    exact ⟨rfl, by simp only [DbCommand.effect, same, register_rows]⟩

private theorem createSession_follows {issuedAt : Option Nat} {deviceInfo : Option String}
    {ttlSecs maxSessions : Nat} {answer : Except ApiError Unit}
    (valid : (Operation.create sessionId userId issuedAt deviceInfo ttlSecs maxSessions).Valid)
    (down : RedisDown trace)
    (executes : Executes Elapses
      (SessionStore.createSession site.sha256Hex true sessionId userId issuedAt deviceInfo ttlSecs
        maxSessions) world trace answer last) :
    Follows (.create sessionId userId issuedAt deviceInfo ttlSecs maxSessions) world answer last := by
  obtain ⟨known, named⟩ := valid
  simp only [SessionStore.createSession, known, named, Bool.false_eq_true, ↓reduceIte,
    SessionStore.createSessionDb, nowUnixSecs_eq, redis_eq, Program.call_bind,
    Program.done_bind] at executes
  obtain ⟨asked, _, toAsked, down, executes⟩ := executes_clock down executes
  obtain ⟨_, _, reply, committed, rfl, guarded, executes⟩ := executes.of_bind
  obtain ⟨begun, afterAsked, beforeCommit, decided⟩ := createSessionGuarded_served (fun exchange member =>
    down exchange (List.mem_append_left _ member)) guarded
  have down : RedisDown _ := fun exchange member => down exchange (List.mem_append_right _ member)
  rw [toAsked.db] at decided
  refine ⟨asked.clock, begun, toAsked.clock, afterAsked, ?_⟩
  simp only [State.step]
  split at decided
  · rename_i full
    obtain ⟨rfl, db⟩ := decided
    obtain ⟨rfl, rfl, _⟩ := executes.of_done
    rw [if_pos full]
    exact ⟨beforeCommit, _, _, rfl, rfl, by rw [db]⟩
  · rename_i room
    obtain ⟨answered, rows⟩ := decided
    rw [if_neg room]
    cases reply with
    | error error => cases answered
    | ok inserted =>
      obtain ⟨_, written, _, toWritten, _, executes⟩ := executes_redis down executes
      obtain ⟨rfl, rfl, _⟩ := executes.of_done
      exact ⟨beforeCommit.trans toWritten.clock, _, _, rfl, rfl,
        by rw [toWritten.db, rows, asI64_mod]⟩

/-- From the row alone: the answer is the machine's, and the table is not written. -/
theorem validateSessionDb_served {answer : Except ApiError SessionRecord} (down : RedisDown trace)
    (executes : Executes Elapses (SessionStore.validateSessionDb sessionId userId) world trace answer
      last) : Follows (.validate sessionId userId) world answer last := by
  simp only [SessionStore.validateSessionDb, database_eq, nowUnixSecs_eq, Program.call_bind,
    Program.done_bind] at executes
  obtain ⟨read, _, toRead, down, executes⟩ := executes_database down executes
  have found : DbCommand.answer (.getSession sessionId) read =
      world.db.sessions.find? sessionId := by simp only [DbCommand.answer, toRead.db]
  rw [found] at executes
  -- The answer of the machine when the row does not qualify at any instant.
  have refused (unusable : ∀ now, State.usable world.db.sessions.rows sessionId userId now = none)
      (answered : observe (.validate sessionId userId) answer = some .refused)
      (same : last = { read with db := DbCommand.effect (.getSession sessionId) read }) :
      Follows (.validate sessionId userId) world answer last := by
    subst same
    refine ⟨read.clock, read.clock, toRead.clock, Nat.le_refl _, Nat.le_refl _, ?_⟩
    simp only [State.step, unusable]
    exact ⟨_, _, rfl, answered, by simp only [DbCommand.effect, toRead.db]⟩
  cases stored : world.db.sessions.find? sessionId with
  | none =>
    rw [stored] at executes
    obtain ⟨rfl, rfl, _⟩ := executes.of_done
    exact refused (fun now => by rw [usable_rows, stored]; rfl) rfl rfl
  | some row =>
    rw [stored] at executes
    dsimp only at executes
    cases marked : row.revoked with
    | true =>
      rw [if_pos marked] at executes
      obtain ⟨rfl, rfl, _⟩ := executes.of_done
      exact refused (fun now => by simp [usable_rows, stored, marked]) rfl rfl
    | false =>
      rw [if_neg (by simp [marked])] at executes
      obtain ⟨asked, _, toAsked, down, executes⟩ := executes_clock down executes
      have db : asked.db = world.db := toAsked.db.trans toRead.db
      generalize instant : asI64 (asked.clock / 1000) = now at executes
      refine ⟨asked.clock, asked.clock, toRead.clock.trans toAsked.clock, Nat.le_refl _, ?_⟩
      simp only [State.step, usable_rows, stored, instant, Option.filter_some, marked]
      by_cases expired : row.expiresAt ≤ now
      · rw [if_pos expired] at executes
        obtain ⟨rfl, rfl, _⟩ := executes.of_done
        rw [if_neg (by simp [Int.not_lt.mpr expired])]
        exact ⟨Nat.le_refl _, _, _, rfl, rfl, by rw [db]⟩
      rw [if_neg expired] at executes
      by_cases mismatch : row.userId = userId
      · rw [if_neg (not_not.mpr mismatch)] at executes
        rw [if_pos (by simpa [mismatch] using Int.not_le.mp expired)]
        simp only [SessionStore.rehydrateSession, redis_eq, Program.call_bind,
          Program.done_bind] at executes
        obtain ⟨_, written, _, toWritten, _, executes⟩ := executes_redis down executes
        obtain ⟨rfl, rfl, _⟩ := executes.of_done
        exact ⟨toWritten.clock, _, _, rfl, rfl, by rw [toWritten.db, db]⟩
      · rw [if_pos mismatch] at executes
        obtain ⟨rfl, rfl, _⟩ := executes.of_done
        rw [if_neg (by simp [mismatch])]
        exact ⟨Nat.le_refl _, _, _, rfl, rfl, by rw [db]⟩

private theorem validateSession_follows {answer : Except ApiError SessionRecord}
    (valid : (Operation.validate sessionId userId).Valid) (down : RedisDown trace)
    (executes : Executes Elapses (SessionStore.validateSession true sessionId userId) world trace
      answer last) : Follows (.validate sessionId userId) world answer last := by
  have known : SessionStore.validateSessionId sessionId = .ok () := valid
  simp only [SessionStore.validateSession, known, SessionStore.getSessionJson, redis_eq,
    ↓reduceIte, Program.call_bind, Program.done_bind] at executes
  obtain ⟨_, read, _, toRead, down, executes⟩ := executes_redis down executes
  obtain ⟨asked, begun, early, ordered, late, follows⟩ := validateSessionDb_served down executes
  rw [toRead.db] at follows
  exact ⟨asked, begun, toRead.clock.trans early, ordered, late, follows⟩

private theorem revokeSession_follows {answer : Except ApiError Unit}
    (valid : (Operation.revoke sessionId).Valid) (down : RedisDown trace)
    (executes : Executes Elapses (SessionStore.revokeSession site.sha256Hex true sessionId) world
      trace answer last) : Follows (.revoke sessionId) world answer last := by
  have known : SessionStore.validateSessionId sessionId = .ok () := valid
  simp only [SessionStore.revokeSession, known, SessionStore.dropCachedSession, database_eq,
    redis_eq, ↓reduceIte, Program.call_bind, Program.done_bind] at executes
  obtain ⟨marked, _, toMarked, down, executes⟩ := executes_database down executes
  obtain ⟨_, dropped, _, toDropped, _, executes⟩ := executes_redis down executes
  obtain ⟨rfl, rfl, _⟩ := executes.of_done
  refine ⟨marked.clock, marked.clock, toMarked.clock, Nat.le_refl _, toDropped.clock, _, _, rfl, rfl, ?_⟩
  rw [toDropped.db]
  simp only [DbCommand.effect, toMarked.db, mark_rows]

/-- One call refines one step of the machine. -/
theorem call_follows (withDb : site.db = true) {operation : Operation} (valid : operation.Valid)
    {answer : operation.call.Result} (down : RedisDown trace)
    (executes : Executes Elapses (site.program operation.call) world trace answer last) :
    Follows operation world answer last := by
  cases operation with
  | create =>
    simp only [Operation.call, Deployment.program, withDb] at executes
    exact createSession_follows valid down executes
  | validate =>
    simp only [Operation.call, Deployment.program, withDb] at executes
    exact validateSession_follows valid down executes
  | revoke =>
    simp only [Operation.call, Deployment.program, withDb] at executes
    exact revokeSession_follows valid down executes

end

/-- With Redis down, the store with a database answers every sequence of calls as the
machine does, and ends with the machine's table. -/
theorem store_is_table_machine (site : Deployment) (withDb : site.db = true) {world last : World}
    {history : List Service} (served : Serves site world history last) :
    Explains world.db.sessions.rows history last.db.sessions.rows := by
  induction served with
  | idle elapses => exact congrArg (·.sessions.rows) elapses.db
  | serve valid elapses executes down _ ih =>
    obtain ⟨asked, begun, early, ordered, late, expected, next, steps, observed, rows⟩ :=
      call_follows withDb valid down executes
    rw [elapses.db] at steps
    refine ⟨asked, begun, early, ordered, late, ?_, ?_⟩
    · rw [steps]
      exact observed
    · rw [steps, ← rows]
      exact ih

/-- Redis is unreachable, the database is up. -/
def unreachable : Command → Outcome
  | .redis _ => .lost "connection refused"
  | .now | .db _ | .http => .success

theorem unreachable_down {α : Type} (program : Procedure α) (world : World) :
    RedisDown ((Sample.site true).system.serveBy unreachable program world).1 := by
  intro exchange member
  have outcome := serveBy_outcome program world exchange member
  split
  · trivial
  · trivial
  · rename_i command same
    rw [outcome, same]
    exact nofun
  · rename_i command same
    rw [outcome, same]
    rfl

theorem session_revoked_without_redis :
    ∃ history last, Serves (Sample.site true) (World.empty 1000000) history last ∧
      history.map Service.operation =
        [.create "sid_1" "user_1" (some 1000) none 3600 1, .validate "sid_1" "user_1",
          .revoke "sid_1", .validate "sid_1" "user_1"] ∧
      Explains [] history last.db.sessions.rows := by
  let create := Operation.create "sid_1" "user_1" (some 1000) none 3600 1
  let validate := Operation.validate "sid_1" "user_1"
  let revoke := Operation.revoke "sid_1"
  let serve (operation : Operation) (world : World) :=
    (Sample.site true).system.serveBy unreachable ((Sample.site true).program operation.call) world
  let start := World.empty 1000000
  let created := (serve create start).2.2
  let validated := (serve validate created).2.2
  let revoked := (serve revoke validated).2.2
  have executes (operation : Operation) (world : World) :
      Executes Elapses ((Sample.site true).program operation.call) world (serve operation world).1
        (serve operation world).2.1 (serve operation world).2.2 :=
    (executes_serveBy (Sample.site true).system unreachable _ world).mono
      (fun first second same => same ▸ Elapses.refl first)
  have known : SessionStore.validateSessionId "sid_1" = .ok () := by decide +kernel
  have createValid : create.Valid := ⟨known, by decide +kernel⟩
  have validateValid : validate.Valid := known
  have revokeValid : revoke.Valid := known
  have served : Serves (Sample.site true) start _ _ :=
    .serve createValid (.refl _) (executes create start) (unreachable_down _ _)
      (.serve validateValid (.refl _) (executes validate created) (unreachable_down _ _)
        (.serve revokeValid (.refl _) (executes revoke validated) (unreachable_down _ _)
          (.serve validateValid (.refl _) (executes validate revoked) (unreachable_down _ _)
            (.idle (.refl _)))))
  exact ⟨_, _, served, rfl, store_is_table_machine (Sample.site true) rfl served⟩

end BrainMate.Gateway.SessionMachine
