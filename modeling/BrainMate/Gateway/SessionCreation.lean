import BrainMate.Gateway.KeyKinds
import BrainMate.Gateway.Serving
import BrainMate.Gateway.SessionLimitDb
import BrainMate.Gateway.SessionLimitRedis

namespace BrainMate.Gateway.SessionCreation

open Interleaving System Storage
open SessionLimitDb (activeSessions isActive)
open SessionLimitRedis (LiveFor counterValue)

variable {site : Deployment}

/-- The session is registered for the user, unrevoked and unexpired. -/
def ActiveSession (db : Bool) (world : World) (sessionId userId : String) : Prop :=
  if db then
    ∃ row, world.db.sessions.find? sessionId = some row ∧ isActive userId world.pgEpoch row = true
  else LiveFor userId world sessionId

/-- What the limit of a user is compared with. -/
def sessionCount (site : Deployment) (world : World) (userId : String) : Int :=
  if site.db then activeSessions userId world else counterValue (site.sha256Hex userId) world

/-- Sessions and counts differ at most by the time that has passed. -/
structure Unchanged (site : Deployment) (before after : World) : Prop where
  active : ∀ sessionId userId, ActiveSession site.db after sessionId userId ↔
    ActiveSession site.db (before.atClock after.clock) sessionId userId
  count : ∀ userId, sessionCount site after userId =
    sessionCount site (before.atClock after.clock) userId

/-- There is room for one more row, or Redis takes the TTL. -/
def Accepts (site : Deployment) (world : World) (userId : String) (ttlSecs maxSessions : Nat) : Prop :=
  if site.db then activeSessions userId world < maxSessions
  else acceptsTtl world.clock ttlSecs = true

/-- The command at which a creation decides: the one that opens the transaction, or the SET NX. -/
inductive Decisive : Bool → Command → Prop where
  | opens : Decisive true (.db .begin)
  | writes (key : RedisKey) (value : RedisValue) (ttlSecs : Nat) :
      Decisive false (.redis (.setNxEx key value ttlSecs))

/-- The world that a decisive command of the creation met. -/
def DecidedIn (decided : World) (trace : List site.system.Exchange) : Prop :=
  ∃ command, Decisive site.db command ∧ ⟨command, .success, command.answer decided⟩ ∈ trace

/-- What a creation that was answered with Ok has checked. -/
def Checked : (call : Call) → call.Result → Prop
  | .createSession sessionId userId _ _ _ _, answer => answer.isOk = true →
    SessionStore.validateSessionId sessionId = .ok () ∧ (trim userId).isEmpty = false
  | _, _ => True

private theorem unchanged_of_waits {before after : World} (waits : Waits before after) :
    Unchanged site before after := by
  rw [← waits.eq]
  exact ⟨fun _ _ => Iff.rfl, fun _ => rfl⟩

/-- With a database the sessions are its rows. -/
theorem unchanged_of_db (withDb : site.db = true) {before after : World} (same : after.db = before.db) :
    Unchanged site before after := by
  constructor
  · intro sessionId userId
    simp only [ActiveSession, withDb, if_true, same]
    rfl
  · intro userId
    simp only [sessionCount, withDb, if_true, activeSessions, same]
    rfl

private theorem program_checked (site : Deployment) (call : Call) :
    (site.program call).Ends (Checked call) := by
  cases call with
  | createSession sessionId userId issuedAt deviceInfo ttlSecs maxSessionsPerUser =>
    simp only [Deployment.program, SessionStore.createSession]
    split
    · rintro ⟨⟩
    · rename_i valid
      split
      · rintro ⟨⟩
      · rename_i named
        exact Program.ends_of_forall (fun _ _ => ⟨valid, Bool.eq_false_iff.mpr named⟩) _
  | _ => exact Program.ends_of_forall (fun _ => trivial) _

section

variable {sha256Hex : String → String} {sessionId userId : String} {issuedAt : Option Nat}
variable {deviceInfo : Option String} {ttlSecs maxSessions : Nat} {before after : World}
variable {trace : List site.system.Exchange} {answer : Except ApiError Unit}

private theorem insertSession_again {record row : DbSession} {world : World}
    (present : world.db.sessions.find? record.id = some row) :
    Command.effect (.db (.insertSession record)) world = world := by
  have conflict : record.id ∈ world.db.sessions.rows.map DbSession.id := by
    obtain ⟨member, same⟩ := world.db.sessions.find?_eq_some_iff.mp present
    exact List.mem_map.mpr ⟨row, member, same⟩
  simp only [Command.effect, DbCommand.effect, Table.insertNew]
  rw [dif_pos conflict]

/-- The limit is checked first; the row that is there stays as it is. -/
theorem createSessionGuarded_again {record row : DbSession} {inserted : Except DbError Bool}
    (present : before.db.sessions.find? record.id = some row)
    (success : ∀ exchange ∈ trace, exchange.outcome = .success)
    (executes : Executes Waits (SessionStore.createSessionGuarded record maxSessions) before trace
      inserted after) :
    Waits before after ∧ ∃ began, Waits before began ∧ Waits began after ∧
      ⟨.db .begin, .success, Command.answer (.db .begin) began⟩ ∈ trace ∧ inserted = if activeSessions record.userId began < maxSessions then .ok false
        else .error (.protocol "max_sessions_exceeded") := by
  simp only [SessionStore.createSessionGuarded, database_eq, Program.call_bind,
    Program.done_bind] at executes
  obtain ⟨began, _, toBegan, rfl, success, counting⟩ := executes_success executes success
  simp only [Command.answer, DbCommand.answer] at counting
  obtain ⟨counted, _, toCounted, rfl, success, deciding⟩ := executes_success counting success
  simp only [Command.answer, DbCommand.answer] at deciding
  replace toCounted : Waits began counted := toCounted
  have counts : counted.db.sessions.countWhere (isActive record.userId began.pgEpoch) =
      activeSessions record.userId began := by
    rw [← toCounted.eq]
    rfl
  have toNow := toBegan.trans toCounted
  split at deciding
  · rename_i full
    change (maxSessions : Int) ≤
      (counted.db.sessions.countWhere (isActive record.userId began.pgEpoch) : Nat) at full
    obtain ⟨ended, _, toEnded, _, _, answered⟩ := executes_success deciding success
    obtain ⟨rfl, rfl, _⟩ := answered.of_done
    refine ⟨toNow.trans toEnded, began, toBegan, toCounted.trans toEnded, .head _, ?_⟩
    rw [if_neg (by omega)]
  · rename_i room
    change ¬ (maxSessions : Int) ≤
      (counted.db.sessions.countWhere (isActive record.userId began.pgEpoch) : Nat) at room
    obtain ⟨stored, _, toStored, _, _, answered⟩ := executes_success deciding success
    have toEnd := toNow.trans toStored
    have there : stored.db.sessions.find? record.id = some row := by
      rw [← toEnd.eq]
      exact present
    obtain ⟨rfl, rfl, _⟩ := answered.of_done
    rw [insertSession_again there]
    refine ⟨toEnd, began, toBegan, toCounted.trans toStored, .head _, ?_⟩
    rw [if_pos (by omega)]
    simp [Command.answer, DbCommand.answer, there]

private theorem createSessionDb_again {row : DbSession}
    (present : before.db.sessions.find? sessionId = some row)
    (success : ∀ exchange ∈ trace, exchange.outcome = .success)
    (executes : Executes Waits (SessionStore.createSessionDb sessionId userId issuedAt deviceInfo
      ttlSecs maxSessions) before trace answer after) :
    after.db = before.db ∧ ∃ began, Waits before began ∧ began.clock ≤ after.clock ∧
      ⟨.db .begin, .success, Command.answer (.db .begin) began⟩ ∈ trace ∧
      (answer.isOk = true ↔ activeSessions userId began < maxSessions) := by
  simp only [SessionStore.createSessionDb, nowUnixSecs_eq, redis_eq, Program.call_bind,
    Program.done_bind] at executes
  obtain ⟨asked, _, toAsked, rfl, success, guarding⟩ := executes_success executes success
  replace toAsked : Waits before asked := toAsked
  obtain ⟨_, _, inserted, guarded, rfl, inserting, caching⟩ := guarding.of_bind
  have there : asked.db.sessions.find? sessionId = some row := by
    rw [← toAsked.eq]
    exact present
  obtain ⟨toGuarded, began, toBegan, fromBegan, opened, rfl⟩ := createSessionGuarded_again there
    (fun exchange member => success exchange (List.mem_append_left _ member)) inserting
  have sameRows : guarded.db = before.db := by rw [← (toAsked.trans toGuarded).eq]; rfl
  by_cases room : activeSessions userId began < maxSessions
  · rw [if_pos room] at caching
    obtain ⟨cached, outcome, _, toCached, _, answered⟩ := caching.of_call
    obtain ⟨rfl, rfl, _⟩ := answered.of_done
    refine ⟨?_, began, toAsked.trans toBegan, ?_, .tail _ (List.mem_append_left _ opened),
      fun _ => room, fun _ => rfl⟩
    · rw [Command.exec_redis_db, ← Waits.eq toCached]
      exact sameRows
    · rw [Command.exec_clock]
      exact fromBegan.clock.trans toCached.clock
  · rw [if_neg room] at caching
    obtain ⟨rfl, rfl, _⟩ := caching.of_done
    refine ⟨sameRows, began, toAsked.trans toBegan, fromBegan.clock,
      .tail _ (List.mem_append_left _ opened), ?_, fun fits => absurd fits room⟩
    rintro ⟨⟩

/-- What is live at the end of a call has been live all along. -/
theorem lookup_before {world : World} {clock : Nat} (waits : Waits before world)
    (ordered : world.clock ≤ clock) {key : RedisKey} {value : RedisValue}
    (found : (before.atClock clock).lookup key = some value) : world.lookup key = some value := by
  have later : Waits world (before.atClock clock) := by
    refine ⟨clock - world.clock, ?_⟩
    rw [← waits.eq, environment, World.atClock, World.atClock, Nat.add_sub_cancel' ordered]
  exact later.drifts.lookup found

private theorem createSessionRedis_again
    (live : LiveFor userId (before.atClock after.clock) sessionId)
    (success : ∀ exchange ∈ trace, exchange.outcome = .success)
    (executes : Executes Waits (SessionStore.createSessionRedis sha256Hex sessionId userId issuedAt
      deviceInfo ttlSecs maxSessions) before trace answer after) :
    Waits before after ∧ ∃ written, Waits before written ∧ written.clock ≤ after.clock ∧
      (∃ command, Decisive false command ∧ ⟨command, .success, command.answer written⟩ ∈ trace) ∧
      (answer.isOk = true ↔ acceptsTtl written.clock ttlSecs = true) := by
  obtain ⟨raw, record, found, read, mine⟩ := live
  simp only [SessionStore.createSessionRedis, redis_eq, Program.call_bind, Program.done_bind] at executes
  obtain ⟨written, _, toWritten, rfl, success, continues⟩ := executes_success executes success
  replace toWritten : Waits before written := toWritten
  have ordered : written.clock ≤ after.clock := by
    have later := executes_clock Waits.clock continues
    rwa [Command.effect, RedisCommand.effect_clock] at later
  have held := lookup_before toWritten ordered found
  have kept : Command.effect (.redis (.setNxEx (.session sessionId)
      (.session ⟨userId, issuedAt, deviceInfo⟩) ttlSecs)) written = written := by
    simp [Command.effect, RedisCommand.effect, held]
  rw [kept] at continues
  cases accepted : acceptsTtl written.clock ttlSecs with
  | false =>
    simp only [Command.answer, RedisCommand.answer, accepted, Bool.false_eq_true,
      if_false] at continues
    obtain ⟨rfl, rfl, _⟩ := continues.of_done
    exact ⟨toWritten, _, toWritten, Nat.le_refl _, ⟨_, .writes _ _ _, .head _⟩, by simp [accepted, Except.isOk, Except.toBool]⟩
  | true =>
    simp only [Command.answer, RedisCommand.answer, accepted, if_true, held, Option.isNone_some,
      SessionStore.getSessionJson, redis_eq, Program.call_bind, Program.done_bind] at continues
    obtain ⟨asked, _, toAsked, _, _, checking⟩ := executes_success continues success
    replace toAsked : Waits written asked := toAsked
    have toEnd := toWritten.trans toAsked
    have stillHeld := lookup_before toEnd (executes_clock Waits.clock checking) found
    simp only [Command.answer, RedisCommand.answer, stillHeld, read, Except.map, Program.pure_eq,
      Program.done_bind, mine, ne_eq, not_true_eq_false, if_false] at checking
    obtain ⟨rfl, rfl, _⟩ := checking.of_done
    exact ⟨toEnd, written, toWritten, toAsked.clock, ⟨_, .writes _ _ _, .head _⟩,
      by simp [accepted, Except.isOk, Except.toBool]⟩

end

/-- Creating a session again that was created and is still active answers with Ok and changes
nothing, if and only if there is room for one more: an active session of the user less than the
limit with a database, a TTL that Redis takes without one. -/
theorem create_again_iff {clock : Nat} {actions : List site.system.Action}
    {config : site.system.Config}
    (reached : Run (fun _ _ => True) (.initial (World.empty clock)) actions config) {client : Nat}
    {sessionId userId : String} {firstIssuedAt issuedAt : Option Nat}
    {firstDeviceInfo deviceInfo : Option String}
    {firstTtlSecs firstMaxSessions ttlSecs maxSessions : Nat}
    (created : config.threads client = .returned (.createSession sessionId userId firstIssuedAt
      firstDeviceInfo firstTtlSecs firstMaxSessions) (.ok ()))
    {trace : List site.system.Exchange} {answer : Except ApiError Unit} {after : World}
    (executes : Executes Waits (site.program (.createSession sessionId userId issuedAt deviceInfo
      ttlSecs maxSessions)) config.world trace answer after)
    (success : ∀ exchange ∈ trace, exchange.outcome = .success)
    (active : ActiveSession site.db (config.world.atClock after.clock) sessionId userId) :
    ∃ decided, Waits config.world decided ∧ decided.clock ≤ after.clock ∧ DecidedIn decided trace ∧
      (answer = .ok () ∧ Unchanged site config.world after ↔
        Accepts site decided userId ttlSecs maxSessions) := by
  have checked := reached.ends (program_checked site) (fun _ => trivial) client
  rw [created] at checked
  obtain ⟨valid, named⟩ := checked rfl
  have answered : answer = .ok () ↔ answer.isOk = true :=
    ⟨fun same => same ▸ rfl, ok_of_isOk⟩
  simp only [Deployment.program, SessionStore.createSession, valid, named, Bool.false_eq_true,
    if_false] at executes
  cases mode : site.db with
  | true =>
    simp only [mode, if_true] at executes
    rw [ActiveSession, mode, if_pos rfl] at active
    obtain ⟨row, present, _⟩ := active
    replace present : config.world.db.sessions.find? sessionId = some row := present
    obtain ⟨same, decided, waits, ordered, opened, room⟩ :=
      createSessionDb_again present success executes
    refine ⟨decided, waits, ordered, ⟨_, mode ▸ .opens, opened⟩, ?_⟩
    rw [Accepts, mode, if_pos rfl, answered, room]
    exact and_iff_left (unchanged_of_db mode same)
  | false =>
    simp only [mode, Bool.false_eq_true, if_false] at executes
    rw [ActiveSession, mode, if_neg Bool.false_ne_true] at active
    obtain ⟨toEnd, decided, waits, ordered, written, accepted⟩ :=
      createSessionRedis_again active success executes
    refine ⟨decided, waits, ordered, by rwa [DecidedIn, mode], ?_⟩
    rw [Accepts, mode, if_neg Bool.false_ne_true, answered, accepted]
    exact and_iff_left (unchanged_of_waits toEnd)

@[reducible] def login (maxSessions : Nat) : Call :=
  .createSession "sid_1" "user_1" (some 1000) none 3600 maxSessions

/-- A client has logged in, its session is active, and the login is answered once more. -/
def LoggedIn (maxSessions : Nat) (again : Bool) (config : (Sample.site true).system.Config) : Prop :=
  let served := Sample.served true (login maxSessions) config.world
  config.answer? 0 (login maxSessions) = some (.ok ()) ∧
    config.world.db.sessions.find? "sid_1" = some ⟨"sid_1", "user_1", some 1000, none, 4600, false⟩ ∧
    config.world.pgEpoch < 4600 ∧ activeSessions "user_1" config.world = 1 ∧ served.2.1.isOk = again ∧
    served.2.2.clock = config.world.clock

instance (maxSessions : Nat) (again : Bool) (config : (Sample.site true).system.Config) :
    Decidable (LoggedIn maxSessions again config) := inferInstanceAs (Decidable (_ ∧ _))

theorem LoggedIn.active {maxSessions : Nat} {again : Bool} {config : (Sample.site true).system.Config}
    (logged : LoggedIn maxSessions again config) : ActiveSession true (config.world.atClock
      (Sample.served true (login maxSessions) config.world).2.2.clock) "sid_1" "user_1" := by
  obtain ⟨_, found, unexpired, _, _, still⟩ := logged
  rw [still]
  refine ⟨_, found, ?_⟩
  have active : isActive "user_1" config.world.pgEpoch
      ⟨"sid_1", "user_1", some 1000, none, 4600, false⟩ = true := by
    simp [isActive, unexpired]
  exact active

private theorem logged_in (maxSessions : Nat) (again : Bool)
    (evaluated : Config.runsTo (fun _ _ => True)
      (.initial (World.empty 1000000) : (Sample.site true).system.Config)
      ((Sample.site true).serve 0 (login maxSessions) 5)
      (fun config => decide (LoggedIn maxSessions again config)) = true) :
    ∃ actions config, Run (fun _ _ => True)
      (.initial (World.empty 1000000) : (Sample.site true).system.Config) actions config ∧
      LoggedIn maxSessions again config := by
  obtain ⟨config, run, facts⟩ := Run.of_runsTo evaluated
  exact ⟨_, config, run, of_decide_eq_true facts⟩

/-- The user's only session takes all the room there is, and is refused when it is created again. -/
theorem login_refused_at_limit :
    ∃ actions config trace answer after,
      Run (fun _ _ => True) (.initial (World.empty 1000000) : (Sample.site true).system.Config)
        actions config ∧
      config.threads 0 = .returned (login 1) (.ok ()) ∧
      Executes Waits ((Sample.site true).program (login 1)) config.world trace answer after ∧
      (∀ exchange ∈ trace, exchange.outcome = .success) ∧
      ActiveSession true (config.world.atClock after.clock) "sid_1" "user_1" ∧
      ¬ (answer = .ok () ∧ Unchanged (Sample.site true) config.world after) := by
  obtain ⟨actions, config, run, logged⟩ := logged_in 1 false (by decide +kernel)
  refine ⟨actions, config, _, _, _, run, Config.returned_of_answer? logged.1,
    (Sample.executes_served rfl).mono waits_of_eq, serveAll_outcome _ _ _, logged.active, ?_⟩
  rintro ⟨accepted, _⟩
  obtain ⟨_, _, _, _, refused, _⟩ := logged
  rw [accepted] at refused
  cases refused

theorem login_repeated_below_limit :
    ∃ actions config,
      Run (fun _ _ => True) (.initial (World.empty 1000000) : (Sample.site true).system.Config)
        actions config ∧ LoggedIn 2 true config ∧
      (Sample.served true (login 2) config.world).2.1 = .ok () ∧
      Unchanged (Sample.site true) config.world (Sample.served true (login 2) config.world).2.2 := by
  obtain ⟨actions, config, run, logged⟩ := logged_in 2 true (by decide +kernel)
  refine ⟨actions, config, run, logged, ?_⟩
  obtain ⟨decided, waits, ordered, _, exact_⟩ := create_again_iff run
    (Config.returned_of_answer? logged.1) ((Sample.executes_served rfl).mono waits_of_eq)
    (serveAll_outcome _ _ _) logged.active
  obtain ⟨_, _, _, one, _, still⟩ := logged
  have same : decided = config.world := by
    rw [← waits.eq, Nat.le_antisymm (still ▸ ordered) waits.clock]
    rfl
  refine exact_.mpr ?_
  rw [same]
  exact (one ▸ by decide : activeSessions "user_1" config.world < 2)

/-- No live key, and no one who is let in with the session. -/
structure NoSession (site : Deployment) (sessionId userId : String) (world : World) : Prop where
  absent : world.lookup (.session sessionId) = none
  refused : ∀ (trace : List site.system.Exchange) (answer : Except ApiError SessionRecord)
    (last : World), Executes Waits (site.program (.validateSession sessionId userId)) world trace
      answer last → answer.isOk = false

/-- A failure that leaves nothing behind: no SET NX takes effect without an answer, the session is
counted, and the DELETE of a session in excess takes effect. -/
def Contained (written : World) (exchange : site.system.Exchange) : Prop :=
  match exchange.command with
  | .redis (.setNxEx _ _ ttlSecs) =>
    (∃ detail, exchange.outcome = .applied detail) → acceptsTtl written.clock ttlSecs = false
  | .redis (.incrEx _ _) => acknowledged exchange.command exchange.reply = true
  | .redis (.delete _) => exchange.outcome.takesEffect = true
  | _ => True

def RollsBack (written : World) (trace : List site.system.Exchange) : Prop :=
  ∀ exchange ∈ trace, Contained written exchange

section

variable {sha256Hex : String → String} {sessionId userId : String} {issuedAt : Option Nat}
variable {deviceInfo : Option String} {ttlSecs maxSessions : Nat} {before written after : World}
variable {trace : List site.system.Exchange} {answer : Except ApiError Unit}

/-- Without a live key a validation finds nothing, and has no database to ask. -/
theorem noSession_of_absent (redisOnly : site.db = false) {world : World}
    (absent : world.lookup (.session sessionId) = none) : NoSession site sessionId userId world := by
  refine ⟨absent, fun trace answer last executes => ?_⟩
  simp only [Deployment.program, redisOnly, SessionStore.validateSession] at executes
  split at executes
  · rw [executes.of_done.1]
    rfl
  simp only [SessionStore.getSessionJson, redis_eq, Program.call_bind, Program.done_bind] at executes
  obtain ⟨read, outcome, later, waits, rfl, continues⟩ := executes.of_call
  have gone : World.lookup read (.session sessionId) = none := (Waits.drifts waits).absent absent
  cases outcome with
  | success =>
    simp only [Command.exec, Command.answer, RedisCommand.answer, gone] at continues
    rw [continues.of_done.1]
    rfl
  | lost detail =>
    rw [continues.of_done.1]
    rfl
  | applied detail =>
    rw [continues.of_done.1]
    rfl

/-- Commands for other keys leave the entry, whatever time passes. -/
theorem entry_tolerates (key : RedisKey) : Tolerates site.system Waits
    (fun world later => later.redis key = world.redis key)
    (fun command => ∀ redisCommand, command = .redis redisCommand → redisCommand.key ≠ key) where
  refl _ := rfl
  trans first second := second.trans first
  elapse waits := by
    obtain ⟨_, rfl⟩ := waits
    rfl
  command {command} elsewhere outcome world := by
    rcases Command.exec_world outcome command world with same | same
    · exact congrArg (fun world : World => world.redis key) same
    · simp only [same]
      cases command with
      | now => rfl
      | db command => rfl
      | http => rfl
      | redis command => exact RedisCommand.effect_redis_other command world (elsewhere command rfl).symm

private theorem absent_iff_expired {world : World} {key : RedisKey} {value : RedisValue}
    {deadline : Nat}
    (stored : world.redis key = some ⟨value, some deadline⟩) :
    world.lookup key = none ↔ deadline ≤ world.clock := by
  simp [World.lookup, stored, Option.filter, RedisEntry.alive]

variable (sessionId written) in
private theorem uncount_served {failure : ApiError} (executes : Executes Waits (do
      let _ ← SessionStore.decrementUserSessionCount sha256Hex userId
      return .error failure) before trace answer after) :
    answer = .error failure ∧ after.redis (.session sessionId) = before.redis (.session sessionId) ∧
      RollsBack written trace := by
  have keeps : Tolerates site.system Waits _ _ := entry_tolerates (.session sessionId)
  have elsewhere : ∀ command, Command.redis (.decr (SessionStore.userSessionCountKey sha256Hex userId)) =
      .redis command → command.key ≠ .session sessionId := by
    intro command same
    cases same
    exact nofun
  simp only [SessionStore.decrementUserSessionCount, redis_eq, Program.call_bind,
    Program.done_bind] at executes
  obtain ⟨counted, outcome, later, waits, rfl, continues⟩ := executes.of_call
  have kept := keeps.trans (keeps.elapse waits) (keeps.command elsewhere outcome counted)
  cases replied : (Command.exec outcome
      (.redis (.decr (SessionStore.userSessionCountKey sha256Hex userId))) counted).1 with
  | error detail =>
    rw [replied] at continues
    obtain ⟨rfl, rfl, rfl⟩ := continues.of_done
    exact ⟨rfl, kept, List.forall_mem_singleton.mpr trivial⟩
  | ok count =>
    rw [replied] at continues
    obtain ⟨rfl, rfl, rfl⟩ := continues.of_done
    exact ⟨rfl, kept, List.forall_mem_singleton.mpr trivial⟩

variable (written) in
/-- The sessions are counted: what is left of the key depends on the INCR and on the DELETE. -/
theorem counting_fails_iff {value : RedisValue} {deadline : Nat}
    (stored : before.redis (.session sessionId) = some ⟨value, some deadline⟩)
    (executes : Executes Waits (do
      match ← SessionStore.incrementUserSessionCount sha256Hex userId ttlSecs with
      | .error error => return .error error
      | .ok newCount =>
        if maxSessions < newCount then
          let _ ← redis (.delete (.session sessionId))
          let _ ← SessionStore.decrementUserSessionCount sha256Hex userId
          return .error (.badRequest "Maximum concurrent sessions exceeded for this user")
        else return .ok ()) before trace answer after) :
    (answer.isOk = false → after.lookup (.session sessionId) = none) ↔
      RollsBack written trace ∨ deadline ≤ after.clock := by
  have keeps : Tolerates site.system Waits _ _ := entry_tolerates (.session sessionId)
  simp only [SessionStore.incrementUserSessionCount, redis_eq, Program.call_bind,
    Program.done_bind] at executes
  obtain ⟨counted, outcome, later, waits, rfl, continues⟩ := executes.of_call
  have elsewhere : ∀ command, Command.redis (.incrEx (SessionStore.userSessionCountKey sha256Hex userId)
      ttlSecs) = .redis command → command.key ≠ .session sessionId := by
    intro command same
    cases same
    rintro ⟨⟩
  have counting := (keeps.trans (keeps.elapse waits)
    (keeps.command elsewhere outcome counted)).trans stored
  cases replied : (Command.exec outcome
      (.redis (.incrEx (SessionStore.userSessionCountKey sha256Hex userId) ttlSecs)) counted).1 with
  | error failure =>
    rw [replied] at continues
    obtain ⟨rfl, rfl, rfl⟩ := continues.of_done
    rw [absent_iff_expired counting, or_iff_right]
    · exact ⟨fun gone => gone rfl, fun expired _ => expired⟩
    · intro contained
      exact absurd (contained _ (.head _)) Bool.false_ne_true
  | ok newCount =>
    rw [replied] at continues
    simp only [Program.pure_eq, Program.done_bind] at continues
    split at continues
    · obtain ⟨dropping, dropped, later, waits, rfl, finishing⟩ := continues.of_call
      obtain ⟨rfl, kept, contained⟩ := uncount_served sessionId written finishing
      cases effective : dropped.takesEffect with
      | true =>
        have gone : after.lookup (.session sessionId) = none := by
          rw [Command.exec_effect effective] at kept
          simp only [Command.effect, RedisCommand.effect, World.remove, Function.update_self] at kept
          simp [World.lookup, kept]
        refine ⟨fun _ => .inl ?_, fun _ _ => gone⟩
        exact List.forall_mem_cons.mpr ⟨rfl, List.forall_mem_cons.mpr ⟨effective, contained⟩⟩
      | false =>
        rw [Command.exec_lost effective] at kept
        rw [absent_iff_expired (kept.trans ((keeps.elapse waits).trans counting)), or_iff_right]
        · exact ⟨fun gone => gone rfl, fun expired _ => expired⟩
        · intro contained
          have dropped := contained _ (.tail _ (.head _))
          cases effective.symm.trans dropped
    · obtain ⟨rfl, rfl, rfl⟩ := continues.of_done
      refine ⟨fun _ => .inl (List.forall_mem_singleton.mpr rfl), ?_⟩
      rintro _ ⟨⟩

private theorem createSessionRedis_fails_iff (absent : before.lookup (.session sessionId) = none)
    (meets : Meets Waits written (SessionStore.createSessionRedis sha256Hex sessionId userId issuedAt
      deviceInfo ttlSecs maxSessions) before trace answer after) :
    (answer.isOk = false → after.lookup (.session sessionId) = none) ↔
      RollsBack written trace ∨ written.clock + ttlSecs * 1000 ≤ after.clock := by
  simp only [SessionStore.createSessionRedis, redis_eq, Program.call_bind, Program.done_bind] at meets
  obtain ⟨outcome, later, waits, rfl, continues⟩ := meets.of_call
  replace waits : Waits before written := waits
  have gone := (Waits.drifts waits).absent absent
  have stored (accepted : acceptsTtl written.clock ttlSecs = true) :
      (Command.effect (.redis (.setNxEx (.session sessionId) (.session ⟨userId, issuedAt, deviceInfo⟩)
        ttlSecs)) written).redis (.session sessionId) =
        some ⟨.session ⟨userId, issuedAt, deviceInfo⟩, some (written.clock + ttlSecs * 1000)⟩ := by
    simp [Command.effect, RedisCommand.effect, accepted, gone, World.store]
  have refused (refuses : acceptsTtl written.clock ttlSecs = false) :
      Command.effect (.redis (.setNxEx (.session sessionId) (.session ⟨userId, issuedAt, deviceInfo⟩)
        ttlSecs)) written = written := by
    simp [Command.effect, RedisCommand.effect, refuses]
  cases outcome with
  | lost detail =>
    obtain ⟨rfl, rfl, rfl⟩ := continues.of_done
    refine ⟨fun _ => .inl (List.forall_mem_singleton.mpr ?_), fun _ _ => gone⟩
    rintro ⟨_, ⟨⟩⟩
  | applied detail =>
    obtain ⟨rfl, rfl, rfl⟩ := continues.of_done
    cases accepted : acceptsTtl written.clock ttlSecs with
    | false =>
      refine ⟨fun _ => .inl (List.forall_mem_singleton.mpr fun _ => accepted), fun _ _ => ?_⟩
      exact (congrArg (fun world : World => world.lookup (.session sessionId)) (refused accepted)).trans gone
    | true =>
      refine (imp_congr_right fun _ => absent_iff_expired (stored accepted)).trans ?_
      rw [or_iff_right]
      · exact ⟨fun gone => gone rfl, fun expired _ => expired⟩
      · intro contained
        cases accepted.symm.trans (contained _ (.head _) ⟨detail, rfl⟩)
  | success =>
    have unapplied {reply : Except RedisLayerError Bool} : @Contained site written
        ⟨.redis (.setNxEx (.session sessionId) (.session ⟨userId, issuedAt, deviceInfo⟩) ttlSecs),
          .success, reply⟩ := by rintro ⟨_, ⟨⟩⟩
    cases accepted : acceptsTtl written.clock ttlSecs with
    | false =>
      simp only [Command.exec, Command.answer, RedisCommand.answer, accepted, Bool.false_eq_true,
        if_false, refused accepted] at continues ⊢
      obtain ⟨rfl, rfl, rfl⟩ := continues.of_done
      exact ⟨fun _ => .inl (List.forall_mem_singleton.mpr unapplied), fun _ _ => gone⟩
    | true =>
      simp only [Command.exec, Command.answer, RedisCommand.answer, accepted, if_true, gone,
        Option.isNone_none] at continues ⊢
      refine (counting_fails_iff written (stored accepted) continues).trans (or_congr_left ?_)
      exact ⟨fun contained => List.forall_mem_cons.mpr ⟨unapplied, contained⟩,
        fun contained => (List.forall_mem_cons.mp contained).2⟩

end

/-- A creation that fails without a database leaves no session behind if and only if the failures
are contained, or the key that was written has expired by the end of the call. -/
theorem failed_creation_iff (redisOnly : site.db = false) {sessionId userId : String}
    {issuedAt : Option Nat} {deviceInfo : Option String} {ttlSecs maxSessions : Nat}
    {before written after : World} (absent : before.lookup (.session sessionId) = none)
    {trace : List site.system.Exchange} {answer : Except ApiError Unit}
    (meets : Meets Waits written (site.program (.createSession sessionId userId issuedAt deviceInfo
      ttlSecs maxSessions)) before trace answer after) :
    (answer.isOk = false → NoSession site sessionId userId after) ↔
      RollsBack written trace ∨ written.clock + ttlSecs * 1000 ≤ after.clock := by
  have gone : NoSession site sessionId userId after ↔ after.lookup (.session sessionId) = none :=
    ⟨NoSession.absent, noSession_of_absent redisOnly⟩
  rw [gone]
  simp only [Deployment.program, SessionStore.createSession, redisOnly, Bool.false_eq_true,
    if_false] at meets
  have unstarted {error : ApiError} (meets : Meets Waits written (.done (.error error)) before
      trace answer after) : (answer.isOk = false → after.lookup (.session sessionId) = none) ↔
      RollsBack written trace ∨ written.clock + ttlSecs * 1000 ≤ after.clock := by
    obtain ⟨rfl, rfl, rfl⟩ := meets.of_done
    exact ⟨fun _ => .inl (List.forall_mem_nil _), fun _ _ => absent⟩
  split at meets
  · exact unstarted meets
  · split at meets
    · exact unstarted meets
    · exact createSessionRedis_fails_iff absent meets

/-- A creation in empty stores, with Redis failing as the pattern says. -/
def creation (pattern : Command → Outcome) (maxSessions : Nat) :
    List (Sample.site false).system.Exchange × Except ApiError Unit × World :=
  (Sample.site false).system.serveBy pattern ((Sample.site false).program (login maxSessions))
    (World.empty 1000000)

private theorem creation_meets (pattern : Command → Outcome) (maxSessions : Nat) :
    ∃ written, Meets Waits written ((Sample.site false).program (login maxSessions))
      (World.empty 1000000) (creation pattern maxSessions).1 (creation pattern maxSessions).2.1
      (creation pattern maxSessions).2.2 :=
  ((executes_serveBy (Sample.site false).system pattern _ _).mono waits_of_eq).meets

/-- The INCR fails, and nothing else. -/
def uncounted : Command → Outcome
  | .redis (.incrEx _ _) => .lost "timed out"
  | _ => .success

/-- The key was written, the sessions were not counted, and the key is left as it is. -/
theorem uncounted_creation_leaves_session :
    ∃ written, Meets Waits written ((Sample.site false).program (login 1)) (World.empty 1000000)
        (creation uncounted 1).1 (creation uncounted 1).2.1 (creation uncounted 1).2.2 ∧
      (World.empty 1000000).lookup (.session "sid_1") = none ∧
      ¬ ((creation uncounted 1).2.1.isOk = false →
        NoSession (Sample.site false) "sid_1" "user_1" (creation uncounted 1).2.2) := by
  obtain ⟨written, meets⟩ := creation_meets uncounted 1
  refine ⟨written, meets, rfl, fun leaves => ?_⟩
  have live : (creation uncounted 1).2.1.isOk = false ∧
      ((creation uncounted 1).2.2.lookup (.session "sid_1")).isSome = true := by decide +kernel
  have gone := (leaves live.1).absent
  rw [gone] at live
  cases live.2

/-- The DECR fails, and nothing else. -/
def undecremented : Command → Outcome
  | .redis (.decr _) => .lost "timed out"
  | _ => .success

private theorem undecremented_contained (written : World) :
    RollsBack written (creation undecremented 0).1 := by
  have counted : ∀ exchange ∈ (creation undecremented 0).1,
      acknowledged exchange.command exchange.reply = true ∨ undecremented exchange.command ≠ .success := by
    decide +kernel
  intro exchange member
  have outcome := serveBy_outcome _ _ exchange member
  unfold Contained
  split
  · rename_i same
    rintro ⟨detail, applied⟩
    rw [outcome, same] at applied
    cases applied
  · rename_i same
    rcases counted exchange member with answered | failed
    · exact answered
    · exact absurd (congrArg undecremented same) failed
  · rename_i same
    rw [outcome, same]
    rfl
  · trivial

/-- The DELETE takes effect, and what the DECR does does not matter. -/
theorem excess_creation_leaves_none :
    (creation undecremented 0).2.1.isOk = false ∧
      NoSession (Sample.site false) "sid_1" "user_1" (creation undecremented 0).2.2 := by
  have failed : (creation undecremented 0).2.1.isOk = false := by decide +kernel
  obtain ⟨written, meets⟩ := creation_meets undecremented 0
  exact ⟨failed,
    (failed_creation_iff rfl rfl meets).mpr (.inl (undecremented_contained written)) failed⟩

end BrainMate.Gateway.SessionCreation
