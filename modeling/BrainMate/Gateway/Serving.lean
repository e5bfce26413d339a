import Mathlib.Logic.Relation
import BrainMate.Interleaving.Sequential
import BrainMate.Gateway.Effects

namespace BrainMate.Gateway

open Interleaving System

/-- The command was answered without an error. -/
def acknowledged : (command : Command) → command.Reply → Bool
  | .now, _ => true
  | .http, reply => reply.isOk
  | .redis _, reply => reply.isOk
  | .db _, reply => reply.isOk

theorem ok_of_isOk {ε : Type} {reply : Except ε Unit} (answered : reply.isOk = true) :
    reply = .ok () := by
  cases reply with
  | error => cases answered
  | ok => rfl

/-- Time passes, and nothing else happens. -/
def Waits (world later : World) : Prop := ∃ milliseconds, later = environment (.tick milliseconds) world

theorem waits_of_eq (world later : World) (same : world = later) : Waits world later :=
  ⟨0, same.symm⟩

/-- The world with another time on its clock. -/
def World.atClock (world : World) (clock : Nat) : World := { world with clock := clock }

theorem Waits.trans {first second third : World} (before : Waits first second)
    (after : Waits second third) : Waits first third := by
  obtain ⟨earlier, rfl⟩ := before
  obtain ⟨later, rfl⟩ := after
  exact ⟨earlier + later, by simp [environment, Nat.add_assoc]⟩

theorem Waits.clock {world later : World} (waits : Waits world later) : world.clock ≤ later.clock := by
  obtain ⟨milliseconds, rfl⟩ := waits
  exact Nat.le_add_right _ _

theorem Waits.eq {world later : World} (waits : Waits world later) :
    world.atClock later.clock = later := by
  obtain ⟨milliseconds, rfl⟩ := waits
  rfl

/-- Time passes and keys may be evicted. -/
def Drifts : World → World → Prop :=
  Relation.ReflTransGen fun world later => ∃ event, later = environment event world

theorem Waits.drifts {world later : World} (waits : Waits world later) : Drifts world later := by
  obtain ⟨milliseconds, rfl⟩ := waits
  exact .single ⟨_, rfl⟩

theorem Drifts.clock {world later : World} (drifts : Drifts world later) :
    world.clock ≤ later.clock := by
  induction drifts with
  | refl => exact Nat.le_refl _
  | tail _ moves ih =>
    obtain ⟨event, rfl⟩ := moves
    refine Nat.le_trans ih ?_
    cases event with
    | tick milliseconds => exact Nat.le_add_right _ _
    | evict key => exact Nat.le_refl _

theorem Drifts.lookup {world later : World} (drifts : Drifts world later) {key : RedisKey}
    {value : RedisValue} (found : later.lookup key = some value) : world.lookup key = some value := by
  induction drifts with
  | refl => exact found
  | tail _ moves ih =>
    obtain ⟨event, rfl⟩ := moves
    exact ih (environment_cached found)

theorem Drifts.absent {world later : World} (drifts : Drifts world later) {key : RedisKey}
    (absent : world.lookup key = none) : later.lookup key = none := by
  cases found : later.lookup key with
  | none => rfl
  | some value => cases absent.symm.trans (drifts.lookup found)

/-- Neither the database, nor the clock, nor a refresh entry has changed. -/
structure Untouched (world later : World) : Prop where
  db : later.db = world.db
  clock : later.clock = world.clock
  redis : ∀ tokenHash, later.redis (.refresh tokenHash) = world.redis (.refresh tokenHash)

/-- Neither the clock nor a refresh entry has changed. -/
structure CacheKept (world later : World) : Prop where
  clock : later.clock = world.clock
  redis : ∀ tokenHash, later.redis (.refresh tokenHash) = world.redis (.refresh tokenHash)

/-- Time may have passed, and nothing else changed. -/
structure Frozen (world later : World) : Prop where
  db : later.db = world.db
  clock : world.clock ≤ later.clock
  redis : ∀ tokenHash, later.redis (.refresh tokenHash) = world.redis (.refresh tokenHash)

/-- Refresh entries may be gone, and nothing else changed. -/
structure Fades (world later : World) : Prop where
  db : later.db = world.db
  cached : ∀ tokenHash value, later.lookup (.refresh tokenHash) = some value →
    world.lookup (.refresh tokenHash) = some value

/-- A command that leaves the database and all refresh entries as they are. -/
def Harmless : Command → Prop
  | .now | .http | .db (.getRefreshToken _) | .redis (.get _) => True
  | .redis command => ∀ tokenHash, command.key ≠ .refresh tokenHash
  | .db _ => False

/-- A command that only reads. -/
def Reads : Command → Prop
  | .now | .http | .db (.getRefreshToken _) | .redis (.get _) => True
  | _ => False

/-- A command for the database. -/
def Statement : Command → Prop
  | .db _ => True
  | .now | .redis _ | .http => False

theorem Harmless.effect {command : Command} (harmless : Harmless command) (world : World) :
    Untouched world (command.effect world) := by
  have other {redisCommand : RedisCommand}
      (elsewhere : ∀ tokenHash, redisCommand.key ≠ .refresh tokenHash) :
      Untouched world (Command.effect (.redis redisCommand) world) := by
    refine ⟨redisCommand.effect_db world, redisCommand.effect_clock world, fun tokenHash => ?_⟩
    simp only [Command.effect]
    rcases redisCommand.effect_cases world with same | same | ⟨_, _, same⟩ <;> rw [same]
    · exact Function.update_of_ne (elsewhere tokenHash).symm _ _
    · exact Function.update_of_ne (elsewhere tokenHash).symm _ _
  cases command with
  | now => exact ⟨rfl, rfl, fun _ => rfl⟩
  | http => exact ⟨rfl, rfl, fun _ => rfl⟩
  | db command =>
    cases command with
    | getRefreshToken => exact ⟨rfl, rfl, fun _ => rfl⟩
    | _ => exact harmless.elim
  | redis command =>
    cases command with
    | get => exact ⟨rfl, rfl, fun _ => rfl⟩
    | _ => exact other harmless

theorem Harmless.exec {command : Command} (harmless : Harmless command) (outcome : Outcome)
    (world : World) : Untouched world (Command.exec outcome command world).2 := by
  rcases Command.exec_world outcome command world with same | same <;> rw [same]
  · exact ⟨rfl, rfl, fun _ => rfl⟩
  · exact harmless.effect world

theorem Reads.harmless {command : Command} (reads : Reads command) : Harmless command := by
  cases command with
  | now => trivial
  | http => trivial
  | redis command =>
    cases command with
    | get => trivial
    | _ => exact reads.elim
  | db command =>
    cases command with
    | getRefreshToken => trivial
    | _ => exact reads.elim

theorem Harmless.caches_none {command : Command} (harmless : Harmless command)
    (tokenHash : String) : command.cachesToken tokenHash = none := by
  unfold Command.cachesToken
  split
  · exact absurd rfl (harmless _)
  · exact absurd rfl (harmless _)
  · rfl

theorem Untouched.lookup {world later : World} (same : Untouched world later) (tokenHash : String) :
    later.lookup (.refresh tokenHash) = world.lookup (.refresh tokenHash) := by
  simp [World.lookup, same.clock, same.redis]

theorem Untouched.cacheKept {world later : World} (same : Untouched world later) :
    CacheKept world later := ⟨same.clock, same.redis⟩

theorem Untouched.frozen {world later : World} (same : Untouched world later) :
    Frozen world later := ⟨same.db, Nat.le_of_eq same.clock.symm, same.redis⟩

theorem Untouched.fades {world later : World} (same : Untouched world later) : Fades world later :=
  ⟨same.db, fun tokenHash _ found => (same.lookup tokenHash) ▸ found⟩

theorem Drifts.fades {world later : World} (drifts : Drifts world later) : Fades world later := by
  induction drifts with
  | refl => exact ⟨rfl, fun _ _ => id⟩
  | tail _ moves ih =>
    obtain ⟨event, rfl⟩ := moves
    exact ⟨(environment_db event _).trans ih.db,
      fun tokenHash value found => ih.cached tokenHash value (environment_cached found)⟩

variable {site : Deployment}

theorem untouched_tolerates : Tolerates site.system Eq Untouched Harmless where
  refl _ := ⟨rfl, rfl, fun _ => rfl⟩
  trans first second := ⟨second.db.trans first.db, second.clock.trans first.clock,
    fun tokenHash => (second.redis tokenHash).trans (first.redis tokenHash)⟩
  elapse same := same ▸ ⟨rfl, rfl, fun _ => rfl⟩
  command harmless outcome world := harmless.exec outcome world

theorem cacheKept_tolerates : Tolerates site.system Eq CacheKept Statement where
  refl _ := ⟨rfl, fun _ => rfl⟩
  trans first second := ⟨second.clock.trans first.clock,
    fun tokenHash => (second.redis tokenHash).trans (first.redis tokenHash)⟩
  elapse same := same ▸ ⟨rfl, fun _ => rfl⟩
  command {command} statement outcome world := by
    cases command with
    | now => exact statement.elim
    | http => exact statement.elim
    | redis command => exact statement.elim
    | db command =>
      rcases Command.exec_world outcome (.db command) world with same | same <;>
        simp only [same] <;> exact ⟨rfl, fun _ => rfl⟩

theorem frozen_tolerates : Tolerates site.system Waits Frozen Harmless where
  refl _ := ⟨rfl, Nat.le_refl _, fun _ => rfl⟩
  trans first second := ⟨second.db.trans first.db, Nat.le_trans first.clock second.clock,
    fun tokenHash => (second.redis tokenHash).trans (first.redis tokenHash)⟩
  elapse := by
    rintro _ _ ⟨milliseconds, rfl⟩
    exact ⟨rfl, Nat.le_add_right _ _, fun _ => rfl⟩
  command harmless outcome world := (harmless.exec outcome world).frozen

theorem fades_tolerates : Tolerates site.system Drifts Fades Harmless where
  refl _ := ⟨rfl, fun _ _ => id⟩
  trans first second := ⟨second.db.trans first.db,
    fun tokenHash value found => first.cached tokenHash value (second.cached tokenHash value found)⟩
  elapse := Drifts.fades
  command harmless outcome world := (harmless.exec outcome world).fades

theorem drifts_tolerates : Tolerates site.system Drifts Drifts Reads where
  refl _ := .refl
  trans := .trans
  elapse := id
  command {command} reads outcome world := by
    have same : (Command.exec outcome command world).2 = world := by
      rcases Command.exec_world outcome command world with kept | kept
      · exact kept
      · rw [kept]
        cases command with
        | now => rfl
        | http => rfl
        | redis command =>
          cases command with
          | get => rfl
          | _ => exact reads.elim
        | db command =>
          cases command with
          | getRefreshToken => rfl
          | _ => exact reads.elim
    simp only [same]
    exact .refl

/-- A call does not end before it starts. -/
theorem executes_clock {α : Type} {elapses : World → World → Prop}
    (passes : ∀ {first second}, elapses first second → first.clock ≤ second.clock)
    {program : Procedure α} {world last : World} {trace : List site.system.Exchange} {value : α}
    (executes : Executes elapses program world trace value last) : world.clock ≤ last.clock := by
  have keeps : Tolerates site.system elapses (fun world later => world.clock ≤ later.clock)
      (fun _ => True) :=
    ⟨fun _ => Nat.le_refl _, Nat.le_trans, passes, fun _ outcome world => by simp⟩
  exact executes.respects keeps (Program.every_of_forall (fun _ => trivial) _)

/-- Reading the clock changes nothing and does not fail. -/
theorem executes_now {α : Type} {elapses : World → World → Prop} {next : Nat → Procedure α}
    {world last : World} {trace : List site.system.Exchange} {value : α}
    (executes : Executes elapses (.call .now next) world trace value last) :
    ∃ asked outcome later, elapses world asked ∧ trace = ⟨.now, outcome, asked.clock⟩ :: later ∧
      Executes elapses (next asked.clock) asked later value last := by
  obtain ⟨asked, outcome, later, waits, rfl, continues⟩ := executes.of_call
  cases outcome <;> exact ⟨asked, _, later, waits, rfl, continues⟩

/-- With the stores up a command takes effect and is answered by the world it meets. -/
theorem executes_success {α : Type} {elapses : World → World → Prop} {command : Command}
    {next : command.Reply → Procedure α} {world last : World} {trace : List site.system.Exchange}
    {value : α} (executes : Executes elapses (.call command next) world trace value last)
    (success : ∀ exchange ∈ trace, exchange.outcome = .success) :
    ∃ (asked : World) (later : List site.system.Exchange), elapses world asked ∧
      trace = ⟨command, .success, command.answer asked⟩ :: later ∧
      (∀ exchange ∈ later, exchange.outcome = .success) ∧
      Executes elapses (next (command.answer asked)) (command.effect asked) later value last := by
  obtain ⟨asked, outcome, later, waits, rfl, continues⟩ := executes.of_call
  obtain rfl : outcome = .success := success _ (.head _)
  exact ⟨asked, later, waits, rfl, fun exchange member => success exchange (.tail _ member), continues⟩

section

variable (sha256Hex : String → String)

theorem ttlFromExpiresAt_reads (expiresAt : Nat) :
    (RefreshStore.ttlFromExpiresAt expiresAt).Every Reads := by
  simp only [RefreshStore.ttlFromExpiresAt, nowUnixSecs_eq, Program.call_bind, Program.done_bind]
  refine ⟨trivial, fun millis => ?_⟩
  dsimp only
  split <;> trivial

private theorem getRefreshJson_reads (key : RedisKey) :
    (RefreshStore.getRefreshJson key).Every Reads := by
  simp only [RefreshStore.getRefreshJson, redis_eq, Program.call_bind, Program.done_bind]
  refine ⟨trivial, fun reply => ?_⟩
  rcases reply with error | _ | raw <;> trivial

private theorem readOldRow_reads (old : String) :
    (RefreshStore.readOldRow sha256Hex old).Every Reads := by
  simp only [RefreshStore.readOldRow, database_eq, Program.call_bind, Program.done_bind]
  refine ⟨trivial, fun reply => ?_⟩
  rcases reply with error | _ | row <;> trivial

theorem readOldRecord_reads (old : String) :
    (RefreshStore.readOldRecord sha256Hex old).Every Reads := by
  refine (getRefreshJson_reads _).bind fun reply => ?_
  rcases reply with error | _ | record
  · exact readOldRow_reads sha256Hex old
  · exact readOldRow_reads sha256Hex old
  · trivial

theorem isSpent_reads (record : RefreshTokenRecord) :
    (RefreshStore.isSpent record).Every Reads := by
  simp only [RefreshStore.isSpent, nowUnixSecs_eq, Program.call_bind, Program.done_bind]
  split
  · trivial
  · exact ⟨trivial, fun _ => trivial⟩

private theorem validateRecord_reads (record : RefreshTokenRecord) :
    (RefreshStore.validateRecord record).Every Reads := by
  simp only [RefreshStore.validateRecord, nowUnixSecs_eq, Program.call_bind, Program.done_bind]
  split
  · trivial
  · refine ⟨trivial, fun millis => ?_⟩
    dsimp only
    split <;> trivial

theorem acquireLock_harmless (old : String) :
    Harmless (.redis (.setNxEx (RefreshStore.lockKey sha256Hex old) (.text "1") 5)) :=
  fun _ => by simp [RedisCommand.key, RefreshStore.lockKey]

theorem releaseLock_harmless (old : String) (result : Except ApiError RotationStatus) :
    (RefreshStore.releaseLock sha256Hex old result).Every Harmless := by
  simp only [RefreshStore.releaseLock, redis_eq, Program.call_bind, Program.done_bind]
  exact ⟨fun _ => by simp [RedisCommand.key, RefreshStore.lockKey], fun _ => trivial⟩

end

section

variable {elapses related : World → World → Prop} {sha256Hex : String → String}
variable {old new : String} {newExpiresAt newTtl : Nat} {status : RotationStatus}
variable {before after : World} {trace : List site.system.Exchange}

theorem ttlFromExpiresAt_served (tolerates : Tolerates site.system elapses related Reads)
    (executes : Executes elapses (RefreshStore.ttlFromExpiresAt newExpiresAt) before trace
      (.ok newTtl) after) :
    related before after ∧ newTtl = newExpiresAt - after.second ∧ after.second < newExpiresAt := by
  have respected := executes.respects tolerates (ttlFromExpiresAt_reads newExpiresAt)
  simp only [RefreshStore.ttlFromExpiresAt, nowUnixSecs_eq, Program.call_bind,
    Program.done_bind] at executes
  obtain ⟨asked, _, _, _, _, continues⟩ := executes_now executes
  split at continues
  · cases continues.of_done.1
  · rename_i expired
    obtain ⟨known, rfl, _⟩ := continues.of_done
    cases known
    exact ⟨respected, rfl, Nat.lt_of_not_le expired⟩

theorem validateRefreshTokenId_error {token : String} {error : ApiError}
    (invalid : RefreshStore.validateRefreshTokenId token = .error error) :
    ∃ message, error = .badRequest message := by
  unfold RefreshStore.validateRefreshTokenId at invalid
  dsimp only at invalid
  split at invalid
  · cases invalid
    exact ⟨_, rfl⟩
  · split at invalid
    · cases invalid
      exact ⟨_, rfl⟩
    · split at invalid
      · cases invalid
        exact ⟨_, rfl⟩
      · cases invalid

theorem ttlFromExpiresAt_refused {expiresAt : Nat} {error : ApiError}
    (executes : Executes elapses (RefreshStore.ttlFromExpiresAt expiresAt) before trace
      (.error error) after) :
    (∃ message, error = .badRequest message) ∧ expiresAt ≤ after.second := by
  simp only [RefreshStore.ttlFromExpiresAt, nowUnixSecs_eq, Program.call_bind,
    Program.done_bind] at executes
  obtain ⟨asked, _, _, _, _, continues⟩ := executes_now executes
  split at continues
  · rename_i late
    obtain ⟨refused, rfl, _⟩ := continues.of_done
    cases refused
    exact ⟨⟨_, rfl⟩, late⟩
  · cases continues.of_done.1

/-- Around the critical section a rotation only reads, and takes and deletes its lock. -/
theorem rotate_served (tolerates : Tolerates site.system elapses related Harmless)
    (executes : Executes elapses (RefreshStore.rotate sha256Hex true old new newExpiresAt) before
      trace (.ok status) after) :
    ∃ newTtl start finish earlier middle later, trace = earlier ++ (middle ++ later) ∧
      related before start ∧
      (∃ asked, related before asked ∧ newTtl = newExpiresAt - asked.second ∧
        asked.second < newExpiresAt) ∧
      Executes elapses (RefreshStore.doRotateDb sha256Hex old new newExpiresAt newTtl) start middle
        (.ok status) finish ∧ related finish after ∧
      (∀ exchange ∈ earlier, Harmless exchange.command) ∧
      ∀ exchange ∈ later, Harmless exchange.command := by
  unfold RefreshStore.rotate at executes
  split at executes
  · cases executes.of_done.1
  · split at executes
    · cases executes.of_done.1
    · obtain ⟨first, rest, reply, asked, rfl, asking, locking⟩ := executes.of_bind
      have firstReads := asking.trace_every (ttlFromExpiresAt_reads newExpiresAt)
      cases reply with
      | error error => cases locking.of_done.1
      | ok newTtl =>
        obtain ⟨toAsked, ttl⟩ := ttlFromExpiresAt_served (tolerates.restrict Reads.harmless) asking
        simp only [RefreshStore.rotateLocked, redis_eq, Program.call_bind,
          Program.done_bind] at locking
        obtain ⟨free, outcome, rest, waits, rfl, continues⟩ := locking.of_call
        have lockHarmless := acquireLock_harmless sha256Hex old
        have toLocked := tolerates.trans toAsked (tolerates.trans (tolerates.elapse waits)
          (tolerates.command lockHarmless outcome free))
        generalize (Command.exec outcome _ free).1 = locked at continues
        rcases locked with error | _ | _
        · cases continues.of_done.1
        · cases continues.of_done.1
        · obtain ⟨middle, later, result, finish, rfl, rotating, releasing⟩ := continues.of_bind
          have released := releasing.respects tolerates (releaseLock_harmless sha256Hex old result)
          have laterHarmless := releasing.trace_every (releaseLock_harmless sha256Hex old result)
          simp only [RefreshStore.releaseLock, redis_eq, Program.call_bind,
            Program.done_bind] at releasing
          obtain ⟨_, _, _, _, _, done⟩ := releasing.of_call
          obtain ⟨rfl, _, _⟩ := done.of_done
          refine ⟨newTtl, _, finish, _, middle, later, List.append_cons _ _ _, toLocked,
            ⟨asked, toAsked, ttl⟩, rotating, released, ?_, laterHarmless⟩
          intro exchange member
          rcases List.mem_append.mp member with earlier | locked
          · exact (firstReads exchange earlier).harmless
          · cases List.mem_singleton.mp locked
            exact lockHarmless

/-- What `get_json` answers when Redis does. -/
def cachedRecord (world : World) (tokenHash : String) :
    Except RedisLayerError (Option RefreshTokenRecord) :=
  match world.lookup (.refresh tokenHash) with
  | none => .ok none
  | some raw => raw.asRefresh.map some

theorem cachedRecord_eq_some {world : World} {tokenHash : String} {record : RefreshTokenRecord} :
    cachedRecord world tokenHash = .ok (some record) ↔
      world.lookup (.refresh tokenHash) = some (.refresh record) := by
  unfold cachedRecord
  cases world.lookup (.refresh tokenHash) with
  | none => simp
  | some raw => cases raw <;> simp [RedisValue.asRefresh, Except.map]

theorem Fades.cachedRecord {world later : World} (fades : Fades world later) {tokenHash : String}
    {record : RefreshTokenRecord} (found : cachedRecord later tokenHash = .ok (some record)) :
    Gateway.cachedRecord world tokenHash = .ok (some record) :=
  cachedRecord_eq_some.mpr (fades.cached _ _ (cachedRecord_eq_some.mp found))

theorem Untouched.cachedRecord {world later : World} (same : Untouched world later)
    (tokenHash : String) :
    Gateway.cachedRecord later tokenHash = Gateway.cachedRecord world tokenHash := by
  simp only [Gateway.cachedRecord, same.lookup]

theorem getRefreshJson_served (tolerates : Tolerates site.system elapses related Reads)
    {tokenHash : String} {value : Except RedisLayerError (Option RefreshTokenRecord)}
    (executes : Executes elapses (RefreshStore.getRefreshJson (.refresh tokenHash)) before trace
      value after) :
    related before after ∧
      (∀ record, value = .ok (some record) → cachedRecord after tokenHash = .ok (some record)) ∧
      ((∀ exchange ∈ trace, exchange.outcome = .success) →
        value = cachedRecord after tokenHash) := by
  refine ⟨executes.respects tolerates (getRefreshJson_reads _), ?_⟩
  simp only [RefreshStore.getRefreshJson, redis_eq, Program.call_bind, Program.done_bind] at executes
  obtain ⟨read, outcome, later, _, rfl, continues⟩ := executes.of_call
  cases outcome with
  | lost detail =>
    obtain ⟨rfl, rfl, rfl⟩ := continues.of_done
    exact ⟨fun _ impossible => (by cases impossible), fun success => by simp at success⟩
  | applied detail =>
    obtain ⟨rfl, rfl, rfl⟩ := continues.of_done
    exact ⟨fun _ impossible => (by cases impossible), fun success => by simp at success⟩
  | success =>
    have answered : value = cachedRecord read tokenHash ∧ after = read := by
      simp only [Command.exec, Command.answer, Command.effect, RedisCommand.answer,
        RedisCommand.effect, cachedRecord] at continues ⊢
      cases found : World.lookup read (.refresh tokenHash) <;> rw [found] at continues <;>
        exact ⟨continues.of_done.1, continues.of_done.2.1⟩
    obtain ⟨rfl, rfl⟩ := answered
    exact ⟨fun _ => id, fun _ => rfl⟩

/-- Where the record that a rotation works on comes from: it is the cached one, or
the row when there is none. -/
def ReadFrom (related : World → World → Prop) (before after : World) (tokenHash : String)
    (record : RefreshTokenRecord) (trace : List site.system.Exchange) : Prop :=
  ∃ read, related before read ∧ related read after ∧
    (cachedRecord read tokenHash = .ok (some record) ∨
      ((∀ exchange ∈ trace, exchange.outcome = .success) →
        ∀ other, cachedRecord read tokenHash ≠ .ok (some other)) ∧
      ∃ stored row, related read stored ∧ stored.db.refreshTokens.find? tokenHash = some row ∧
        record = RefreshStore.recordOfRow row)

theorem readOldRecord_served (tolerates : Tolerates site.system elapses related Reads)
    {record : RefreshTokenRecord}
    (executes : Executes elapses (RefreshStore.readOldRecord sha256Hex old) before trace
      (.ok (some record)) after) : ReadFrom related before after (sha256Hex old) record trace := by
  obtain ⟨earlier, later, reply, read, rfl, reading, continues⟩ := executes.of_bind
  obtain ⟨toRead, found, exactly_⟩ := getRefreshJson_served tolerates reading
  by_cases hit : ∃ cached, reply = .ok (some cached)
  · obtain ⟨cached, rfl⟩ := hit
    obtain ⟨same, rfl, _⟩ := continues.of_done
    cases same
    exact ⟨_, toRead, tolerates.refl _, .inl (found _ rfl)⟩
  · have fallback : Executes elapses (RefreshStore.readOldRow sha256Hex old) read later
        (.ok (some record)) after := by
      rcases reply with error | _ | cached
      · exact continues
      · exact continues
      · exact absurd ⟨cached, rfl⟩ hit
    refine ⟨read, toRead, fallback.respects tolerates (readOldRow_reads sha256Hex old),
      .inr ⟨fun success other cached => hit ⟨other, ?_⟩, ?_⟩⟩
    · rw [exactly_ fun exchange member => success exchange (by simp [member])]
      exact cached
    · simp only [RefreshStore.readOldRow, database_eq, Program.call_bind,
        Program.done_bind] at fallback
      obtain ⟨stored, outcome, rest, waits, rfl, answered⟩ := fallback.of_call
      refine ⟨stored, ?_⟩
      cases outcome with
      | lost detail => cases answered.of_done.1
      | applied detail => cases answered.of_done.1
      | success =>
        simp only [Command.exec, Command.answer, DbCommand.answer] at answered
        cases kept : stored.db.refreshTokens.find? (sha256Hex old) with
        | none =>
          rw [kept] at answered
          cases answered.of_done.1
        | some row =>
          rw [kept] at answered
          obtain ⟨same, _, _⟩ := answered.of_done
          cases same
          exact ⟨row, tolerates.elapse waits, rfl, rfl⟩

theorem isSpent_served (tolerates : Tolerates site.system elapses related Reads)
    {record : RefreshTokenRecord}
    (executes : Executes elapses (RefreshStore.isSpent record) before trace false after) :
    related before after ∧ record.revoked = false ∧ after.second < record.expiresAt := by
  refine ⟨executes.respects tolerates (isSpent_reads record), ?_⟩
  simp only [RefreshStore.isSpent, nowUnixSecs_eq, Program.call_bind, Program.done_bind] at executes
  split at executes
  · cases executes.of_done.1
  · rename_i unmarked
    obtain ⟨asked, _, _, _, _, continues⟩ := executes_now executes
    obtain ⟨known, rfl, _⟩ := continues.of_done
    exact ⟨by simpa using unmarked, Nat.lt_of_not_le (of_decide_eq_false known.symm)⟩

theorem validateRecord_served (tolerates : Tolerates site.system elapses related Reads)
    {record : RefreshTokenRecord} {answer : Except ApiError RefreshTokenRecord}
    (executes : Executes elapses (RefreshStore.validateRecord record) before trace answer after) :
    related before after ∧ (answer.isOk = true →
      answer = .ok record ∧ record.revoked = false ∧ after.second < record.expiresAt) := by
  refine ⟨executes.respects tolerates (validateRecord_reads record), ?_⟩
  simp only [RefreshStore.validateRecord, nowUnixSecs_eq, Program.call_bind,
    Program.done_bind] at executes
  split at executes
  · obtain ⟨rfl, _, _⟩ := executes.of_done
    exact fun impossible => by cases impossible
  · rename_i unmarked
    obtain ⟨asked, _, _, _, _, continues⟩ := executes_now executes
    split at continues
    · obtain ⟨rfl, _, _⟩ := continues.of_done
      exact fun impossible => by cases impossible
    · rename_i unexpired
      obtain ⟨rfl, rfl, _⟩ := continues.of_done
      exact fun _ => ⟨rfl, by simpa using unmarked, Nat.lt_of_not_le unexpired⟩

/-- The transaction of a rotation that works on this record. -/
def rotationTx (sha256Hex : String → String) (old new : String) (newExpiresAt : Nat)
    (record : RefreshTokenRecord) (nowSecs : Nat) : Command :=
  .db (.rotateRefreshTokenTx (sha256Hex old) (sha256Hex new) record.userId record.deviceId
    (asI64 newExpiresAt) (asI64 nowSecs))

theorem rotateRecordDb_served (tolerates : Tolerates site.system elapses related Harmless)
    {record : RefreshTokenRecord}
    (executes : Executes elapses
      (RefreshStore.rotateRecordDb sha256Hex old new newExpiresAt newTtl record) before trace
      (.ok status) after) :
    ∃ asked commit outcome first second later, trace = first :: second :: later ∧
      Harmless first.command ∧ (∀ tokenHash, second.command.cachesToken tokenHash = none) ∧
      second.outcome = outcome ∧ related before asked ∧ related asked commit ∧
      ((status = .replayDetected ∧
          (Command.exec outcome
            (rotationTx sha256Hex old new newExpiresAt record asked.second) commit).1 = .ok none ∧
          ∃ result, Executes elapses (RefreshStore.revokeDeviceFamily record.userId)
            (Command.exec outcome
              (rotationTx sha256Hex old new newExpiresAt record asked.second) commit).2
            later result after) ∨
        ∃ row, (Command.exec outcome
            (rotationTx sha256Hex old new newExpiresAt record asked.second) commit).1 =
              .ok (some row) ∧
          Executes elapses (RefreshStore.cacheRotation sha256Hex old new record row newTtl)
            (Command.exec outcome
              (rotationTx sha256Hex old new newExpiresAt record asked.second) commit).2
            later (.ok status) after) := by
  simp only [RefreshStore.rotateRecordDb, RefreshStore.rotateRefreshTokenTx, nowUnixSecs_eq,
    database_eq, Program.call_bind, Program.done_bind] at executes
  obtain ⟨asked, _, _, waits, rfl, deciding⟩ := executes_now executes
  obtain ⟨commit, outcome, later, waits', rfl, continues⟩ := deciding.of_call
  refine ⟨asked, commit, outcome, _, _, later, rfl, trivial, fun _ => rfl, rfl,
    tolerates.elapse waits, tolerates.elapse waits', ?_⟩
  simp only [rotationTx, World.second]
  generalize (Command.exec outcome (.db (.rotateRefreshTokenTx _ _ _ _ _ _)) commit).1 =
    reply at continues ⊢
  rcases reply with error | _ | row
  · cases continues.of_done.1
  · obtain ⟨_, _, result, _, rfl, cascading, finished⟩ := continues.of_bind
    obtain ⟨known, rfl, rfl⟩ := finished.of_done
    cases known
    exact .inl ⟨rfl, rfl, result, by simpa using cascading⟩
  · exact .inr ⟨row, rfl, continues⟩

/-- The critical section ends at the pre-flight check or goes through the transaction. -/
theorem doRotateDb_served (tolerates : Tolerates site.system elapses related Harmless)
    (executes : Executes elapses (RefreshStore.doRotateDb sha256Hex old new newExpiresAt newTtl)
      before trace (.ok status) after) :
    (status = .replayDetected ∧ related before after) ∨
      ∃ record read checked earlier middle later, trace = earlier ++ (middle ++ later) ∧
        (∀ exchange ∈ earlier, Harmless exchange.command) ∧
        (∀ exchange ∈ middle, Harmless exchange.command) ∧
        Executes elapses (RefreshStore.readOldRecord sha256Hex old) before earlier
          (.ok (some record)) read ∧
        Executes elapses (RefreshStore.isSpent record) read middle false checked ∧
        Executes elapses
          (RefreshStore.rotateRecordDb sha256Hex old new newExpiresAt newTtl record) checked later
          (.ok status) after := by
  obtain ⟨earlier, rest, reply, read, rfl, reading, checking⟩ := executes.of_bind
  have reads := tolerates.restrict Reads.harmless
  have toRead := reading.respects reads (readOldRecord_reads sha256Hex old)
  rcases reply with error | _ | record
  · cases checking.of_done.1
  · obtain ⟨known, rfl, _⟩ := checking.of_done
    cases known
    exact .inl ⟨rfl, toRead⟩
  · obtain ⟨middle, later, spent, checked, rfl, asking, continues⟩ := checking.of_bind
    cases spent with
    | true =>
      obtain ⟨known, rfl, _⟩ := continues.of_done
      cases known
      exact .inl ⟨rfl,
        tolerates.trans toRead (asking.respects reads (isSpent_reads record))⟩
    | false =>
      exact .inr ⟨record, read, checked, earlier, middle, later, rfl,
        reading.trace_every ((readOldRecord_reads sha256Hex old).imp fun _ => Reads.harmless),
        asking.trace_every ((isSpent_reads record).imp fun _ => Reads.harmless), reading, asking, continues⟩

end

namespace Sample

/-- Serve a call of the concrete deployment at one instant, with the stores up. -/
def served (db : Bool) (call : Call) (world : World) :
    List (Sample.site db).system.Exchange × call.Result × World :=
  (Sample.site db).system.serveAll Outcome.success ((Sample.site db).program call) world

theorem executes_served {db : Bool} {call : Call} {world : World} {value : call.Result}
    (answered : (served db call world).2.1 = value) :
    Executes Eq ((Sample.site db).program call) world (served db call world).1 value
      (served db call world).2.2 := by
  rw [← answered]
  exact executes_serveAll (Sample.site db).system Outcome.success _ world

end Sample

end BrainMate.Gateway
