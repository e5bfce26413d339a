import BrainMate.Gateway.RotationOnce
import BrainMate.Gateway.Serving

namespace BrainMate.Gateway.ReplayCascade

open Interleaving System

/-- The record that `validate` and `rotate` judge a token by. -/
def currentRecord (world : World) (tokenHash : String) : Option RefreshTokenRecord :=
  match cachedRecord world tokenHash with
  | .ok (some record) => some record
  | _ => (world.db.refreshTokens.find? tokenHash).map RefreshStore.recordOfRow

/-- The token is well formed, and its record is neither marked nor expired. -/
def Acceptable (sha256Hex : String → String) (world : World) (token : String) : Prop :=
  RefreshStore.validateRefreshTokenId token = .ok () ∧
    ∃ record, currentRecord world (sha256Hex token) = some record ∧ record.revoked = false ∧
      world.second < record.expiresAt

/-- The token has been issued to the user. -/
def Owned (sha256Hex : String → String) (world : World) (userId token : String) : Prop :=
  ∃ row, world.db.refreshTokens.find? (sha256Hex token) = some row ∧ row.userId = userId

/-- None of the user's tokens is acceptable, now or later. -/
def Exhausted (sha256Hex : String → String) (userId : String) (world : World) : Prop :=
  ∀ milliseconds token, Owned sha256Hex world userId token →
    ¬ Acceptable sha256Hex (environment (.tick milliseconds) world) token

/-- The calls that present a token. -/
def Presents (token : String) : Call → Prop
  | .validate presented | .rotate presented _ _ => presented = token
  | _ => False

def Accepts : (call : Call) → call.Result → Prop
  | .validate _, answer => answer.isOk = true
  | .rotate _ _ _, answer => answer = .ok .rotated
  | _, _ => False

/-- Time passes, or one of the tokens is presented, with both stores up. -/
inductive Continues (site : Deployment) (owned : String → Prop) : World → World → Prop where
  | wait (milliseconds : Nat) (world : World) :
      Continues site owned world (environment (.tick milliseconds) world)
  | present {token : String} {call : Call} {trace : List site.system.Exchange}
      {answer : call.Result} {world later : World} (mine : owned token)
      (presents : Presents token call)
      (executes : Executes Waits (site.program call) world trace answer later)
      (success : ∀ exchange ∈ trace, exchange.outcome = .success) :
      Continues site owned world later

/-- However the user's tokens are presented from here on, none is accepted. -/
def Withdrawn (site : Deployment) (owned : String → Prop) (after : World) : Prop :=
  ∀ reached, Relation.ReflTransGen (Continues site owned) after reached →
    ∀ (token : String) (call : Call) (trace : List site.system.Exchange) (answer : call.Result)
      (last : World), owned token → Presents token call →
      Executes Waits (site.program call) reached trace answer last →
      (∀ exchange ∈ trace, exchange.outcome = .success) → ¬ Accepts call answer

/-- The user's token, which was to expire then, was consumed by a rotation that has
been answered `Rotated`. -/
def Consumed (site : Deployment) (token userId : String) (expiresAt : Int)
    (config : site.system.Config) : Prop :=
  ∃ (clock : Nat) (earlier later : List site.system.Action) (start : site.system.Config)
    (client : Nat) (new : String) (newExpiresAt : Nat) (row : DbRefreshToken),
    Run (fun _ _ => True) (.initial (World.empty clock)) earlier start ∧
    start.world.db.refreshTokens.find? (site.sha256Hex token) = some row ∧
    row.userId = userId ∧ row.expiresAt = expiresAt ∧
    start.threads client = .idle ∧ Run (fun _ _ => True) start later config ∧
    config.threads client = .returned (.rotate token new newExpiresAt) (.ok .rotated)

section

variable {sha256Hex : String → String} {token : String} {world later : World}

/-- A token that is acceptable after a pause in which nothing changed was
acceptable, at that time, before it. -/
theorem acceptable_frozen (frozen : Frozen world later) {milliseconds : Nat}
    (acceptable : Acceptable sha256Hex (environment (.tick milliseconds) later) token) :
    ∃ elapsed, Acceptable sha256Hex (environment (.tick elapsed) world) token := by
  obtain ⟨valid, record, current, live, unexpired⟩ := acceptable
  have older := frozen.clock
  have sameClock : later.clock + milliseconds =
      world.clock + (later.clock - world.clock + milliseconds) := by omega
  refine ⟨later.clock - world.clock + milliseconds, valid, record, ?_, live, ?_⟩
  · rw [← current]
    simp only [currentRecord, cachedRecord, World.lookup, environment, frozen.db, frozen.redis,
      sameClock]
  · simp only [World.second, environment, sameClock] at unexpired ⊢
    exact unexpired

theorem not_acceptable_frozen (frozen : Frozen world later)
    (never : ∀ milliseconds, ¬ Acceptable sha256Hex (environment (.tick milliseconds) world) token) :
    ∀ milliseconds, ¬ Acceptable sha256Hex (environment (.tick milliseconds) later) token := by
  intro milliseconds acceptable
  obtain ⟨elapsed, earlier⟩ := acceptable_frozen frozen acceptable
  exact never elapsed earlier

/-- The judged record of a token that is never acceptable is marked or expires too soon. -/
theorem spent_of_not_acceptable (valid : RefreshStore.validateRefreshTokenId token = .ok ())
    (never : ∀ milliseconds, ¬ Acceptable sha256Hex (environment (.tick milliseconds) world) token)
    {record : RefreshTokenRecord} (current : currentRecord world (sha256Hex token) = some record)
    (frozen : Frozen world later) (live : record.revoked = false) :
    record.expiresAt ≤ later.second := by
  by_contra unexpired
  have older : world.second ≤ later.second := Nat.div_le_div_right frozen.clock
  exact never 0 ⟨valid, record, current, live, by
    simp only [World.second, environment] at *
    omega⟩

end

section

variable {site : Deployment} {sha256Hex : String → String} {token : String} {world last : World}
variable {trace : List site.system.Exchange}

/-- Validating it changes nothing and fails. -/
theorem validate_blocked {answer : Except ApiError RefreshTokenRecord}
    (never : ∀ milliseconds, ¬ Acceptable sha256Hex (environment (.tick milliseconds) world) token)
    (executes : Executes Waits (RefreshStore.validate sha256Hex true token) world trace answer last)
    (success : ∀ exchange ∈ trace, exchange.outcome = .success) :
    Frozen world last ∧ answer.isOk = false := by
  have keeps : Tolerates site.system Waits Frozen Harmless := frozen_tolerates
  unfold RefreshStore.validate at executes
  split at executes
  · obtain ⟨rfl, rfl, _⟩ := executes.of_done
    exact ⟨keeps.refl _, rfl⟩
  · rename_i valid
    obtain ⟨first, rest, reply, read, rfl, reading, judging⟩ := executes.of_bind
    obtain ⟨toRead, _, exactly_⟩ := getRefreshJson_served (keeps.restrict Reads.harmless) reading
    have replied := exactly_ fun exchange member => success exchange (by simp [member])
    have refused {record : RefreshTokenRecord} {asked later : World}
        {answer : Except ApiError RefreshTokenRecord} {trace : List site.system.Exchange}
        (current : currentRecord read (sha256Hex token) = some record) (toAsked : Frozen read asked)
        (checks : Executes Waits (RefreshStore.validateRecord record) asked trace answer later) :
        Frozen asked later ∧ answer.isOk = false := by
      obtain ⟨toLater, accepted⟩ := validateRecord_served (keeps.restrict Reads.harmless) checks
      refine ⟨toLater, Bool.eq_false_iff.mpr fun ok => ?_⟩
      obtain ⟨_, live, unexpired⟩ := accepted ok
      have expired := spent_of_not_acceptable valid (not_acceptable_frozen toRead never) current
        (keeps.trans toAsked toLater) live
      omega
    have fallback (missed : ∀ record, reply ≠ .ok (some record))
        (asking : Executes Waits (RefreshStore.validateDb sha256Hex token) read rest answer last) :
        Frozen world last ∧ answer.isOk = false := by
      simp only [RefreshStore.validateDb, database_eq, Program.call_bind,
        Program.done_bind] at asking
      obtain ⟨stored, outcome, later, waits, rfl, answered⟩ := asking.of_call
      have succeeded : outcome = .success := success _ (List.mem_append_right _ (.head _))
      subst succeeded
      have toStored := keeps.elapse waits
      simp only [Command.exec, Command.answer, DbCommand.answer, Command.effect,
        DbCommand.effect] at answered
      cases found : stored.db.refreshTokens.find? (sha256Hex token) with
      | none =>
        rw [found] at answered
        obtain ⟨rfl, rfl, _⟩ := answered.of_done
        exact ⟨keeps.trans toRead toStored, rfl⟩
      | some row =>
        rw [found] at answered
        obtain ⟨_, _, checked, asked, rfl, checks, rehydrating⟩ := answered.of_bind
        have current : currentRecord read (sha256Hex token) =
            some (RefreshStore.recordOfRow row) := by
          unfold currentRecord
          rw [← replied, ← toStored.db, found]
          rcases reply with _ | _ | record
          · rfl
          · rfl
          · exact absurd rfl (missed record)
        obtain ⟨toAsked, failed⟩ := refused current toStored checks
        cases checked with
        | error error =>
          obtain ⟨rfl, rfl, _⟩ := rehydrating.of_done
          exact ⟨keeps.trans toRead (keeps.trans toStored toAsked), rfl⟩
        | ok record => cases failed
    rcases reply with error | _ | record
    · exact fallback (by simp) judging
    · exact fallback (by simp) judging
    · have current : currentRecord read (sha256Hex token) = some record := by
        simp [currentRecord, ← replied]
      obtain ⟨toLast, failed⟩ := refused current (keeps.refl read) judging
      exact ⟨keeps.trans toRead toLast, failed⟩

/-- A record that was read and found unspent makes the token acceptable. -/
theorem acceptable_of_unspent (valid : RefreshStore.validateRefreshTokenId token = .ok ())
    {read checked : World} {record : RefreshTokenRecord}
    (source : ReadFrom Frozen world read (sha256Hex token) record trace)
    (success : ∀ exchange ∈ trace, exchange.outcome = .success) (toChecked : Frozen read checked)
    (live : record.revoked = false) (unexpired : checked.second < record.expiresAt) :
    ∃ milliseconds, Acceptable sha256Hex (environment (.tick milliseconds) world) token := by
  obtain ⟨asked, toAsked, fromAsked, found⟩ := source
  have earlier : asked.second ≤ checked.second :=
    Nat.div_le_div_right (Nat.le_trans fromAsked.clock toChecked.clock)
  have current : currentRecord asked (sha256Hex token) = some record := by
    unfold currentRecord
    rcases found with cached | ⟨missed, stored, row, toStored, kept, rfl⟩
    · rw [cached]
    · have missed := missed success
      rw [← toStored.db, kept]
      generalize cachedRecord asked (sha256Hex token) = reply at missed
      rcases reply with _ | _ | other
      · rfl
      · rfl
      · exact absurd rfl (missed other)
  have acceptable : Acceptable sha256Hex (environment (.tick 0) asked) token :=
    ⟨valid, record, current, live, Nat.lt_of_le_of_lt earlier unexpired⟩
  exact acceptable_frozen toAsked acceptable

variable {new : String} {newExpiresAt newTtl : Nat} {answer : Except ApiError RotationStatus}

private theorem doRotateDb_blocked (valid : RefreshStore.validateRefreshTokenId token = .ok ())
    (never : ∀ milliseconds, ¬ Acceptable sha256Hex (environment (.tick milliseconds) world) token)
    (executes : Executes Waits (RefreshStore.doRotateDb sha256Hex token new newExpiresAt newTtl)
      world trace answer last) (success : ∀ exchange ∈ trace, exchange.outcome = .success) :
    Frozen world last ∧ answer ≠ .ok .rotated := by
  have keeps : Tolerates site.system Waits Frozen Harmless := frozen_tolerates
  obtain ⟨earlier, rest, reply, read, rfl, reading, checking⟩ := executes.of_bind
  have reads := keeps.restrict Reads.harmless
  have toRead := reading.respects reads (readOldRecord_reads sha256Hex token)
  rcases reply with error | _ | record
  · obtain ⟨rfl, rfl, _⟩ := checking.of_done
    exact ⟨toRead, by simp⟩
  · obtain ⟨rfl, rfl, _⟩ := checking.of_done
    exact ⟨toRead, by simp⟩
  · obtain ⟨middle, later, spent, checked, rfl, asking, continues⟩ := checking.of_bind
    cases spent with
    | true =>
      obtain ⟨rfl, rfl, _⟩ := continues.of_done
      exact ⟨keeps.trans toRead (asking.respects reads (isSpent_reads record)), by simp⟩
    | false =>
      obtain ⟨toChecked, live, unexpired⟩ := isSpent_served reads asking
      obtain ⟨milliseconds, acceptable⟩ := acceptable_of_unspent valid
        (readOldRecord_served reads reading)
        (fun exchange member => success exchange (by simp [member])) toChecked live unexpired
      exact absurd acceptable (never milliseconds)

/-- Rotating it changes nothing and fails. -/
theorem rotate_blocked
    (never : ∀ milliseconds, ¬ Acceptable sha256Hex (environment (.tick milliseconds) world) token)
    (executes : Executes Waits (RefreshStore.rotate sha256Hex true token new newExpiresAt) world
      trace answer last) (success : ∀ exchange ∈ trace, exchange.outcome = .success) :
    Frozen world last ∧ answer ≠ .ok .rotated := by
  have keeps : Tolerates site.system Waits Frozen Harmless := frozen_tolerates
  unfold RefreshStore.rotate at executes
  split at executes
  · obtain ⟨rfl, rfl, _⟩ := executes.of_done
    exact ⟨keeps.refl _, by simp⟩
  · rename_i valid
    split at executes
    · obtain ⟨rfl, rfl, _⟩ := executes.of_done
      exact ⟨keeps.refl _, by simp⟩
    · obtain ⟨_, _, reply, asked, rfl, asking, locking⟩ := executes.of_bind
      have toAsked := asking.respects (keeps.restrict Reads.harmless)
        (ttlFromExpiresAt_reads newExpiresAt)
      cases reply with
      | error error =>
        obtain ⟨rfl, rfl, _⟩ := locking.of_done
        exact ⟨toAsked, by simp⟩
      | ok newTtl =>
        simp only [RefreshStore.rotateLocked, redis_eq, Program.call_bind,
          Program.done_bind] at locking
        obtain ⟨free, outcome, _, waits, rfl, continues⟩ := locking.of_call
        have toLocked := keeps.trans toAsked (keeps.trans (keeps.elapse waits)
          (keeps.command (acquireLock_harmless sha256Hex token) outcome free))
        generalize (Command.exec outcome _ free).1 = locked at continues
        rcases locked with error | _ | _
        · obtain ⟨rfl, rfl, _⟩ := continues.of_done
          exact ⟨toLocked, by simp⟩
        · obtain ⟨rfl, rfl, _⟩ := continues.of_done
          exact ⟨toLocked, by simp⟩
        · obtain ⟨_, _, result, finish, rfl, rotating, releasing⟩ := continues.of_bind
          obtain ⟨toFinish, failed⟩ := doRotateDb_blocked valid
            (not_acceptable_frozen toLocked never) rotating
            (fun exchange member => success exchange (by simp [member]))
          have released := releasing.respects keeps (releaseLock_harmless sha256Hex token result)
          simp only [RefreshStore.releaseLock, redis_eq, Program.call_bind,
            Program.done_bind] at releasing
          obtain ⟨_, _, _, _, _, done⟩ := releasing.of_call
          obtain ⟨rfl, _, _⟩ := done.of_done
          exact ⟨keeps.trans toLocked (keeps.trans toFinish released), failed⟩

end

section

variable {site : Deployment} {userId token : String} {before after : World}

private theorem presented_blocked (withDb : site.db = true) {call : Call} {world last : World}
    {trace : List site.system.Exchange} {answer : call.Result}
    (never : ∀ milliseconds,
      ¬ Acceptable site.sha256Hex (environment (.tick milliseconds) world) token)
    (presents : Presents token call)
    (executes : Executes Waits (site.program call) world trace answer last)
    (success : ∀ exchange ∈ trace, exchange.outcome = .success) :
    Frozen world last ∧ ¬ Accepts call answer := by
  cases call with
  | validate presented =>
    cases presents
    simp only [Deployment.program, withDb] at executes
    obtain ⟨frozen, failed⟩ := validate_blocked never executes success
    exact ⟨frozen, by simp [Accepts, failed]⟩
  | rotate presented new newExpiresAt =>
    cases presents
    simp only [Deployment.program, withDb] at executes
    exact rotate_blocked never executes success
  | _ => exact presents.elim

/-- Where no token is acceptable nothing changes, whatever is presented. -/
theorem withdrawn_of_exhausted (withDb : site.db = true)
    (exhausted : Exhausted site.sha256Hex userId before) (frozen : Frozen before after) :
    Withdrawn site (Owned site.sha256Hex before userId) after := by
  have keeps : Tolerates site.system Waits Frozen Harmless := frozen_tolerates
  have unchanged {reached : World} (continues : Relation.ReflTransGen
      (Continues site (Owned site.sha256Hex before userId)) after reached) :
      Frozen before reached := by
    induction continues with
    | refl => exact frozen
    | tail _ move ih =>
      refine keeps.trans ih ?_
      cases move with
      | wait milliseconds => exact keeps.elapse ⟨milliseconds, rfl⟩
      | present mine presents executes success =>
        exact (presented_blocked withDb (not_acceptable_frozen ih fun milliseconds =>
          exhausted milliseconds _ mine) presents executes success).1
  intro reached continues token call trace answer last owned presents executes success
  exact (presented_blocked withDb (not_acceptable_frozen (unchanged continues) fun milliseconds =>
    exhausted milliseconds token owned) presents executes success).2

private theorem serve_getRefreshJson (world : World) (tokenHash : String) :
    (site.system.serveAll Outcome.success
      (RefreshStore.getRefreshJson (.refresh tokenHash)) world).2 =
        (cachedRecord world tokenHash, world) := by
  simp only [RefreshStore.getRefreshJson, redis_eq, Program.call_bind, Program.done_bind,
    serveAll, Command.exec, Command.answer, Command.effect, RedisCommand.answer,
    RedisCommand.effect, cachedRecord]
  cases world.lookup (.refresh tokenHash) with
  | none => rfl
  | some raw => rfl

private theorem serve_validateRecord {world : World} {record : RefreshTokenRecord}
    (live : record.revoked = false) (unexpired : world.second < record.expiresAt) :
    (site.system.serveAll Outcome.success (RefreshStore.validateRecord record) world).2 =
      (.ok record, world) := by
  have early : ¬ record.expiresAt ≤ world.clock / 1000 := Nat.not_le.mpr unexpired
  simp [RefreshStore.validateRecord, serveAll, Command.exec, Command.answer, Command.effect,
    live, early]

private theorem serve_validateDb {world : World} {row : DbRefreshToken}
    (found : world.db.refreshTokens.find? (site.sha256Hex token) = some row)
    (live : row.revoked = false) (unexpired : world.second < asU64 row.expiresAt) :
    ((site.system.serveAll Outcome.success
      (RefreshStore.validateDb site.sha256Hex token) world).2.1).isOk = true := by
  have early : world.clock / 1000 < (RefreshStore.recordOfRow row).expiresAt := unexpired
  have judged : (site.system.serveAll Outcome.success
      (RefreshStore.validateRecord (RefreshStore.recordOfRow row)) world).2 =
        (.ok (RefreshStore.recordOfRow row), world) := serve_validateRecord live unexpired
  simp only [RefreshStore.validateDb, database_eq, Program.call_bind, Program.done_bind, serveAll,
    Command.exec, Command.answer, Command.effect, DbCommand.answer, DbCommand.effect, found]
  simp [serveAll_bind, judged, serveAll, Command.exec, Command.answer, Command.effect, early]
  rfl

/-- It is accepted when it is validated at this instant. -/
theorem validate_accepts {world : World} (acceptable : Acceptable site.sha256Hex world token) :
    ((site.system.serveAll Outcome.success
      (RefreshStore.validate site.sha256Hex true token) world).2.1).isOk = true := by
  obtain ⟨valid, record, current, live, unexpired⟩ := acceptable
  simp only [RefreshStore.validate, valid, RefreshStore.key, serveAll_bind, serve_getRefreshJson]
  unfold currentRecord at current
  generalize cachedRecord world (site.sha256Hex token) = reply at current
  have stored (row : DbRefreshToken)
      (found : world.db.refreshTokens.find? (site.sha256Hex token) = some row)
      (same : RefreshStore.recordOfRow row = record) :
      ((site.system.serveAll Outcome.success
        (RefreshStore.validateDb site.sha256Hex token) world).2.1).isOk = true := by
    subst same
    exact serve_validateDb found live unexpired
  rcases reply with error | _ | cached
  · obtain ⟨row, found, same⟩ := Option.map_eq_some_iff.mp current
    exact stored row found same
  · obtain ⟨row, found, same⟩ := Option.map_eq_some_iff.mp current
    exact stored row found same
  · cases current
    rw [serve_validateRecord live unexpired]
    rfl

end

section

variable {site : Deployment} {sha256Hex : String → String} {token new : String}
variable {newExpiresAt : Nat} {before after : World} {trace : List site.system.Exchange}

private theorem revokeDeviceFamily_statements (userId : String) :
    (RefreshStore.revokeDeviceFamily userId).Every Statement := by
  simp only [RefreshStore.revokeDeviceFamily, database_eq, Program.call_bind, Program.done_bind]
  split
  · trivial
  · refine ⟨trivial, fun reply => ?_⟩
    cases reply <;> trivial

private theorem rotate_valid {elapses : World → World → Prop} {status : RotationStatus}
    (executes : Executes elapses (RefreshStore.rotate sha256Hex true token new newExpiresAt) before
      trace (.ok status) after) : RefreshStore.validateRefreshTokenId token = .ok () := by
  unfold RefreshStore.rotate at executes
  split at executes
  · cases executes.of_done.1
  · assumption

/-- A replay of a revoked token changes nothing, or leaves a live copy of the token
in Redis: the one by which it got past the pre-flight check. -/
theorem replay_leaves {row : DbRefreshToken}
    (stored : before.db.refreshTokens.find? (sha256Hex token) = some row)
    (revoked : row.revoked = true)
    (executes : Executes Eq (RefreshStore.rotate sha256Hex true token new newExpiresAt) before trace
      (.ok .replayDetected) after) : Untouched before after ∨ Acceptable sha256Hex after token := by
  have keeps : Tolerates site.system Eq Untouched Harmless := untouched_tolerates
  have reading := keeps.restrict Reads.harmless
  have cached : Tolerates site.system Eq CacheKept Statement := cacheKept_tolerates
  have valid := rotate_valid executes
  obtain ⟨newTtl, start, finish, _, _, _, _, toStart, _, rotating, toAfter, _, _⟩ :=
    rotate_served keeps executes
  obtain ⟨_, toFinish⟩ | ⟨record, read, checked, _, _, _, _, _, _, reads, checks, commits⟩ :=
    doRotateDb_served keeps rotating
  · exact .inl (keeps.trans toStart (keeps.trans toFinish toAfter))
  right
  obtain ⟨asked, toAsked, fromAsked, found⟩ := readOldRecord_served reading reads
  obtain ⟨toChecked, live, unexpired⟩ := isSpent_served reading checks
  obtain ⟨deciding, commit, outcome, _, _, _, _, _, _, _, toDeciding, toCommit, result⟩ :=
    rotateRecordDb_served keeps commits
  have hit : cachedRecord asked (sha256Hex token) = .ok (some record) := by
    rcases found with hit | ⟨_, _, other, toOther, kept, rfl⟩
    · exact hit
    · rw [toOther.db, toAsked.db, toStart.db, stored] at kept
      cases kept
      rw [RefreshStore.recordOfRow, revoked] at live
      cases live
  obtain ⟨_, _, _, cascading⟩ | ⟨_, _, caching⟩ := result
  · have statement : Statement
        (rotationTx sha256Hex token new newExpiresAt record deciding.second) := trivial
    have committed := cached.command statement outcome commit
    have cascaded := cascading.respects cached (revokeDeviceFamily_statements record.userId)
    have fromChecked : CacheKept checked after :=
      cached.trans (keeps.trans toDeciding toCommit).cacheKept
        (cached.trans committed (cached.trans cascaded toAfter.cacheKept))
    have kept : CacheKept asked after :=
      cached.trans (keeps.trans fromAsked toChecked).cacheKept fromChecked
    have still : cachedRecord after (sha256Hex token) = .ok (some record) := by
      rw [← hit]
      simp only [cachedRecord, World.lookup, kept.redis, kept.clock]
    refine ⟨valid, record, ?_, live, ?_⟩
    · simp [currentRecord, still]
    · rw [World.second, fromChecked.clock]
      exact unexpired
  · simp only [RefreshStore.cacheRotation, nowUnixSecs_eq, redis_eq, Program.call_bind,
      Program.done_bind] at caching
    obtain ⟨_, _, _, _, _, marking⟩ := executes_now caching
    obtain ⟨_, _, _, _, _, storing⟩ := marking.of_call
    obtain ⟨_, _, _, _, _, finished⟩ := storing.of_call
    cases finished.of_done.1

end

/-- The row belongs to the user, and is revoked if so marked, until it may be deleted. -/
def RowUntil (tokenHash userId : String) (expiresAt : Int) (marked : Bool) (world : World) : Prop :=
  (∃ row, world.db.refreshTokens.find? tokenHash = some row ∧ row.userId = userId ∧
    row.expiresAt = expiresAt ∧ (marked = true → row.revoked = true)) ∨ expiresAt < world.pgEpoch

section

variable {site : Deployment} {tokenHash userId token : String} {expiresAt : Int} {marked : Bool}

theorem RowUntil.exec {world : World} (until_ : RowUntil tokenHash userId expiresAt marked world)
    (outcome : Outcome) (command : Command) :
    RowUntil tokenHash userId expiresAt marked (Command.exec outcome command world).2 := by
  rcases Command.exec_world outcome command world with same | same <;> simp only [same]
  · exact until_
  obtain ⟨row, found, owner, expires, mark⟩ | expired := until_
  · cases command with
    | now => exact .inl ⟨row, found, owner, expires, mark⟩
    | http => exact .inl ⟨row, found, owner, expires, mark⟩
    | redis command =>
      exact .inl ⟨row, by simpa [Command.effect] using found, owner, expires, mark⟩
    | db command =>
      by_cases cleanup : command = .cleanupExpiredAuth
      · subst cleanup
        by_cases expired : row.expiresAt < world.pgEpoch
        · exact .inr (expires ▸ expired)
        · refine .inl ⟨row, ?_, owner, expires, mark⟩
          simp [Command.effect, cleanup_token, found, expired]
      · obtain ⟨after, stored, change⟩ := command.effect_token world cleanup found
        refine .inl ⟨after, stored, ?_⟩
        obtain rfl | rfl | ⟨_, _, _, _, _, _, _, rfl⟩ := change
        · exact ⟨owner, expires, mark⟩
        · exact ⟨owner, expires, fun _ => rfl⟩
        · exact ⟨owner, expires, fun _ => rfl⟩
  · refine .inr ?_
    cases command with
    | now => exact expired
    | http => exact expired
    | redis command => simpa [World.pgEpoch, Command.effect] using expired
    | db command => exact expired

theorem RowUntil.environment {world : World}
    (until_ : RowUntil tokenHash userId expiresAt marked world) (event : Event) :
    RowUntil tokenHash userId expiresAt marked (Gateway.environment event world) := by
  refine until_.imp (fun ⟨row, found, rest⟩ => ⟨row, by simpa using found, rest⟩) fun expired => ?_
  cases event with
  | tick milliseconds =>
    simp only [World.pgEpoch, Gateway.environment] at expired ⊢
    omega
  | evict key => exact expired

theorem RowUntil.step {config next : site.system.Config} {action : site.system.Action}
    (until_ : RowUntil tokenHash userId expiresAt marked config.world)
    (moves : config.step? action = some next) :
    RowUntil tokenHash userId expiresAt marked next.world := by
  obtain ⟨_, _, _, _, rfl⟩ | ⟨_, outcome, _, command, _, _, _, rfl⟩ | ⟨event, _, rfl⟩ :=
    step?_cases moves
  · exact until_
  · exact until_.exec outcome command
  · exact until_.environment event

/-- While a consumed token has not expired, its row is there and revoked. -/
theorem Consumed.row {config : site.system.Config} (withDb : site.db = true)
    (consumed : Consumed site token userId expiresAt config)
    (early : (config.world.second : Int) < expiresAt) :
    ∃ row, config.world.db.refreshTokens.find? (site.sha256Hex token) = some row ∧
      row.userId = userId ∧ row.revoked = true := by
  obtain ⟨_, _, _, start, client, new, newExpiresAt, row, _, found, owner, expires, idle, run,
    rotated⟩ := consumed
  have passes : (site.system.program (.rotate token new newExpiresAt)).Passes
      (RotationOnce.CommitReply (site.sha256Hex token)) (· = .ok .rotated) := by
    simp only [Deployment.program, withDb]
    exact RotationOnce.rotate_passes site.sha256Hex token new newExpiresAt
  obtain ⟨_, _, _, before, after, rfl, toCommit, _, moves, commits, finish⟩ :=
    (run.passes passes (.of_idle idle) fun owes => owes.returned _ rotated rfl).single
  have present : RowUntil (site.sha256Hex token) userId expiresAt false before.world :=
    toCommit.invariant (fun config => RowUntil _ userId expiresAt false config.world)
      (fun _ _ _ _ moves until_ => until_.step moves)
      (.inl ⟨row, found, owner, expires, fun impossible => by cases impossible⟩)
  have spent : RowUntil (site.sha256Hex token) userId expiresAt true after.world := by
    refine (present.step moves).imp ?_ id
    rintro ⟨stored, kept, owner, expires, _⟩
    obtain ⟨outcome, _, command, rest, rfl, state, committed⟩ := commits
    simp only [Config.step?, state, Option.some.injEq] at moves
    subst moves
    obtain ⟨other, same, revoked⟩ := (RotationOnce.commit_consumes committed).2
    cases kept.symm.trans same
    exact ⟨stored, kept, owner, expires, fun _ => revoked⟩
  obtain ⟨stored, kept, owner, _, revoked⟩ | expired :=
    finish.invariant (fun config => RowUntil _ userId expiresAt true config.world)
      (fun _ _ _ _ moves until_ => until_.step moves) spent
  · exact ⟨stored, kept, owner, revoked rfl⟩
  · simp only [World.second, World.pgEpoch] at early expired
    omega

end

theorem Withdrawn.not_acceptable {site : Deployment} (withDb : site.db = true)
    {owned : String → Prop} {after : World} (withdrawn : Withdrawn site owned after) {token : String}
    (mine : owned token) (milliseconds : Nat) :
    ¬ Acceptable site.sha256Hex (environment (.tick milliseconds) after) token := by
  intro acceptable
  have executes := executes_serveAll site.system Outcome.success (site.program (.validate token))
    (environment (.tick milliseconds) after)
  refine withdrawn _ (.single (.wait milliseconds after)) token (.validate token) _ _ _ mine rfl
    (executes.mono waits_of_eq) (serveAll_outcome _ _ _) ?_
  simp only [Accepts, Deployment.program, withDb]
  exact validate_accepts acceptable

/-- A replay of a consumed token, detected before the token's expiry, withdraws the
user's tokens if none of them was acceptable before; served at one instant, only then. -/
theorem withdrawn_iff_exhausted (site : Deployment) (withDb : site.db = true)
    {token userId : String} {expiresAt : Int} {config : site.system.Config}
    (consumed : Consumed site token userId expiresAt config) (new : String) (newExpiresAt : Nat) :
    (∀ (trace : List site.system.Exchange) (after : World),
      Executes Waits (site.program (.rotate token new newExpiresAt)) config.world trace
        (Except.ok RotationStatus.replayDetected) after →
      (∀ exchange ∈ trace, exchange.outcome = .success) → (after.second : Int) < expiresAt →
      Exhausted site.sha256Hex userId config.world →
        Withdrawn site (Owned site.sha256Hex config.world userId) after) ∧
    ∀ (trace : List site.system.Exchange) (after : World),
      Executes Eq (site.program (.rotate token new newExpiresAt)) config.world trace
        (Except.ok RotationStatus.replayDetected) after →
      (∀ exchange ∈ trace, exchange.outcome = .success) → (after.second : Int) < expiresAt →
        (Withdrawn site (Owned site.sha256Hex config.world userId) after ↔
          Exhausted site.sha256Hex userId config.world) := by
  have sufficient (trace : List site.system.Exchange) (after : World)
      (executes : Executes Waits (site.program (.rotate token new newExpiresAt)) config.world trace
        (Except.ok RotationStatus.replayDetected) after)
      (success : ∀ exchange ∈ trace, exchange.outcome = .success)
      (early : (after.second : Int) < expiresAt)
      (exhausted : Exhausted site.sha256Hex userId config.world) :
      Withdrawn site (Owned site.sha256Hex config.world userId) after := by
    have older := executes_clock Waits.clock executes
    have earlier : config.world.second ≤ after.second := Nat.div_le_div_right older
    obtain ⟨row, stored, owner, _⟩ := consumed.row withDb (by omega)
    obtain ⟨frozen, _⟩ := presented_blocked withDb
      (fun milliseconds => exhausted milliseconds token ⟨row, stored, owner⟩)
      (show Presents token (.rotate token new newExpiresAt) from rfl) executes success
    exact withdrawn_of_exhausted withDb exhausted frozen
  refine ⟨sufficient, fun trace after executes success early => ⟨fun withdrawn => ?_, ?_⟩⟩
  · have older := executes_clock Waits.clock (executes.mono waits_of_eq)
    have earlier : config.world.second ≤ after.second := Nat.div_le_div_right older
    obtain ⟨row, stored, owner, revoked⟩ := consumed.row withDb (by omega)
    simp only [Deployment.program, withDb] at executes
    rcases replay_leaves stored revoked executes with same | acceptable
    · intro milliseconds other owned acceptable
      refine withdrawn.not_acceptable withDb owned milliseconds ?_
      obtain ⟨valid, record, current, live, unexpired⟩ := acceptable
      refine ⟨valid, record, ?_, live, ?_⟩
      · rw [← current]
        simp only [currentRecord, cachedRecord, World.lookup, environment, same.db, same.redis,
          same.clock]
      · simpa only [World.second, environment, same.clock] using unexpired
    · exact absurd acceptable (withdrawn.not_acceptable withDb ⟨row, stored, owner⟩ 0)
  · exact sufficient trace after (executes.mono waits_of_eq) success early

/-- An entry that does not hold a live record. -/
def entryMarked : Option RedisEntry → Bool
  | some ⟨.refresh record, _⟩ => record.revoked
  | _ => true

/-- Where every row is revoked, and its cached record too, no token is acceptable. -/
theorem exhausted_of_marked (sha256Hex : String → String) (userId : String) {world : World}
    (marked : ∀ row ∈ world.db.refreshTokens.rows,
      row.revoked = true ∧ entryMarked (world.redis (.refresh row.tokenHash)) = true) :
    Exhausted sha256Hex userId world := by
  rintro milliseconds token ⟨row, found, _⟩ ⟨_, record, current, live, _⟩
  obtain ⟨member, sameHash⟩ := world.db.refreshTokens.find?_eq_some_iff.mp found
  obtain ⟨rowRevoked, cacheMarked⟩ := marked row member
  unfold currentRecord at current
  split at current
  · rename_i cached hit
    cases current
    rw [cachedRecord_eq_some, World.lookup, Option.map_eq_some_iff] at hit
    obtain ⟨entry, kept, value⟩ := hit
    have stored : world.redis (.refresh (sha256Hex token)) = some entry :=
      (Option.filter_eq_some_iff.mp kept).1
    obtain ⟨_, deadline⟩ := entry
    cases value
    rw [sameHash, stored] at cacheMarked
    simp only [entryMarked, live] at cacheMarked
    cases cacheMarked
  · simp only [environment, found, Option.map_some, Option.some.injEq] at current
    rw [← current, RefreshStore.recordOfRow, rowRevoked] at live
    cases live

theorem replay_after_revocation :
    ∃ config : (Sample.site true).system.Config,
      Consumed (Sample.site true) Sample.oldToken "user_1" Sample.expiry config ∧
      ∃ trace after, Executes Eq
          ((Sample.site true).program (.rotate Sample.oldToken Sample.newerToken Sample.expiry))
          config.world trace (Except.ok RotationStatus.replayDetected) after ∧
        Withdrawn (Sample.site true) (Owned Sample.sha256Hex config.world "user_1") after := by
  have evaluated : Config.runsTo (fun _ _ => True)
      (.initial (World.empty 1000000) : (Sample.site true).system.Config)
      ((Sample.site true).serve 0 (.issue Sample.oldToken "user_1" "device_1" Sample.expiry) 3)
      (fun start =>
        decide (start.world.db.refreshTokens.find? (Sample.sha256Hex Sample.oldToken) =
          some ⟨Sample.sha256Hex Sample.oldToken, "user_1", "device_1", Sample.expiry, false,
            none⟩) &&
        (start.threads 1).isIdle &&
        start.runsTo (fun _ _ => True)
          ((Sample.site true).serve 1
              (.rotate Sample.oldToken Sample.newToken Sample.expiry) 10 ++
            (Sample.site true).serve 2 (.revoke Sample.newToken) 4)
          (fun config =>
            let (_, answer, after) := Sample.served true
              (.rotate Sample.oldToken Sample.newerToken Sample.expiry) config.world
            decide (config.answer? 1 (.rotate Sample.oldToken Sample.newToken Sample.expiry) =
              some (.ok .rotated)) &&
            decide (answer = .ok .replayDetected) &&
            decide ((after.second : Int) < Sample.expiry) &&
            decide (∀ row ∈ config.world.db.refreshTokens.rows, row.revoked = true ∧
              entryMarked (config.world.redis (.refresh row.tokenHash)) = true))) = true := by
    decide +kernel
  obtain ⟨start, issuing, facts⟩ := Run.of_runsTo evaluated
  simp only [Bool.and_eq_true, decide_eq_true_eq] at facts
  obtain ⟨⟨found, idle⟩, evaluated⟩ := facts
  obtain ⟨config, consuming, facts⟩ := Run.of_runsTo evaluated
  simp only [Bool.and_eq_true, decide_eq_true_eq] at facts
  obtain ⟨⟨⟨rotated, replayed⟩, early⟩, marked⟩ := facts
  have consumed : Consumed (Sample.site true) Sample.oldToken "user_1" Sample.expiry config :=
    ⟨_, _, _, start, 1, _, _, _, issuing, found, rfl, rfl, Thread.eq_idle idle, consuming,
      Config.returned_of_answer? rotated⟩
  have executes := Sample.executes_served replayed
  refine ⟨config, consumed, _, _, executes, ((withdrawn_iff_exhausted (Sample.site true) rfl
    consumed Sample.newerToken Sample.expiry).2 _ _ executes (serveAll_outcome _ _ _) early).mpr ?_⟩
  exact exhausted_of_marked Sample.sha256Hex "user_1" marked

/-- The plain replay of a rotated token: the pre-flight check answers, no cascade
runs, and the successor is still accepted. -/
theorem successor_survives_replay :
    ∃ config : (Sample.site true).system.Config,
      Consumed (Sample.site true) Sample.oldToken "user_1" Sample.expiry config ∧
      ∃ trace after, Executes Eq
          ((Sample.site true).program (.rotate Sample.oldToken Sample.newerToken Sample.expiry))
          config.world trace (Except.ok RotationStatus.replayDetected) after ∧
        (∀ exchange ∈ trace, exchange.outcome = .success) ∧ (after.second : Int) < Sample.expiry ∧
        ¬ Withdrawn (Sample.site true) (Owned Sample.sha256Hex config.world "user_1") after := by
  have evaluated : Config.runsTo (fun _ _ => True)
      (.initial (World.empty 1000000) : (Sample.site true).system.Config)
      ((Sample.site true).serve 0 (.issue Sample.oldToken "user_1" "device_1" Sample.expiry) 3)
      (fun start =>
        decide (start.world.db.refreshTokens.find? (Sample.sha256Hex Sample.oldToken) =
          some ⟨Sample.sha256Hex Sample.oldToken, "user_1", "device_1", Sample.expiry, false,
            none⟩) &&
        (start.threads 1).isIdle &&
        start.runsTo (fun _ _ => True)
          ((Sample.site true).serve 1 (.rotate Sample.oldToken Sample.newToken Sample.expiry) 10)
          (fun config =>
            let (_, answer, after) := Sample.served true
              (.rotate Sample.oldToken Sample.newerToken Sample.expiry) config.world
            decide (config.answer? 1 (.rotate Sample.oldToken Sample.newToken Sample.expiry) =
              some (.ok .rotated)) &&
            decide (answer = .ok .replayDetected) &&
            decide ((after.second : Int) < Sample.expiry) &&
            decide (config.world.db.refreshTokens.find? (Sample.sha256Hex Sample.newToken) =
              some ⟨Sample.sha256Hex Sample.newToken, "user_1", "device_1", Sample.expiry, false,
                none⟩) &&
            (Sample.served true (.validate Sample.newToken) after).2.1.isOk)) = true := by
    decide +kernel
  obtain ⟨start, issuing, facts⟩ := Run.of_runsTo evaluated
  simp only [Bool.and_eq_true, decide_eq_true_eq] at facts
  obtain ⟨⟨found, idle⟩, evaluated⟩ := facts
  obtain ⟨config, consuming, facts⟩ := Run.of_runsTo evaluated
  simp only [Bool.and_eq_true, decide_eq_true_eq] at facts
  obtain ⟨⟨⟨⟨rotated, replayed⟩, early⟩, mine⟩, accepted⟩ := facts
  refine ⟨config, ⟨_, _, _, start, 1, _, _, _, issuing, found, rfl, rfl, Thread.eq_idle idle,
    consuming, Config.returned_of_answer? rotated⟩, _, _, Sample.executes_served replayed,
    serveAll_outcome _ _ _, early, fun withdrawn => ?_⟩
  exact withdrawn _ .refl Sample.newToken (.validate Sample.newToken) _ _ _ ⟨_, mine, rfl⟩ rfl
    ((Sample.executes_served rfl).mono waits_of_eq) (serveAll_outcome _ _ _) accepted

end BrainMate.Gateway.ReplayCascade
