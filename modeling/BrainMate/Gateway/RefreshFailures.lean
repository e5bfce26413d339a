import BrainMate.Gateway.KeyKinds
import BrainMate.Gateway.Serving

namespace BrainMate.Gateway.RefreshFailures

open Interleaving System

variable {site : Deployment}

/-- A statement that was answered with an error has not taken effect. -/
def Definite (trace : List site.system.Exchange) : Prop :=
  ∀ exchange ∈ trace, ∀ statement detail, exchange.command = .db statement →
    exchange.outcome ≠ .applied detail

/-- The calls that write refresh tokens. -/
def WritesTokens : Call → Prop
  | .issue _ _ _ _ | .rotate _ _ _ | .revoke _ => True
  | _ => False

def Failed : (call : Call) → call.Result → Prop
  | .issue _ _ _ _, answer | .revoke _, answer => answer.isOk = false
  | .rotate _ _ _, answer => answer.isOk = false
  | _, _ => False

/-- The calls that are documented to go on without Redis. -/
def WarnOnly : Call → Prop
  | .issue _ _ _ _ | .revoke _ => True
  | _ => False

/-- Something failed, and it was Redis. -/
structure RedisAlone (trace : List site.system.Exchange) : Prop where
  redis : ∃ exchange ∈ trace, (∃ command, exchange.command = .redis command) ∧
    acknowledged exchange.command exchange.reply = false
  database : ∀ exchange ∈ trace, (∃ statement, exchange.command = .db statement) →
    acknowledged exchange.command exchange.reply = true

/-- What the failure of a call may mean. -/
structure SafeFailure (call : Call) (before : World) (trace : List site.system.Exchange)
    (answer : call.Result) (after : World) : Prop where
  unchanged : Failed call answer → after.db.refreshTokens = before.db.refreshTokens
  tolerant : WarnOnly call → RedisAlone trace → ¬ Failed call answer

/-- The GETs of a revocation do not fail. -/
def ReadsRedis (call : Call) (trace : List site.system.Exchange) : Prop :=
  ∀ token, call = .revoke token → ∀ exchange ∈ trace,
    (∃ key, exchange.command = .redis (.get key)) → exchange.outcome = .success

variable {sha256Hex : String → String} {token : String} {before after : World}
variable {trace : List site.system.Exchange} {error : ApiError}

/-- The call has read the clock and at most tried one statement. -/
structure Early (before : World) (trace : List site.system.Exchange) (after : World) : Prop where
  db : after.db = before.db
  away : ∀ exchange ∈ trace, ∀ command, exchange.command ≠ .redis command

private theorem early_refl (world : World) : @Early site world [] world :=
  ⟨rfl, fun _ impossible => by cases impossible⟩

/-- A failing statement was lost. -/
theorem lost_of_failed {statement : DbCommand} {outcome : Outcome} {world : World} {error : DbError}
    (definite : ∀ detail, outcome ≠ .applied detail)
    (failed : (Command.exec outcome (.db statement) world).1 = .error error) :
    (Command.exec outcome (.db statement) world).2 = world := by
  cases outcome with
  | success => cases failed
  | lost detail => rfl
  | applied detail => exact absurd rfl (definite detail)

theorem Early.trans {middle : World} {later : List site.system.Exchange}
    (first : Early before trace middle) (second : Early middle later after) :
    Early before (trace ++ later) after := by
  refine ⟨second.db.trans first.db, fun exchange member => ?_⟩
  rcases List.mem_append.mp member with earlier | later
  · exact first.away exchange earlier
  · exact second.away exchange later

/-- The check of an expiry reads the clock. -/
theorem early_ttl {expiresAt : Nat} {answer : Except ApiError Nat}
    (executes : Executes Drifts (RefreshStore.ttlFromExpiresAt expiresAt) before trace answer after) :
    Early before trace after := by
  have keeps : Tolerates site.system Drifts Fades Harmless := fades_tolerates
  have clock : (RefreshStore.ttlFromExpiresAt expiresAt).Every (· = .now) := by
    refine ⟨rfl, fun millis => ?_⟩
    change (if _ then _ else _ : Procedure _).Every _
    split <;> trivial
  refine ⟨(executes.respects (keeps.restrict Reads.harmless) (ttlFromExpiresAt_reads expiresAt)).db, ?_⟩
  intro exchange member command redis
  cases (executes.trace_every clock exchange member).symm.trans redis

/-- An `issue` that fails has not come to Redis. -/
theorem issue_failed {userId deviceId : String} {expiresAt : Nat} (definite : Definite trace)
    (executes : Executes Drifts (RefreshStore.issue sha256Hex true token userId deviceId expiresAt)
      before trace (.error error) after) : Early before trace after := by
  unfold RefreshStore.issue at executes
  split at executes
  · obtain ⟨_, rfl, rfl⟩ := executes.of_done
    exact early_refl _
  split at executes
  · obtain ⟨_, rfl, rfl⟩ := executes.of_done
    exact early_refl _
  obtain ⟨first, rest, ttl, checked, rfl, checking, inserting⟩ := executes.of_bind
  have early := early_ttl checking
  rcases ttl with refusal | ttlSecs
  · obtain ⟨_, rfl, rfl⟩ := inserting.of_done
    rwa [List.append_nil]
  simp only [if_true, database_eq, Program.call_bind, Program.done_bind] at inserting
  obtain ⟨stored, outcome, later, waits, rfl, continues⟩ := inserting.of_call
  cases replied : (Command.exec outcome (.db (.insertRefreshToken ⟨sha256Hex token, userId, deviceId,
      asI64 expiresAt, false, none⟩)) stored).1 with
  | error failure =>
    rw [replied] at continues
    obtain ⟨_, rfl, rfl⟩ := continues.of_done
    have lost := lost_of_failed (fun detail => definite _
      (List.mem_append_right _ (.head _)) _ detail rfl) replied
    refine early.trans ⟨?_, ?_⟩
    · rw [lost]
      exact (Drifts.fades waits).db
    · intro exchange member command
      cases List.mem_singleton.mp member
      exact fun impossible => by cases impossible
  | ok done =>
    rw [replied] at continues
    simp only [RefreshStore.cacheIssued, redis_eq, Program.call_bind, Program.done_bind] at continues
    obtain ⟨_, _, _, _, _, answered⟩ := continues.of_call
    split at answered
    · cases answered.of_done.1
    · cases answered.of_done.1

private theorem kinded_drifts {world later : World} (kinded : Kinded world)
    (drifts : Drifts world later) :
    Kinded later := by
  induction drifts with
  | refl => exact kinded
  | tail _ moves ih =>
    obtain ⟨event, rfl⟩ := moves
    exact ih.environment event

/-- How a revocation ends. -/
inductive Revoked (before : World) (trace : List site.system.Exchange) (after : World) :
    Except ApiError Unit → Prop where
  /-- It has not come to Redis. -/
  | refused (error : ApiError) (early : Early before trace after) : Revoked before trace after (.error error)
  /-- The statement was carried out, and the GET failed. -/
  | unread (error : ApiError)
      (committed : ∀ exchange ∈ trace, (∃ statement, exchange.command = .db statement) →
        acknowledged exchange.command exchange.reply = true)
      (unread : ∃ exchange ∈ trace, (∃ key, exchange.command = .redis (.get key)) ∧
        acknowledged exchange.command exchange.reply = false ∧ exchange.outcome ≠ .success) :
      Revoked before trace after (.error error)
  | done (read : ∀ exchange ∈ trace, (∃ key, exchange.command = .redis (.get key)) →
      exchange.outcome = .success) : Revoked before trace after (.ok ())

/-- A command that is not a GET. -/
def ReadsNone (command : Command) : Prop := ∀ key, command ≠ .redis (.get key)

/-- Where refresh keys hold refresh records, a read fails only if its GET does. -/
theorem getRefreshJson_ends {value : Except RedisLayerError (Option RefreshTokenRecord)}
    {tokenHash : String} (kinded : Kinded before)
    (executes : Executes Drifts (RefreshStore.getRefreshJson (.refresh tokenHash)) before trace value
      after) :
    ∃ exchange, trace = [exchange] ∧ exchange.command = .redis (.get (.refresh tokenHash)) ∧
      acknowledged exchange.command exchange.reply = value.isOk ∧
      (exchange.outcome = .success ↔ value.isOk = true) := by
  simp only [RefreshStore.getRefreshJson, redis_eq, Program.call_bind, Program.done_bind] at executes
  obtain ⟨read, outcome, later, waits, rfl, continues⟩ := executes.of_call
  have holds := kinded_drifts kinded waits
  cases outcome with
  | lost detail =>
    obtain ⟨rfl, rfl, rfl⟩ := continues.of_done
    exact ⟨_, rfl, rfl, rfl, ⟨by rintro ⟨⟩, by rintro ⟨⟩⟩⟩
  | applied detail =>
    obtain ⟨rfl, rfl, rfl⟩ := continues.of_done
    exact ⟨_, rfl, rfl, rfl, ⟨by rintro ⟨⟩, by rintro ⟨⟩⟩⟩
  | success =>
    simp only [Command.exec, Command.answer, RedisCommand.answer] at continues
    cases held : World.lookup read (.refresh tokenHash) with
    | none =>
      rw [held] at continues
      obtain ⟨rfl, rfl, rfl⟩ := continues.of_done
      exact ⟨_, rfl, rfl, rfl, ⟨fun _ => rfl, fun _ => rfl⟩⟩
    | some raw =>
      obtain ⟨record, rfl⟩ := holds.refresh held
      rw [held] at continues
      obtain ⟨rfl, rfl, rfl⟩ := continues.of_done
      exact ⟨_, rfl, rfl, rfl, ⟨fun _ => rfl, fun _ => rfl⟩⟩

/-- Behind the statement, a failing GET is the only thing that fails a revocation. -/
theorem markRevoked_ends {middle : World} {earlier : List site.system.Exchange}
    {answer : Except ApiError Unit} (kinded : Kinded middle)
    (statement : ∀ exchange ∈ earlier, (∃ statement, exchange.command = .db statement) ∧
      acknowledged exchange.command exchange.reply = true)
    (executes : Executes Drifts (RefreshStore.markRevoked sha256Hex true token) middle trace answer
      after) : Revoked before (earlier ++ trace) after answer := by
  obtain ⟨_, rest, found, read, rfl, reading, marking⟩ := executes.of_bind
  obtain ⟨get, rfl, isGet, answered, succeeds⟩ := getRefreshJson_ends kinded reading
  cases found with
  | error failure =>
    obtain ⟨rfl, rfl, rfl⟩ := marking.of_done
    refine .unread _ (fun exchange member isStatement => ?_) ⟨get, by simp, ⟨_, isGet⟩, answered, fun success => ?_⟩
    rcases List.mem_append.mp member with among | last
    · exact (statement exchange among).2
    · cases List.mem_singleton.mp last
      obtain ⟨_, same⟩ := isStatement
      cases isGet.symm.trans same
    · cases succeeds.mp success
  | ok found =>
    obtain ⟨rfl, quiet⟩ : answer = .ok () ∧
        ∀ exchange ∈ rest, ReadsNone exchange.command := by
      cases found with
      | none =>
        obtain ⟨rfl, rfl, rfl⟩ := marking.of_done
        exact ⟨rfl, fun _ impossible => by cases impossible⟩
      | some record =>
        obtain ⟨clock, _, remaining, _, rfl, asking, writing⟩ := marking.of_bind
        have away := (early_ttl asking).away
        simp only [redis_eq, Program.call_bind, Program.done_bind, if_true] at writing
        obtain ⟨_, outcome, later, _, rfl, answered⟩ := writing.of_call
        generalize (Command.exec outcome _ _).1 = reply at answered
        obtain ⟨rfl, rfl⟩ : answer = .ok () ∧ later = [] := by
          cases reply with
          | error failure => exact ⟨answered.of_done.1, answered.of_done.2.2⟩
          | ok done => exact ⟨answered.of_done.1, answered.of_done.2.2⟩
        refine ⟨rfl, fun exchange member => ?_⟩
        rcases List.mem_append.mp member with asked | written
        · exact fun key => away exchange asked _
        · cases List.mem_singleton.mp written
          exact nofun
    refine .done fun exchange member isRead => ?_
    obtain among | here | later : exchange ∈ earlier ∨ exchange = get ∨ exchange ∈ rest := by
      simpa using member
    · obtain ⟨_, same⟩ := (statement exchange among).1
      obtain ⟨_, other⟩ := isRead
      cases same.symm.trans other
    · cases here
      exact succeeds.mpr rfl
    · obtain ⟨key, same⟩ := isRead
      exact (quiet exchange later key same).elim

private theorem revoke_ends {answer : Except ApiError Unit} (kinded : Kinded before)
    (definite : Definite trace)
    (executes : Executes Drifts (RefreshStore.revoke sha256Hex true token) before trace answer after) :
    Revoked before trace after answer := by
  unfold RefreshStore.revoke at executes
  split at executes
  · obtain ⟨rfl, rfl, rfl⟩ := executes.of_done
    exact .refused _ (early_refl _)
  simp only [if_true, database_eq, Program.call_bind, Program.done_bind] at executes
  obtain ⟨stored, outcome, later, waits, rfl, continues⟩ := executes.of_call
  cases replied : (Command.exec outcome (.db (.revokeRefreshToken (sha256Hex token))) stored).1 with
  | error failure =>
    rw [replied] at continues
    obtain ⟨rfl, rfl, rfl⟩ := continues.of_done
    have lost := lost_of_failed (fun detail => definite _ (.head _) _ detail rfl) replied
    refine .refused _ ⟨?_, fun exchange member => ?_⟩
    · rw [lost]
      exact (Drifts.fades waits).db
    · cases List.mem_singleton.mp member
      exact fun _ impossible => by cases impossible
  | ok done =>
    have suits : Suits (.db (.revokeRefreshToken (sha256Hex token))) := trivial
    have holds := (kinded_drifts kinded waits).exec suits outcome
    rw [replied] at continues
    change Revoked before ([_] ++ later) after answer
    refine markRevoked_ends holds (fun exchange member => ?_) continues
    cases List.mem_singleton.mp member
    exact ⟨⟨_, rfl⟩, rfl⟩

/-- A rotation that fails has changed no row. -/
theorem rotateRecordDb_failed {old new : String} {newExpiresAt newTtl : Nat} {record : RefreshTokenRecord}
    (definite : Definite trace)
    (executes : Executes Drifts
      (RefreshStore.rotateRecordDb sha256Hex old new newExpiresAt newTtl record) before trace
      (.error error) after) : after.db = before.db := by
  simp only [RefreshStore.rotateRecordDb, RefreshStore.rotateRefreshTokenTx, nowUnixSecs_eq,
    database_eq, Program.call_bind, Program.done_bind] at executes
  obtain ⟨asked, _, _, waits, rfl, deciding⟩ := executes_now executes
  obtain ⟨commit, outcome, later, waits', rfl, continues⟩ := deciding.of_call
  cases replied : (Command.exec outcome (.db (.rotateRefreshTokenTx (sha256Hex old) (sha256Hex new)
      record.userId record.deviceId (asI64 newExpiresAt) (asI64 (asked.clock / 1000)))) commit).1 with
  | error failure =>
    rw [replied] at continues
    obtain ⟨_, rfl, rfl⟩ := continues.of_done
    have lost := lost_of_failed (fun detail => definite _ (.tail _ (.head _)) _ detail rfl) replied
    rw [lost]
    exact (Drifts.fades waits').db.trans (Drifts.fades waits).db
  | ok rotated =>
    rw [replied] at continues
    cases rotated with
    | none =>
      obtain ⟨_, _, _, _, _, _, finished⟩ := continues.of_bind
      cases finished.of_done.1
    | some row =>
      have ends : (RefreshStore.cacheRotation sha256Hex old new record row newTtl).Ends
          (· = .ok .rotated) := fun _ _ _ => rfl
      cases continues.ends ends

private theorem doRotateDb_failed {old new : String} {newExpiresAt newTtl : Nat}
    (definite : Definite trace)
    (executes : Executes Drifts (RefreshStore.doRotateDb sha256Hex old new newExpiresAt newTtl) before
      trace (.error error) after) : after.db = before.db := by
  have keeps : Tolerates site.system Drifts Fades Harmless := fades_tolerates
  have reads := keeps.restrict Reads.harmless
  obtain ⟨_, _, found, read, rfl, reading, checking⟩ := executes.of_bind
  have toRead := (reading.respects reads (readOldRecord_reads sha256Hex old)).db
  rcases found with failure | _ | record
  · obtain ⟨_, rfl, _⟩ := checking.of_done
    exact toRead
  · cases checking.of_done.1
  · obtain ⟨_, _, spent, checked, rfl, asking, continues⟩ := checking.of_bind
    have toChecked := (asking.respects reads (isSpent_reads record)).db
    cases spent with
    | true => cases continues.of_done.1
    | false =>
      have rotated := rotateRecordDb_failed (fun exchange member => definite exchange
        (List.mem_append_right _ (List.mem_append_right _ member))) continues
      exact rotated.trans (toChecked.trans toRead)

private theorem rotate_failed {old new : String} {newExpiresAt : Nat} (definite : Definite trace)
    (executes : Executes Drifts (RefreshStore.rotate sha256Hex true old new newExpiresAt) before trace
      (.error error) after) : after.db = before.db := by
  have keeps : Tolerates site.system Drifts Fades Harmless := fades_tolerates
  unfold RefreshStore.rotate at executes
  split at executes
  · obtain ⟨_, rfl, _⟩ := executes.of_done
    rfl
  split at executes
  · obtain ⟨_, rfl, _⟩ := executes.of_done
    rfl
  obtain ⟨_, _, ttl, asked, rfl, asking, locking⟩ := executes.of_bind
  have toAsked := (early_ttl asking).db
  rcases ttl with refusal | newTtl
  · obtain ⟨_, rfl, _⟩ := locking.of_done
    exact toAsked
  simp only [RefreshStore.rotateLocked, redis_eq, Program.call_bind, Program.done_bind] at locking
  obtain ⟨free, outcome, _, waits, rfl, continues⟩ := locking.of_call
  have toLocked := (keeps.trans (keeps.elapse waits)
    (keeps.command (acquireLock_harmless sha256Hex old) outcome free)).db.trans toAsked
  generalize (Command.exec outcome _ free).1 = locked at continues
  rcases locked with failure | _ | _
  · obtain ⟨_, rfl, _⟩ := continues.of_done
    exact toLocked
  · obtain ⟨_, rfl, _⟩ := continues.of_done
    exact toLocked
  obtain ⟨_, _, result, finish, rfl, rotating, releasing⟩ := continues.of_bind
  have released := (releasing.respects keeps (releaseLock_harmless sha256Hex old result)).db
  simp only [RefreshStore.releaseLock, redis_eq, Program.call_bind, Program.done_bind] at releasing
  obtain ⟨_, _, _, _, _, done⟩ := releasing.of_call
  obtain ⟨rfl, _, _⟩ := done.of_done
  have rotated := doRotateDb_failed (fun exchange member => definite exchange
    (List.mem_append_right _ (.tail _ (List.mem_append_left _ member)))) rotating
  exact released.trans (rotated.trans toLocked)

private theorem issue_safe {userId deviceId : String} {expiresAt : Nat}
    {answer : Except ApiError Unit}
    (definite : Definite trace)
    (executes : Executes Drifts (RefreshStore.issue sha256Hex true token userId deviceId expiresAt)
      before trace answer after) :
    SafeFailure (.issue token userId deviceId expiresAt) before trace answer after := by
  cases answer with
  | ok done => exact ⟨nofun, fun _ _ => nofun⟩
  | error failure =>
    have early := issue_failed definite executes
    refine ⟨fun _ => congrArg _ early.db, fun _ alone => ?_⟩
    obtain ⟨exchange, member, ⟨command, same⟩, _⟩ := alone.redis
    exact absurd same (early.away exchange member command)

private theorem rotate_safe {old new : String} {newExpiresAt : Nat}
    {answer : Except ApiError RotationStatus}
    (definite : Definite trace)
    (executes : Executes Drifts (RefreshStore.rotate sha256Hex true old new newExpiresAt) before trace
      answer after) : SafeFailure (.rotate old new newExpiresAt) before trace answer after := by
  cases answer with
  | ok status => exact ⟨nofun, nofun⟩
  | error failure => exact ⟨fun _ => congrArg _ (rotate_failed definite executes), nofun⟩

private theorem revoke_safe_iff {answer : Except ApiError Unit} (kinded : Kinded before)
    (definite : Definite trace)
    (executes : Executes Drifts (RefreshStore.revoke sha256Hex true token) before trace answer after) :
    SafeFailure (.revoke token) before trace answer after ↔ ReadsRedis (.revoke token) trace := by
  cases revoke_ends kinded definite executes with
  | refused failure early =>
    refine ⟨fun _ _ _ exchange member isRead => ?_, fun _ => ⟨fun _ => congrArg _ early.db, ?_⟩⟩
    · obtain ⟨key, same⟩ := isRead
      exact absurd same (early.away exchange member _)
    · intro _ alone
      obtain ⟨exchange, member, ⟨command, same⟩, _⟩ := alone.redis
      exact absurd same (early.away exchange member command)
  | unread failure committed unread =>
    obtain ⟨exchange, member, ⟨key, same⟩, unanswered, fails⟩ := unread
    constructor
    · intro safe
      exact absurd rfl (safe.tolerant trivial ⟨⟨exchange, member, ⟨_, same⟩, unanswered⟩, committed⟩)
    · intro reads
      exact absurd (reads token rfl exchange member ⟨key, same⟩) fails
  | done read =>
    refine ⟨fun _ _ _ => read, fun _ => ⟨nofun, fun _ _ => nofun⟩⟩

/-- A call that fails leaves the table as it was, and Redis alone fails neither an `issue` nor a
`revoke`, if and only if the GET of a revocation does not fail. -/
theorem refresh_failure_safe_iff (withDb : site.db = true) {clock : Nat}
    {actions : List site.system.Action} {config : site.system.Config}
    (reached : Run (fun _ _ => True) (.initial (World.empty clock)) actions config) {call : Call}
    (writes : WritesTokens call) {answer : call.Result}
    (executes : Executes Drifts (site.program call) config.world trace answer after)
    (definite : Definite trace) :
    SafeFailure call config.world trace answer after ↔ ReadsRedis call trace := by
  have kinded := kinded_of_run reached
  cases call with
  | issue =>
    simp only [Deployment.program, withDb] at executes
    exact ⟨fun _ => nofun, fun _ => issue_safe definite executes⟩
  | rotate =>
    simp only [Deployment.program, withDb] at executes
    exact ⟨fun _ => nofun, fun _ => rotate_safe definite executes⟩
  | revoke =>
    simp only [Deployment.program, withDb] at executes
    exact revoke_safe_iff kinded definite executes
  | _ => exact writes.elim

/-- The GET fails. -/
def unreadable : Command → Outcome
  | .redis (.get _) => .lost "connection reset"
  | _ => .success

def revocation (pattern : Command → Outcome) (world : World) :
    List (Sample.site true).system.Exchange × Except ApiError Unit × World :=
  (Sample.site true).system.serveBy pattern ((Sample.site true).program (.revoke Sample.oldToken)) world

private theorem executes_revocation (pattern : Command → Outcome) (world : World) :
    Executes Drifts ((Sample.site true).program (.revoke Sample.oldToken)) world
      (revocation pattern world).1 (revocation pattern world).2.1 (revocation pattern world).2.2 :=
  (executes_serveBy (Sample.site true).system pattern _ world).mono fun _ _ same => same ▸ .refl

private theorem definite_revocation {pattern : Command → Outcome} (world : World)
    (definite : ∀ statement detail, pattern (.db statement) ≠ .applied detail) :
    Definite (revocation pattern world).1 := by
  intro exchange member statement detail same
  rw [serveBy_outcome _ _ exchange member, same]
  exact definite statement detail

/-- The answer of the revocation, with the flag of the row before and after it. -/
def revocationOf (pattern : Command → Outcome) (world : World) : Bool × Option Bool × Option Bool :=
  let flag (world : World) :=
    (world.db.refreshTokens.find? (Sample.sha256Hex Sample.oldToken)).map DbRefreshToken.revoked
  ((revocation pattern world).2.1.isOk, flag world, flag (revocation pattern world).2.2)

private theorem issued_then (pattern : Command → Outcome)
    (expected : Bool × Option Bool × Option Bool)
    (evaluated : Config.runsTo (fun _ _ => True)
      (.initial (World.empty 1000000) : (Sample.site true).system.Config)
      ((Sample.site true).serve 0 (.issue Sample.oldToken "user_1" "device_1" Sample.expiry) 3)
      (fun config => decide (revocationOf pattern config.world = expected)) = true) :
    ∃ actions config, Run (fun _ _ => True)
      (.initial (World.empty 1000000) : (Sample.site true).system.Config) actions config ∧
      revocationOf pattern config.world = expected := by
  obtain ⟨config, run, facts⟩ := Run.of_runsTo evaluated
  exact ⟨_, config, run, of_decide_eq_true facts⟩

/-- The row is revoked, and the caller is told that the revocation failed. -/
theorem revoke_fails_after_commit :
    ∃ actions config trace answer after,
      Run (fun _ _ => True) (.initial (World.empty 1000000) : (Sample.site true).system.Config)
        actions config ∧
      Executes Drifts ((Sample.site true).program (.revoke Sample.oldToken)) config.world trace answer
        after ∧ Definite trace ∧
      ¬ SafeFailure (.revoke Sample.oldToken) config.world trace answer after := by
  obtain ⟨actions, config, run, facts⟩ := issued_then unreadable (false, some false, some true)
    (by decide +kernel)
  simp only [revocationOf, Prod.mk.injEq] at facts
  obtain ⟨failed, before, after⟩ := facts
  refine ⟨actions, config, _, _, _, run, executes_revocation unreadable config.world,
    definite_revocation config.world fun _ _ => nofun, fun safe => ?_⟩
  rw [safe.unchanged failed, before] at after
  cases after

theorem revoke_safe_of_answered_get :
    ∃ actions config,
      Run (fun _ _ => True) (.initial (World.empty 1000000) : (Sample.site true).system.Config)
        actions config ∧
      revocationOf (fun _ => .success) config.world = (true, some false, some true) ∧
      SafeFailure (.revoke Sample.oldToken) config.world
        (revocation (fun _ => .success) config.world).1
        (revocation (fun _ => .success) config.world).2.1
        (revocation (fun _ => .success) config.world).2.2 := by
  obtain ⟨actions, config, run, facts⟩ := issued_then (fun _ => .success) (true, some false, some true)
    (by decide +kernel)
  have writes : WritesTokens (.revoke Sample.oldToken) := trivial
  have definite : Definite (revocation (fun _ => .success) config.world).1 :=
    definite_revocation config.world fun _ _ impossible => by cases impossible
  refine ⟨actions, config, run, facts,
    (refresh_failure_safe_iff rfl run writes (executes_revocation _ config.world) definite).mpr ?_⟩
  exact fun _ _ exchange member _ => serveBy_outcome _ _ exchange member

end BrainMate.Gateway.RefreshFailures
