import BrainMate.Gateway.Serving

namespace BrainMate.Gateway.ExpiryLimits

open Interleaving System

private theorem asU64_asI64 {value : Nat} (unsigned : value < 2 ^ 64) :
    asU64 (asI64 value) = value := by
  unfold asU64 asI64
  omega

private theorem asI64_negative {value : Nat} (large : 2 ^ 63 ≤ value) (unsigned : value < 2 ^ 64) :
    asI64 value < 0 := by
  unfold asI64
  omega

/-- The comparison of the UPDATE is the one of the API for an expiry below 2^63, and never holds
for one above. -/
theorem cast_compare {now expiresAt : Nat} (unsigned : expiresAt < 2 ^ 64) (early : now < expiresAt)
    (present : now < 2 ^ 63) : asI64 now < asI64 expiresAt ↔ expiresAt < 2 ^ 63 := by
  rw [asI64_of_lt present]
  constructor
  · intro later
    by_contra large
    have negative := asI64_negative (Nat.le_of_not_lt large) unsigned
    omega
  · intro small
    rw [asI64_of_lt small]
    omega

variable {site : Deployment} {sha256Hex : String → String}
variable {token userId deviceId : String} {expiresAt : Nat}
variable {before after : World} {trace : List site.system.Exchange}

/-- What `issue` leaves: an unrevoked row, and Redis caching no other record. -/
structure Held (sha256Hex : String → String) (token userId deviceId : String) (expiresAt : Nat)
    (world : World) : Prop where
  row : world.db.refreshTokens.find? (sha256Hex token) =
    some ⟨sha256Hex token, userId, deviceId, asI64 expiresAt, false, none⟩
  cached : ∀ value, world.lookup (.refresh (sha256Hex token)) = some value →
    value = .refresh ⟨userId, deviceId, expiresAt, false, none⟩

/-- No row, no cached record and no lock under the key of the token. -/
structure Fresh (sha256Hex : String → String) (token : String) (world : World) : Prop where
  row : world.db.refreshTokens.find? (sha256Hex token) = none
  cached : world.lookup (.refresh (sha256Hex token)) = none
  unlocked : world.lookup (.refreshLock (sha256Hex token)) = none

/-- A command other than the cascade over the tokens of a user. -/
def NoCascade (command : Command) : Prop :=
  ∀ userId, command ≠ .db (.revokeAllRefreshTokensForDevice userId)

theorem Held.drifts {world later : World} (held : Held sha256Hex token userId deviceId expiresAt world)
    (drifts : Drifts world later) : Held sha256Hex token userId deviceId expiresAt later :=
  ⟨drifts.fades.db ▸ held.row, fun value found => held.cached value (drifts.lookup found)⟩

theorem Fresh.drifts {world later : World} (fresh : Fresh sha256Hex token world)
    (drifts : Drifts world later) : Fresh sha256Hex token later :=
  ⟨drifts.fades.db ▸ fresh.row, drifts.absent fresh.cached, drifts.absent fresh.unlocked⟩

/-- Caching the record once more changes nothing that matters. -/
theorem Held.cache {world : World} (held : Held sha256Hex token userId deviceId expiresAt world)
    (ttlSecs : Nat) : Held sha256Hex token userId deviceId expiresAt
      (Command.effect (.redis (.setEx (.refresh (sha256Hex token))
        (.refresh ⟨userId, deviceId, expiresAt, false, none⟩) ttlSecs)) world) := by
  constructor
  · rw [Command.effect, RedisCommand.effect_db]
    exact held.row
  · intro value found
    simp only [Command.effect, RedisCommand.effect] at found
    split at found
    · rw [World.lookup_store_same] at found
      obtain ⟨entry, kept, rfl⟩ := Option.map_eq_some_iff.mp found
      cases (Option.filter_eq_some_iff.mp kept).1
      rfl
    · exact held.cached value found

theorem Held.lock {world : World} (held : Held sha256Hex token userId deviceId expiresAt world) :
    Held sha256Hex token userId deviceId expiresAt (Command.effect
      (.redis (.setNxEx (RefreshStore.lockKey sha256Hex token) (.text "1") 5)) world) := by
  have untouched := (acquireLock_harmless sha256Hex token).effect world
  refine ⟨?_, fun value found => ?_⟩
  · rw [untouched.db]
    exact held.row
  · rw [untouched.lookup] at found
    exact held.cached value found

/-- What is early for the end of a call is early for its start. -/
theorem early_before {α : Type} {program : Procedure α} {value : α}
    (executes : Executes Drifts program before trace value after) (early : after.second < expiresAt) :
    before.second < expiresAt :=
  Nat.lt_of_le_of_lt (Nat.div_le_div_right (executes_clock Drifts.clock executes)) early

private theorem issue_held (fresh : Fresh sha256Hex token before)
    (success : ∀ exchange ∈ trace, exchange.outcome = .success)
    (executes : Executes Drifts (RefreshStore.issue sha256Hex true token userId deviceId expiresAt)
      before trace (.ok ()) after) :
    RefreshStore.validateRefreshTokenId token = .ok () ∧
      Held sha256Hex token userId deviceId expiresAt after ∧
      after.lookup (.refreshLock (sha256Hex token)) = none := by
  unfold RefreshStore.issue at executes
  split at executes
  · cases executes.of_done.1
  rename_i valid
  refine ⟨valid, ?_⟩
  split at executes
  · cases executes.of_done.1
  obtain ⟨_, _, ttl, asked, rfl, asking, inserting⟩ := executes.of_bind
  have toAsked := asking.respects drifts_tolerates (ttlFromExpiresAt_reads expiresAt)
  rcases ttl with refusal | ttlSecs
  · cases inserting.of_done.1
  simp only [if_true, database_eq, Program.call_bind, Program.done_bind] at inserting
  obtain ⟨stored, _, toStored, _, success, caching⟩ := executes_success inserting
    fun exchange member => success exchange (List.mem_append_right _ member)
  have free := fresh.drifts (toAsked.trans toStored)
  simp only [Command.answer, RefreshStore.cacheIssued, redis_eq, Program.call_bind,
    Program.done_bind] at caching
  obtain ⟨written, _, toWritten, _, _, answered⟩ := executes_success caching success
  have inserted : Held sha256Hex token userId deviceId expiresAt
      (Command.effect (.db (.insertRefreshToken
        ⟨sha256Hex token, userId, deviceId, asI64 expiresAt, false, none⟩)) stored) := by
    refine ⟨?_, fun value found => ?_⟩
    · simp [Command.effect, DbCommand.effect, free.row]
    · cases free.cached.symm.trans found
  have cached := (inserted.drifts toWritten).cache ttlSecs
  have unlocked := toWritten.absent free.unlocked
  rw [← RedisCommand.effect_lookup_other (.setEx (.refresh (sha256Hex token))
    (.refresh ⟨userId, deviceId, expiresAt, false, none⟩) ttlSecs) written
    (by simp [RedisCommand.key])] at unlocked
  split at answered
  · rw [answered.of_done.2.1]
    exact ⟨cached, unlocked⟩
  · rw [answered.of_done.2.1]
    exact ⟨cached, unlocked⟩

private theorem validateRecord_accepts {elapses : World → World → Prop}
    (passes : ∀ {first second}, elapses first second → first.clock ≤ second.clock)
    {record : RefreshTokenRecord} {answer : Except ApiError RefreshTokenRecord}
    (live : record.revoked = false) (early : after.second < record.expiresAt)
    (executes : Executes elapses (RefreshStore.validateRecord record) before trace answer after) :
    answer = .ok record := by
  simp only [RefreshStore.validateRecord, live, Bool.false_eq_true, if_false, nowUnixSecs_eq,
    Program.call_bind, Program.done_bind] at executes
  obtain ⟨asked, _, _, _, _, continues⟩ := executes_now executes
  have soon : asked.clock / 1000 < record.expiresAt :=
    Nat.lt_of_le_of_lt (Nat.div_le_div_right (executes_clock passes continues)) early
  rw [if_neg (Nat.not_le.mpr soon)] at continues
  exact continues.of_done.1

private theorem recordOfRow_cast (unsigned : expiresAt < 2 ^ 64) (tokenHash : String) :
    RefreshStore.recordOfRow ⟨tokenHash, userId, deviceId, asI64 expiresAt, false, none⟩ =
      ⟨userId, deviceId, expiresAt, false, none⟩ := by
  rw [RefreshStore.recordOfRow, asU64_asI64 unsigned]

private theorem validateDb_held {answer : Except ApiError RefreshTokenRecord}
    (unsigned : expiresAt < 2 ^ 64)
    (held : Held sha256Hex token userId deviceId expiresAt before)
    (success : ∀ exchange ∈ trace, exchange.outcome = .success)
    (executes : Executes Drifts (RefreshStore.validateDb sha256Hex token) before trace answer after)
    (early : after.second < expiresAt) : answer.isOk = true := by
  simp only [RefreshStore.validateDb, database_eq, Program.call_bind, Program.done_bind] at executes
  obtain ⟨fetched, _, toFetched, _, _, judging⟩ := executes_success executes success
  have found := (held.drifts toFetched).row
  simp only [Command.answer, DbCommand.answer, found, recordOfRow_cast unsigned] at judging
  obtain ⟨_, _, verdict, judged, _, validating, rehydrating⟩ := judging.of_bind
  have soon : judged.second < expiresAt :=
    early_before rehydrating early
  rw [validateRecord_accepts Drifts.clock rfl soon validating] at rehydrating
  simp only [nowUnixSecs_eq, redis_eq, Program.call_bind, Program.done_bind] at rehydrating
  obtain ⟨asked, _, _, _, _, caching⟩ := executes_now rehydrating
  split at caching
  · obtain ⟨_, _, _, _, _, done⟩ := caching.of_call
    rw [done.of_done.1]
    rfl
  · rw [caching.of_done.1]
    rfl

/-- Whether the record is cached or read from its row, it is accepted before its expiry. -/
theorem validate_held {answer : Except ApiError RefreshTokenRecord} (unsigned : expiresAt < 2 ^ 64)
    (valid : RefreshStore.validateRefreshTokenId token = .ok ())
    (held : Held sha256Hex token userId deviceId expiresAt before)
    (success : ∀ exchange ∈ trace, exchange.outcome = .success)
    (executes : Executes Drifts (RefreshStore.validate sha256Hex true token) before trace answer after)
    (early : after.second < expiresAt) : answer.isOk = true := by
  simp only [RefreshStore.validate, valid] at executes
  obtain ⟨_, _, found, read, rfl, reading, judging⟩ := executes.of_bind
  obtain ⟨toRead, _, cached⟩ := getRefreshJson_served drifts_tolerates reading
  have here := held.drifts toRead
  rw [cached fun exchange member => success exchange (List.mem_append_left _ member)] at judging
  unfold cachedRecord at judging
  cases hit : World.lookup read (.refresh (sha256Hex token)) with
  | none =>
    rw [hit] at judging
    exact validateDb_held unsigned here
      (fun exchange member => success exchange (List.mem_append_right _ member)) judging early
  | some raw =>
    rw [hit, here.cached raw hit] at judging
    rw [validateRecord_accepts Drifts.clock rfl early judging]
    rfl

variable {old new : String} {newExpiresAt newTtl : Nat} {answer : Except ApiError RotationStatus}

private theorem noCascade_of_reads {command : Command} (reads : Reads command) :
    NoCascade command := by
  rintro userId rfl
  exact reads

private theorem releaseLock_noCascade (sha256Hex : String → String) (old : String)
    (result : Except ApiError RotationStatus) :
    (RefreshStore.releaseLock sha256Hex old result).Every NoCascade :=
  ⟨fun _ => nofun, fun _ => trivial⟩

private theorem cacheRotation_noCascade (sha256Hex : String → String) (old new : String)
    (newTtl : Nat)
    (oldRecord : RefreshTokenRecord) (newRecord : DbRefreshToken) :
    (RefreshStore.cacheRotation sha256Hex old new oldRecord newRecord newTtl).Every NoCascade :=
  ⟨fun _ => nofun, fun _ => ⟨fun _ => nofun, fun _ => ⟨fun _ => nofun, fun _ => trivial⟩⟩⟩

private theorem readOldRecord_held {found : Except ApiError (Option RefreshTokenRecord)}
    (unsigned : expiresAt < 2 ^ 64) (held : Held sha256Hex token userId deviceId expiresAt before)
    (success : ∀ exchange ∈ trace, exchange.outcome = .success)
    (executes : Executes Drifts (RefreshStore.readOldRecord sha256Hex token) before trace found after) :
    found = .ok (some ⟨userId, deviceId, expiresAt, false, none⟩) := by
  obtain ⟨_, _, reply, read, rfl, reading, continues⟩ := executes.of_bind
  obtain ⟨toRead, _, cached⟩ := getRefreshJson_served drifts_tolerates reading
  have here := held.drifts toRead
  rw [cached fun exchange member => success exchange (List.mem_append_left _ member)] at continues
  unfold cachedRecord at continues
  cases hit : World.lookup read (.refresh (sha256Hex token)) with
  | none =>
    rw [hit] at continues
    simp only [RefreshStore.readOldRow, database_eq, Program.call_bind, Program.done_bind] at continues
    obtain ⟨fetched, _, toFetched, _, _, answered⟩ := executes_success continues
      fun exchange member => success exchange (List.mem_append_right _ member)
    simp only [Command.answer, DbCommand.answer, (here.drifts toFetched).row,
      recordOfRow_cast unsigned] at answered
    exact answered.of_done.1
  | some raw =>
    rw [hit, here.cached raw hit] at continues
    exact continues.of_done.1

/-- The UPDATE finds the row unless the cast has made the expiry negative. -/
theorem rotationGate_held {world : World} {now : Nat} (unsigned : expiresAt < 2 ^ 64)
    (held : Held sha256Hex token userId deviceId expiresAt world) (early : now < expiresAt)
    (present : now < 2 ^ 63) :
    DbCommand.rotationGate world.db (sha256Hex token) (asI64 now) = decide (expiresAt < 2 ^ 63) := by
  simp [DbCommand.rotationGate, DbCommand.rotatable, held.row, cast_compare unsigned early present]

private theorem rotateRecordDb_held (unsigned : expiresAt < 2 ^ 64)
    (held : Held sha256Hex token userId deviceId expiresAt before)
    (success : ∀ exchange ∈ trace, exchange.outcome = .success)
    (executes : Executes Drifts (RefreshStore.rotateRecordDb sha256Hex token new newExpiresAt newTtl
      ⟨userId, deviceId, expiresAt, false, none⟩) before trace answer after)
    (early : after.second < expiresAt) (present : after.second < 2 ^ 63) :
    answer = .ok (if expiresAt < 2 ^ 63 then .rotated else .replayDetected) ∧
      (expiresAt < 2 ^ 63 → ∀ exchange ∈ trace, NoCascade exchange.command) := by
  simp only [RefreshStore.rotateRecordDb, RefreshStore.rotateRefreshTokenTx, nowUnixSecs_eq,
    database_eq, Program.call_bind, Program.done_bind] at executes
  obtain ⟨asked, _, toAsked, rfl, success, deciding⟩ := executes_success executes success
  obtain ⟨commit, _, toCommit, rfl, success, continues⟩ := executes_success deciding success
  have soon : World.second asked < expiresAt := early_before deciding early
  have now : World.second asked < 2 ^ 63 := early_before deciding present
  have gate := rotationGate_held unsigned ((held.drifts toAsked).drifts toCommit) soon now
  simp only [World.second] at gate
  by_cases small : expiresAt < 2 ^ 63
  · rw [decide_eq_true small] at gate
    simp only [Command.answer, DbCommand.answer, gate, if_true] at continues
    have ends : (RefreshStore.cacheRotation sha256Hex token new
        ⟨userId, deviceId, expiresAt, false, none⟩ ⟨sha256Hex new, userId, deviceId,
          asI64 newExpiresAt, false, none⟩ newTtl).Ends (· = .ok .rotated) := fun _ _ _ => rfl
    have quiet := continues.trace_every (cacheRotation_noCascade sha256Hex token new newTtl _ _)
    rw [if_pos small, continues.ends ends]
    refine ⟨rfl, fun _ => ?_⟩
    rw [List.forall_mem_cons, List.forall_mem_cons]
    refine ⟨?_, ?_, quiet⟩
    · rintro _ ⟨⟩
    · rintro _ ⟨⟩
  · rw [decide_eq_false small] at gate
    simp only [Command.answer, DbCommand.answer, gate, Bool.false_eq_true, if_false] at continues
    obtain ⟨_, _, _, _, _, _, finished⟩ := continues.of_bind
    rw [if_neg small, finished.of_done.1]
    exact ⟨rfl, fun less => absurd less small⟩

private theorem isSpent_accepts {elapses : World → World → Prop}
    (passes : ∀ {first second}, elapses first second → first.clock ≤ second.clock)
    {record : RefreshTokenRecord} {spent : Bool} (live : record.revoked = false)
    (early : after.second < record.expiresAt)
    (executes : Executes elapses (RefreshStore.isSpent record) before trace spent after) :
    spent = false := by
  simp only [RefreshStore.isSpent, live, Bool.false_eq_true, if_false, nowUnixSecs_eq,
    Program.call_bind, Program.done_bind] at executes
  obtain ⟨asked, _, _, _, _, continues⟩ := executes_now executes
  have soon : asked.clock / 1000 < record.expiresAt :=
    Nat.lt_of_le_of_lt (Nat.div_le_div_right (executes_clock passes continues)) early
  rw [continues.of_done.1]
  exact decide_eq_false (Nat.not_le.mpr soon)

private theorem doRotateDb_held (unsigned : expiresAt < 2 ^ 64)
    (held : Held sha256Hex token userId deviceId expiresAt before)
    (success : ∀ exchange ∈ trace, exchange.outcome = .success)
    (executes : Executes Drifts (RefreshStore.doRotateDb sha256Hex token new newExpiresAt newTtl)
      before trace answer after)
    (early : after.second < expiresAt) (present : after.second < 2 ^ 63) :
    answer = .ok (if expiresAt < 2 ^ 63 then .rotated else .replayDetected) ∧
      (expiresAt < 2 ^ 63 → ∀ exchange ∈ trace, NoCascade exchange.command) := by
  obtain ⟨_, _, found, read, rfl, reading, checking⟩ := executes.of_bind
  have toRead := reading.respects drifts_tolerates (readOldRecord_reads sha256Hex token)
  have readOnly := reading.trace_every (readOldRecord_reads sha256Hex token)
  rw [readOldRecord_held unsigned held
    (fun exchange member => success exchange (List.mem_append_left _ member)) reading] at checking
  obtain ⟨_, _, spent, checked, rfl, asking, continues⟩ := checking.of_bind
  have toChecked := asking.respects drifts_tolerates (isSpent_reads _)
  have checkOnly := asking.trace_every (isSpent_reads _)
  rw [isSpent_accepts Drifts.clock rfl (early_before continues early) asking] at continues
  obtain ⟨answered, quiet⟩ := rotateRecordDb_held unsigned ((held.drifts toRead).drifts toChecked)
    (fun exchange member => success exchange
      (List.mem_append_right _ (List.mem_append_right _ member))) continues early present
  refine ⟨answered, fun small => ?_⟩
  rw [List.forall_mem_append, List.forall_mem_append]
  exact ⟨fun exchange member => noCascade_of_reads (readOnly exchange member),
    fun exchange member => noCascade_of_reads (checkOnly exchange member), quiet small⟩

private theorem rotate_held (unsigned : expiresAt < 2 ^ 64)
    (valid : RefreshStore.validateRefreshTokenId token = .ok ())
    (held : Held sha256Hex token userId deviceId expiresAt before)
    (unlocked : before.lookup (.refreshLock (sha256Hex token)) = none)
    (success : ∀ exchange ∈ trace, exchange.outcome = .success)
    (executes : Executes Drifts (RefreshStore.rotate sha256Hex true token new newExpiresAt) before
      trace answer after) (accepted : ∀ message, answer ≠ .error (.badRequest message))
    (early : after.second < expiresAt) (lockable : acceptsTtl after.clock 5 = true) :
    answer = .ok (if expiresAt < 2 ^ 63 then .rotated else .replayDetected) ∧
      (expiresAt < 2 ^ 63 → ∀ exchange ∈ trace, NoCascade exchange.command) := by
  simp only [RefreshStore.rotate, valid] at executes
  split at executes
  · rename_i invalid
    obtain ⟨message, rfl⟩ := validateRefreshTokenId_error invalid
    exact absurd executes.of_done.1 (accepted message)
  obtain ⟨_, _, ttl, asked, rfl, asking, locking⟩ := executes.of_bind
  have toAsked := asking.respects drifts_tolerates (ttlFromExpiresAt_reads newExpiresAt)
  have askOnly := asking.trace_every (ttlFromExpiresAt_reads newExpiresAt)
  rcases ttl with refusal | newTtl
  · obtain ⟨⟨message, rfl⟩, _⟩ := ttlFromExpiresAt_refused asking
    exact absurd locking.of_done.1 (accepted message)
  simp only [RefreshStore.rotateLocked, redis_eq, Program.call_bind, Program.done_bind] at locking
  obtain ⟨free, _, toFree, rfl, success, continues⟩ := executes_success locking
    fun exchange member => success exchange (List.mem_append_right _ member)
  have here := (held.drifts toAsked).drifts toFree
  have stillFree := Drifts.absent toFree (Drifts.absent toAsked unlocked)
  have elapsed : World.clock free ≤ after.clock := by
    have later := executes_clock Drifts.clock continues
    rwa [Command.effect, RedisCommand.effect_clock] at later
  have lockable' : acceptsTtl (World.clock free) 5 = true := by
    simp only [acceptsTtl, Bool.and_eq_true, decide_eq_true_eq] at lockable ⊢
    omega
  have locked := here.lock
  simp only [Command.answer, RedisCommand.answer, lockable', if_true, RefreshStore.lockKey, stillFree,
    Option.isNone_none] at continues
  obtain ⟨_, _, result, finish, rfl, rotating, releasing⟩ := continues.of_bind
  have releaseOnly := releasing.trace_every (releaseLock_noCascade sha256Hex token result)
  simp only [RefreshStore.releaseLock, redis_eq, Program.call_bind, Program.done_bind] at releasing
  obtain ⟨_, _, _, _, rfl, done⟩ := releasing.of_call
  have soon : finish.second < expiresAt := early_before releasing early
  have now : finish.second < 2 ^ 63 := early_before releasing (by
    simp only [acceptsTtl, Bool.and_eq_true, decide_eq_true_eq] at lockable
    unfold World.second
    omega)
  obtain ⟨answered, quiet⟩ := doRotateDb_held unsigned locked
    (fun exchange member => success exchange (List.mem_append_left _ member)) rotating soon now
  rw [done.of_done.1]
  refine ⟨answered, fun small => ?_⟩
  rw [List.forall_mem_append, List.forall_mem_cons, List.forall_mem_append]
  refine ⟨fun exchange member => noCascade_of_reads (askOnly exchange member), ?_, quiet small,
    releaseOnly⟩
  rintro _ ⟨⟩

/-- The token is accepted, it is rotated, and no token is revoked along with it. -/
structure SafeExpiry (validated : Except ApiError RefreshTokenRecord)
    (rotated : Except ApiError RotationStatus) (rotation : List site.system.Exchange) : Prop where
  accepted : validated.isOk = true
  rotates : rotated = .ok .rotated
  spared : ∀ exchange ∈ rotation, NoCascade exchange.command

/-- Any time after a token was issued, and before its expiry, the token is accepted and rotated if
and only if the expiry fits the signed column. -/
theorem safe_expiry_iff (withDb : site.db = true) {token userId deviceId : String} {expiresAt : Nat}
    (unsigned : expiresAt < 2 ^ 64) {start issued now : World}
    (fresh : Fresh site.sha256Hex token start) {issuance validation rotation : List site.system.Exchange}
    (issuing : Executes Drifts (site.program (.issue token userId deviceId expiresAt)) start issuance
      (Except.ok ()) issued)
    (issuanceUp : ∀ exchange ∈ issuance, exchange.outcome = .success) (drifts : Drifts issued now)
    {validated : Except ApiError RefreshTokenRecord} {afterValidation : World}
    (validating : Executes Drifts (site.program (.validate token)) now validation validated
      afterValidation)
    (validationUp : ∀ exchange ∈ validation, exchange.outcome = .success)
    (validatedEarly : afterValidation.second < expiresAt) {new : String} {newExpiresAt : Nat}
    {rotated : Except ApiError RotationStatus} {afterRotation : World}
    (rotating : Executes Drifts (site.program (.rotate token new newExpiresAt)) now rotation rotated
      afterRotation)
    (rotationUp : ∀ exchange ∈ rotation, exchange.outcome = .success)
    (accepted : ∀ message, rotated ≠ .error (.badRequest message))
    (rotatedEarly : afterRotation.second < expiresAt)
    (lockable : acceptsTtl afterRotation.clock 5 = true) :
    SafeExpiry validated rotated rotation ↔ expiresAt < 2 ^ 63 := by
  simp only [Deployment.program, withDb] at issuing validating rotating
  obtain ⟨valid, held, unlocked⟩ := issue_held fresh issuanceUp issuing
  have here := held.drifts drifts
  obtain ⟨answered, quiet⟩ := rotate_held unsigned valid here (drifts.absent unlocked) rotationUp
    rotating accepted rotatedEarly lockable
  constructor
  · intro safe
    by_contra large
    have replayed := answered.symm.trans safe.rotates
    rw [if_neg large] at replayed
    cases replayed
  · intro small
    rw [if_pos small] at answered
    exact ⟨validate_held unsigned valid here validationUp validating validatedEarly, answered,
      quiet small⟩

def issuedUntil (expiresAt : Nat) :
    List (Sample.site true).system.Exchange × Except ApiError Unit × World :=
  Sample.served true (.issue Sample.oldToken "user_1" "device_1" expiresAt) (World.empty 1000000)

def validatedUntil (expiresAt : Nat) :
    List (Sample.site true).system.Exchange × Except ApiError RefreshTokenRecord × World :=
  Sample.served true (.validate Sample.oldToken) (issuedUntil expiresAt).2.2

def rotatedUntil (expiresAt : Nat) :
    List (Sample.site true).system.Exchange × Except ApiError RotationStatus × World :=
  Sample.served true (.rotate Sample.oldToken Sample.newToken Sample.expiry)
    (issuedUntil expiresAt).2.2

/-- The token is issued, and served while it is early and Redis can lock. -/
def IssuedUntil (expiresAt : Nat) : Prop :=
  (issuedUntil expiresAt).2.1 = .ok () ∧ (validatedUntil expiresAt).2.2.second < expiresAt ∧
    (rotatedUntil expiresAt).2.2.second < expiresAt ∧
    acceptsTtl (rotatedUntil expiresAt).2.2.clock 5 = true

instance (expiresAt : Nat) : Decidable (IssuedUntil expiresAt) := inferInstanceAs (Decidable (_ ∧ _))

/-- A token that expires beyond the signed range is accepted, and taken for a replay when it is
rotated. -/
theorem large_expiry_cascades :
    IssuedUntil (2 ^ 63 + 1) ∧ (validatedUntil (2 ^ 63 + 1)).2.1.isOk = true ∧
      (rotatedUntil (2 ^ 63 + 1)).2.1 = .ok .replayDetected ∧
      (∃ exchange ∈ (rotatedUntil (2 ^ 63 + 1)).1, ¬ NoCascade exchange.command) ∧
      ¬ SafeExpiry (validatedUntil (2 ^ 63 + 1)).2.1 (rotatedUntil (2 ^ 63 + 1)).2.1
        (rotatedUntil (2 ^ 63 + 1)).1 := by
  have issued : IssuedUntil (2 ^ 63 + 1) := by decide +kernel
  have replayed : (rotatedUntil (2 ^ 63 + 1)).2.1 = .ok .replayDetected := by decide +kernel
  have accepted : (validatedUntil (2 ^ 63 + 1)).2.1.isOk = true := by decide +kernel
  have cascades : ∃ exchange ∈ (rotatedUntil (2 ^ 63 + 1)).1,
      exchange.command = .db (.revokeAllRefreshTokensForDevice "user_1") := by decide +kernel
  refine ⟨issued, accepted, replayed, ?_, fun safe => ?_⟩
  · obtain ⟨exchange, member, cascade⟩ := cascades
    exact ⟨exchange, member, fun spared => spared _ cascade⟩
  · cases replayed.symm.trans safe.rotates

theorem century_expiry_safe :
    IssuedUntil Sample.expiry ∧
      SafeExpiry (validatedUntil Sample.expiry).2.1 (rotatedUntil Sample.expiry).2.1
        (rotatedUntil Sample.expiry).1 := by
  have issued : IssuedUntil Sample.expiry := by decide +kernel
  have rotated : (rotatedUntil Sample.expiry).2.1 = .ok .rotated := by decide +kernel
  have fresh : Fresh Sample.sha256Hex Sample.oldToken (World.empty 1000000) := ⟨rfl, rfl, rfl⟩
  have within {call : Call} {world : World} {value : call.Result}
      (answered : (Sample.served true call world).2.1 = value) :=
    (Sample.executes_served answered).mono fun first second same => (waits_of_eq first second same).drifts
  refine ⟨issued, (safe_expiry_iff rfl (by decide) fresh (within issued.1) (serveAll_outcome _ _ _) .refl
    (within rfl) (serveAll_outcome _ _ _) issued.2.1 (within rfl) (serveAll_outcome _ _ _) ?_ issued.2.2.1
    issued.2.2.2).mpr (by decide)⟩
  intro message refused
  cases rotated.symm.trans refused

end BrainMate.Gateway.ExpiryLimits
