import BrainMate.Gateway.Serving

namespace BrainMate.Gateway.RotationSuccessor

open Interleaving System

/-- The record of the hash was cached and Redis acknowledged it. -/
def Cached {site : Deployment} (trace : List site.system.Exchange) (tokenHash : String) : Prop :=
  ∃ exchange ∈ trace, (exchange.command.cachesToken tokenHash).isSome = true ∧
    acknowledged exchange.command exchange.reply = true

instance {site : Deployment} (trace : List site.system.Exchange) (tokenHash : String) :
    Decidable (Cached trace tokenHash) :=
  inferInstanceAs (Decidable (∃ exchange ∈ trace, _ ∧ _))

/-- The row of `old` is retired, and the row of `new` is a live successor with the
same identity, which a reader finds in the cache too. -/
structure ValidSuccessor (site : Deployment) (old new : String) (newExpiresAt : Nat)
    (before after : World) (trace : List site.system.Exchange) : Prop where
  retired : ∃ row, after.db.refreshTokens.find? (site.sha256Hex old) = some row ∧
    row.revoked = true ∧ row.rotatedTo = some (site.sha256Hex new)
  successor : ∃ oldRow row, before.db.refreshTokens.find? (site.sha256Hex old) = some oldRow ∧
    after.db.refreshTokens.find? (site.sha256Hex new) = some row ∧ row.revoked = false ∧
    row.userId = oldRow.userId ∧ row.deviceId = oldRow.deviceId ∧ row.expiresAt = newExpiresAt ∧
    (Cached trace (site.sha256Hex new) → ∀ value,
      after.lookup (.refresh (site.sha256Hex new)) = some value →
        value = .refresh (RefreshStore.recordOfRow row))

/-- The new hash is another one, the cached copy of `old` agrees with its row, and
the new hash has no row or the one the rotation would insert. -/
structure Inheritable (site : Deployment) (old new : String) (newExpiresAt : Nat) (world : World) :
    Prop where
  renamed : site.sha256Hex new ≠ site.sha256Hex old
  copy : ∀ record row, cachedRecord world (site.sha256Hex old) = .ok (some record) →
    world.db.refreshTokens.find? (site.sha256Hex old) = some row →
    record.userId = row.userId ∧ record.deviceId = row.deviceId
  vacant : ∀ row stored, world.db.refreshTokens.find? (site.sha256Hex old) = some row →
    world.db.refreshTokens.find? (site.sha256Hex new) = some stored →
    stored = ⟨site.sha256Hex new, row.userId, row.deviceId, newExpiresAt, false, none⟩

section

variable {site : Deployment} {elapses related : World → World → Prop}
variable {sha256Hex : String → String} {old new : String} {newExpiresAt newTtl : Nat}
variable {before after : World} {trace : List site.system.Exchange}

private theorem cacheRotation_db {oldRecord : RefreshTokenRecord} {newRecord : DbRefreshToken}
    {result : Except ApiError RotationStatus}
    (sameDb : ∀ first second, elapses first second → second.db = first.db)
    (executes : Executes elapses
      (RefreshStore.cacheRotation sha256Hex old new oldRecord newRecord newTtl) before trace
      result after) : after.db = before.db := by
  simp only [RefreshStore.cacheRotation, nowUnixSecs_eq, redis_eq, Program.call_bind,
    Program.done_bind] at executes
  obtain ⟨asked, _, _, waits, _, marking⟩ := executes_now executes
  obtain ⟨marked, mark, _, waits', _, storing⟩ := marking.of_call
  obtain ⟨stored, store, _, waits'', _, finished⟩ := storing.of_call
  obtain ⟨_, rfl, _⟩ := finished.of_done
  simp only [Command.exec_redis_db]
  rw [sameDb _ _ waits'', Command.exec_redis_db, sameDb _ _ waits', sameDb _ _ waits]

/-- The last write of a rotation, when Redis acknowledged it. -/
theorem cacheRotation_served {oldRecord : RefreshTokenRecord} {newRecord : DbRefreshToken}
    (renamed : sha256Hex new ≠ sha256Hex old)
    (executes : Executes elapses
      (RefreshStore.cacheRotation sha256Hex old new oldRecord newRecord newTtl) before trace
      (.ok .rotated) after) (cached : Cached trace (sha256Hex new)) :
    after.lookup (.refresh (sha256Hex new)) = some (.refresh
      ⟨newRecord.userId, newRecord.deviceId, asU64 newRecord.expiresAt, false, none⟩) := by
  simp only [RefreshStore.cacheRotation, RefreshStore.key, nowUnixSecs_eq, redis_eq,
    Program.call_bind, Program.done_bind] at executes
  obtain ⟨asked, answering, _, waits, rfl, marking⟩ := executes_now executes
  obtain ⟨marked, mark, _, waits', rfl, storing⟩ := marking.of_call
  obtain ⟨stored, store, _, waits'', rfl, finished⟩ := storing.of_call
  obtain ⟨_, rfl, rfl⟩ := finished.of_done
  obtain ⟨exchange, member, caches, answered⟩ := cached
  simp only [List.mem_cons, List.not_mem_nil, or_false] at member
  rcases member with rfl | rfl | rfl
  · cases caches
  · simp [Command.cachesToken, renamed.symm] at caches
  · obtain ⟨_, accepted, same⟩ := Command.setEx_answered (ok_of_isOk answered)
    simp only [same, World.lookup_stored accepted]

/-- A rotation that was answered `Rotated`: the record it read, the transaction it
committed and the entry it cached. -/
theorem rotated_served (tolerates : Tolerates site.system elapses related Harmless)
    (sameDb : ∀ first second, related first second → second.db = first.db)
    (executes : Executes elapses (RefreshStore.rotate sha256Hex true old new newExpiresAt) before
      trace (.ok .rotated) after) :
    ∃ record nowSecs, (∃ read, ReadFrom related before read (sha256Hex old) record trace) ∧
      DbCommand.rotationGate before.db (sha256Hex old) nowSecs = true ∧
      after.db.refreshTokens = DbCommand.rotateTokens before.db.refreshTokens (sha256Hex old)
        (sha256Hex new) record.userId record.deviceId (asI64 newExpiresAt) nowSecs ∧
      (sha256Hex new ≠ sha256Hex old → Cached trace (sha256Hex new) →
        ∃ written, related written after ∧
          written.lookup (.refresh (sha256Hex new)) = some (.refresh
            ⟨record.userId, record.deviceId, asU64 (asI64 newExpiresAt), false, none⟩)) := by
  obtain ⟨newTtl, start, finish, earlier, middle, last, rfl, toStart, _, rotating, toAfter,
    earlierHarmless, lastHarmless⟩ := rotate_served tolerates executes
  obtain ⟨impossible, _⟩ | ⟨record, read, checked, reading, checking, committing, rfl,
    readingHarmless, checkingHarmless, reads, checks, commits⟩ := doRotateDb_served tolerates rotating
  · cases impossible
  have reading := tolerates.restrict Reads.harmless
  have toRead := reads.respects reading (readOldRecord_reads sha256Hex old)
  have source := readOldRecord_served reading reads
  obtain ⟨toChecked, _, _⟩ := isSpent_served reading checks
  obtain ⟨deciding, commit, outcome, first, second, later, rfl, firstHarmless, secondSilent,
    _, toDeciding, toCommit, result⟩ := rotateRecordDb_served tolerates commits
  obtain ⟨impossible, _⟩ | ⟨row, answered, caching⟩ := result
  · cases impossible
  have beforeCommit : related before commit := tolerates.trans toStart (tolerates.trans toRead
    (tolerates.trans toChecked (tolerates.trans toDeciding toCommit)))
  have commitDb : commit.db = before.db := sameDb _ _ beforeCommit
  obtain ⟨rfl, gate, rfl⟩ := rotateTx_answered answered
  refine ⟨record, asI64 deciding.second, ?_, commitDb ▸ gate, ?_, ?_⟩
  · obtain ⟨asked, toAsked, fromAsked, found⟩ := source
    refine ⟨read, asked, tolerates.trans toStart toAsked, fromAsked, found.imp id ?_⟩
    exact fun ⟨missed, kept⟩ => ⟨fun success => missed fun exchange member =>
      success exchange (by simp [member]), kept⟩
  · have cachedDb := cacheRotation_db (fun _ _ waits => sameDb _ _ (tolerates.elapse waits)) caching
    rw [sameDb _ _ toAfter, cachedDb]
    simp only [Command.exec, rotationTx, Command.effect, DbCommand.effect, World.second] at gate ⊢
    rw [if_pos gate, commitDb]
  · rintro renamed ⟨exchange, member, caches, answered⟩
    refine ⟨finish, toAfter, cacheRotation_served renamed caching ?_⟩
    have silent {exchange : site.system.Exchange} (harmless : Harmless exchange.command)
        (caches : (exchange.command.cachesToken (sha256Hex new)).isSome = true) : False := by
      rw [harmless.caches_none] at caches
      cases caches
    simp only [List.mem_append, List.mem_cons] at member
    rcases member with early | (((read | check | rfl | rfl | stored) | late))
    · exact (silent (earlierHarmless _ early) caches).elim
    · exact (silent (readingHarmless _ read) caches).elim
    · exact (silent (checkingHarmless _ check) caches).elim
    · exact (silent firstHarmless caches).elim
    · rw [secondSilent] at caches
      cases caches
    · exact ⟨exchange, stored, caches, answered⟩
    · exact (silent (lastHarmless _ late) caches).elim

variable {tokens : Storage.Table DbRefreshToken String DbRefreshToken.tokenHash}
variable {oldHash newHash userId deviceId : String} {expiresAt nowSecs : Int}

private theorem rotateTokens_old {row : DbRefreshToken} (found : tokens.find? oldHash = some row)
    (live : DbCommand.rotatable oldHash nowSecs row = true) :
    (DbCommand.rotateTokens tokens oldHash newHash userId deviceId expiresAt nowSecs).find? oldHash =
      some { row with revoked := true, rotatedTo := some newHash } := by
  simp [DbCommand.rotateTokens, found, live]

/-- The row of another hash is the one that was there, or the inserted one. -/
theorem rotateTokens_new (renamed : newHash ≠ oldHash) :
    (DbCommand.rotateTokens tokens oldHash newHash userId deviceId expiresAt nowSecs).find? newHash =
      some ((tokens.find? newHash).getD ⟨newHash, userId, deviceId, expiresAt, false, none⟩) := by
  simp only [DbCommand.rotateTokens, Storage.Table.find?_insertNew,
    Storage.Table.find?_updateWhere, ↓reduceIte]
  cases found : tokens.find? newHash with
  | none => rfl
  | some row =>
    have other : row.tokenHash ≠ oldHash := (tokens.find?_key found).trans_ne renamed
    simp [DbCommand.rotatable, other]

end

section

variable {site : Deployment} {old new : String} {newExpiresAt : Nat}
variable {before after : World} {trace : List site.system.Exchange}

/-- Whatever happens to Redis meanwhile, the condition is enough. -/
theorem successor_of_inheritable (small : newExpiresAt < 2 ^ 63)
    (inheritable : Inheritable site old new newExpiresAt before)
    (executes : Executes Drifts
      (RefreshStore.rotate site.sha256Hex true old new newExpiresAt) before trace (.ok .rotated)
      after) : ValidSuccessor site old new newExpiresAt before after trace := by
  obtain ⟨record, nowSecs, source, gate, table, written⟩ :=
    rotated_served fades_tolerates (fun _ _ fades => fades.db) executes
  obtain ⟨row, found, live⟩ := (Option.any_eq_true _ _).mp gate
  have identity : record.userId = row.userId ∧ record.deviceId = row.deviceId := by
    obtain ⟨_, read, toRead, _, cached | ⟨_, stored, other, toStored, kept, rfl⟩⟩ := source
    · exact inheritable.copy record row (toRead.cachedRecord cached) found
    · rw [toStored.db, toRead.db, found] at kept
      cases kept
      exact ⟨rfl, rfl⟩
  obtain ⟨userId, deviceId⟩ := identity
  have successor : after.db.refreshTokens.find? (site.sha256Hex new) =
      some ⟨site.sha256Hex new, row.userId, row.deviceId, newExpiresAt, false, none⟩ := by
    rw [table, rotateTokens_new inheritable.renamed, userId, deviceId, asI64_of_lt small]
    cases stored : before.db.refreshTokens.find? (site.sha256Hex new) with
    | none => rfl
    | some occupant =>
      rw [inheritable.vacant row occupant found stored]
      rfl
  refine ⟨⟨_, by rw [table, rotateTokens_old found live], rfl, rfl⟩,
    ⟨row, _, found, successor, rfl, rfl, rfl, rfl, fun cached value here => ?_⟩⟩
  obtain ⟨later, toAfter, stored⟩ := written inheritable.renamed cached
  rw [toAfter.cached _ _ here] at stored
  cases stored
  rw [userId, deviceId, asI64_of_lt small]
  rfl

/-- At one instant with the stores up, nothing less will do. -/
theorem inheritable_of_successor
    (valid : ValidSuccessor site old new newExpiresAt before after trace)
    (executes : Executes Eq
      (RefreshStore.rotate site.sha256Hex true old new newExpiresAt) before trace (.ok .rotated)
      after) (success : ∀ exchange ∈ trace, exchange.outcome = .success)
    (cached : Cached trace (site.sha256Hex new)) : Inheritable site old new newExpiresAt before := by
  obtain ⟨record, nowSecs, source, gate, table, written⟩ :=
    rotated_served untouched_tolerates (fun _ _ same => same.db) executes
  obtain ⟨row, found, live⟩ := (Option.any_eq_true _ _).mp gate
  obtain ⟨_, ⟨oldRow, newRow, sameRow, stored, unrevoked, userId, deviceId, expiresAt, copied⟩⟩ := valid
  rw [found] at sameRow
  cases sameRow
  have renamed : site.sha256Hex new ≠ site.sha256Hex old := by
    intro same
    rw [same, table, rotateTokens_old found live] at stored
    cases stored
    cases unrevoked
  obtain ⟨later, toAfter, here⟩ := written renamed cached
  rw [← toAfter.lookup] at here
  have entry := copied cached _ here
  simp only [RedisValue.refresh.injEq, RefreshStore.recordOfRow,
    RefreshTokenRecord.mk.injEq] at entry
  obtain ⟨sameUser, sameDevice, _, _, noSuccessor⟩ := entry
  refine ⟨renamed, fun copy other hit same => ?_, fun other occupant same taken => ?_⟩
  · rw [found] at same
    cases same
    obtain ⟨_, read, toRead, _, cachedCopy | ⟨missed, _⟩⟩ := source
    · rw [toRead.cachedRecord, hit] at cachedCopy
      cases cachedCopy
      exact ⟨sameUser.trans userId, sameDevice.trans deviceId⟩
    · exact absurd ((toRead.cachedRecord _).trans hit) (missed success copy)
  · rw [found] at same
    cases same
    rw [table, rotateTokens_new renamed, taken, Option.getD_some] at stored
    cases stored
    have hash := before.db.refreshTokens.find?_key taken
    cases newRow
    simp only at hash unrevoked userId deviceId expiresAt noSuccessor
    simp [hash, unrevoked, userId, deviceId, expiresAt, ← noSuccessor]

end

/-- A rotation answered `Rotated` leaves a valid successor if the state it started in
is inheritable; at one instant with the stores up, exactly then. -/
theorem successor_iff_inheritable (site : Deployment) (withDb : site.db = true) (old new : String)
    (newExpiresAt : Nat) (small : newExpiresAt < 2 ^ 63) (before : World) :
    (∀ (trace : List site.system.Exchange) after,
      Executes Drifts (site.program (.rotate old new newExpiresAt)) before trace
        (Except.ok RotationStatus.rotated) after →
      Inheritable site old new newExpiresAt before →
        ValidSuccessor site old new newExpiresAt before after trace) ∧
    ∀ (trace : List site.system.Exchange) after,
      Executes Eq (site.program (.rotate old new newExpiresAt)) before trace
        (Except.ok RotationStatus.rotated) after →
      (∀ exchange ∈ trace, exchange.outcome = .success) → Cached trace (site.sha256Hex new) →
        (ValidSuccessor site old new newExpiresAt before after trace ↔
          Inheritable site old new newExpiresAt before) := by
  simp only [Deployment.program, withDb]
  refine ⟨fun trace after executes inheritable =>
    successor_of_inheritable small inheritable executes, fun trace after executes success cached => ?_⟩
  constructor
  · exact fun valid => inheritable_of_successor valid executes success cached
  · intro inheritable
    refine successor_of_inheritable small inheritable (executes.mono ?_)
    rintro world _ rfl
    exact .refl

theorem issued_token_succeeded :
    ∃ before trace after, Executes Eq
        ((Sample.site true).program (.rotate Sample.oldToken Sample.newToken Sample.expiry)) before
        trace (Except.ok RotationStatus.rotated) after ∧
      Inheritable (Sample.site true) Sample.oldToken Sample.newToken Sample.expiry before ∧
      ValidSuccessor (Sample.site true) Sample.oldToken Sample.newToken Sample.expiry before after
        trace := by
  let before := (Sample.served true
    (.issue Sample.oldToken "user_1" "device_1" Sample.expiry) (World.empty 1000000)).2.2
  let rotation := Call.rotate Sample.oldToken Sample.newToken Sample.expiry
  have executes := Sample.executes_served (show (Sample.served true rotation before).2.1 =
    .ok .rotated by decide +kernel)
  have success : ∀ exchange ∈ (Sample.served true rotation before).1,
    exchange.outcome = .success := by decide +kernel
  have cached : Cached (Sample.served true rotation before).1
    (Sample.sha256Hex Sample.newToken) := by decide +kernel
  have copy : cachedRecord before (Sample.sha256Hex Sample.oldToken) =
    .ok (some ⟨"user_1", "device_1", Sample.expiry, false, none⟩) := by decide +kernel
  have row : before.db.refreshTokens.find? (Sample.sha256Hex Sample.oldToken) =
    some ⟨Sample.sha256Hex Sample.oldToken, "user_1", "device_1", Sample.expiry, false, none⟩ := by
    decide +kernel
  have vacant : before.db.refreshTokens.find? (Sample.sha256Hex Sample.newToken) = none := by
    decide +kernel
  have inheritable : Inheritable (Sample.site true) Sample.oldToken Sample.newToken Sample.expiry
      before := by
    refine ⟨by decide, fun record stored hit found => ?_, fun _ stored _ taken => ?_⟩
    · cases copy.symm.trans hit
      cases row.symm.trans found
      exact ⟨rfl, rfl⟩
    · cases vacant.symm.trans taken
  exact ⟨before, _, _, executes, inheritable, ((successor_iff_inheritable (Sample.site true) rfl
    Sample.oldToken Sample.newToken Sample.expiry (by decide) before).2 _ _ executes success
    cached).mpr inheritable⟩

/-- The new hash already has the row of another user, which the INSERT leaves as it is. -/
theorem successor_of_another_user :
    ∃ actions, ∃ reached : (Sample.site true).system.Config,
      Run (fun _ _ => True) (.initial (World.empty 1000000)) actions reached ∧
      ∃ trace after, Executes Eq
          ((Sample.site true).program (.rotate Sample.oldToken Sample.newToken Sample.expiry))
          reached.world trace (Except.ok RotationStatus.rotated) after ∧
        ¬ ValidSuccessor (Sample.site true) Sample.oldToken Sample.newToken Sample.expiry
          reached.world after trace := by
  have evaluated : Config.runsTo (fun _ _ => True) (.initial (World.empty 1000000))
      ((Sample.site true).serve 0 (.issue Sample.oldToken "user_1" "device_1" Sample.expiry) 3 ++
        (Sample.site true).serve 1 (.issue Sample.newToken "user_2" "device_2" Sample.expiry) 3)
      (fun reached =>
        let (_, answer, after) := Sample.served true
          (.rotate Sample.oldToken Sample.newToken Sample.expiry) reached.world
        decide (answer = .ok .rotated) &&
        decide ((reached.world.db.refreshTokens.find?
          ((Sample.site true).sha256Hex Sample.oldToken)).map DbRefreshToken.userId =
            some "user_1") &&
        decide ((after.db.refreshTokens.find?
          ((Sample.site true).sha256Hex Sample.newToken)).map DbRefreshToken.userId =
            some "user_2")) = true := by
    decide +kernel
  obtain ⟨reached, run, facts⟩ := Run.of_runsTo evaluated
  simp only [Bool.and_eq_true, decide_eq_true_eq] at facts
  obtain ⟨⟨rotated, owner⟩, successor⟩ := facts
  refine ⟨_, reached, run, _, _, Sample.executes_served rotated, fun valid => ?_⟩
  obtain ⟨oldRow, newRow, found, stored, _, sameUser, _⟩ := valid.successor
  rw [found] at owner
  rw [stored] at successor
  simp only [Option.map_some, Option.some.injEq] at owner successor
  rw [owner, successor] at sameUser
  exact absurd sameUser (by decide)

end BrainMate.Gateway.RotationSuccessor
