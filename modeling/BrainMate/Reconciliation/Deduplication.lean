import BrainMate.Reconciliation.Clients
import BrainMate.Reconciliation.Execution
import Mathlib.Data.List.Basic
import Std.Data.String.ToNat

namespace BrainMate.Reconciliation

open Interleaving Gateway System

/-- Only the version of one session is known, and every user may open sessions. -/
def fresh (clock : Nat) (sessionId : String) (version : Option Nat) : World where
  clock := clock
  redis
    | .sessionVersion named =>
      if named = sessionId then version.map fun value => ⟨.counter value, none⟩ else none
    | .sessionCount _ => some ⟨.counter (-1), none⟩
    | _ => none
  db := ⟨.empty, .empty, .empty⟩

section

variable {executor : Executor} {clock : Nat} {sessionId : String} {version : Option Nat}
variable {granted : Option Grant}

theorem lookup_fresh : (fresh clock sessionId version).lookup (.sessionVersion sessionId) =
    version.map fun value => .counter value := by
  cases version <;> simp [World.lookup, fresh, RedisEntry.alive]

private theorem tokenGone_of_grant {db : Bool} {jti : Option String} {tokenExp : Option Nat}
    {world : World}
    (grants : tokenGrant jti tokenExp world.clock = some granted) :
    ∃ after, TokenGone db jti tokenExp world after := by
  rcases jti with _ | jti
  · exact ⟨world, rfl⟩
  rcases tokenExp with _ | exp
  · exact ⟨world, rfl⟩
  simp only [tokenGrant] at grants
  simp only [TokenGone, World.second]
  split at grants
  · rename_i expired
    simp [expired]
  · rename_i live
    have remaining : 0 < exp - world.clock / 1000 := Nat.pos_of_ne_zero live
    split at grants
    · rename_i accepted
      simp only [Bool.and_eq_true] at accepted
      simp only [remaining, ↓reduceIte]
      exact ⟨_, ok_of_isOk accepted.1, accepted.2, rfl⟩
    · cases grants

private theorem authRevokeSession_of_grant {sha256Hex : String → String} {db : Bool}
    {jti : Option String}
    {tokenExp : Option Nat} (valid : SessionStore.validateSessionId sessionId = .ok ())
    (grants : tokenGrant jti tokenExp clock = some granted) :
    ∃ after, Completes (Auth.revokeSession sha256Hex db sessionId jti tokenExp)
      (fresh clock sessionId version) (.ok ()) after := by
  have missing : (fresh clock sessionId version).redis (.session sessionId) = none := rfl
  obtain ⟨middle, revokes⟩ := completes_revokeSession sha256Hex db valid missing
  have same : middle.clock = clock := (revokeSession_completes revokes).2.clock
  obtain ⟨after, gone⟩ := tokenGone_of_grant (same.symm ▸ grants)
  exact ⟨after, completes_authRevokeSession.mpr ⟨middle, revokes, gone⟩⟩

private theorem recordVersion_fresh {target : Nat} :
    Completes (Nextjs.Server.recordVersion sessionId target) (fresh clock sessionId (some target))
      (.ok ()) (fresh clock sessionId (some target)) := by
  simp [Nextjs.Server.recordVersion, Nextjs.getSessionVersion, completes_get, lookup_fresh,
    Nextjs.parseVersion]

variable (version) in
private theorem server_revokeSession_of_grant {server : Nextjs.Server} {jti : Option String}
    {tokenExp named : Option Nat}
    (grants : nextjsGrant server clock (.sessionRevoke sessionId jti tokenExp named) = some granted) :
    ∃ after, Completes (server.revokeSession sessionId jti tokenExp) (fresh clock sessionId version)
      (.ok ()) after := by
  simp only [nextjsGrant] at grants
  split at grants
  · cases grants
  · rename_i reached
    simp only [completes_server_revokeSession, show reaches server = true by simpa using reached,
      true_and]
    split at grants
    · rename_i gone
      simp [gone]
    · rename_i present
      split at grants
      · rename_i valid
        simp only [present, Bool.false_eq_true, ↓reduceIte]
        exact authRevokeSession_of_grant (ok_of_isOk valid) grants
      · cases grants

/-- Nothing but its own fields keeps a session revocation from succeeding. -/
theorem sessionRevoke_of_grant {jti : Option String} {tokenExp : Option Nat}
    (grants : executor.grant clock (.sessionRevoke sessionId jti tokenExp version) = some granted) :
    ∃ after, executor.Succeeds (.sessionRevoke sessionId jti tokenExp version)
      (fresh clock sessionId version) after := by
  cases executor with
  | gateway worker =>
    simp only [Executor.grant, gatewayGrant] at grants
    split at grants
    · rename_i valid
      obtain ⟨after, completes⟩ := authRevokeSession_of_grant (ok_of_isOk valid) grants
      obtain ⟨middle, revokes, gone⟩ := completes_authRevokeSession.mp completes
      refine ⟨after, (Program.completes_andThen fun _ _ impossible => by cases impossible.1).mpr
        ⟨middle, revokes, completes_revokeToken.mpr gone⟩⟩
    · cases grants
  | nextjs server =>
    obtain ⟨configured, grants⟩ := nextjs_grant.mp grants
    simp only [executeOperation_succeeds, configured, true_and]
    obtain ⟨after, completes⟩ := server_revokeSession_of_grant version grants
    cases version with
    | none => exact ⟨after, completes⟩
    | some target =>
      exact ⟨after, (Program.completes_andThen fun _ _ impossible => by cases impossible.1).mpr
        ⟨_, recordVersion_fresh, completes⟩⟩

private theorem createSession_of_grant {sha256Hex : String → String} {db : Bool}
    {named userId : String}
    {issuedAt : Option Nat} {deviceInfo : Option String} {ttlSecs maxSessions : Nat}
    (grants : sessionGrant db maxSessions named userId ttlSecs clock = some granted) :
    ∃ after, Completes (SessionStore.createSession sha256Hex db named userId issuedAt deviceInfo
      ttlSecs maxSessions) (fresh clock sessionId version) (.ok ()) after := by
  simp only [sessionGrant] at grants
  split at grants
  · rename_i granted
    simp only [Bool.and_eq_true, Bool.not_eq_true'] at granted
    obtain ⟨⟨⟨valid, nonempty⟩, accepted⟩, room⟩ := granted
    refine completes_createSession (ok_of_isOk valid) nonempty accepted ?_ rfl rfl rfl
    rintro rfl
    simpa using room
  · cases grants

private theorem worker_syncSession_of_grant {worker : Gateway.Reconciliation.Worker}
    {named userId : String}
    {expiresAt : Nat} {expected : Option Nat} (small : expected.any (2 ^ 64 ≤ ·) = false)
    (grants : gatewayGrant worker clock (.sessionSync named userId expiresAt expected) =
      some granted) :
    ∃ after, Completes (worker.syncSession named userId expiresAt) (fresh clock sessionId version)
      (.ok ()) after := by
  simp only [gatewayGrant, small, Bool.false_eq_true, or_false] at grants
  simp only [Gateway.Reconciliation.Worker.syncSession, nowUnixSecs_eq, Program.call_bind,
    Program.done_bind, completes_now]
  split at grants
  · rename_i expired
    simp [fresh, expired]
  · rename_i live
    obtain ⟨after, completes⟩ := createSession_of_grant grants
    refine ⟨after, ?_⟩
    rw [if_neg (by simpa [fresh] using live)]
    exact Program.completes_mapError.mpr completes

/-- Nor does anything keep a session sync from it, where the version it expects is known. -/
theorem sessionSync_of_grant {named userId : String} {expiresAt : Nat} {expected : Option Nat}
    (grants : executor.grant clock (.sessionSync named userId expiresAt expected) = some granted)
    (known : expected = none ∨ named = sessionId ∧ expected = version) :
    ∃ after, executor.Succeeds (.sessionSync named userId expiresAt expected)
      (fresh clock sessionId version) after := by
  cases executor with
  | gateway worker =>
    rcases expected with _ | expected
    · exact worker_syncSession_of_grant rfl grants
    · obtain ⟨rfl, rfl⟩ := known.resolve_left (by simp)
      simp only [Executor.Succeeds, Executor.execute, Gateway.Reconciliation.Worker.execute,
        Gateway.Reconciliation.currentSessionVersion, redis_eq, Program.call_bind,
        Program.done_bind, Program.pure_eq, completes_get, lookup_fresh, Option.map_some,
        readVersion_counter]
      by_cases small : expected < 2 ^ 64
      · simp only [small, ↓reduceIte, ne_eq, not_true_eq_false]
        exact worker_syncSession_of_grant (by simpa using small) grants
      · have nonzero : 0 ≠ expected := fun zero => small (zero ▸ Nat.two_pow_pos 64)
        simp only [small, ↓reduceIte, ne_eq, nonzero, not_false_eq_true]
        exact ⟨_, rfl, rfl⟩
  | nextjs server =>
    obtain ⟨configured, grants⟩ := nextjs_grant.mp grants
    simp only [executeOperation_succeeds, configured, true_and, Nextjs.Server.dispatch,
      Nextjs.getSessionVersion, redis_eq, Program.call_bind, Program.done_bind, Program.pure_eq,
      completes_get]
    rcases expected with _ | expected
    · simp
    · obtain ⟨rfl, rfl⟩ := known.resolve_left (by simp)
      simp only [lookup_fresh, Option.map_some, Nextjs.parseVersion, Int.ofNat_eq_natCast, ne_eq,
        not_true_eq_false, ↓reduceIte, completes_server_syncSession]
      simp only [nextjsGrant] at grants
      split at grants
      · rename_i reached
        simp only [Bool.and_eq_true, bne_iff_ne, ne_eq] at reached
        obtain ⟨after, completes⟩ := createSession_of_grant grants
        exact ⟨after, reached.1, reached.2, completes⟩
      · cases grants

end

/-- `:v3` for the third version, nothing without a version. -/
def versionTag : Option Nat → List Char
  | none => []
  | some version => ':' :: 'v' :: (toString version).toList

private theorem colon_not_mem_digits (version : Nat) : ':' ∉ (toString version).toList := by
  intro member
  have listed : ':' ∈ Nat.toDigits 10 version := by simpa [toString] using member
  have digit := Nat.isDigit_of_mem_toDigits (by decide) (by decide) listed
  cases digit

/-- A text without a colon is told apart from the version behind it. -/
theorem tagged_cases {first second : List Char} {one other : Option Nat} (plain : ':' ∉ second)
    (same : first ++ versionTag one = second ++ versionTag other) :
    first = second ∧ one = other ∨ one = none ∧ ':' ∈ first := by
  rcases one with _ | one
  · rcases other with _ | other
    · exact .inl (by simpa [versionTag] using same)
    · refine .inr ⟨rfl, ?_⟩
      have longer : first = second ++ versionTag (some other) := by simpa [versionTag] using same
      simp [longer, versionTag]
  · rcases other with _ | other
    · have longer : second = first ++ versionTag (some one) := by simpa [versionTag] using same.symm
      exact absurd (by simp [longer, versionTag]) plain
    · have apart : ':' ∉ 'v' :: (toString other).toList := by
        simpa using colon_not_mem_digits other
      obtain ⟨texts, _, digits⟩ := (List.append_cons_inj_of_notMem plain apart).mp same.symm
      have numbers : toString other = toString one := String.toList_inj.mp (List.cons.inj digits).2
      exact .inl ⟨texts.symm, congrArg some (Nat.repr_injective numbers).symm⟩

theorem colon_not_mem_of_valid {sessionId : String}
    (valid : SessionStore.validateSessionId sessionId = .ok ()) : ':' ∉ sessionId.toList := by
  intro member
  unfold SessionStore.validateSessionId at valid
  split at valid
  · cases valid
  · split at valid
    · cases valid
    · rename_i allowed
      simp only [Bool.not_eq_true', Bool.not_eq_false, List.all_eq_true] at allowed
      cases allowed _ member

section

open Gateway.Reconciliation

private theorem sync_id_toList (sessionId userId : String) (expiresAt : Nat)
    (version : Option Nat) :
    (operationId (.sessionSync sessionId userId expiresAt version)).toList =
      "sync:".toList ++ (sessionId.toList ++ versionTag version) := by
  cases version <;> simp [operationId, versionTag]

private theorem logout_id_toList (sessionId : String) (jti : Option String)
    (tokenExp version : Option Nat) :
    (operationId (.sessionRevoke sessionId jti tokenExp version)).toList =
      "logout:".toList ++ (sessionId.toList ++ versionTag version) := by
  cases version <;> simp [operationId, versionTag]

def letter : ReconciliationOp → Char
  | .tokenRevocation _ _ => 'r'
  | .sessionSync _ _ _ _ => 's'
  | .sessionRevoke _ _ _ _ => 'l'
  | .dbCleanup => 'd'

/-- The kinds of operations differ in the first letters of their ids. -/
theorem id_letter (op : ReconciliationOp) : (operationId op).toList.head? = some (letter op) := by
  cases op with
  | tokenRevocation => simp [operationId, letter]
  | sessionSync => simp [sync_id_toList, letter]
  | sessionRevoke => simp [logout_id_toList, letter]
  | dbCleanup => simp [operationId, letter]

/-- What two operations with one id have in common. -/
inductive Alike : ReconciliationOp → ReconciliationOp → Prop where
  | tokenRevocation (jti : String) (ttlSecs₁ ttlSecs₂ : Nat) :
      Alike (.tokenRevocation jti ttlSecs₁) (.tokenRevocation jti ttlSecs₂)
  | sessionSync (sessionId₁ sessionId₂ userId₁ userId₂ : String) (expiresAt₁ expiresAt₂ : Nat)
      (version₁ version₂ : Option Nat)
      (tagged : sessionId₁.toList ++ versionTag version₁ = sessionId₂.toList ++ versionTag version₂) :
      Alike (.sessionSync sessionId₁ userId₁ expiresAt₁ version₁)
        (.sessionSync sessionId₂ userId₂ expiresAt₂ version₂)
  | sessionRevoke (sessionId₁ sessionId₂ : String) (jti₁ jti₂ : Option String)
      (tokenExp₁ tokenExp₂ version₁ version₂ : Option Nat)
      (tagged : sessionId₁.toList ++ versionTag version₁ = sessionId₂.toList ++ versionTag version₂) :
      Alike (.sessionRevoke sessionId₁ jti₁ tokenExp₁ version₁)
        (.sessionRevoke sessionId₂ jti₂ tokenExp₂ version₂)
  | dbCleanup : Alike .dbCleanup .dbCleanup

private theorem alike_of_same_id {first second : ReconciliationOp}
    (same : operationId first = operationId second) : Alike first second := by
  have chars := congrArg String.toList same
  have letters := congrArg List.head? chars
  rw [id_letter, id_letter] at letters
  cases first with
  | tokenRevocation jti ttlSecs =>
    cases second with
    | tokenRevocation other seconds =>
      have ids : jti = other := by simpa [operationId] using same
      subst ids
      exact .tokenRevocation ..
    | _ => cases letters
  | sessionSync =>
    cases second with
    | sessionSync =>
      rw [sync_id_toList, sync_id_toList] at chars
      exact .sessionSync _ _ _ _ _ _ _ _ (List.append_cancel_left chars)
    | _ => cases letters
  | sessionRevoke =>
    cases second with
    | sessionRevoke =>
      rw [logout_id_toList, logout_id_toList] at chars
      exact .sessionRevoke _ _ _ _ _ _ _ _ (List.append_cancel_left chars)
    | _ => cases letters
  | dbCleanup =>
    cases second with
    | dbCleanup => exact .dbCleanup
    | _ => cases letters

end

/-- The token is refused at a later instant, if nothing happens until then. -/
def blacklistedAt (db : Bool) (world : World) (clock : Nat) (jti : String) : Bool :=
  LogoutSafety.blacklisted db { world with clock := clock } jti

/-- `validate_session` accepts the session for the user at a later instant, if nothing
happens until then. -/
def activeAt (db : Bool) (world : World) (clock : Nat) (sessionId userId : String) : Bool :=
  (queue.serveAll Outcome.success (SessionStore.validateSession db sessionId userId)
    { world with clock := clock }).2.1.isOk

section

variable {db : Bool} {world after left wanted : World} {clock later limit : Nat}
variable {jti sessionId userId : String} {granted : Option Grant} {grant : Grant}

theorem blacklistedAt_eq : blacklistedAt db world later jti =
    ((world.redis (.blacklist jti)).any (·.alive later) ||
      db && (world.db.blacklist.find? jti).any fun row =>
        decide (asI64 (later / 1000) < row.expiresAt)) := by
  simp only [blacklistedAt, LogoutSafety.blacklisted, World.lookup, Option.isSome_map,
    Option.isSome_filter]
  rfl

theorem SameBlacklist.blacklistedAt (same : SameBlacklist world after) (db : Bool) (later : Nat)
    (jti : String) : blacklistedAt db after later jti = blacklistedAt db world later jti := by
  simp only [blacklistedAt_eq, same.entry, same.rows]

private theorem lt_of_acceptsTtl {clock ttlSecs : Nat}
    (accepted : acceptsTtl clock ttlSecs = true) :
    clock + ttlSecs * 1000 < 2 ^ 63 := by
  simp only [acceptsTtl, Bool.and_eq_true, decide_eq_true_eq] at accepted
  exact accepted.2

private theorem second_at_deadline {clock ttlSecs : Nat}
    (accepted : acceptsTtl clock ttlSecs = true) :
    asI64 ((clock + ttlSecs * 1000) / 1000) = (clock / 1000 + ttlSecs : Nat) := by
  have small := lt_of_acceptsTtl accepted
  rw [asI64_of_lt (by omega), Nat.add_mul_div_right clock ttlSecs (by decide)]

private theorem not_live_at_deadline {clock ttlSecs : Nat}
    (accepted : acceptsTtl clock ttlSecs = true) :
    ¬ asI64 ((clock + ttlSecs * 1000) / 1000) <
      addI64 (asI64 (clock / 1000)) (asI64 ttlSecs) := by
  have small := lt_of_acceptsTtl accepted
  rw [second_at_deadline accepted, addI64_asI64 (by omega)]
  exact Int.lt_irrefl _

/-- What was granted lasts as long as it was granted for. -/
theorem Blacklists.alive (blacklists : Blacklists (some grant) world after)
    (early : later < world.clock + grant.seconds * 1000) :
    blacklistedAt db after later grant.holder = true := by
  obtain ⟨_, recorded, same⟩ := blacklists
  rw [same.blacklistedAt]
  simp [blacklistedAt_eq, RedisEntry.alive, early]

theorem Blacklists.other (blacklists : Blacklists granted world after)
    (different : ∀ grant, granted = some grant → grant.holder ≠ jti) :
    blacklistedAt db after later jti = blacklistedAt db world later jti := by
  cases granted with
  | none => exact SameBlacklist.blacklistedAt blacklists db later jti
  | some grant =>
    obtain ⟨_, recorded, same⟩ := blacklists
    have apart := different grant rfl
    rw [same.blacklistedAt]
    cases recorded <;>
      simp [blacklistedAt_eq, apart, Ne.symm apart, Storage.Table.find?_insertNew]

private theorem blacklistedAt_fresh (version : Option Nat) :
    blacklistedAt db (fresh clock sessionId version) later jti = false := by
  simp [blacklistedAt_eq, fresh]

/-- Where nothing was before, it lasts no longer. -/
theorem Blacklists.dead (blacklists : Blacklists (some grant) world after)
    (unlisted : world.db.blacklist.find? grant.holder = none) :
    blacklistedAt db after (world.clock + grant.seconds * 1000) grant.holder = false := by
  obtain ⟨accepted, recorded, same⟩ := blacklists
  have expired := not_live_at_deadline accepted
  rw [same.blacklistedAt]
  rw [blacklistedAt_eq, withdrawn_redis, Function.update_self, withdrawn_blacklist]
  simp only [Option.any_some, RedisEntry.alive, Nat.lt_irrefl, decide_false, Bool.false_or]
  cases recorded with
  | false => simp only [Bool.false_eq_true, ↓reduceIte, unlisted, Option.any_none, Bool.and_false]
  | true =>
    simp only [↓reduceIte, Storage.Table.find?_insertNew, unlisted, World.second]
    rw [Option.getD_none, Option.any_some, decide_eq_false expired, Bool.and_false]

/-- What the cache says of the session at an instant. -/
def cachedAt (world : World) (clock : Nat) (sessionId : String) : Option SessionRecord :=
  (World.lookup { world with clock := clock } (.session sessionId)).bind
    fun raw => raw.asSession.toOption

/-- The row says that the session is the user's, and current. -/
def rowAt (world : World) (clock : Nat) (sessionId userId : String) : Prop :=
  ∃ row, world.db.sessions.find? sessionId = some row ∧ row.revoked = false ∧
    asI64 (clock / 1000) < row.expiresAt ∧ row.userId = userId

theorem serve_second {α : Type} (next : Nat → Procedure α) (world : World) :
    (queue.serveAll Outcome.success (nowUnixSecs >>= next) world).2 =
      (queue.serveAll Outcome.success (next (world.clock / 1000)) world).2 := rfl

private theorem serve_getSession {α : Type} (next : Except DbError (Option DbSession) → Procedure α)
    (world : World) :
    (queue.serveAll Outcome.success (database (.getSession sessionId) >>= next) world).2 =
      (queue.serveAll Outcome.success (next (.ok (world.db.sessions.find? sessionId))) world).2 := rfl

private theorem serve_getSessionJson {α : Type}
    (next : Except RedisLayerError (Option SessionRecord) → Procedure α) (world : World) :
    (queue.serveAll Outcome.success (SessionStore.getSessionJson (.session sessionId) >>= next)
      world).2 =
      (queue.serveAll Outcome.success
        (next (match world.lookup (.session sessionId) with
          | none => .ok none
          | some raw => raw.asSession.map some)) world).2 := by
  rw [serveAll_bind]
  simp only [SessionStore.getSessionJson, redis_eq, Program.call_bind, Program.done_bind, serveAll,
    Command.exec, Command.answer, Command.effect, RedisCommand.answer, RedisCommand.effect]
  cases world.lookup (.session sessionId) <;> rfl

private theorem serve_validateSessionDb {current : World} :
    (queue.serveAll Outcome.success (SessionStore.validateSessionDb sessionId userId)
      current).2.1.isOk = true ↔ rowAt current current.clock sessionId userId := by
  rw [SessionStore.validateSessionDb, serve_getSession, rowAt]
  cases current.db.sessions.find? sessionId with
  | none => exact iff_of_false (fun impossible => by cases impossible) fun ⟨_, found, _⟩ => by cases found
  | some row =>
    simp only [Option.some.injEq, exists_eq_left']
    cases revoked : row.revoked with
    | true =>
      simp only [↓reduceIte]
      exact iff_of_false (fun impossible => by cases impossible) fun holds => by cases holds.1
    | false =>
      simp only [Bool.false_eq_true, ↓reduceIte]
      rw [serve_second]
      generalize asI64 (current.clock / 1000) = now
      by_cases expired : row.expiresAt ≤ now
      · rw [if_pos expired]
        exact iff_of_false (fun impossible => by cases impossible)
          fun holds => Int.not_lt.mpr expired holds.2.1
      · rw [if_neg expired]
        by_cases own : row.userId = userId
        · rw [if_neg (not_not.mpr own)]
          exact iff_of_true rfl ⟨trivial, Int.not_le.mp expired, own⟩
        · rw [if_pos own]
          exact iff_of_false (fun impossible => by cases impossible) fun holds => own holds.2.2

theorem activeAt_iff : activeAt db world clock sessionId userId = true ↔
    SessionStore.validateSessionId sessionId = .ok () ∧
      match cachedAt world clock sessionId with
      | some record => record.userId = userId
      | none => db = true ∧ rowAt world clock sessionId userId := by
  unfold activeAt SessionStore.validateSession
  cases SessionStore.validateSessionId sessionId with
  | error error => simp [serveAll, Except.isOk, Except.toBool]
  | ok _ =>
    dsimp only
    rw [serve_getSessionJson, cachedAt]
    refine Iff.trans ?_ (and_iff_right rfl).symm
    have fallen : (queue.serveAll Outcome.success
        (SessionStore.validateSessionDb sessionId userId) { world with clock := clock }).2.1.isOk =
          true ↔ rowAt world clock sessionId userId := serve_validateSessionDb
    have unlisted (denied : ApiError) : (queue.serveAll Outcome.success
        (if db then SessionStore.validateSessionDb sessionId userId else .done (.error denied))
        { world with clock := clock }).2.1.isOk = true ↔
          db = true ∧ rowAt world clock sessionId userId := by
      cases db with
      | false => exact iff_of_false (fun impossible => by cases impossible) fun holds => by cases holds.1
      | true => exact fallen.trans ⟨fun holds => ⟨rfl, holds⟩, fun holds => holds.2⟩
    cases World.lookup { world with clock := clock } (.session sessionId) with
    | none => exact unlisted _
    | some raw =>
      dsimp only [Option.bind_some]
      cases raw.asSession with
      | error error => exact unlisted _
      | ok record =>
        by_cases own : record.userId = userId
        · simp only [Except.map, own, ne_eq, not_true_eq_false, ↓reduceIte]
          exact iff_of_true rfl own
        · simp only [Except.map, ne_eq, own, not_false_eq_true, ↓reduceIte]
          exact iff_of_false (fun impossible => by cases impossible) own

theorem cachedAt_stored {record : SessionRecord} {deadline : Nat}
    (stored : world.redis (.session sessionId) = some ⟨.session record, some deadline⟩) :
    cachedAt world later sessionId = if later < deadline then some record else none := by
  by_cases early : later < deadline <;>
    simp [cachedAt, World.lookup, stored, Option.filter_some, RedisEntry.alive,
      RedisValue.asSession, Except.toOption, early]

private theorem cachedAt_congr
    (same : after.redis (.session sessionId) = world.redis (.session sessionId)) :
    cachedAt after later sessionId = cachedAt world later sessionId := by
  simp only [cachedAt, World.lookup, same]

/-- The expiry of a new row. -/
theorem expiry_of_accepted {ttlSecs : Nat} (accepted : acceptsTtl clock ttlSecs = true) :
    asI64 ((clock / 1000 + ttlSecs) % 2 ^ 64) = (clock / 1000 + ttlSecs : Nat) := by
  have small := lt_of_acceptsTtl accepted
  rw [asI64_mod, asI64_of_lt (by omega)]

section

variable {first second : SessionRecord} {seconds₁ seconds₂ : Nat}

private theorem registered_row_covers
    (registered : Registered db sessionId first seconds₁ world left)
    (other : Registered db sessionId second seconds₂ world wanted) (own : first.userId = userId)
    (accepted₁ : acceptsTtl world.clock seconds₁ = true)
    (accepted₂ : acceptsTtl world.clock seconds₂ = true) (longer : seconds₂ ≤ seconds₁)
    (holds : rowAt wanted later sessionId userId) : rowAt left later sessionId userId := by
  obtain ⟨row, found, current, live, named⟩ := holds
  cases db with
  | false =>
    rw [other.row] at found
    refine ⟨row, ?_, current, live, named⟩
    rw [registered.row]
    exact found
  | true =>
    rw [other.row, if_pos rfl, Storage.Table.find?_insertNew, if_pos rfl] at found
    rw [rowAt, registered.row, if_pos rfl, Storage.Table.find?_insertNew, if_pos rfl]
    cases stored : world.db.sessions.find? sessionId with
    | some existing =>
      rw [stored] at found
      exact ⟨row, found, current, live, named⟩
    | none =>
      rw [stored] at found
      cases found
      refine ⟨_, rfl, rfl, ?_, own⟩
      dsimp only [World.second] at live ⊢
      rw [expiry_of_accepted accepted₂] at live
      rw [expiry_of_accepted accepted₁]
      exact Int.lt_of_lt_of_le live (Int.ofNat_le.mpr (Nat.add_le_add_left longer _))

/-- Registered for the same user and for longer, a session is accepted wherever it would
have been. -/
theorem registered_covers (registered : Registered db sessionId first seconds₁ world left)
    (other : Registered db sessionId second seconds₂ world wanted) (own : first.userId = userId)
    (accepted₁ : acceptsTtl world.clock seconds₁ = true)
    (accepted₂ : acceptsTtl world.clock seconds₂ = true) (longer : seconds₂ ≤ seconds₁)
    (active : activeAt db wanted later sessionId userId = true) :
    activeAt db left later sessionId userId = true := by
  obtain ⟨valid, holds⟩ := activeAt_iff.mp active
  refine activeAt_iff.mpr ⟨valid, ?_⟩
  have rows : rowAt wanted later sessionId userId → rowAt left later sessionId userId :=
    registered_row_covers registered other own accepted₁ accepted₂ longer
  cases missing : (world.lookup (.session sessionId)).isNone with
  | true =>
    have stored := registered.entry
    have wish := other.entry
    rw [if_pos missing] at stored wish
    rw [cachedAt_stored wish] at holds
    rw [cachedAt_stored stored]
    by_cases early : later < world.clock + seconds₁ * 1000
    · rw [if_pos early]
      exact own
    · have late : ¬ later < world.clock + seconds₂ * 1000 := fun before => early
        (Nat.lt_of_lt_of_le before (Nat.add_le_add_left (Nat.mul_le_mul_right 1000 longer) _))
      rw [if_neg late] at holds
      rw [if_neg early]
      exact ⟨holds.1, rows holds.2⟩
  | false =>
    have stored := registered.entry
    have wish := other.entry
    rw [if_neg (by simp [missing])] at stored wish
    rw [cachedAt_congr wish] at holds
    rw [cachedAt_congr stored]
    cases cached : cachedAt world later sessionId with
    | some record =>
      rw [cached] at holds
      exact holds
    | none =>
      rw [cached] at holds
      exact ⟨holds.1, rows holds.2⟩

end

/-- What a fresh registration leaves is accepted for its user alone, and not at its deadline. -/
theorem registered_fresh {version : Option Nat} {record : SessionRecord} {seconds : Nat}
    (registered : Registered db sessionId record seconds (fresh clock sessionId version) left)
    (accepted : acceptsTtl clock seconds = true) (bounded : later ≤ clock + seconds * 1000)
    (active : activeAt db left later sessionId userId = true) :
    record.userId = userId ∧ later < clock + seconds * 1000 := by
  have stored : left.redis (.session sessionId) =
      some ⟨.session record, some (clock + seconds * 1000)⟩ := by
    rw [registered.entry, if_pos (by simp [World.lookup, fresh])]
    rfl
  obtain ⟨_, holds⟩ := activeAt_iff.mp active
  rw [cachedAt_stored stored] at holds
  by_cases early : later < clock + seconds * 1000
  · rw [if_pos early] at holds
    exact ⟨holds, early⟩
  · rw [if_neg early] at holds
    obtain ⟨configured, row, found, _, live, _⟩ := holds
    rw [registered.row, if_pos configured, Storage.Table.find?_insertNew, if_pos rfl] at found
    cases found
    have deadline : later = clock + seconds * 1000 := Nat.le_antisymm bounded (Nat.le_of_not_lt early)
    have expiry : asI64 (((fresh clock sessionId version).second + seconds) % 2 ^ 64) =
        (clock / 1000 + seconds : Nat) := expiry_of_accepted accepted
    rw [deadline, second_at_deadline accepted] at live
    exact absurd live (by
      change ¬ _ < asI64 (((fresh clock sessionId version).second + seconds) % 2 ^ 64)
      rw [expiry]
      exact Int.lt_irrefl _)

end

/-- One execution leaves at least what the operation, executed in its place, would have
left: the token refused until the operation's expiry, the session revoked, or the session
accepted for the operation's user until its expiry. -/
def Covers (db : Bool) (clock : Nat) (op : ReconciliationOp) (left wanted : World) : Prop :=
  ∀ later, clock ≤ later →
    match op with
    | .tokenRevocation jti ttlSecs => later < clock + ttlSecs * 1000 →
        blacklistedAt db wanted later jti = true → blacklistedAt db left later jti = true
    | .sessionSync sessionId userId expiresAt _ => later < expiresAt * 1000 →
        activeAt db wanted later sessionId userId = true →
        activeAt db left later sessionId userId = true
    | .sessionRevoke sessionId jti tokenExp _ =>
        (∀ userId, activeAt db left later sessionId userId = false) ∧
        ∀ named ∈ jti, ∀ exp ∈ tokenExp, later < exp * 1000 →
          blacklistedAt db wanted later named = true → blacklistedAt db left later named = true
    | .dbCleanup => True

section

variable (executor : Executor) (pending skipped : ReconciliationOp)

/-- Whenever the pending operation is executed with success, it leaves at least what the
skipped one would leave then. -/
def PreservesEffect : Prop :=
  ∀ world left wanted, executor.Succeeds pending world left →
    executor.Succeeds skipped world wanted → Covers executor.db world.clock skipped left wanted

/-- Whatever the skipped operation grants at an instant at which both can be executed, the
pending one grants to the same holder and for as long. -/
def GrantsAsMuch : Prop :=
  ∀ clock granted wish, executor.grant clock pending = some granted →
    executor.grant clock skipped = some (some wish) →
    ∃ grant, granted = some grant ∧ grant.holder = wish.holder ∧ wish.seconds ≤ grant.seconds

end

section

variable {executor : Executor} {clock : Nat} {wish : Grant}

private theorem tokenGrant_some {jti : Option String} {tokenExp : Option Nat}
    (grants : tokenGrant jti tokenExp clock = some (some wish)) :
    jti = some wish.holder ∧ TokenBlacklist.validateTokenId wish.holder = .ok () ∧
      acceptsTtl clock wish.seconds = true ∧
      ∃ exp, tokenExp = some exp ∧ wish.seconds = exp - clock / 1000 := by
  rcases jti with _ | jti
  · cases grants
  rcases tokenExp with _ | exp
  · cases grants
  simp only [tokenGrant] at grants
  split at grants
  · cases grants
  · split at grants
    · rename_i accepted
      simp only [Bool.and_eq_true] at accepted
      cases grants
      exact ⟨rfl, ok_of_isOk accepted.1, accepted.2, exp, rfl, rfl⟩
    · cases grants

private theorem sessionGrant_some {db : Bool} {maxSessions ttlSecs : Nat}
    {sessionId userId : String}
    (grants : sessionGrant db maxSessions sessionId userId ttlSecs clock = some (some wish)) :
    SessionStore.validateSessionId sessionId = .ok () ∧ acceptsTtl clock ttlSecs = true ∧
      wish = ⟨userId, ttlSecs⟩ := by
  unfold sessionGrant at grants
  split at grants
  · rename_i accepted
    simp only [Bool.and_eq_true] at accepted
    cases grants
    exact ⟨ok_of_isOk accepted.1.1.1, accepted.1.2, rfl⟩
  · cases grants

private theorem tokenGrant_silent {jti : String} {exp : Nat}
    (grants : tokenGrant (some jti) (some exp) clock = some none) : exp ≤ clock / 1000 := by
  simp only [tokenGrant] at grants
  split at grants
  · rename_i expired
    exact Nat.le_of_sub_eq_zero expired
  · split at grants <;> cases grants

/-- What a session revocation grants, it grants to its token until its expiry. -/
theorem sessionRevoke_grant {sessionId : String} {jti : Option String}
    {tokenExp version : Option Nat}
    (grants : executor.grant clock (.sessionRevoke sessionId jti tokenExp version) =
      some (some wish)) :
    executor.vanishes sessionId = false ∧ jti = some wish.holder ∧
      TokenBlacklist.validateTokenId wish.holder = .ok () ∧ acceptsTtl clock wish.seconds = true ∧
      ∃ exp, tokenExp = some exp ∧ wish.seconds = exp - clock / 1000 := by
  cases executor with
  | gateway worker =>
    simp only [Executor.grant, gatewayGrant] at grants
    split at grants
    · exact ⟨rfl, tokenGrant_some grants⟩
    · cases grants
  | nextjs server =>
    obtain ⟨_, grants⟩ := nextjs_grant.mp grants
    simp only [nextjsGrant] at grants
    split at grants
    · cases grants
    · split at grants
      · cases grants
      · rename_i present
        split at grants
        · obtain ⟨named, valid, accepted, exp, expires, seconds⟩ := tokenGrant_some grants
          exact ⟨by simpa [Executor.vanishes] using present, (Option.filter_eq_some_iff.mp named).1,
            valid, accepted, exp, (Option.filter_eq_some_iff.mp expires).1, seconds⟩
        · cases grants

/-- It grants nothing to a token that has expired, to none, or when the request names no
session. -/
theorem sessionRevoke_silent {sessionId named : String} {exp : Nat} {version : Option Nat}
    (grants : executor.grant clock (.sessionRevoke sessionId (some named) (some exp) version) =
      some none) : exp ≤ clock / 1000 ∨ named = "" ∨ executor.vanishes sessionId = true := by
  cases executor with
  | gateway worker =>
    simp only [Executor.grant, gatewayGrant] at grants
    split at grants
    · exact .inl (tokenGrant_silent grants)
    · cases grants
  | nextjs server =>
    obtain ⟨_, grants⟩ := nextjs_grant.mp grants
    simp only [nextjsGrant] at grants
    split at grants
    · cases grants
    · split at grants
      · rename_i gone
        exact .inr (.inr gone)
      · split at grants
        · by_cases empty : named = ""
          · exact .inr (.inl empty)
          by_cases zero : exp = 0
          · exact .inl (zero ▸ Nat.zero_le _)
          rw [Option.filter_some, if_pos (by simpa using empty), Option.filter_some,
            if_pos (by simpa using zero)] at grants
          exact .inl (tokenGrant_silent grants)
        · cases grants

private theorem vanishes_silent {sessionId : String} {jti : Option String}
    {tokenExp version : Option Nat}
    (gone : executor.vanishes sessionId = true) {granted : Option Grant}
    (grants : executor.grant clock (.sessionRevoke sessionId jti tokenExp version) = some granted) :
    granted = none := by
  cases granted with
  | none => rfl
  | some wish =>
    rw [(sessionRevoke_grant grants).1] at gone
    cases gone

/-- What a sync grants, it grants to its user, for no longer than until its expiry. -/
theorem sessionSync_grant {sessionId userId : String} {expiresAt : Nat} {version : Option Nat}
    (grants : executor.grant clock (.sessionSync sessionId userId expiresAt version) =
      some (some wish)) :
    SessionStore.validateSessionId sessionId = .ok () ∧ wish.holder = userId ∧
      acceptsTtl clock wish.seconds = true ∧ wish.seconds ≤ expiresAt - clock / 1000 := by
  cases executor with
  | gateway worker =>
    simp only [Executor.grant, gatewayGrant] at grants
    split at grants
    · cases grants
    · obtain ⟨valid, accepted, rfl⟩ := sessionGrant_some grants
      exact ⟨valid, rfl, accepted, Nat.min_le_left _ _⟩
  | nextjs server =>
    obtain ⟨_, grants⟩ := nextjs_grant.mp grants
    cases version with
    | none => cases grants
    | some version =>
      simp only [nextjsGrant] at grants
      split at grants
      · obtain ⟨valid, accepted, rfl⟩ := sessionGrant_some grants
        exact ⟨valid, rfl, accepted, Nat.min_le_left _ _⟩
      · cases grants

/-- Where a sync that is current grants nothing, no sync of the session grants anything, or
it has expired. -/
theorem sessionSync_silent {world : World} {sessionId userId : String} {expiresAt : Nat}
    {version : Option Nat} (current : executor.Current sessionId version world)
    (grants : executor.grant clock (.sessionSync sessionId userId expiresAt version) = some none)
    (other owner : String) (expiry : Nat) (expected : Option Nat) :
    expiresAt ≤ clock / 1000 ∨
      ∀ wish, executor.grant clock (.sessionSync other owner expiry expected) ≠ some (some wish) := by
  cases executor with
  | gateway worker =>
    simp only [Executor.grant, gatewayGrant] at grants ⊢
    split at grants
    · rename_i silent
      rcases silent with unlasting | large
      · rcases Nat.min_eq_zero_iff.mp unlasting with expired | brief
        · exact .inl (Nat.le_of_sub_eq_zero expired)
        · exact .inr fun wish => by simp [brief]
      · obtain ⟨expected, rfl, large⟩ := (Option.any_eq_true _ _).mp large
        have read := current expected rfl
        exact absurd (of_decide_eq_true large) (Nat.not_le_of_lt (read ▸ readVersion_lt _))
    · unfold sessionGrant at grants
      split at grants <;> cases grants
  | nextjs server =>
    obtain ⟨_, grants⟩ := nextjs_grant.mp grants
    cases version with
    | none => cases current
    | some version =>
      simp only [nextjsGrant] at grants
      split at grants
      · unfold sessionGrant at grants
        split at grants <;> cases grants
      · cases grants

end

section

variable {executor : Executor}

/-- A sync that is not current writes nothing, and would not grant more than its twin. -/
theorem stale_sync_covers {sessionId₁ sessionId₂ userId₁ userId₂ : String}
    {expiresAt₁ expiresAt₂ : Nat} {version₁ version₂ : Option Nat} {world : World} {wish : Grant}
    (tagged : sessionId₁.toList ++ versionTag version₁ = sessionId₂.toList ++ versionTag version₂)
    (valid : SessionStore.validateSessionId sessionId₂ = .ok ())
    (much : GrantsAsMuch executor (.sessionSync sessionId₁ userId₁ expiresAt₁ version₁)
      (.sessionSync sessionId₂ userId₂ expiresAt₂ version₂))
    (stale : ¬ executor.Current sessionId₁ version₁ world)
    (current : executor.Current sessionId₂ version₂ world) :
    executor.grant world.clock (.sessionSync sessionId₂ userId₂ expiresAt₂ version₂) ≠
      some (some wish) := by
  intro grants
  rcases tagged_cases (colon_not_mem_of_valid valid) tagged with ⟨same, rfl⟩ | ⟨rfl, _⟩
  · cases String.toList_inj.mp same
    exact stale current
  · cases executor with
    | gateway worker => exact stale nofun
    | nextjs server =>
      obtain ⟨configured, _⟩ := nextjs_grant.mp grants
      obtain ⟨_, impossible, _⟩ :=
        much world.clock none wish (nextjs_grant.mpr ⟨configured, rfl⟩) grants
      cases impossible

private theorem sync_preserved {sessionId₁ sessionId₂ userId₁ userId₂ : String}
    {expiresAt₁ expiresAt₂ : Nat} {version₁ version₂ : Option Nat}
    (tagged : sessionId₁.toList ++ versionTag version₁ = sessionId₂.toList ++ versionTag version₂)
    (much : GrantsAsMuch executor (.sessionSync sessionId₁ userId₁ expiresAt₁ version₁)
      (.sessionSync sessionId₂ userId₂ expiresAt₂ version₂)) :
    PreservesEffect executor (.sessionSync sessionId₁ userId₁ expiresAt₁ version₁)
      (.sessionSync sessionId₂ userId₂ expiresAt₂ version₂) := by
  intro world left wanted first second later late early active
  have valid := (activeAt_iff.mp active).1
  have one_session (valid₁ : SessionStore.validateSessionId sessionId₁ = .ok ()) :
      sessionId₁ = sessionId₂ ∧ version₁ = version₂ := by
    rcases tagged_cases (colon_not_mem_of_valid valid) tagged with ⟨same, versions⟩ | ⟨_, colon⟩
    · exact ⟨String.toList_inj.mp same, versions⟩
    · exact absurd colon (colon_not_mem_of_valid valid₁)
  rcases succeeds_sessionSync second with ⟨stale₂, rfl⟩ | ⟨current₂, synced₂⟩
  · rcases succeeds_sessionSync first with ⟨_, rfl⟩ | ⟨current₁, synced₁⟩
    · exact active
    · cases synced₁ with
      | unchanged => exact active
      | registered _ _ _ _ _ valid₁ =>
        obtain ⟨rfl, rfl⟩ := one_session valid₁
        exact absurd current₁ stale₂
  · cases synced₂ with
    | unchanged granted₂ =>
      rcases succeeds_sessionSync first with ⟨_, rfl⟩ | ⟨_, synced₁⟩
      · exact active
      · cases synced₁ with
        | unchanged => exact active
        | registered _ _ _ granted₁ =>
          rcases sessionSync_silent current₂ granted₂ sessionId₁ userId₁ expiresAt₁ version₁ with
            expired | silent
          · omega
          · exact absurd granted₁ (silent _)
    | registered record₂ seconds₂ _ granted₂ own₂ valid₂ registered₂ =>
      rcases succeeds_sessionSync first with ⟨stale₁, _⟩ | ⟨_, synced₁⟩
      · exact absurd granted₂ (stale_sync_covers tagged valid much stale₁ current₂)
      · cases synced₁ with
        | unchanged granted₁ =>
          obtain ⟨_, impossible, _⟩ := much _ _ _ granted₁ granted₂
          cases impossible
        | registered record₁ seconds₁ _ granted₁ own₁ valid₁ registered₁ =>
          obtain ⟨grant, granted, holder, longer⟩ := much _ _ _ granted₁ granted₂
          cases granted
          obtain ⟨rfl, rfl⟩ := one_session valid₁
          exact registered_covers registered₁ registered₂ (own₁.trans holder)
            (sessionSync_grant granted₁).2.2.1 (sessionSync_grant granted₂).2.2.1 longer active

private theorem token_preserved {jti : String} {ttlSecs₁ ttlSecs₂ : Nat}
    (much : GrantsAsMuch executor (.tokenRevocation jti ttlSecs₁) (.tokenRevocation jti ttlSecs₂)) :
    PreservesEffect executor (.tokenRevocation jti ttlSecs₁) (.tokenRevocation jti ttlSecs₂) := by
  intro world left wanted first second later late early _
  obtain ⟨granted₁, grants₁, blacklists₁, _⟩ := succeeds_tokenRevocation first
  obtain ⟨granted₂, grants₂, _, ⟨_, rfl⟩ | rfl⟩ := succeeds_tokenRevocation second
  · omega
  · obtain ⟨grant, rfl, rfl, longer⟩ := much _ _ _ grants₁ grants₂
    exact blacklists₁.alive (Nat.lt_of_lt_of_le early
      (Nat.add_le_add_left (Nat.mul_le_mul_right 1000 longer) _))

private theorem vanishes_cases {sessionId : String} (gone : executor.vanishes sessionId = true) :
    sessionId = "" ∨ sessionId = "." ∨ sessionId = ".." := by
  cases executor with
  | gateway worker => cases gone
  | nextjs server => simpa [Executor.vanishes, Nextjs.vanishes, or_assoc] using gone

private theorem revoked_not_active {db : Bool} {sessionId userId : String} {left : World}
    {later : Nat}
    (gone : executor.vanishes sessionId = true ∨
      SessionStore.validateSessionId sessionId = .ok () ∧ Inactive db sessionId left) :
    activeAt db left later sessionId userId = false := by
  refine Bool.eq_false_iff.mpr fun active => ?_
  obtain ⟨valid, holds⟩ := activeAt_iff.mp active
  rcases gone with unnamed | ⟨_, inactive⟩
  · rcases vanishes_cases unnamed with rfl | rfl | rfl <;> cases valid
  · have uncached : cachedAt left later sessionId = none := by
      simp [cachedAt, World.lookup, inactive.entry]
    rw [uncached] at holds
    obtain ⟨configured, row, found, current, _⟩ := holds
    rw [inactive.row configured row found] at current
    cases current

private theorem revoke_preserved {sessionId₁ sessionId₂ : String} {jti₁ jti₂ : Option String}
    {tokenExp₁ tokenExp₂ version₁ version₂ : Option Nat}
    (tagged : sessionId₁.toList ++ versionTag version₁ = sessionId₂.toList ++ versionTag version₂)
    (much : GrantsAsMuch executor (.sessionRevoke sessionId₁ jti₁ tokenExp₁ version₁)
      (.sessionRevoke sessionId₂ jti₂ tokenExp₂ version₂)) :
    PreservesEffect executor (.sessionRevoke sessionId₁ jti₁ tokenExp₁ version₁)
      (.sessionRevoke sessionId₂ jti₂ tokenExp₂ version₂) := by
  intro world left wanted first second later late
  obtain ⟨gone₁, granted₁, grants₁, blacklists₁⟩ := succeeds_sessionRevoke first
  obtain ⟨gone₂, granted₂, grants₂, blacklists₂⟩ := succeeds_sessionRevoke second
  have plain {sessionId : String} {db : Bool} {after : World} (gone : executor.vanishes sessionId = true ∨
      SessionStore.validateSessionId sessionId = .ok () ∧ Inactive db sessionId after) :
      ':' ∉ sessionId.toList := by
    rcases gone with unnamed | ⟨valid, _⟩
    · rcases vanishes_cases unnamed with rfl | rfl | rfl <;> decide
    · exact colon_not_mem_of_valid valid
  rcases tagged_cases (plain gone₂) tagged with ⟨same, rfl⟩ | ⟨_, colon⟩
  case inr => exact absurd colon (plain gone₁)
  cases String.toList_inj.mp same
  refine ⟨fun userId => revoked_not_active gone₁, ?_⟩
  rintro named present exp expires early listed
  rw [Option.mem_def] at present expires
  subst present expires
  cases granted₂ with
  | some wish =>
    obtain ⟨grant, rfl, holder, longer⟩ := much _ _ _ grants₁ grants₂
    obtain ⟨_, own, _, _, expiry, expires, seconds⟩ := sessionRevoke_grant grants₂
    cases own
    cases expires
    rw [← holder]
    exact blacklists₁.alive (by omega)
  | none =>
    have unchanged : blacklistedAt executor.db wanted later named =
        blacklistedAt executor.db world later named :=
      SameBlacklist.blacklistedAt blacklists₂ executor.db later named
    rcases sessionRevoke_silent grants₂ with expired | empty | unnamed
    · omega
    · rw [blacklists₁.other, ← unchanged, listed]
      rintro grant rfl
      have valid := (sessionRevoke_grant grants₁).2.2.1
      rintro rfl
      rw [empty] at valid
      cases valid
    · cases vanishes_silent unnamed grants₁
      rw [SameBlacklist.blacklistedAt blacklists₁, ← unchanged, listed]

theorem pos_of_acceptsTtl {clock ttlSecs : Nat} (accepted : acceptsTtl clock ttlSecs = true) :
    0 < ttlSecs := by
  simp only [acceptsTtl, Bool.and_eq_true, decide_eq_true_eq] at accepted
  exact accepted.1

section

variable {clock limit : Nat} {sessionId : String} {version : Option Nat} {left wanted : World}
variable {wish : Grant} {granted : Option Grant} {db : Bool}

-- Offsets by a literal are compared successor by successor.
set_option maxRecDepth 4096 in
private theorem before_limit {shorter longer : Nat} (room : clock + longer * 1000 < limit + 1000)
    (less : shorter < longer) :
    clock + shorter * 1000 < clock + longer * 1000 ∧ clock + shorter * 1000 < limit := by
  omega

set_option maxRecDepth 4096 in
/-- The seconds left until an expiry end less than a second after it. -/
theorem room_until {seconds expiresAt : Nat} (positive : 0 < seconds)
    (remaining : seconds ≤ expiresAt - clock / 1000) :
    clock < expiresAt * 1000 ∧ clock + seconds * 1000 < expiresAt * 1000 + 1000 := by
  omega

variable (limit) in
private theorem blacklists_as_much
    (blacklists : Blacklists granted (fresh clock sessionId version) left)
    (wished : Blacklists (some wish) (fresh clock sessionId version) wanted)
    (room : clock + wish.seconds * 1000 < limit + 1000)
    (kept : ∀ later, clock ≤ later → later < limit →
      blacklistedAt db wanted later wish.holder = true →
      blacklistedAt db left later wish.holder = true) :
    ∃ grant, granted = some grant ∧ grant.holder = wish.holder ∧ wish.seconds ≤ grant.seconds := by
  have positive := pos_of_acceptsTtl wished.1
  have alive (later : Nat) (early : later < clock + wish.seconds * 1000) :
      blacklistedAt db wanted later wish.holder = true := wished.alive early
  have listed := kept clock (Nat.le_refl _) (by omega) (alive _ (by omega))
  by_cases different : ∀ grant, granted = some grant → grant.holder ≠ wish.holder
  · rw [blacklists.other different, blacklistedAt_fresh] at listed
    cases listed
  · simp only [not_forall, not_not] at different
    obtain ⟨grant, rfl, same⟩ := different
    refine ⟨grant, rfl, same, Nat.le_of_not_lt fun shorter => ?_⟩
    obtain ⟨sooner, within⟩ := before_limit room shorter
    have deadline := kept _ (Nat.le_add_right _ _) within (alive _ sooner)
    have dead : blacklistedAt db left (clock + grant.seconds * 1000) grant.holder = false :=
      blacklists.dead rfl
    rw [← same, dead] at deadline
    cases deadline

private theorem fresh_not_active (other userId : String) (later : Nat) :
    activeAt db (fresh clock sessionId version) later other userId = false := by
  refine Bool.eq_false_iff.mpr fun active => ?_
  obtain ⟨_, holds⟩ := activeAt_iff.mp active
  have uncached : cachedAt (fresh clock sessionId version) later other = none := by
    simp [cachedAt, World.lookup, fresh]
  rw [uncached] at holds
  obtain ⟨_, row, found, _⟩ := holds
  cases found

private theorem current_fresh {userId : String} {expiresAt : Nat}
    (grants : executor.grant clock (.sessionSync sessionId userId expiresAt version) =
      some (some wish)) : executor.Current sessionId version (fresh clock sessionId version) := by
  cases executor with
  | gateway worker =>
    rintro expected known
    rw [Option.mem_def] at known
    subst known
    simp only [Executor.grant, gatewayGrant] at grants
    split at grants
    · cases grants
    · rename_i sized
      have small : expected < 2 ^ 64 := by simpa using (not_or.mp sized).2
      rw [lookup_fresh, Option.map_some, readVersion_counter, if_pos small]
  | nextjs server =>
    obtain ⟨_, grants⟩ := nextjs_grant.mp grants
    cases version with
    | none => cases grants
    | some expected => simp [Executor.Current, lookup_fresh, Nextjs.parseVersion]

private theorem fresh_registration_active {record : SessionRecord} {seconds later : Nat}
    (registered : Registered db sessionId record seconds (fresh clock sessionId version) wanted)
    (valid : SessionStore.validateSessionId sessionId = .ok ())
    (early : later < clock + seconds * 1000) :
    activeAt db wanted later sessionId record.userId = true := by
  have stored : wanted.redis (.session sessionId) =
      some ⟨.session record, some (clock + seconds * 1000)⟩ := by
    rw [registered.entry, if_pos (by simp [World.lookup, fresh])]
    rfl
  refine activeAt_iff.mpr ⟨valid, ?_⟩
  rw [cachedAt_stored stored, if_pos early]

private theorem token_grants_as_much {jti : String} {ttlSecs₁ ttlSecs₂ : Nat}
    (preserves : PreservesEffect executor (.tokenRevocation jti ttlSecs₁)
      (.tokenRevocation jti ttlSecs₂)) :
    GrantsAsMuch executor (.tokenRevocation jti ttlSecs₁) (.tokenRevocation jti ttlSecs₂) := by
  intro clock granted wish grants₁ grants₂
  obtain ⟨left, first⟩ := grant_tokenRevocation grants₁ (show (fresh clock "" none).clock = clock from rfl)
  obtain ⟨wanted, second⟩ := grant_tokenRevocation grants₂ (show (fresh clock "" none).clock = clock from rfl)
  obtain ⟨granted₁, same₁, blacklists₁, _⟩ := succeeds_tokenRevocation first
  obtain ⟨granted₂, same₂, blacklists₂, shape⟩ := succeeds_tokenRevocation second
  cases grants₁.symm.trans same₁
  cases grants₂.symm.trans same₂
  rcases shape with ⟨impossible, _⟩ | shape
  · cases impossible
  · cases shape
    exact blacklists_as_much _ blacklists₁ blacklists₂ (Nat.lt_add_of_pos_right (by decide))
      fun later late early => preserves _ left wanted first second later late early

private theorem sessionRevoke_plain {jti : Option String} {tokenExp : Option Nat}
    (grants : executor.grant clock (.sessionRevoke sessionId jti tokenExp version) = some granted) :
    ':' ∉ sessionId.toList := by
  have vanishing (gone : executor.vanishes sessionId = true) : ':' ∉ sessionId.toList := by
    rcases vanishes_cases gone with rfl | rfl | rfl <;> decide
  cases executor with
  | gateway worker =>
    simp only [Executor.grant, gatewayGrant] at grants
    split at grants
    · rename_i valid
      exact colon_not_mem_of_valid (ok_of_isOk valid)
    · cases grants
  | nextjs server =>
    obtain ⟨_, grants⟩ := nextjs_grant.mp grants
    simp only [nextjsGrant] at grants
    split at grants
    · cases grants
    · split at grants
      · rename_i gone
        exact vanishing gone
      · split at grants
        · rename_i valid
          exact colon_not_mem_of_valid (ok_of_isOk valid)
        · cases grants

private theorem revoke_grants_as_much {sessionId₁ sessionId₂ : String} {jti₁ jti₂ : Option String}
    {tokenExp₁ tokenExp₂ version₁ version₂ : Option Nat}
    (tagged : sessionId₁.toList ++ versionTag version₁ = sessionId₂.toList ++ versionTag version₂)
    (preserves : PreservesEffect executor (.sessionRevoke sessionId₁ jti₁ tokenExp₁ version₁)
      (.sessionRevoke sessionId₂ jti₂ tokenExp₂ version₂)) :
    GrantsAsMuch executor (.sessionRevoke sessionId₁ jti₁ tokenExp₁ version₁)
      (.sessionRevoke sessionId₂ jti₂ tokenExp₂ version₂) := by
  intro clock granted wish grants₁ grants₂
  rcases tagged_cases (sessionRevoke_plain grants₂) tagged with ⟨same, rfl⟩ | ⟨_, colon⟩
  case inr => exact absurd colon (sessionRevoke_plain grants₁)
  cases String.toList_inj.mp same
  obtain ⟨left, first⟩ := sessionRevoke_of_grant grants₁
  obtain ⟨wanted, second⟩ := sessionRevoke_of_grant grants₂
  obtain ⟨_, granted₁, same₁, blacklists₁⟩ := succeeds_sessionRevoke first
  obtain ⟨_, granted₂, same₂, blacklists₂⟩ := succeeds_sessionRevoke second
  cases grants₁.symm.trans same₁
  cases grants₂.symm.trans same₂
  obtain ⟨_, named, _, accepted, exp, expires, seconds⟩ := sessionRevoke_grant grants₂
  exact blacklists_as_much (exp * 1000) blacklists₁ blacklists₂
    (room_until (pos_of_acceptsTtl accepted) (Nat.le_of_eq seconds)).2 fun later late early =>
      (preserves _ left wanted first second later late).2 _ named _ expires early

private theorem sync_grants_as_much {sessionId₁ sessionId₂ userId₁ userId₂ : String}
    {expiresAt₁ expiresAt₂ : Nat} {version₁ version₂ : Option Nat}
    (tagged : sessionId₁.toList ++ versionTag version₁ = sessionId₂.toList ++ versionTag version₂)
    (preserves : PreservesEffect executor (.sessionSync sessionId₁ userId₁ expiresAt₁ version₁)
      (.sessionSync sessionId₂ userId₂ expiresAt₂ version₂)) :
    GrantsAsMuch executor (.sessionSync sessionId₁ userId₁ expiresAt₁ version₁)
      (.sessionSync sessionId₂ userId₂ expiresAt₂ version₂) := by
  intro clock granted wish grants₁ grants₂
  obtain ⟨valid, holder, accepted, brief⟩ := sessionSync_grant grants₂
  obtain ⟨current, room⟩ := room_until (pos_of_acceptsTtl accepted) brief
  have known : version₁ = none ∨ sessionId₁ = sessionId₂ ∧ version₁ = version₂ := by
    rcases tagged_cases (colon_not_mem_of_valid valid) tagged with ⟨same, versions⟩ | ⟨unknown, _⟩
    · exact .inr ⟨String.toList_inj.mp same, versions⟩
    · exact .inl unknown
  obtain ⟨left, first⟩ := sessionSync_of_grant grants₁ known
  obtain ⟨wanted, second⟩ := sessionSync_of_grant grants₂ (.inr ⟨rfl, rfl⟩)
  rcases succeeds_sessionSync second with ⟨stale, _⟩ | ⟨_, synced₂⟩
  · exact absurd (current_fresh grants₂) stale
  cases synced₂ with
  | unchanged granted₂ => cases grants₂.symm.trans granted₂
  | registered record₂ seconds₂ _ granted₂ own₂ _ registered₂ =>
    cases grants₂.symm.trans granted₂
    have kept (later : Nat) (late : clock ≤ later) (early : later < expiresAt₂ * 1000)
        (sooner : later < clock + seconds₂ * 1000) :
        activeAt executor.db left later sessionId₂ userId₂ = true :=
      preserves _ left wanted first second later late early
        (own₂ ▸ fresh_registration_active registered₂ valid sooner)
    have begun : clock < clock + seconds₂ * 1000 :=
      Nat.lt_add_of_pos_right (Nat.mul_pos (pos_of_acceptsTtl accepted) (by decide))
    have active := kept clock (Nat.le_refl _) current begun
    rcases succeeds_sessionSync first with ⟨_, rfl⟩ | ⟨_, synced₁⟩
    · rw [fresh_not_active] at active
      cases active
    cases synced₁ with
    | unchanged =>
      rw [fresh_not_active] at active
      cases active
    | registered record₁ seconds₁ _ granted₁ own₁ valid₁ registered₁ =>
      cases grants₁.symm.trans granted₁
      rcases tagged_cases (colon_not_mem_of_valid valid) tagged with ⟨same, rfl⟩ | ⟨_, colon⟩
      case inr => exact absurd colon (colon_not_mem_of_valid valid₁)
      cases String.toList_inj.mp same
      have accepted₁ := (sessionSync_grant granted₁).2.2.1
      have owner := (registered_fresh registered₁ accepted₁ (Nat.le_add_right _ _) active).1
      refine ⟨_, rfl, own₁.symm.trans owner, Nat.le_of_not_lt fun shorter => ?_⟩
      obtain ⟨sooner, within⟩ := before_limit room shorter
      have deadline := kept _ (Nat.le_add_right _ _) within sooner
      exact absurd (registered_fresh registered₁ accepted₁ (Nat.le_refl _) deadline).2
        (Nat.lt_irrefl _)

end

end

/-- Of two operations with one id, executing the pending one keeps the effect of the skipped
one exactly when it grants as much. -/
theorem effect_preserved_iff (executor : Executor) {pending skipped : ReconciliationOp}
    (same : Gateway.Reconciliation.operationId pending =
      Gateway.Reconciliation.operationId skipped) :
    PreservesEffect executor pending skipped ↔ GrantsAsMuch executor pending skipped := by
  cases alike_of_same_id same with
  | tokenRevocation => exact ⟨token_grants_as_much, token_preserved⟩
  | sessionSync _ _ _ _ _ _ _ _ tagged =>
    exact ⟨sync_grants_as_much tagged, sync_preserved tagged⟩
  | sessionRevoke _ _ _ _ _ _ _ _ tagged =>
    exact ⟨revoke_grants_as_much tagged, revoke_preserved tagged⟩
  | dbCleanup =>
    refine iff_of_true (fun _ _ _ _ _ _ _ => trivial) fun clock granted wish _ grants => ?_
    cases executor with
    | gateway worker => cases grants
    | nextjs server => cases (nextjs_grant.mp grants).2

section

open Gateway.Reconciliation

def sampleExecutor : Executor := .gateway ⟨Sample.sha256Hex, true, 86400, 5, "worker:1"⟩

def firstLogout : ReconciliationOp := .sessionRevoke "sid_1" (some "jti_1") (some 2000) none

def secondLogout : ReconciliationOp := .sessionRevoke "sid_1" (some "jti_2") (some 2000) none

private theorem grants_as_much_of_le {executor : Executor} {jti : String} {longer shorter : Nat}
    (lasts : shorter ≤ longer) :
    GrantsAsMuch executor (.tokenRevocation jti longer) (.tokenRevocation jti shorter) := by
  intro clock granted wish grants₁ grants₂
  cases executor with
  | gateway worker =>
    simp only [Executor.grant, gatewayGrant] at grants₁ grants₂
    split at grants₁
    · split at grants₂
      · cases grants₁
        cases grants₂
        exact ⟨_, rfl, rfl, lasts⟩
      · cases grants₂
    · cases grants₁
  | nextjs server =>
    replace grants₁ := (nextjs_grant.mp grants₁).2
    replace grants₂ := (nextjs_grant.mp grants₂).2
    simp only [nextjsGrant] at grants₁ grants₂
    split at grants₂
    · cases grants₂
    · rename_i lasting
      have lasting₁ : longer ≠ 0 := fun zero => lasting (Nat.le_zero.mp (zero ▸ lasts))
      rw [if_neg lasting₁] at grants₁
      split at grants₁
      · split at grants₂
        · cases grants₁
          cases grants₂
          exact ⟨_, rfl, rfl, lasts⟩
        · cases grants₂
      · cases grants₁

/-- A revocation is not weakened by skipping one that would have lasted less. -/
theorem longer_revocation_pending :
    PreservesEffect sampleExecutor (.tokenRevocation "jti_1" 900)
      (.tokenRevocation "jti_1" 60) := by
  have same : operationId (.tokenRevocation "jti_1" 900) =
      operationId (.tokenRevocation "jti_1" 60) := rfl
  exact (effect_preserved_iff sampleExecutor same).mpr (grants_as_much_of_le (by decide))

/-- The second of two logouts from one session is skipped with its token, which executing
the first leaves off the blacklist. -/
theorem second_token_survives :
    let once := (queue.serveAll Outcome.success (enqueue firstLogout) (World.empty 1000000)).2.2
    let twice := (queue.serveAll Outcome.success (enqueue secondLogout) once).2.2
    operationId firstLogout = operationId secondLogout ∧
      twice.members .reconciliationPending = once.members .reconciliationPending ∧
      once.members .reconciliationPending ≠ [] ∧
      ¬ PreservesEffect sampleExecutor firstLogout secondLogout := by
  refine ⟨rfl, by decide +kernel, by decide +kernel, fun preserves => ?_⟩
  obtain ⟨grant, granted, holder, _⟩ := revoke_grants_as_much rfl preserves 1000000
    (some ⟨"jti_1", 1000⟩) ⟨"jti_2", 1000⟩ (by decide +kernel) (by decide +kernel)
  cases granted
  exact absurd holder (by decide)

end

end BrainMate.Reconciliation
