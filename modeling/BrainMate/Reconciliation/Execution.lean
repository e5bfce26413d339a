import BrainMate.Gateway.Completion
import BrainMate.Nextjs.ReconciliationWorker

namespace BrainMate.Reconciliation

open Interleaving Gateway

/-- A worker of the gateway or a process of Next.js. -/
inductive Executor where
  | gateway (worker : Gateway.Reconciliation.Worker)
  | nextjs (server : Nextjs.Server)

def Executor.execute : Executor → ReconciliationOp → Procedure (Except String Unit)
  | .gateway worker => worker.execute
  | .nextjs server => server.executeOperation

def Executor.db : Executor → Bool
  | .gateway worker => worker.db
  | .nextjs server => server.db

/-- The operation succeeds, each of its commands having been acknowledged. -/
def Executor.Succeeds (executor : Executor) (op : ReconciliationOp) (world after : World) : Prop :=
  Completes (executor.execute op) world (.ok ()) after

/-- What the token half of a session revocation leaves. -/
def TokenGone (db : Bool) (jti : Option String) (tokenExp : Option Nat) (world after : World) : Prop :=
  match jti, tokenExp with
  | some jti, some exp =>
    if 0 < exp - world.second then
      TokenBlacklist.validateTokenId jti = .ok () ∧
        acceptsTtl world.clock (exp - world.second) = true ∧
        after = withdrawn db jti (exp - world.second) world
    else after = world
  | _, _ => after = world

section

variable {sha256Hex : String → String} {db : Bool} {sessionId : String} {jti : Option String}
variable {tokenExp : Option Nat} {world after : World}

theorem completes_revokeToken {worker : Gateway.Reconciliation.Worker} :
    Completes (worker.revokeToken jti tokenExp) world (.ok ()) after ↔
      TokenGone worker.db jti tokenExp world after := by
  rcases jti with _ | jti
  · exact completes_done.trans (by simp [TokenGone])
  rcases tokenExp with _ | tokenExp
  · exact completes_done.trans (by simp [TokenGone])
  simp only [Gateway.Reconciliation.Worker.revokeToken, TokenGone, nowUnixSecs_eq,
    Program.call_bind, Program.done_bind, completes_now, World.second]
  by_cases live : 0 < tokenExp - world.clock / 1000
  · simp only [live, ↓reduceIte]
    exact Program.completes_mapError.trans completes_revoke
  · simp [live]

theorem completes_remainingTtl {α : Type} {expiresAt : Nat} {next : Nat → Procedure α} {value : α} :
    Completes (Auth.remainingTtl expiresAt >>= next) world value after ↔
      Completes (next (expiresAt - world.second)) world value after := completes_now

theorem completes_authRevokeSession :
    Completes (Auth.revokeSession sha256Hex db sessionId jti tokenExp) world (.ok ()) after ↔
      ∃ middle, Completes (SessionStore.revokeSession sha256Hex db sessionId) world (.ok ()) middle ∧
        TokenGone db jti tokenExp middle after := by
  refine (Program.completes_andThen fun _ _ impossible => by cases impossible.1).trans ?_
  refine exists_congr fun middle => and_congr_right fun _ => ?_
  rcases jti with _ | jti
  · exact completes_done.trans (by simp [TokenGone])
  rcases tokenExp with _ | tokenExp
  · exact completes_done.trans (by simp [TokenGone])
  refine completes_remainingTtl.trans ?_
  simp only [TokenGone]
  by_cases live : 0 < tokenExp - middle.second
  · simp only [live, ↓reduceIte]
    exact completes_revoke
  · simp [live]

end

/-- One of the process's tokens is one the gateway accepts. -/
def reaches (server : Nextjs.Server) : Bool :=
  server.internalTokens.any server.internalApiTokens.contains

/-- How a caller takes the response of a handler that answers `code` on success. -/
structure Judges (answer : Procedure (Except ApiError Unit)) (code : Nat)
    (next : Except String Nat → Procedure (Except String Unit)) : Prop where
  success : code ≠ 401 ∧ code ≠ 403
  accepted : ∀ world after, Completes (next (.ok code)) world (.ok ()) after ↔ after = world
  broken : ∀ error world after, ¬ Completes (next (.error error)) world (.ok ()) after
  unauthorized : ∀ world after, ¬ Completes (next (.ok 401)) world (.ok ()) after
  refused : ∀ {world error middle}, Completes answer world (.error error) middle →
    ∀ later after, ¬ Completes (next (.ok error.status)) later (.ok ()) after
  /-- Repeating a call that was answered with 401 does not help. -/
  stays : ∀ {world error middle}, Completes answer world (.error error) middle →
    error.status = 401 → ∀ after, ¬ Completes answer middle (.ok ()) after

section

variable {answer : Procedure (Except ApiError Unit)} {code : Nat}
variable {next : Except String Nat → Procedure (Except String Unit)} {world after : World}

private theorem completes_fetch {handler : Procedure Nat} {result : Except String Unit}
    {rest : Except String Nat → Procedure (Except String Unit)} :
    Completes (Nextjs.fetch handler >>= rest) world result after ↔
      ∃ status middle, Completes handler world status middle ∧
        Completes (rest (.ok status)) middle result after := by
  have served (answered : Except String Nat) (middle : World) :
      Completes (Nextjs.fetch handler) world answered middle ↔
        ∃ status, answered = .ok status ∧ Completes handler world status middle := by
    simp only [Nextjs.fetch, http_eq, Program.call_bind, Program.done_bind, completes_http]
    refine Program.completes_bind.trans ?_
    constructor
    · rintro ⟨status, later, handled, responds⟩
      obtain ⟨rfl, rfl⟩ := completes_http.mp responds
      exact ⟨status, rfl, handled⟩
    · rintro ⟨status, rfl, handled⟩
      exact ⟨status, middle, handled, completes_http.mpr ⟨rfl, rfl⟩⟩
  refine Program.completes_bind.trans ?_
  constructor
  · rintro ⟨answered, middle, fetched, continues⟩
    obtain ⟨status, rfl, handled⟩ := (served answered middle).mp fetched
    exact ⟨status, middle, handled, continues⟩
  · rintro ⟨status, middle, handled, continues⟩
    exact ⟨.ok status, middle, (served _ _).mpr ⟨status, rfl, handled⟩, continues⟩

theorem Judges.completes_fallback (judges : Judges answer code next)
    (internalApiTokens : List String) (last : Option Nat) (known : ∀ status ∈ last, status = 401)
    (tokens : List String) :
    Completes (Nextjs.fetchWithTokenFallback internalApiTokens
        (answer >>= fun answered => pure (Nextjs.respond code answered)) last tokens >>= next)
      world (.ok ()) after ↔
      tokens.any internalApiTokens.contains = true ∧ Completes answer world (.ok ()) after := by
  induction tokens generalizing last world with
  | nil =>
    cases last with
    | none => simpa [Nextjs.fetchWithTokenFallback] using judges.broken _ world after
    | some status =>
      cases known status rfl
      simpa [Nextjs.fetchWithTokenFallback] using judges.unauthorized world after
  | cons token rest ih =>
    have again (middle : World) : Completes (Nextjs.fetchWithTokenFallback internalApiTokens
        (answer >>= fun answered => pure (Nextjs.respond code answered)) (some 401) rest >>= next)
        middle (.ok ()) after ↔ _ := ih (some 401) (by simp)
    simp only [Nextjs.fetchWithTokenFallback, Program.bind_assoc, List.any_cons]
    refine completes_fetch.trans ?_
    cases accepts : internalApiTokens.contains token with
    | false =>
      simp only [Nextjs.requireInternalApiAccess, accepts, Bool.false_eq_true, ↓reduceIte,
        Bool.false_or, Program.pure_eq, completes_done]
      constructor
      · rintro ⟨_, _, ⟨rfl, rfl⟩, continues⟩
        exact (again _).mp continues
      · exact fun goes => ⟨401, world, ⟨rfl, rfl⟩, (again world).mpr goes⟩
    | true =>
      simp only [Nextjs.requireInternalApiAccess, accepts, ↓reduceIte, Bool.true_or, true_and]
      constructor
      · rintro ⟨status, middle, handled, continues⟩
        obtain ⟨answered, _, served, rfl, rfl⟩ := Program.completes_bind.mp handled
        rcases answered with error | _
        · rw [show Nextjs.respond code (.error error) = error.status from rfl] at continues
          by_cases unauthorized : error.status = 401
          · rw [if_pos (.inl unauthorized), unauthorized] at continues
            exact absurd ((again _).mp continues).2 (judges.stays served unauthorized after)
          · have other : error.status ≠ 403 := by cases error <;> simp [ApiError.status]
            rw [if_neg (by simp [unauthorized, other])] at continues
            exact absurd continues (judges.refused served _ _)
        · rw [show Nextjs.respond code (.ok ()) = code from rfl] at continues
          rw [if_neg (by simp [judges.success])] at continues
          obtain rfl := (judges.accepted _ _).mp continues
          exact served
      · intro served
        refine ⟨code, after, Program.completes_bind.mpr ⟨.ok (), after, served, rfl, rfl⟩, ?_⟩
        rw [if_neg (by simp [judges.success])]
        exact (judges.accepted _ _).mpr rfl

private theorem completes_authCreateSession {sha256Hex : String → String} {db : Bool}
    {maxSessionTtlSecs maxSessions : Nat} {payload : Auth.CreateSessionRequest} :
    Completes (Auth.createSession sha256Hex db maxSessionTtlSecs maxSessions payload) world (.ok ())
        after ↔
      payload.expiresAt - world.second ≠ 0 ∧
        Completes (SessionStore.createSession sha256Hex db payload.sid payload.userId payload.issuedAt
          payload.deviceInfo (min (payload.expiresAt - world.second) maxSessionTtlSecs) maxSessions)
          world (.ok ()) after := by
  unfold Auth.createSession
  cases valid : SessionStore.validateSessionId payload.sid with
  | error error => simp [SessionStore.createSession, valid]
  | ok _ =>
    refine completes_remainingTtl.trans ?_
    by_cases expired : payload.expiresAt - world.second = 0
    · simp [expired]
    · simp [expired]

private theorem authCreateSession_unauthorized {sha256Hex : String → String} {db : Bool}
    {maxSessionTtlSecs maxSessions : Nat} {payload : Auth.CreateSessionRequest} {error : ApiError}
    (completes : Completes (Auth.createSession sha256Hex db maxSessionTtlSecs maxSessions payload)
      world (.error error) after) (unauthorized : error.status = 401) : after = world := by
  unfold Auth.createSession at completes
  split at completes
  · exact completes.2
  · rw [completes_remainingTtl] at completes
    split at completes
    · exact completes.2
    · exact createSession_unauthorized completes unauthorized

private theorem authRevokeSession_refused {sha256Hex : String → String} {db : Bool}
    {sessionId : String}
    {jti : Option String} {tokenExp : Option Nat} {error : ApiError}
    (completes : Completes (Auth.revokeSession sha256Hex db sessionId jti tokenExp) world
      (.error error) after) :
    SessionStore.validateSessionId sessionId = .error error ∨
      ∃ named exp, jti = some named ∧ tokenExp = some exp ∧ 0 < exp - world.second ∧
        after.clock = world.clock ∧ TokenBlacklist.validateTokenId named = .error error := by
  obtain ⟨answered, middle, revokes, completes⟩ := Program.completes_bind.mp completes
  rcases answered with refusal | _
  · obtain ⟨same, _⟩ := completes
    cases same
    exact .inl (revokeSession_refused revokes)
  · refine .inr ?_
    rcases jti with _ | jti
    · cases completes.1
    rcases tokenExp with _ | tokenExp
    · cases completes.1
    have clock := (revokeSession_completes revokes).2.clock
    replace completes := completes_remainingTtl.mp completes
    split at completes
    · rename_i live
      obtain ⟨invalid, rfl⟩ := revoke_refused completes
      refine ⟨jti, tokenExp, rfl, rfl, ?_, clock, invalid⟩
      simpa only [World.second, clock] using live
    · cases completes.1

variable {server : Nextjs.Server}

theorem completes_server_syncSession {sessionId userId : String} {expiresAt : Nat} :
    Completes (server.syncSession sessionId userId expiresAt) world (.ok ()) after ↔
      reaches server = true ∧ expiresAt - world.second ≠ 0 ∧
        Completes (SessionStore.createSession server.sha256Hex server.db sessionId userId
          (some world.second) none (min (expiresAt - world.second) server.maxSessionTtlSecs)
          server.maxSessionsPerUser) world (.ok ()) after := by
  simp only [Nextjs.Server.syncSession, nowMs_eq, Program.call_bind, Program.done_bind,
    completes_now]
  refine (Judges.completes_fallback ?_ server.internalApiTokens none (by simp)
    server.internalTokens).trans (and_congr_right fun _ => completes_authCreateSession)
  refine ⟨by decide, by simp, by simp, by simp, ?_, ?_⟩
  · intro _ error _ _ later after
    cases error <;> simp [ApiError.status]
  · intro world error middle refused unauthorized after succeeds
    obtain rfl := authCreateSession_unauthorized refused unauthorized
    cases (refused.unique succeeds).1

theorem completes_server_revokeSession {sessionId : String} {jti : Option String}
    {tokenExp : Option Nat} :
    Completes (server.revokeSession sessionId jti tokenExp) world (.ok ()) after ↔
      reaches server = true ∧
        if Nextjs.vanishes sessionId then after = world
        else Completes (Auth.revokeSession server.sha256Hex server.db sessionId
          (jti.filter (· ≠ "")) (tokenExp.filter (· ≠ 0))) world (.ok ()) after := by
  unfold Nextjs.Server.revokeSession Nextjs.Server.deleteSession
  by_cases vanishes : Nextjs.vanishes sessionId = true
  · simp only [vanishes, ↓reduceIte]
    have none_found : (pure 404 : Procedure Nat) =
        (Program.done (.ok ()) >>= fun answered => pure (Nextjs.respond 404 answered)) := rfl
    rw [none_found]
    refine (Judges.completes_fallback ?_ server.internalApiTokens none (by simp)
      server.internalTokens).trans (and_congr_right fun _ => by simp)
    refine ⟨by decide, by simp, by simp, by simp, ?_, ?_⟩
    · exact fun impossible => by cases impossible.1
    · exact fun impossible => by cases impossible.1
  · simp only [vanishes, Bool.false_eq_true, ↓reduceIte]
    refine Judges.completes_fallback ?_ server.internalApiTokens none (by simp) server.internalTokens
    refine ⟨by decide, by simp, by simp, by simp, ?_, ?_⟩
    · intro _ error _ refused later after
      have status : error.status = 400 ∨ error.status = 401 := by
        rcases authRevokeSession_refused refused with invalid | ⟨_, _, _, _, _, _, invalid⟩
        · exact .inl (validateSessionId_status invalid)
        · exact .inr (validateTokenId_status invalid)
      rcases status with status | status <;> simp [status]
    · intro world error middle refused unauthorized after succeeds
      rcases authRevokeSession_refused refused with invalid |
        ⟨named, exp, jti, tokenExp, live, clock, invalid⟩
      · rw [validateSessionId_status invalid] at unauthorized
        cases unauthorized
      · obtain ⟨later, revokes, gone⟩ := completes_authRevokeSession.mp succeeds
        have same : later.second = world.second := by
          simp only [World.second, (revokeSession_completes revokes).2.clock, clock]
        simp only [TokenGone, jti, tokenExp, same, live, ↓reduceIte, invalid] at gone
        cases gone.1

end

/-- An entry for a token or for a user, and how long it lasts. -/
structure Grant where
  holder : String
  seconds : Nat
  deriving DecidableEq, Repr

/-- The blacklist entry for an unexpired token. -/
def tokenGrant (jti : Option String) (tokenExp : Option Nat) (clock : Nat) : Option (Option Grant) :=
  match jti, tokenExp with
  | some jti, some exp =>
    let ttl := exp - clock / 1000
    if ttl = 0 then some none
    else if (TokenBlacklist.validateTokenId jti).isOk && acceptsTtl clock ttl then
      some (some ⟨jti, ttl⟩)
    else none
  | _, _ => some none

/-- The entry of a session for its user. -/
def sessionGrant (db : Bool) (maxSessions : Nat) (sessionId userId : String) (ttlSecs clock : Nat) :
    Option (Option Grant) :=
  if (SessionStore.validateSessionId sessionId).isOk && !(trim userId).isEmpty &&
      acceptsTtl clock ttlSecs && (!db || 0 < maxSessions) then
    some (some ⟨userId, ttlSecs⟩)
  else none

/-- What the gateway's worker grants; nothing at all where the operation cannot succeed. -/
def gatewayGrant (worker : Gateway.Reconciliation.Worker) (clock : Nat) :
    ReconciliationOp → Option (Option Grant)
  | .tokenRevocation jti ttlSecs =>
    if (TokenBlacklist.validateTokenId jti).isOk && acceptsTtl clock ttlSecs then
      some (some ⟨jti, ttlSecs⟩)
    else none
  | .sessionSync sessionId userId expiresAt expectedVersion =>
    let ttl := min (expiresAt - clock / 1000) worker.maxSessionTtlSecs
    -- A stored version is read as a `u64`.
    if ttl = 0 ∨ expectedVersion.any (2 ^ 64 ≤ ·) then some none
    else sessionGrant worker.db worker.maxSessionsPerUser sessionId userId ttl clock
  | .sessionRevoke sessionId jti tokenExp _ =>
    if (SessionStore.validateSessionId sessionId).isOk then tokenGrant jti tokenExp clock else none
  | .dbCleanup => some none

def nextjsGrant (server : Nextjs.Server) (clock : Nat) : ReconciliationOp → Option (Option Grant)
  | .tokenRevocation jti ttlSecs =>
    if ttlSecs = 0 then some none
    else if acceptsTtl clock ttlSecs then some (some ⟨jti, ttlSecs⟩)
    else none
  | .sessionSync _ _ _ none => some none
  | .sessionSync sessionId userId expiresAt (some _) =>
    let remaining := expiresAt - clock / 1000
    if reaches server && remaining != 0 then
      sessionGrant server.db server.maxSessionsPerUser sessionId userId
        (min remaining server.maxSessionTtlSecs) clock
    else none
  | .sessionRevoke sessionId jti tokenExp _ =>
    if !reaches server then none
    else if Nextjs.vanishes sessionId then some none
    else if (SessionStore.validateSessionId sessionId).isOk then
      tokenGrant (jti.filter (· ≠ "")) (tokenExp.filter (· ≠ 0)) clock
    else none
  | .dbCleanup => some none

def Executor.grant (executor : Executor) (clock : Nat) (op : ReconciliationOp) :
    Option (Option Grant) :=
  match executor with
  | .gateway worker => gatewayGrant worker clock op
  | .nextjs server => if server.internalTokens.isEmpty then none else nextjsGrant server clock op

/-- The version of the session is the one the operation expects. -/
def Executor.Current (executor : Executor) (sessionId : String) (expectedVersion : Option Nat)
    (world : World) : Prop :=
  let raw := world.lookup (.sessionVersion sessionId)
  match executor with
  | .gateway _ => ∀ version ∈ expectedVersion, (raw.bind RedisValue.asNumber).getD 0 = version
  | .nextjs _ => expectedVersion.map Int.ofNat = some (Nextjs.parseVersion raw)

section

variable {executor : Executor} {world after : World}

/-- The clock and the blacklists are the same. -/
structure SameBlacklist (world later : World) : Prop where
  clock : later.clock = world.clock
  entry : ∀ jti, later.redis (.blacklist jti) = world.redis (.blacklist jti)
  rows : later.db.blacklist = world.db.blacklist

/-- The blacklists have gained what was granted, in Redis at least. -/
def Blacklists (granted : Option Grant) (world after : World) : Prop :=
  match granted with
  | none => SameBlacklist world after
  | some grant => acceptsTtl world.clock grant.seconds = true ∧
      ∃ recorded, SameBlacklist (withdrawn recorded grant.holder grant.seconds world) after

theorem executeOperation_succeeds {server : Nextjs.Server} {op : ReconciliationOp} :
    (Executor.nextjs server).Succeeds op world after ↔
      server.internalTokens.isEmpty = false ∧ Completes (server.dispatch op) world (.ok ()) after := by
  simp only [Executor.Succeeds, Executor.execute, Nextjs.Server.executeOperation]
  cases server.internalTokens.isEmpty <;> simp

theorem nextjs_grant {server : Nextjs.Server} {op : ReconciliationOp} {clock : Nat}
    {granted : Option Grant} :
    (Executor.nextjs server).grant clock op = some granted ↔
      server.internalTokens.isEmpty = false ∧ nextjsGrant server clock op = some granted := by
  simp only [Executor.grant]
  cases server.internalTokens.isEmpty <;> simp

theorem succeeds_tokenRevocation {jti : String} {ttlSecs : Nat}
    (succeeds : executor.Succeeds (.tokenRevocation jti ttlSecs) world after) :
    ∃ granted, executor.grant world.clock (.tokenRevocation jti ttlSecs) = some granted ∧
      Blacklists granted world after ∧
      (granted = none ∧ ttlSecs = 0 ∨ granted = some ⟨jti, ttlSecs⟩) := by
  cases executor with
  | gateway worker =>
    obtain ⟨valid, accepted, rfl⟩ :=
      completes_revoke.mp (Program.completes_mapError.mp succeeds)
    refine ⟨some ⟨jti, ttlSecs⟩, ?_, ⟨accepted, worker.db, rfl, fun _ => rfl, rfl⟩, .inr rfl⟩
    simp [Executor.grant, gatewayGrant, valid, accepted, Except.isOk, Except.toBool]
  | nextjs server =>
    obtain ⟨configured, succeeds⟩ := executeOperation_succeeds.mp succeeds
    simp only [Nextjs.Server.dispatch] at succeeds
    split at succeeds
    · rename_i expired
      obtain ⟨_, rfl⟩ := succeeds
      refine ⟨none, ?_, ⟨rfl, fun _ => rfl, rfl⟩, .inl ⟨rfl, expired⟩⟩
      simp [nextjs_grant, configured, nextjsGrant, expired]
    · rename_i live
      obtain ⟨accepted, _, rfl⟩ := completes_setEx.mp succeeds
      refine ⟨some ⟨jti, ttlSecs⟩, ?_, ⟨accepted, false, rfl, fun _ => rfl, rfl⟩, .inr rfl⟩
      simp [nextjs_grant, configured, nextjsGrant, live, accepted]

theorem grant_tokenRevocation {jti : String} {ttlSecs clock : Nat} {granted : Option Grant}
    (grants : executor.grant clock (.tokenRevocation jti ttlSecs) = some granted)
    (same : world.clock = clock) :
    ∃ after, executor.Succeeds (.tokenRevocation jti ttlSecs) world after := by
  subst same
  cases executor with
  | gateway worker =>
    simp only [Executor.grant, gatewayGrant] at grants
    split at grants
    case isFalse => cases grants
    rename_i accepted
    simp only [Bool.and_eq_true] at accepted
    exact ⟨_, Program.completes_mapError.mpr
      (completes_revoke.mpr ⟨ok_of_isOk accepted.1, accepted.2, rfl⟩)⟩
  | nextjs server =>
    obtain ⟨configured, grants⟩ := nextjs_grant.mp grants
    simp only [executeOperation_succeeds, configured, true_and, Nextjs.Server.dispatch]
    simp only [nextjsGrant] at grants
    split at grants
    · rename_i expired
      simp [expired]
    · rename_i live
      split at grants
      · rename_i accepted
        simp [live, completes_setEx, accepted]
      · cases grants

theorem SameBlacklist.trans {middle : World} (first : SameBlacklist world middle)
    (second : SameBlacklist middle after) : SameBlacklist world after :=
  ⟨second.clock.trans first.clock, fun jti => (second.entry jti).trans (first.entry jti),
    second.rows.trans first.rows⟩

theorem SameBlacklist.withdrawn {later : World} (same : SameBlacklist world later) (recorded : Bool)
    (jti : String) (ttlSecs : Nat) :
    SameBlacklist (withdrawn recorded jti ttlSecs world) (withdrawn recorded jti ttlSecs later) := by
  have second : later.second = world.second := by simp only [World.second, same.clock]
  refine ⟨by simpa using same.clock, fun other => ?_, by simp only [withdrawn_blacklist, same.rows, second]⟩
  simp only [withdrawn_redis, same.clock, Function.update_apply, same.entry]

theorem Blacklists.of_same {granted : Option Grant} {middle : World}
    (same : SameBlacklist world middle) (blacklists : Blacklists granted middle after) :
    Blacklists granted world after := by
  cases granted with
  | none => exact same.trans blacklists
  | some grant =>
    obtain ⟨accepted, recorded, kept⟩ := blacklists
    exact ⟨same.clock ▸ accepted, recorded, (same.withdrawn ..).trans kept⟩

/-- Neither store has the session. -/
structure Inactive (db : Bool) (sessionId : String) (world : World) : Prop where
  entry : world.redis (.session sessionId) = none
  row : db = true → ∀ row, world.db.sessions.find? sessionId = some row → row.revoked = true

private theorem inactive_of_dropped {db : Bool} {sessionId : String}
    (dropped : Dropped db sessionId world after) : Inactive db sessionId after := by
  refine ⟨dropped.entry, fun configured row found => ?_⟩
  rw [dropped.row, if_pos configured, DbCommand.revokeSessionRow,
    Storage.Table.find?_updateWhere] at found
  obtain ⟨stored, present, rfl⟩ := Option.map_eq_some_iff.mp found
  have own : stored.id = sessionId := world.db.sessions.find?_key present
  cases marked : stored.revoked <;> simp [own, marked]

private theorem tokenGone_grants {db : Bool} {jti : Option String} {tokenExp : Option Nat}
    (gone : TokenGone db jti tokenExp world after) :
    (∃ granted, tokenGrant jti tokenExp world.clock = some granted ∧
      Blacklists granted world after) ∧
      (∀ sessionId, after.redis (.session sessionId) = world.redis (.session sessionId)) ∧
      after.db.sessions = world.db.sessions := by
  have unchanged (same : after = world) (none_left : tokenGrant jti tokenExp world.clock = some none) :
      (∃ granted, tokenGrant jti tokenExp world.clock = some granted ∧
        Blacklists granted world after) ∧
      (∀ sessionId, after.redis (.session sessionId) = world.redis (.session sessionId)) ∧
      after.db.sessions = world.db.sessions := by
    subst same
    exact ⟨⟨none, none_left, rfl, fun _ => rfl, rfl⟩, fun _ => rfl, rfl⟩
  rcases jti with _ | jti
  · exact unchanged gone rfl
  rcases tokenExp with _ | exp
  · exact unchanged gone rfl
  simp only [TokenGone] at gone
  split at gone
  · rename_i live
    obtain ⟨valid, accepted, rfl⟩ := gone
    refine ⟨⟨some ⟨jti, exp - world.second⟩, ?_, accepted, db, rfl, fun _ => rfl, rfl⟩,
      fun _ => by simp, by simp⟩
    have remaining : exp - world.clock / 1000 ≠ 0 := Nat.ne_of_gt live
    simp only [World.second] at accepted
    simp [tokenGrant, remaining, valid, accepted, Except.isOk, Except.toBool, World.second]
  · rename_i expired
    refine unchanged gone ?_
    have remaining : exp - world.clock / 1000 = 0 := Nat.eq_zero_of_not_pos expired
    simp [tokenGrant, remaining]

/-- Recording a version writes the version key at most. -/
theorem recordVersion_completes {sessionId : String} {targetVersion : Nat}
    (completes : Completes (Nextjs.Server.recordVersion sessionId targetVersion) world (.ok ()) after) :
    SameBlacklist world after := by
  simp only [Nextjs.Server.recordVersion, Nextjs.getSessionVersion, redis_eq, Program.call_bind,
    Program.done_bind, Program.pure_eq, completes_get] at completes
  split at completes
  · rename_i older
    simp only [Nextjs.setSessionVersion, Nextjs.getSessionVersion, redis_eq, Program.call_bind,
      Program.done_bind, Program.pure_eq, completes_get, older, ↓reduceIte] at completes
    obtain ⟨_, _, rfl⟩ := completes_setEx.mp completes
    exact ⟨rfl, fun _ => by simp [World.store], rfl⟩
  · obtain ⟨_, rfl⟩ := completes_done.mp completes
    exact ⟨rfl, fun _ => rfl, rfl⟩

/-- The path of the request names no session. -/
def Executor.vanishes (executor : Executor) (sessionId : String) : Bool :=
  match executor with
  | .gateway _ => false
  | .nextjs _ => Nextjs.vanishes sessionId

private theorem authRevokeSession_completes {sha256Hex : String → String} {db : Bool}
    {sessionId : String}
    {jti : Option String} {tokenExp : Option Nat}
    (completes : Completes (Auth.revokeSession sha256Hex db sessionId jti tokenExp) world (.ok ())
      after) :
    SessionStore.validateSessionId sessionId = .ok () ∧ Inactive db sessionId after ∧
      ∃ granted, tokenGrant jti tokenExp world.clock = some granted ∧
        Blacklists granted world after := by
  obtain ⟨middle, revokes, gone⟩ := completes_authRevokeSession.mp completes
  obtain ⟨valid, dropped⟩ := revokeSession_completes revokes
  have inactive := inactive_of_dropped dropped
  obtain ⟨⟨granted, grants, blacklists⟩, entry, row⟩ := tokenGone_grants gone
  refine ⟨valid, ⟨(entry sessionId).trans inactive.entry, row ▸ inactive.row⟩, granted, ?_, ?_⟩
  · rw [← dropped.clock]
    exact grants
  · exact .of_same ⟨dropped.clock, dropped.blacklist, dropped.blacklistRows⟩ blacklists

private theorem server_revokeSession_completes {server : Nextjs.Server} {sessionId : String}
    {jti : Option String} {tokenExp : Option Nat} (version : Option Nat)
    (completes : Completes (server.revokeSession sessionId jti tokenExp) world (.ok ()) after) :
    (Nextjs.vanishes sessionId = true ∨
      SessionStore.validateSessionId sessionId = .ok () ∧ Inactive server.db sessionId after) ∧
      ∃ granted, nextjsGrant server world.clock (.sessionRevoke sessionId jti tokenExp version) =
        some granted ∧ Blacklists granted world after := by
  obtain ⟨reached, completes⟩ := completes_server_revokeSession.mp completes
  simp only [nextjsGrant, reached, Bool.not_true, Bool.false_eq_true, ↓reduceIte]
  split at completes
  · rename_i gone
    subst completes
    exact ⟨.inl gone, none, by simp [gone], rfl, fun _ => rfl, rfl⟩
  · rename_i named
    obtain ⟨valid, inactive, granted, grants, blacklists⟩ := authRevokeSession_completes completes
    refine ⟨.inr ⟨valid, inactive⟩, granted, ?_, blacklists⟩
    simpa [named, valid, Except.isOk, Except.toBool] using grants

theorem succeeds_sessionRevoke {sessionId : String} {jti : Option String}
    {tokenExp version : Option Nat}
    (succeeds : executor.Succeeds (.sessionRevoke sessionId jti tokenExp version) world after) :
    (executor.vanishes sessionId = true ∨
      SessionStore.validateSessionId sessionId = .ok () ∧ Inactive executor.db sessionId after) ∧
      ∃ granted, executor.grant world.clock (.sessionRevoke sessionId jti tokenExp version) =
        some granted ∧ Blacklists granted world after := by
  cases executor with
  | gateway worker =>
    have completes : Completes (Auth.revokeSession worker.sha256Hex worker.db sessionId jti tokenExp)
        world (.ok ()) after := by
      obtain ⟨middle, revokes, gone⟩ :=
        (Program.completes_andThen fun _ _ impossible => by cases impossible.1).mp succeeds
      exact completes_authRevokeSession.mpr ⟨middle, revokes, completes_revokeToken.mp gone⟩
    obtain ⟨valid, inactive, granted, grants, blacklists⟩ := authRevokeSession_completes completes
    refine ⟨.inr ⟨valid, inactive⟩, granted, ?_, blacklists⟩
    simpa [Executor.grant, gatewayGrant, valid, Except.isOk, Except.toBool] using grants
  | nextjs server =>
    obtain ⟨configured, succeeds⟩ := executeOperation_succeeds.mp succeeds
    simp only [nextjs_grant, configured, true_and]
    cases version with
    | none => exact server_revokeSession_completes none succeeds
    | some target =>
      obtain ⟨middle, recorded, completes⟩ :=
        (Program.completes_andThen fun _ _ impossible => by cases impossible.1).mp succeeds
      have same := recordVersion_completes recorded
      obtain ⟨inactive, granted, grants, blacklists⟩ :=
        server_revokeSession_completes (some target) completes
      exact ⟨inactive, granted, same.clock ▸ grants, .of_same same blacklists⟩

private theorem createSession_grants {sha256Hex : String → String} {db : Bool}
    {sessionId userId : String}
    {issuedAt : Option Nat} {deviceInfo : Option String} {ttlSecs maxSessions : Nat}
    (completes : Completes (SessionStore.createSession sha256Hex db sessionId userId issuedAt
      deviceInfo ttlSecs maxSessions) world (.ok ()) after) :
    sessionGrant db maxSessions sessionId userId ttlSecs world.clock = some (some ⟨userId, ttlSecs⟩) ∧
      SessionStore.validateSessionId sessionId = .ok () ∧
      Registered db sessionId ⟨userId, issuedAt, deviceInfo⟩ ttlSecs world after := by
  obtain ⟨valid, named, accepted, free, registered⟩ := createSession_completes completes
  refine ⟨?_, valid, registered⟩
  have room : (!db || 0 < maxSessions) = true := by
    cases db with
    | false => rfl
    | true => simpa using free rfl
  simp [sessionGrant, valid, named, accepted, room, Except.isOk, Except.toBool]

/-- What a `session_sync` that succeeds has done. -/
inductive Synced (executor : Executor) (op : ReconciliationOp) (sessionId userId : String)
    (world : World) : World → Prop where
  | unchanged (granted : executor.grant world.clock op = some none) :
      Synced executor op sessionId userId world world
  | registered (record : SessionRecord) (ttlSecs : Nat) (after : World)
      (granted : executor.grant world.clock op = some (some ⟨userId, ttlSecs⟩))
      (own : record.userId = userId)
      (valid : SessionStore.validateSessionId sessionId = .ok ())
      (registered : Registered executor.db sessionId record ttlSecs world after) :
      Synced executor op sessionId userId world after

private theorem worker_syncSession_completes {worker : Gateway.Reconciliation.Worker}
    {sessionId userId : String} {expiresAt : Nat} (version : Option Nat)
    (small : version.any (2 ^ 64 ≤ ·) = false)
    (completes : Completes (worker.syncSession sessionId userId expiresAt) world (.ok ()) after) :
    Synced (.gateway worker) (.sessionSync sessionId userId expiresAt version) sessionId userId world
      after := by
  simp only [Gateway.Reconciliation.Worker.syncSession, nowUnixSecs_eq, Program.call_bind,
    Program.done_bind, completes_now] at completes
  split at completes
  · rename_i expired
    obtain ⟨_, rfl⟩ := completes
    exact .unchanged (by simp only [Executor.grant, gatewayGrant, expired, true_or, ↓reduceIte])
  · rename_i live
    obtain ⟨grants, valid, registered⟩ :=
      createSession_grants (Program.completes_mapError.mp completes)
    refine .registered _ _ _ ?_ rfl valid registered
    simpa only [Executor.grant, gatewayGrant, live, small, Bool.false_eq_true, or_self,
      ↓reduceIte] using grants

theorem readVersion_lt (raw : Option RedisValue) :
    (raw.bind RedisValue.asNumber).getD 0 < 2 ^ 64 := by
  rcases raw with _ | value
  · exact Nat.two_pow_pos 64
  · cases value with
    | counter value =>
      simp only [Option.bind_some, RedisValue.asNumber]
      split
      · simp only [Option.getD_some]
        omega
      · exact Nat.two_pow_pos 64
    | _ => exact Nat.two_pow_pos 64

private theorem asNumber_counter (value : Int) : RedisValue.asNumber (.counter value) =
    if 0 ≤ value ∧ value < 2 ^ 64 then some value.toNat else none := rfl

theorem readVersion_counter (version : Nat) :
    ((some (RedisValue.counter version)).bind RedisValue.asNumber).getD 0 =
      if version < 2 ^ 64 then version else 0 := by
  rw [Option.bind_some, asNumber_counter]
  -- With the cast in place the kernel would evaluate the comparison.
  generalize raised : (version : Int) = value
  split
  · rw [if_pos (by omega), Option.getD_some]
    omega
  · rw [if_neg (by omega), Option.getD_none]

theorem succeeds_sessionSync {sessionId userId : String} {expiresAt : Nat} {version : Option Nat}
    (succeeds : executor.Succeeds (.sessionSync sessionId userId expiresAt version) world after) :
    (¬ executor.Current sessionId version world ∧ after = world) ∨
      executor.Current sessionId version world ∧
        Synced executor (.sessionSync sessionId userId expiresAt version) sessionId userId world
          after := by
  cases executor with
  | gateway worker =>
    cases version with
    | none => exact .inr ⟨nofun, worker_syncSession_completes none rfl succeeds⟩
    | some version =>
      have completes : Completes (Gateway.Reconciliation.Worker.execute worker
        (.sessionSync sessionId userId expiresAt (some version))) world (.ok ()) after := succeeds
      simp only [Gateway.Reconciliation.Worker.execute,
        Gateway.Reconciliation.currentSessionVersion, redis_eq, Program.call_bind,
        Program.done_bind, Program.pure_eq, completes_get] at completes
      split at completes
      · rename_i stale
        exact .inl ⟨fun current => stale (current version rfl), completes.2⟩
      · rename_i current
        have same := not_not.mp current
        refine .inr ⟨?_, worker_syncSession_completes (some version) ?_ completes⟩
        · rintro _ ⟨⟩
          exact same
        · simpa using same ▸ readVersion_lt _
  | nextjs server =>
    obtain ⟨configured, completes⟩ := executeOperation_succeeds.mp succeeds
    simp only [Nextjs.Server.dispatch, Nextjs.getSessionVersion, redis_eq, Program.call_bind,
      Program.done_bind, Program.pure_eq, completes_get] at completes
    split at completes
    · rename_i stale
      exact .inl ⟨stale, completes.2⟩
    · rename_i current
      refine .inr ⟨not_not.mp current, ?_⟩
      obtain ⟨reached, remaining, creates⟩ := completes_server_syncSession.mp completes
      obtain ⟨grants, valid, registered⟩ := createSession_grants creates
      refine .registered _ _ _ ?_ rfl valid registered
      cases version with
      | none => cases not_not.mp current
      | some version =>
        refine nextjs_grant.mpr ⟨configured, ?_⟩
        simp only [World.second] at remaining grants ⊢
        simpa [nextjsGrant, reached, remaining] using grants

end

end BrainMate.Reconciliation
