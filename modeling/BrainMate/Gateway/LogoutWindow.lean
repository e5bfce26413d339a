import BrainMate.Gateway.Serving
import BrainMate.Gateway.Footprint

namespace BrainMate.Gateway.LogoutWindow

open Interleaving System

section

variable (site : Deployment)

/-- The answer of a call served at one instant, with both stores up. -/
def answerAt (world : World) (call : Call) : call.Result :=
  (site.system.serveAll Outcome.success (site.program call) world).2.1

/-- A request that was to withdraw the token, and was answered with success. -/
def Withdraws (jti : String) (expiresAt : Nat) : (call : Call) → call.Result → Prop
  | .logout context, answer =>
    context.tokenId = jti ∧ context.expiresAt = expiresAt ∧ answer = .ok ()
  | .revokeSessionRequest _ (some named) (some tokenExp), answer =>
    named = jti ∧ tokenExp = expiresAt ∧ answer = .ok ()
  | _, _ => False

/-- What `jsonwebtoken`, the key set and the configured policy make of the token: its
signature is good, and the decoder accepts it until its expiry and the leeway. -/
structure Genuine (token : String) (claims : ClerkClaims) : Prop where
  hash : AuthCache.validateTokenHash (site.sha256Hex token) = .ok ()
  decodes : ∃ kid key, site.verifier.decodeHeader token = some ⟨true, some kid⟩ ∧
    site.verifier.signingKey kid = .ok key ∧
    ∀ now, site.verifier.decode site.verifier.validation key token now =
      if now ≤ claims.exp + site.verifier.validation.leeway then some claims else none
  policy : site.verifier.acceptClaims claims = .ok claims

/-- Where the token is accepted, it is found to be blacklisted. -/
def Refused (token : String) (claims : ClerkClaims) (world : World) : Prop :=
  ∀ source, answerAt site world (.getOrValidateClaims token) = .ok (claims, source) →
    answerAt site world (.isBlacklisted claims.jti) = .ok true

/-- Under the token's hash the auth cache holds claims that are still current, or
something that is no claims at all. -/
def Shadowed (token : String) (world : World) : Prop :=
  ∃ value, world.lookup (.auth (site.sha256Hex token)) = some value ∧
    ∀ cached, value = .claims cached → world.second < cached.exp

end

/-- Time has passed, and the blacklist holds for this id what it held. -/
structure Undisturbed (jti : String) (world later : World) : Prop where
  clock : world.clock ≤ later.clock
  entry : later.redis (.blacklist jti) = world.redis (.blacklist jti)
  row : later.db.blacklist.find? jti = world.db.blacklist.find? jti

theorem undisturbed_refl (jti : String) (world : World) : Undisturbed jti world world :=
  ⟨Nat.le_refl _, rfl, rfl⟩

theorem Undisturbed.trans {jti : String} {world middle later : World}
    (first : Undisturbed jti world middle) (second : Undisturbed jti middle later) :
    Undisturbed jti world later :=
  ⟨Nat.le_trans first.clock second.clock, second.entry.trans first.entry,
    second.row.trans first.row⟩

/-- A command that is not about the blacklist. -/
def Aside : Command → Prop
  | .now | .db (.revokeSession _) | .http => True
  | .redis command => ∀ jti, command.key ≠ .blacklist jti
  | .db _ => False

theorem Aside.effect {command : Command} (aside : Aside command) (jti : String) (world : World) :
    Undisturbed jti world (command.effect world) := by
  cases command with
  | now => exact undisturbed_refl jti world
  | http => exact undisturbed_refl jti world
  | db command =>
    cases command with
    | revokeSession => exact ⟨Nat.le_refl _, rfl, rfl⟩
    | _ => exact aside.elim
  | redis command =>
    refine ⟨Nat.le_of_eq (command.effect_clock world).symm, ?_, by simp [Command.effect]⟩
    simp only [Command.effect]
    rcases command.effect_cases world with same | same | ⟨_, _, same⟩ <;> rw [same]
    · exact Function.update_of_ne (aside jti).symm _ _
    · exact Function.update_of_ne (aside jti).symm _ _

variable {site : Deployment}

theorem undisturbed_tolerates (jti : String) :
    Tolerates site.system Waits (Undisturbed jti) Aside where
  refl := undisturbed_refl jti
  trans := Undisturbed.trans
  elapse := by
    rintro _ _ ⟨milliseconds, rfl⟩
    exact ⟨Nat.le_add_right _ _, rfl, rfl⟩
  command {command} aside outcome world := by
    rcases Command.exec_world outcome command world with same | same <;> simp only [same]
    · exact undisturbed_refl jti world
    · exact aside.effect jti world

theorem revokeSession_aside (sha256Hex : String → String) (db : Bool) (sessionId : String) :
    (SessionStore.revokeSession sha256Hex db sessionId).Every Aside := by
  refine (SessionStore.revokeSession_footprint sha256Hex db sessionId).imp ?_
  rintro _ (_ | _ | userId)
  · trivial
  · intro jti
    simp [RedisCommand.key]
  · intro jti
    simp [RedisCommand.key, SessionStore.userSessionCountKey]

theorem enqueue_aside (op : ReconciliationOp) : (Reconciliation.enqueue op).Every Aside := by
  refine (Reconciliation.enqueue_footprint op).imp ?_
  rintro _ (_ | _ | ⟨score, createdAt⟩)
  · trivial
  · intro jti
    simp [RedisCommand.key]
  · intro jti
    simp [RedisCommand.key]

private theorem logoutSession_aside (sha256Hex : String → String) (db reconciliation : Bool)
    (context : Auth.UserContext) :
    (Auth.logoutSession sha256Hex db reconciliation context).Every Aside := by
  refine (revokeSession_aside sha256Hex db context.sessionId).bind fun reply => ?_
  rcases reply with error | _
  · dsimp only
    split
    · exact enqueue_aside _
    · trivial
  · trivial

section

variable {before after : World} {trace : List site.system.Exchange} {jti : String}

/-- Every command was answered without an error. -/
def StoresUp (trace : List site.system.Exchange) : Prop :=
  ∀ exchange ∈ trace, acknowledged exchange.command exchange.reply = true

private theorem cacheRevocation_served {db : Bool} {ttlSecs : Nat} {answer : Except ApiError Unit}
    (executes : Executes Waits (TokenBlacklist.cacheRevocation db jti ttlSecs) before trace answer
      after) (up : StoresUp trace) :
    answer = .ok () ∧ ∃ asked, Waits before asked ∧ acceptsTtl asked.clock ttlSecs = true ∧
      after = asked.store (.blacklist jti) ⟨.text "1", some (asked.clock + ttlSecs * 1000)⟩ := by
  simp only [TokenBlacklist.cacheRevocation, redis_eq, Program.call_bind,
    Program.done_bind] at executes
  obtain ⟨asked, outcome, _, waits, rfl, continues⟩ := executes.of_call
  have answered : (Command.exec outcome (.redis (.setEx (.blacklist jti) (.text "1") ttlSecs))
      asked).1 = .ok () := ok_of_isOk (up _ (.head _))
  obtain ⟨_, accepted, stored⟩ := Command.setEx_answered answered
  rw [answered, stored] at continues
  obtain ⟨rfl, rfl, _⟩ := continues.of_done
  exact ⟨rfl, asked, waits, accepted, rfl⟩

/-- The entry lasts for the TTL from when it is stored, and so does the row from when
it is inserted, unless there is one. -/
structure Marked (db : Bool) (jti : String) (ttlSecs : Nat) (before after : World)
    (inserted stored : Nat) : Prop where
  started : before.clock ≤ inserted
  ordered : inserted ≤ stored
  finished : stored ≤ after.clock
  entry : after.redis (.blacklist jti) = some ⟨.text "1", some (stored + ttlSecs * 1000)⟩
  row : db = true → after.db.blacklist.find? jti =
    some ((before.db.blacklist.find? jti).getD ⟨jti, (inserted / 1000 + ttlSecs : Nat)⟩)

private theorem revoke_served {db : Bool} {ttlSecs : Nat} {answer : Except ApiError Unit}
    (valid : TokenBlacklist.validateTokenId jti = .ok ())
    (executes : Executes Waits (TokenBlacklist.revoke db jti ttlSecs) before trace answer after)
    (up : StoresUp trace) :
    answer = .ok () ∧ ∃ inserted stored, Marked db jti ttlSecs before after inserted stored := by
  simp only [TokenBlacklist.revoke, valid] at executes
  cases db with
  | false =>
    obtain ⟨answered, asked, ⟨milliseconds, rfl⟩, _, rfl⟩ := cacheRevocation_served executes up
    exact ⟨answered, _, _, Nat.le_add_right _ _, Nat.le_refl _, Nat.le_refl _,
      Function.update_self _ _ _, fun impossible => by cases impossible⟩
  | true =>
    simp only [↓reduceIte, nowUnixSecs_eq, database_eq, Program.call_bind,
      Program.done_bind] at executes
    obtain ⟨asked, _, _, ⟨first, rfl⟩, rfl, inserting⟩ := executes_now executes
    obtain ⟨free, outcome, _, ⟨second, rfl⟩, rfl, caching⟩ := inserting.of_call
    cases outcome with
    | lost detail => cases up _ (.tail _ (.head _))
    | applied detail => cases up _ (.tail _ (.head _))
    | success =>
      obtain ⟨answered, asked, ⟨third, rfl⟩, accepted, rfl⟩ := cacheRevocation_served caching
        fun exchange member => up exchange (.tail _ (.tail _ member))
      have exact_ : addI64 (asI64 ((before.clock + first) / 1000)) (asI64 ttlSecs) =
          ((before.clock + first) / 1000 + ttlSecs : Nat) := by
        have bounded : before.clock + first + second + third + ttlSecs * 1000 < 2 ^ 63 :=
          of_decide_eq_true (Bool.and_eq_true_iff.mp accepted).2
        exact addI64_asI64 (by omega)
      refine ⟨answered, before.clock + first, _, Nat.le_add_right _ _, ?_, Nat.le_refl _,
        Function.update_self _ _ _, fun _ => ?_⟩
      · exact Nat.le_trans (Nat.le_add_right _ _) (Nat.le_add_right _ _)
      · rw [← exact_]
        exact (before.db.blacklist.find?_insertNew _ jti).trans (if_pos rfl)

theorem Marked.widen {db : Bool} {ttlSecs inserted stored : Nat} {first last : World}
    (marked : Marked db jti ttlSecs before after inserted stored)
    (earlier : Undisturbed jti first before) (later : Undisturbed jti after last) :
    Marked db jti ttlSecs first last inserted stored where
  started := Nat.le_trans earlier.clock marked.started
  ordered := marked.ordered
  finished := Nat.le_trans marked.finished later.clock
  entry := later.entry.trans marked.entry
  row database := by rw [later.row, marked.row database, earlier.row]

/-- The token's entry is marked for what remained when the clock was read, if anything
did. -/
def MarkedUntil (db : Bool) (jti : String) (expiresAt : Nat) (before after : World) : Prop :=
  ∃ asked, before.clock ≤ asked ∧ asked ≤ after.clock ∧ (asked / 1000 < expiresAt →
    ∃ inserted stored, asked ≤ inserted ∧
      Marked db jti (expiresAt - asked / 1000) before after inserted stored)

theorem MarkedUntil.widen {db : Bool} {expiresAt : Nat} {first last : World}
    (marked : MarkedUntil db jti expiresAt before after) (earlier : Undisturbed jti first before)
    (later : Undisturbed jti after last) : MarkedUntil db jti expiresAt first last := by
  obtain ⟨asked, started, finished, marks⟩ := marked
  refine ⟨asked, Nat.le_trans earlier.clock started, Nat.le_trans finished later.clock, ?_⟩
  intro current
  obtain ⟨inserted, stored, ordered, marked⟩ := marks current
  exact ⟨inserted, stored, ordered, marked.widen earlier later⟩

/-- Both requests read the clock and revoke the token for what remains of it. -/
theorem remaining_served {α : Type} {db : Bool} {expiresAt : Nat} {result : α}
    (revocation : Nat → Procedure α) (expired : α)
    (executes : Executes Waits (Auth.remainingTtl expiresAt >>= fun ttl =>
      if 0 < ttl then revocation ttl else .done expired) before trace result after)
    (up : StoresUp trace)
    (marks : ∀ {ttl : Nat} {asked : World} {later : List site.system.Exchange},
      Executes Waits (revocation ttl) asked later result after → StoresUp later →
        ∃ inserted stored, Marked db jti ttl asked after inserted stored) :
    MarkedUntil db jti expiresAt before after := by
  simp only [Auth.remainingTtl, nowUnixSecs_eq, Program.pure_eq, Program.call_bind,
    Program.done_bind] at executes
  obtain ⟨asked, _, _, ⟨milliseconds, rfl⟩, rfl, continues⟩ := executes_now executes
  have waited : Undisturbed jti before (environment (.tick milliseconds) before) :=
    ⟨Nat.le_add_right _ _, rfl, rfl⟩
  split at continues
  · obtain ⟨inserted, stored, marked⟩ := marks continues
      fun exchange member => up exchange (.tail _ member)
    exact ⟨_, waited.clock, Nat.le_trans (Nat.le_trans marked.started marked.ordered)
      marked.finished, fun _ =>
        ⟨inserted, stored, marked.started, marked.widen waited (undisturbed_refl _ _)⟩⟩
  · rename_i nothing
    obtain ⟨_, rfl, _⟩ := continues.of_done
    exact ⟨_, waited.clock, Nat.le_refl _,
      fun current => absurd (Nat.sub_pos_of_lt current) nothing⟩

private theorem logoutToken_served {db reconciliation : Bool} {context : Auth.UserContext}
    {result : Unit}
    (valid : TokenBlacklist.validateTokenId context.tokenId = .ok ())
    (executes : Executes Waits (Auth.logoutToken db reconciliation context) before trace result
      after)
    (up : StoresUp trace) : MarkedUntil db context.tokenId context.expiresAt before after := by
  refine remaining_served _ () executes up fun revoking storesUp => ?_
  obtain ⟨_, _, reply, middle, rfl, revoking, finishing⟩ := revoking.of_bind
  obtain ⟨rfl, marked⟩ := revoke_served valid revoking
    fun exchange member => storesUp exchange (List.mem_append_left _ member)
  obtain ⟨_, rfl, _⟩ := finishing.of_done
  exact marked

private theorem withdrawal_served {expiresAt : Nat} {call : Call} {answer : call.Result}
    (valid : TokenBlacklist.validateTokenId jti = .ok ())
    (withdraws : Withdraws jti expiresAt call answer)
    (executes : Executes Waits (site.program call) before trace answer after)
    (up : StoresUp trace) : MarkedUntil site.db jti expiresAt before after := by
  unfold Withdraws at withdraws
  split at withdraws
  · rename_i context _
    obtain ⟨rfl, rfl, rfl⟩ := withdraws
    obtain ⟨_, _, _, middle, rfl, marking, continues⟩ := Executes.of_bind executes
    obtain ⟨_, _, _, last, rfl, finishing, done⟩ := continues.of_bind
    obtain ⟨_, rfl, _⟩ := done.of_done
    have kept := finishing.respects (undisturbed_tolerates context.tokenId)
      (logoutSession_aside site.sha256Hex site.db site.reconciliation context)
    exact (logoutToken_served valid marking
      fun exchange member => up exchange (List.mem_append_left _ member)).widen
        (undisturbed_refl _ _) kept
  · rename_i sessionId named _ _
    obtain ⟨rfl, rfl, rfl⟩ := withdraws
    obtain ⟨_, _, reply, middle, rfl, starting, continues⟩ := Executes.of_bind executes
    have kept := starting.respects (undisturbed_tolerates named)
      (revokeSession_aside site.sha256Hex site.db sessionId)
    rcases reply with error | _
    · cases continues.of_done.1
    · refine (remaining_served _ (Except.ok ()) continues
        (fun exchange member => up exchange (List.mem_append_right _ member))
        fun revoking storesUp => ?_).widen kept (undisturbed_refl _ _)
      exact (revoke_served valid revoking storesUp).2
  · exact withdraws.elim

end

section

variable {token jti : String} {claims : ClerkClaims}

/-- At one instant the clock shows one second. -/
theorem serve_second {α : Type} (next : Nat → Procedure α) (world : World) :
    (site.system.serveAll Outcome.success (nowUnixSecs >>= next) world).2 =
      (site.system.serveAll Outcome.success (next world.second) world).2 := rfl

/-- The row of the id is there and has not expired. -/
def listed (world : World) (jti : String) : Bool :=
  (world.db.blacklist.find? jti).any fun row => decide (asI64 world.second < row.expiresAt)

private theorem checkBlacklist_cases (world : World) (jti : String) :
    (listed world jti = true ∧ ∃ expiresAt,
      (DbCommand.checkBlacklist jti (asI64 world.second)).answer world = ⟨true, some expiresAt⟩) ∨
    (listed world jti = false ∧
      (DbCommand.checkBlacklist jti (asI64 world.second)).answer world = ⟨false, none⟩) := by
  cases found : world.db.blacklist.find? jti with
  | none => exact .inr ⟨by simp [listed, found], by simp [DbCommand.answer, found]⟩
  | some row =>
    by_cases alive : asI64 world.second < row.expiresAt
    · exact .inl ⟨by simp [listed, found, alive], row.expiresAt,
        by simp [DbCommand.answer, found, alive, Option.filter_some]⟩
    · exact .inr ⟨by simp [listed, found, alive],
        by simp [DbCommand.answer, found, alive, Option.filter_some]⟩

private theorem serve_checkBlacklist (world : World) (jti : String) :
    (site.system.serveAll Outcome.success (TokenBlacklist.checkBlacklist jti) world).2 =
      (.ok ((DbCommand.checkBlacklist jti (asI64 world.second)).answer world), world) := rfl

private theorem serve_isBlacklistedDb (world : World) (jti : String) :
    (site.system.serveAll Outcome.success (TokenBlacklist.isBlacklistedDb jti) world).2.1 =
      .ok (listed world jti) := by
  rw [TokenBlacklist.isBlacklistedDb, serveAll_bind, serve_checkBlacklist]
  rcases checkBlacklist_cases world jti with ⟨present, expiresAt, found⟩ | ⟨absent, found⟩
  · rw [present, found]
    rfl
  · rw [absent, found]
    rfl

private theorem answerAt_isBlacklisted (valid : TokenBlacklist.validateTokenId jti = .ok ())
    (world : World) : answerAt site world (.isBlacklisted jti) =
      .ok ((world.lookup (.blacklist jti)).isSome || (site.db && listed world jti)) := by
  simp only [answerAt, Deployment.program, TokenBlacklist.isBlacklisted, valid, redis_eq,
    Program.call_bind, Program.done_bind, serveAll, Command.exec, Command.answer, Command.effect,
    RedisCommand.answer, RedisCommand.effect]
  cases world.lookup (.blacklist jti) with
  | some value => rfl
  | none =>
    cases site.db with
    | false => rfl
    | true => exact serve_isBlacklistedDb world jti

theorem Genuine.serve_validateToken (genuine : Genuine site token claims) (world : World) :
    (world.second ≤ claims.exp + 10 →
      (site.system.serveAll Outcome.success (site.verifier.services.validateToken token) world).2 =
        (.ok claims, world)) ∧
    (claims.exp + 10 < world.second → ∀ accepted,
      (site.system.serveAll Outcome.success (site.verifier.services.validateToken token) world).2.1 ≠
        .ok accepted) := by
  obtain ⟨kid, key, header, signed, decodes⟩ := genuine.decodes
  have within (second : Nat) (early : second ≤ claims.exp + 10) :
      site.verifier.decode site.verifier.validation key token second = some claims :=
    (decodes second).trans (if_pos early)
  have beyond (second : Nat) (late : claims.exp + 10 < second) :
      site.verifier.decode site.verifier.validation key token second = none :=
    (decodes second).trans (if_neg (Nat.not_le_of_lt late))
  simp only [Auth.Services.validateToken, Auth.Verifier.services_getDecodingKey,
    Auth.Verifier.services_nowUnixSecs, Program.done_bind, header, signed, Bool.not_true,
    Bool.false_eq_true, ↓reduceIte, serve_second]
  refine ⟨fun early => ?_, fun late accepted => ?_⟩
  · rw [within _ early]
    exact congrArg (fun answer => (answer, world)) genuine.policy
  · rw [beyond _ late, Auth.Services.retryDecode, Auth.Verifier.services_forceRefresh,
      Program.done_bind]
    cases site.verifier.forceRefresh with
    | error error => exact fun impossible => by cases impossible
    | ok _ =>
      simp only [Auth.Verifier.services_getDecodingKey, Auth.Verifier.services_nowUnixSecs,
        Program.done_bind, signed, serve_second, beyond _ late]
      exact fun impossible => by cases impossible

private theorem serve_put (world : World) {tokenHash : String} {ttlSecs : Nat}
    (valid : AuthCache.validateTokenHash tokenHash = .ok ())
    (accepts : acceptsTtl world.clock ttlSecs = true) (claims : ClerkClaims) :
    (site.system.serveAll Outcome.success (AuthCache.put ttlSecs tokenHash claims) world).2.1 =
      .ok () := by
  simp only [AuthCache.put, valid, redis_eq, Program.call_bind, Program.done_bind, serveAll,
    Command.setEx_accepted _ _ accepts]
  rfl

/-- Without current claims in the cache, the token is decoded. -/
theorem Genuine.serve_validateAndCache (genuine : Genuine site token claims) {world : World}
    (accepts : acceptsTtl world.clock site.verifier.authCacheTtlSecs = true) :
    (∃ source, (site.system.serveAll Outcome.success
        (site.verifier.services.validateAndCache (site.sha256Hex token) token) world).2.1 =
          .ok (claims, source)) ↔ world.second ≤ claims.exp + 10 := by
  obtain ⟨within, beyond⟩ := genuine.serve_validateToken world
  rw [Auth.Services.validateAndCache, serveAll_bind]
  rcases Nat.lt_or_ge (claims.exp + 10) world.second with late | early
  · refine iff_of_false ?_ (Nat.not_le_of_lt late)
    cases answered : (site.system.serveAll Outcome.success (site.verifier.services.validateToken token)
        world).2.1 with
    | error error =>
      rintro ⟨_, impossible⟩
      cases impossible
    | ok accepted => exact absurd answered (beyond late accepted)
  · refine iff_of_true ⟨.jwks, ?_⟩ early
    rw [within early, serveAll_bind, Auth.Verifier.services_putCached,
      serve_put world genuine.hash accepts]
    rfl

private theorem serve_get (world : World) {tokenHash : String}
    (valid : AuthCache.validateTokenHash tokenHash = .ok ()) :
    (∃ error, (site.system.serveAll Outcome.success (AuthCache.get tokenHash) world).2 =
        (.error error, world) ∧ ∃ value, world.lookup (.auth tokenHash) = some value ∧
          ∀ cached, value ≠ .claims cached) ∨
      ∃ cached, (site.system.serveAll Outcome.success (AuthCache.get tokenHash) world).2 =
        (.ok cached, world) ∧ world.lookup (.auth tokenHash) = cached.map .claims := by
  simp only [AuthCache.get, valid, redis_eq, Program.call_bind, Program.done_bind, serveAll,
    Command.exec, Command.answer, Command.effect, RedisCommand.answer, RedisCommand.effect]
  cases world.lookup (.auth tokenHash) with
  | none => exact .inr ⟨none, rfl, rfl⟩
  | some value =>
    cases value with
    | claims cached => exact .inr ⟨some cached, rfl, rfl⟩
    | _ => exact .inl ⟨_, rfl, _, rfl, fun _ => by simp⟩

/-- From its expiry on a genuine token is decoded again, unless something else is cached. -/
theorem Genuine.accepted_iff (genuine : Genuine site token claims) {world : World}
    (accepts : acceptsTtl world.clock site.verifier.authCacheTtlSecs = true)
    (late : claims.exp ≤ world.second) :
    (∃ source, answerAt site world (.getOrValidateClaims token) = .ok (claims, source)) ↔
      world.second ≤ claims.exp + 10 ∧ ¬ Shadowed site token world := by
  have decoded := genuine.serve_validateAndCache accepts
  simp only [answerAt, Deployment.program, Auth.Verifier.getOrValidateClaims,
    Auth.Services.getOrValidateClaims, Auth.Verifier.services_getCached,
    Auth.Verifier.services_nowUnixSecs, serveAll_bind]
  rcases serve_get world genuine.hash with ⟨error, answered, value, found, foreign⟩ |
    ⟨_ | cached, answered, found⟩ <;> rw [answered]
  · refine iff_of_false ?_ fun holds => holds.2 ⟨value, found, ?_⟩
    · rintro ⟨_, impossible⟩
      cases impossible
    · exact fun cached same => absurd same (foreign cached)
  · refine decoded.trans ⟨fun early => ⟨early, ?_⟩, fun holds => holds.1⟩
    rintro ⟨value, present, _⟩
    rw [found] at present
    cases present
  · dsimp only
    rw [serve_second]
    split
    · rename_i current
      refine iff_of_false ?_ fun holds => holds.2 ⟨.claims cached, found, ?_⟩
      · rintro ⟨_, same⟩
        cases same
        omega
      · rintro _ ⟨⟩
        exact current
    · rename_i outdated
      refine decoded.trans ⟨fun early => ⟨early, ?_⟩, fun holds => holds.1⟩
      rintro ⟨value, present, current⟩
      rw [found] at present
      cases present
      exact outdated (current cached rfl)

theorem Genuine.tokenId (genuine : Genuine site token claims) :
    TokenBlacklist.validateTokenId claims.jti = .ok () := by
  have policy := genuine.policy
  unfold Auth.Verifier.acceptClaims at policy
  split at policy
  · cases policy
  · split at policy
    · cases policy
    · split at policy
      · cases policy
      · assumption

private theorem listed_iff {world : World} (bounded : world.second < 2 ^ 63) :
    listed world jti = true ↔
      ∃ row, world.db.blacklist.find? jti = some row ∧ (world.second : Int) < row.expiresAt := by
  simp [listed, Option.any_eq_true, asI64_of_lt bounded]

private theorem lookup_isSome {world : World} {key : RedisKey} {value : RedisValue} {deadline : Nat}
    (stored : world.redis key = some ⟨value, some deadline⟩) :
    (world.lookup key).isSome = decide (world.clock < deadline) := by
  simp only [World.lookup, stored, Option.filter_some, RedisEntry.alive]
  split <;> simp_all

/-- The marks of a withdrawal answer a check until they expire. -/
theorem Marked.isBlacklisted_iff {before after later : World} {ttlSecs inserted stored : Nat}
    (marked : Marked site.db jti ttlSecs before after inserted stored)
    (kept : Undisturbed jti after later) (valid : TokenBlacklist.validateTokenId jti = .ok ())
    (bounded : later.second < 2 ^ 63) :
    answerAt site later (.isBlacklisted jti) = .ok true ↔
      later.clock < stored + ttlSecs * 1000 ∨ (site.db = true ∧ (later.second : Int) <
        ((before.db.blacklist.find? jti).getD ⟨jti, (inserted / 1000 + ttlSecs : Nat)⟩).expiresAt) := by
  rw [answerAt_isBlacklisted valid, lookup_isSome (kept.entry.trans marked.entry),
    Except.ok.injEq, Bool.or_eq_true, Bool.and_eq_true, decide_eq_true_eq, listed_iff bounded]
  refine or_congr_right (and_congr_right fun database => ?_)
  rw [kept.row, marked.row database]
  simp

end

private theorem second_of_acceptsTtl {world : World} {ttlSecs : Nat}
    (accepts : acceptsTtl world.clock ttlSecs = true) : world.second < 2 ^ 63 := by
  have bounded : world.clock + ttlSecs * 1000 < 2 ^ 63 :=
    of_decide_eq_true (Bool.and_eq_true_iff.mp accepts).2
  unfold World.second
  omega

/-- Once the token has expired, only a row that was there before can last. -/
theorem older_row_iff {found : Option DbBlacklisted} {jti : String} {second expiresAt : Nat}
    (late : ¬ second < expiresAt) :
    (second : Int) < (found.getD ⟨jti, expiresAt⟩).expiresAt ↔
      ∃ row, found = some row ∧ (second : Int) < row.expiresAt := by
  cases found with
  | none => simpa using Nat.le_of_not_lt late
  | some row => simp

/-- A withdrawn token is refused before its expiry and after the leeway, however long the
request took. In between it is refused only while the rest of the second in which the
request was served lasts, or if an older row of the blacklist lasts longer. -/
theorem refused_iff_covered (site : Deployment) (token : String) (claims : ClerkClaims)
    (call : Call) (answer : call.Result) (before after later : World)
    (trace : List site.system.Exchange) (genuine : Genuine site token claims)
    (executes : Executes Waits (site.program call) before trace answer after)
    (withdraws : Withdraws claims.jti claims.exp call answer) (up : StoresUp trace)
    (kept : Undisturbed claims.jti after later)
    (accepts : acceptsTtl later.clock site.verifier.authCacheTtlSecs = true) :
    (later.second < claims.exp ∨ claims.exp + 10 < later.second →
      Refused site token claims later) ∧
    (after.clock = before.clock → before.second < claims.exp →
      (Refused site token claims later ↔ claims.exp + 10 < later.second ∨
        later.clock < claims.exp * 1000 + before.clock % 1000 ∨
        (site.db = true ∧ ∃ row, before.db.blacklist.find? claims.jti = some row ∧
          (later.second : Int) < row.expiresAt) ∨ Shadowed site token later)) := by
  have bounded := second_of_acceptsTtl accepts
  obtain ⟨asked, started, finished, marks⟩ :=
    withdrawal_served genuine.tokenId withdraws executes up
  have refused_late (late : claims.exp + 10 < later.second) : Refused site token claims later := by
    intro source accepted
    have early := ((genuine.accepted_iff accepts (by omega)).mp ⟨source, accepted⟩).1
    omega
  refine ⟨?_, fun instant current => ?_⟩
  · rintro (early | late)
    · intro _ _
      have current : asked / 1000 < claims.exp :=
        Nat.lt_of_le_of_lt (Nat.div_le_div_right (Nat.le_trans finished kept.clock)) early
      obtain ⟨inserted, stored, ordered, marked⟩ := marks current
      refine (marked.isBlacklisted_iff kept genuine.tokenId bounded).mpr (.inl ?_)
      have := marked.ordered
      unfold World.second at early
      omega
    · exact refused_late late
  · have known : asked = before.clock := by omega
    subst known
    obtain ⟨inserted, stored, ordered, marked⟩ := marks current
    have started := marked.started
    have between := marked.ordered
    have finished := marked.finished
    obtain ⟨rfl, rfl⟩ : inserted = before.clock ∧ stored = before.clock := by omega
    have blacklisted := marked.isBlacklisted_iff kept genuine.tokenId bounded
    have deadline : before.clock + (claims.exp - before.clock / 1000) * 1000 =
        claims.exp * 1000 + before.clock % 1000 := by
      unfold World.second at current
      omega
    have expiry : before.clock / 1000 + (claims.exp - before.clock / 1000) = claims.exp :=
      Nat.add_sub_of_le (Nat.le_of_lt current)
    rw [deadline, expiry] at blacklisted
    by_cases early : later.second < claims.exp
    · have alive : later.clock < claims.exp * 1000 + before.clock % 1000 := by
        unfold World.second at early
        omega
      exact iff_of_true (fun _ _ => blacklisted.mpr (.inl alive)) (.inr (.inl alive))
    · have accepted := genuine.accepted_iff accepts (Nat.le_of_not_lt early)
      rw [Refused, ← exists_imp, accepted, blacklisted, older_row_iff early, ← Nat.not_lt]
      grind

private theorem sample_genuine : Genuine (Sample.site true) Sample.bearerToken Sample.claims where
  hash := by decide +kernel
  decodes := by
    refine ⟨"kid_1", (), rfl, rfl, fun now => ?_⟩
    exact if_congr (and_iff_right rfl) rfl rfl
  policy := by decide +kernel

/-- The caller of the logout, as the middleware made it from the claims. -/
def caller : Auth.UserContext :=
  ⟨"user_1", "sid_1", "jti_1", "https://clerk.example.com", none, none, some 1000, 2000⟩

/-- A logout served 500 seconds before the token expires. -/
def loggedOut : List (Sample.site true).system.Exchange × Except ApiError Unit × World :=
  Sample.served true (.logout caller) (World.empty 1500000)

def afterLogout (seconds : Nat) : World := environment (.tick (seconds * 1000)) loggedOut.2.2

private theorem loggedOut_storesUp : StoresUp loggedOut.1 := by
  have evaluated : (loggedOut.1.all fun exchange =>
      acknowledged exchange.command exchange.reply) = true := by decide +kernel
  exact List.all_eq_true.mp evaluated

private theorem loggedOut_executes : Executes Waits ((Sample.site true).program (.logout caller))
    (World.empty 1500000) loggedOut.1 (.ok ()) loggedOut.2.2 := by
  have answered : (Sample.served true (.logout caller) (World.empty 1500000)).2.1 = .ok () := by
    decide +kernel
  exact (Sample.executes_served answered).mono waits_of_eq

theorem refused_before_expiry :
    Refused (Sample.site true) Sample.bearerToken Sample.claims (afterLogout 499) ∧
      answerAt (Sample.site true) (afterLogout 499) (.getOrValidateClaims Sample.bearerToken) =
        .ok (Sample.claims, .jwks) := by
  refine ⟨?_, by decide +kernel⟩
  exact (refused_iff_covered (Sample.site true) Sample.bearerToken Sample.claims (.logout caller)
    (.ok ()) (World.empty 1500000) loggedOut.2.2 (afterLogout 499) loggedOut.1 sample_genuine
    loggedOut_executes ⟨rfl, rfl, rfl⟩ loggedOut_storesUp ⟨Nat.le_add_right _ _, rfl, rfl⟩
    (by decide +kernel)).1 (.inl (by decide +kernel))

/-- Five seconds after its expiry the logged-out token is accepted, and the blacklist has
forgotten it. -/
theorem accepted_after_logout :
    Genuine (Sample.site true) Sample.bearerToken Sample.claims ∧
      Executes Waits ((Sample.site true).program (.logout caller)) (World.empty 1500000)
        loggedOut.1 (.ok ()) loggedOut.2.2 ∧
      Withdraws Sample.claims.jti Sample.claims.exp (.logout caller) (.ok ()) ∧
      StoresUp loggedOut.1 ∧ Undisturbed Sample.claims.jti loggedOut.2.2 (afterLogout 505) ∧
      ¬ Refused (Sample.site true) Sample.bearerToken Sample.claims (afterLogout 505) := by
  refine ⟨sample_genuine, loggedOut_executes, ⟨rfl, rfl, rfl⟩, loggedOut_storesUp,
    ⟨Nat.le_add_right _ _, rfl, rfl⟩, fun refused => ?_⟩
  have accepted : answerAt (Sample.site true) (afterLogout 505)
      (.getOrValidateClaims Sample.bearerToken) = .ok (Sample.claims, .jwks) := by decide +kernel
  have forgotten : answerAt (Sample.site true) (afterLogout 505)
      (.isBlacklisted Sample.claims.jti) = .ok false := by decide +kernel
  have impossible := refused .jwks accepted
  rw [forgotten] at impossible
  cases impossible

end BrainMate.Gateway.LogoutWindow
