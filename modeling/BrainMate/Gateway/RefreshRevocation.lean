import BrainMate.Gateway.Effects

namespace BrainMate.Gateway.RefreshRevocation

open Interleaving System

def isTokenCall : Call → Bool
  | .issue _ _ _ _ | .validate _ | .rotate _ _ _ | .revoke _ => true
  | _ => false

/-- Runs of the four token operations, with any failures and evictions. -/
def refreshTraffic (site : Deployment) : site.system.Config → site.system.Action → Prop :=
  Starts isTokenCall

instance (site : Deployment) (config : site.system.Config) (action : site.system.Action) :
    Decidable (refreshTraffic site config action) :=
  inferInstanceAs (Decidable (Starts isTokenCall config action))

/-- Once a revocation of a token that has a row was acknowledged, or a rotation of
the token was, no validation that starts afterwards succeeds. -/
def RevocationFinal (site : Deployment) (token : String)
    (permitted : site.system.Config → site.system.Action → Prop) : Prop :=
  ∀ (clock : Nat) (before between after : List site.system.Action)
    (present acknowledged final : site.system.Config) (client validator : Nat)
    (answer : Except ApiError RefreshTokenRecord),
    Run permitted (.initial (World.empty clock)) before present →
    present.threads client = .idle →
    Run permitted present between acknowledged →
    (TokenPresent (site.sha256Hex token) present.world ∧
        acknowledged.threads client = .returned (.revoke token) (.ok ()) ∨
      ∃ new expiresAt, acknowledged.threads client =
        .returned (.rotate token new expiresAt) (.ok .rotated)) →
    acknowledged.threads validator = .idle →
    Run permitted acknowledged after final →
    final.threads validator = .returned (.validate token) answer →
    answer.isOk = false

/-- A write of the token's record is harmless for a marked row: a live record is
not stored, and a marked one is stored if it has to replace a live one. -/
def CacheFollows (tokenHash : String) (world : World) (command : Command) (outcome : Outcome) :
    Prop :=
  match command.cachesToken tokenHash with
  | none => True
  | some (record, ttlSecs) =>
    let stored := outcome.takesEffect && acceptsTtl world.clock ttlSecs
    if record.revoked then CachedLive tokenHash world → stored = true else stored = false

instance (tokenHash : String) (world : World) (command : Command) (outcome : Outcome) :
    Decidable (CacheFollows tokenHash world command outcome) := by
  unfold CacheFollows
  split <;> infer_instance

/-- The cache follows the marked row, and the row is not deleted. -/
def cacheRules (site : Deployment) (tokenHash : String) : site.system.Rules where
  admits world command outcome :=
    (command = .db .cleanupExpiredAuth → TokenPresent tokenHash world →
      TokenPresent tokenHash (Command.effect (.db .cleanupExpiredAuth) world)) ∧
    (TokenRevoked tokenHash world → CacheFollows tokenHash world command outcome)
  occurs _ _ := True

instance (site : Deployment) (tokenHash : String) (world : World) (command : Command)
    (outcome : Outcome) : Decidable ((cacheRules site tokenHash).admits world command outcome) := by
  unfold cacheRules
  infer_instance

instance (site : Deployment) (tokenHash : String) (world : World) (event : Event) :
    Decidable ((cacheRules site tokenHash).occurs world event) := by
  unfold cacheRules
  infer_instance

/-- The row is marked and Redis holds no live record. -/
def Shut (tokenHash : String) (world : World) : Prop :=
  TokenRevoked tokenHash world ∧ ¬ CachedLive tokenHash world

section

variable {site : Deployment} {tokenHash : String}

private theorem present_effect {world : World} {command : Command} {outcome : Outcome}
    (admitted : (cacheRules site tokenHash).admits world command outcome)
    (present : TokenPresent tokenHash world) : TokenPresent tokenHash (command.effect world) := by
  by_cases cleanup : command = .db .cleanupExpiredAuth
  · subst command
    exact admitted.1 rfl present
  · exact present.effect cleanup

private theorem revoked_effect {world : World} {command : Command} {outcome : Outcome}
    (admitted : (cacheRules site tokenHash).admits world command outcome)
    (revoked : TokenRevoked tokenHash world) : TokenRevoked tokenHash (command.effect world) := by
  by_cases cleanup : command = .db .cleanupExpiredAuth
  · subst command
    obtain ⟨row, found, marked⟩ := revoked
    obtain ⟨after, kept⟩ := admitted.1 rfl ⟨row, found⟩
    have stored : world.db.refreshTokens.find? tokenHash = some after := by
      simp only [Command.effect, cleanup_token, Option.filter_eq_some_iff] at kept
      exact kept.1
    rw [found] at stored
    cases stored
    exact ⟨row, kept, marked⟩
  · exact revoked.effect cleanup

theorem present_stable : (cacheRules site tokenHash).Stable (TokenPresent tokenHash) where
  command world command outcome admitted _ present := by
    rcases Command.exec_world outcome command world with same | same <;> simp only [same]
    · exact present
    · exact present_effect admitted present
  event world event _ present := by simpa [TokenPresent] using present

theorem revoked_stable : (cacheRules site tokenHash).Stable (TokenRevoked tokenHash) where
  command world command outcome admitted _ revoked := by
    rcases Command.exec_world outcome command world with same | same <;> simp only [same]
    · exact revoked
    · exact revoked_effect admitted revoked
  event world event _ revoked := by simpa [TokenRevoked] using revoked

theorem shut_stable : (cacheRules site tokenHash).Stable (Shut tokenHash) where
  command world command outcome admitted ensured shut := by
    refine ⟨revoked_stable.command world command outcome admitted ensured shut.1, ?_⟩
    rintro ⟨record, cached, live⟩
    cases effective : outcome.takesEffect with
    | false =>
      simp only [Command.exec_lost effective] at cached
      exact shut.2 ⟨record, cached, live⟩
    | true =>
      simp only [Command.exec_effect effective] at cached
      rcases command.effect_cached world cached with before | ⟨ttlSecs, writes, accepted⟩
      · exact shut.2 ⟨record, before, live⟩
      · have follows := admitted.2 shut.1
        simp [CacheFollows, writes, live, effective, accepted] at follows
  event world event occurs shut := by
    refine ⟨revoked_stable.event world event occurs shut.1, ?_⟩
    rintro ⟨record, cached, live⟩
    exact shut.2 ⟨record, environment_cached cached, live⟩

/-- Writing the marked record shuts the token, whether Redis answered or not. -/
theorem mark_shuts {world : World} {outcome : Outcome} {record : RefreshTokenRecord}
    {ttlSecs : Nat} (marked : record.revoked = true) (revoked : TokenRevoked tokenHash world)
    (admitted : (cacheRules site tokenHash).admits world
      (.redis (.setEx (.refresh tokenHash) (.refresh record) ttlSecs)) outcome) :
    Shut tokenHash (Command.exec outcome
      (.redis (.setEx (.refresh tokenHash) (.refresh record) ttlSecs)) world).2 := by
  refine ⟨revoked_stable.command _ _ _ admitted trivial revoked, ?_⟩
  rintro ⟨other, cached, live⟩
  have follows := admitted.2 revoked
  simp only [CacheFollows, Command.cachesToken, ↓reduceIte, marked, Bool.and_eq_true] at follows
  by_cases stored : outcome.takesEffect = true ∧ acceptsTtl world.clock ttlSecs = true
  · rw [Command.exec_effect stored.1] at cached
    simp only [Command.effect, RedisCommand.effect, stored.2, ↓reduceIte,
      World.lookup_store_same, Option.map_eq_some_iff, Option.filter_eq_some_iff] at cached
    obtain ⟨entry, ⟨identical, _⟩, same⟩ := cached
    cases identical
    cases same
    rw [marked] at live
    cases live
  · -- Nothing was stored, so the live record was there before.
    refine stored (follows ⟨other, ?_, live⟩)
    cases effective : outcome.takesEffect with
    | false => rwa [Command.exec_lost effective] at cached
    | true =>
      have rejected : acceptsTtl world.clock ttlSecs = false := by
        simpa [effective] using stored
      rw [Command.exec_effect effective] at cached
      simpa [Command.effect, RedisCommand.effect, rejected] using cached

/-- A read that finds nothing under the key of a marked row shows it shut. -/
theorem getRefreshJson_missed :
    (cacheRules site tokenHash).Outline (TokenRevoked tokenHash)
      (fun reply world => TokenRevoked tokenHash world ∧ (reply = .ok none → Shut tokenHash world))
      (RefreshStore.getRefreshJson (.refresh tokenHash)) := by
  simp only [RefreshStore.getRefreshJson, redis_eq, Program.call_bind, Program.done_bind]
  refine ⟨fun reply world => TokenRevoked tokenHash world ∧ (reply = .ok none → Shut tokenHash world),
    fun _ => revoked_stable.and (.imp fun _ => shut_stable), ?_, ?_⟩
  · intro world outcome revoked admitted
    have still := revoked_stable.command world _ outcome admitted trivial revoked
    refine ⟨trivial, still, fun missed => ⟨still, ?_⟩⟩
    rintro ⟨record, cached, _⟩
    cases outcome with
    | lost => cases missed
    | applied => cases missed
    | success =>
      have absent : world.lookup (.refresh tokenHash) = none := Except.ok.inj missed
      simp [Command.exec, Command.effect, RedisCommand.effect, absent] at cached
  · intro reply
    rcases reply with error | _ | raw
    · exact fun _ holds => ⟨holds.1, by simp⟩
    · exact fun _ holds => ⟨holds.1, fun _ => holds.2 rfl⟩
    · intro world holds
      refine ⟨holds.1, ?_⟩
      cases raw.asRefresh <;> simp [Except.map]

/-- What a reader finds in Redis for a shut token is marked. -/
theorem getRefreshJson_marked :
    (cacheRules site tokenHash).Outline (Shut tokenHash)
      (fun reply world => (∀ record, reply = .ok (some record) → record.revoked = true) ∧
        Shut tokenHash world)
      (RefreshStore.getRefreshJson (.refresh tokenHash)) := by
  simp only [RefreshStore.getRefreshJson, redis_eq, Program.call_bind, Program.done_bind]
  refine .learn (fun reply => ∀ record, reply = .ok (some (.refresh record)) →
    record.revoked = true) shut_stable ?_ ?_
  · intro world outcome shut _
    refine ⟨trivial, fun record answered => ?_⟩
    cases outcome with
    | lost => cases answered
    | applied => cases answered
    | success =>
      have cached : world.lookup (.refresh tokenHash) = some (.refresh record) :=
        Except.ok.inj answered
      by_contra live
      exact shut.2 ⟨record, cached, by simpa using live⟩
  · intro reply marked
    rcases reply with error | _ | raw
    · exact fun _ shut => ⟨by simp, shut⟩
    · exact fun _ shut => ⟨by simp, shut⟩
    · refine fun _ shut => ⟨fun record answered => ?_, shut⟩
      cases raw <;> simp [RedisValue.asRefresh, Except.map] at answered
      subst answered
      exact marked _ rfl

end

section

variable {site : Deployment} (sha256Hex : String → String) {token : String}

theorem markRevoked_outline :
    (cacheRules site (sha256Hex token)).Outline (TokenRevoked (sha256Hex token))
      (fun answer world => answer = .ok () → Shut (sha256Hex token) world)
      (RefreshStore.markRevoked sha256Hex true token) := by
  refine getRefreshJson_missed.bind fun reply => ?_
  rcases reply with error | _ | record
  · exact fun _ _ impossible => by cases impossible
  · exact fun _ holds _ => holds.2 rfl
  · refine (Rules.Outline.bind (.keep (fun _ _ _ => trivial) revoked_stable _) ?_).strengthen
      fun _ holds => holds.1
    intro remaining
    simp only [redis_eq, Program.call_bind, Program.done_bind]
    refine ⟨fun _ => Shut (sha256Hex token), fun _ => shut_stable, ?_, ?_⟩
    · exact fun world outcome revoked admitted => ⟨trivial, mark_shuts rfl revoked admitted⟩
    · intro reply
      cases reply <;> exact fun _ shut _ => shut

theorem revoke_outline :
    (cacheRules site (sha256Hex token)).Outline (TokenPresent (sha256Hex token))
      (fun answer world => answer = .ok () → Shut (sha256Hex token) world)
      (RefreshStore.revoke sha256Hex true token) := by
  unfold RefreshStore.revoke
  split
  · exact fun _ _ impossible => by cases impossible
  · simp only [↓reduceIte, database_eq, Program.call_bind, Program.done_bind]
    refine ⟨fun reply world => reply = .ok () → TokenRevoked (sha256Hex token) world,
      fun _ => .imp fun _ => revoked_stable, ?_, ?_⟩
    · intro world outcome present _
      refine ⟨trivial, fun answered => ?_⟩
      cases outcome with
      | lost => cases answered
      | applied => cases answered
      | success =>
        obtain ⟨row, found⟩ := present
        have sameHash : row.tokenHash = sha256Hex token := world.db.refreshTokens.find?_key found
        simp only [Command.exec, Command.effect, DbCommand.effect, TokenRevoked,
          DbCommand.revokeTokensWhere, Storage.Table.find?_updateWhere, found, Option.map_some]
        refine ⟨_, rfl, ?_⟩
        cases marked : row.revoked <;> simp [sameHash, marked]
    · intro reply
      cases reply with
      | error error => exact fun _ _ impossible => by cases impossible
      | ok value => exact (markRevoked_outline sha256Hex).strengthen fun _ revoked => revoked rfl

/-- The write of the consumed record shuts the token; the rest keeps it shut. -/
theorem cacheRotation_outline (new : String) (oldRecord : RefreshTokenRecord)
    (newRecord : DbRefreshToken) (newTtl : Nat) :
    (cacheRules site (sha256Hex token)).Outline (TokenRevoked (sha256Hex token))
      (fun _ => Shut (sha256Hex token))
      (RefreshStore.cacheRotation sha256Hex token new oldRecord newRecord newTtl) := by
  simp only [RefreshStore.cacheRotation, nowUnixSecs_eq, redis_eq, Program.call_bind,
    Program.done_bind]
  refine .skip revoked_stable (fun _ _ _ _ => trivial) fun millis => ?_
  refine ⟨fun _ => Shut (sha256Hex token), fun _ => shut_stable, ?_, ?_⟩
  · exact fun world outcome revoked admitted => ⟨trivial, mark_shuts rfl revoked admitted⟩
  · exact fun _ => .keep (fun _ _ _ => trivial) shut_stable _

theorem rotateRecordDb_outline (new : String) (expiresAt newTtl : Nat)
    (record : RefreshTokenRecord) :
    (cacheRules site (sha256Hex token)).Outline (fun _ => True)
      (fun answer world => answer = .ok .rotated → Shut (sha256Hex token) world)
      (RefreshStore.rotateRecordDb sha256Hex token new expiresAt newTtl record) := by
  simp only [RefreshStore.rotateRecordDb, RefreshStore.rotateRefreshTokenTx, nowUnixSecs_eq,
    database_eq, Program.call_bind, Program.done_bind]
  refine .skip (.pure True) (fun _ _ _ _ => trivial) fun millis => ?_
  refine ⟨fun reply world => ∀ row, reply = .ok (some row) → TokenRevoked (sha256Hex token) world,
    ?_, ?_, ?_⟩
  · intro reply
    exact ⟨fun world command outcome admitted ensured holds row answered =>
        revoked_stable.command world command outcome admitted ensured (holds row answered),
      fun world event occurs holds row answered =>
        revoked_stable.event world event occurs (holds row answered)⟩
  · intro world outcome _ _
    refine ⟨trivial, fun row answered => ?_⟩
    obtain ⟨rfl, gate, _⟩ := rotateTx_answered answered
    exact rotateTx_revokes gate
  · intro reply
    rcases reply with error | _ | row
    · exact fun _ _ impossible => by cases impossible
    · refine (Rules.Outline.bind (.keep (fun _ _ _ => trivial) (.pure True) _) ?_).strengthen
        fun _ _ => trivial
      exact fun _ _ _ impossible => by cases impossible
    · refine ((cacheRotation_outline sha256Hex new record row newTtl).weaken ?_).strengthen ?_
      · exact fun _ _ shut _ => shut
      · exact fun _ revoked => revoked row rfl

theorem doRotateDb_outline (new : String) (expiresAt newTtl : Nat) :
    (cacheRules site (sha256Hex token)).Outline (fun _ => True)
      (fun answer world => answer = .ok .rotated → Shut (sha256Hex token) world)
      (RefreshStore.doRotateDb sha256Hex token new expiresAt newTtl) := by
  refine Rules.Outline.bind (.keep (fun _ _ _ => trivial) (.pure True) _) fun reply => ?_
  rcases reply with error | _ | record
  · exact fun _ _ impossible => by cases impossible
  · exact fun _ _ impossible => by cases impossible
  · refine Rules.Outline.bind (.keep (fun _ _ _ => trivial) (.pure True) _) fun spent => ?_
    cases spent with
    | true => exact fun _ _ impossible => by cases impossible
    | false => exact rotateRecordDb_outline sha256Hex new expiresAt newTtl record

theorem rotate_outline (new : String) (expiresAt : Nat) :
    (cacheRules site (sha256Hex token)).Outline (fun _ => True)
      (fun answer world => answer = .ok .rotated → Shut (sha256Hex token) world)
      (RefreshStore.rotate sha256Hex true token new expiresAt) := by
  unfold RefreshStore.rotate
  split
  · exact fun _ _ impossible => by cases impossible
  · split
    · exact fun _ _ impossible => by cases impossible
    · refine Rules.Outline.bind (.keep (fun _ _ _ => trivial) (.pure True) _) fun reply => ?_
      cases reply with
      | error error => exact fun _ _ impossible => by cases impossible
      | ok newTtl =>
        simp only [RefreshStore.rotateLocked, redis_eq, Program.call_bind, Program.done_bind]
        refine .skip (.pure True) (fun _ _ _ _ => trivial) fun locked => ?_
        rcases locked with error | _ | _
        · exact fun _ _ impossible => by cases impossible
        · exact fun _ _ impossible => by cases impossible
        · refine (doRotateDb_outline sha256Hex new expiresAt newTtl).bind fun result => ?_
          simp only [RefreshStore.releaseLock, redis_eq, Program.call_bind, Program.done_bind]
          refine .skip (.imp fun _ => shut_stable) (fun _ _ _ _ => trivial) fun _ => ?_
          exact fun _ holds => holds

theorem validateDb_outline :
    (cacheRules site (sha256Hex token)).Outline (Shut (sha256Hex token))
      (fun answer _ => answer.isOk = false) (RefreshStore.validateDb sha256Hex token) := by
  simp only [RefreshStore.validateDb, database_eq, Program.call_bind, Program.done_bind]
  refine .learn (fun reply => ∀ row, reply = .ok (some row) → row.revoked = true) shut_stable ?_ ?_
  · intro world outcome shut _
    refine ⟨trivial, fun row answered => ?_⟩
    obtain ⟨⟨stored, found, marked⟩, _⟩ := shut
    cases outcome with
    | lost => cases answered
    | applied => cases answered
    | success =>
      have same : world.db.refreshTokens.find? (sha256Hex token) = some row :=
        Except.ok.inj answered
      rw [found] at same
      cases same
      exact marked
  · intro reply marked
    rcases reply with error | _ | row
    · exact fun _ _ => rfl
    · exact fun _ _ => rfl
    · simp only [RefreshStore.recordOfRow, RefreshStore.validateRecord, marked row rfl, ↓reduceIte]
      exact fun _ _ => rfl

theorem validate_outline :
    (cacheRules site (sha256Hex token)).Outline (Shut (sha256Hex token))
      (fun answer _ => answer.isOk = false) (RefreshStore.validate sha256Hex true token) := by
  unfold RefreshStore.validate
  split
  · exact fun _ _ => rfl
  · refine getRefreshJson_marked.bind fun reply => ?_
    rcases reply with error | _ | record
    · exact (validateDb_outline sha256Hex).strengthen fun _ holds => holds.2
    · exact (validateDb_outline sha256Hex).strengthen fun _ holds => holds.2
    · by_cases marked : record.revoked = true
      · simp only [RefreshStore.validateRecord, marked, ↓reduceIte]
        exact fun _ _ => rfl
      · exact .absurd (fun _ holds => marked (holds.1 record rfl)) _

end

/-- Withdrawal is final in every run in which the cache follows the marked row. -/
theorem withdrawal_final_of_cache_follows (site : Deployment) (token : String) :
    RevocationFinal { site with db := true } token
      (cacheRules { site with db := true } (site.sha256Hex token)).permits := by
  intro clock before between after present acknowledged final client validator answer
    _ idle acting withdrawn fresh validating validated
  have shut : Shut (site.sha256Hex token) acknowledged.world := by
    rcases withdrawn with ⟨exists_, revoked⟩ | ⟨new, expiresAt, rotated⟩
    · exact acting.outline
        (fun answer world => answer = Except.ok () → Shut (site.sha256Hex token) world)
        (fun _ _ permitted => permitted) (fun _ _ _ => trivial) (revoke_outline site.sha256Hex)
        present_stable (fun _ => .imp fun _ => shut_stable) idle exists_ revoked rfl
    · exact acting.outline
        (fun answer world => answer = Except.ok .rotated → Shut (site.sha256Hex token) world)
        (fun _ _ permitted => permitted) (fun _ _ _ => trivial)
        (rotate_outline site.sha256Hex new expiresAt) (.pure True)
        (fun _ => .imp fun _ => shut_stable) idle trivial rotated rfl
  exact validating.outline
    (fun (answer : Except ApiError RefreshTokenRecord) _ => answer.isOk = false)
    (fun _ _ permitted => permitted) (fun _ _ _ => trivial) (validate_outline site.sha256Hex)
    shut_stable (fun _ => .pure _) fresh shut validated

theorem withdrawn_token_refused :
    ∃ acknowledged last,
      Run (cacheRules (Sample.site true) (Sample.sha256Hex Sample.oldToken)).permits acknowledged
        ((Sample.site true).serve 3 (.validate Sample.oldToken) 2) last ∧
      acknowledged.threads 1 = .returned
        (.rotate Sample.oldToken Sample.newToken Sample.expiry) (.ok .rotated) ∧
      ∃ answer, last.threads 3 = .returned (.validate Sample.oldToken) answer ∧
        answer.isOk = false := by
  -- The marked record is evicted before the validation, which then asks the database.
  have evaluated : Config.runsTo
      (cacheRules (Sample.site true) (Sample.sha256Hex Sample.oldToken)).permits
      (.initial (World.empty 1000000))
      ((Sample.site true).serve 0 (.issue Sample.oldToken "user_1" "device_1" Sample.expiry) 3)
      (fun present => (present.threads 1).isIdle &&
        present.runsTo (cacheRules (Sample.site true) (Sample.sha256Hex Sample.oldToken)).permits
          ((Sample.site true).serve 1
              (.rotate Sample.oldToken Sample.newToken Sample.expiry) 10 ++
            [.environment (.evict (.refresh (Sample.sha256Hex Sample.oldToken)))])
          (fun acknowledged =>
            decide (acknowledged.answer? 1
              (.rotate Sample.oldToken Sample.newToken Sample.expiry) = some (.ok .rotated)) &&
            (acknowledged.threads 3).isIdle &&
            acknowledged.runsTo
              (cacheRules (Sample.site true) (Sample.sha256Hex Sample.oldToken)).permits
              ((Sample.site true).serve 3 (.validate Sample.oldToken) 2)
              (fun last => (last.answer? 3 (.validate Sample.oldToken)).isSome))) = true := by
    decide +kernel
  obtain ⟨present, issuing, facts⟩ := Run.of_runsTo evaluated
  simp only [Bool.and_eq_true] at facts
  obtain ⟨idle, evaluated⟩ := facts
  obtain ⟨acknowledged, rotating, facts⟩ := Run.of_runsTo evaluated
  simp only [Bool.and_eq_true, decide_eq_true_eq] at facts
  obtain ⟨⟨rotated, fresh⟩, evaluated⟩ := facts
  obtain ⟨last, validating, answered⟩ := Run.of_runsTo evaluated
  obtain ⟨answer, answered⟩ := Option.isSome_iff_exists.mp answered
  have returned := Config.returned_of_answer? rotated
  have validated := Config.returned_of_answer? answered
  exact ⟨acknowledged, last, validating, returned, answer, validated,
    withdrawal_final_of_cache_follows (Sample.site true) Sample.oldToken 1000000 _ _ _ present
      acknowledged last 1 3 answer issuing (Thread.eq_idle idle) rotating
      (.inr ⟨_, _, returned⟩) (Thread.eq_idle fresh) validating validated⟩

/-- A client that retries `issue` after the revocation: the row exists, so nothing
is inserted, but a live record replaces the marked one and is accepted. -/
theorem retried_issue_revives_token :
    ¬ RevocationFinal (Sample.site true) Sample.oldToken (refreshTraffic (Sample.site true)) := by
  intro final
  have evaluated : Config.runsTo (refreshTraffic (Sample.site true))
      (.initial (World.empty 1000000))
      ((Sample.site true).serve 0 (.issue Sample.oldToken "user_1" "device_1" Sample.expiry) 3)
      (fun present =>
        decide (TokenPresent (Sample.sha256Hex Sample.oldToken) present.world) &&
        (present.threads 1).isIdle &&
        present.runsTo (refreshTraffic (Sample.site true))
          ((Sample.site true).serve 1 (.revoke Sample.oldToken) 4)
          (fun acknowledged =>
            decide (acknowledged.answer? 1 (.revoke Sample.oldToken) = some (.ok ())) &&
            (acknowledged.threads 3).isIdle &&
            acknowledged.runsTo (refreshTraffic (Sample.site true))
              ((Sample.site true).serve 2
                  (.issue Sample.oldToken "user_1" "device_1" Sample.expiry) 3 ++
                (Sample.site true).serve 3 (.validate Sample.oldToken) 2)
              (fun last => decide (last.answer? 3 (.validate Sample.oldToken) =
                some (.ok ⟨"user_1", "device_1", Sample.expiry, false, none⟩))))) = true := by
    decide +kernel
  obtain ⟨present, issuing, facts⟩ := Run.of_runsTo evaluated
  simp only [Bool.and_eq_true, decide_eq_true_eq] at facts
  obtain ⟨⟨exists_, idle⟩, evaluated⟩ := facts
  obtain ⟨acknowledged, revoking, facts⟩ := Run.of_runsTo evaluated
  simp only [Bool.and_eq_true, decide_eq_true_eq] at facts
  obtain ⟨⟨revoked, fresh⟩, evaluated⟩ := facts
  obtain ⟨last, validating, accepted⟩ := Run.of_runsTo evaluated
  have refused := final 1000000 _ _ _ present acknowledged last 1 3 _ issuing
    (Thread.eq_idle idle) revoking (.inl ⟨exists_, Config.returned_of_answer? revoked⟩)
    (Thread.eq_idle fresh) validating
    (Config.returned_of_answer? (of_decide_eq_true accepted))
  cases refused

end BrainMate.Gateway.RefreshRevocation
