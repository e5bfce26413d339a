import BrainMate.Gateway.Effects

namespace BrainMate.Gateway.SessionRevocation

open Interleaving System

def isSessionCall : Call → Bool
  | .createSession _ _ _ _ _ _ | .validateSession _ _ | .revokeSession _ => true
  | _ => false

/-- Runs of the three session operations, with any failures and evictions. -/
def sessionTraffic (site : Deployment) : site.system.Config → site.system.Action → Prop :=
  Starts isSessionCall

instance (site : Deployment) (config : site.system.Config) (action : site.system.Action) :
    Decidable (sessionTraffic site config action) :=
  inferInstanceAs (Decidable (Starts isSessionCall config action))

/-- Once a revocation of a session that has a row was acknowledged, no validation
that starts afterwards succeeds, for any user. -/
def RevocationFinal (site : Deployment) (sessionId : String)
    (permitted : site.system.Config → site.system.Action → Prop) : Prop :=
  ∀ (clock : Nat) (before between after : List site.system.Action)
    (present acknowledged final : site.system.Config) (revoker validator : Nat) (userId : String)
    (answer : Except ApiError SessionRecord),
    Run permitted (.initial (World.empty clock)) before present →
    SessionPresent sessionId present.world → present.threads revoker = .idle →
    Run permitted present between acknowledged →
    acknowledged.threads revoker = .returned (.revokeSession sessionId) (.ok ()) →
    acknowledged.threads validator = .idle →
    Run permitted acknowledged after final →
    final.threads validator = .returned (.validateSession sessionId userId) answer →
    answer.isOk = false

/-- While the row is marked, nothing writes the session's cache entry and the
drop of a live entry is not lost. The cleanup job does not run. -/
def cacheRules (site : Deployment) (sessionId : String) : site.system.Rules where
  admits world command outcome :=
    command ≠ .db .cleanupExpiredAuth ∧
    (SessionRevoked sessionId world →
      (command.WritesKey (.session sessionId) → outcome.takesEffect = false) ∧
      (command = .redis (.getDel (.session sessionId)) →
        (world.lookup (.session sessionId)).isSome = true → outcome.takesEffect = true))
  occurs _ _ := True

instance (site : Deployment) (sessionId : String) (world : World) (command : Command)
    (outcome : Outcome) : Decidable ((cacheRules site sessionId).admits world command outcome) := by
  unfold cacheRules
  infer_instance

instance (site : Deployment) (sessionId : String) (world : World) (event : Event) :
    Decidable ((cacheRules site sessionId).occurs world event) := by
  unfold cacheRules
  infer_instance

/-- The row is marked and the cache entry is gone. -/
def LockedOut (sessionId : String) (world : World) : Prop :=
  SessionRevoked sessionId world ∧ world.lookup (.session sessionId) = none

section

variable {site : Deployment} {sessionId : String}

theorem present_stable : (cacheRules site sessionId).Stable (SessionPresent sessionId) where
  command world command outcome admitted _ present := by
    rcases Command.exec_world outcome command world with same | same <;> simp only [same]
    · exact present
    · exact present.effect admitted.1
  event world event _ present := by simpa [SessionPresent] using present

theorem revoked_stable : (cacheRules site sessionId).Stable (SessionRevoked sessionId) where
  command world command outcome admitted _ revoked := by
    rcases Command.exec_world outcome command world with same | same <;> simp only [same]
    · exact revoked
    · exact revoked.effect admitted.1
  event world event _ revoked := by simpa [SessionRevoked] using revoked

theorem lockedOut_stable : (cacheRules site sessionId).Stable (LockedOut sessionId) where
  command world command outcome admitted ensured lockedOut := by
    refine ⟨revoked_stable.command world command outcome admitted ensured lockedOut.1, ?_⟩
    obtain ⟨_, guarded⟩ := admitted
    cases effective : outcome.takesEffect with
    | false =>
      have same := Command.exec_lost effective command world
      simpa only [same] using lockedOut.2
    | true =>
      have same := Command.exec_effect effective command world
      have silent : ¬ command.WritesKey (.session sessionId) := by
        intro writes
        have lost := (guarded lockedOut.1).1 writes
        rw [effective] at lost
        cases lost
      simp only [same]
      rcases command.effect_lookup world silent with kept | gone
      · rw [kept, lockedOut.2]
      · exact gone
  event world event occurs lockedOut := by
    refine ⟨revoked_stable.event world event occurs lockedOut.1, ?_⟩
    rcases environment_lookup event world (.session sessionId) with kept | gone
    · exact kept.trans lockedOut.2
    · exact gone

/-- The UPDATE marks the row it finds. -/
theorem mark_revokes {world : World} {outcome : Outcome} (present : SessionPresent sessionId world)
    (answered : (Command.exec outcome (.db (.revokeSession sessionId)) world).1 = .ok ()) :
    SessionRevoked sessionId (Command.exec outcome (.db (.revokeSession sessionId)) world).2 := by
  cases outcome with
  | lost detail => cases answered
  | applied detail => cases answered
  | success =>
    obtain ⟨row, found⟩ := present
    have sameId : row.id = sessionId := world.db.sessions.find?_key found
    simp only [Command.exec, Command.effect, DbCommand.effect, SessionRevoked,
      DbCommand.revokeSessionRow, Storage.Table.find?_updateWhere, found, Option.map_some]
    refine ⟨_, rfl, ?_⟩
    cases marked : row.revoked <;> simp [sameId, marked]

/-- The GETDEL leaves no entry, whether it answered or not. -/
theorem drop_locks_out {world : World} {outcome : Outcome}
    (revoked : SessionRevoked sessionId world)
    (admitted : (cacheRules site sessionId).admits world
      (.redis (.getDel (.session sessionId))) outcome) :
    LockedOut sessionId
      (Command.exec outcome (.redis (.getDel (.session sessionId))) world).2 := by
  refine ⟨revoked_stable.command _ _ _ admitted trivial revoked, ?_⟩
  cases effective : outcome.takesEffect with
  | true =>
    rw [Command.exec_effect effective]
    exact world.lookup_remove_same _
  | false =>
    rw [Command.exec_lost effective]
    cases stored : world.lookup (.session sessionId) with
    | none => rfl
    | some value =>
      have taken := (admitted.2 revoked).2 rfl (by simp [stored])
      rw [effective] at taken
      cases taken

theorem dropCachedSession_outline (sha256Hex : String → String) (db : Bool) :
    (cacheRules site sessionId).Outline (SessionRevoked sessionId)
      (fun _ => LockedOut sessionId) (SessionStore.dropCachedSession sha256Hex db sessionId) := by
  simp only [SessionStore.dropCachedSession, redis_eq, Program.call_bind, Program.done_bind]
  refine ⟨fun _ => LockedOut sessionId, fun _ => lockedOut_stable, ?_, ?_⟩
  · intro world outcome revoked admitted
    exact ⟨trivial, drop_locks_out revoked admitted⟩
  · intro reply
    rcases reply with error | _ | existing
    · cases db <;> exact fun _ lockedOut => lockedOut
    · exact fun _ lockedOut => lockedOut
    · dsimp only
      cases existing.asSession with
      | error _ => exact fun _ lockedOut => lockedOut
      | ok record =>
        refine .skip lockedOut_stable (fun _ _ _ _ => trivial) ?_
        intro reply
        cases reply <;> exact fun _ lockedOut => lockedOut

theorem revokeSession_outline (sha256Hex : String → String) :
    (cacheRules site sessionId).Outline (SessionPresent sessionId)
      (fun answer world => answer = .ok () → LockedOut sessionId world)
      (SessionStore.revokeSession sha256Hex true sessionId) := by
  unfold SessionStore.revokeSession
  split
  · intro world _ impossible
    cases impossible
  · simp only [↓reduceIte, database_eq, Program.call_bind, Program.done_bind]
    refine ⟨fun reply world => reply = .ok () → SessionRevoked sessionId world,
      fun _ => .imp fun _ => revoked_stable, ?_, ?_⟩
    · intro world outcome present _
      exact ⟨trivial, mark_revokes present⟩
    · intro reply
      cases reply with
      | error error =>
        intro world _ impossible
        cases impossible
      | ok value =>
        refine ((dropCachedSession_outline sha256Hex true).weaken ?_).strengthen ?_
        · exact fun _ _ lockedOut _ => lockedOut
        · exact fun _ revoked => revoked rfl

/-- From the row alone a validation of a revoked session fails. -/
theorem validateSessionDb_outline (userId : String) :
    (cacheRules site sessionId).Outline (LockedOut sessionId)
      (fun answer _ => answer.isOk = false) (SessionStore.validateSessionDb sessionId userId) := by
  simp only [SessionStore.validateSessionDb, database_eq, Program.call_bind, Program.done_bind]
  refine .learn (fun reply => ∀ row, reply = .ok (some row) → row.revoked = true)
    lockedOut_stable ?_ ?_
  · intro world outcome lockedOut _
    refine ⟨trivial, ?_⟩
    intro row answered
    obtain ⟨⟨stored, found, marked⟩, _⟩ := lockedOut
    cases outcome with
    | success =>
      have same : world.db.sessions.find? sessionId = some row := by
        simpa [Command.exec, Command.answer, DbCommand.answer] using answered
      rw [found] at same
      cases same
      exact marked
    | lost => cases answered
    | applied => cases answered
  · intro reply marked
    rcases reply with error | _ | row
    · exact fun _ _ => rfl
    · exact fun _ _ => rfl
    · simp only [marked row rfl, ↓reduceIte]
      exact fun _ _ => rfl

theorem validateSession_outline (userId : String) :
    (cacheRules site sessionId).Outline (LockedOut sessionId)
      (fun answer _ => answer.isOk = false)
      (SessionStore.validateSession true sessionId userId) := by
  unfold SessionStore.validateSession
  split
  · exact fun _ _ => rfl
  · refine .learn (fun reply => ∀ raw, reply ≠ .ok (some raw)) lockedOut_stable ?_ ?_
    · intro world outcome lockedOut _
      refine ⟨trivial, ?_⟩
      intro raw answered
      cases outcome with
      | success =>
        have same : world.lookup (.session sessionId) = some raw := by
          simpa [Command.exec, Command.answer, RedisCommand.answer] using answered
        rw [lockedOut.2] at same
        cases same
      | lost => cases answered
      | applied => cases answered
    · intro reply missed
      rcases reply with error | _ | raw
      · exact validateSessionDb_outline userId
      · exact validateSessionDb_outline userId
      · exact absurd rfl (missed raw)

end

/-- Revocation is final in every run in which the cache follows the marked row. -/
theorem revocation_final_of_cache_follows (site : Deployment) (sessionId : String) :
    RevocationFinal { site with db := true } sessionId
      (cacheRules { site with db := true } sessionId).permits := by
  intro clock before between after present acknowledged final revoker validator userId answer
    _ exists_ idle revoking revoked fresh validating validated
  have lockedOut : LockedOut sessionId acknowledged.world :=
    revoking.outline (fun answer world => answer = Except.ok () → LockedOut sessionId world)
      (fun _ _ permitted => permitted) (fun _ _ _ => trivial)
      (revokeSession_outline site.sha256Hex) present_stable
      (fun _ => .imp fun _ => lockedOut_stable) idle exists_ revoked rfl
  exact validating.outline (fun (answer : Except ApiError SessionRecord) _ => answer.isOk = false)
    (fun _ _ permitted => permitted) (fun _ _ _ => trivial) (validateSession_outline userId)
    lockedOut_stable (fun _ => .pure _) fresh lockedOut validated

theorem revoked_session_refused :
    ∃ acknowledged last, Run (cacheRules (Sample.site true) "sid_1").permits acknowledged
        ((Sample.site true).serve 3 (.validateSession "sid_1" "user_1") 2) last ∧
      acknowledged.threads 1 = .returned (.revokeSession "sid_1") (.ok ()) ∧
      ∃ answer, last.threads 3 = .returned (.validateSession "sid_1" "user_1") answer ∧
        answer.isOk = false := by
  have evaluated : Config.runsTo (cacheRules (Sample.site true) "sid_1").permits
      (.initial (World.empty 1000000))
      ((Sample.site true).serve 0 (.createSession "sid_1" "user_1" (some 1000) none 3600 10) 5)
      (fun present => decide (SessionPresent "sid_1" present.world) &&
        (present.threads 1).isIdle &&
        present.runsTo (cacheRules (Sample.site true) "sid_1").permits
          ((Sample.site true).serve 1 (.revokeSession "sid_1") 3)
          (fun acknowledged =>
            decide (acknowledged.answer? 1 (.revokeSession "sid_1") = some (.ok ())) &&
            (acknowledged.threads 3).isIdle &&
            acknowledged.runsTo (cacheRules (Sample.site true) "sid_1").permits
              ((Sample.site true).serve 3 (.validateSession "sid_1" "user_1") 2)
              (fun final => (final.answer? 3 (.validateSession "sid_1" "user_1")).isSome))) =
        true := by
    decide +kernel
  obtain ⟨present, creating, facts⟩ := Run.of_runsTo evaluated
  simp only [Bool.and_eq_true, decide_eq_true_eq] at facts
  obtain ⟨⟨exists_, idle⟩, evaluated⟩ := facts
  obtain ⟨acknowledged, revoking, facts⟩ := Run.of_runsTo evaluated
  simp only [Bool.and_eq_true, decide_eq_true_eq] at facts
  obtain ⟨⟨revoked, fresh⟩, evaluated⟩ := facts
  obtain ⟨last, validating, answered⟩ := Run.of_runsTo evaluated
  obtain ⟨answer, answered⟩ := Option.isSome_iff_exists.mp answered
  have returned := Config.returned_of_answer? revoked
  have validated := Config.returned_of_answer? answered
  exact ⟨acknowledged, last, validating, returned, answer, validated,
    revocation_final_of_cache_follows (Sample.site true) "sid_1" 1000000 _ _ _ present acknowledged
      last 1 3 "user_1" answer creating exists_ (Thread.eq_idle idle) revoking returned
      (Thread.eq_idle fresh) validating validated⟩

/-- A client that retries `create_session` after the revocation: the row exists,
so nothing is inserted, but the session is cached again and accepted. -/
theorem retried_creation_revives_session :
    ¬ RevocationFinal (Sample.site true) "sid_1" (sessionTraffic (Sample.site true)) := by
  intro final
  have evaluated : Config.runsTo (sessionTraffic (Sample.site true))
      (.initial (World.empty 1000000))
      ((Sample.site true).serve 0 (.createSession "sid_1" "user_1" (some 1000) none 3600 10) 5)
      (fun present => decide (SessionPresent "sid_1" present.world) &&
        (present.threads 1).isIdle &&
        present.runsTo (sessionTraffic (Sample.site true))
          ((Sample.site true).serve 1 (.revokeSession "sid_1") 3)
          (fun acknowledged =>
            decide (acknowledged.answer? 1 (.revokeSession "sid_1") = some (.ok ())) &&
            (acknowledged.threads 3).isIdle &&
            acknowledged.runsTo (sessionTraffic (Sample.site true))
              ((Sample.site true).serve 2
                  (.createSession "sid_1" "user_1" (some 1000) none 3600 10) 5 ++
                (Sample.site true).serve 3 (.validateSession "sid_1" "user_1") 1)
              (fun final => decide (final.answer? 3 (.validateSession "sid_1" "user_1") =
                some (.ok ⟨"user_1", some 1000, none⟩))))) = true := by
    decide +kernel
  obtain ⟨present, creating, facts⟩ := Run.of_runsTo evaluated
  simp only [Bool.and_eq_true, decide_eq_true_eq] at facts
  obtain ⟨⟨exists_, idle⟩, evaluated⟩ := facts
  obtain ⟨acknowledged, revoking, facts⟩ := Run.of_runsTo evaluated
  simp only [Bool.and_eq_true, decide_eq_true_eq] at facts
  obtain ⟨⟨revoked, fresh⟩, evaluated⟩ := facts
  obtain ⟨last, validating, accepted⟩ := Run.of_runsTo evaluated
  have refused := final 1000000 _ _ _ present acknowledged last 1 3 "user_1" _ creating exists_
    (Thread.eq_idle idle) revoking (Config.returned_of_answer? revoked) (Thread.eq_idle fresh)
    validating (Config.returned_of_answer? (of_decide_eq_true accepted))
  cases refused

end BrainMate.Gateway.SessionRevocation
