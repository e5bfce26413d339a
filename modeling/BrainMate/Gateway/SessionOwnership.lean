import BrainMate.Gateway.SessionRevocation

namespace BrainMate.Gateway.SessionOwnership

open Interleaving System SessionRevocation

/-- The session has a row, and the row carries this user. -/
def OwnedBy (sessionId userId : String) (world : World) : Prop :=
  ∃ row, world.db.sessions.find? sessionId = some row ∧ row.userId = userId

/-- No validation for a user has answered `Ok` while the row carries another one. -/
def OwnerOnly (site : Deployment) (sessionId : String)
    (permitted : site.system.Config → site.system.Action → Prop) : Prop :=
  ∀ (clock : Nat) (actions : List site.system.Action) (last : site.system.Config)
    (validator : Nat) (userId : String) (record : SessionRecord) (row : DbSession),
    Run permitted (.initial (World.empty clock)) actions last →
    last.threads validator = .returned (.validateSession sessionId userId) (.ok record) →
    last.world.db.sessions.find? sessionId = some row → row.userId = userId

/-- The SET NX of a `create_session` that finds no entry of a session whose row
carries another user than the caller's. -/
def misattributes (sessionId : String) (world : World) : Command → Bool
  | .redis (.setNxEx (.session stored) (.session record) _) =>
    stored == sessionId && (world.lookup (.session sessionId)).isNone &&
      (world.db.sessions.find? sessionId).any fun row => row.userId != record.userId
  | _ => false

/-- A write of the session's cache entry that the three operations may issue. -/
inductive CachesSession (sessionId : String) (world : World) : Command → Prop where
  | register (record : SessionRecord) (ttlSecs : Nat) (present : SessionPresent sessionId world) :
      CachesSession sessionId world
        (.redis (.setNxEx (.session sessionId) (.session record) ttlSecs))
  | rehydrate (record : SessionRecord) (ttlSecs : Nat)
      (owned : OwnedBy sessionId record.userId world) :
      CachesSession sessionId world
        (.redis (.setEx (.session sessionId) (.session record) ttlSecs))

/-- A run is assumed to contain no effective write for a wrong user; that the
entry is written in no other way is what the procedures ensure. -/
def ownerRules (site : Deployment) (sessionId : String) : site.system.Rules where
  admits world command outcome :=
    misattributes sessionId world command = true → outcome.takesEffect = false
  occurs _ _ := True
  ensures world command _ :=
    command ≠ .db .cleanupExpiredAuth ∧
      (command.WritesKey (.session sessionId) → CachesSession sessionId world command)

instance (site : Deployment) (sessionId : String) (world : World) (command : Command)
    (outcome : Outcome) : Decidable ((ownerRules site sessionId).admits world command outcome) :=
  inferInstanceAs (Decidable
    (misattributes sessionId world command = true → outcome.takesEffect = false))

instance (site : Deployment) (sessionId : String) (world : World) (event : Event) :
    Decidable ((ownerRules site sessionId).occurs world event) :=
  inferInstanceAs (Decidable True)

/-- Whoever the cache names owns the row. -/
def CacheOwned (sessionId : String) (world : World) : Prop :=
  ∀ value, world.lookup (.session sessionId) = some value →
    ∃ record, value = .session record ∧ OwnedBy sessionId record.userId world

section

variable {site : Deployment} {sessionId userId : String} {world : World}

/-- A row keeps its user until the cleanup job deletes it. -/
theorem OwnedBy.effect (owned : OwnedBy sessionId userId world) {command : Command}
    (kept : command ≠ .db .cleanupExpiredAuth) :
    OwnedBy sessionId userId (command.effect world) := by
  obtain ⟨row, found, named⟩ := owned
  obtain ⟨after, stored, rfl | rfl⟩ := command.effect_session world kept found
  · exact ⟨after, stored, named⟩
  · exact ⟨_, stored, named⟩

theorem owned_stable (userId : String) :
    (ownerRules site sessionId).Stable (OwnedBy sessionId userId) where
  command world command outcome _ ensured owned := by
    rcases Command.exec_world outcome command world with same | same <;> simp only [same]
    · exact owned
    · exact owned.effect ensured.1
  event world event _ owned := by simpa [OwnedBy] using owned

theorem present_stable : (ownerRules site sessionId).Stable (SessionPresent sessionId) where
  command world command outcome _ ensured present := by
    rcases Command.exec_world outcome command world with same | same <;> simp only [same]
    · exact present
    · exact present.effect ensured.1
  event world event _ present := by simpa [SessionPresent] using present

/-- A SET NX that is no misattribution names the owner of the row it finds. -/
theorem owned_of_not_misattributes {record : SessionRecord} {ttlSecs : Nat}
    (present : SessionPresent sessionId world)
    (missing : world.lookup (.session sessionId) = none)
    (proper : ¬ misattributes sessionId world
      (.redis (.setNxEx (.session sessionId) (.session record) ttlSecs)) = true) :
    OwnedBy sessionId record.userId world := by
  obtain ⟨row, found⟩ := present
  refine ⟨row, found, ?_⟩
  simpa [misattributes, missing, found] using proper

theorem cacheOwned_stable : (ownerRules site sessionId).Stable (CacheOwned sessionId) where
  command world command outcome admitted ensured owned := by
    cases effective : outcome.takesEffect with
    | false => simpa only [Command.exec_lost effective command world] using owned
    | true =>
      simp only [Command.exec_effect effective command world]
      intro value found
      -- An entry that was there keeps its owner; a new one was written for the owner.
      have kept (before : world.lookup (.session sessionId) = some value) :
          ∃ record, value = .session record ∧
            OwnedBy sessionId record.userId (command.effect world) := by
        obtain ⟨record, rfl, named⟩ := owned value before
        exact ⟨record, rfl, named.effect ensured.1⟩
      by_cases writes : command.WritesKey (.session sessionId)
      · cases ensured.2 writes with
        | register record ttlSecs present =>
          obtain before | ⟨_, impossible, _⟩ | ⟨_, same, _, missing⟩ | ⟨_, impossible⟩ :=
            RedisCommand.effect_value _ world found
          · exact kept before
          · cases impossible
          · cases same
            refine ⟨record, rfl, OwnedBy.effect ?_ ensured.1⟩
            apply owned_of_not_misattributes present missing
            intro wrong
            rw [admitted wrong] at effective
            cases effective
          · cases impossible
        | rehydrate record ttlSecs named =>
          obtain before | ⟨_, same, _⟩ | ⟨_, impossible, _⟩ | ⟨_, impossible⟩ :=
            RedisCommand.effect_value _ world found
          · exact kept before
          · cases same
            exact ⟨record, rfl, named.effect ensured.1⟩
          · cases impossible
          · cases impossible
      · rcases command.effect_lookup world writes with same | gone
        · exact kept (same ▸ found)
        · rw [gone] at found
          cases found
  event world event _ owned := by
    intro value found
    obtain ⟨record, rfl, named⟩ := owned value (environment_cached found)
    exact ⟨record, rfl, (owned_stable _).event world event trivial named⟩

/-- A command that is neither the cleanup nor a write of the session's entry needs no reason. -/
theorem ensures_other {command : Command} {outcome : Outcome}
    (kept : command ≠ .db .cleanupExpiredAuth)
    (silent : ¬ command.WritesKey (.session sessionId)) :
    (ownerRules site sessionId).ensures world command outcome :=
  ⟨kept, fun writes => absurd writes silent⟩

theorem ensures_database {command : DbCommand} {outcome : Outcome}
    (kept : command ≠ .cleanupExpiredAuth) :
    (ownerRules site sessionId).ensures world (.db command) outcome :=
  ensures_other (by simpa using kept) (fun writes => writes)

/-- The INSERT leaves a row, whether it was the first or not. -/
theorem insert_present {record : DbSession} {outcome : Outcome}
    (answered : (Command.exec outcome (.db (.insertSession record)) world).1.isOk = true) :
    SessionPresent record.id (Command.exec outcome (.db (.insertSession record)) world).2 := by
  cases outcome with
  | lost => cases answered
  | applied => cases answered
  | success => simp [SessionPresent, Command.exec, Command.effect, DbCommand.effect]

/-- An acknowledged registration of the session has left a row. -/
def Registered (sessionId id : String) (answer : Except DbError Bool) (world : World) : Prop :=
  CacheOwned sessionId world ∧
    (answer.isOk = true ∧ id = sessionId → SessionPresent sessionId world)

private theorem registered_stable (id : String) (answer : Except DbError Bool) :
    (ownerRules site sessionId).Stable (Registered sessionId id answer) :=
  cacheOwned_stable.and (.imp fun _ => present_stable)

private theorem createSessionGuarded_outline (record : DbSession) (maxSessions : Int) :
    (ownerRules site sessionId).Outline (CacheOwned sessionId) (Registered sessionId record.id)
      (SessionStore.createSessionGuarded record maxSessions) := by
  have failed (error : DbError) : (ownerRules site sessionId).Outline (CacheOwned sessionId)
      (Registered sessionId record.id) (.done (.error error)) :=
    fun _ owned => ⟨owned, fun ⟨impossible, _⟩ => by cases impossible⟩
  simp only [SessionStore.createSessionGuarded, database_eq, Program.call_bind, Program.done_bind]
  refine .skip cacheOwned_stable (fun _ _ _ _ => ensures_database (by simp)) ?_
  rintro (error | txNow)
  · exact failed error
  refine .skip cacheOwned_stable (fun _ _ _ _ => ensures_database (by simp)) ?_
  rintro (error | activeCount)
  · exact failed error
  dsimp only
  split
  · refine .skip cacheOwned_stable (fun _ _ _ _ => ensures_database (by simp)) ?_
    rintro (error | _)
    · exact failed error
    · exact failed _
  · refine ⟨Registered sessionId record.id, registered_stable record.id, ?_, ?_⟩
    · intro world outcome owned admitted
      have ensured : (ownerRules site sessionId).ensures world (.db (.insertSession record)) outcome :=
        ensures_database (by simp)
      refine ⟨ensured, cacheOwned_stable.command _ _ _ admitted ensured owned, ?_⟩
      rintro ⟨answered, rfl⟩
      exact insert_present answered
    · exact fun _ _ registered => registered

private theorem createSessionDb_outline (id userId : String) (issuedAt : Option Nat)
    (deviceInfo : Option String) (ttlSecs maxSessionsPerUser : Nat) :
    (ownerRules site sessionId).Outline (CacheOwned sessionId) (fun _ _ => True)
      (SessionStore.createSessionDb id userId issuedAt deviceInfo ttlSecs maxSessionsPerUser) := by
  simp only [SessionStore.createSessionDb, nowUnixSecs_eq, redis_eq, Program.call_bind,
    Program.done_bind]
  refine .skip cacheOwned_stable (fun _ _ _ _ => ensures_other (by simp) (fun writes => writes)) ?_
  intro millis
  apply (createSessionGuarded_outline _ _).bind
  rintro ((detail | detail) | inserted)
  · dsimp only
    split <;> exact fun _ _ => trivial
  · exact fun _ _ => trivial
  · -- The SET NX is issued only after the row is there.
    refine .skip (registered_stable id _) ?_ (fun _ _ _ => trivial)
    intro world outcome registered _
    refine ⟨by simp, ?_⟩
    rintro ⟨_, own⟩
    cases own
    exact .register _ _ (registered.2 ⟨rfl, rfl⟩)

private theorem createSession_outline (sha256Hex : String → String) (id userId : String)
    (issuedAt : Option Nat) (deviceInfo : Option String) (ttlSecs maxSessionsPerUser : Nat) :
    (ownerRules site sessionId).Outline (CacheOwned sessionId) (fun _ _ => True)
      (SessionStore.createSession sha256Hex true id userId issuedAt deviceInfo ttlSecs
        maxSessionsPerUser) := by
  unfold SessionStore.createSession
  split
  · exact fun _ _ => trivial
  · split
    · exact fun _ _ => trivial
    · exact createSessionDb_outline id userId issuedAt deviceInfo ttlSecs maxSessionsPerUser

/-- A row read from the table carries the owner. -/
theorem getSession_owned {id : String} {outcome : Outcome} {row : DbSession}
    (answered : (Command.exec outcome (.db (.getSession id)) world).1 = .ok (some row)) :
    OwnedBy id row.userId world := by
  cases outcome with
  | lost => cases answered
  | applied => cases answered
  | success => exact ⟨row, Except.ok.inj answered, rfl⟩

private theorem rehydrateSession_outline (id : String) (row : DbSession) (now : Int) :
    (ownerRules site sessionId).Outline (fun world => id = sessionId → OwnedBy sessionId row.userId world)
      (fun _ world => id = sessionId → OwnedBy sessionId row.userId world)
      (SessionStore.rehydrateSession id row now) := by
  simp only [SessionStore.rehydrateSession, redis_eq, Program.call_bind, Program.done_bind]
  refine .skip (.imp fun _ => owned_stable row.userId) ?_ (fun _ _ owned => owned)
  intro world outcome owned _
  refine ⟨by simp, ?_⟩
  rintro ⟨_, own⟩
  cases own
  exact .rehydrate _ _ (owned rfl)

theorem validateSessionDb_outline (id userId : String) :
    (ownerRules site sessionId).Outline (CacheOwned sessionId)
      (fun answer world => answer.isOk = true → id = sessionId → OwnedBy sessionId userId world)
      (SessionStore.validateSessionDb id userId) := by
  simp only [SessionStore.validateSessionDb, database_eq, nowUnixSecs_eq, Program.call_bind,
    Program.done_bind]
  refine ⟨fun reply world => ∀ row, reply = .ok (some row) → id = sessionId →
    OwnedBy sessionId row.userId world,
    fun reply => .all fun row => .imp fun _ => .imp fun _ => owned_stable row.userId, ?_, ?_⟩
  · intro world outcome _ admitted
    have ensured : (ownerRules site sessionId).ensures world (.db (.getSession id)) outcome :=
      ensures_database (by simp)
    refine ⟨ensured, ?_⟩
    rintro row answered rfl
    exact (owned_stable row.userId).command _ _ _ admitted ensured (getSession_owned answered)
  · rintro (error | _ | row)
    · exact fun _ _ impossible => by cases impossible
    · exact fun _ _ impossible => by cases impossible
    · dsimp only
      split
      · exact fun _ _ impossible => by cases impossible
      refine .skip (.all fun row => .imp fun _ => .imp fun _ => owned_stable row.userId)
        (fun _ _ _ _ => ensures_other (by simp) (fun writes => writes)) ?_
      intro millis
      generalize asI64 (millis / 1000) = now
      split
      · exact fun _ _ impossible => by cases impossible
      split
      · exact fun _ _ impossible => by cases impossible
      rename_i mismatch
      have same : row.userId = userId := not_not.mp mismatch
      refine ((rehydrateSession_outline id row _).weaken ?_).strengthen ?_
      · exact fun _ _ owned _ => same ▸ owned
      · exact fun _ owned => owned row rfl

theorem validateSession_outline (id userId : String) :
    (ownerRules site sessionId).Outline (CacheOwned sessionId)
      (fun answer world => answer.isOk = true → id = sessionId → OwnedBy sessionId userId world)
      (SessionStore.validateSession true id userId) := by
  unfold SessionStore.validateSession
  split
  · exact fun _ _ impossible => by cases impossible
  · simp only [SessionStore.getSessionJson, redis_eq, Program.call_bind, Program.done_bind]
    refine ⟨fun reply world => CacheOwned sessionId world ∧
      ∀ raw record, reply = .ok (some raw) ∧ raw.asSession = .ok record ∧ id = sessionId →
        OwnedBy sessionId record.userId world,
      fun reply => cacheOwned_stable.and (.all fun raw => .all fun record => .imp fun _ =>
        owned_stable record.userId), ?_, ?_⟩
    · intro world outcome owned admitted
      have ensured : (ownerRules site sessionId).ensures world (.redis (.get (.session id))) outcome :=
        ensures_other (by simp) (fun writes => by cases writes.1)
      refine ⟨ensured, cacheOwned_stable.command _ _ _ admitted ensured owned, ?_⟩
      rintro raw record ⟨answered, parsed, rfl⟩
      obtain ⟨stored, rfl, named⟩ := owned raw (Command.get_found answered)
      cases parsed
      exact (owned_stable _).command _ _ _ admitted ensured named
    · rintro (error | _ | raw)
      · exact (validateSessionDb_outline id userId).strengthen fun _ holds => holds.1
      · exact (validateSessionDb_outline id userId).strengthen fun _ holds => holds.1
      · dsimp only
        cases parsed : raw.asSession with
        | error error => exact (validateSessionDb_outline id userId).strengthen fun _ holds => holds.1
        | ok record =>
          simp only [Except.map, Program.pure_eq, Program.done_bind]
          split
          · exact fun _ _ impossible => by cases impossible
          · rename_i mismatch
            have same : record.userId = userId := not_not.mp mismatch
            exact fun _ holds _ own => same ▸ holds.2 raw record ⟨rfl, parsed, own⟩

theorem dropCachedSession_outline (sha256Hex : String → String) (id : String) :
    (ownerRules site sessionId).Outline (CacheOwned sessionId) (fun _ _ => True)
      (SessionStore.dropCachedSession sha256Hex true id) := by
  simp only [SessionStore.dropCachedSession, redis_eq, Program.call_bind, Program.done_bind]
  refine .skip cacheOwned_stable
    (fun _ _ _ _ => ensures_other (by simp) (fun writes => by cases writes.1)) ?_
  rintro (error | _ | existing)
  · exact fun _ _ => trivial
  · exact fun _ _ => trivial
  · dsimp only
    cases existing.asSession with
    | error _ => exact fun _ _ => trivial
    | ok record =>
      refine .skip cacheOwned_stable
        (fun _ _ _ _ => ensures_other (by simp) (fun writes => by cases writes.2)) ?_
      rintro (_ | _) <;> exact fun _ _ => trivial

theorem revokeSession_outline (sha256Hex : String → String) (id : String) :
    (ownerRules site sessionId).Outline (CacheOwned sessionId) (fun _ _ => True)
      (SessionStore.revokeSession sha256Hex true id) := by
  unfold SessionStore.revokeSession
  split
  · exact fun _ _ => trivial
  · simp only [↓reduceIte, database_eq, Program.call_bind, Program.done_bind]
    refine .skip cacheOwned_stable (fun _ _ _ _ => ensures_database (by simp)) ?_
    rintro (error | _)
    · exact fun _ _ => trivial
    · exact dropCachedSession_outline sha256Hex id

/-- The three operations leave the cache to the owner of the row. -/
theorem sessionCall_outline (site : Deployment) (sessionId : String) {call : Call}
    (kind : isSessionCall call = true) :
    (ownerRules { site with db := true } sessionId).Outline (CacheOwned sessionId)
      (fun _ _ => True) (({ site with db := true } : Deployment).program call) := by
  cases call <;> simp only [isSessionCall, Bool.false_eq_true] at kind
  case createSession => exact createSession_outline _ _ _ _ _ _ _
  case validateSession id userId =>
    exact (validateSession_outline id userId).weaken fun _ _ _ => trivial
  case revokeSession id => exact revokeSession_outline _ id

end

/-- Runs of the session operations without an effective misattribution. -/
def ownerTraffic (site : Deployment) (sessionId : String) (config : site.system.Config)
    (action : site.system.Action) : Prop :=
  sessionTraffic site config action ∧ (ownerRules site sessionId).permits config action

instance (site : Deployment) (sessionId : String) (config : site.system.Config)
    (action : site.system.Action) : Decidable (ownerTraffic site sessionId config action) :=
  inferInstanceAs (Decidable
    (sessionTraffic site config action ∧ (ownerRules site sessionId).permits config action))

/-- A session id belongs to its first user in every run in which no creation for
another user finds the cache entry gone. -/
theorem owner_only_of_no_misattribution (site : Deployment) (sessionId : String) :
    OwnerOnly { site with db := true } sessionId
      (ownerTraffic { site with db := true } sessionId) := by
  intro clock actions last validator userId record row run validated found
  have governs : (ownerRules { site with db := true } sessionId).Governs
      (ownerTraffic { site with db := true } sessionId) := fun _ _ permitted => permitted.2
  have outlined : ∀ client call, .start client call ∈ actions →
      (ownerRules { site with db := true } sessionId).Outline (CacheOwned sessionId)
        (fun _ _ => True) (({ site with db := true } : Deployment).program call) := by
    intro client call member
    obtain ⟨_, traffic, _⟩ := run.permitted_of_mem member
    exact sessionCall_outline site sessionId traffic
  have initially : CacheOwned sessionId (World.empty clock) := by
    intro value impossible
    cases impossible
  have owned := run.ensured_outline _ governs cacheOwned_stable outlined
    (by simp [Annotated, Config.initial]) initially (validateSession_outline sessionId userId)
    (fun _ => .imp fun _ => .imp fun _ => owned_stable userId) rfl validated
  obtain ⟨stored, same, named⟩ := owned rfl rfl
  cases found.symm.trans same
  exact named

/-- The entry is evicted, the owner registers again, and another user's
registration finds the entry in place. -/
theorem owner_only_after_eviction :
    ∃ actions last row, Run (ownerTraffic (Sample.site true) "sid_1")
        (.initial (World.empty 1000000)) actions last ∧
      last.threads 3 = .returned (.validateSession "sid_1" "user_1")
        (.ok ⟨"user_1", some 1000, none⟩) ∧
      last.world.db.sessions.find? "sid_1" = some row ∧ row.userId = "user_1" := by
  have evaluated : Config.runsTo (ownerTraffic (Sample.site true) "sid_1")
      (.initial (World.empty 1000000))
      ((Sample.site true).serve 0 (.createSession "sid_1" "user_1" (some 1000) none 3600 10) 5 ++
        .environment (.evict (.session "sid_1")) ::
        (Sample.site true).serve 1 (.createSession "sid_1" "user_1" (some 1000) none 3600 10) 5 ++
        (Sample.site true).serve 2 (.createSession "sid_1" "user_2" (some 1000) none 3600 10) 5 ++
        (Sample.site true).serve 3 (.validateSession "sid_1" "user_1") 1)
      (fun last => (last.world.db.sessions.find? "sid_1").isSome &&
        decide (last.answer? 3 (.validateSession "sid_1" "user_1") =
          some (.ok ⟨"user_1", some 1000, none⟩))) = true := by
    decide +kernel
  obtain ⟨last, run, facts⟩ := Run.of_runsTo evaluated
  simp only [Bool.and_eq_true, decide_eq_true_eq] at facts
  obtain ⟨row, found⟩ := Option.isSome_iff_exists.mp facts.1
  have validated := Config.returned_of_answer? facts.2
  exact ⟨_, last, row, run, validated, found,
    owner_only_of_no_misattribution (Sample.site true) "sid_1" 1000000 _ last 3 "user_1" _ row run
      validated found⟩

/-- Once the owner's entry is evicted, another user registers the same id: the
INSERT does nothing, the SET NX caches the session for that user. -/
theorem evicted_session_taken_over :
    ¬ OwnerOnly (Sample.site true) "sid_1" (sessionTraffic (Sample.site true)) := by
  intro ownerOnly
  have evaluated : Config.runsTo (sessionTraffic (Sample.site true))
      (.initial (World.empty 1000000))
      ((Sample.site true).serve 0 (.createSession "sid_1" "user_1" (some 1000) none 3600 10) 5 ++
        .environment (.evict (.session "sid_1")) ::
        (Sample.site true).serve 1 (.createSession "sid_1" "user_2" (some 1000) none 3600 10) 5 ++
        (Sample.site true).serve 2 (.validateSession "sid_1" "user_2") 1)
      (fun last => decide ((last.world.db.sessions.find? "sid_1").map (·.userId) = some "user_1") &&
        decide (last.answer? 2 (.validateSession "sid_1" "user_2") =
          some (.ok ⟨"user_2", some 1000, none⟩))) = true := by
    decide +kernel
  obtain ⟨last, run, facts⟩ := Run.of_runsTo evaluated
  simp only [Bool.and_eq_true, decide_eq_true_eq] at facts
  obtain ⟨row, found, first⟩ := Option.map_eq_some_iff.mp facts.1
  have second := ownerOnly 1000000 _ last 2 "user_2" _ row run (Config.returned_of_answer? facts.2)
    found
  rw [first] at second
  exact absurd second (by decide)

end BrainMate.Gateway.SessionOwnership
