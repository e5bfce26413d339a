import BrainMate.Gateway.Footprint
import BrainMate.Interleaving.Protocol

namespace BrainMate.Gateway.SessionLimitDb

open Interleaving System Storage

/-- What `count_active_sessions_for_user` counts at an epoch. -/
def isActive (userId : String) (epoch : Int) (row : DbSession) : Bool :=
  row.userId == userId && !row.revoked && decide (epoch < row.expiresAt)

/-- The unrevoked, unexpired rows of a user. -/
def activeSessions (userId : String) (world : World) : Nat :=
  world.db.sessions.countWhere (isActive userId world.pgEpoch)

/-- A creation with this limit, a revocation or a validation. -/
def keepsLimit (maxSessions : Nat) : Call → Bool
  | .createSession _ _ _ _ _ maxSessionsPerUser => maxSessionsPerUser == maxSessions
  | .createSessionGuarded _ limit => limit == maxSessions
  | .revokeSession _ | .revokeSessionRow _ | .validateSession _ _ => true
  | _ => false

/-- Any interleaving of such calls, with any failures and passing of time. -/
def limitTraffic (site : Deployment) (maxSessions : Nat) :
    site.system.Config → site.system.Action → Prop :=
  Starts (keepsLimit maxSessions)

instance (site : Deployment) (maxSessions : Nat) (config : site.system.Config)
    (action : site.system.Action) : Decidable (limitTraffic site maxSessions config action) :=
  inferInstanceAs (Decidable (Starts (keepsLimit maxSessions) config action))

/-- No user ever has more than the limit, starting from a table that keeps to it. -/
def WithinLimit (site : Deployment) (maxSessions : Nat)
    (permitted : site.system.Config → site.system.Action → Prop) : Prop :=
  ∀ (world : World) (actions : List site.system.Action) (last : site.system.Config),
    (∀ userId, activeSessions userId world ≤ maxSessions) →
    Run permitted (.initial world) actions last →
    ∀ userId, activeSessions userId last.world ≤ maxSessions

/-- The user whose rows the client has counted and for whom it is about to insert one. -/
def inserting? (site : Deployment) : site.system.Thread → Option String
  | .running _ (.call (.db (.insertSession record)) _) => some record.userId
  | _ => none

/-- No INSERT commits while another client of the same user is between its COUNT
and its INSERT. -/
def Serial (site : Deployment) (config : site.system.Config) : site.system.Action → Prop
  | .start _ _ | .environment _ => True
  | .step client outcome => outcome.takesEffect = true → ∀ userId other, other ≠ client →
      inserting? site (config.threads client) = some userId →
      inserting? site (config.threads other) ≠ some userId

def serialTraffic (site : Deployment) (maxSessions : Nat) (config : site.system.Config)
    (action : site.system.Action) : Prop :=
  limitTraffic site maxSessions config action ∧ Serial site config action

section

variable {userId : String} {world : World}

/-- A row that is active at an epoch was active before. -/
theorem isActive_earlier {earlier later : Int} (ordered : earlier ≤ later) {row : DbSession}
    (active : isActive userId later row = true) : isActive userId earlier row = true := by
  simp only [isActive, Bool.and_eq_true, decide_eq_true_eq] at active ⊢
  exact ⟨active.1, by omega⟩

private theorem pgEpoch_environment (event : Event) :
    world.pgEpoch ≤ (environment event world).pgEpoch := by
  cases event with
  | evict key => exact Int.le_refl _
  | tick milliseconds =>
    show (((world.clock + 500) / 1000 : Nat) : Int) ≤ ((world.clock + milliseconds + 500) / 1000 : Nat)
    omega

private theorem activeSessions_environment (event : Event) :
    activeSessions userId (environment event world) ≤ activeSessions userId world := by
  unfold activeSessions
  rw [environment_db]
  apply Table.countWhere_mono
  intro row
  exact isActive_earlier (pgEpoch_environment event)

/-- Only the INSERT adds an active row, and only one, of its own user. -/
theorem DbCommand.activeSessions_effect (command : DbCommand) :
    (command.effect world).sessions.countWhere (isActive userId world.pgEpoch) ≤
      activeSessions userId world +
        match command with
        | .insertSession record => if record.userId = userId then 1 else 0
        | _ => 0 := by
  cases command
  case insertSession record =>
    refine (Table.countWhere_insertNew_le _ _).trans ?_
    apply Nat.add_le_add_left
    by_cases own : record.userId = userId
    · simp only [own, ↓reduceIte]
      split <;> omega
    · simp [isActive, own]
  case revokeSession sessionId =>
    simp only [DbCommand.effect, DbCommand.revokeSessionRow]
    apply Table.countWhere_updateWhere_le
    intro row active
    simp [isActive] at active
  case cleanupExpiredAuth => exact Table.countWhere_deleteWhere_le _ _
  case rotateRefreshTokenTx =>
    simp only [DbCommand.effect]
    split <;> exact Nat.le_refl _
  all_goals exact Nat.le_refl _

/-- The command is not the INSERT. -/
def Quiet (command : Command) : Prop := ∀ record, command ≠ .db (.insertSession record)

private theorem activeSessions_quiet {command : Command} (quiet : Quiet command)
    (outcome : Outcome) :
    activeSessions userId (Command.exec outcome command world).2 ≤ activeSessions userId world := by
  rcases Command.exec_world outcome command world with same | same <;> rw [same]
  cases command with
  | now => exact Nat.le_refl _
  | http => exact Nat.le_refl _
  | redis command =>
    simp [activeSessions, World.pgEpoch, Command.effect]
  | db command =>
    refine (DbCommand.activeSessions_effect command).trans ?_
    cases command
    case insertSession record => exact absurd rfl (quiet record)
    all_goals exact Nat.le_refl _

@[simp] theorem pgEpoch_exec (command : Command) (outcome : Outcome) :
    (Command.exec outcome command world).2.pgEpoch = world.pgEpoch := by
  simp [World.pgEpoch]

end

inductive Phase where
  | outside
  | began (txNow : Int)
  | counted (userId : String)

/-- The transaction begins, finds room for its user and inserts; whatever else it
or another procedure does is not an INSERT. -/
inductive Moves (maxSessions : Nat) : Phase → (command : Command) → command.Reply → Phase → Prop where
  | begin (txNow : Int) : Moves maxSessions .outside (.db .begin) (.ok txNow) (.began txNow)
  | count (room : activeCount < (maxSessions : Int)) :
      Moves maxSessions (.began txNow) (.db (.countActiveSessionsForUser userId txNow))
        (.ok activeCount) (.counted userId)
  | insert (record : DbSession) (reply) :
      Moves maxSessions (.counted record.userId) (.db (.insertSession record)) reply .outside
  | quit (quiet : Quiet command) (early : ∀ userId, phase ≠ .counted userId) (reply) :
      Moves maxSessions phase command reply .outside

@[reducible] def guardedCreation (maxSessions : Nat) : Protocol Command Command.Reply :=
  ⟨Phase, .outside, Moves maxSessions⟩

section

variable {site : Deployment} {maxSessions : Nat} {world after : World}

theorem quiet_rests (command : Command) (reply : command.Reply) (quiet : Quiet command) :
    (guardedCreation maxSessions).moves .outside command reply .outside :=
  .quit quiet (by simp) reply

private theorem createSessionGuarded_conforms (record : DbSession) :
    (guardedCreation maxSessions).Conforms .outside
      (SessionStore.createSessionGuarded record maxSessions) := by
  simp only [SessionStore.createSessionGuarded, database_eq, Program.call_bind, Program.done_bind]
  rintro (error | txNow)
  · exact ⟨.outside, quiet_rests _ _ (by simp [Quiet]), rfl⟩
  refine ⟨.began txNow, .begin txNow, ?_⟩
  rintro (error | activeCount)
  · exact ⟨.outside, .quit (by simp [Quiet]) (by simp) _, rfl⟩
  dsimp only
  split
  · refine ⟨.outside, .quit (by simp [Quiet]) (by simp) _, ?_⟩
    rintro (error | _)
    · exact ⟨.outside, quiet_rests _ _ (by simp [Quiet]), rfl⟩
    · exact ⟨.outside, quiet_rests _ _ (by simp [Quiet]), rfl⟩
  · rename_i room
    refine ⟨.counted record.userId, .count (by omega), ?_⟩
    intro reply
    exact ⟨.outside, .insert record reply, rfl⟩

/-- `create_session` is a guarded creation with Redis commands after it, or Redis
commands alone. -/
theorem createSession_conforms (sha256Hex : String → String) (db : Bool)
    (sessionId userId : String) (issuedAt : Option Nat) (deviceInfo : Option String)
    (ttlSecs : Nat) :
    (guardedCreation maxSessions).Conforms .outside
      (SessionStore.createSession sha256Hex db sessionId userId issuedAt deviceInfo ttlSecs
        maxSessions) := by
  unfold SessionStore.createSession
  split
  · rfl
  split
  · rfl
  split
  · simp only [SessionStore.createSessionDb, nowUnixSecs_eq, redis_eq, Program.call_bind,
      Program.done_bind]
    intro millis
    refine ⟨.outside, quiet_rests _ _ (by simp [Quiet]), ?_⟩
    apply (createSessionGuarded_conforms _).bind
    rintro ((detail | detail) | inserted)
    · dsimp only
      split <;> rfl
    · rfl
    · intro reply
      exact ⟨.outside, quiet_rests _ _ (by simp [Quiet]), rfl⟩
  · apply Protocol.conforms_of_every quiet_rests
    refine (SessionStore.createSessionRedis_footprint sha256Hex sessionId userId issuedAt deviceInfo
      ttlSecs maxSessions).imp ?_
    rintro _ (_ | _ | _ | _ | _) <;> simp [Quiet]

/-- Every call of the traffic follows the protocol. -/
theorem keepsLimit_conforms (site : Deployment) {call : Call}
    (kind : keepsLimit maxSessions call = true) :
    (guardedCreation maxSessions).Conforms .outside (site.program call) := by
  cases call <;> simp only [keepsLimit, Bool.false_eq_true, beq_iff_eq] at kind
  case createSession =>
    subst kind
    exact createSession_conforms _ _ _ _ _ _ _
  case createSessionGuarded record limit =>
    subst kind
    exact createSessionGuarded_conforms record
  case validateSession sessionId userId =>
    apply Protocol.conforms_of_every quiet_rests
    refine (SessionStore.validateSession_footprint site.db sessionId userId).imp ?_
    rintro _ (_ | _ | _ | _) <;> simp [Quiet]
  case revokeSession sessionId =>
    apply Protocol.conforms_of_every quiet_rests
    refine (SessionStore.revokeSession_footprint site.sha256Hex site.db sessionId).imp ?_
    rintro _ (_ | _ | _) <;> simp [Quiet]
  case revokeSessionRow sessionId =>
    intro reply
    exact ⟨.outside, quiet_rests _ _ (by simp [Quiet]), rfl⟩

/-- What a client in a phase may rely on. -/
def Justified (maxSessions : Nat) (world : World) : Phase → Prop
  | .outside => True
  | .began txNow => txNow ≤ world.pgEpoch
  | .counted userId => activeSessions userId world < maxSessions

/-- The limit is kept, and there is room for each row that is about to be inserted. -/
structure Room (maxSessions : Nat) (phases : Nat → Phase) (world : World) : Prop where
  limit : ∀ userId, activeSessions userId world ≤ maxSessions
  justified : ∀ client, Justified maxSessions world (phases client)

theorem Justified.later {phase : Phase} (justified : Justified maxSessions world phase)
    (epoch : world.pgEpoch ≤ after.pgEpoch)
    (fewer : ∀ userId, phase = .counted userId →
      activeSessions userId after ≤ activeSessions userId world) :
    Justified maxSessions after phase := by
  cases phase with
  | outside => trivial
  | began txNow => exact Int.le_trans justified epoch
  | counted userId => exact Nat.lt_of_le_of_lt (fewer userId rfl) justified

/-- One client moves while the number of active rows does not grow. -/
theorem Room.move {phases : Nat → Phase} {client : Nat} {moved : Phase}
    (room : Room maxSessions phases world) (epoch : world.pgEpoch ≤ after.pgEpoch)
    (fewer : ∀ userId, activeSessions userId after ≤ activeSessions userId world)
    (own : Justified maxSessions after moved) :
    Room maxSessions (Function.update phases client moved) after where
  limit userId := (fewer userId).trans (room.limit userId)
  justified other := by
    by_cases same : other = client
    · subst other
      simpa only [Function.update_self] using own
    · simp only [Function.update_of_ne same]
      exact (room.justified other).later epoch fun userId _ => fewer userId

private theorem begin_answered {txNow : Int} {outcome : Outcome}
    (answered : (Command.exec outcome (.db .begin) world).1 = .ok txNow) :
    txNow = world.pgEpoch := by
  cases outcome with
  | lost => cases answered
  | applied => cases answered
  | success => exact (Except.ok.inj answered).symm

/-- A COUNT sees every row that is active now. -/
theorem count_answered {userId : String} {txNow activeCount : Int} {outcome : Outcome}
    (dated : txNow ≤ world.pgEpoch)
    (answered : (Command.exec outcome (.db (.countActiveSessionsForUser userId txNow)) world).1 =
      .ok activeCount) : (activeSessions userId world : Int) ≤ activeCount := by
  cases outcome with
  | lost => cases answered
  | applied => cases answered
  | success =>
    cases answered
    apply Int.ofNat_le.mpr
    apply Table.countWhere_mono
    intro row
    exact isActive_earlier dated

/-- The row that is inserted takes the room that its client has counted. -/
theorem Room.insert {phases : Nat → Phase} {client : Nat} {record : DbSession}
    (room : Room maxSessions phases world)
    (counted : phases client = .counted record.userId)
    (alone : ∀ other, other ≠ client → phases other ≠ .counted record.userId) :
    Room maxSessions (Function.update phases client .outside)
      (Command.effect (.db (.insertSession record)) world) := by
  have grows (userId : String) :
      activeSessions userId (Command.effect (.db (.insertSession record)) world) ≤
        activeSessions userId world + if record.userId = userId then 1 else 0 :=
    DbCommand.activeSessions_effect (.insertSession record)
  refine ⟨fun userId => ?_, fun other => ?_⟩
  · refine (grows userId).trans ?_
    split
    · rename_i own
      have spare := room.justified client
      rw [counted, own] at spare
      exact spare
    · exact room.limit userId
  · by_cases same : other = client
    · subst other
      simp only [Function.update_self]
      trivial
    · simp only [Function.update_of_ne same]
      refine (room.justified other).later (Int.le_refl _) ?_
      intro userId pending
      have apart : record.userId ≠ userId := by
        rintro rfl
        exact alone other same pending
      simpa [apart] using grows userId

/-- A client that has counted stands right before its INSERT. -/
theorem inserting_of_counted {config : site.system.Config} {phases : Nat → Phase} {client : Nat}
    {userId : String} (stands : (guardedCreation maxSessions).Stands config phases)
    (counted : phases client = .counted userId) :
    inserting? site (config.threads client) = some userId := by
  have own := stands client
  rw [counted] at own
  cases state : config.threads client with
  | idle =>
    rw [state] at own
    cases own
  | returned call value =>
    rw [state] at own
    cases own
  | running call program =>
    rw [state] at own
    cases program with
    | done value => cases own
    | call command rest =>
      obtain ⟨moved, moves, _⟩ := own (command.failure "" config.world)
      cases moves with
      | insert record => rfl
      | quit quiet early => exact absurd rfl (early userId)

private theorem room_kept (site : Deployment) (maxSessions : Nat) :
    (guardedCreation maxSessions).Keeps (serialTraffic site maxSessions) (Room maxSessions) where
  start config client call permitted := keepsLimit_conforms site permitted.1
  event config phases event _ _ room :=
    ⟨fun userId => (activeSessions_environment event).trans (room.limit userId),
      fun client => (room.justified client).later (pgEpoch_environment event)
        fun _ _ => activeSessions_environment event⟩
  command config phases client outcome call command rest moved permitted stands state moves room := by
    have unchanged : config.world.pgEpoch ≤ (Command.exec outcome command config.world).2.pgEpoch :=
      Int.le_of_eq (pgEpoch_exec command outcome).symm
    generalize before : phases client = phase at moves
    generalize answered : (Command.exec outcome command config.world).1 = reply at moves
    cases moves with
    | begin txNow =>
      refine room.move unchanged (fun _ => activeSessions_quiet (by simp [Quiet]) outcome) ?_
      exact Int.le_trans (Int.le_of_eq (begin_answered answered)) unchanged
    | @count activeCount txNow userId spare =>
      have fewer (other : String) : activeSessions other
          (Command.exec outcome (.db (.countActiveSessionsForUser userId txNow)) config.world).2 ≤
            activeSessions other config.world := activeSessions_quiet (by simp [Quiet]) outcome
      refine room.move unchanged fewer ?_
      have dated := room.justified client
      rw [before] at dated
      have counted := count_answered dated answered
      exact Nat.lt_of_le_of_lt (fewer userId) (by omega)
    | insert record =>
      cases effective : outcome.takesEffect with
      | false =>
        rw [Command.exec_lost effective]
        exact room.move (Int.le_refl _) (fun _ => Nat.le_refl _) trivial
      | true =>
        rw [Command.exec_effect effective]
        refine room.insert before ?_
        intro other different counted
        exact permitted.2 effective record.userId other different
          (by rw [state, inserting?]) (inserting_of_counted stands counted)
    | quit quiet =>
      exact room.move unchanged (fun _ => activeSessions_quiet quiet outcome) trivial

end

/-- The limit holds in every run in which no INSERT commits between the COUNT and
the INSERT of another transaction of the same user. -/
theorem within_limit_of_serial (site : Deployment) (maxSessions : Nat) :
    WithinLimit site maxSessions (serialTraffic site maxSessions) := by
  intro world actions last initially run userId
  obtain ⟨phases, _, room⟩ :=
    (room_kept site maxSessions).run run ⟨initially, fun _ => trivial⟩
  exact room.limit userId

def sampleRow (sessionId userId : String) : DbSession :=
  ⟨sessionId, userId, some 1000, none, 4600, false⟩

/-- Two transactions run side by side: both begin, both count, both insert. -/
def sideBySide (first second : Call) : List (Sample.site true).system.Action :=
  .start 0 first :: .start 1 second ::
    (List.replicate 3 [.step 0 Outcome.success, .step 1 Outcome.success]).flatten

theorem serial_of_quiet {site : Deployment} {config : site.system.Config} {client : Nat}
    {outcome : Outcome} (quiet : inserting? site (config.threads client) = none) :
    Serial site config (.step client outcome) := by
  intro _ userId other _ mine
  rw [quiet] at mine
  cases mine

/-- Overlapping transactions of different users keep the limit. -/
theorem limit_kept_side_by_side :
    ∃ last, Run (serialTraffic (Sample.site true) 1) (.initial (World.empty 1000000))
        (sideBySide (.createSessionGuarded (sampleRow "sid_1" "user_1") 1)
          (.createSessionGuarded (sampleRow "sid_2" "user_2") 1)) last ∧
      activeSessions "user_1" last.world = 1 ∧
      ∀ userId, activeSessions userId last.world ≤ 1 := by
  have run : ∃ last, Run (serialTraffic (Sample.site true) 1) (.initial (World.empty 1000000))
      (sideBySide (.createSessionGuarded (sampleRow "sid_1" "user_1") 1)
        (.createSessionGuarded (sampleRow "sid_2" "user_2") 1)) last ∧
      activeSessions "user_1" last.world = 1 := by
    refine ⟨_, .step ⟨rfl, trivial⟩ rfl (.step ⟨rfl, trivial⟩ rfl
      (.step ⟨trivial, serial_of_quiet rfl⟩ rfl (.step ⟨trivial, serial_of_quiet rfl⟩ rfl
      (.step ⟨trivial, serial_of_quiet rfl⟩ rfl (.step ⟨trivial, serial_of_quiet rfl⟩ rfl
      (.step ⟨trivial, ?_⟩ rfl (.step ⟨trivial, ?_⟩ rfl .refl))))))), ?_⟩
    · intro _ userId other different mine
      cases mine
      rcases other with _ | _ | other
      · exact absurd rfl different
      · exact (by decide : some "user_2" ≠ some "user_1")
      · exact nofun
    · intro _ userId other different mine
      cases mine
      rcases other with _ | _ | other
      · exact nofun
      · exact absurd rfl different
      · exact nofun
    · decide +kernel
  obtain ⟨last, run, counted⟩ := run
  exact ⟨last, run, counted,
    within_limit_of_serial (Sample.site true) 1 _ _ last (fun _ => Nat.zero_le _) run⟩

/-- Two logins of one user count before either of them inserts. -/
theorem overlapping_logins_exceed_limit :
    ¬ WithinLimit (Sample.site true) 1 (limitTraffic (Sample.site true) 1) := by
  intro limited
  have evaluated : Config.runsTo (limitTraffic (Sample.site true) 1)
      (.initial (World.empty 1000000))
      (sideBySide (.createSessionGuarded (sampleRow "sid_1" "user_1") 1)
        (.createSessionGuarded (sampleRow "sid_2" "user_1") 1))
      (fun last => decide (activeSessions "user_1" last.world = 2)) = true := by
    decide +kernel
  obtain ⟨last, run, counted⟩ := Run.of_runsTo evaluated
  have exceeded := limited (World.empty 1000000) _ last (fun _ => Nat.zero_le _) run "user_1"
  rw [of_decide_eq_true counted] at exceeded
  exact absurd exceeded (by decide)

end BrainMate.Gateway.SessionLimitDb
