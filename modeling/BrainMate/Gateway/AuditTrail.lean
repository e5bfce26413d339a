import BrainMate.Gateway.RequireAuth

/-! The audit events of requests. An event is kept for a day under the id of its request, and
the id is the one that the client names. -/

namespace BrainMate.Gateway

open Interleaving System

/-- An event that was recorded, and when. -/
structure RecordedEvent where
  event : AuditEvent
  time : Nat
  deriving DecidableEq, Repr

namespace RecordedEvent

@[irreducible] def ttlMs : Nat := WafFeedback.auditTtlSecs * 1000

def key (recorded : RecordedEvent) : RedisKey := WafFeedback.auditKey recorded.event.requestId

def expiry (recorded : RecordedEvent) : Nat := recorded.time + ttlMs

/-- For a day the event is what is read under its id. -/
def Readable (recorded : RecordedEvent) (world : World) : Prop :=
  world.clock < recorded.expiry → world.lookup recorded.key = some (.audit recorded.event)

end RecordedEvent

/-- The event that is recorded when a command is carried out. -/
def recordedBy (outcome : Outcome) (world : World) : AuthCommand → Option RecordedEvent
  | .store (.redis (.setEx (.wafAudit _) (.audit event) ttlSecs)) =>
    if outcome.takesEffect && acceptsTtl world.clock ttlSecs then some ⟨event, world.clock⟩ else none
  | _ => none

/-- Under an id for an event there is nothing but the event of a request with the id. -/
def AuditSafe : Command → Prop
  | .redis (.setEx (.wafAudit requestId) value ttlSecs) =>
    ∃ event : AuditEvent, requestId = event.requestId ∧ value = .audit event ∧
      ttlSecs = WafFeedback.auditTtlSecs
  | .redis command => ∀ requestId, command.key ≠ .wafAudit requestId
  | .now | .db _ | .http => True

theorem AuditSafe.of_inside {stores : List Store} (foreign : Store.waf ∉ stores) (command : Command)
    (inside : Inside stores command) : AuditSafe command := by
  have spared : Store.waf ∉ command.stores := fun member => foreign (inside _ member)
  unfold AuditSafe
  split
  · exact absurd (.head _) spared
  · intro requestId same
    apply absurd _ spared
    rw [Command.stores, same]
    exact .head _
  · trivial
  · trivial
  · trivial

private theorem recordAuditEvent_safe (event : AuditEvent) :
    (WafFeedback.recordAuditEvent event).Every AuditSafe := by
  refine ⟨⟨event, rfl, rfl, rfl⟩, ?_⟩
  rintro (error | done) <;> trivial

private theorem isIpBlocked_safe (ip : String) : (WafFeedback.isIpBlocked ip).Every AuditSafe := by
  unfold WafFeedback.isIpBlocked
  split
  · trivial
  · refine ⟨nofun, ?_⟩
    rintro (error | blocked) <;> trivial

private theorem blockIp_safe (ip : String) (ttlSecs : Nat) :
    (WafFeedback.blockIp ip ttlSecs).Every AuditSafe := by
  unfold WafFeedback.blockIp
  split
  · trivial
  · refine ⟨nofun, ?_⟩
    rintro (error | done) <;> trivial

@[reducible] def auditObserver : Observer AuthCommand AuthCommand.Reply where
  Phase := Unit
  rest := ()
  advance _ _ _ := ()
  allowed
    | _, .store command => AuditSafe command
    | _, .handle _ _ => True

private theorem auditObserver_ignores {stores : List Store} (foreign : Store.waf ∉ stores) :
    Ignores auditObserver stores := by
  constructor
  · rintro phase (command | ⟨request, context⟩) on
    · exact .of_inside foreign command on
    · trivial
  · intro phase command reply _
    rfl

private theorem asking_safe {α : Type} {procedure : Procedure α}
    (safe : procedure.Every AuditSafe) :
    auditObserver.Follows (fun _ phase => phase = ()) () (asking procedure) := by
  induction procedure with
  | done value => rfl
  | call command next ih => exact ⟨safe.1, fun reply => ih reply (safe.2 reply)⟩

namespace AuthGateway

variable (gateway : AuthGateway)

private theorem blockAndInvalidate_safe (claims : ClerkClaims) (remoteIp requestId : String)
    (risk : RiskAssessment) :
    (gateway.blockAndInvalidate claims remoteIp requestId risk).Every AuditSafe := by
  have rest : ((do
      let _ ← SessionStore.revokeSession gateway.sha256Hex gateway.db claims.sid
      let _ ← WafFeedback.blockIp remoteIp 900
      let timestamp ← nowUnixSecs
      let _ ← WafFeedback.recordAuditEvent ⟨requestId, claims.sub, remoteIp, risk.level.asStr,
        risk.action.asStr, true, timestamp⟩) : Procedure Unit).Every AuditSafe := by
    apply Program.Every.bind
    · exact (revokeSession_inside gateway.sha256Hex gateway.db claims.sid).imp
        (AuditSafe.of_inside (by decide))
    · intro revoked
      apply (blockIp_safe remoteIp 900).bind
      intro blocked
      refine ⟨trivial, fun now => ?_⟩
      apply (recordAuditEvent_safe _).bind
      intro recorded
      trivial
  refine ⟨trivial, fun now => ?_⟩
  dsimp only [Program.bind, Program.pure_eq]
  split
  · apply Program.Every.bind
    · exact (revokeToken_inside gateway.db claims.jti _).imp (AuditSafe.of_inside (by decide))
    · intro revoked
      exact rest
  · exact rest

private theorem requireAuth_follows_audits (arrival : Arrival) :
    auditObserver.Follows (fun _ _ => True) () (gateway.requireAuth arrival.request arrival.uuid) := by
  apply gateway.requireAuth_follows (auditObserver_ignores (by decide))
  · intro ip
    exact asking_safe (isIpBlocked_safe ip)
  · intro claims remoteIp requestId risk
    apply (asking_safe (gateway.blockAndInvalidate_safe claims remoteIp requestId risk)).imp
    intro _ _ _
    trivial
  · intro request claims remoteIp requestId risk
    apply ((auditObserver_ignores (by decide)).follows
      (enforceNonceProtection_inside gateway request.method request.requestNonce request.nonceRegion)
      ()).bind
    rintro (error | _) phase _
    · trivial
    · refine ⟨trivial, fun _ => ⟨trivial, fun now => ?_⟩⟩
      apply (asking_safe (recordAuditEvent_safe _)).bind
      intro recorded phase _
      trivial

@[reducible] def auditTrail : gateway.system.Ghost where
  State := List RecordedEvent
  exchange trail _ command outcome world := trail ++ (recordedBy outcome world command).toList
  crash trail _ _ := trail

def auditPhases : gateway.auditTrail.Phases auditObserver where
  phase _ _ := ()
  exchange_own _ _ _ _ _ := rfl
  exchange_other _ _ _ _ _ _ _ := rfl
  crash_own _ _ _ := rfl
  crash_other _ _ _ _ _ := rfl

/-- What a client records is not under the id of another event of the last day. -/
def UnusedIds (trail : List RecordedEvent) (config : gateway.system.Config) :
    gateway.system.Move → Prop
  | .act (.step client outcome) => ∀ command ∈ (config.threads client).next?,
      ∀ recorded ∈ recordedBy outcome config.world command, ∀ earlier ∈ trail,
        earlier.event.requestId = recorded.event.requestId →
        config.world.clock < earlier.expiry → earlier.event = recorded.event
  | .act (.start _ _) | .act (.environment _) | .crash _ => True

/-- After the move each event of the trail is what is read under its id. -/
def EventsReadable (trail : List RecordedEvent) (config : gateway.system.Config)
    (move : gateway.system.Move) : Prop :=
  ∀ next ∈ config.move? move, ∀ recorded ∈ gateway.auditTrail.note trail config move,
    recorded.Readable next.world

end AuthGateway

namespace RecordedEvent

variable {recorded : RecordedEvent} {world : World} {command : Command} {outcome : Outcome}

/-- Redis keeps the event for a day. -/
structure Kept (recorded : RecordedEvent) (world : World) : Prop where
  past : recorded.time ≤ world.clock
  held : world.HoldsUntil recorded.key (.audit recorded.event) recorded.expiry

theorem Kept.readable (kept : recorded.Kept world) : recorded.Readable world :=
  kept.held.lookup

private theorem ttlMs_pos : 0 < ttlMs := by
  rw [ttlMs]
  decide

theorem valid {command : AuthCommand} (recorded : RecordedEvent)
    (found : recordedBy outcome world command = some recorded) : world.clock < recorded.expiry := by
  unfold recordedBy at found
  split at found
  · split at found
    · cases Option.some.inj found
      exact Nat.lt_add_of_pos_right ttlMs_pos
    · cases found
  · cases found

/-- An event is kept when it is recorded. -/
theorem kept_of_recorded (safe : AuditSafe command)
    (found : recordedBy outcome world (.store command) = some recorded) :
    recorded.Kept (Command.exec outcome command world).2 := by
  unfold recordedBy at found
  split at found
  · rename_i requestId event ttlSecs issued
    cases issued
    split at found
    · rename_i carried
      obtain ⟨effective, accepted⟩ := Bool.and_eq_true_iff.mp carried
      obtain ⟨same, rfl, value, rfl⟩ := safe
      cases value
      cases Option.some.inj found
      constructor
      · rw [Command.exec_clock]
      · rw [Command.exec_effect effective]
        have stored : (Command.effect (.redis (.setEx (.wafAudit event.requestId) (.audit event)
            WafFeedback.auditTtlSecs)) world).redis (.wafAudit event.requestId) =
            some ⟨.audit event, some (world.clock + ttlMs)⟩ := by
          simp only [Command.effect, RedisCommand.effect, accepted, World.store, if_true,
            Function.update_self, ttlMs]
        have held := World.HoldsUntil.of_stored stored
        exact held
    · cases found
  · cases found

/-- A command that records no other event under the id leaves the event. -/
theorem Kept.of_command (kept : recorded.Kept world) (safe : AuditSafe command) (outcome : Outcome)
    (same : ∀ newer ∈ recordedBy outcome world (.store command),
      recorded.event.requestId = newer.event.requestId → world.clock < recorded.expiry →
      recorded.event = newer.event) :
    recorded.Kept (Command.exec outcome command world).2 := by
  constructor
  · rw [Command.exec_clock]
    exact kept.past
  · cases effective : outcome.takesEffect with
    | false =>
      rw [Command.exec_lost effective]
      exact kept.held
    | true =>
      rw [Command.exec_effect effective]
      have other {redisCommand : RedisCommand} (different : recorded.key ≠ redisCommand.key) :
          (Command.effect (.redis redisCommand) world).HoldsUntil recorded.key
            (.audit recorded.event) recorded.expiry := by
        apply kept.held.of_same
        · exact Nat.le_of_eq (redisCommand.effect_clock world).symm
        · exact redisCommand.effect_redis_other world different
      unfold AuditSafe at safe
      split at safe
      · rename_i requestId value ttlSecs
        obtain ⟨event, rfl, rfl, rfl⟩ := safe
        by_cases own : recorded.event.requestId = event.requestId
        · cases accepted : acceptsTtl world.clock WafFeedback.auditTtlSecs with
          | false =>
            have refused : Command.effect (.redis (.setEx (.wafAudit event.requestId) (.audit event)
                WafFeedback.auditTtlSecs)) world = world := by
              simp [Command.effect, RedisCommand.effect, accepted]
            rw [refused]
            exact kept.held
          | true =>
            have rewritten : Command.effect (.redis (.setEx (.wafAudit event.requestId) (.audit event)
                WafFeedback.auditTtlSecs)) world = world.store recorded.key
                  ⟨.audit event, some (world.clock + ttlMs)⟩ := by
              simp only [Command.effect, RedisCommand.effect, accepted, if_true, ttlMs, key,
                WafFeedback.auditKey, own]
            rw [rewritten]
            intro within
            have equal := same ⟨event, world.clock⟩ (by simp [recordedBy, effective, accepted]) own within
            refine ⟨world.clock + ttlMs, ?_, Nat.add_le_add_right kept.past _⟩
            rw [equal]
            exact Function.update_self _ _ _
        · exact other fun reused => own (RedisKey.wafAudit.inj reused)
      · rename_i redisCommand _
        exact other (safe recorded.event.requestId).symm
      · exact kept.held.of_same (Nat.le_refl world.clock) rfl
      · exact kept.held.of_same (Nat.le_refl world.clock) rfl
      · exact kept.held.of_same (Nat.le_refl world.clock) rfl

end RecordedEvent

namespace AuthGateway

variable (gateway : AuthGateway)

def TrailKept (trail : List RecordedEvent) (world : World) : Prop :=
  ∀ recorded ∈ trail, recorded.Kept world

/-- Where ids are not used again, the events are kept. -/
theorem trail_kept : gateway.auditPhases.Keeps gateway.UnusedIds TrailKept where
  follows _ _ _ arrival _ := gateway.requireAuth_follows_audits arrival
  command trail config client outcome call command rest unused running allowed kept := by
    have fresh := unused command (by rw [running]; rfl)
    intro recorded member
    cases command with
    | handle request context =>
      rcases List.mem_append.mp member with before | new
      · exact kept recorded before
      · cases new
    | store command =>
      change recorded.Kept (Command.exec outcome command config.world).2
      rcases List.mem_append.mp member with before | new
      · apply (kept recorded before).of_command allowed outcome
        intro newer found
        exact fresh newer found recorded before
      · exact RecordedEvent.kept_of_recorded allowed (Option.mem_toList.mp new)
  event trail config event _ kept := by
    intro recorded member
    have before := kept recorded member
    constructor
    · exact Nat.le_trans before.past (event.clock_le config.world)
    · exact before.held.of_event event (.inr rfl)
  crash trail config client _ kept := kept

/-- Whoever reads each event finds that no id of the last day was used again. -/
theorem unused_of_readable {trail : List RecordedEvent} {config : gateway.system.Config}
    {move : gateway.system.Move} (readable : gateway.EventsReadable trail config move) :
    gateway.UnusedIds trail config move := by
  cases move with
  | crash client => trivial
  | act action =>
    cases action with
    | start client call => trivial
    | environment event => trivial
    | step client outcome =>
      intro command issued recorded found earlier member reused young
      cases state : config.threads client with
      | idle => rw [state] at issued; cases issued
      | returned call value => rw [state] at issued; cases issued
      | running call program =>
        cases program with
        | done value => rw [state] at issued; cases issued
        | call pending rest =>
          rw [state] at issued
          cases issued
          have moved : config.move? (.act (.step client outcome)) = some
              ⟨(AuthCommand.exec outcome command config.world).2, Function.update config.threads
                client (settle call (rest (AuthCommand.exec outcome command config.world).1))⟩ := by
            simp only [Config.move?, Config.step?, state]
          have noted : gateway.auditTrail.note trail config (.act (.step client outcome)) =
              trail ++ [recorded] := by
            simp only [Ghost.note, state, Thread.next?, Option.mem_def.mp found, Option.toList_some]
          have newest := readable _ moved recorded (by rw [noted]; simp)
          have older := readable _ moved earlier (by rw [noted]; simp [member])
          have same : earlier.key = recorded.key := congrArg RedisKey.wafAudit reused
          rw [RecordedEvent.Readable, AuthCommand.exec_clock] at newest older
          rw [← same, older young] at newest
          exact RedisValue.audit.inj (Option.some.inj (newest (recorded.valid found)))

end AuthGateway

/-- In every state of a run each event of the last day is what is read under its id, exactly if
nothing is recorded under the id of another event of the last day. -/
theorem events_readable_iff (gateway : AuthGateway) (world : World)
    (moves : List gateway.system.Move) (trail : List RecordedEvent) (last : gateway.system.Config) :
    Watched gateway.auditTrail gateway.EventsReadable [] (.initial world) moves trail last ↔
      Watched gateway.auditTrail gateway.UnusedIds [] (.initial world) moves trail last := by
  constructor
  · intro run
    exact run.imp fun _ _ _ => gateway.unused_of_readable
  · intro run
    apply run.imp_of_invariant fun trail config =>
      (∀ client, ThreadFollows auditObserver () (config.threads client)) ∧
        AuthGateway.TrailKept trail config.world
    · rintro trail config move next unused moved ⟨following, kept⟩
      exact gateway.trail_kept.move unused moved following kept
    · rintro trail config move unused ⟨following, kept⟩ next moved recorded member
      exact ((gateway.trail_kept.move unused moved following kept).2 recorded member).readable
    · exact ⟨fun _ => rfl, nofun⟩

/-- The user has been here from another place, with another device. -/
def Sample.knownUser : World :=
  signedIn.store (.riskContext (requestSha256Hex "user_1"))
    ⟨.context ⟨"user_1", "198.51.100.4", none, some "laptop", 900, 0, ["198.51.100.4"], ["laptop"]⟩,
      none⟩

def tracedRequest : HttpRequest :=
  Sample.request .get "/v1/auth/session"
    [("x-request-id", "trace-1"), ("x-device-fingerprint", "phone")]

/-- One request is sent twice. The first is blocked; the second is past its checks by then. -/
def requestTwice : List Sample.authGateway.system.Move :=
  [.act (.start 0 ⟨tracedRequest, "uuid-0"⟩)] ++ Sample.stepsOf 0 11 ++
    [.act (.start 1 ⟨tracedRequest, "uuid-1"⟩)] ++ Sample.stepsOf 1 16 ++ Sample.stepsOf 0 10 ++
    Sample.stepsOf 1 3

def blockedEvent : AuditEvent :=
  ⟨"trace-1", "user_1", Sample.remoteIp, "critical", "block_and_invalidate", true, 1000⟩

def allowedEvent : AuditEvent := ⟨"trace-1", "user_1", Sample.remoteIp, "low", "allow", false, 1000⟩

/-- The event of the blocked request is gone in the same second. -/
theorem blocked_event_replaced :
    ∃ trail last, Watched Sample.authGateway.auditTrail (fun _ _ _ => True) []
        (.initial Sample.knownUser) requestTwice trail last ∧
      trail = [⟨blockedEvent, 1000000⟩, ⟨allowedEvent, 1000000⟩] ∧ last.world.clock = 1000000 ∧
      last.world.lookup (WafFeedback.auditKey "trace-1") = some (.audit allowedEvent) := by
  obtain ⟨trail, last, run, found⟩ := Watched.of_check Sample.authGateway.auditTrail
    (fun _ _ _ => True) [] (.initial Sample.knownUser) requestTwice
    (fun trail last => decide (trail = [⟨blockedEvent, 1000000⟩, ⟨allowedEvent, 1000000⟩] ∧
      last.world.clock = 1000000 ∧
      last.world.lookup (WafFeedback.auditKey "trace-1") = some (.audit allowedEvent)))
    (by decide +kernel)
  exact ⟨trail, last, run, of_decide_eq_true found⟩

end BrainMate.Gateway
