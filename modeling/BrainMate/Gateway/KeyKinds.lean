import BrainMate.Gateway.StoreFrames

namespace BrainMate.Gateway

open Interleaving System

/-- The values that a key of these stores is for. -/
def RedisKey.isFor : RedisKey → RedisValue → Bool
  | .session _, .session _ | .sessionCount _, .counter _ | .refresh _, .refresh _ => true
  | .session _, _ | .sessionCount _, _ | .refresh _, _ => false
  | _, _ => true

def Kinded (world : World) : Prop :=
  ∀ key value, world.lookup key = some value → key.isFor value = true

/-- The command leaves under its key what the key is for. -/
def Suits : Command → Prop
  | .redis (.setEx key value _) | .redis (.setNxEx key value _) => key.isFor value = true
  | .redis command => ∀ value, command.computes value = true → command.key.isFor value = true
  | .now | .db _ | .http => True

variable {command : Command} {world : World} {site : Deployment}

theorem Kinded.session (kinded : Kinded world) {sessionId : String} {value : RedisValue}
    (found : world.lookup (.session sessionId) = some value) : ∃ record, value = .session record := by
  have kind := kinded _ _ found
  cases value with
  | session record => exact ⟨record, rfl⟩
  | _ => cases kind

theorem Kinded.counter (kinded : Kinded world) {userHash : String} {value : RedisValue}
    (found : world.lookup (.sessionCount userHash) = some value) : ∃ count, value = .counter count := by
  have kind := kinded _ _ found
  cases value with
  | counter count => exact ⟨count, rfl⟩
  | _ => cases kind

theorem Kinded.refresh (kinded : Kinded world) {tokenHash : String} {value : RedisValue}
    (found : world.lookup (.refresh tokenHash) = some value) : ∃ record, value = .refresh record := by
  have kind := kinded _ _ found
  cases value with
  | refresh record => exact ⟨record, rfl⟩
  | _ => cases kind

theorem Kinded.effect (kinded : Kinded world) (suits : Suits command) :
    Kinded (command.effect world) := by
  intro key value found
  cases command with
  | now => exact kinded key value found
  | db command => exact kinded key value found
  | http => exact kinded key value found
  | redis command =>
    by_cases own : key = command.key
    · obtain before | ⟨ttlSecs, rfl, _⟩ | ⟨ttlSecs, rfl, _, _⟩ | ⟨_, computes⟩ :=
        command.effect_value world found
      · exact kinded key value before
      · exact suits
      · exact suits
      · rw [own]
        cases command <;> first | exact suits value computes | cases computes
    · exact kinded key value ((command.effect_lookup_other world own).symm.trans found)

theorem Kinded.exec (kinded : Kinded world) (suits : Suits command) (outcome : Outcome) :
    Kinded (Command.exec outcome command world).2 := by
  rcases Command.exec_world outcome command world with same | same
  · rw [same]
    exact kinded
  · rw [same]
    exact kinded.effect suits

theorem Kinded.environment (kinded : Kinded world) (event : Event) :
    Kinded (environment event world) :=
  fun key value found => kinded key value (environment_cached found)

private theorem kinded_empty (clock : Nat) : Kinded (World.empty clock) := by
  intro key value found
  have absent : (World.empty clock).lookup key = none := rfl
  rw [absent] at found
  cases found

/-- The keys of the other stores may hold anything. -/
theorem suits_of_inside {stores : List Store} (apart : Store.sessions ∉ stores ∧ Store.refresh ∉ stores)
    {command : Command} (inside : Inside stores command) : Suits command := by
  cases command with
  | now => trivial
  | db command => trivial
  | http => trivial
  | redis command =>
    have among : command.key.owner ∈ stores := inside _ (.head _)
    have free : ∀ value, command.key.isFor value = true := by
      intro value
      generalize command.key = key at among
      cases key with
      | session | sessionCount => exact absurd among apart.1
      | refresh => exact absurd among apart.2
      | _ => rfl
    cases command with
    | setEx | setNxEx => exact free _
    | _ => exact fun value _ => free value

theorem suits_token {command : Command} (issued : RefreshStore.TokenCommand command) :
    Suits command := by
  cases issued with
  | clock | insert | fetch | rotate | mark | cascade => trivial
  | cache | lock => rfl
  | read | unlock => exact nofun

private theorem suits_validation {sessionId : String} {command : Command}
    (issued : SessionStore.ValidationCommand sessionId command) : Suits command := by
  cases issued with
  | clock | fetch => trivial
  | read => exact nofun
  | rehydrate => rfl

private theorem suits_revocation {sha256Hex : String → String} {sessionId : String}
    {command : Command}
    (issued : SessionStore.RevocationCommand sha256Hex sessionId command) : Suits command := by
  cases issued with
  | mark => trivial
  | drop => exact nofun
  | uncount userId =>
    intro value computes
    cases value with
    | counter => rfl
    | _ => cases computes

private theorem suits_registration {sha256Hex : String → String} {sessionId userId : String}
    {ttlSecs : Nat}
    {command : Command}
    (issued : SessionStore.RegistrationCommand sha256Hex sessionId userId ttlSecs command) :
    Suits command := by
  cases issued with
  | store => rfl
  | read | drop => exact nofun
  | count | uncount =>
    intro value computes
    cases value with
    | counter => rfl
    | _ => cases computes

private theorem createSessionGuarded_suits (record : DbSession) (maxSessions : Int) :
    (SessionStore.createSessionGuarded record maxSessions).Every Suits := by
  refine (SessionStore.createSessionGuarded_within record maxSessions fun _ => False).imp ?_
  intro command within
  cases command with
  | redis command => exact within.elim
  | _ => trivial

private theorem createSession_suits (sha256Hex : String → String) (db : Bool)
    (sessionId userId : String)
    (issuedAt : Option Nat) (deviceInfo : Option String) (ttlSecs maxSessionsPerUser : Nat) :
    (SessionStore.createSession sha256Hex db sessionId userId issuedAt deviceInfo ttlSecs
      maxSessionsPerUser).Every Suits := by
  unfold SessionStore.createSession
  split
  · trivial
  split
  · trivial
  split
  · unfold SessionStore.createSessionDb
    refine Program.Every.bind ⟨trivial, fun _ => trivial⟩ fun now => ?_
    apply (createSessionGuarded_suits _ _).bind
    rintro ((detail | detail) | inserted)
    · dsimp only
      split <;> trivial
    · trivial
    · exact ⟨rfl, fun _ => trivial⟩
  · exact (SessionStore.createSessionRedis_footprint sha256Hex sessionId userId issuedAt deviceInfo
      ttlSecs maxSessionsPerUser).imp fun _ => suits_registration

private theorem revokeSession_suits (sha256Hex : String → String) (db : Bool) (sessionId : String) :
    (SessionStore.revokeSession sha256Hex db sessionId).Every Suits :=
  (SessionStore.revokeSession_footprint sha256Hex db sessionId).imp fun _ => suits_revocation

private theorem revokeToken_suits (db : Bool) (jti : String) (ttlSecs : Nat) :
    (TokenBlacklist.revoke db jti ttlSecs).Every Suits :=
  (revokeToken_inside db jti ttlSecs).imp fun _ => suits_of_inside (by decide)

private theorem enqueue_suits (op : ReconciliationOp) : (Reconciliation.enqueue op).Every Suits :=
  (enqueue_inside op).imp fun _ => suits_of_inside (by decide)

private theorem remainingTtl_suits (expiresAt : Nat) : (Auth.remainingTtl expiresAt).Every Suits :=
  ⟨trivial, fun _ => trivial⟩

private theorem logout_suits (sha256Hex : String → String) (db reconciliation : Bool)
    (context : Auth.UserContext) : (Auth.logout sha256Hex db reconciliation context).Every Suits := by
  apply Program.Every.bind
  · apply (remainingTtl_suits context.expiresAt).bind
    intro ttl
    split
    · apply (revokeToken_suits db context.tokenId ttl).bind
      rintro (error | done)
      · dsimp only
        split
        · exact enqueue_suits _
        · trivial
      · trivial
    · trivial
  · intro
    apply Program.Every.bind
    · apply (revokeSession_suits sha256Hex db context.sessionId).bind
      rintro (error | done)
      · dsimp only
        split
        · exact enqueue_suits _
        · trivial
      · trivial
    · intro
      trivial

private theorem revokeSessionRequest_suits (sha256Hex : String → String) (db : Bool)
    (sessionId : String)
    (jti : Option String) (tokenExp : Option Nat) :
    (Auth.revokeSession sha256Hex db sessionId jti tokenExp).Every Suits := by
  apply (revokeSession_suits sha256Hex db sessionId).bind
  rintro (error | done)
  · trivial
  · dsimp only
    split
    · apply (remainingTtl_suits _).bind
      intro ttl
      split
      · exact revokeToken_suits db _ ttl
      · trivial
    · trivial

private theorem program_suits (site : Deployment) (call : Call) :
    (site.program call).Every Suits := by
  cases call with
  | createSession => exact createSession_suits _ _ _ _ _ _ _ _
  | validateSession sessionId expectedUserId =>
    exact (SessionStore.validateSession_footprint site.db sessionId expectedUserId).imp
      fun _ => suits_validation
  | revokeSession => exact revokeSession_suits _ _ _
  | createSessionGuarded => exact createSessionGuarded_suits _ _
  | revokeSessionRow | cleanup => exact ⟨trivial, fun _ => trivial⟩
  | issue =>
    exact (RefreshStore.issue_footprint _ _ _ _ _ _).imp fun _ => suits_token
  | validate => exact (RefreshStore.validate_footprint _ _ _).imp fun _ => suits_token
  | rotate => exact (RefreshStore.rotate_footprint _ _ _ _ _).imp fun _ => suits_token
  | revoke => exact (RefreshStore.revoke_footprint _ _ _).imp fun _ => suits_token
  | blacklist => exact revokeToken_suits _ _ _
  | isBlacklisted =>
    exact (isBlacklisted_inside _ _).imp fun _ => suits_of_inside (by decide)
  | logout => exact logout_suits _ _ _ _
  | revokeSessionRequest => exact revokeSessionRequest_suits _ _ _ _ _
  | getOrValidateClaims =>
    exact (getOrValidateClaims_inside _ _ _).imp fun _ => suits_of_inside (by decide)

/-- In every state that is reached from the empty stores, keys hold values of their kind. -/
theorem kinded_of_run {permitted : site.system.Config → site.system.Action → Prop}
    {actions : List site.system.Action} {config : site.system.Config} {clock : Nat}
    (run : Run permitted (.initial (World.empty clock)) actions config) : Kinded config.world :=
  run.keeps (program_suits site) (fun outcome suits kinded => kinded.exec suits outcome)
    (fun event kinded => kinded.environment event) (fun _ => trivial) (kinded_empty clock)

end BrainMate.Gateway
