import BrainMate.Gateway.RequireAuth

/-! Nonces against replays. While a nonce is registered for a region, no second request with
it reaches its handler, whatever happens in between. -/

namespace BrainMate.Gateway

open Interleaving System

/-- The nonce that a command registers, if the answer says that it was not there. -/
def registers : (command : Command) → command.Reply → Option String
  | .redis (.setNxEx (.nonce name) _ _), .ok true => some name
  | _, _ => none

namespace AuthGateway

variable (gateway : AuthGateway)

/-- The region that the nonce of a request is registered for. -/
def regionOf (request : HttpRequest) : String :=
  gateway.nonceStore.effectiveRegion request.nonceRegion

def nonceKey (request : HttpRequest) : Option RedisKey :=
  request.requestNonce.map (NonceStore.key (gateway.regionOf request))

/-- A phase is the nonce that a client registered for the request it has under way. -/
@[reducible] def nonceObserver : Observer AuthCommand AuthCommand.Reply where
  Phase := Option String
  rest := none
  advance
    | phase, .store command, reply => (registers command reply).or phase
    | _, .handle _ _, _ => none
  allowed
    | _, .store (.redis (.setNxEx (.nonce _) value ttlSecs)) =>
      value = .text "1" ∧ ttlSecs = NonceStore.nonceTtlSecs
    | _, .store command => Store.nonce ∉ command.stores
    | phase, .handle request _ => request.method.isStateChanging = true →
        ∃ name, phase = some name ∧ gateway.nonceKey request = some (.nonce name)

variable {gateway}

theorem nonceObserver_ignores {stores : List Store} (foreign : Store.nonce ∉ stores) :
    Ignores gateway.nonceObserver stores := by
  have outside {command : Command} (inside : Inside stores command) : Store.nonce ∉ command.stores :=
    fun member => foreign (inside _ member)
  constructor
  · rintro phase (command | ⟨request, context⟩) on
    · unfold nonceObserver
      dsimp only
      split
      · rename_i same
        cases same
        exact absurd (.head _) (outside on)
      · rename_i same
        cases same
        exact outside on
      · rename_i same
        cases same
    · exact on.elim
  · rintro phase (command | ⟨request, context⟩) reply on
    · have none_registered : registers command reply = none := by
        unfold registers
        split
        · exact absurd (.head _) (outside on)
        · rfl
      change (registers command reply).or phase = phase
      rw [none_registered, Option.none_or]
    · exact on.elim

/-- A request that may change state goes on only with its nonce registered. -/
theorem enforceNonceProtection_follows (request : HttpRequest) :
    gateway.nonceObserver.Follows
      (fun result phase => result = .ok () → request.method.isStateChanging = true →
        ∃ name, phase = some name ∧ gateway.nonceKey request = some (.nonce name)) none
      (asking (gateway.enforceNonceProtection request.method request.requestNonce
        request.nonceRegion)) := by
  unfold enforceNonceProtection
  split
  · split
    · rintro ⟨⟩
    · rename_i nonce given
      unfold NonceStore.registerNonce
      split
      · rintro ⟨⟩
      · dsimp only
        split
        · rintro ⟨⟩
        · refine ⟨⟨rfl, rfl⟩, ?_⟩
          rintro (error | _ | _)
          · rintro ⟨⟩
          · rintro ⟨⟩
          · intro _ _
            exact ⟨_, rfl, by rw [nonceKey, given]; rfl⟩
  · rename_i reading
    intro _ changing
    exact absurd changing reading

private theorem requireAuth_follows_nonces (arrival : Arrival) :
    gateway.nonceObserver.Follows (fun _ _ => True) none
      (gateway.requireAuth arrival.request arrival.uuid) := by
  apply gateway.requireAuth_follows (nonceObserver_ignores (by decide))
  · intro ip
    exact (nonceObserver_ignores (by decide)).follows (isIpBlocked_inside ip) none
  · intro claims remoteIp requestId risk
    apply ((nonceObserver_ignores (by decide)).follows
      (gateway.blockAndInvalidate_inside claims remoteIp requestId risk) none).imp
    intro _ _ _
    trivial
  · intro request claims remoteIp requestId risk
    apply (enforceNonceProtection_follows request).bind
    rintro (error | _) phase registered
    · trivial
    · refine ⟨registered rfl, fun _ => ?_⟩
      have ignores : Ignores gateway.nonceObserver [.waf] := nonceObserver_ignores (by decide)
      apply (ignores.follows nowUnixSecs_inside none).bind
      rintro timestamp phase rfl
      apply (ignores.follows (recordAuditEvent_inside _) none).bind
      intro recorded phase resting
      trivial

end AuthGateway

/-- A nonce and when it was registered. -/
structure Registration where
  name : String
  time : Nat
  deriving DecidableEq, Repr

namespace Registration

@[irreducible] def ttlMs : Nat := NonceStore.nonceTtlSecs * 1000

/-- Neither is made while the other is valid for the same nonce. -/
def Apart (first second : Registration) : Prop :=
  first.name = second.name → first.time + ttlMs ≤ second.time ∨ second.time + ttlMs ≤ first.time

/-- Redis keeps the nonce as long as the registration is valid. -/
def Standing (registration : Registration) (world : World) : Prop :=
  world.HoldsUntil (.nonce registration.name) (.text "1") (registration.time + ttlMs)

variable {first second registration : Registration} {world next : World} {name : String}

theorem Apart.symm (apart : first.Apart second) : second.Apart first :=
  fun same => (apart same.symm).symm

/-- The registration of a nonce leaves the others standing. -/
theorem Standing.of_setNx (standing : registration.Standing world) :
    registration.Standing
      ((RedisCommand.setNxEx (.nonce name) (.text "1") NonceStore.nonceTtlSecs).effect world) := by
  simp only [RedisCommand.effect]
  split
  · rename_i fresh
    have gone : world.lookup (.nonce name) = none := by simpa using (Bool.and_eq_true_iff.mp fresh).2
    by_cases own : registration.name = name
    · intro within
      have elapsed := World.HoldsUntil.elapsed standing (own ▸ gone)
      exact absurd (Nat.lt_of_lt_of_le within elapsed) (Nat.lt_irrefl _)
    · apply World.HoldsUntil.of_same standing
      · exact Nat.le_refl world.clock
      · exact Function.update_of_ne (fun same => own (RedisKey.nonce.inj same)) _ _
  · exact standing

private theorem standing_of_fresh (accepted : acceptsTtl world.clock NonceStore.nonceTtlSecs = true)
    (gone : world.lookup (.nonce name) = none) :
    Standing ⟨name, world.clock⟩
      ((RedisCommand.setNxEx (.nonce name) (.text "1") NonceStore.nonceTtlSecs).effect world) := by
  have stored : ((RedisCommand.setNxEx (.nonce name) (.text "1") NonceStore.nonceTtlSecs).effect
      world).redis (.nonce name) = some ⟨.text "1", some (world.clock + ttlMs)⟩ := by
    simp only [RedisCommand.effect, accepted, gone, World.store, Option.isNone_none, Bool.and_self,
      if_true, Function.update_self, ttlMs]
  have held := World.HoldsUntil.of_stored stored
  exact held

/-- Whatever command is allowed, the registrations stand after it. -/
theorem Standing.of_command (standing : registration.Standing world) {gateway : AuthGateway}
    {phase : Option String} {command : Command}
    (allowed : gateway.nonceObserver.allowed phase (.store command)) (outcome : Outcome) :
    registration.Standing (Command.exec outcome command world).2 := by
  rcases Command.exec_world outcome command world with same | changed
  · rw [same]
    exact standing
  · rw [changed]
    unfold AuthGateway.nonceObserver at allowed
    dsimp only at allowed
    split at allowed
    · rename_i issued
      cases issued
      obtain ⟨rfl, rfl⟩ := allowed
      simp only [Command.effect]
      exact standing.of_setNx
    · rename_i issued
      cases issued
      exact World.HoldsUntil.foreign standing allowed
    · rename_i issued
      cases issued

end Registration

/-- A request that may change state and reached its handler, with the registration its
client had made for it. -/
structure Admission where
  request : HttpRequest
  registration : Option Registration
  deriving DecidableEq, Repr

structure NonceLedger where
  pending : Nat → Option Registration
  admitted : List Admission

namespace NonceLedger

def empty : NonceLedger := ⟨fun _ => none, []⟩

def exchange (ledger : NonceLedger) (client : Nat) (command : AuthCommand) (outcome : Outcome)
    (world : World) : NonceLedger :=
  match command with
  | .handle request _ =>
    { pending := Function.update ledger.pending client none
      admitted :=
        if request.method.isStateChanging then
          ledger.admitted ++ [⟨request, ledger.pending client⟩]
        else ledger.admitted }
  | .store command =>
    match registers command (Command.exec outcome command world).1 with
    | some name =>
      { ledger with pending := Function.update ledger.pending client (some ⟨name, world.clock⟩) }
    | none => ledger

def crash (ledger : NonceLedger) (client : Nat) : NonceLedger :=
  { ledger with pending := Function.update ledger.pending client none }

end NonceLedger

namespace AuthGateway

variable (gateway : AuthGateway)

@[reducible] def nonceLedger : gateway.system.Ghost where
  State := NonceLedger
  exchange := NonceLedger.exchange
  crash ledger client _ := ledger.crash client

def nonceLedgerPhases : gateway.nonceLedger.Phases gateway.nonceObserver where
  phase ledger client := (ledger.pending client).map Registration.name
  exchange_own ledger client command outcome world := by
    cases command with
    | handle request context => simp [NonceLedger.exchange]
    | store command =>
      change Option.map _ ((NonceLedger.exchange ledger client (.store command) outcome world).pending
        client) = (registers command (Command.exec outcome command world).1).or _
      unfold NonceLedger.exchange
      dsimp only
      split <;> simp [*]
  exchange_other ledger client command outcome world other different := by
    cases command with
    | handle request context => simp [NonceLedger.exchange, Function.update_of_ne different]
    | store command =>
      simp only [NonceLedger.exchange]
      split <;> simp [Function.update_of_ne different]
  crash_own ledger client _ := by simp [NonceLedger.crash]
  crash_other ledger client _ other different := by
    simp [NonceLedger.crash, Function.update_of_ne different]

end AuthGateway

/-- A registration that was made for a request under way or for an admitted one. -/
def NonceLedger.Counts (ledger : NonceLedger) (registration : Registration) : Prop :=
  (∃ client, ledger.pending client = some registration) ∨
    ∃ admission ∈ ledger.admitted, admission.registration = some registration

def Admission.Apart (first second : Admission) : Prop :=
  ∀ one ∈ first.registration, ∀ other ∈ second.registration, one.Apart other

namespace AuthGateway

variable (gateway : AuthGateway)

structure NoncesKept (ledger : NonceLedger) (world : World) : Prop where
  standing : ∀ registration, ledger.Counts registration → registration.Standing world
  registered : ∀ admission ∈ ledger.admitted, ∃ registration,
    admission.registration = some registration ∧
      gateway.nonceKey admission.request = some (.nonce registration.name)
  underWay : ∀ first second, first ≠ second → ∀ one ∈ ledger.pending first,
    ∀ other ∈ ledger.pending second, one.Apart other
  between : ∀ client, ∀ one ∈ ledger.pending client, ∀ admission ∈ ledger.admitted,
    ∀ other ∈ admission.registration, one.Apart other
  admitted : ledger.admitted.Pairwise Admission.Apart

namespace NoncesKept

variable {gateway} {ledger : NonceLedger} {world next : World} {client : Nat} {name : String}

theorem empty (world : World) : gateway.NoncesKept .empty world := by
  constructor
  · rintro registration (⟨client, pending⟩ | ⟨admission, member, _⟩)
    · cases pending
    · cases member
  · exact nofun
  · intro first second _ one pending
    cases pending
  · intro client one pending
    cases pending
  · exact .nil

private theorem of_world (kept : gateway.NoncesKept ledger world)
    (stands : ∀ registration : Registration, registration.Standing world → registration.Standing next) :
    gateway.NoncesKept ledger next :=
  { kept with standing := fun registration counts => stands _ (kept.standing registration counts) }

/-- A client has nothing registered any more. -/
theorem forget (kept : gateway.NoncesKept ledger world) (client : Nat) :
    gateway.NoncesKept { ledger with pending := Function.update ledger.pending client none } world := by
  have fewer (other : Nat) (registration : Registration)
      (pending : registration ∈ Function.update ledger.pending client none other) :
      registration ∈ ledger.pending other := by
    by_cases own : other = client
    · subst own
      rw [Function.update_self] at pending
      cases pending
    · rwa [Function.update_of_ne own] at pending
  constructor
  · rintro registration (⟨other, pending⟩ | counts)
    · exact kept.standing registration (.inl ⟨other, fewer other registration pending⟩)
    · exact kept.standing registration (.inr counts)
  · exact kept.registered
  · intro first second different one pending other pending'
    exact kept.underWay first second different one (fewer _ _ pending) other (fewer _ _ pending')
  · intro other one pending
    exact kept.between other one (fewer _ _ pending)
  · exact kept.admitted

/-- A client registers a nonce that nobody has. -/
theorem register (kept : gateway.NoncesKept ledger world)
    (gone : world.lookup (.nonce name) = none)
    (stands : ∀ registration : Registration, registration.Standing world → registration.Standing next)
    (fresh : Registration.Standing ⟨name, world.clock⟩ next) :
    gateway.NoncesKept
      { ledger with pending := Function.update ledger.pending client (some ⟨name, world.clock⟩) }
      next := by
  have apart (registration : Registration) (counts : ledger.Counts registration) :
      registration.Apart ⟨name, world.clock⟩ := by
    intro same
    exact .inl (World.HoldsUntil.elapsed (kept.standing registration counts) (same ▸ gone))
  have others (other : Nat) (different : other ≠ client) (registration : Registration)
      (pending : registration ∈ Function.update ledger.pending client
        (some ⟨name, world.clock⟩) other) : registration ∈ ledger.pending other := by
    rwa [Function.update_of_ne different] at pending
  have own (registration : Registration) (pending : registration ∈ Function.update ledger.pending
      client (some ⟨name, world.clock⟩) client) : registration = ⟨name, world.clock⟩ := by
    rw [Function.update_self] at pending
    exact (Option.some.inj pending).symm
  constructor
  · rintro registration (⟨other, pending⟩ | counts)
    · by_cases mine : other = client
      · subst mine
        rw [own registration pending]
        exact fresh
      · exact stands _ (kept.standing registration (.inl ⟨other, others other mine _ pending⟩))
    · exact stands _ (kept.standing registration (.inr counts))
  · exact kept.registered
  · intro first second different one pending other pending'
    by_cases mine : first = client
    · subst mine
      rw [own one pending]
      exact (apart other (.inl ⟨second, others second different.symm other pending'⟩)).symm
    · by_cases theirs : second = client
      · subst theirs
        rw [own other pending']
        exact apart one (.inl ⟨first, others first mine one pending⟩)
      · exact kept.underWay first second different one (others first mine one pending) other
          (others second theirs other pending')
  · intro other one pending admission member registration given
    by_cases mine : other = client
    · subst mine
      rw [own one pending]
      exact (apart registration (.inr ⟨admission, member, given⟩)).symm
    · exact kept.between other one (others other mine one pending) admission member registration given
  · exact kept.admitted

/-- A request reaches its handler with what its client registered for it. -/
theorem handled (kept : gateway.NoncesKept ledger world) {request : HttpRequest}
    {registration : Registration} (pending : ledger.pending client = some registration)
    (nonce : gateway.nonceKey request = some (.nonce registration.name)) :
    gateway.NoncesKept
      { pending := Function.update ledger.pending client none
        admitted := ledger.admitted ++ [⟨request, ledger.pending client⟩] } world := by
  have rest := kept.forget client
  constructor
  · rintro counted (⟨other, found⟩ | ⟨admission, member, found⟩)
    · exact rest.standing counted (.inl ⟨other, found⟩)
    · rcases List.mem_append.mp member with before | last
      · exact kept.standing counted (.inr ⟨admission, before, found⟩)
      · rw [List.mem_singleton.mp last] at found
        exact kept.standing counted (.inl ⟨client, found⟩)
  · intro admission member
    rcases List.mem_append.mp member with before | last
    · exact kept.registered admission before
    · rw [List.mem_singleton.mp last]
      exact ⟨registration, pending, nonce⟩
  · exact rest.underWay
  · intro other one found admission member second given
    rcases List.mem_append.mp member with before | last
    · exact rest.between other one found admission before second given
    · rw [List.mem_singleton.mp last] at given
      have different : other ≠ client := by
        rintro rfl
        simp at found
      dsimp only at found
      rw [Function.update_of_ne different] at found
      exact kept.underWay other client different one found second given
  · apply List.pairwise_append.mpr
    refine ⟨kept.admitted, List.pairwise_singleton _ _, ?_⟩
    intro admission member admission' member' one given other given'
    rw [List.mem_singleton.mp member'] at given'
    exact (kept.between client other given' admission member one given).symm

end NoncesKept

/-- A nonce that is registered was not there. -/
theorem registered_fresh {phase : Option String} {command : Command} {outcome : Outcome}
    {world : World} {name : String}
    (allowed : gateway.nonceObserver.allowed phase (.store command))
    (registered : registers command (Command.exec outcome command world).1 = some name) :
    world.lookup (.nonce name) = none ∧
      Registration.Standing ⟨name, world.clock⟩ (Command.exec outcome command world).2 := by
  unfold registers at registered
  split at registered
  · rename_i given value ttlSecs answered
    cases Option.some.inj registered
    obtain ⟨rfl, rfl⟩ : value = .text "1" ∧ ttlSecs = NonceStore.nonceTtlSecs := allowed
    cases outcome with
    | lost detail => cases answered
    | applied detail => cases answered
    | success =>
      simp only [Command.exec, Command.answer, RedisCommand.answer] at answered
      split at answered
      · rename_i accepted
        have gone : world.lookup (.nonce name) = none := by
          simpa using Except.ok.inj answered
        refine ⟨gone, ?_⟩
        simp only [Command.exec, Command.effect]
        exact Registration.standing_of_fresh accepted gone
      · cases answered
  · cases registered

/-- Whatever the gateway does, the registrations stand and are apart. -/
theorem nonces_kept :
    gateway.nonceLedgerPhases.Keeps (fun _ _ _ => True) gateway.NoncesKept where
  follows _ _ _ arrival _ := requireAuth_follows_nonces arrival
  command ledger config client outcome _ command _ _ _ allowed kept := by
    cases command with
    | handle request context =>
      change gateway.NoncesKept (ledger.exchange client (.handle request context) outcome
        config.world) config.world
      unfold NonceLedger.exchange
      dsimp only
      split
      · rename_i changing
        obtain ⟨name, registered, nonce⟩ := allowed changing
        obtain ⟨registration, pending, rfl⟩ := Option.map_eq_some_iff.mp registered
        exact kept.handled pending nonce
      · exact kept.forget client
    | store command =>
      have stands (registration : Registration) (standing : registration.Standing config.world) :
          registration.Standing (Command.exec outcome command config.world).2 :=
        standing.of_command allowed outcome
      change gateway.NoncesKept (ledger.exchange client (.store command) outcome config.world)
        (Command.exec outcome command config.world).2
      unfold NonceLedger.exchange
      dsimp only
      split
      · rename_i name found
        obtain ⟨gone, fresh⟩ := gateway.registered_fresh allowed found
        exact kept.register gone stands fresh
      · exact kept.of_world stands
  event ledger config event _ kept := by
    apply kept.of_world
    intro registration standing
    exact World.HoldsUntil.of_event standing event (.inl rfl)
  crash ledger config client _ kept := kept.forget client

end AuthGateway

/-- Requests that may change state and have the same nonce, for the same region, reach their
handlers only with registrations of the nonce at least 300 seconds apart. -/
theorem nonce_admits_once (gateway : AuthGateway) {world : World} {moves : List gateway.system.Move}
    {final : NonceLedger} {last : gateway.system.Config}
    (run : Watched gateway.nonceLedger (fun _ _ _ => True) .empty (.initial world) moves final last) :
    final.admitted.Pairwise fun first second =>
      first.request.requestNonce = second.request.requestNonce →
      gateway.regionOf first.request = gateway.regionOf second.request →
      ∃ one ∈ first.registration, ∃ other ∈ second.registration,
        one.time + 300 * 1000 ≤ other.time ∨ other.time + 300 * 1000 ≤ one.time := by
  have kept : gateway.NoncesKept final last.world :=
    gateway.nonces_kept.run run (fun _ => rfl) (.empty world)
  apply kept.admitted.imp_of_mem
  intro first second member member' apart nonce region
  obtain ⟨one, given, key⟩ := kept.registered first member
  obtain ⟨other, given', key'⟩ := kept.registered second member'
  have same : gateway.nonceKey first.request = gateway.nonceKey second.request := by
    simp only [AuthGateway.nonceKey, nonce, region]
  have name : one.name = other.name := by
    rw [key, key'] at same
    exact RedisKey.nonce.inj (Option.some.inj same)
  have far := apart one given other given' name
  rw [Registration.ttlMs] at far
  exact ⟨one, given, other, given', far⟩

/-- A logout with one nonce. -/
def logoutOnce (headers : List (String × String)) : Arrival :=
  ⟨Sample.request .post "/v1/auth/logout" (("x-request-nonce", "nonce-1") :: headers), "generated-id"⟩

/-- The request arrives a second time after 299 seconds, and registers its nonce a second later. -/
def lateReplay : List Sample.authGateway.system.Move :=
  [.act (.start 0 (logoutOnce []))] ++ Sample.stepsOf 0 19 ++ [.act (.environment (.tick 299000))] ++
    [.act (.start 1 (logoutOnce []))] ++ Sample.stepsOf 1 17 ++ [.act (.environment (.tick 1000))] ++
    Sample.stepsOf 1 2

private theorem lateReplay_admitted :
    ∃ final last, Watched Sample.authGateway.nonceLedger (fun _ _ _ => True) .empty
        (.initial Sample.signedIn) lateReplay final last ∧
      final.admitted =
        [⟨(logoutOnce []).request, some ⟨"global:nonce-1", 1000000⟩⟩,
          ⟨(logoutOnce []).request, some ⟨"global:nonce-1", 1300000⟩⟩] := by
  obtain ⟨final, last, run, both⟩ := Watched.of_check Sample.authGateway.nonceLedger
    (fun _ _ _ => True) .empty (.initial Sample.signedIn) lateReplay
    (fun final _ => decide (final.admitted =
      [⟨(logoutOnce []).request, some ⟨"global:nonce-1", 1000000⟩⟩,
        ⟨(logoutOnce []).request, some ⟨"global:nonce-1", 1300000⟩⟩])) (by decide +kernel)
  exact ⟨final, last, run, of_decide_eq_true both⟩

theorem sample_nonce_admits_once :
    ∃ final last, Watched Sample.authGateway.nonceLedger (fun _ _ _ => True) .empty
        (.initial Sample.signedIn) lateReplay final last ∧
      final.admitted.length = 2 ∧
      final.admitted.Pairwise fun first second =>
        first.request.requestNonce = second.request.requestNonce →
        Sample.authGateway.regionOf first.request = Sample.authGateway.regionOf second.request →
        ∃ one ∈ first.registration, ∃ other ∈ second.registration,
          one.time + 300 * 1000 ≤ other.time ∨ other.time + 300 * 1000 ≤ one.time := by
  obtain ⟨final, last, run, admitted⟩ := lateReplay_admitted
  refine ⟨final, last, run, ?_, nonce_admits_once Sample.authGateway run⟩
  rw [admitted]
  rfl

/-- The request arrives again with another region, before the handler of the first is done. -/
def otherRegion : List Sample.authGateway.system.Move :=
  [.act (.start 0 (logoutOnce [("x-client-region", "region-a")]))] ++ Sample.stepsOf 0 18 ++
    [.act (.start 1 (logoutOnce [("x-client-region", "region-b")]))] ++ Sample.stepsOf 1 17 ++
    Sample.stepsOf 0 1 ++ Sample.stepsOf 1 1

/-- A nonce is for a region that the client names, and for 300 seconds from its registration. -/
theorem replays_reach_handler :
    (∃ final last, Watched Sample.authGateway.nonceLedger (fun _ _ _ => True) .empty
        (.initial Sample.signedIn) otherRegion final last ∧
      final.admitted =
        [⟨(logoutOnce [("x-client-region", "region-a")]).request,
            some ⟨"region-a:nonce-1", 1000000⟩⟩,
          ⟨(logoutOnce [("x-client-region", "region-b")]).request,
            some ⟨"region-b:nonce-1", 1000000⟩⟩]) ∧
    (∃ final last, Watched Sample.authGateway.nonceLedger (fun _ _ _ => True) .empty
        (.initial Sample.signedIn) lateReplay final last ∧
      final.admitted =
        [⟨(logoutOnce []).request, some ⟨"global:nonce-1", 1000000⟩⟩,
          ⟨(logoutOnce []).request, some ⟨"global:nonce-1", 1300000⟩⟩]) := by
  constructor
  · obtain ⟨final, last, run, both⟩ := Watched.of_check Sample.authGateway.nonceLedger
      (fun _ _ _ => True) .empty (.initial Sample.signedIn) otherRegion
      (fun final _ => decide (final.admitted =
        [⟨(logoutOnce [("x-client-region", "region-a")]).request,
            some ⟨"region-a:nonce-1", 1000000⟩⟩,
          ⟨(logoutOnce [("x-client-region", "region-b")]).request,
            some ⟨"region-b:nonce-1", 1000000⟩⟩])) (by decide +kernel)
    exact ⟨final, last, run, of_decide_eq_true both⟩
  · exact lateReplay_admitted

end BrainMate.Gateway
