import Mathlib.Data.Set.Function
import BrainMate.Gateway.Serving

namespace BrainMate.Gateway.TokenMachine

open Interleaving System

structure Holding where
  userId : String
  deviceId : String
  expiresAt : Nat
  live : Bool
  deriving DecidableEq, Repr

/-- The record a live token stands for. -/
def Holding.record (holding : Holding) : RefreshTokenRecord :=
  ⟨holding.userId, holding.deviceId, holding.expiresAt, false, none⟩

theorem Holding.record_revoked (holding : Holding) : holding.record.revoked = false := rfl

inductive Operation where
  | issue (token userId deviceId : String) (expiresAt : Nat)
  | validate (token : String)
  | rotate (old new : String) (newExpiresAt : Nat)
  | revoke (token : String)
  deriving DecidableEq, Repr

inductive Answer where
  | done
  | accepted (record : RefreshTokenRecord)
  | refused
  | rotated
  | replayDetected
  deriving DecidableEq, Repr

/-- What the machine knows of each token. -/
def State : Type := String → Option Holding

namespace State

def empty : State := fun _ => none

def set (state : State) (token : String) (holding : Option Holding) : State :=
  fun other => if other = token then holding else state other

@[simp] theorem set_same (state : State) (token : String) (holding : Option Holding) :
    state.set token holding token = holding := if_pos rfl

private theorem set_other (state : State) {token other : String} (different : other ≠ token)
    (holding : Option Holding) : state.set token holding other = state other := if_neg different

def clear (state : State) (token : String) : State :=
  state.set token ((state token).map fun holding => { holding with live := false })

/-- The token is live and its expiry is after now. -/
def usable (state : State) (token : String) (now : Nat) : Option Holding :=
  (state token).filter fun holding => holding.live && decide (now < holding.expiresAt)

def step (state : State) (now : Nat) : Operation → Answer × State
  | .issue token userId deviceId expiresAt =>
    (.done, state.set token (some ⟨userId, deviceId, expiresAt, true⟩))
  | .validate token =>
    match state.usable token now with
    | some holding => (.accepted holding.record, state)
    | none => (.refused, state)
  | .rotate old new newExpiresAt =>
    match state.usable old now with
    | some holding =>
      (.rotated, (state.clear old).set new
        (some ⟨holding.userId, holding.deviceId, newExpiresAt, true⟩))
    | none => (.replayDetected, state)
  | .revoke token => (.done, state.clear token)

variable {state : State} {token new : String} {now newExpiresAt : Nat} {holding : Holding}

private theorem usable_of_live (known : state token = some holding) (live : holding.live = true)
    (early : now < holding.expiresAt) : state.usable token now = some holding := by
  rw [usable, known, Option.filter_some, if_pos (by simp [live, early])]

private theorem usable_of_expired (known : state token = some holding)
    (late : holding.expiresAt ≤ now) :
    state.usable token now = none := by
  rw [usable, known, Option.filter_some, if_neg (by simp [Nat.not_lt.mpr late])]

private theorem step_refused (unusable : state.usable token now = none) :
    state.step now (.validate token) = (.refused, state) := by
  simp only [step, unusable]

private theorem step_accepted (usable : state.usable token now = some holding) :
    state.step now (.validate token) = (.accepted holding.record, state) := by
  simp only [step, usable]

private theorem step_replayDetected (unusable : state.usable token now = none) :
    state.step now (.rotate token new newExpiresAt) = (.replayDetected, state) := by
  simp only [step, unusable]

private theorem step_rotated (usable : state.usable token now = some holding) :
    state.step now (.rotate token new newExpiresAt) = (.rotated, (state.clear token).set new
      (some ⟨holding.userId, holding.deviceId, newExpiresAt, true⟩)) := by
  simp only [step, usable]

end State

namespace Operation

def call : Operation → Call
  | .issue token userId deviceId expiresAt => .issue token userId deviceId expiresAt
  | .validate token => .validate token
  | .rotate old new newExpiresAt => .rotate old new newExpiresAt
  | .revoke token => .revoke token

/-- The identifiers the operation is given. -/
def ids : Operation → List String
  | .issue token _ _ _ | .validate token | .revoke token => [token]
  | .rotate old new _ => [old, new]

/-- The argument validators reject the call at this second. -/
def rejected (second : Nat) : Operation → Bool
  | .issue token userId deviceId expiresAt =>
    !(RefreshStore.validateRefreshTokenId token).isOk || (trim userId).isEmpty ||
      (trim deviceId).isEmpty || decide (expiresAt ≤ second)
  | .validate token | .revoke token => !(RefreshStore.validateRefreshTokenId token).isOk
  | .rotate old new newExpiresAt =>
    !(RefreshStore.validateRefreshTokenId old).isOk ||
      !(RefreshStore.validateRefreshTokenId new).isOk || decide (newExpiresAt ≤ second)

end Operation

/-- The machine's view of an answer; `none` for an answer that is not the machine's. -/
def observe : (operation : Operation) → operation.call.Result → Option Answer
  | .issue _ _ _ _, .ok () => some .done
  | .validate _, .ok record => some (.accepted record)
  | .validate _, .error (.unauthorized _) => some .refused
  | .rotate _ _ _, .ok .rotated => some .rotated
  | .rotate _ _ _, .ok .replayDetected => some .replayDetected
  | .revoke _, .ok () => some .done
  | _, _ => none

/-- The answer to arguments that are rejected. -/
def turnedDown : (operation : Operation) → operation.call.Result → Bool
  | .issue _ _ _ _, .error (.badRequest _) | .validate _, .error (.badRequest _) |
    .rotate _ _ _, .error (.badRequest _) | .revoke _, .error (.badRequest _) => true
  | _, _ => false

/-- A call that was served, with the clock at its start and its end. -/
structure Service where
  operation : Operation
  answer : operation.call.Result
  started : Nat
  finished : Nat

/-- Every command of the trace succeeded. -/
def Succeeds {site : Deployment} (trace : List site.system.Exchange) : Prop :=
  ∀ exchange ∈ trace, exchange.outcome = .success ∧
    acknowledged exchange.command exchange.reply = true

/-- Calls served one after another, all commands succeeding. -/
inductive Serves (site : Deployment) : World → List Service → World → Prop where
  | idle (world : World) : Serves site world [] world
  | serve {operation : Operation} {answer : operation.call.Result} {world start finish last : World}
      {trace : List site.system.Exchange} {later : List Service} (waits : Waits world start)
      (executes : Executes Waits (site.program operation.call) start trace answer finish)
      (succeeds : Succeeds trace) (rest : Serves site finish later last) :
      Serves site world (⟨operation, answer, start.clock, finish.clock⟩ :: later) last

/-- The arguments are judged at an instant of the call. If they are rejected the call is
turned down and the machine is as it was; otherwise the answer is the machine's. -/
def Explains : State → List Service → Prop
  | _, [] => True
  | state, service :: later =>
    ∃ judged instant, service.started ≤ judged ∧ judged ≤ instant ∧ instant ≤ service.finished ∧
      if service.operation.rejected (judged / 1000) then
        turnedDown service.operation service.answer = true ∧ Explains state later
      else
        observe service.operation service.answer =
            some (state.step (instant / 1000) service.operation).1 ∧
          Explains (state.step (instant / 1000) service.operation).2 later

/-- A live token has its record under a key that outlives the token; under the key of
another one there is no live record. -/
def Reflects (holding : Option Holding) (clock : Nat) (entry : Option RedisEntry) : Prop :=
  match holding.filter Holding.live with
  | some holding => ∃ deadline, holding.expiresAt * 1000 ≤ deadline ∧
      entry = some ⟨.refresh holding.record, some deadline⟩
  | none => ∀ stored, entry = some stored → stored.alive clock = true →
      ∃ record, stored.value = .refresh record ∧ record.revoked = true

/-- The world represents the state, the lock of one token apart. -/
structure Represents (sha256Hex : String → String) (ids : Set String) (locked : Option String)
    (state : State) (world : World) : Prop where
  unlocked : ∀ tokenHash, locked ≠ some tokenHash → world.redis (.refreshLock tokenHash) = none
  reflects : ∀ token ∈ ids, Reflects (state token) world.clock
    (world.redis (.refresh (sha256Hex token)))

/-- Time may have passed, and Redis is as it was. -/
structure Later (world later : World) : Prop where
  clock : world.clock ≤ later.clock
  redis : later.redis = world.redis

section

variable {site : Deployment} {sha256Hex : String → String} {ids : Set String}
variable {locked : Option String} {state : State} {world after : World} {token : String}

theorem later_of_waits (waits : Waits world after) : Later world after := by
  obtain ⟨milliseconds, rfl⟩ := waits
  exact ⟨Nat.le_add_right _ _, rfl⟩

theorem later_tolerates : Tolerates site.system Waits Later Reads where
  refl _ := ⟨Nat.le_refl _, rfl⟩
  trans first second := ⟨Nat.le_trans first.clock second.clock, second.redis.trans first.redis⟩
  elapse := later_of_waits
  command {command} reads outcome world := by
    refine ⟨Nat.le_of_eq (Command.exec_clock outcome command world).symm, ?_⟩
    rcases Command.exec_world outcome command world with same | same <;> rw [same]
    cases command with
    | now => rfl
    | http => rfl
    | db command => rfl
    | redis command =>
      cases command with
      | get => rfl
      | _ => exact reads.elim

theorem Reflects.later {holding : Option Holding} {clock clock' : Nat} {entry : Option RedisEntry}
    (reflects : Reflects holding clock entry) (older : clock ≤ clock') :
    Reflects holding clock' entry := by
  unfold Reflects at reflects ⊢
  split
  · rename_i live
    rw [live] at reflects
    exact reflects
  · rename_i dead
    rw [dead] at reflects
    intro stored found alive
    obtain ⟨milliseconds, rfl⟩ := Nat.exists_eq_add_of_le older
    exact reflects stored found (stored.alive_earlier alive)

theorem Represents.later (represents : Represents sha256Hex ids locked state world)
    (passes : Later world after) : Represents sha256Hex ids locked state after := by
  constructor
  · intro tokenHash free
    rw [passes.redis]
    exact represents.unlocked tokenHash free
  · intro token member
    rw [passes.redis]
    exact (represents.reflects token member).later passes.clock

/-- Writing one token's entry leaves the others represented. -/
theorem Represents.store (represents : Represents sha256Hex ids locked state world)
    (injective : Set.InjOn sha256Hex ids) (member : token ∈ ids) {holding : Option Holding}
    {entry : RedisEntry} (reflects : Reflects holding world.clock (some entry)) :
    Represents sha256Hex ids locked (state.set token holding)
      (world.store (.refresh (sha256Hex token)) entry) := by
  constructor
  · intro tokenHash free
    simpa [World.store] using represents.unlocked tokenHash free
  · intro other otherMember
    by_cases same : other = token
    · subst other
      simpa [World.store] using reflects
    · have apart : sha256Hex other ≠ sha256Hex token :=
        fun equal => same (injective otherMember member equal)
      simpa [World.store, state.set_other same, apart] using
        represents.reflects other otherMember

theorem Represents.lock (represents : Represents sha256Hex ids none state world)
    (tokenHash : String) (entry : RedisEntry) :
    Represents sha256Hex ids (some tokenHash) state
      (world.store (.refreshLock tokenHash) entry) := by
  constructor
  · intro other free
    have apart : other ≠ tokenHash := fun same => free (by rw [same])
    simpa [World.store, apart] using represents.unlocked other (by simp)
  · intro token member
    simpa [World.store] using represents.reflects token member

theorem Represents.unlock {tokenHash : String}
    (represents : Represents sha256Hex ids (some tokenHash) state world) :
    Represents sha256Hex ids none state (world.remove (.refreshLock tokenHash)) := by
  constructor
  · intro other _
    by_cases same : other = tokenHash
    · simp [World.remove, same]
    · have free : some tokenHash ≠ some other := fun equal => same (Option.some.inj equal).symm
      simpa [World.remove, same] using represents.unlocked other free
  · intro token member
    simpa [World.remove] using represents.reflects token member

/-- What a reader finds under the key of a token: nothing, once the token is dead or
expired; a marked record, when it is dead; or its own record. -/
theorem Represents.cached (represents : Represents sha256Hex ids locked state world)
    (member : token ∈ ids) :
    (cachedRecord world (sha256Hex token) = .ok none ∧
      ∀ now, world.second ≤ now → state.usable token now = none) ∨
    (∃ record, cachedRecord world (sha256Hex token) = .ok (some record) ∧ record.revoked = true ∧
      ∀ now, state.usable token now = none) ∨
    ∃ holding, state token = some holding ∧ holding.live = true ∧
      cachedRecord world (sha256Hex token) = .ok (some holding.record) := by
  have reflects := represents.reflects token member
  unfold Reflects at reflects
  split at reflects
  · rename_i holding found
    obtain ⟨known, live⟩ := Option.filter_eq_some_iff.mp found
    obtain ⟨deadline, outlives, stored⟩ := reflects
    by_cases alive : world.clock < deadline
    · refine .inr (.inr ⟨holding, known, live, ?_⟩)
      exact cachedRecord_eq_some.mpr (World.lookup_alive stored (decide_eq_true alive))
    · refine .inl ⟨?_, fun now after => ?_⟩
      · rw [cachedRecord, World.lookup_dead stored (by simpa [RedisEntry.alive] using alive)]
      · have expired : ¬ now < holding.expiresAt := by
          unfold World.second at after
          omega
        exact State.usable_of_expired known (Nat.le_of_not_lt expired)
  · rename_i dead
    have unusable (now : Nat) : state.usable token now = none := by
      rw [Option.filter_eq_none_iff] at dead
      rw [State.usable, Option.filter_eq_none_iff]
      intro holding known usable
      exact dead holding known (Bool.and_eq_true_iff.mp usable).1
    cases stored : world.redis (.refresh (sha256Hex token)) with
    | none => exact .inl ⟨by simp [cachedRecord, World.lookup, stored], fun now _ => unusable now⟩
    | some entry =>
      by_cases alive : entry.alive world.clock = true
      · obtain ⟨record, value, revoked⟩ := reflects entry stored alive
        refine .inr (.inl ⟨record, ?_, revoked, unusable⟩)
        exact cachedRecord_eq_some.mpr (value ▸ World.lookup_alive stored alive)
      · exact .inl ⟨by rw [cachedRecord, World.lookup_dead stored alive], fun now _ => unusable now⟩

/-- The machine learns of a change that Redis has no entry for. -/
theorem Represents.set (represents : Represents sha256Hex ids locked state world)
    {holding : Option Holding} (reflects : Reflects holding world.clock
      (world.redis (.refresh (sha256Hex token)))) :
    Represents sha256Hex ids locked (state.set token holding) world := by
  refine ⟨represents.unlocked, fun other member => ?_⟩
  by_cases same : other = token
  · subst other
    simpa using reflects
  · simpa [state.set_other same] using represents.reflects other member

/-- Nothing live may be under the key of a cleared token. -/
theorem reflects_cleared {holding : Option Holding} {clock : Nat} {entry : Option RedisEntry}
    (marked : ∀ stored, entry = some stored → stored.alive clock = true →
      ∃ record, stored.value = .refresh record ∧ record.revoked = true) :
    Reflects (holding.map fun holding => { holding with live := false }) clock entry := by
  have dead : (holding.map fun holding => { holding with live := false }).filter Holding.live =
      none := by
    cases holding <;> simp
  unfold Reflects
  rw [dead]
  exact marked

private theorem reflects_marked {holding : Option Holding} {clock : Nat} {deadline : Option Nat}
    (record : RefreshTokenRecord) (revoked : record.revoked = true) :
    Reflects (holding.map fun holding => { holding with live := false }) clock
      (some ⟨.refresh record, deadline⟩) := by
  refine reflects_cleared fun stored same _ => ?_
  cases same
  exact ⟨record, rfl, revoked⟩

end

section

variable {site : Deployment} {sha256Hex : String → String} {ids : Set String}
variable {locked : Option String} {state : State} {world last : World}
variable {trace : List site.system.Exchange}

theorem Succeeds.left {first second : List site.system.Exchange}
    (succeeds : Succeeds (first ++ second)) : Succeeds first :=
  fun exchange member => succeeds exchange (List.mem_append_left _ member)

theorem Succeeds.right {first second : List site.system.Exchange}
    (succeeds : Succeeds (first ++ second)) : Succeeds second :=
  fun exchange member => succeeds exchange (List.mem_append_right _ member)

theorem Succeeds.head {exchange : site.system.Exchange} {rest : List site.system.Exchange}
    (succeeds : Succeeds (exchange :: rest)) : exchange.outcome = .success ∧
      acknowledged exchange.command exchange.reply = true := succeeds exchange (.head _)

theorem Succeeds.tail {exchange : site.system.Exchange} {rest : List site.system.Exchange}
    (succeeds : Succeeds (exchange :: rest)) : Succeeds rest :=
  fun other member => succeeds other (.tail _ member)

/-- The answer of a call, and the world after it, follow the machine. -/
def Follows (sha256Hex : String → String) (ids : Set String) (state : State)
    (operation : Operation) (started : World) (answer : operation.call.Result)
    (finished : World) : Prop :=
  ∃ judged instant, started.clock ≤ judged ∧ judged ≤ instant ∧ instant ≤ finished.clock ∧
    if operation.rejected (judged / 1000) then
      turnedDown operation answer = true ∧ Represents sha256Hex ids none state finished
    else
      observe operation answer = some (state.step (instant / 1000) operation).1 ∧
        Represents sha256Hex ids none (state.step (instant / 1000) operation).2 finished

theorem Follows.at_instant {operation : Operation} {started finished : World}
    {answer : operation.call.Result} {judged instant : Nat} {expected : Answer} {next : State}
    (accepts : operation.rejected (judged / 1000) = false)
    (steps : state.step (instant / 1000) operation = (expected, next))
    (begun : started.clock ≤ judged) (after : judged ≤ instant) (before : instant ≤ finished.clock)
    (observed : observe operation answer = some expected)
    (represents : Represents sha256Hex ids none next finished) :
    Follows sha256Hex ids state operation started answer finished := by
  refine ⟨judged, instant, begun, after, before, ?_⟩
  rw [if_neg (by simp [accepts]), steps]
  exact ⟨observed, represents⟩

theorem Follows.rejecting {operation : Operation} {started finished : World}
    {answer : operation.call.Result} (rejects : operation.rejected (finished.clock / 1000) = true)
    (later : started.clock ≤ finished.clock) (down : turnedDown operation answer = true)
    (represents : Represents sha256Hex ids none state finished) :
    Follows sha256Hex ids state operation started answer finished := by
  refine ⟨finished.clock, finished.clock, later, Nat.le_refl _, Nat.le_refl _, ?_⟩
  rw [if_pos rejects]
  exact ⟨down, represents⟩

/-- A TTL in seconds, taken from the clock before the entry is written, keeps the
entry until the token has expired. -/
theorem deadline_outlives {expiresAt : Nat} {asked stored : World}
    (unexpired : asked.second < expiresAt) (later : asked.clock ≤ stored.clock) :
    expiresAt * 1000 ≤ stored.clock + (expiresAt - asked.second) * 1000 := by
  unfold World.second at *
  omega

/-- An acknowledged SETEX, in a call that is being served. -/
theorem setEx_served {α : Type} {key : RedisKey} {value : RedisValue} {ttlSecs : Nat}
    {next : Except RedisLayerError Unit → Procedure α} {answer : α} (succeeds : Succeeds trace)
    (executes : Executes Waits (.call (.redis (.setEx key value ttlSecs)) next) world trace answer
      last) :
    ∃ (stored : World) (later : List site.system.Exchange), Later world stored ∧ Succeeds later ∧
      Executes Waits (next (.ok ()))
        (stored.store key ⟨value, some (stored.clock + ttlSecs * 1000)⟩) later answer last := by
  obtain ⟨stored, outcome, later, waits, rfl, continues⟩ := executes.of_call
  have answered := ok_of_isOk succeeds.head.2
  obtain ⟨_, _, same⟩ := Command.setEx_answered answered
  dsimp only at answered same
  refine ⟨stored, later, later_of_waits waits, succeeds.tail, ?_⟩
  rw [← same, ← answered]
  exact continues

private theorem issue_follows (injective : Set.InjOn sha256Hex ids)
    (represents : Represents sha256Hex ids none state world) {token userId deviceId : String}
    {expiresAt : Nat} {answer : Except ApiError Unit} (member : token ∈ ids)
    (executes : Executes Waits
      (RefreshStore.issue sha256Hex false token userId deviceId expiresAt) world trace answer last)
    (succeeds : Succeeds trace) :
    Follows sha256Hex ids state (.issue token userId deviceId expiresAt) world answer last := by
  unfold RefreshStore.issue at executes
  split at executes
  · rename_i error invalid
    obtain ⟨rfl, rfl, _⟩ := executes.of_done
    obtain ⟨message, rfl⟩ := validateRefreshTokenId_error invalid
    exact .rejecting (by rw [Operation.rejected, invalid]; rfl) (Nat.le_refl _) rfl represents
  · rename_i valid
    split at executes
    · rename_i blank
      obtain ⟨rfl, rfl, _⟩ := executes.of_done
      refine .rejecting ?_ (Nat.le_refl _) rfl represents
      rw [Operation.rejected, Bool.or_assoc (!_), blank, Bool.or_true, Bool.true_or]
    · rename_i blank
      obtain ⟨_, _, reply, asked, rfl, asking, caching⟩ := executes.of_bind
      have toAsked := asking.respects later_tolerates (ttlFromExpiresAt_reads expiresAt)
      cases reply with
      | error error =>
        obtain ⟨⟨message, rfl⟩, late⟩ := ttlFromExpiresAt_refused asking
        obtain ⟨rfl, rfl, _⟩ := caching.of_done
        have late : _ ≤ last.clock / 1000 := late
        refine .rejecting ?_ toAsked.clock rfl (represents.later toAsked)
        rw [Operation.rejected, decide_eq_true late, Bool.or_true]
      | ok ttlSecs =>
        obtain ⟨_, rfl, unexpired⟩ := ttlFromExpiresAt_served later_tolerates asking
        simp only [Bool.false_eq_true, ↓reduceIte, RefreshStore.cacheIssued, redis_eq,
          Program.call_bind, Program.done_bind] at caching
        obtain ⟨stored, _, toStored, _, finished⟩ := setEx_served succeeds.right caching
        obtain ⟨rfl, rfl, _⟩ := finished.of_done
        have here := (represents.later toAsked).later toStored
        refine .at_instant ?_ rfl toAsked.clock toStored.clock (Nat.le_refl _) rfl
          (here.store injective member ⟨_, deadline_outlives unexpired toStored.clock, rfl⟩)
        have early : ¬ expiresAt ≤ asked.clock / 1000 := Nat.not_le.mpr unexpired
        rw [Operation.rejected, valid, Bool.or_assoc (!_), Bool.eq_false_iff.mpr blank,
          decide_eq_false early]
        rfl

private theorem validate_follows (represents : Represents sha256Hex ids none state world)
    {token : String}
    {answer : Except ApiError RefreshTokenRecord} (member : token ∈ ids)
    (executes : Executes Waits (RefreshStore.validate sha256Hex false token) world trace answer last)
    (succeeds : Succeeds trace) :
    Follows sha256Hex ids state (.validate token) world answer last := by
  unfold RefreshStore.validate at executes
  split at executes
  · rename_i error invalid
    obtain ⟨rfl, rfl, _⟩ := executes.of_done
    obtain ⟨message, rfl⟩ := validateRefreshTokenId_error invalid
    exact .rejecting (by rw [Operation.rejected, invalid]; rfl) (Nat.le_refl _) rfl represents
  · rename_i valid
    have accepts (second : Nat) : (Operation.validate token).rejected second = false := by
      rw [Operation.rejected, valid]
      rfl
    obtain ⟨_, _, reply, read, rfl, reading, judging⟩ := executes.of_bind
    obtain ⟨toRead, _, exactly_⟩ := getRefreshJson_served later_tolerates reading
    have replied := exactly_ fun exchange member => (succeeds.left exchange member).1
    have here := represents.later toRead
    obtain ⟨missing, unusable⟩ | ⟨record, found, revoked, unusable⟩ | ⟨holding, known, live, found⟩ :=
      here.cached member
    · rw [missing] at replied
      subst replied
      obtain ⟨rfl, rfl, _⟩ := judging.of_done
      exact .at_instant (accepts _) (State.step_refused (unusable _ (Nat.le_refl _)))
        (Nat.le_refl _) toRead.clock (Nat.le_refl _) rfl here
    · rw [found] at replied
      subst replied
      simp only [RefreshStore.validateRecord, revoked, ↓reduceIte] at judging
      obtain ⟨rfl, rfl, _⟩ := judging.of_done
      exact .at_instant (accepts _) (State.step_refused (unusable _)) (Nat.le_refl _) toRead.clock
        (Nat.le_refl _) rfl here
    · rw [found] at replied
      subst replied
      simp only [RefreshStore.validateRecord, holding.record_revoked, Bool.false_eq_true, ↓reduceIte,
        nowUnixSecs_eq, Program.call_bind, Program.done_bind] at judging
      obtain ⟨asked, _, _, waits, _, answering⟩ := executes_now judging
      have toAsked := later_of_waits waits
      have still := here.later toAsked
      have started := Nat.le_trans toRead.clock toAsked.clock
      by_cases expired : holding.record.expiresAt ≤ asked.clock / 1000
      · rw [if_pos expired] at answering
        obtain ⟨rfl, rfl, _⟩ := answering.of_done
        exact .at_instant (accepts _) (State.step_refused (State.usable_of_expired known expired))
          (Nat.le_refl _) started (Nat.le_refl _) rfl still
      · rw [if_neg expired] at answering
        obtain ⟨rfl, rfl, _⟩ := answering.of_done
        exact .at_instant (accepts _) (State.step_accepted
          (State.usable_of_live known live (Nat.lt_of_not_le expired))) (Nat.le_refl _) started
          (Nat.le_refl _) rfl still

private theorem revoke_follows (injective : Set.InjOn sha256Hex ids)
    (represents : Represents sha256Hex ids none state world) {token : String}
    {answer : Except ApiError Unit} (member : token ∈ ids)
    (executes : Executes Waits (RefreshStore.revoke sha256Hex false token) world trace answer last)
    (succeeds : Succeeds trace) :
    Follows sha256Hex ids state (.revoke token) world answer last := by
  unfold RefreshStore.revoke at executes
  split at executes
  · rename_i error invalid
    obtain ⟨rfl, rfl, _⟩ := executes.of_done
    obtain ⟨message, rfl⟩ := validateRefreshTokenId_error invalid
    exact .rejecting (by rw [Operation.rejected, invalid]; rfl) (Nat.le_refl _) rfl represents
  · rename_i valid
    have accepts : (Operation.revoke token).rejected (world.clock / 1000) = false := by
      rw [Operation.rejected, valid]
      rfl
    simp only [Bool.false_eq_true, ↓reduceIte, RefreshStore.markRevoked] at executes
    obtain ⟨_, _, reply, read, rfl, reading, marking⟩ := executes.of_bind
    obtain ⟨toRead, _, exactly_⟩ := getRefreshJson_served later_tolerates reading
    have replied := exactly_ fun exchange member => (succeeds.left exchange member).1
    have here := represents.later toRead
    have marked (record : RefreshTokenRecord) (found : reply = .ok (some record)) :
        Follows sha256Hex ids state (.revoke token) world answer last := by
      subst found
      obtain ⟨_, _, remaining, asked, rfl, asking, storing⟩ := marking.of_bind
      have toAsked := asking.respects later_tolerates (ttlFromExpiresAt_reads record.expiresAt)
      simp only [redis_eq, Program.call_bind, Program.done_bind] at storing
      obtain ⟨stored, _, toStored, _, finished⟩ := setEx_served succeeds.right.right storing
      obtain ⟨rfl, rfl, _⟩ := finished.of_done
      have there := (here.later toAsked).later toStored
      refine .at_instant accepts rfl (Nat.le_refl _)
        (Nat.le_trans toRead.clock (Nat.le_trans toAsked.clock toStored.clock)) (Nat.le_refl _) rfl
        (there.store injective member (reflects_marked _ rfl))
    obtain ⟨missing, _⟩ | ⟨record, found, _⟩ | ⟨holding, _, _, found⟩ := here.cached member
    · rw [missing] at replied
      subst replied
      obtain ⟨rfl, rfl, _⟩ := marking.of_done
      refine .at_instant accepts rfl (Nat.le_refl _) toRead.clock (Nat.le_refl _) rfl
        (here.set (reflects_cleared ?_))
      intro stored kept alive
      rw [cachedRecord, World.lookup_alive kept alive] at missing
      cases value : stored.value <;> rw [value] at missing <;> cases missing
    · exact marked record (replied.trans found)
    · exact marked _ (replied.trans found)

variable {old new : String} {newExpiresAt newTtl : Nat} {answer : Except ApiError RotationStatus}

/-- What the rotation proper has done, still under the lock. -/
def RotationFollows (sha256Hex : String → String) (ids : Set String) (state : State)
    (old new : String) (newExpiresAt : Nat) (started : World)
    (answer : Except ApiError RotationStatus) (finished : World) : Prop :=
  ∃ instant expected next, started.clock ≤ instant ∧ instant ≤ finished.clock ∧
    state.step (instant / 1000) (.rotate old new newExpiresAt) = (expected, next) ∧
    observe (.rotate old new newExpiresAt) answer = some expected ∧
    Represents sha256Hex ids (some (sha256Hex old)) next finished

/-- The two writes clear the old token and set the new one. -/
theorem rewriteEntries_represents (injective : Set.InjOn sha256Hex ids)
    (represents : Represents sha256Hex ids locked state world) (oldMember : old ∈ ids)
    (newMember : new ∈ ids) {record : RefreshTokenRecord}
    (outlives : newExpiresAt * 1000 ≤ world.clock + newTtl * 1000)
    (executes : Executes Waits
      (RefreshStore.rewriteEntries sha256Hex old new newExpiresAt newTtl record) world trace answer
      last) (succeeds : Succeeds trace) :
    answer = .ok .rotated ∧ world.clock ≤ last.clock ∧
      Represents sha256Hex ids locked ((state.clear old).set new
        (some ⟨record.userId, record.deviceId, newExpiresAt, true⟩)) last := by
  simp only [RefreshStore.rewriteEntries, nowUnixSecs_eq, redis_eq, Program.call_bind,
    Program.done_bind] at executes
  obtain ⟨asked, _, _, waits, rfl, marking⟩ := executes_now executes
  have toAsked := later_of_waits waits
  obtain ⟨marked, _, toMarked, succeeds', storing⟩ := setEx_served succeeds.tail marking
  obtain ⟨stored, _, toStored, _, finished⟩ := setEx_served succeeds' storing
  obtain ⟨rfl, rfl, _⟩ := finished.of_done
  have elapsed : world.clock ≤ stored.clock :=
    Nat.le_trans toAsked.clock (Nat.le_trans toMarked.clock toStored.clock)
  refine ⟨rfl, elapsed, (Represents.later ?_ toStored).store injective newMember ⟨_, ?_, rfl⟩⟩
  · exact ((represents.later toAsked).later toMarked).store injective oldMember
      (reflects_marked _ rfl)
  · exact Nat.le_trans outlives (Nat.add_le_add_right elapsed _)

private theorem doRotateRedisOnly_follows (injective : Set.InjOn sha256Hex ids)
    (represents : Represents sha256Hex ids (some (sha256Hex old)) state world)
    (oldMember : old ∈ ids) (newMember : new ∈ ids)
    (outlives : newExpiresAt * 1000 ≤ world.clock + newTtl * 1000)
    (executes : Executes Waits
      (RefreshStore.doRotateRedisOnly sha256Hex old new newExpiresAt newTtl) world trace answer last)
    (succeeds : Succeeds trace) :
    RotationFollows sha256Hex ids state old new newExpiresAt world answer last := by
  obtain ⟨_, _, reply, read, rfl, reading, judging⟩ := executes.of_bind
  obtain ⟨toRead, _, exactly_⟩ := getRefreshJson_served later_tolerates reading
  have replied := exactly_ fun exchange member => (succeeds.left exchange member).1
  have here := represents.later toRead
  obtain ⟨missing, unusable⟩ | ⟨record, found, revoked, unusable⟩ | ⟨holding, known, live, found⟩ :=
    here.cached oldMember
  · rw [missing] at replied
    subst replied
    obtain ⟨rfl, rfl, _⟩ := judging.of_done
    exact ⟨_, _, _, toRead.clock, Nat.le_refl _,
      State.step_replayDetected (unusable _ (Nat.le_refl _)), rfl, here⟩
  · rw [found] at replied
    subst replied
    simp only [RefreshStore.isSpent, revoked, ↓reduceIte, Program.pure_eq,
      Program.done_bind] at judging
    obtain ⟨rfl, rfl, _⟩ := judging.of_done
    exact ⟨_, _, _, toRead.clock, Nat.le_refl _, State.step_replayDetected (unusable _), rfl, here⟩
  · rw [found] at replied
    subst replied
    simp only [RefreshStore.isSpent, holding.record_revoked, Bool.false_eq_true, ↓reduceIte,
      nowUnixSecs_eq, Program.call_bind, Program.done_bind, Program.pure_eq] at judging
    obtain ⟨asked, _, _, waits, rfl, deciding⟩ := executes_now judging
    have toAsked := later_of_waits waits
    have still := here.later toAsked
    have started := Nat.le_trans toRead.clock toAsked.clock
    by_cases expired : holding.record.expiresAt ≤ asked.clock / 1000
    · rw [if_pos (decide_eq_true expired)] at deciding
      obtain ⟨rfl, rfl, _⟩ := deciding.of_done
      exact ⟨_, _, _, started, Nat.le_refl _,
        State.step_replayDetected (State.usable_of_expired known expired), rfl, still⟩
    · rw [if_neg (by simpa using expired)] at deciding
      obtain ⟨rfl, elapsed, next⟩ := rewriteEntries_represents injective still oldMember newMember
        (Nat.le_trans outlives (Nat.add_le_add_right started _)) deciding succeeds.right.tail
      exact ⟨_, _, _, started, elapsed, State.step_rotated
        (State.usable_of_live known live (Nat.lt_of_not_le expired)), rfl, next⟩

/-- A lock that nobody holds is taken. -/
theorem setNxEx_served {α : Type} {key : RedisKey} {value : RedisValue} {ttlSecs : Nat}
    {next : Except RedisLayerError Bool → Procedure α} {answer : α}
    (free : world.redis key = none) (succeeds : Succeeds trace)
    (executes : Executes Waits (.call (.redis (.setNxEx key value ttlSecs)) next) world trace answer
      last) :
    ∃ (taken : World) (entry : RedisEntry) (later : List site.system.Exchange), Later world taken ∧
      Succeeds later ∧ Executes Waits (next (.ok true)) (taken.store key entry) later answer last := by
  obtain ⟨taken, outcome, later, waits, rfl, continues⟩ := executes.of_call
  have toTaken := later_of_waits waits
  have missing : taken.lookup key = none := by simp [World.lookup, toTaken.redis, free]
  have succeeded : outcome = .success := succeeds.head.1
  have answered := succeeds.head.2
  subst succeeded
  by_cases accepted : acceptsTtl taken.clock ttlSecs = true
  · refine ⟨taken, ⟨value, some (World.clock taken + ttlSecs * 1000)⟩, later, toTaken, succeeds.tail, ?_⟩
    simpa [Command.exec, Command.answer, Command.effect, RedisCommand.answer, RedisCommand.effect,
      accepted, missing] using continues
  · simp [acknowledged, Command.exec, Command.answer, RedisCommand.answer, accepted,
      Except.isOk, Except.toBool] at answered

private theorem rotate_follows (injective : Set.InjOn sha256Hex ids)
    (represents : Represents sha256Hex ids none state world) (oldMember : old ∈ ids)
    (newMember : new ∈ ids)
    (executes : Executes Waits (RefreshStore.rotate sha256Hex false old new newExpiresAt) world trace
      answer last) (succeeds : Succeeds trace) :
    Follows sha256Hex ids state (.rotate old new newExpiresAt) world answer last := by
  unfold RefreshStore.rotate at executes
  split at executes
  · rename_i error invalid
    obtain ⟨rfl, rfl, _⟩ := executes.of_done
    obtain ⟨message, rfl⟩ := validateRefreshTokenId_error invalid
    exact .rejecting (by rw [Operation.rejected, invalid]; rfl) (Nat.le_refl _) rfl represents
  · rename_i oldValid
    split at executes
    · rename_i error invalid
      obtain ⟨rfl, rfl, _⟩ := executes.of_done
      obtain ⟨message, rfl⟩ := validateRefreshTokenId_error invalid
      exact .rejecting (by rw [Operation.rejected, oldValid, invalid]; rfl) (Nat.le_refl _) rfl
        represents
    · rename_i newValid
      obtain ⟨_, _, reply, asked, rfl, asking, locking⟩ := executes.of_bind
      have toAsked := asking.respects later_tolerates (ttlFromExpiresAt_reads newExpiresAt)
      cases reply with
      | error error =>
        obtain ⟨⟨message, rfl⟩, late⟩ := ttlFromExpiresAt_refused asking
        obtain ⟨rfl, rfl, _⟩ := locking.of_done
        have late : _ ≤ last.clock / 1000 := late
        refine .rejecting ?_ toAsked.clock rfl (represents.later toAsked)
        rw [Operation.rejected, decide_eq_true late, Bool.or_true]
      | ok newTtl =>
        obtain ⟨_, rfl, unexpired⟩ := ttlFromExpiresAt_served later_tolerates asking
        simp only [RefreshStore.rotateLocked, RefreshStore.doRotate, Bool.false_eq_true, ↓reduceIte,
          redis_eq, Program.call_bind, Program.done_bind] at locking
        have here := represents.later toAsked
        obtain ⟨taken, entry, _, toTaken, succeeds', continues⟩ := setNxEx_served
          (here.unlocked _ (by simp)) succeeds.right locking
        obtain ⟨_, _, result, finish, rfl, rotating, releasing⟩ := continues.of_bind
        obtain ⟨instant, expected, next, started, finished, steps, observed, there⟩ :=
          doRotateRedisOnly_follows injective ((here.later toTaken).lock _ entry) oldMember newMember
            (deadline_outlives unexpired toTaken.clock) rotating succeeds'.left
        simp only [RefreshStore.releaseLock, redis_eq, Program.call_bind,
          Program.done_bind] at releasing
        obtain ⟨held, outcome, _, waits, rfl, done⟩ := releasing.of_call
        obtain ⟨rfl, rfl, _⟩ := done.of_done
        have toHeld := later_of_waits waits
        have succeeded : outcome = .success := succeeds'.right.head.1
        subst succeeded
        refine .at_instant ?_ steps toAsked.clock (Nat.le_trans toTaken.clock started)
          (Nat.le_trans finished toHeld.clock) observed (there.later toHeld).unlock
        have early : ¬ newExpiresAt ≤ asked.clock / 1000 := Nat.not_le.mpr unexpired
        rw [Operation.rejected, oldValid, newValid, decide_eq_false early]
        rfl

end

section

variable {site : Deployment} {ids : Set String} {state : State} {world last : World}

/-- One call served without a database follows the machine. -/
theorem operation_follows (withoutDb : site.db = false) (injective : Set.InjOn site.sha256Hex ids)
    (represents : Represents site.sha256Hex ids none state world) {operation : Operation}
    {answer : operation.call.Result} {trace : List site.system.Exchange}
    (known : ∀ id ∈ operation.ids, id ∈ ids)
    (executes : Executes Waits (site.program operation.call) world trace answer last)
    (succeeds : Succeeds trace) :
    Follows site.sha256Hex ids state operation world answer last := by
  cases operation with
  | issue token userId deviceId expiresAt =>
    simp only [Operation.call, Deployment.program, withoutDb] at executes
    exact issue_follows injective represents (known token (.head _)) executes succeeds
  | validate token =>
    simp only [Operation.call, Deployment.program, withoutDb] at executes
    exact validate_follows represents (known token (.head _)) executes succeeds
  | rotate old new newExpiresAt =>
    simp only [Operation.call, Deployment.program, withoutDb] at executes
    exact rotate_follows injective represents (known old (.head _)) (known new (.tail _ (.head _)))
      executes succeeds
  | revoke token =>
    simp only [Operation.call, Deployment.program, withoutDb] at executes
    exact revoke_follows injective represents (known token (.head _)) executes succeeds

/-- From a represented state the machine explains every sequence of calls. -/
theorem explains_of_represents (withoutDb : site.db = false)
    (injective : Set.InjOn site.sha256Hex ids) {history : List Service}
    (served : Serves site world history last)
    (known : ∀ service ∈ history, ∀ id ∈ service.operation.ids, id ∈ ids)
    (represents : Represents site.sha256Hex ids none state world) : Explains state history := by
  induction served generalizing state with
  | idle world => trivial
  | serve waits executes succeeds _ ih =>
    have here := represents.later (later_of_waits waits)
    have knownLater := fun service member => known service (List.Mem.tail _ member)
    obtain ⟨judged, instant, begun, after, before, follows⟩ :=
      operation_follows withoutDb injective here (known _ (.head _)) executes succeeds
    refine ⟨judged, instant, begun, after, before, ?_⟩
    split at follows
    · rename_i rejects
      rw [if_pos rejects]
      exact ⟨follows.1, ih knownLater follows.2⟩
    · rename_i accepts
      rw [if_neg accepts]
      exact ⟨follows.1, ih knownLater follows.2⟩

end

/-- The store without a database, starting empty, answers every sequence of calls as
the machine does. -/
theorem store_refines_machine (site : Deployment) (withoutDb : site.db = false) (ids : Set String)
    (injective : Set.InjOn site.sha256Hex ids) {clock : Nat} {history : List Service} {last : World}
    (served : Serves site (World.empty clock) history last)
    (known : ∀ service ∈ history, ∀ id ∈ service.operation.ids, id ∈ ids) :
    Explains State.empty history := by
  refine explains_of_represents withoutDb injective served known ⟨fun _ _ => rfl, fun token _ => ?_⟩
  intro stored impossible
  cases impossible

theorem rotated_token_refused :
    ∃ history last, Serves (Sample.site false) (World.empty 1000000) history last ∧
      history.map Service.operation =
        [.issue Sample.oldToken "user_1" "device_1" Sample.expiry,
          .rotate Sample.oldToken Sample.newToken Sample.expiry, .validate Sample.oldToken] ∧
      history.map (fun service => observe service.operation service.answer) =
        [some .done, some .rotated, some .refused] ∧
      Explains State.empty history := by
  let issue := Operation.issue Sample.oldToken "user_1" "device_1" Sample.expiry
  let rotate := Operation.rotate Sample.oldToken Sample.newToken Sample.expiry
  let validate := Operation.validate Sample.oldToken
  let start := World.empty 1000000
  let issued := (Sample.served false issue.call start).2.2
  let rotated := (Sample.served false rotate.call issued).2.2
  have succeeds (operation : Operation) (world : World)
      (checked : (Sample.served false operation.call world).1.all (fun exchange =>
        acknowledged exchange.command exchange.reply) = true) :
      Succeeds (Sample.served false operation.call world).1 := fun exchange member =>
    ⟨serveAll_outcome _ _ _ exchange member, List.all_eq_true.mp checked exchange member⟩
  have served : Serves (Sample.site false) start _ _ :=
    .serve (waits_of_eq _ _ rfl) ((Sample.executes_served rfl).mono waits_of_eq)
      (succeeds issue start (by decide +kernel))
      (.serve (waits_of_eq _ _ rfl) ((Sample.executes_served rfl).mono waits_of_eq)
        (succeeds rotate issued (by decide +kernel))
        (.serve (waits_of_eq _ _ rfl) ((Sample.executes_served rfl).mono waits_of_eq)
          (succeeds validate rotated (by decide +kernel)) (.idle _)))
  refine ⟨_, _, served, rfl, by decide +kernel, store_refines_machine (Sample.site false) rfl
    {Sample.oldToken, Sample.newToken} ?_ served ?_⟩
  · intro first firstMember second secondMember same
    simp only [Set.mem_insert_iff, Set.mem_singleton_iff] at firstMember secondMember
    rcases firstMember with rfl | rfl <;> rcases secondMember with rfl | rfl
    · rfl
    · exact absurd same (by decide +kernel)
    · exact absurd same (by decide +kernel)
    · rfl
  · simp [issue, rotate, validate, Operation.ids]

end BrainMate.Gateway.TokenMachine
