import BrainMate.Gateway.Effects

namespace BrainMate.Gateway.RotationLock

open Interleaving System

/-- Where a client stands; the flag says whether it will report `Rotated`. -/
inductive Phase where
  | waiting
  | reading
  | armed
  | marked
  | leaving (won : Bool)
  | finished (won : Bool)
  deriving DecidableEq, Repr

namespace Phase

/-- Between taking the lock and deleting it. -/
def holds : Phase → Bool
  | .reading | .armed | .marked | .leaving _ => true
  | .waiting | .finished _ => false

/-- The client has read a live record and may still report `Rotated`. -/
def contends : Phase → Bool
  | .armed | .marked | .leaving true | .finished true => true
  | .waiting | .reading | .leaving false | .finished false => false

/-- The client has marked the record. -/
def won : Phase → Bool
  | .marked | .leaving true | .finished true => true
  | .waiting | .reading | .armed | .leaving false | .finished false => false

/-- A client can give up, or go on, without a word to the others. -/
inductive Weakens : Phase → Phase → Prop where
  | same (phase : Phase) : Weakens phase phase
  | giveUp : Weakens .waiting (.finished false)
  | lose : Weakens .reading (.leaving false)
  | expire : Weakens .armed (.leaving false)
  | leave (won : Bool) : Weakens .marked (.leaving won)

end Phase

def acquireLock (tokenHash : String) : Command :=
  .redis (.setNxEx (.refreshLock tokenHash) (.text "1") 5)

/-- The command touches neither the lock nor the record. -/
def Silent (tokenHash : String) : Command → Prop
  | .redis command => command.key ≠ .refreshLock tokenHash ∧ command.key ≠ .refresh tokenHash
  | .now | .db _ | .http => True

/-- The moves of the protocol, each with the command and its answer. -/
inductive Moves (tokenHash : String) : Phase → (command : Command) → command.Reply → Phase → Prop where
  | silent (quiet : Silent tokenHash command) (weakens : Phase.Weakens phase next) (reply) :
      Moves tokenHash phase command reply next
  | acquire : Moves tokenHash .waiting (acquireLock tokenHash) (.ok true) .reading
  | refuse (reply) : Moves tokenHash .waiting (acquireLock tokenHash) reply (.finished false)
  | readLive (live : record.revoked = false) :
      Moves tokenHash .reading (.redis (.get (.refresh tokenHash))) (.ok (some (.refresh record))) .armed
  | readOther (reply) :
      Moves tokenHash .reading (.redis (.get (.refresh tokenHash))) reply (.leaving false)
  | mark (revoked : record.revoked = true) :
      Moves tokenHash .armed (.redis (.setEx (.refresh tokenHash) (.refresh record) ttlSecs)) (.ok ())
        .marked
  | markFailed (revoked : record.revoked = true) (reply) :
      Moves tokenHash .armed (.redis (.setEx (.refresh tokenHash) (.refresh record) ttlSecs)) reply
        (.leaving false)
  | release (reply) : Moves tokenHash (.leaving won) (.redis (.delete (.refreshLock tokenHash))) reply
      (.finished won)

/-- The procedure follows the protocol from this phase on. -/
def Conforms (tokenHash : String) : Phase → Procedure (Except ApiError RotationStatus) → Prop
  | phase, .done value => phase.holds = false ∧ (value = .ok .rotated → phase = .finished true)
  | phase, .call command next => ∀ reply, ∃ moved,
      Moves tokenHash phase command reply moved ∧ Conforms tokenHash moved (next reply)

/-- One client at a time contends for the token; while its record is live, one
client at a time holds the lock, and the lock is there. -/
structure LockInvariant (tokenHash : String) (phases : Nat → Phase) (world : World) : Prop where
  won_dead : ∀ client, (phases client).won = true → ¬ CachedLive tokenHash world
  one_contender : ∀ first second, (phases first).contends = true →
    (phases second).contends = true → first = second
  one_holder : CachedLive tokenHash world → ∀ first second, (phases first).holds = true →
    (phases second).holds = true → first = second
  locked : CachedLive tokenHash world → ∀ client, (phases client).holds = true →
    (world.lookup (.refreshLock tokenHash)).isSome = true

section

variable {tokenHash : String} {phases phases' : Nat → Phase} {world after : World} {client : Nat}
variable {command : Command} {outcome : Outcome}

/-- A world with no more live records and no fewer locks, and clients that claim
no more than before. -/
theorem LockInvariant.weaken (invariant : LockInvariant tokenHash phases world)
    (live : CachedLive tokenHash after → CachedLive tokenHash world)
    (lock : CachedLive tokenHash after → ∀ client, (phases' client).holds = true →
      (world.lookup (.refreshLock tokenHash)).isSome = true →
        (after.lookup (.refreshLock tokenHash)).isSome = true)
    (won : ∀ client, (phases' client).won = true → (phases client).won = true)
    (contends : ∀ client, (phases' client).contends = true → (phases client).contends = true)
    (holds : ∀ client, (phases' client).holds = true → (phases client).holds = true) :
    LockInvariant tokenHash phases' after where
  won_dead client winner alive := invariant.won_dead client (won client winner) (live alive)
  one_contender first second left right :=
    invariant.one_contender first second (contends first left) (contends second right)
  one_holder alive first second left right :=
    invariant.one_holder (live alive) first second (holds first left) (holds second right)
  locked alive client held :=
    lock alive client held (invariant.locked (live alive) client (holds client held))

/-- A property that the moved client does not gain is gained by nobody. -/
theorem of_update (property : Phase → Bool) {next : Phase}
    (loses : property next = true → property (phases client) = true) (other : Nat)
    (known : property (Function.update phases client next other) = true) :
    property (phases other) = true := by
  by_cases same : other = client
  · subst other
    exact loses (by simpa using known)
  · rwa [Function.update_of_ne same] at known

/-- Only a live record that the command stores is new. -/
theorem cachedLive_exec
    (marks : ∀ record ttlSecs, command.cachesToken tokenHash = some (record, ttlSecs) →
      record.revoked = true)
    (alive : CachedLive tokenHash (Command.exec outcome command world).2) :
    CachedLive tokenHash world := by
  obtain ⟨record, cached, live⟩ := alive
  rcases Command.exec_world outcome command world with same | same <;> rw [same] at cached
  · exact ⟨record, cached, live⟩
  · rcases command.effect_cached world cached with before | ⟨ttlSecs, writes, _⟩
    · exact ⟨record, before, live⟩
    · rw [marks record ttlSecs writes] at live
      cases live

theorem silent_now (tokenHash : String) : Silent tokenHash .now := trivial

private theorem silent_lock (silent : Silent tokenHash command) :
    (Command.exec outcome command world).2.lookup (.refreshLock tokenHash) =
      world.lookup (.refreshLock tokenHash) := by
  cases command with
  | redis command => exact Command.exec_lookup_other _ command _ (Ne.symm silent.1)
  | now => cases outcome <;> rfl
  | http => cases outcome <;> rfl
  | db command => cases outcome <;> rfl

private theorem silent_caches (silent : Silent tokenHash command) (record : RefreshTokenRecord)
    (ttlSecs : Nat) : command.cachesToken tokenHash ≠ some (record, ttlSecs) := by
  intro writes
  unfold Command.cachesToken at writes
  split at writes
  · split at writes
    · rename_i same
      exact silent.2 (congrArg RedisKey.refresh same)
    · cases writes
  · split at writes
    · rename_i same
      exact silent.2 (congrArg RedisKey.refresh same)
    · cases writes
  · cases writes

/-- A lock that is there stays when somebody tries to acquire it. -/
theorem acquire_keeps_lock (present : (world.lookup (.refreshLock tokenHash)).isSome = true) :
    ((Command.exec outcome (acquireLock tokenHash) world).2.lookup
      (.refreshLock tokenHash)).isSome = true := by
  rcases Command.exec_world outcome (acquireLock tokenHash) world with same | same <;> rw [same]
  · exact present
  · have taken : (world.lookup (.refreshLock tokenHash)).isNone = false := by simpa using present
    simpa [acquireLock, Command.effect, RedisCommand.effect, taken] using present

/-- The lock is granted only when it is free, and then it is there. -/
theorem acquire_granted
    (granted : (Command.exec outcome (acquireLock tokenHash) world).1 = .ok true) :
    (world.lookup (.refreshLock tokenHash)).isSome = false ∧
      ((Command.exec outcome (acquireLock tokenHash) world).2.lookup
        (.refreshLock tokenHash)).isSome = true := by
  cases outcome with
  | lost => cases granted
  | applied => cases granted
  | success =>
    simp only [acquireLock, Command.exec, Command.answer, RedisCommand.answer] at granted
    split at granted
    · rename_i accepted
      have free : world.lookup (.refreshLock tokenHash) = none := by
        simpa using Except.ok.inj granted
      refine ⟨by simp [free], ?_⟩
      simp [acquireLock, Command.exec, Command.effect, RedisCommand.effect, accepted, free,
        World.lookup_store_same, RedisEntry.alive]
    · cases granted

/-- A mark that Redis acknowledged leaves no live record. -/
theorem mark_acknowledged {record : RefreshTokenRecord} {ttlSecs : Nat}
    (revoked : record.revoked = true)
    (answered : (Command.exec outcome
      (.redis (.setEx (.refresh tokenHash) (.refresh record) ttlSecs)) world).1 = .ok ()) :
    ¬ CachedLive tokenHash (Command.exec outcome
      (.redis (.setEx (.refresh tokenHash) (.refresh record) ttlSecs)) world).2 := by
  rintro ⟨other, cached, live⟩
  cases outcome with
  | lost => cases answered
  | applied => cases answered
  | success =>
    simp only [Command.exec, Command.answer, RedisCommand.answer] at answered
    split at answered
    · rename_i accepted
      simp only [Command.exec, Command.effect, RedisCommand.effect, accepted, ↓reduceIte,
        World.lookup_store_same, Option.map_eq_some_iff, Option.filter_eq_some_iff] at cached
      obtain ⟨entry, ⟨identical, _⟩, same⟩ := cached
      cases identical
      cases same
      rw [revoked] at live
      cases live
    · cases answered

/-- A client that gains nothing, by a command that grants nothing. -/
theorem LockInvariant.retreat (invariant : LockInvariant tokenHash phases world) {next : Phase}
    (marks : ∀ record ttlSecs, command.cachesToken tokenHash = some (record, ttlSecs) →
      record.revoked = true)
    (lock : (world.lookup (.refreshLock tokenHash)).isSome = true →
      ((Command.exec outcome command world).2.lookup (.refreshLock tokenHash)).isSome = true)
    (won : next.won = true → (phases client).won = true)
    (contends : next.contends = true → (phases client).contends = true)
    (holds : next.holds = true → (phases client).holds = true) :
    LockInvariant tokenHash (Function.update phases client next)
      (Command.exec outcome command world).2 :=
  invariant.weaken (cachedLive_exec marks) (fun _ _ _ => lock) (of_update Phase.won won)
    (of_update Phase.contends contends) (of_update Phase.holds holds)

theorem Phase.Weakens.loses {phase next : Phase} (weakens : phase.Weakens next) :
    (next.won = true → phase.won = true) ∧ (next.contends = true → phase.contends = true) ∧
      (next.holds = true → phase.holds = true) := by
  cases weakens with
  | leave won => cases won <;> decide
  | _ => simp [Phase.won, Phase.contends, Phase.holds]

/-- While the record is live nobody has won, so whoever contends holds the lock. -/
theorem LockInvariant.contender_holds (invariant : LockInvariant tokenHash phases world)
    (alive : CachedLive tokenHash world) (contends : (phases client).contends = true) :
    (phases client).holds = true := by
  have open_ : ¬ (phases client).won = true := fun won => invariant.won_dead client won alive
  cases phase : phases client with
  | leaving won => cases won <;> simp_all [Phase.contends, Phase.won]
  | finished won => cases won <;> simp_all [Phase.contends, Phase.won]
  | _ => simp_all [Phase.contends, Phase.won, Phase.holds]

theorem LockInvariant.acquire (invariant : LockInvariant tokenHash phases world)
    (granted : (Command.exec outcome (acquireLock tokenHash) world).1 = .ok true) :
    LockInvariant tokenHash (Function.update phases client .reading)
      (Command.exec outcome (acquireLock tokenHash) world).2 := by
  obtain ⟨free, taken⟩ := acquire_granted granted
  have live : CachedLive tokenHash (Command.exec outcome (acquireLock tokenHash) world).2 →
      CachedLive tokenHash world :=
    cachedLive_exec fun _ _ impossible => by cases impossible
  -- Before, nobody held the lock; now this client alone does.
  have nobody (alive : CachedLive tokenHash world) (other : Nat) :
      ¬ (phases other).holds = true := by
    intro held
    rw [invariant.locked alive other held] at free
    cases free
  have onlyClient (alive : CachedLive tokenHash world) (other : Nat)
      (held : (Function.update phases client .reading other).holds = true) : other = client := by
    by_contra different
    rw [Function.update_of_ne different] at held
    exact nobody alive other held
  constructor
  · intro other won alive
    exact invariant.won_dead other (of_update Phase.won (by simp [Phase.won]) other won) (live alive)
  · intro first second left right
    exact invariant.one_contender first second
      (of_update Phase.contends (by simp [Phase.contends]) first left)
      (of_update Phase.contends (by simp [Phase.contends]) second right)
  · intro alive first second left right
    rw [onlyClient (live alive) first left, onlyClient (live alive) second right]
  · exact fun _ _ _ => taken

theorem LockInvariant.readLive (invariant : LockInvariant tokenHash phases world)
    (reading : phases client = .reading) (alive : CachedLive tokenHash world) :
    LockInvariant tokenHash (Function.update phases client .armed) world := by
  have holds : (phases client).holds = true := by rw [reading]; rfl
  -- Another contender would hold the lock as well.
  have alone (other : Nat)
      (contends : (Function.update phases client .armed other).contends = true) :
      other = client := by
    by_contra different
    rw [Function.update_of_ne different] at contends
    exact different (invariant.one_holder alive other client
      (invariant.contender_holds alive contends) holds)
  constructor
  · intro other won
    exact invariant.won_dead other (of_update Phase.won (by simp [Phase.won]) other won)
  · intro first second left right
    rw [alone first left, alone second right]
  · intro _ first second left right
    exact invariant.one_holder alive first second (of_update Phase.holds (fun _ => holds) first left)
      (of_update Phase.holds (fun _ => holds) second right)
  · intro _ other held
    exact invariant.locked alive other (of_update Phase.holds (fun _ => holds) other held)

theorem LockInvariant.mark (invariant : LockInvariant tokenHash phases world)
    (armed : phases client = .armed) (dead : ¬ CachedLive tokenHash after) :
    LockInvariant tokenHash (Function.update phases client .marked) after := by
  have contends : (phases client).contends = true := by rw [armed]; rfl
  refine ⟨fun _ _ => dead, ?_, fun alive => absurd alive dead, fun alive => absurd alive dead⟩
  intro first second left right
  exact invariant.one_contender first second
    (of_update Phase.contends (fun _ => contends) first left)
    (of_update Phase.contends (fun _ => contends) second right)

theorem LockInvariant.release (invariant : LockInvariant tokenHash phases world) {won : Bool}
    (leaving : phases client = .leaving won)
    (live : CachedLive tokenHash after → CachedLive tokenHash world) :
    LockInvariant tokenHash (Function.update phases client (.finished won)) after := by
  have holds : (phases client).holds = true := by rw [leaving]; rfl
  -- While the record is live this client was the only holder.
  have nobody (alive : CachedLive tokenHash world) (other : Nat) :
      ¬ (Function.update phases client (.finished won) other).holds = true := by
    intro held
    by_cases same : other = client
    · subst other
      simp [Phase.holds] at held
    · rw [Function.update_of_ne same] at held
      exact same (invariant.one_holder alive other client held holds)
  constructor
  · intro other winner alive
    refine invariant.won_dead other (of_update Phase.won ?_ other winner) (live alive)
    rw [leaving]
    cases won <;> simp [Phase.won]
  · intro first second left right
    have loses : (Phase.finished won).contends = true → (phases client).contends = true := by
      rw [leaving]
      cases won <;> simp [Phase.contends]
    exact invariant.one_contender first second (of_update Phase.contends loses first left)
      (of_update Phase.contends loses second right)
  · exact fun alive first _ left _ => absurd left (nobody (live alive) first)
  · exact fun alive other held => absurd held (nobody (live alive) other)

/-- Every move of the protocol keeps the invariant. -/
theorem LockInvariant.move (invariant : LockInvariant tokenHash phases world) {next : Phase}
    (moves : Moves tokenHash (phases client) command (Command.exec outcome command world).1 next) :
    LockInvariant tokenHash (Function.update phases client next)
      (Command.exec outcome command world).2 := by
  generalize standing : phases client = phase at moves
  generalize answered : (Command.exec outcome command world).1 = reply at moves
  cases moves with
  | silent quiet weakens =>
    obtain ⟨won, contends, holds⟩ := weakens.loses
    rw [← standing] at won contends holds
    refine invariant.retreat ?_ (by simp [silent_lock quiet]) won contends holds
    exact fun record ttlSecs writes => absurd writes (silent_caches quiet record ttlSecs)
  | acquire => exact invariant.acquire answered
  | refuse =>
    refine invariant.retreat (fun _ _ impossible => by cases impossible) acquire_keeps_lock ?_ ?_ ?_
    all_goals simp [Phase.won, Phase.contends, Phase.holds]
  | @readLive record live =>
    have alive : CachedLive tokenHash world := by
      cases outcome with
      | lost => cases answered
      | applied => cases answered
      | success => exact ⟨record, Except.ok.inj answered, live⟩
    have same : (Command.exec outcome (.redis (.get (.refresh tokenHash))) world).2 = world := by
      cases outcome <;> rfl
    rw [same]
    exact invariant.readLive standing alive
  | readOther =>
    refine invariant.retreat (fun _ _ impossible => by cases impossible) ?_ ?_ ?_ ?_
    · rw [Command.exec_lookup_other _ _ _ (by simp [RedisCommand.key])]
      exact id
    all_goals simp [standing, Phase.won, Phase.contends, Phase.holds]
  | mark revoked => exact invariant.mark standing (mark_acknowledged revoked answered)
  | @markFailed record ttlSecs revoked =>
    refine invariant.retreat ?_ ?_ ?_ ?_ ?_
    · intro other ttl writes
      simp only [Command.cachesToken, ↓reduceIte, Option.some.injEq, Prod.mk.injEq] at writes
      rw [← writes.1]
      exact revoked
    · rw [Command.exec_lookup_other _ _ _ (by simp [RedisCommand.key])]
      exact id
    all_goals simp [standing, Phase.won, Phase.contends, Phase.holds]
  | release =>
    exact invariant.release standing (cachedLive_exec fun _ _ impossible => by cases impossible)

end

section

variable (sha256Hex : String → String) {token new : String}

theorem releaseLock_conforms {won : Bool} {result : Except ApiError RotationStatus}
    (honest : result = .ok .rotated → won = true) :
    Conforms (sha256Hex token) (.leaving won)
      (RefreshStore.releaseLock sha256Hex token result) := by
  simp only [RefreshStore.releaseLock, redis_eq, Program.call_bind, Program.done_bind]
  intro reply
  refine ⟨.finished won, .release reply, rfl, fun rotated => ?_⟩
  rw [honest rotated]

private theorem rewriteEntries_conforms (fresh : sha256Hex new ≠ sha256Hex token)
    (newExpiresAt newTtl : Nat) (current : RefreshTokenRecord) :
    Conforms (sha256Hex token) .armed
      (RefreshStore.rewriteEntries sha256Hex token new newExpiresAt newTtl current >>=
        RefreshStore.releaseLock sha256Hex token) := by
  simp only [RefreshStore.rewriteEntries, nowUnixSecs_eq, redis_eq, Program.call_bind,
    Program.done_bind]
  intro millis
  refine ⟨.armed, .silent (silent_now _) (.same _) millis, fun marked => ?_⟩
  rcases marked with error | _
  · refine ⟨.leaving false, .markFailed rfl _, ?_⟩
    exact releaseLock_conforms sha256Hex (by simp)
  · refine ⟨.marked, .mark rfl, fun stored => ?_⟩
    have quiet : Silent (sha256Hex token) (.redis (.setEx (RefreshStore.key sha256Hex new)
        (.refresh ⟨current.userId, current.deviceId, newExpiresAt, false, none⟩) newTtl)) := by
      simp [Silent, RedisCommand.key, RefreshStore.key, fresh]
    rcases stored with error | _
    · refine ⟨.leaving false, .silent quiet (.leave false) _, ?_⟩
      exact releaseLock_conforms sha256Hex (by simp)
    · refine ⟨.leaving true, .silent quiet (.leave true) _, ?_⟩
      exact releaseLock_conforms sha256Hex (fun _ => rfl)

private theorem doRotateRedisOnly_conforms (fresh : sha256Hex new ≠ sha256Hex token)
    (newExpiresAt newTtl : Nat) :
    Conforms (sha256Hex token) .reading
      (RefreshStore.doRotateRedisOnly sha256Hex token new newExpiresAt newTtl >>=
        RefreshStore.releaseLock sha256Hex token) := by
  simp only [RefreshStore.doRotateRedisOnly, RefreshStore.getRefreshJson, RefreshStore.key, redis_eq,
    Program.call_bind, Program.done_bind]
  intro reply
  -- Whatever is not a live record leads to the release of the lock.
  have lost (result : Except ApiError RotationStatus) (other : result ≠ .ok .rotated) :
      Conforms (sha256Hex token) (.leaving false)
        (RefreshStore.releaseLock sha256Hex token result) :=
    releaseLock_conforms sha256Hex fun rotated => absurd rotated other
  rcases reply with error | _ | raw
  · exact ⟨.leaving false, .readOther _, lost _ (by simp)⟩
  · exact ⟨.leaving false, .readOther _, lost _ (by simp)⟩
  · cases raw
    case refresh record =>
      cases marked : record.revoked with
      | true =>
        refine ⟨.leaving false, .readOther _, ?_⟩
        simp only [RedisValue.asRefresh, Except.map, RefreshStore.isSpent, marked, ↓reduceIte,
          Program.pure_eq, Program.done_bind]
        exact lost _ (by simp)
      | false =>
        refine ⟨.armed, .readLive marked, ?_⟩
        simp only [RedisValue.asRefresh, Except.map, RefreshStore.isSpent, marked, ↓reduceIte,
          Bool.false_eq_true, nowUnixSecs_eq, Program.pure_eq, Program.call_bind,
          Program.done_bind]
        intro millis
        by_cases expired : record.expiresAt ≤ millis / 1000
        · refine ⟨.leaving false, .silent (silent_now _) .expire millis, ?_⟩
          simp only [expired, decide_true, ↓reduceIte, Program.done_bind]
          exact lost _ (by simp)
        · refine ⟨.armed, .silent (silent_now _) (.same _) millis, ?_⟩
          simp only [expired, decide_false, Bool.false_eq_true, ↓reduceIte]
          exact rewriteEntries_conforms sha256Hex fresh newExpiresAt newTtl record
    all_goals exact ⟨.leaving false, .readOther _, lost _ (by simp)⟩

/-- A rotation to a new hash follows the protocol. -/
theorem rotate_conforms (fresh : sha256Hex new ≠ sha256Hex token) (newExpiresAt : Nat) :
    Conforms (sha256Hex token) .waiting
      (RefreshStore.rotate sha256Hex false token new newExpiresAt) := by
  unfold RefreshStore.rotate
  split
  · exact ⟨rfl, by simp⟩
  · split
    · exact ⟨rfl, by simp⟩
    · simp only [RefreshStore.ttlFromExpiresAt, nowUnixSecs_eq, Program.call_bind,
        Program.done_bind]
      intro millis
      refine ⟨.waiting, .silent (silent_now _) (.same _) millis, ?_⟩
      by_cases expired : newExpiresAt ≤ millis / 1000
      · simp only [expired, ↓reduceIte, Program.pure_eq, Program.done_bind]
        exact ⟨rfl, by simp⟩
      · simp only [expired, ↓reduceIte, RefreshStore.rotateLocked, RefreshStore.lockKey, redis_eq,
          Program.pure_eq, Program.call_bind, Program.done_bind]
        intro locked
        rcases locked with error | _ | _
        · exact ⟨.finished false, .refuse _, rfl, by simp⟩
        · exact ⟨.finished false, .refuse _, rfl, by simp⟩
        · exact ⟨.reading, .acquire,
            doRotateRedisOnly_conforms sha256Hex fresh newExpiresAt _⟩

end

/-- A client past the lock does not try to acquire it again. -/
theorem Conforms.past_lock {tokenHash : String} {phase : Phase}
    {program : Procedure (Except ApiError RotationStatus)}
    (conforms : Conforms tokenHash phase program) (past : phase ≠ .waiting) :
    ¬ program.Issues (· = acquireLock tokenHash) := by
  induction program generalizing phase with
  | done value => exact id
  | call command next ih =>
    have onward (reply : command.Reply) {moved : Phase}
        (moves : Moves tokenHash phase command reply moved) :
        moved ≠ .waiting ∧ command ≠ acquireLock tokenHash := by
      cases moves with
      | silent quiet weakens =>
        constructor
        · cases weakens <;> simp_all
        · rintro rfl
          exact quiet.1 rfl
      | acquire => exact absurd rfl past
      | refuse => exact absurd rfl past
      | _ => simp [acquireLock]
    rintro (rfl | ⟨reply, issues⟩)
    · obtain ⟨moved, moves, _⟩ := conforms (.ok true)
      exact (onward _ moves).2 rfl
    · obtain ⟨moved, moves, rest⟩ := conforms reply
      exact ih reply rest (onward reply moves).1 issues

def isRotationOf (token : String) : Call → Bool
  | .rotate old _ _ => decide (old = token)
  | _ => false

def evicts (site : Deployment) : site.system.Action → Bool
  | .environment (.evict _) => true
  | _ => false

/-- Runs of rotations of one token, in which calls may take any time. -/
def rotateTraffic (site : Deployment) (token : String) (config : site.system.Config)
    (action : site.system.Action) : Prop :=
  Starts (isRotationOf token) config action ∧ evicts site action = false

instance (site : Deployment) (token : String) (config : site.system.Config)
    (action : site.system.Action) : Decidable (rotateTraffic site token config action) :=
  inferInstanceAs (Decidable (Starts (isRotationOf token) config action ∧
    evicts site action = false))

/-- Of the rotations of a token that was issued once at most one is answered
`Rotated`. -/
def SingleUse (site : Deployment) (token : String)
    (permitted : site.system.Config → site.system.Action → Prop) : Prop :=
  ∀ (clock : Nat) (userId deviceId : String) (expiresAt : Nat) (issued : site.system.Config)
    (actions : List site.system.Action) (last : site.system.Config) (first second : Nat)
    (new new' : String) (newExpiresAt newExpiresAt' : Nat),
    Run (fun _ _ => True) (.initial (World.empty clock))
      (site.serve 0 (.issue token userId deviceId expiresAt) 2) issued →
    Run permitted (.initial issued.world) actions last →
    last.threads first = .returned (.rotate token new newExpiresAt) (.ok .rotated) →
    last.threads second = .returned (.rotate token new' newExpiresAt') (.ok .rotated) →
    first = second

/-- The client's rotation has taken the lock and not yet deleted it. -/
def HoldsLock (site : Deployment) (tokenHash : String) (config : site.system.Config)
    (client : Nat) : Prop :=
  ∃ call rest, config.threads client = .running call rest ∧
    ¬ rest.Issues (· = acquireLock tokenHash)

/-- Rotations to other hashes, and a lock that outlives the client that holds it
for as long as the record is live. -/
def lockOutlives (site : Deployment) (token : String) (config : site.system.Config) :
    site.system.Action → Prop
  | .start _ (.rotate old new _) => old = token ∧ site.sha256Hex new ≠ site.sha256Hex token
  | .start _ _ => False
  | .step _ _ => True
  | .environment event =>
    CachedLive (site.sha256Hex token) config.world →
      (∃ client, HoldsLock site (site.sha256Hex token) config client) →
      (config.world.lookup (.refreshLock (site.sha256Hex token))).isSome = true →
        ((environment event config.world).lookup
          (.refreshLock (site.sha256Hex token))).isSome = true

/-- The thread is a rotation that follows the protocol. -/
def ThreadConforms (site : Deployment) (tokenHash : String) (phase : Phase) :
    site.system.Thread → Prop
  | .idle => phase = .waiting
  | .running (.rotate _ _ _) rest => Conforms tokenHash phase rest
  | .returned (.rotate _ _ _) value => Conforms tokenHash phase (.done value)
  | _ => False

/-- All clients follow the protocol and its invariant holds. -/
def Orderly (site : Deployment) (tokenHash : String) (config : site.system.Config) : Prop :=
  ∃ phases : Nat → Phase, (∀ client,
      ThreadConforms site tokenHash (phases client) (config.threads client)) ∧
    LockInvariant tokenHash phases config.world

section

variable {site : Deployment} {tokenHash : String}

private theorem threadConforms_settle {old new : String} {newExpiresAt : Nat} {phase : Phase}
    {program : Procedure (Except ApiError RotationStatus)}
    (conforms : Conforms tokenHash phase program) :
    ThreadConforms site tokenHash phase
      (settle (.rotate old new newExpiresAt) program : site.system.Thread) := by
  cases program with
  | done value => exact conforms
  | call command next => exact conforms

theorem ThreadConforms.holder {phase : Phase} {config : site.system.Config} {client : Nat}
    (conforms : ThreadConforms site tokenHash phase (config.threads client))
    (holds : phase.holds = true) : HoldsLock site tokenHash config client := by
  cases state : config.threads client with
  | idle =>
    rw [state] at conforms
    have waiting : phase = .waiting := conforms
    rw [waiting] at holds
    cases holds
  | running call rest =>
    rw [state] at conforms
    refine ⟨call, rest, state, ?_⟩
    cases call with
    | rotate old new newExpiresAt =>
      refine Conforms.past_lock conforms ?_
      rintro rfl
      cases holds
    | _ => exact conforms.elim
  | returned call value =>
    rw [state] at conforms
    cases call with
    | rotate old new newExpiresAt =>
      have released : phase.holds = false := conforms.1
      rw [released] at holds
      cases holds
    | _ => exact conforms.elim

private theorem orderly_initial (world : World) : Orderly site tokenHash (.initial world) := by
  refine ⟨fun _ => .waiting, fun _ => rfl, ?_⟩
  constructor <;> simp [Phase.won, Phase.contends, Phase.holds]

end

theorem Orderly.step {site : Deployment} {token : String}
    {config next : { site with db := false }.system.Config}
    {action : { site with db := false }.system.Action}
    (orderly : Orderly { site with db := false } (site.sha256Hex token) config)
    (permitted : lockOutlives { site with db := false } token config action)
    (moves : config.step? action = some next) :
    Orderly { site with db := false } (site.sha256Hex token) next := by
  obtain ⟨phases, conforms, invariant⟩ := orderly
  obtain ⟨client, call, rfl, state, rfl⟩ |
    ⟨client, outcome, call, command, rest, rfl, state, rfl⟩ | ⟨event, rfl, rfl⟩ := step?_cases moves
  · refine ⟨phases, fun other => ?_, invariant⟩
    by_cases same : other = client
    · subst other
      have waiting := conforms client
      rw [state] at waiting
      simp only [Function.update_self, show phases client = .waiting from waiting]
      cases call with
      | rotate old new newExpiresAt =>
        obtain ⟨rfl, fresh⟩ := permitted
        exact threadConforms_settle (rotate_conforms site.sha256Hex fresh newExpiresAt)
      | _ => exact permitted.elim
    · simp only [Function.update_of_ne same]
      exact conforms other
  · have following := conforms client
    rw [state] at following
    cases call with
    | rotate old new newExpiresAt =>
      obtain ⟨moved, advances, continues⟩ :=
        following (Command.exec outcome command config.world).1
      refine ⟨Function.update phases client moved, fun other => ?_, invariant.move advances⟩
      by_cases same : other = client
      · subst other
        simp only [Function.update_self]
        exact threadConforms_settle continues
      · simp only [Function.update_of_ne same]
        exact conforms other
    | _ => exact following.elim
  · refine ⟨phases, conforms, invariant.weaken ?_ ?_ (fun _ => id) (fun _ => id) (fun _ => id)⟩
    · rintro ⟨record, cached, live⟩
      exact ⟨record, environment_cached cached, live⟩
    · rintro ⟨record, cached, live⟩ client holds
      exact permitted ⟨record, environment_cached cached, live⟩
        ⟨client, (conforms client).holder holds⟩

/-- A token is used once in every run in which the lock outlives its holders. -/
theorem single_use_of_lock_outlives (site : Deployment) (token : String) :
    SingleUse { site with db := false } token (lockOutlives { site with db := false } token) := by
  intro clock userId deviceId expiresAt issued actions last first second new new' newExpiresAt
    newExpiresAt' _ run rotated rotated'
  obtain ⟨phases, conforms, invariant⟩ :=
    run.invariant (Orderly { site with db := false } (site.sha256Hex token))
      (fun _ _ _ permitted moves orderly => orderly.step permitted moves) (orderly_initial _)
  have winner {client : Nat} {new : String} {newExpiresAt : Nat}
      (returned : last.threads client = .returned (.rotate token new newExpiresAt) (.ok .rotated)) :
      (phases client).contends = true := by
    have finished := conforms client
    rw [returned] at finished
    rw [finished.2 rfl]
    rfl
  exact invariant.one_contender first second (winner rotated) (winner rotated')

theorem second_rotation_refused :
    ∃ issued last : (Sample.site false).system.Config,
      Run (lockOutlives (Sample.site false) Sample.oldToken) (.initial issued.world)
        ((Sample.site false).serve 1 (.rotate Sample.oldToken Sample.newToken Sample.expiry) 8 ++
          (Sample.site false).serve 2 (.rotate Sample.oldToken Sample.newerToken Sample.expiry) 4)
        last ∧
      last.threads 1 = .returned (.rotate Sample.oldToken Sample.newToken Sample.expiry)
        (.ok .rotated) ∧
      ∀ client new newExpiresAt, last.threads client =
        .returned (.rotate Sample.oldToken new newExpiresAt) (.ok .rotated) → client = 1 := by
  have evaluated : Config.runsTo (fun _ _ => True)
      (.initial (World.empty 1000000) : (Sample.site false).system.Config)
      ((Sample.site false).serve 0 (.issue Sample.oldToken "user_1" "device_1" Sample.expiry) 2)
      (fun issued =>
        Config.runsTo (rotateTraffic (Sample.site false) Sample.oldToken) (.initial issued.world)
          ((Sample.site false).serve 1
              (.rotate Sample.oldToken Sample.newToken Sample.expiry) 8 ++
            (Sample.site false).serve 2
              (.rotate Sample.oldToken Sample.newerToken Sample.expiry) 4)
          (fun last => decide (last.answer? 1
            (.rotate Sample.oldToken Sample.newToken Sample.expiry) = some (.ok .rotated)))) =
        true := by
    decide +kernel
  obtain ⟨issued, issuing, evaluated⟩ := Run.of_runsTo evaluated
  obtain ⟨last, run, rotated⟩ := Run.of_runsTo evaluated
  have fresh : Sample.sha256Hex Sample.newToken ≠ Sample.sha256Hex Sample.oldToken ∧
      Sample.sha256Hex Sample.newerToken ≠ Sample.sha256Hex Sample.oldToken := by
    decide +kernel
  have allowed := run.permit (fun action member config => show
      lockOutlives (Sample.site false) Sample.oldToken config action by
    simp only [Deployment.serve, List.mem_append, List.mem_cons, List.mem_replicate] at member
    rcases member with (rfl | ⟨_, rfl⟩) | (rfl | ⟨_, rfl⟩)
    · exact ⟨rfl, fresh.1⟩
    · trivial
    · exact ⟨rfl, fresh.2⟩
    · trivial)
  have returned := Config.returned_of_answer? (of_decide_eq_true rotated)
  exact ⟨issued, last, allowed, returned, fun client new newExpiresAt again =>
    single_use_of_lock_outlives (Sample.site false) Sample.oldToken 1000000 "user_1" "device_1"
      Sample.expiry issued _ last client 1 _ _ _ _ issuing allowed again returned⟩

/-- A client that pauses for longer than the TTL between its read and its write:
the lock lapses, a second client rotates the token, and then the first one does. -/
theorem rotated_twice_when_lock_lapses :
    ¬ SingleUse (Sample.site false) Sample.oldToken
      (rotateTraffic (Sample.site false) Sample.oldToken) := by
  intro once
  have evaluated : Config.runsTo (fun _ _ => True)
      (.initial (World.empty 1000000) : (Sample.site false).system.Config)
      ((Sample.site false).serve 0 (.issue Sample.oldToken "user_1" "device_1" Sample.expiry) 2)
      (fun issued =>
        Config.runsTo (rotateTraffic (Sample.site false) Sample.oldToken) (.initial issued.world)
          ((Sample.site false).serve 1
              (.rotate Sample.oldToken Sample.newToken Sample.expiry) 3 ++
            [.environment (.tick 6000)] ++
            (Sample.site false).serve 2
              (.rotate Sample.oldToken Sample.newerToken Sample.expiry) 8 ++
            List.replicate 5 (.step 1 Outcome.success))
          (fun last => decide (last.answer? 1
              (.rotate Sample.oldToken Sample.newToken Sample.expiry) = some (.ok .rotated)) &&
            decide (last.answer? 2
              (.rotate Sample.oldToken Sample.newerToken Sample.expiry) =
                some (.ok .rotated)))) = true := by
    decide +kernel
  obtain ⟨issued, issuing, evaluated⟩ := Run.of_runsTo evaluated
  obtain ⟨last, run, facts⟩ := Run.of_runsTo evaluated
  simp only [Bool.and_eq_true, decide_eq_true_eq] at facts
  have same := once 1000000 "user_1" "device_1" Sample.expiry issued _ last 1 2 _ _ _ _ issuing run
    (Config.returned_of_answer? facts.1) (Config.returned_of_answer? facts.2)
  cases same

end BrainMate.Gateway.RotationLock
