import BrainMate.Interleaving.Outline
import BrainMate.Interleaving.Protocol
import BrainMate.Interleaving.Watched
import BrainMate.Gateway.Queue
import BrainMate.Nextjs.ReconciliationWorker

namespace BrainMate.Nextjs.SessionVersions

open Interleaving System Gateway

inductive Call where
  | bumpSessionVersion (sessionId : String)
  /-- From `enqueueReconciliation`. -/
  | ensureSessionVersion (op : Operation)
  /-- From `executeOperation` of a `session_revoke`. -/
  | recordVersion (sessionId : String) (targetVersion : Nat)
  deriving DecidableEq, Repr

@[reducible] def Call.Result : Call → Type
  | .bumpSessionVersion _ => Int
  | .ensureSessionVersion _ | .recordVersion _ _ => Except String Unit

def Call.program : (call : Call) → Procedure call.Result
  | .bumpSessionVersion sessionId => Nextjs.bumpSessionVersion sessionId
  | .ensureSessionVersion op => Nextjs.ensureSessionVersion op
  | .recordVersion sessionId targetVersion => Server.recordVersion sessionId targetVersion

@[reducible] def versions : System Command Command.Reply where
  World := World
  Outcome := Outcome
  Event := Event
  Call := Call
  Result := Call.Result
  exec := Command.exec
  environment := environment
  program := Call.program

/-- The integer stored at `session_version:{id}`. -/
def version (sessionId : String) (world : World) : Int :=
  parseVersion (world.lookup (.sessionVersion sessionId))

/-- The version does not expire. -/
def noKeyExpiry (sessionId : String) (config : versions.Config) : versions.Action → Prop
  | .environment event => (environment event config.world).lookup (.sessionVersion sessionId) =
      config.world.lookup (.sessionVersion sessionId)
  | .start _ _ | .step _ _ => True

/-- No command takes the version above a value that another call, past its GET, is about
to write. -/
def noOvertaking (sessionId : String) (config : versions.Config) : versions.Action → Prop
  | .step client outcome => ∀ command, (config.threads client).next? = some command →
      ∀ other value ttlSecs, other ≠ client →
        (config.threads other).next? =
          some (.redis (.setEx (.sessionVersion sessionId) (.counter value) ttlSecs)) →
        version sessionId config.world < version sessionId (Command.exec outcome command config.world).2 →
        version sessionId (Command.exec outcome command config.world).2 ≤ value
  | .start _ _ | .environment _ => True

inductive Phase where
  | rest
  /-- The stored version was found below this value, which is to be written next. -/
  | intends (value : Int)

/-- The command does not set the version. -/
def Tame (sessionId : String) : Command → Prop
  | .redis command => command.key = .sessionVersion sessionId →
      command = .get (.sessionVersion sessionId) ∨ command = .incr (.sessionVersion sessionId) ∨
        command = .expire (.sessionVersion sessionId) idemTtlSecs
  | .now | .db _ | .http => True

inductive Moves (sessionId : String) : Phase → (command : Command) → command.Reply → Phase → Prop where
  | compare {raw : Option RedisValue} {value : Int} (less : parseVersion raw < value) :
      Moves sessionId .rest (.redis (.get (.sessionVersion sessionId))) (.ok raw) (.intends value)
  | write (value : Int) (ttlSecs : Nat) (reply : Except RedisLayerError Unit) :
      Moves sessionId (.intends value)
        (.redis (.setEx (.sessionVersion sessionId) (.counter value) ttlSecs)) reply .rest
  | quiet {command : Command} (tame : Tame sessionId command) (reply : command.Reply) :
      Moves sessionId .rest command reply .rest

@[reducible] def protocol (sessionId : String) : Protocol Command Command.Reply :=
  ⟨Phase, .rest, Moves sessionId⟩

/-- `setSessionVersion` in one piece. -/
theorem setSessionVersion_eq (sessionId : String) (version : Nat) :
    setSessionVersion sessionId version =
      .call (.redis (.get (.sessionVersion sessionId))) fun reply =>
        match reply with
        | .error error => .done (.error error.message)
        | .ok raw =>
          if parseVersion raw < version then
            .call (.redis (.setEx (.sessionVersion sessionId) (.counter version) idemTtlSecs))
              fun reply => .done (reply.mapError RedisLayerError.message)
          else .done (.ok ()) := by
  simp only [setSessionVersion, getSessionVersion, redis_eq, Program.call_bind, Program.done_bind,
    Program.pure_eq]
  congr 1
  funext reply
  rcases reply with error | raw
  · rfl
  · simp only [Program.done_bind]
    split
    · congr 1
      funext reply
      rcases reply with error | _ <;> rfl
    · rfl

section

variable (sessionId : String)

theorem tame_get (other : String) : Tame sessionId (.redis (.get (.sessionVersion other))) := by
  rintro ⟨⟩
  exact .inl rfl

private theorem tame_incr (other : String) :
    Tame sessionId (.redis (.incr (.sessionVersion other))) := by
  rintro ⟨⟩
  exact .inr (.inl rfl)

private theorem tame_expire (other : String) :
    Tame sessionId (.redis (.expire (.sessionVersion other) idemTtlSecs)) := by
  rintro ⟨⟩
  exact .inr (.inr rfl)

private theorem tame_set {other : String} (different : other ≠ sessionId) (value : RedisValue)
    (ttlSecs : Nat) : Tame sessionId (.redis (.setEx (.sessionVersion other) value ttlSecs)) :=
  fun same => absurd (RedisKey.sessionVersion.inj same) different

private theorem getSessionVersion_conforms (other : String) :
    (protocol sessionId).Conforms .rest (getSessionVersion other) := by
  intro reply
  refine ⟨.rest, .quiet (tame_get sessionId other) reply, ?_⟩
  rcases reply with error | raw <;> rfl

private theorem bumpSessionVersion_conforms (other : String) :
    (protocol sessionId).Conforms .rest (bumpSessionVersion other) := by
  intro reply
  refine ⟨.rest, .quiet (tame_incr sessionId other) reply, ?_⟩
  rcases reply with error | next
  · rfl
  · intro reply
    refine ⟨.rest, .quiet (tame_expire sessionId other) reply, ?_⟩
    rcases reply with error | found <;> rfl

/-- The GET decides whether there is something to write. -/
theorem setSessionVersion_conforms (other : String) (version : Nat) :
    (protocol sessionId).Conforms .rest (setSessionVersion other version) := by
  rw [setSessionVersion_eq]
  rintro (error | raw)
  · exact ⟨.rest, .quiet (tame_get sessionId other) _, rfl⟩
  by_cases less : parseVersion raw < version
  · simp only [less, ↓reduceIte]
    by_cases own : other = sessionId
    · subst own
      exact ⟨.intends version, .compare less, fun reply => ⟨.rest, .write _ _ reply, rfl⟩⟩
    · refine ⟨.rest, .quiet (tame_get sessionId other) _, fun reply => ?_⟩
      exact ⟨.rest, .quiet (tame_set sessionId own _ _) reply, rfl⟩
  · simp only [less, ↓reduceIte]
    exact ⟨.rest, .quiet (tame_get sessionId other) _, rfl⟩

private theorem program_conforms (call : Call) :
    (protocol sessionId).Conforms .rest call.program := by
  cases call with
  | bumpSessionVersion other => exact bumpSessionVersion_conforms sessionId other
  | ensureSessionVersion op =>
    rcases op with _ | ⟨other, _, _, expected⟩ | ⟨other, _, _, _ | target⟩
    · rfl
    · exact setSessionVersion_conforms sessionId other expected
    · rfl
    · exact setSessionVersion_conforms sessionId other target
  | recordVersion other targetVersion =>
    refine (getSessionVersion_conforms sessionId other).bind ?_
    rintro (error | current)
    · rfl
    · dsimp only
      split
      · exact setSessionVersion_conforms sessionId other targetVersion
      · rfl

end

section

variable {sessionId : String} {world : World}

theorem version_congr {later : World}
    (same : later.lookup (.sessionVersion sessionId) = world.lookup (.sessionVersion sessionId)) :
    version sessionId later = version sessionId world := by
  simp [version, same]

/-- INCR adds one to a number, and makes one of nothing. -/
theorem version_incr :
    version sessionId world ≤
      version sessionId (RedisCommand.effect (.incr (.sessionVersion sessionId)) world) := by
  cases found : world.lookup (.sessionVersion sessionId) with
  | none =>
    simp only [version, RedisCommand.effect, found, world.lookup_fresh]
    simp [parseVersion]
  | some value =>
    cases value with
    | counter count =>
      simp only [version, RedisCommand.effect, found, World.lookup_restored found]
      simp [parseVersion]
    | _ => simp [RedisCommand.effect, found]

/-- EXPIRE with a positive TTL leaves the value. -/
theorem version_expire :
    version sessionId
        (RedisCommand.effect (.expire (.sessionVersion sessionId) idemTtlSecs) world) =
      version sessionId world := by
  apply version_congr
  cases found : world.lookup (.sessionVersion sessionId) with
  | none => simp [RedisCommand.effect, found]
  | some value =>
    simp only [RedisCommand.effect, found]
    rw [if_neg (by decide)]
    split
    · rename_i accepted
      exact World.lookup_stored accepted
    · exact found

private theorem version_setEx (value : Int) (ttlSecs : Nat) :
    version sessionId
        (RedisCommand.effect (.setEx (.sessionVersion sessionId) (.counter value) ttlSecs) world) =
      if acceptsTtl world.clock ttlSecs then value else version sessionId world := by
  simp only [RedisCommand.effect]
  split
  · rename_i accepted
    simp [version, World.lookup_stored accepted, parseVersion]
  · rfl

/-- A command that is tame, or writes no less than is stored, does not lower the version. -/
theorem version_le_of_moves {phase moved : Phase} {command : Command} {outcome : Outcome}
    (moves : Moves sessionId phase command (Command.exec outcome command world).1 moved)
    (bounded : ∀ value, phase = .intends value → version sessionId world ≤ value) :
    version sessionId world ≤ version sessionId (Command.exec outcome command world).2 := by
  rcases Command.exec_world outcome command world with same | same <;> rw [same]
  generalize (Command.exec outcome command world).1 = reply at moves
  cases moves with
  | compare less => exact Int.le_refl _
  | write value ttlSecs reply =>
    simp only [Command.effect]
    rw [version_setEx]
    split
    · exact bounded value rfl
    · exact Int.le_refl _
  | quiet tame reply =>
    cases command with
    | redis command =>
      by_cases own : command.key = .sessionVersion sessionId
      · rcases tame own with rfl | rfl | rfl
        · exact Int.le_refl _
        · exact version_incr
        · exact Int.le_of_eq version_expire.symm
      · apply Int.le_of_eq
        exact (version_congr (command.effect_lookup_other world (Ne.symm own))).symm
    | now => exact Int.le_refl _
    | db => exact Int.le_refl _
    | http => exact Int.le_refl _

end

variable (sessionId : String)

/-- A client past its GET is to write no less than is stored. -/
def Bounded (phases : Nat → Phase) (world : World) : Prop :=
  ∀ client value, phases client = .intends value → version sessionId world ≤ value

def permitted (config : versions.Config) (action : versions.Action) : Prop :=
  noKeyExpiry sessionId config action ∧ noOvertaking sessionId config action

variable {sessionId}

/-- A client that intends to write a value is about to write it. -/
theorem next_of_intends {thread : versions.Thread} {value : Int}
    (stands : (protocol sessionId).ThreadStands (.intends value) thread) :
    ∃ ttlSecs, thread.next? =
      some (.redis (.setEx (.sessionVersion sessionId) (.counter value) ttlSecs)) := by
  cases thread with
  | idle => cases stands
  | returned => cases stands
  | running call program =>
    cases program with
    | done => cases stands
    | call command next =>
      obtain ⟨moved, moves, _⟩ := stands (command.failure "" (World.empty 0))
      generalize command.failure "" (World.empty 0) = reply at moves
      cases moves with
      | write _ ttlSecs => exact ⟨ttlSecs, rfl⟩

private theorem versions_keeps :
    Protocol.Keeps (protocol sessionId) (permitted sessionId) (Bounded sessionId) where
  start _ _ call _ := program_conforms sessionId call
  command config phases client outcome call command rest moved allowed stands running moves bounded := by
    intro other value intends
    by_cases own : other = client
    · -- Only a GET leads to writing, and it found less than that.
      subst own
      rw [Function.update_self] at intends
      subst intends
      generalize answered : (Command.exec outcome command config.world).1 = reply at moves
      generalize phases other = phase at moves
      cases moves with
      | compare less =>
        cases outcome with
        | success =>
          cases answered
          exact Int.le_of_lt less
        | lost => cases answered
        | applied => cases answered
    · rw [Function.update_of_ne own] at intends
      have before := bounded other value intends
      obtain ⟨ttlSecs, next⟩ := next_of_intends (intends ▸ stands other)
      have issued : (config.threads client).next? = some command := by rw [running]; rfl
      rcases Int.lt_or_le (version sessionId config.world)
        (version sessionId (Command.exec outcome command config.world).2) with raised | unraised
      · exact allowed.2 command issued other value ttlSecs own next raised
      · exact Int.le_trans unraised before
  event config phases event allowed stands bounded client value intends := by
    rw [version_congr allowed.1]
    exact bounded client value intends

/-- The phases of the clients can be told, and bound the version. -/
def Orderly (sessionId : String) (config : versions.Config) : Prop :=
  ∃ phases, (protocol sessionId).Stands config phases ∧ Bounded sessionId phases config.world

theorem Orderly.step {config next : versions.Config} {action : versions.Action}
    (orderly : Orderly sessionId config) (allowed : permitted sessionId config action)
    (moves : config.step? action = some next) : Orderly sessionId next := by
  obtain ⟨phases, stands, bounded⟩ := orderly
  exact versions_keeps.step allowed moves stands bounded

/-- Commands that do not lower the version, and events that leave it alone. -/
def upward (sessionId : String) : versions.Rules where
  admits world command outcome :=
    version sessionId world ≤ version sessionId (Command.exec outcome command world).2
  occurs world event := (environment event world).lookup (.sessionVersion sessionId) =
    world.lookup (.sessionVersion sessionId)

private theorem upward_governs :
    (upward sessionId).Governs (fun config action =>
      permitted sessionId config action ∧ Orderly sessionId config) := by
  rintro config action ⟨allowed, phases, stands, bounded⟩
  cases action with
  | start => trivial
  | environment event => exact allowed.1
  | step client outcome =>
    simp only [Rules.permits]
    split
    · rename_i call command rest running
      have conforms : (protocol sessionId).Conforms (phases client) (.call command rest) := by
        have own := stands client
        rwa [running] at own
      obtain ⟨moved, moves, _⟩ := conforms (Command.exec outcome command config.world).1
      exact version_le_of_moves moves fun value intends => bounded client value intends
    · trivial

theorem stable_le (value : Int) :
    (upward sessionId).Stable (fun world => value ≤ version sessionId world) where
  command world command outcome admitted _ below := Int.le_trans below admitted
  event world event same below := by
    rw [version_congr same]
    exact below

private theorem incr_answered {world : World} {outcome : Outcome} {next : Int}
    (answered : (Command.exec outcome (.redis (.incr (.sessionVersion sessionId))) world).1 =
      .ok next) :
    version sessionId (Command.exec outcome (.redis (.incr (.sessionVersion sessionId))) world).2 =
      next := by
  cases outcome with
  | lost => cases answered
  | applied => cases answered
  | success =>
    simp only [Command.exec, Command.answer, RedisCommand.answer] at answered
    simp only [Command.exec, Command.effect]
    cases found : world.lookup (.sessionVersion sessionId) with
    | none =>
      simp only [found] at answered
      cases answered
      simp only [version, RedisCommand.effect, found, world.lookup_fresh, parseVersion]
    | some value =>
      cases value with
      | counter count =>
        simp only [found] at answered
        cases answered
        simp only [version, RedisCommand.effect, found, World.lookup_restored found, parseVersion]
      | _ =>
        simp only [found] at answered
        cases answered

/-- What `bumpSessionVersion` returns is stored from its INCR on. -/
theorem bumpSessionVersion_outline :
    (upward sessionId).Outline (fun _ => True)
      (fun value world => value ≠ 0 → value ≤ version sessionId world)
      (bumpSessionVersion sessionId) := by
  refine ⟨fun reply world => ∀ next, reply = .ok next → next ≤ version sessionId world, ?_, ?_, ?_⟩
  · exact fun reply => Rules.Stable.all fun next => Rules.Stable.imp fun _ => stable_le next
  · intro world outcome _ _
    exact ⟨trivial, fun next answered => Int.le_of_eq (incr_answered answered).symm⟩
  · rintro (error | next)
    · exact fun _ _ nonzero => absurd rfl nonzero
    · apply Rules.Outline.strengthen ?_ (fun world known => known next rfl)
      refine .skip (stable_le next) (fun _ _ _ _ => trivial) ?_
      rintro (error | found)
      · exact fun _ _ nonzero => absurd rfl nonzero
      · exact fun _ below _ => below

/-- In a run in which the version does not expire and no command takes it above a value
that another `setSessionVersion`, past its GET, is about to write: it never goes back,
and what a `bumpSessionVersion` returned stays a lower bound of it. -/
theorem version_never_back_of_undisturbed {world : World} {actions later : List versions.Action}
    {middle last : versions.Config}
    (run : Run (permitted sessionId) (.initial world) actions middle)
    (rest : Run (permitted sessionId) middle later last) :
    version sessionId middle.world ≤ version sessionId last.world ∧
      ∀ client value, middle.threads client = .returned (.bumpSessionVersion sessionId) value →
        value ≠ 0 → value ≤ version sessionId last.world := by
  have initially : Orderly sessionId (.initial world) :=
    ⟨fun _ => .rest, Protocol.stands_initial world, nofun⟩
  have kept (config next : versions.Config) (action : versions.Action)
      (allowed : permitted sessionId config action) (moves : config.step? action = some next)
      (orderly : Orderly sessionId config) : Orderly sessionId next := orderly.step allowed moves
  have orderly : Orderly sessionId middle :=
    run.invariant (Orderly sessionId) (fun config action next => kept config next action) initially
  have before := run.relying (Orderly sessionId) (fun config action next => kept config next action)
    initially
  have after := rest.relying (Orderly sessionId) (fun config action next => kept config next action)
    orderly
  have never (value : Int) (below : value ≤ version sessionId middle.world) :
      value ≤ version sessionId last.world :=
    after.stable upward_governs (fun _ _ _ => trivial) (stable_le value) below
  refine ⟨never _ (Int.le_refl _), fun client value returned nonzero => never value ?_⟩
  exact before.outline
    (fun (value : Int) world => value ≠ 0 → value ≤ version sessionId world) upward_governs
    (fun _ _ _ => trivial) bumpSessionVersion_outline (.pure True)
    (fun value => Rules.Stable.imp fun _ => stable_le value) rfl trivial returned nonzero

instance (sessionId : String) (config : versions.Config) :
    (action : versions.Action) → Decidable (noKeyExpiry sessionId config action)
  | .environment event => inferInstanceAs (Decidable ((environment event config.world).lookup
      (.sessionVersion sessionId) = config.world.lookup (.sessionVersion sessionId)))
  | .start _ _ | .step _ _ => isTrue trivial

/-- Two clients take turns, each from its start to its end. -/
def takesTurn (config : versions.Config) : versions.Action → Bool
  | .start client _ => client < 2
  | .step client _ => client < 2 && ((config.threads (1 - client)).next?).isNone
  | .environment _ => false

/-- No third client takes part. -/
def OnlyTwo (config : versions.Config) : Prop := ∀ other, 2 ≤ other → config.threads other = .idle

private theorem onlyTwo_step {config next : versions.Config} {action : versions.Action}
    (turn : takesTurn config action = true) (moves : config.step? action = some next)
    (two : OnlyTwo config) : OnlyTwo next := by
  intro other third
  obtain ⟨client, call, rfl, _, rfl⟩ | ⟨client, outcome, call, command, rest, rfl, _, rfl⟩ |
    ⟨event, rfl, rfl⟩ := step?_cases moves
  · have mine : client < 2 := by simpa [takesTurn] using turn
    exact (Function.update_of_ne (by omega) _ _).trans (two other third)
  · have mine : client < 2 := by
      simp only [takesTurn, Bool.and_eq_true, decide_eq_true_eq] at turn
      exact turn.1
    exact (Function.update_of_ne (by omega) _ _).trans (two other third)
  · cases turn

private theorem permitted_of_turn {config : versions.Config} {action : versions.Action}
    (turn : takesTurn config action = true) (two : OnlyTwo config) :
    permitted sessionId config action := by
  cases action with
  | start => exact ⟨trivial, trivial⟩
  | environment => cases turn
  | step client outcome =>
    refine ⟨trivial, ?_⟩
    intro command _ other value ttlSecs different next
    simp only [takesTurn, Bool.and_eq_true, decide_eq_true_eq, Option.isNone_iff_eq_none] at turn
    obtain ⟨mine, quiet⟩ := turn
    by_cases third : 2 ≤ other
    · rw [two other third] at next
      cases next
    · have same : other = 1 - client := by omega
      rw [same, quiet] at next
      cases next

def bumped : List versions.Action :=
  [.start 0 (.bumpSessionVersion "sess_1"), .step 0 Outcome.success, .step 0 Outcome.success]

def recorded : List versions.Action :=
  [.start 1 (.recordVersion "sess_1" 5), .step 1 Outcome.success, .step 1 Outcome.success,
    .step 1 Outcome.success]

theorem version_raised_in_turns :
    ∃ middle last, Run (permitted "sess_1") (.initial (World.empty 1000000)) bumped middle ∧
      Run (permitted "sess_1") middle recorded last ∧
      middle.threads 0 = .returned (.bumpSessionVersion "sess_1") 1 ∧
      version "sess_1" last.world = 5 ∧ 1 ≤ version "sess_1" last.world := by
  have turns {config last : versions.Config} {actions : List versions.Action}
      (run : Run (fun config action => takesTurn config action = true) config actions last)
      (two : OnlyTwo config) : Run (permitted "sess_1") config actions last ∧ OnlyTwo last := by
    constructor
    · refine (run.relying OnlyTwo (fun _ _ _ => onlyTwo_step) two).mono ?_
      exact fun config action both => permitted_of_turn both.1 both.2
    · exact run.invariant OnlyTwo (fun _ _ _ => onlyTwo_step) two
  have evaluated : (Config.initial (World.empty 1000000) : versions.Config).runsTo
      (fun config action => takesTurn config action = true) bumped (fun config =>
        config.answer? 0 (.bumpSessionVersion "sess_1") == some (1 : Int) &&
        config.runsTo (fun config action => takesTurn config action = true) recorded fun config =>
          version "sess_1" config.world == 5) = true := by
    decide +kernel
  obtain ⟨middle, first, checked⟩ := Run.of_runsTo evaluated
  simp only [Bool.and_eq_true, beq_iff_eq] at checked
  obtain ⟨last, second, final⟩ := Run.of_runsTo checked.2
  obtain ⟨earlier, two⟩ := turns first fun _ _ => rfl
  obtain ⟨rest, _⟩ := turns second two
  have returned := Config.returned_of_answer? checked.1
  have never := version_never_back_of_undisturbed earlier rest
  exact ⟨middle, last, earlier, rest, returned, by simpa using final,
    never.2 0 1 returned (by decide)⟩

/-- A `session_revoke` with target version 1 finds no version; before it writes, two
logouts bump it. -/
def overtaken : List versions.Action :=
  [.start 0 (.recordVersion "sess_1" 1), .step 0 Outcome.success, .step 0 Outcome.success,
    .start 1 (.bumpSessionVersion "sess_1"), .step 1 Outcome.success, .step 1 Outcome.success,
    .start 2 (.bumpSessionVersion "sess_1"), .step 2 Outcome.success, .step 2 Outcome.success]

theorem version_sent_back :
    ∃ middle last, Run (noKeyExpiry "sess_1") (.initial (World.empty 1000000)) overtaken middle ∧
      Run (noKeyExpiry "sess_1") middle [.step 0 Outcome.success] last ∧
      middle.threads 2 = .returned (.bumpSessionVersion "sess_1") 2 ∧
      version "sess_1" last.world < version "sess_1" middle.world ∧
      ¬ 2 ≤ version "sess_1" last.world := by
  have evaluated : (Config.initial (World.empty 1000000) : versions.Config).runsTo
      (noKeyExpiry "sess_1") overtaken (fun config =>
        config.answer? 2 (.bumpSessionVersion "sess_1") == some (2 : Int) &&
        version "sess_1" config.world == 2 &&
        config.runsTo (noKeyExpiry "sess_1") [.step 0 Outcome.success] fun config =>
          version "sess_1" config.world == 1) = true := by
    decide +kernel
  obtain ⟨middle, first, checked⟩ := Run.of_runsTo evaluated
  simp only [Bool.and_eq_true, beq_iff_eq] at checked
  obtain ⟨last, second, final⟩ := Run.of_runsTo checked.2
  have low : version "sess_1" last.world = 1 := by simpa using final
  refine ⟨middle, last, first, second, Config.returned_of_answer? checked.1.1, ?_, ?_⟩
  · rw [low, checked.1.2]
    decide
  · rw [low]
    decide

end BrainMate.Nextjs.SessionVersions
