import BrainMate.Interleaving.Program

/-! Any number of clients run their procedures against one shared world. One
step starts a call, lets one client issue its next command, or lets the
environment act; every order of such steps is a run. -/

namespace BrainMate.Interleaving

structure System (Command : Type) (Reply : Command → Type) where
  World : Type
  /-- How the world answers one command: success, or one of the failures. -/
  Outcome : Type
  Event : Type
  Call : Type
  Result : Call → Type
  exec : Outcome → (command : Command) → World → Reply command × World
  environment : Event → World → World
  program : (call : Call) → Program Command Reply (Result call)

namespace System

variable {Command : Type} {Reply : Command → Type} (system : System Command Reply)

inductive Thread where
  | idle
  | running (call : system.Call) (rest : Program Command Reply (system.Result call))
  | returned (call : system.Call) (value : system.Result call)

structure Config where
  world : system.World
  threads : Nat → system.Thread

inductive Action where
  | start (client : Nat) (call : system.Call)
  | step (client : Nat) (outcome : system.Outcome)
  | environment (event : system.Event)

variable {system}

def Thread.isIdle : system.Thread → Bool
  | .idle => true
  | _ => false

theorem Thread.eq_idle {thread : system.Thread} (free : thread.isIdle = true) : thread = .idle := by
  cases thread with
  | idle => rfl
  | running => cases free
  | returned => cases free

/-- A procedure that is done has returned its value to the caller. -/
def settle (call : system.Call) : Program Command Reply (system.Result call) → system.Thread
  | .done value => .returned call value
  | .call command next => .running call (.call command next)

def Config.initial (world : system.World) : system.Config := ⟨world, fun _ => .idle⟩

def Config.step? (config : system.Config) : system.Action → Option system.Config
  | .start client call =>
    if (config.threads client).isIdle then
      some ⟨config.world,
        Function.update config.threads client (settle call (system.program call))⟩
    else none
  | .step client outcome =>
    match config.threads client with
    | .running call (.call command next) =>
      let (reply, world) := system.exec outcome command config.world
      some ⟨world, Function.update config.threads client (settle call (next reply))⟩
    | _ => none
  | .environment event => some ⟨system.environment event config.world, config.threads⟩

/-- Only calls of this kind are started; whatever else happens is free. -/
def Starts (kind : system.Call → Bool) (_ : system.Config) : system.Action → Prop
  | .start _ call => kind call = true
  | .step _ _ | .environment _ => True

instance (kind : system.Call → Bool) (config : system.Config) :
    (action : system.Action) → Decidable (Starts kind config action)
  | .start _ call => inferInstanceAs (Decidable (kind call = true))
  | .step _ _ | .environment _ => isTrue trivial

/-- A run all of whose steps are permitted in the configuration they leave. -/
inductive Run (permitted : system.Config → system.Action → Prop) :
    system.Config → List system.Action → system.Config → Prop where
  | refl : Run permitted config [] config
  | step (allowed : permitted config action) (moves : config.step? action = some next)
      (rest : Run permitted next actions last) : Run permitted config (action :: actions) last

/-- Evaluate a list of actions, checking that each step is permitted. -/
def Config.run? (permitted : system.Config → system.Action → Prop)
    [∀ config action, Decidable (permitted config action)] (config : system.Config) :
    List system.Action → Option system.Config
  | [] => some config
  | action :: rest =>
    if permitted config action then
      (config.step? action).bind fun next => next.run? permitted rest
    else none

variable {permitted stronger : system.Config → system.Action → Prop}
variable {config next last : system.Config} {action : system.Action}
variable {actions later : List system.Action}

theorem Run.trans (first : Run permitted config actions next)
    (second : Run permitted next later last) : Run permitted config (actions ++ later) last := by
  induction first with
  | refl => exact second
  | step allowed moves _ ih => exact .step allowed moves (ih second)

theorem Run.mono (run : Run stronger config actions last)
    (weaker : ∀ config action, stronger config action → permitted config action) :
    Run permitted config actions last := by
  induction run with
  | refl => exact .refl
  | step allowed moves _ ih => exact .step (weaker _ _ allowed) moves ih

theorem Run.permit (run : Run stronger config actions last)
    (allowed : ∀ action ∈ actions, ∀ config, permitted config action) :
    Run permitted config actions last := by
  induction run with
  | refl => exact .refl
  | step _ moves _ ih =>
    exact .step (allowed _ (.head _) _) moves (ih fun action later => allowed action (.tail _ later))

theorem Run.permitted_of_mem (run : Run permitted config actions last) (member : action ∈ actions) :
    ∃ before, permitted before action := by
  induction run with
  | refl => cases member
  | step allowed _ _ ih =>
    rcases List.mem_cons.mp member with rfl | later
    · exact ⟨_, allowed⟩
    · exact ih later

theorem Run.of_run? [∀ config action, Decidable (permitted config action)]
    (evaluated : config.run? permitted actions = some last) :
    Run permitted config actions last := by
  induction actions generalizing config with
  | nil =>
    cases Option.some.inj evaluated
    exact .refl
  | cons action rest ih =>
    simp only [Config.run?] at evaluated
    split at evaluated
    · rename_i allowed
      obtain ⟨next, moves, evaluated⟩ := Option.bind_eq_some_iff.mp evaluated
      exact .step allowed moves (ih evaluated)
    · cases evaluated

/-- A list of actions can be run and ends where the check succeeds. -/
def Config.runsTo (permitted : system.Config → system.Action → Prop)
    [∀ config action, Decidable (permitted config action)] (config : system.Config)
    (actions : List system.Action) (check : system.Config → Bool) : Bool :=
  (config.run? permitted actions).any check

theorem Run.of_runsTo [∀ config action, Decidable (permitted config action)]
    {check : system.Config → Bool} (evaluated : config.runsTo permitted actions check = true) :
    ∃ last, Run permitted config actions last ∧ check last = true := by
  obtain ⟨last, reached, checked⟩ := (Option.any_eq_true _ _).mp evaluated
  exact ⟨last, .of_run? reached, checked⟩

/-- What holds before a run and is kept by each permitted step holds after it. -/
theorem Run.invariant (holds : system.Config → Prop) (run : Run permitted config actions last)
    (kept : ∀ config action next, permitted config action → config.step? action = some next →
      holds config → holds next)
    (initially : holds config) : holds last := by
  induction run with
  | refl => exact initially
  | step allowed moves _ ih => exact ih (kept _ _ _ allowed moves initially)

/-- A run may rely at each step on what it keeps. -/
theorem Run.relying (holds : system.Config → Prop) (run : Run permitted config actions last)
    (kept : ∀ config action next, permitted config action → config.step? action = some next →
      holds config → holds next)
    (initially : holds config) :
    Run (fun config action => permitted config action ∧ holds config) config actions last := by
  induction run with
  | refl => exact .refl
  | step allowed moves _ ih =>
    exact .step ⟨allowed, initially⟩ moves (ih (kept _ _ _ allowed moves initially))

/-- The three shapes of one step, with everything it changes. -/
theorem step?_cases (moves : config.step? action = some next) :
    (∃ client call, action = .start client call ∧ config.threads client = .idle ∧
      next = ⟨config.world, Function.update config.threads client
        (settle call (system.program call))⟩) ∨
    (∃ client outcome call command rest, action = .step client outcome ∧
      config.threads client = .running call (.call command rest) ∧
      next = ⟨(system.exec outcome command config.world).2,
        Function.update config.threads client
          (settle call (rest (system.exec outcome command config.world).1))⟩) ∨
    (∃ event, action = .environment event ∧
      next = ⟨system.environment event config.world, config.threads⟩) := by
  cases action with
  | start client call =>
    simp only [Config.step?] at moves
    split at moves
    · rename_i free
      exact .inl ⟨client, call, rfl, Thread.eq_idle free, (Option.some.inj moves).symm⟩
    · cases moves
  | step client outcome =>
    simp only [Config.step?] at moves
    split at moves
    · rename_i call command rest state
      exact .inr (.inl ⟨client, outcome, call, command, rest, rfl, state,
        (Option.some.inj moves).symm⟩)
    · cases moves
  | environment event =>
    exact .inr (.inr ⟨event, rfl, (Option.some.inj moves).symm⟩)

theorem settle_running {call call' : system.Call}
    {program : Program Command Reply (system.Result call)}
    {rest : Program Command Reply (system.Result call')}
    (state : settle call program = .running call' rest) :
    call = call' ∧ HEq program rest := by
  cases program with
  | done value => cases state
  | call command next =>
    simp only [settle, Thread.running.injEq] at state
    exact state

theorem settle_returned {call call' : system.Call}
    {program : Program Command Reply (system.Result call)} {value : system.Result call'}
    (state : settle call program = .returned call' value) :
    call = call' ∧ HEq program (.done value : Program Command Reply (system.Result call')) := by
  cases program with
  | done result =>
    simp only [settle, Thread.returned.injEq] at state
    obtain ⟨rfl, same⟩ := state
    cases same
    exact ⟨rfl, HEq.rfl⟩
  | call command next => cases state

/-- The value a client's call has returned. -/
def Config.answer? [DecidableEq system.Call] (config : system.Config) (client : Nat)
    (call : system.Call) : Option (system.Result call) :=
  match config.threads client with
  | .returned other value => if same : other = call then some (same ▸ value) else none
  | _ => none

theorem Config.returned_of_answer? [DecidableEq system.Call] {client : Nat} {call : system.Call}
    {value : system.Result call} (answered : config.answer? client call = some value) :
    config.threads client = .returned call value := by
  unfold Config.answer? at answered
  split at answered
  · rename_i other result state
    split at answered
    · rename_i same
      subst same
      cases Option.some.inj answered
      exact state
    · cases answered
  · cases answered

end System

end BrainMate.Interleaving
