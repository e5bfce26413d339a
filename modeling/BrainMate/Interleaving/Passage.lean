import BrainMate.Interleaving.System

namespace BrainMate.Interleaving

namespace Program

variable {Command : Type} {Reply : Command → Type} {α β : Type}
variable {kind : (command : Command) → Reply command → Prop}

theorem Passes.of_never (program : Program Command Reply α) :
    program.Passes kind (fun _ => False) := by
  induction program with
  | done value => exact id
  | call command next ih => exact fun reply => .inr (ih reply)

theorem Passes.bind {middle : α → Prop} {ends : β → Prop} {program : Program Command Reply α}
    {next : α → Program Command Reply β} (first : program.Passes kind middle)
    (rest : ∀ value, ¬ middle value → (next value).Passes kind ends) :
    (program >>= next).Passes kind ends := by
  induction program with
  | done value => exact rest value first
  | call command continuation ih => exact fun reply => (first reply).imp id (ih reply)

end Program

namespace System

variable {Command : Type} {Reply : Command → Type} {system : System Command Reply}

/-- Events happen in this order along a run. -/
inductive Happens (permitted : system.Config → system.Action → Prop) :
    List (system.Config → system.Action → system.Config → Prop) →
      system.Config → List system.Action → system.Config → Prop where
  | none (run : Run permitted config actions last) : Happens permitted [] config actions last
  | next (run : Run permitted config earlier before) (allowed : permitted before action)
      (moves : before.step? action = some after) (event : happened before action after)
      (rest : Happens permitted events after later last) :
      Happens permitted (happened :: events) config (earlier ++ action :: later) last

variable {permitted : system.Config → system.Action → Prop}
variable {config next last : system.Config} {action : system.Action}
variable {actions later : List system.Action}
variable {events : List (system.Config → system.Action → system.Config → Prop)}

theorem Happens.after_step {happened : system.Config → system.Action → system.Config → Prop}
    (allowed : permitted config action) (moves : config.step? action = some next)
    (rest : Happens permitted (happened :: events) next later last) :
    Happens permitted (happened :: events) config (action :: later) last := by
  cases rest with
  | next run permits occurs event rest =>
    exact .next (.step allowed moves run) permits occurs event rest

theorem Happens.single {happened : system.Config → system.Action → system.Config → Prop}
    (happens : Happens permitted [happened] config actions last) :
    ∃ earlier action later before after, actions = earlier ++ action :: later ∧
      Run permitted config earlier before ∧ permitted before action ∧
      before.step? action = some after ∧ happened before action after ∧
      Run permitted after later last := by
  cases happens with
  | next start allowed moves event rest =>
    cases rest with
    | none finish => exact ⟨_, _, _, _, _, rfl, start, allowed, moves, event, finish⟩

/-- An assertion that holds before a run and not after it is broken by a step. -/
theorem Run.breaks (assertion : system.Config → Prop) (run : Run permitted config actions last)
    (holds : assertion config) (broken : ¬ assertion last) :
    Happens permitted [fun before _ after => assertion before ∧ ¬ assertion after]
      config actions last := by
  induction run with
  | refl => exact absurd holds broken
  | @step config action next actions last allowed moves rest ih =>
    by_cases kept : assertion next
    · exact (ih kept broken).after_step allowed moves
    · exact .next .refl allowed moves ⟨holds, kept⟩ (.none rest)

/-- The client's call has yet to pass a command of the kind before it can return
a value with the property. -/
structure Owes (kind : (command : Command) → Reply command → Prop) (client : Nat)
    (call : system.Call) (ends : system.Result call → Prop) (config : system.Config) : Prop where
  running : ∀ rest, config.threads client = .running call rest → rest.Passes kind ends
  returned : ∀ value, config.threads client = .returned call value → ¬ ends value

/-- The client issues a command of the kind and gets such an answer. -/
def PassesCommand (kind : (command : Command) → Reply command → Prop) (client : Nat)
    (before : system.Config) (action : system.Action) (_ : system.Config) : Prop :=
  ∃ outcome call command rest, action = .step client outcome ∧
    before.threads client = .running call (.call command rest) ∧
    kind command (system.exec outcome command before.world).1

variable {kind : (command : Command) → Reply command → Prop} {client other : Nat}
variable {call : system.Call}

/-- The step of one client leaves the others where they are. -/
theorem PassesCommand.others (passed : PassesCommand kind client config action next)
    (moves : config.step? action = some next) (different : other ≠ client) :
    next.threads other = config.threads other := by
  obtain ⟨outcome, call, command, rest, rfl, state, _⟩ := passed
  simp only [Config.step?, state, Option.some.injEq] at moves
  subst moves
  exact Function.update_of_ne different _ _

variable {ends : system.Result call → Prop}

theorem Owes.of_idle (idle : config.threads client = .idle) : Owes kind client call ends config :=
  ⟨by simp [idle], by simp [idle]⟩

theorem Owes.congr (owes : Owes kind client call ends config)
    (same : next.threads client = config.threads client) : Owes kind client call ends next :=
  ⟨fun rest state => owes.running rest (same ▸ state),
    fun value state => owes.returned value (same ▸ state)⟩

theorem Owes.of_settle {other : system.Call} {program : Program Command Reply (system.Result other)}
    (state : next.threads client = settle other program)
    (passes : ∀ same : other = call, Program.Passes kind ends (same ▸ program)) :
    Owes kind client call ends next := by
  constructor
  · intro rest running
    obtain ⟨rfl, same⟩ := settle_running (state ▸ running)
    cases same
    exact passes rfl
  · intro value returned
    obtain ⟨rfl, same⟩ := settle_returned (state ▸ returned)
    cases same
    exact passes rfl

theorem Owes.step (starts : (system.program call).Passes kind ends)
    (owes : Owes kind client call ends config) (moves : config.step? action = some next) :
    Owes kind client call ends next ∨ PassesCommand kind client config action next := by
  obtain ⟨mover, other, rfl, state, rfl⟩ |
    ⟨mover, outcome, other, command, rest, rfl, state, rfl⟩ | ⟨event, rfl, rfl⟩ := step?_cases moves
  · by_cases same : client = mover
    · subst mover
      refine .inl (.of_settle (Function.update_self client _ _) ?_)
      intro same
      cases same
      exact starts
    · exact .inl (owes.congr (by simp [Function.update_of_ne same]))
  · by_cases same : client = mover
    · subst mover
      by_cases known : kind command (system.exec outcome command config.world).1
      · exact .inr ⟨outcome, other, command, rest, rfl, state, known⟩
      · refine .inl (.of_settle (Function.update_self client _ _) ?_)
        intro same
        cases same
        exact (owes.running _ state _).resolve_left known
    · exact .inl (owes.congr (by simp [Function.update_of_ne same]))
  · exact .inl (owes.congr rfl)

/-- A call that owed a command of the kind before a run and not after it passed
such a command during the run. -/
theorem Run.passes (run : Run permitted config actions last)
    (starts : (system.program call).Passes kind ends) (owes : Owes kind client call ends config)
    (settled : ¬ Owes kind client call ends last) :
    Happens permitted [PassesCommand kind client] config actions last := by
  obtain ⟨_, _, _, _, _, rfl, start, allowed, moves, ⟨owed, passed⟩, finish⟩ :=
    (run.breaks (Owes kind client call ends) owes settled).single
  exact .next start allowed moves ((owed.step starts moves).resolve_left passed) (.none finish)

end System

end BrainMate.Interleaving
