import BrainMate.Interleaving.System

namespace BrainMate.Interleaving

structure Protocol (Command : Type) (Reply : Command → Type) where
  Phase : Type
  /-- The phase of a client outside its procedure. -/
  rest : Phase
  moves : Phase → (command : Command) → Reply command → Phase → Prop

namespace Protocol

variable {Command : Type} {Reply : Command → Type} (protocol : Protocol Command Reply)
variable {α β : Type}

/-- Whatever the answers, the procedure moves as the protocol says and ends at rest. -/
def Conforms : protocol.Phase → Program Command Reply α → Prop
  | phase, .done _ => phase = protocol.rest
  | phase, .call command next => ∀ reply, ∃ moved,
      protocol.moves phase command reply moved ∧ Conforms moved (next reply)

variable {protocol}

theorem Conforms.bind {phase : protocol.Phase} {program : Program Command Reply α}
    {next : α → Program Command Reply β} (first : protocol.Conforms phase program)
    (second : ∀ value, protocol.Conforms protocol.rest (next value)) :
    protocol.Conforms phase (program >>= next) := by
  induction program generalizing phase with
  | done value =>
    have rested : phase = protocol.rest := first
    rw [rested]
    exact second value
  | call command continuation ih =>
    intro reply
    obtain ⟨moved, moves, conforms⟩ := first reply
    exact ⟨moved, moves, ih reply conforms⟩

/-- A procedure whose commands leave a client at rest conforms. -/
theorem conforms_of_every {program : Program Command Reply α} {quiet : Command → Prop}
    (rests : ∀ command reply, quiet command →
      protocol.moves protocol.rest command reply protocol.rest)
    (every : program.Every quiet) : protocol.Conforms protocol.rest program := by
  induction program with
  | done value => rfl
  | call command next ih =>
    intro reply
    exact ⟨protocol.rest, rests command reply every.1, ih reply (every.2 reply)⟩

variable {system : System Command Reply} {permitted : system.Config → system.Action → Prop}
variable {config next last : system.Config} {action : system.Action} {actions : List system.Action}

variable (protocol) in
def ThreadStands (phase : protocol.Phase) : system.Thread → Prop
  | .idle | .returned _ _ => phase = protocol.rest
  | .running _ program => protocol.Conforms phase program

variable (protocol) in
/-- Every client stands where its phase says. -/
def Stands (config : system.Config) (phases : Nat → protocol.Phase) : Prop :=
  ∀ client, protocol.ThreadStands (phases client) (config.threads client)

theorem stands_initial (world : system.World) :
    protocol.Stands (System.Config.initial world) (fun _ => protocol.rest) := fun _ => rfl

theorem ThreadStands.settle {phase : protocol.Phase} {call : system.Call}
    {program : Program Command Reply (system.Result call)}
    (conforms : protocol.Conforms phase program) :
    protocol.ThreadStands phase (System.settle call program) := by
  cases program with
  | done value => exact conforms
  | call command next => exact conforms

theorem Stands.moved {world : system.World} {phases : Nat → protocol.Phase} {client : Nat}
    {thread : system.Thread} {moved : protocol.Phase} (stands : protocol.Stands config phases)
    (own : protocol.ThreadStands moved thread) :
    protocol.Stands ⟨world, Function.update config.threads client thread⟩
      (Function.update phases client moved) := by
  intro other
  by_cases same : other = client
  · subst other
    simpa only [Function.update_self] using own
  · simpa only [Function.update_of_ne same] using stands other

/-- What a protocol asks of an invariant over the phases and the world. -/
structure Keeps (protocol : Protocol Command Reply)
    (permitted : system.Config → system.Action → Prop)
    (holds : (Nat → protocol.Phase) → system.World → Prop) : Prop where
  start : ∀ config client call, permitted config (.start client call) →
    protocol.Conforms protocol.rest (system.program call)
  command : ∀ config phases client outcome call command rest moved,
    permitted config (.step client outcome) → protocol.Stands config phases →
    config.threads client = .running call (.call command rest) →
    protocol.moves (phases client) command (system.exec outcome command config.world).1 moved →
    holds phases config.world →
    holds (Function.update phases client moved) (system.exec outcome command config.world).2
  event : ∀ config phases event, permitted config (.environment event) →
    protocol.Stands config phases → holds phases config.world →
    holds phases (system.environment event config.world)

variable {holds : (Nat → protocol.Phase) → system.World → Prop}

theorem Keeps.step {phases : Nat → protocol.Phase} (keeps : Keeps protocol permitted holds)
    (allowed : permitted config action) (moves : config.step? action = some next)
    (stands : protocol.Stands config phases) (holding : holds phases config.world) :
    ∃ phases', protocol.Stands next phases' ∧ holds phases' next.world := by
  obtain ⟨client, call, rfl, state, rfl⟩ |
    ⟨client, outcome, call, command, rest, rfl, state, rfl⟩ | ⟨event, rfl, rfl⟩ :=
    System.step?_cases moves
  · have rested : phases client = protocol.rest := by simpa [state, ThreadStands] using stands client
    have started : protocol.Stands
        ⟨config.world, Function.update config.threads client
          (System.settle call (system.program call))⟩
        (Function.update phases client protocol.rest) :=
      stands.moved (.settle (keeps.start config client call allowed))
    rw [← rested, Function.update_eq_self] at started
    exact ⟨phases, started, holding⟩
  · have own : protocol.Conforms (phases client) (.call command rest) := by
      simpa [state, ThreadStands] using stands client
    obtain ⟨moved, advances, continues⟩ := own (system.exec outcome command config.world).1
    exact ⟨_, stands.moved (.settle continues),
      keeps.command config phases client outcome call command rest moved allowed stands state
        advances holding⟩
  · exact ⟨phases, stands, keeps.event config phases event allowed stands holding⟩

/-- An invariant that the protocol keeps holds after every run from idle clients. -/
theorem Keeps.run {world : system.World} (keeps : Keeps protocol permitted holds)
    (run : System.Run permitted (.initial world) actions last)
    (initially : holds (fun _ => protocol.rest) world) :
    ∃ phases, protocol.Stands last phases ∧ holds phases last.world := by
  refine run.invariant
    (fun config => ∃ phases, protocol.Stands config phases ∧ holds phases config.world) ?_ ?_
  · rintro config action next allowed moves ⟨phases, stands, holding⟩
    exact keeps.step allowed moves stands holding
  · exact ⟨_, stands_initial world, initially⟩

end Protocol

end BrainMate.Interleaving
