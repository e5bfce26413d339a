import BrainMate.Interleaving.System

/-! Runs that are watched. Clients may crash between any two of their commands, and a
ghost notes what happens; nothing it notes changes the run. An observer gives each
client a phase, from the commands it was answered; a procedure that follows the
observer issues in each phase only commands that are allowed there. -/

namespace BrainMate.Interleaving

structure Observer (Command : Type) (Reply : Command → Type) where
  Phase : Type
  /-- The phase of a client outside its procedure. -/
  rest : Phase
  advance : Phase → (command : Command) → Reply command → Phase
  allowed : Phase → Command → Prop

namespace Observer

variable {Command : Type} {Reply : Command → Type} (observer : Observer Command Reply)
variable {α β : Type}

/-- Whatever the answers, the procedure issues only what is allowed, and ends in a phase
that suits its value. -/
def Follows (ends : α → observer.Phase → Prop) : observer.Phase → Program Command Reply α → Prop
  | phase, .done value => ends value phase
  | phase, .call command next => observer.allowed phase command ∧
      ∀ reply, Follows ends (observer.advance phase command reply) (next reply)

variable {observer} {phase : observer.Phase} {program : Program Command Reply α}
variable {ends : α → observer.Phase → Prop}

theorem Follows.bind {next : α → Program Command Reply β} {finally_ : β → observer.Phase → Prop}
    (first : observer.Follows ends phase program)
    (second : ∀ value phase, ends value phase → observer.Follows finally_ phase (next value)) :
    observer.Follows finally_ phase (program >>= next) := by
  induction program generalizing phase with
  | done value => exact second value phase first
  | call command continuation ih => exact ⟨first.1, fun reply => ih reply (first.2 reply)⟩

theorem Follows.imp {weaker : α → observer.Phase → Prop}
    (follows : observer.Follows ends phase program)
    (implies : ∀ value phase, ends value phase → weaker value phase) :
    observer.Follows weaker phase program := by
  induction program generalizing phase with
  | done value => exact implies value phase follows
  | call command next ih => exact ⟨follows.1, fun reply => ih reply (follows.2 reply)⟩

variable (observer) in
/-- A procedure whose commands are allowed in a phase and do not end it stays in it. -/
theorem follows_of_every {quiet : Command → Prop} (phase : observer.Phase)
    (allowed : ∀ command, quiet command → observer.allowed phase command)
    (stays : ∀ command reply, quiet command → observer.advance phase command reply = phase)
    (every : program.Every quiet) : observer.Follows (fun _ final => final = phase) phase program := by
  induction program with
  | done value => rfl
  | call command next ih =>
    refine ⟨allowed command every.1, fun reply => ?_⟩
    rw [stays command reply every.1]
    exact ih reply (every.2 reply)

/-- A procedure that has to leave the phases of a kind before it ends passes a command
that leaves them. -/
theorem Follows.passes {inside : observer.Phase → Prop}
    {kind : (command : Command) → Reply command → Prop}
    (follows : observer.Follows (fun _ final => ¬ inside final) phase program)
    (leaves : ∀ phase command reply, observer.allowed phase command → inside phase →
      ¬ inside (observer.advance phase command reply) → kind command reply)
    (within : inside phase) : program.Passes kind (fun _ => True) := by
  induction program generalizing phase with
  | done value => exact absurd within follows
  | call command next ih =>
    intro reply
    by_cases left : inside (observer.advance phase command reply)
    · exact .inr (ih reply (follows.2 reply) left)
    · exact .inl (leaves phase command reply follows.1 within left)

end Observer

namespace System

variable {Command : Type} {Reply : Command → Type} {system : System Command Reply}

variable (system) in
inductive Move where
  | act (action : system.Action)
  | crash (client : Nat)

def Config.move? (config : system.Config) : system.Move → Option system.Config
  | .act action => config.step? action
  | .crash client => some ⟨config.world, Function.update config.threads client .idle⟩

/-- The command a client issues next. -/
def Thread.next? : system.Thread → Option Command
  | .running _ (.call command _) => some command
  | _ => none

variable (system) in
structure Ghost where
  State : Type
  /-- A client's command is carried out in a world. -/
  exchange : State → Nat → Command → system.Outcome → system.World → State
  /-- A client crashes; the command is the one it did not come to issue. -/
  crash : State → Nat → Option Command → State

def Ghost.note (ghost : system.Ghost) (state : ghost.State) (config : system.Config) :
    system.Move → ghost.State
  | .act (.start _ _) | .act (.environment _) => state
  | .act (.step client outcome) =>
    match (config.threads client).next? with
    | some command => ghost.exchange state client command outcome config.world
    | none => state
  | .crash client => ghost.crash state client (config.threads client).next?

/-- A run with all its moves permitted, as far as the ghost and the configuration before
them tell. -/
inductive Watched (ghost : system.Ghost)
    (permitted : ghost.State → system.Config → system.Move → Prop) :
    ghost.State → system.Config → List system.Move → ghost.State → system.Config → Prop where
  | refl : Watched ghost permitted state config [] state config
  | step (allowed : permitted state config move) (moved : config.move? move = some next)
      (rest : Watched ghost permitted (ghost.note state config move) next moves final last) :
      Watched ghost permitted state config (move :: moves) final last

variable {ghost : system.Ghost} {permitted : ghost.State → system.Config → system.Move → Prop}
variable {state final : ghost.State} {config last : system.Config} {moves : List system.Move}

theorem Watched.invariant (holds : ghost.State → system.Config → Prop)
    (run : Watched ghost permitted state config moves final last)
    (kept : ∀ state config move next, permitted state config move → config.move? move = some next →
      holds state config → holds (ghost.note state config move) next)
    (initially : holds state config) : holds final last := by
  induction run with
  | refl => exact initially
  | step allowed moved _ ih => exact ih (kept _ _ _ _ allowed moved initially)

theorem Watched.trans {middle : ghost.State} {between : system.Config} {later : List system.Move}
    (run : Watched ghost permitted state config moves middle between)
    (rest : Watched ghost permitted middle between later final last) :
    Watched ghost permitted state config (moves ++ later) final last := by
  induction run with
  | refl => exact rest
  | step allowed moved _ ih => exact .step allowed moved (ih rest)

theorem Watched.imp {wider : ghost.State → system.Config → system.Move → Prop}
    (run : Watched ghost permitted state config moves final last)
    (implies : ∀ state config move, permitted state config move → wider state config move) :
    Watched ghost wider state config moves final last := by
  induction run with
  | refl => exact .refl
  | step allowed moved _ ih => exact .step (implies _ _ _ allowed) moved ih

/-- What an invariant adds to the permission of the moves. -/
theorem Watched.imp_of_invariant {wider : ghost.State → system.Config → system.Move → Prop}
    (holds : ghost.State → system.Config → Prop)
    (run : Watched ghost permitted state config moves final last)
    (kept : ∀ state config move next, permitted state config move → config.move? move = some next →
      holds state config → holds (ghost.note state config move) next)
    (implies : ∀ state config move, permitted state config move → holds state config →
      wider state config move) (initially : holds state config) :
    Watched ghost wider state config moves final last := by
  induction run with
  | refl => exact .refl
  | step allowed moved _ ih =>
    exact .step (implies _ _ _ allowed initially) moved (ih (kept _ _ _ _ allowed moved initially))

/-- Evaluate a list of moves, checking that each of them is permitted. -/
def Config.watch? (ghost : system.Ghost)
    (permitted : ghost.State → system.Config → system.Move → Prop)
    [∀ state config move, Decidable (permitted state config move)] (state : ghost.State)
    (config : system.Config) : List system.Move → Option (ghost.State × system.Config)
  | [] => some (state, config)
  | move :: rest =>
    if permitted state config move then
      (config.move? move).bind fun next =>
        next.watch? ghost permitted (ghost.note state config move) rest
    else none

theorem Watched.of_watch? [∀ state config move, Decidable (permitted state config move)]
    (evaluated : config.watch? ghost permitted state moves = some (final, last)) :
    Watched ghost permitted state config moves final last := by
  induction moves generalizing state config with
  | nil =>
    cases Option.some.inj evaluated
    exact .refl
  | cons move rest ih =>
    simp only [Config.watch?] at evaluated
    split at evaluated
    · rename_i allowed
      obtain ⟨next, moved, evaluated⟩ := Option.bind_eq_some_iff.mp evaluated
      exact .step allowed moved (ih evaluated)
    · cases evaluated

/-- A list of moves can be made and ends where the check succeeds. -/
theorem Watched.of_check (ghost : system.Ghost)
    (permitted : ghost.State → system.Config → system.Move → Prop)
    [∀ state config move, Decidable (permitted state config move)] (state : ghost.State)
    (config : system.Config) (moves : List system.Move)
    (check : ghost.State → system.Config → Bool)
    (evaluated : (config.watch? ghost permitted state moves).any (fun reached =>
      check reached.1 reached.2) = true) :
    ∃ final last, Watched ghost permitted state config moves final last ∧
      check final last = true := by
  obtain ⟨⟨final, last⟩, reached, checked⟩ := (Option.any_eq_true _ _).mp evaluated
  exact ⟨final, last, .of_watch? reached, checked⟩

/-- The four shapes of a move, with what the ghost makes of it. -/
theorem move?_cases (ghost : system.Ghost) (state : ghost.State) {move : system.Move}
    {next : system.Config} (moved : config.move? move = some next) :
    (∃ client call, move = .act (.start client call) ∧ config.threads client = .idle ∧
      next = ⟨config.world, Function.update config.threads client
        (settle call (system.program call))⟩ ∧
      ghost.note state config move = state) ∨
    (∃ client outcome call command rest, move = .act (.step client outcome) ∧
      config.threads client = .running call (.call command rest) ∧
      next = ⟨(system.exec outcome command config.world).2,
        Function.update config.threads client
          (settle call (rest (system.exec outcome command config.world).1))⟩ ∧
      ghost.note state config move =
        ghost.exchange state client command outcome config.world) ∨
    (∃ event, move = .act (.environment event) ∧
      next = ⟨system.environment event config.world, config.threads⟩ ∧
      ghost.note state config move = state) ∨
    (∃ client, move = .crash client ∧
      next = ⟨config.world, Function.update config.threads client .idle⟩ ∧
      ghost.note state config move =
        ghost.crash state client (config.threads client).next?) := by
  cases move with
  | crash client => exact .inr (.inr (.inr ⟨client, rfl, (Option.some.inj moved).symm, rfl⟩))
  | act action =>
    obtain ⟨client, call, rfl, idle, same⟩ |
      ⟨client, outcome, call, command, rest, rfl, running, same⟩ | ⟨event, rfl, same⟩ :=
      step?_cases moved
    · exact .inl ⟨client, call, rfl, idle, same, rfl⟩
    · refine .inr (.inl ⟨client, outcome, call, command, rest, rfl, running, same, ?_⟩)
      simp only [Ghost.note, running, Thread.next?]
    · exact .inr (.inr (.inl ⟨event, rfl, same, rfl⟩))

/-- The ghost knows the phase of each client. -/
structure Ghost.Phases (ghost : system.Ghost) (observer : Observer Command Reply) where
  phase : ghost.State → Nat → observer.Phase
  exchange_own : ∀ state client command outcome world,
    phase (ghost.exchange state client command outcome world) client =
      observer.advance (phase state client) command (system.exec outcome command world).1
  exchange_other : ∀ state client command outcome world other, other ≠ client →
    phase (ghost.exchange state client command outcome world) other = phase state other
  crash_own : ∀ state client next, phase (ghost.crash state client next) client = observer.rest
  crash_other : ∀ state client next other, other ≠ client →
    phase (ghost.crash state client next) other = phase state other

variable {observer : Observer Command Reply} (phases : ghost.Phases observer)

/-- The client that makes the move. -/
def Move.client? : system.Move → Option Nat
  | .act (.start client _) | .act (.step client _) | .crash client => some client
  | .act (.environment _) => none

/-- A client that makes no move keeps its thread. -/
theorem Watched.unmoved (run : Watched ghost permitted state config moves final last)
    {client : Nat} (still : ∀ move ∈ moves, move.client? ≠ some client) :
    last.threads client = config.threads client := by
  induction run with
  | refl => rfl
  | step _ moved _ ih =>
    rename_i state config move next _ _ _ _ _
    rw [ih fun move later => still move (.tail _ later)]
    have other := still move (.head _)
    obtain ⟨mover, call, rfl, _, rfl, _⟩ | ⟨mover, outcome, _, command, _, rfl, _, rfl, _⟩ |
      ⟨event, rfl, rfl, _⟩ | ⟨mover, rfl, rfl, _⟩ := move?_cases ghost state moved
    · exact Function.update_of_ne (fun same => other (congrArg some same.symm)) _ _
    · exact Function.update_of_ne (fun same => other (congrArg some same.symm)) _ _
    · rfl
    · exact Function.update_of_ne (fun same => other (congrArg some same.symm)) _ _

/-- A move of others leaves a client in its phase. -/
theorem Ghost.Phases.note_other {move : system.Move} {next : system.Config}
    (moved : config.move? move = some next) {client : Nat} (other : move.client? ≠ some client) :
    phases.phase (ghost.note state config move) client = phases.phase state client := by
  obtain ⟨mover, call, rfl, _, _, noted⟩ | ⟨mover, outcome, _, command, _, rfl, _, _, noted⟩ |
    ⟨event, rfl, _, noted⟩ | ⟨mover, rfl, _, noted⟩ := move?_cases ghost state moved
  · rw [noted]
  · rw [noted]
    exact phases.exchange_other _ _ _ _ _ _ fun same => other (congrArg some same.symm)
  · rw [noted]
  · rw [noted]
    exact phases.crash_other _ _ _ _ fun same => other (congrArg some same.symm)

/-- A client that makes no move stays in its phase. -/
theorem Ghost.Phases.unmoved (run : Watched ghost permitted state config moves final last)
    {client : Nat} (still : ∀ move ∈ moves, move.client? ≠ some client) :
    phases.phase final client = phases.phase state client := by
  induction run with
  | refl => rfl
  | step _ moved _ ih =>
    rw [ih fun move later => still move (.tail _ later)]
    exact phases.note_other moved (still _ (.head _))

/-- What is left of the procedure follows the observer. -/
def ThreadFollows (observer : Observer Command Reply) (phase : observer.Phase) :
    system.Thread → Prop
  | .idle => phase = observer.rest
  | .running _ program => observer.Follows (fun _ _ => True) phase program
  | .returned _ _ => True

theorem ThreadFollows.settle {phase : observer.Phase} {call : system.Call}
    {program : Program Command Reply (system.Result call)}
    (follows : observer.Follows (fun _ _ => True) phase program) :
    ThreadFollows observer phase (System.settle call program) := by
  cases program with
  | done value => trivial
  | call command next => exact follows

/-- The command that comes next is allowed. -/
theorem ThreadFollows.allowed {phase : observer.Phase} {thread : system.Thread} {command : Command}
    (follows : ThreadFollows observer phase thread) (next : thread.next? = some command) :
    observer.allowed phase command := by
  cases thread with
  | idle => cases next
  | returned call value => cases next
  | running call program =>
    cases program with
    | done value => cases next
    | call issued rest =>
      cases next
      exact follows.1

/-- What an invariant over the ghost and the world has to be shown to survive. Each
command may be taken to be allowed in the phase of its client. -/
structure Ghost.Phases.Keeps (permitted : ghost.State → system.Config → system.Move → Prop)
    (holds : ghost.State → system.World → Prop) : Prop where
  follows : ∀ state config client call, permitted state config (.act (.start client call)) →
    observer.Follows (fun _ _ => True) observer.rest (system.program call)
  command : ∀ state config client outcome call command rest,
    permitted state config (.act (.step client outcome)) →
    config.threads client = .running call (.call command rest) →
    observer.allowed (phases.phase state client) command → holds state config.world →
    holds (ghost.exchange state client command outcome config.world)
      (system.exec outcome command config.world).2
  event : ∀ state config event, permitted state config (.act (.environment event)) →
    holds state config.world → holds state (system.environment event config.world)
  crash : ∀ state config client, permitted state config (.crash client) →
    holds state config.world →
    holds (ghost.crash state client (config.threads client).next?) config.world

variable {phases} {holds : ghost.State → system.World → Prop}

theorem Ghost.Phases.Keeps.move (keeps : phases.Keeps permitted holds) {move : system.Move}
    {next : system.Config} (allowed : permitted state config move)
    (moved : config.move? move = some next)
    (following : ∀ client, ThreadFollows observer (phases.phase state client) (config.threads client))
    (holding : holds state config.world) :
    (∀ client, ThreadFollows observer (phases.phase (ghost.note state config move) client)
      (next.threads client)) ∧ holds (ghost.note state config move) next.world := by
  obtain ⟨client, call, rfl, idle, rfl, noted⟩ |
    ⟨client, outcome, call, command, rest, rfl, running, rfl, noted⟩ | ⟨event, rfl, rfl, noted⟩ |
    ⟨client, rfl, rfl, noted⟩ := move?_cases ghost state moved
  · have resting : phases.phase state client = observer.rest := by
      have own := following client
      rw [idle] at own
      exact own
    rw [noted]
    refine ⟨fun other => ?_, holding⟩
    by_cases own : other = client
    · subst own
      simp only [Function.update_self, resting]
      exact .settle (keeps.follows state config other call allowed)
    · simp only [Function.update_of_ne own]
      exact following other
  · have follows : observer.Follows (fun _ _ => True) (phases.phase state client)
        (.call command rest) := by
      have own := following client
      rw [running] at own
      exact own
    rw [noted]
    refine ⟨fun other => ?_, keeps.command state config client outcome call command rest allowed
      running follows.1 holding⟩
    by_cases own : other = client
    · subst own
      simp only [Function.update_self, phases.exchange_own]
      exact .settle (follows.2 _)
    · simp only [Function.update_of_ne own, phases.exchange_other _ _ _ _ _ other own]
      exact following other
  · rw [noted]
    exact ⟨following, keeps.event state config event allowed holding⟩
  · rw [noted]
    refine ⟨fun other => ?_, keeps.crash state config client allowed holding⟩
    by_cases own : other = client
    · subst own
      simp only [Function.update_self]
      exact phases.crash_own state other _
    · simp only [Function.update_of_ne own, phases.crash_other state client _ other own]
      exact following other

/-- What the moves keep holds after every run from idle clients. -/
theorem Ghost.Phases.Keeps.run (keeps : phases.Keeps permitted holds) {world : system.World}
    (run : Watched ghost permitted state (.initial world) moves final last)
    (resting : ∀ client, phases.phase state client = observer.rest)
    (initially : holds state world) : holds final last.world := by
  have both : (∀ client, ThreadFollows observer (phases.phase final client) (last.threads client)) ∧
      holds final last.world := by
    refine run.invariant (fun state config =>
      (∀ client, ThreadFollows observer (phases.phase state client) (config.threads client)) ∧
        holds state config.world) ?_ ⟨resting, initially⟩
    rintro state config move next allowed moved ⟨following, holding⟩
    exact keeps.move allowed moved following holding
  exact both.2

@[reducible] def ghostOf (system : System Command Reply) (observer : Observer Command Reply) :
    system.Ghost where
  State := Nat → observer.Phase
  exchange phases client command outcome world := Function.update phases client
    (observer.advance (phases client) command (system.exec outcome command world).1)
  crash phases client _ := Function.update phases client observer.rest

def phasesOf (system : System Command Reply) (observer : Observer Command Reply) :
    (system.ghostOf observer).Phases observer where
  phase := id
  exchange_own _ client _ _ _ := Function.update_self client _ _
  exchange_other _ _ _ _ _ _ different := Function.update_of_ne different _ _
  crash_own _ client _ := Function.update_self client _ _
  crash_other _ _ _ _ different := Function.update_of_ne different _ _

/-- What holds of every phase, with the client whose phase is new. -/
theorem update_phases {Phase : Type} {good : Phase → Prop} {phases : Nat → Phase}
    (every : ∀ client, good (phases client)) {client : Nat} {phase : Phase} (own : good phase)
    (other : Nat) : good (Function.update phases client phase other) := by
  by_cases same : other = client
  · rwa [same, Function.update_self]
  · rw [Function.update_of_ne same]
    exact every other

/-- What is left of the procedure ends in a phase that suits its value, or has done so. -/
def ThreadEnds (observer : Observer Command Reply)
    (ends : (call : system.Call) → system.Result call → observer.Phase → Prop)
    (phase : observer.Phase) : system.Thread → Prop
  | .idle => phase = observer.rest
  | .running call program => observer.Follows (ends call) phase program
  | .returned call value => ends call value phase

variable {ends : (call : system.Call) → system.Result call → observer.Phase → Prop}

theorem ThreadEnds.settle {phase : observer.Phase} {call : system.Call}
    {program : Program Command Reply (system.Result call)}
    (follows : observer.Follows (ends call) phase program) :
    ThreadEnds observer ends phase (System.settle call program) := by
  cases program with
  | done value => exact follows
  | call command next => exact follows

theorem Ghost.Phases.ends_move (phases : ghost.Phases observer) {move : system.Move}
    {next : system.Config} (moved : config.move? move = some next)
    (follows : ∀ call, observer.Follows (ends call) observer.rest (system.program call))
    (ending : ∀ client, ThreadEnds observer ends (phases.phase state client) (config.threads client))
    (client : Nat) :
    ThreadEnds observer ends (phases.phase (ghost.note state config move) client)
      (next.threads client) := by
  obtain ⟨mover, call, rfl, idle, rfl, noted⟩ |
    ⟨mover, outcome, call, command, rest, rfl, running, rfl, noted⟩ | ⟨event, rfl, rfl, noted⟩ |
    ⟨mover, rfl, rfl, noted⟩ := move?_cases ghost state moved
  · rw [noted]
    by_cases own : client = mover
    · subst own
      have resting : phases.phase state client = observer.rest := by
        have before := ending client
        rw [idle] at before
        exact before
      simp only [Function.update_self, resting]
      exact .settle (follows call)
    · simp only [Function.update_of_ne own]
      exact ending client
  · rw [noted]
    by_cases own : client = mover
    · subst own
      have before := ending client
      rw [running] at before
      simp only [Function.update_self, phases.exchange_own]
      exact .settle (before.2 _)
    · simp only [Function.update_of_ne own, phases.exchange_other _ _ _ _ _ client own]
      exact ending client
  · rw [noted]
    exact ending client
  · rw [noted]
    by_cases own : client = mover
    · subst own
      simp only [Function.update_self]
      exact phases.crash_own state client _
    · simp only [Function.update_of_ne own, phases.crash_other state mover _ client own]
      exact ending client

/-- In every run from idle clients each call ends as its procedure does. -/
theorem Ghost.Phases.run_ends (phases : ghost.Phases observer) {world : system.World}
    (run : Watched ghost permitted state (.initial world) moves final last)
    (follows : ∀ call, observer.Follows (ends call) observer.rest (system.program call))
    (resting : ∀ client, phases.phase state client = observer.rest) (client : Nat) :
    ThreadEnds observer ends (phases.phase final client) (last.threads client) := by
  refine run.invariant (fun state config => ∀ client,
    ThreadEnds observer ends (phases.phase state client) (config.threads client)) ?_ resting client
  intro state config move next _ moved ending
  exact phases.ends_move moved follows ending

end System

end BrainMate.Interleaving
