import BrainMate.Interleaving.System

namespace BrainMate.Interleaving.System

variable {Command : Type} {Reply : Command → Type} {system : System Command Reply}

/-- A command with the way the world dealt with it and its answer. -/
structure Exchange (system : System Command Reply) where
  command : Command
  outcome : system.Outcome
  reply : Reply command

/-- A procedure executed without interruption; `elapses` is what the world may do
before each command. -/
inductive Executes {α : Type} (elapses : system.World → system.World → Prop) :
    Program Command Reply α → system.World → List system.Exchange → α → system.World → Prop where
  | done (value : α) (world : system.World) : Executes elapses (.done value) world [] value world
  | call {command : Command} {next : Reply command → Program Command Reply α}
      {world middle last : system.World} {trace : List system.Exchange} {value : α}
      (waits : elapses world middle) (outcome : system.Outcome)
      (rest : Executes elapses (next (system.exec outcome command middle).1)
        (system.exec outcome command middle).2 trace value last) :
      Executes elapses (.call command next) world
        (⟨command, outcome, (system.exec outcome command middle).1⟩ :: trace) value last

variable {α β : Type} {elapses : system.World → system.World → Prop}
variable {world middle last : system.World} {trace : List system.Exchange} {value : α}

theorem Executes.of_done {result : α} (executes : Executes elapses (.done result) world trace value last) :
    value = result ∧ last = world ∧ trace = [] := by
  cases executes
  exact ⟨rfl, rfl, rfl⟩

theorem Executes.of_call {command : Command} {next : Reply command → Program Command Reply α}
    (executes : Executes elapses (.call command next) world trace value last) :
    ∃ middle outcome later, elapses world middle ∧
      trace = ⟨command, outcome, (system.exec outcome command middle).1⟩ :: later ∧
      Executes elapses (next (system.exec outcome command middle).1)
        (system.exec outcome command middle).2 later value last := by
  cases executes with
  | call waits outcome rest => exact ⟨_, outcome, _, waits, rfl, rest⟩

theorem Executes.of_bind {program : Program Command Reply α} {next : α → Program Command Reply β}
    {result : β} (executes : Executes elapses (program >>= next) world trace result last) :
    ∃ earlier later value middle, trace = earlier ++ later ∧
      Executes elapses program world earlier value middle ∧
      Executes elapses (next value) middle later result last := by
  induction program generalizing world trace with
  | done value => exact ⟨[], trace, value, world, rfl, .done value world, executes⟩
  | call command continuation ih =>
    obtain ⟨middle, outcome, rest, waits, rfl, continues⟩ := Executes.of_call executes
    obtain ⟨earlier, later, value, between, rfl, first, second⟩ := ih _ continues
    exact ⟨_ :: earlier, later, value, between, rfl, .call waits outcome first, second⟩

theorem Executes.mono {program : Program Command Reply α} {longer : system.World → system.World → Prop}
    (executes : Executes elapses program world trace value last)
    (weaker : ∀ first second, elapses first second → longer first second) :
    Executes longer program world trace value last := by
  induction executes with
  | done value world => exact .done value world
  | call waits outcome _ ih => exact .call (weaker _ _ waits) outcome ih

/-- A procedure executed without interruption whose first command meets the given world. -/
inductive Meets {α : Type} (elapses : system.World → system.World → Prop) (met : system.World) :
    Program Command Reply α → system.World → List system.Exchange → α → system.World → Prop where
  | done (value : α) (world : system.World) : Meets elapses met (.done value) world [] value world
  | call {command : Command} {next : Reply command → Program Command Reply α}
      {world last : system.World} {trace : List system.Exchange} {value : α}
      (waits : elapses world met) (outcome : system.Outcome)
      (rest : Executes elapses (next (system.exec outcome command met).1)
        (system.exec outcome command met).2 trace value last) :
      Meets elapses met (.call command next) world
        (⟨command, outcome, (system.exec outcome command met).1⟩ :: trace) value last

theorem Executes.meets {program : Program Command Reply α}
    (executes : Executes elapses program world trace value last) :
    ∃ met, Meets elapses met program world trace value last := by
  cases executes with
  | done value world => exact ⟨world, .done value world⟩
  | call waits outcome rest => exact ⟨_, .call waits outcome rest⟩

theorem Meets.of_done {met : system.World} {result : α}
    (meets : Meets elapses met (.done result) world trace value last) :
    value = result ∧ last = world ∧ trace = [] := by
  cases meets
  exact ⟨rfl, rfl, rfl⟩

theorem Meets.of_call {met : system.World} {command : Command}
    {next : Reply command → Program Command Reply α}
    (meets : Meets elapses met (.call command next) world trace value last) :
    ∃ outcome later, elapses world met ∧
      trace = ⟨command, outcome, (system.exec outcome command met).1⟩ :: later ∧
      Executes elapses (next (system.exec outcome command met).1)
        (system.exec outcome command met).2 later value last := by
  cases meets with
  | call waits outcome rest => exact ⟨outcome, _, waits, rfl, rest⟩

/-- A relation that the passing of time and the commands of a kind respect. -/
structure Tolerates (system : System Command Reply)
    (elapses related : system.World → system.World → Prop) (property : Command → Prop) : Prop where
  refl : ∀ world, related world world
  trans : ∀ {first second third}, related first second → related second third →
    related first third
  elapse : ∀ {first second}, elapses first second → related first second
  command : ∀ {command}, property command → ∀ outcome world,
    related world (system.exec outcome command world).2

variable {related : system.World → system.World → Prop} {property narrower : Command → Prop}
variable {program : Program Command Reply α}

theorem Tolerates.restrict (tolerates : Tolerates system elapses related property)
    (fewer : ∀ {command}, narrower command → property command) :
    Tolerates system elapses related narrower :=
  ⟨tolerates.refl, tolerates.trans, tolerates.elapse, fun kind => tolerates.command (fewer kind)⟩

/-- What every command respects, the execution respects. -/
theorem Executes.respects (tolerates : Tolerates system elapses related property)
    (every : program.Every property) (executes : Executes elapses program world trace value last) :
    related world last := by
  induction program generalizing world trace with
  | done result =>
    obtain ⟨_, rfl, _⟩ := executes.of_done
    exact tolerates.refl last
  | call command next ih =>
    obtain ⟨middle, outcome, later, waits, _, continues⟩ := executes.of_call
    exact tolerates.trans (tolerates.elapse waits)
      (tolerates.trans (tolerates.command every.1 outcome middle) (ih _ (every.2 _) continues))

theorem Executes.trace_every (every : program.Every property)
    (executes : Executes elapses program world trace value last) :
    ∀ exchange ∈ trace, property exchange.command := by
  induction program generalizing world trace with
  | done result =>
    obtain ⟨_, _, rfl⟩ := executes.of_done
    exact fun _ impossible => by cases impossible
  | call command next ih =>
    obtain ⟨middle, outcome, later, _, rfl, continues⟩ := executes.of_call
    intro exchange member
    rcases List.mem_cons.mp member with rfl | later
    · exact every.1
    · exact ih _ (every.2 _) continues exchange later

theorem Executes.ends {property : α → Prop} (ends : program.Ends property)
    (executes : Executes elapses program world trace value last) : property value := by
  induction executes with
  | done value world => exact ends
  | call _ _ _ ih => exact ih (ends _)

/-- Serve a procedure at one instant, every command having the same outcome. -/
def serveAll (system : System Command Reply) (outcome : system.Outcome) :
    Program Command Reply α → system.World → List system.Exchange × α × system.World
  | .done value, world => ([], value, world)
  | .call command next, world =>
    let (reply, after) := system.exec outcome command world
    let (trace, value, last) := serveAll system outcome (next reply) after
    (⟨command, outcome, reply⟩ :: trace, value, last)

theorem serveAll_bind (outcome : system.Outcome) (program : Program Command Reply α)
    (next : α → Program Command Reply β) (world : system.World) :
    (system.serveAll outcome (program >>= next) world).2 =
      (system.serveAll outcome (next (system.serveAll outcome program world).2.1)
        (system.serveAll outcome program world).2.2).2 := by
  induction program generalizing world with
  | done value => rfl
  | call command rest ih => exact ih _ _

theorem serveAll_outcome (outcome : system.Outcome) (program : Program Command Reply α)
    (world : system.World) :
    ∀ exchange ∈ (system.serveAll outcome program world).1, exchange.outcome = outcome := by
  induction program generalizing world with
  | done value => simp [serveAll]
  | call command next ih =>
    intro exchange member
    rcases List.mem_cons.mp member with rfl | later
    · rfl
    · exact ih _ _ exchange later

variable (system) in
theorem executes_serveAll (outcome : system.Outcome) (program : Program Command Reply α)
    (world : system.World) :
    Executes Eq program world (system.serveAll outcome program world).1
      (system.serveAll outcome program world).2.1 (system.serveAll outcome program world).2.2 := by
  induction program generalizing world with
  | done value => exact .done value world
  | call command next ih => exact .call rfl outcome (ih _ _)

/-- Serve a procedure at one instant, the outcome of each command given by a pattern. -/
def serveBy (system : System Command Reply) (pattern : Command → system.Outcome) :
    Program Command Reply α → system.World → List system.Exchange × α × system.World
  | .done value, world => ([], value, world)
  | .call command next, world =>
    let (reply, after) := system.exec (pattern command) command world
    let (trace, value, last) := serveBy system pattern (next reply) after
    (⟨command, pattern command, reply⟩ :: trace, value, last)

variable {pattern : Command → system.Outcome}

variable (pattern) in
theorem serveBy_bind (program : Program Command Reply α) (next : α → Program Command Reply β)
    (world : system.World) :
    (system.serveBy pattern (program >>= next) world).2 =
      (system.serveBy pattern (next (system.serveBy pattern program world).2.1)
        (system.serveBy pattern program world).2.2).2 := by
  induction program generalizing world with
  | done value => rfl
  | call command rest ih => exact ih _ _

theorem serveBy_outcome (program : Program Command Reply α) (world : system.World) :
    ∀ exchange ∈ (system.serveBy pattern program world).1,
      exchange.outcome = pattern exchange.command := by
  induction program generalizing world with
  | done value => simp [serveBy]
  | call command next ih =>
    intro exchange member
    rcases List.mem_cons.mp member with rfl | later
    · rfl
    · exact ih _ _ exchange later

variable (system) in
theorem executes_serveBy (pattern : Command → system.Outcome) (program : Program Command Reply α)
    (world : system.World) :
    Executes Eq program world (system.serveBy pattern program world).1
      (system.serveBy pattern program world).2.1 (system.serveBy pattern program world).2.2 := by
  induction program generalizing world with
  | done value => exact .done value world
  | call command next ih => exact .call rfl (pattern command) (ih _ _)

end BrainMate.Interleaving.System
