import BrainMate.Interleaving.Exceptions
import BrainMate.Interleaving.Sequential

namespace BrainMate.Interleaving

/-- The command a procedure issues next. -/
def Program.head? {Command : Type} {Reply : Command → Type} {α : Type} :
    Program Command Reply α → Option Command
  | .done _ => none
  | .call command _ => some command

namespace System

variable {Command : Type} {Reply : Command → Type} {system : System Command Reply}
variable {α β : Type} {elapses : system.World → system.World → Prop}

/-- A procedure executed without interruption up to what is left of it. -/
inductive Reaches (elapses : system.World → system.World → Prop) :
    Program Command Reply α → system.World → List system.Exchange → Program Command Reply α →
      system.World → Prop where
  | here {program : Program Command Reply α} {world middle : system.World}
      (waits : elapses world middle) : Reaches elapses program world [] program middle
  | call {command : Command} {next : Reply command → Program Command Reply α}
      {world middle last : system.World} {trace : List system.Exchange}
      {left : Program Command Reply α} (waits : elapses world middle) (outcome : system.Outcome)
      (rest : Reaches elapses (next (system.exec outcome command middle).1)
        (system.exec outcome command middle).2 trace left last) :
      Reaches elapses (.call command next) world
        (⟨command, outcome, (system.exec outcome command middle).1⟩ :: trace) left last

variable {world last : system.World} {trace : List system.Exchange}
variable {program left : Program Command Reply α} {property : Command → Prop} {command : Command}

/-- What is left of a procedure issues nothing that the procedure does not. -/
theorem Reaches.every (reaches : Reaches elapses program world trace left last)
    (every : program.Every property) : left.Every property := by
  induction reaches with
  | here waits => exact every
  | call waits outcome _ ih => exact ih (every.2 _)

theorem head_of_every (every : left.Every property) (headed : left.head? = some command) :
    property command := by
  cases left with
  | done value => cases headed
  | call other next =>
    cases headed
    exact every.1

/-- A command that the first part does not issue is reached after it. -/
theorem Reaches.past {next : α → Program Command Reply β} {left : Program Command Reply β}
    (reaches : Reaches elapses (program >>= next) world trace left last)
    (headed : left.head? = some command) (every : program.Every (· ≠ command)) :
    ∃ earlier later value middle, trace = earlier ++ later ∧
      Executes elapses program world earlier value middle ∧
      Reaches elapses (next value) middle later left last := by
  induction program generalizing world trace with
  | done value => exact ⟨[], trace, value, world, rfl, .done value world, reaches⟩
  | call other continuation ih =>
    cases reaches with
    | here waits =>
      cases headed
      exact absurd rfl every.1
    | call waits outcome rest =>
      obtain ⟨earlier, later, value, middle, rfl, first, second⟩ := ih _ rest (every.2 _)
      exact ⟨_ :: earlier, later, value, middle, rfl, .call waits outcome first, second⟩

/-- A first command that does not come again is reached at once. -/
theorem Reaches.first {next : Reply command → Program Command Reply α}
    (reaches : Reaches elapses (.call command next) world trace left last)
    (headed : left.head? = some command) (every : ∀ reply, (next reply).Every (· ≠ command)) :
    trace = [] ∧ elapses world last := by
  cases reaches with
  | here waits => exact ⟨rfl, waits⟩
  | call waits outcome rest =>
    have other := head_of_every (rest.every (every _)) headed
    exact absurd rfl other

/-- A command that the second part does not issue is reached in the first. -/
theorem Reaches.within {next : α → Program Command Reply β} {left : Program Command Reply β}
    (reaches : Reaches elapses (program >>= next) world trace left last)
    (headed : left.head? = some command) (every : ∀ value, (next value).Every (· ≠ command)) :
    ∃ rest : Program Command Reply α, Reaches elapses program world trace rest last ∧
      rest.head? = some command := by
  induction program generalizing world trace with
  | done value =>
    have other := head_of_every (reaches.every (every value)) headed
    exact absurd rfl other
  | call first continuation ih =>
    cases reaches with
    | here waits => exact ⟨_, .here waits, headed⟩
    | call waits outcome rest =>
      obtain ⟨left, reached, headed⟩ := ih _ rest
      exact ⟨left, .call waits outcome reached, headed⟩

/-- Execute a procedure at one instant, as long as outcomes are given for its commands. -/
def reach? (system : System Command Reply) :
    List system.Outcome → Program Command Reply α → system.World →
      Option (List system.Exchange × Program Command Reply α × system.World)
  | [], program, world => some ([], program, world)
  | _ :: _, .done _, _ => none
  | outcome :: outcomes, .call command next, world =>
    let (reply, after) := system.exec outcome command world
    (reach? system outcomes (next reply) after).map fun (trace, left, last) =>
      (⟨command, outcome, reply⟩ :: trace, left, last)

theorem Reaches.of_reach? (still : ∀ world, elapses world world) {outcomes : List system.Outcome}
    (reached : system.reach? outcomes program world = some (trace, left, last)) :
    Reaches elapses program world trace left last := by
  induction outcomes generalizing program world trace with
  | nil =>
    cases reached
    exact .here (still _)
  | cons outcome outcomes ih =>
    cases program with
    | done value => cases reached
    | call command next =>
      obtain ⟨⟨later, rest, final⟩, continues, same⟩ := Option.map_eq_some_iff.mp reached
      cases same
      exact .call (still world) outcome (ih continues)

variable {ε : Type} {body : ExceptT ε (Program Command Reply) α}

/-- A body that is served to its end is followed by what comes after it. -/
theorem serveAll_andThen {outcome : system.Outcome} {next : α → ExceptT ε (Program Command Reply) β}
    {value : α} (served : (system.serveAll outcome body.run world).2 = (.ok value, middle)) :
    (system.serveAll outcome (body >>= next).run world).2 =
      (system.serveAll outcome (next value).run middle).2 := by
  refine (serveAll_bind outcome body.run _ world).trans ?_
  rw [served]
  rfl

theorem serveAll_rescue {outcome : system.Outcome}
    {handler : ε → ExceptT ε (Program Command Reply) α} {value : α}
    (served : (system.serveAll outcome body.run world).2 = (.ok value, middle)) :
    (system.serveAll outcome (Program.rescue body handler).run world).2 = (.ok value, middle) := by
  refine (serveAll_bind outcome body.run _ world).trans ?_
  rw [served]
  rfl

theorem Executes.of_andThen {next : α → ExceptT ε (Program Command Reply) β} {value : β}
    (executes : Executes elapses (body >>= next).run world trace (.ok value) last) :
    ∃ earlier later result middle, trace = earlier ++ later ∧
      Executes elapses body.run world earlier (.ok result) middle ∧
      Executes elapses (next result).run middle later (.ok value) last := by
  obtain ⟨earlier, later, result, middle, rfl, first, second⟩ := Executes.of_bind executes
  rcases result with failure | result
  · cases (Executes.of_done second).1
  · exact ⟨earlier, later, result, middle, rfl, first, second⟩

/-- A command that the body does not issue is issued after it, if at all. -/
theorem Executes.past_body {next : α → ExceptT ε (Program Command Reply) β} {result : Except ε β}
    (executes : Executes elapses (body >>= next).run world trace result last)
    (every : body.run.Every fun command => ¬ property command)
    (issued : ∃ exchange ∈ trace, property exchange.command) :
    ∃ earlier later value middle, trace = earlier ++ later ∧
      Executes elapses body.run world earlier (.ok value) middle ∧
      Executes elapses (next value).run middle later result last ∧
      ∃ exchange ∈ later, property exchange.command := by
  obtain ⟨earlier, later, value, middle, rfl, first, second⟩ := Executes.of_bind executes
  have late : ∃ exchange ∈ later, property exchange.command := by
    obtain ⟨exchange, member, holds⟩ := issued
    rcases List.mem_append.mp member with early | late
    · exact absurd holds (first.trace_every every exchange early)
    · exact ⟨exchange, late, holds⟩
  rcases value with failure | value
  · obtain ⟨_, _, rfl⟩ := Executes.of_done second
    obtain ⟨_, member, _⟩ := late
    cases member
  · exact ⟨earlier, later, value, middle, rfl, first, second, late⟩

theorem Reaches.past_body {next : α → ExceptT ε (Program Command Reply) β}
    {left : Program Command Reply (Except ε β)}
    (reaches : Reaches elapses (body >>= next).run world trace left last)
    (headed : left.head? = some command) (every : body.run.Every (· ≠ command)) :
    ∃ earlier later result middle, trace = earlier ++ later ∧
      Executes elapses body.run world earlier (.ok result) middle ∧
      Reaches elapses (next result).run middle later left last := by
  obtain ⟨earlier, later, result, middle, rfl, first, second⟩ := Reaches.past reaches headed every
  rcases result with failure | result
  · cases second with
    | here waits => cases headed
  · exact ⟨earlier, later, result, middle, rfl, first, second⟩

theorem Reaches.within_rescue {handler : ε → ExceptT ε (Program Command Reply) α}
    {left : Program Command Reply (Except ε α)}
    (reaches : Reaches elapses (Program.rescue body handler).run world trace left last)
    (headed : left.head? = some command)
    (every : ∀ failure, (handler failure).run.Every (· ≠ command)) :
    ∃ rest, Reaches elapses body.run world trace rest last ∧ rest.head? = some command := by
  refine Reaches.within reaches headed ?_
  rintro (failure | value)
  · exact every failure
  · trivial

theorem Reaches.within_ensuring {cleanup : ExceptT ε (Program Command Reply) Unit}
    {left : Program Command Reply (Except ε α)}
    (reaches : Reaches elapses (Program.ensuring body cleanup).run world trace left last)
    (headed : left.head? = some command) (every : cleanup.run.Every (· ≠ command)) :
    ∃ rest, Reaches elapses body.run world trace rest last ∧ rest.head? = some command := by
  refine Reaches.within reaches headed fun result => Program.Every.bind every ?_
  rintro (failure | _) <;> trivial

end System

end BrainMate.Interleaving
