import BrainMate.Interleaving.Outline
import BrainMate.Interleaving.Partition

namespace BrainMate.Interleaving

variable {Command : Type} {Reply : Command → Type} {α β : Type}

/-- On every path on which the replies are as the facts say, each command has the property, and the
path ends in such a value. -/
def Program.Obeys (property : Command → Prop) (fact : (command : Command) → Reply command → Prop)
    (ends : α → Prop) : Program Command Reply α → Prop
  | .done value => ends value
  | .call command next =>
    property command ∧ ∀ reply, fact command reply → (next reply).Obeys property fact ends

abbrev Program.EndsGiven (fact : (command : Command) → Reply command → Prop) (ends : α → Prop)
    (program : Program Command Reply α) : Prop := program.Obeys (fun _ => True) fact ends

variable {property : Command → Prop} {fact : (command : Command) → Reply command → Prop}
variable {ends : α → Prop}

theorem Program.Obeys.bind {middle : α → Prop} {ends : β → Prop} {program : Program Command Reply α}
    {next : α → Program Command Reply β} (first : program.Obeys property fact middle)
    (rest : ∀ value, middle value → (next value).Obeys property fact ends) :
    (program >>= next).Obeys property fact ends := by
  induction program with
  | done value => exact rest value first
  | call command continuation ih => exact ⟨first.1, fun reply known => ih reply (first.2 reply known)⟩

theorem Program.Obeys.of_every {program : Program Command Reply α} (every : program.Every property)
    (always : ∀ value, ends value) : program.Obeys property fact ends := by
  induction program with
  | done value => exact always value
  | call command next ih => exact ⟨every.1, fun reply _ => ih reply (every.2 reply)⟩

namespace System

variable {system : System Command Reply}

variable (system) in
def issuing (property : Command → Prop) : system.Rules where
  admits _ command _ := property command
  occurs _ _ := True

theorem stable_issuing {assertion : system.World → Prop}
    (command : ∀ {world command} outcome, property command → assertion world →
      assertion (system.exec outcome command world).2)
    (event : ∀ {world} event, assertion world → assertion (system.environment event world)) :
    (issuing system property).Stable assertion :=
  ⟨fun _ _ outcome admitted _ holds => command outcome admitted holds,
    fun _ happens _ holds => event happens holds⟩

/-- The facts that a stable assertion gives of the replies may be used up to the end. -/
theorem Rules.Outline.obeys {rules : system.Rules} {now : system.World → Prop}
    {program : Program Command Reply α} (stable : rules.Stable now)
    (learns : ∀ world command outcome, now world → rules.admits world command outcome →
      property command → rules.ensures world command outcome ∧
        fact command (system.exec outcome command world).1)
    (obeys : program.Obeys property fact ends) :
    rules.Outline now (fun value _ => ends value) program := by
  induction program with
  | done value => exact fun _ _ => obeys
  | call command next ih =>
    refine .learn (fact command) stable (fun world outcome holds admitted => ?_) fun reply known => ?_
    · exact learns world command outcome holds admitted obeys.1
    · exact ih reply (obeys.2 reply known)

variable {permitted : system.Config → system.Action → Prop} {config last : system.Config}
variable {actions : List system.Action}

theorem Thread.every_step {action : system.Action} {next : system.Config}
    (calls : ∀ call, (system.program call).Every property)
    (moves : config.step? action = some next)
    (every : ∀ client, (config.threads client).Every property) (client : Nat) :
    (next.threads client).Every property := by
  obtain ⟨mover, call, rfl, -, rfl⟩ | ⟨mover, outcome, call, command, rest, rfl, running, rfl⟩ |
    ⟨event, rfl, rfl⟩ := step?_cases moves
  · exact update_every (Thread.every_settle (calls call)) (every client)
  · have issues := every mover
    rw [running] at issues
    exact update_every (Thread.every_settle (issues.2 _)) (every client)
  · exact every client

theorem Run.every (calls : ∀ call, (system.program call).Every property)
    (run : Run permitted config actions last)
    (every : ∀ client, (config.threads client).Every property) (client : Nat) :
    (last.threads client).Every property :=
  run.invariant (fun config => ∀ client, (config.threads client).Every property)
    (fun _ _ _ _ moves => Thread.every_step calls moves) every client

/-- A run of such calls is a run under the rule. -/
theorem Run.issues (calls : ∀ call, (system.program call).Every property)
    (run : Run permitted config actions last)
    (every : ∀ client, (config.threads client).Every property) :
    Run (issuing system property).permits config actions last := by
  refine (run.relying (fun config => ∀ client, (config.threads client).Every property)
    (fun _ _ _ _ moves => Thread.every_step calls moves) every).mono ?_
  rintro config action ⟨-, every⟩
  cases action with
  | start client call => trivial
  | environment event => trivial
  | step client outcome =>
    simp only [Rules.permits]
    split
    · rename_i running
      have issues := every client
      rw [running] at issues
      exact issues.1
    · trivial

/-- What all clients keep holds after a run, and each of them stands in its outline. -/
theorem Run.annotated {rules : system.Rules} {assertion : system.World → Prop}
    (run : Run permitted config actions last) (governs : rules.Governs permitted)
    (stable : rules.Stable assertion)
    (outlined : ∀ call, rules.Outline assertion (fun _ _ => True) (system.program call))
    (annotated : Annotated rules config) (holds : assertion config.world) :
    assertion last.world ∧ Annotated rules last := by
  induction run with
  | refl => exact ⟨holds, annotated⟩
  | step allowed moves _ ih =>
    have permits := governs _ _ allowed
    exact ih (annotated.step stable holds (fun _ call _ => outlined call) permits moves)
      (stable.step annotated.ensured permits moves holds)

end System

end BrainMate.Interleaving
