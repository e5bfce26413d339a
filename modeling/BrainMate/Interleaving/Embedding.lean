import BrainMate.Interleaving.Exceptions

/-! Procedures over some commands as procedures over more of them. -/

namespace BrainMate.Interleaving.Program

variable {Command Wider : Type} {Reply : Command → Type} {WiderReply : Wider → Type}
variable {α β ε δ : Type}

/-- Issue each command under its name in the wider set. -/
def embed (wide : Command → Wider) (narrow : ∀ command, WiderReply (wide command) → Reply command) :
    Program Command Reply α → Program Wider WiderReply α
  | .done value => .done value
  | .call command next =>
    .call (wide command) fun reply => (next (narrow command reply)).embed wide narrow

/-- An embedded body, with its failures as failures of the wider procedure. -/
def embedBody (wide : Command → Wider)
    (narrow : ∀ command, WiderReply (wide command) → Reply command) (failing : ε → δ)
    (body : ExceptT ε (Program Command Reply) α) : ExceptT δ (Program Wider WiderReply) α :=
  ExceptT.mk do
    match ← body.run.embed wide narrow with
    | .ok value => return .ok value
    | .error failure => return .error (failing failure)

end BrainMate.Interleaving.Program

namespace BrainMate.Interleaving.Observer

variable {Command Wider : Type} {Reply : Command → Type} {WiderReply : Wider → Type} {α : Type}

/-- What an observer of the wider procedures sees of the narrower ones. -/
@[reducible] def within (observer : Observer Wider WiderReply) (wide : Command → Wider)
    (widen : ∀ command, Reply command → WiderReply (wide command)) : Observer Command Reply where
  Phase := observer.Phase
  rest := observer.rest
  advance phase command reply := observer.advance phase (wide command) (widen command reply)
  allowed phase command := observer.allowed phase (wide command)

variable {observer : Observer Wider WiderReply} {wide : Command → Wider}
variable {narrow : ∀ command, WiderReply (wide command) → Reply command}
variable {widen : ∀ command, Reply command → WiderReply (wide command)}

theorem Follows.embed (inverse : ∀ command reply, widen command (narrow command reply) = reply)
    {ends : α → observer.Phase → Prop} {phase : observer.Phase}
    {program : Program Command Reply α}
    (follows : (observer.within wide widen).Follows ends phase program) :
    observer.Follows ends phase (program.embed wide narrow) := by
  induction program generalizing phase with
  | done value => exact follows
  | call command next ih =>
    refine ⟨follows.1, fun reply => ?_⟩
    have same : (observer.within wide widen).advance phase command (narrow command reply) =
        observer.advance phase (wide command) reply :=
      congrArg (observer.advance phase (wide command)) (inverse command reply)
    exact ih _ (same ▸ follows.2 (narrow command reply))

end BrainMate.Interleaving.Observer
