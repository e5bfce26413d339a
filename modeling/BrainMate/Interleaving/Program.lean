import Mathlib.Logic.Function.Basic

/-! Client procedures as finite trees of atomic commands. A procedure either is
done or issues one command and continues with its reply; nothing happens between
two commands of the tree, everything may happen between them. -/

namespace BrainMate.Interleaving

inductive Program (Command : Type) (Reply : Command → Type) (α : Type) where
  | done (value : α)
  | call (command : Command) (next : Reply command → Program Command Reply α)

namespace Program

variable {Command : Type} {Reply : Command → Type} {α β γ : Type}

def bind (program : Program Command Reply α) (next : α → Program Command Reply β) :
    Program Command Reply β :=
  match program with
  | .done value => next value
  | .call command rest => .call command fun reply => (rest reply).bind next

instance : Monad (Program Command Reply) where
  pure := .done
  bind := .bind

/-- The procedure that issues one command and returns its reply. -/
def request (command : Command) : Program Command Reply (Reply command) :=
  .call command .done

@[simp] theorem pure_eq (value : α) :
    (pure value : Program Command Reply α) = .done value := rfl

@[simp] theorem done_bind (value : α) (next : α → Program Command Reply β) :
    (Program.done value >>= next : Program Command Reply β) = next value := rfl

@[simp] theorem call_bind (command : Command) (rest : Reply command → Program Command Reply α)
    (next : α → Program Command Reply β) :
    (Program.call command rest >>= next : Program Command Reply β) =
      .call command fun reply => rest reply >>= next := rfl

@[simp] theorem request_bind (command : Command)
    (next : Reply command → Program Command Reply β) :
    (request command >>= next : Program Command Reply β) = .call command next := rfl

theorem bind_assoc (program : Program Command Reply α) (first : α → Program Command Reply β)
    (second : β → Program Command Reply γ) :
    ((program >>= first) >>= second) = program >>= fun value => first value >>= second := by
  induction program with
  | done value => rfl
  | call command rest ih => exact congrArg (Program.call command) (funext ih)

/-- Some path of the tree issues a command with the property. -/
def Issues (property : Command → Prop) : Program Command Reply α → Prop
  | .done _ => False
  | .call command next => property command ∨ ∃ reply, (next reply).Issues property

/-- Every command on every path has the property. -/
def Every (property : Command → Prop) : Program Command Reply α → Prop
  | .done _ => True
  | .call command next => property command ∧ ∀ reply, (next reply).Every property

theorem every_of_forall {property : Command → Prop} (always : ∀ command, property command)
    (program : Program Command Reply α) : program.Every property := by
  induction program with
  | done value => trivial
  | call command next ih => exact ⟨always command, ih⟩

theorem Every.imp {property weaker : Command → Prop} {program : Program Command Reply α}
    (every : program.Every property) (implies : ∀ command, property command → weaker command) :
    program.Every weaker := by
  induction program with
  | done value => trivial
  | call command next ih => exact ⟨implies _ every.1, fun reply => ih reply (every.2 reply)⟩

theorem Every.bind {property : Command → Prop} {program : Program Command Reply α}
    {next : α → Program Command Reply β} (first : program.Every property)
    (rest : ∀ value, (next value).Every property) : (program >>= next).Every property := by
  induction program with
  | done value => exact rest value
  | call command continuation ih => exact ⟨first.1, fun reply => ih reply (first.2 reply)⟩

/-- Every path ends in a value with the property. -/
def Ends (ends : α → Prop) : Program Command Reply α → Prop
  | .done value => ends value
  | .call _ next => ∀ reply, (next reply).Ends ends

theorem ends_of_forall {ends : α → Prop} (always : ∀ value, ends value)
    (program : Program Command Reply α) : program.Ends ends := by
  induction program with
  | done value => exact always value
  | call command next ih => exact ih

theorem Ends.bind {middle : α → Prop} {ends : β → Prop} {program : Program Command Reply α}
    {next : α → Program Command Reply β} (first : program.Ends middle)
    (rest : ∀ value, middle value → (next value).Ends ends) : (program >>= next).Ends ends := by
  induction program with
  | done value => exact rest value first
  | call command continuation ih => exact fun reply => ih reply (first reply)

/-- Every path that ends in a value with the property passes an answered
command of the given kind. -/
def Passes (kind : (command : Command) → Reply command → Prop) (ends : α → Prop) :
    Program Command Reply α → Prop
  | .done value => ¬ ends value
  | .call command next => ∀ reply, kind command reply ∨ (next reply).Passes kind ends

end Program

end BrainMate.Interleaving
