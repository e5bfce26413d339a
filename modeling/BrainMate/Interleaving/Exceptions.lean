import BrainMate.Interleaving.Watched

namespace BrainMate.Interleaving

namespace Program

variable {Command : Type} {Reply : Command → Type} {ε α β : Type}

/-- `try` with handlers: a failure of the body goes to the handler. -/
def rescue (body : ExceptT ε (Program Command Reply) α)
    (handler : ε → ExceptT ε (Program Command Reply) α) : ExceptT ε (Program Command Reply) α :=
  ExceptT.mk do
    match ← body.run with
    | .ok value => return .ok value
    | .error failure => (handler failure).run

/-- `try` with `finally`: a failure of the clean-up takes the place of the result. -/
def ensuring (body : ExceptT ε (Program Command Reply) α)
    (cleanup : ExceptT ε (Program Command Reply) Unit) : ExceptT ε (Program Command Reply) α :=
  ExceptT.mk do
    let result ← body.run
    match ← cleanup.run with
    | .ok () => return result
    | .error failure => return .error failure

section Every

variable {property : Command → Prop} {body : ExceptT ε (Program Command Reply) α}

theorem Every.andThen {next : α → ExceptT ε (Program Command Reply) β}
    (first : Every property body.run) (rest : ∀ value, Every property (next value).run) :
    Every property (body >>= next).run := by
  refine Every.bind first fun result => ?_
  cases result with
  | ok value => exact rest value
  | error failure => trivial

theorem Every.rescue {handler : ε → ExceptT ε (Program Command Reply) α}
    (first : Every property body.run) (rest : ∀ failure, Every property (handler failure).run) :
    Every property (Program.rescue body handler).run := by
  refine Every.bind first fun result => ?_
  cases result with
  | ok value => trivial
  | error failure => exact rest failure

end Every

end Program

namespace Observer

variable {Command : Type} {Reply : Command → Type} {observer : Observer Command Reply}
variable {ε α β : Type} {phase : observer.Phase} {body : ExceptT ε (Program Command Reply) α}

/-- What is asked of the phase at the end of a body, by the two ways it ends. -/
def ending (normally : α → observer.Phase → Prop) (failing : ε → observer.Phase → Prop) :
    Except ε α → observer.Phase → Prop
  | .ok value => normally value
  | .error failure => failing failure

variable {normally : α → observer.Phase → Prop} {failing : ε → observer.Phase → Prop}

/-- The phase in which a procedure ends, together with the values it can end in. -/
theorem Follows.and_ends {program : Program Command Reply α} {ends : α → observer.Phase → Prop}
    {property : α → Prop} (follows : observer.Follows ends phase program)
    (values : program.Ends property) :
    observer.Follows (fun value final => ends value final ∧ property value) phase program := by
  induction program generalizing phase with
  | done value => exact ⟨follows, values⟩
  | call command next ih => exact ⟨follows.1, fun reply => ih reply (follows.2 reply) (values reply)⟩

/-- What one observer sees of a procedure, another one sees that stays related to it. -/
theorem Follows.related (other : Observer Command Reply)
    (alike : observer.Phase → other.Phase → Prop) {program : Program Command Reply α}
    {ends : α → observer.Phase → Prop} {quiet : Command → Prop}
    {seen : other.Phase}
    (follows : observer.Follows ends phase program) (every : program.Every quiet)
    (allowed : ∀ phase seen command, alike phase seen → quiet command → other.allowed seen command)
    (advances : ∀ phase seen command reply, alike phase seen → quiet command →
      alike (observer.advance phase command reply) (other.advance seen command reply))
    (related : alike phase seen) :
    other.Follows (fun value final => ∃ phase, alike phase final ∧ ends value phase) seen program := by
  induction program generalizing phase seen with
  | done value => exact ⟨phase, related, follows⟩
  | call command next ih =>
    refine ⟨allowed phase seen command related every.1, fun reply => ?_⟩
    exact ih reply (follows.2 reply) (every.2 reply) (advances phase seen command reply related every.1)

theorem Follows.returns {value : α} {finally_ : Except ε α → observer.Phase → Prop}
    (ended : finally_ (.ok value) phase) :
    observer.Follows finally_ phase (pure value : ExceptT ε (Program Command Reply) α).run := ended

theorem Follows.andThen {next : α → ExceptT ε (Program Command Reply) β}
    {finally_ : Except ε β → observer.Phase → Prop}
    (first : observer.Follows (ending normally fun failure => finally_ (.error failure)) phase body.run)
    (rest : ∀ value phase, normally value phase → observer.Follows finally_ phase (next value).run) :
    observer.Follows finally_ phase (body >>= next).run := by
  refine Follows.bind first ?_
  rintro (failure | value) reached ended
  · exact ended
  · exact rest value reached ended

theorem Follows.rescue {handler : ε → ExceptT ε (Program Command Reply) α}
    {finally_ : Except ε α → observer.Phase → Prop}
    (first : observer.Follows (ending (fun value => finally_ (.ok value)) failing) phase body.run)
    (rest : ∀ failure phase, failing failure phase →
      observer.Follows finally_ phase (handler failure).run) :
    observer.Follows finally_ phase (Program.rescue body handler).run := by
  refine Follows.bind first ?_
  rintro (failure | value) reached ended
  · exact rest failure reached ended
  · exact ended

/-- A clean-up that does not move the client on leaves the phase to the body. -/
theorem Follows.ensuring {cleanup : ExceptT ε (Program Command Reply) Unit}
    {finally_ : observer.Phase → Prop}
    (first : observer.Follows (fun _ => finally_) phase body.run)
    (rest : ∀ phase, finally_ phase → observer.Follows (fun _ => finally_) phase cleanup.run) :
    observer.Follows (fun _ => finally_) phase (Program.ensuring body cleanup).run := by
  refine Follows.bind first fun result reached ended => Follows.bind (rest reached ended) ?_
  rintro (failure | _) last ended
  · exact ended
  · exact ended

end Observer

end BrainMate.Interleaving
