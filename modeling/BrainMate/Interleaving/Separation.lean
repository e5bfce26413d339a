import BrainMate.Interleaving.System

namespace BrainMate.Interleaving.System

variable {Command : Type} {Reply : Command → Type} {system : System Command Reply}

variable (system) in
/-- A part of the world: `agree` compares two worlds in it. Own commands depend on it and
act on it in one way, foreign ones leave it alone. -/
structure Part where
  agree : system.World → system.World → Prop
  own : Command → Prop
  foreign : Command → Prop
  answered : ∀ {command first second}, own command → agree first second → ∀ outcome,
    (system.exec outcome command first).1 = (system.exec outcome command second).1
  advanced : ∀ {command first second}, own command → agree first second → ∀ outcome,
    agree (system.exec outcome command first).2 (system.exec outcome command second).2
  spared : ∀ {command first second}, foreign command → agree first second → ∀ outcome,
    agree (system.exec outcome command first).2 second
  elapsed : ∀ {first second}, agree first second → ∀ event,
    agree (system.environment event first) (system.environment event second)

/-- The actions of a client and of the environment. -/
def Action.concerns (client : Nat) : system.Action → Bool
  | .start other _ | .step other _ => decide (other = client)
  | .environment _ => true

/-- What is left of the procedure issues only such commands. -/
def Thread.Every (property : Command → Prop) : system.Thread → Prop
  | .running _ program => program.Every property
  | .idle | .returned _ _ => True

theorem Thread.every_settle {property : Command → Prop} {call : system.Call}
    {program : Program Command Reply (system.Result call)} (every : program.Every property) :
    (settle call program).Every property := by
  cases program with
  | done value => trivial
  | call command next => exact every

/-- The client makes own calls and the others make foreign ones. -/
def Apart (part : system.Part) (client : Nat) (_ : system.Config) : system.Action → Prop
  | .start other call =>
    (system.program call).Every (if other = client then part.own else part.foreign)
  | .step _ _ | .environment _ => True

variable {part : system.Part} {client : Nat} {config next last alone : system.Config}
variable {action : system.Action} {actions : List system.Action}

/-- The client stands where it stands in a run of its own, and the part with it. -/
structure Matches (part : system.Part) (client : Nat) (config alone : system.Config) : Prop where
  agree : part.agree config.world alone.world
  thread : config.threads client = alone.threads client
  own : (config.threads client).Every part.own
  foreign : ∀ other, other ≠ client → (config.threads other).Every part.foreign

/-- A step of another client is not felt. -/
theorem Matches.spared (matched : Matches part client config alone)
    (apart : Apart part client config action) (moves : config.step? action = some next)
    (foreign : action.concerns client = false) : Matches part client next alone := by
  obtain ⟨mover, call, rfl, idle, rfl⟩ | ⟨mover, outcome, call, command, rest, rfl, running, rfl⟩ |
    ⟨event, rfl, rfl⟩ := step?_cases moves
  · have other : mover ≠ client := of_decide_eq_false foreign
    refine ⟨matched.agree, ?_, ?_, fun third different => ?_⟩
    · simp only [Function.update_of_ne other.symm]
      exact matched.thread
    · simp only [Function.update_of_ne other.symm]
      exact matched.own
    · by_cases same : third = mover
      · subst same
        rw [Apart, if_neg other] at apart
        simp only [Function.update_self]
        exact Thread.every_settle apart
      · simp only [Function.update_of_ne same]
        exact matched.foreign third different
  · have other : mover ≠ client := of_decide_eq_false foreign
    have every := matched.foreign mover other
    rw [running] at every
    refine ⟨part.spared every.1 matched.agree outcome, ?_, ?_, fun third different => ?_⟩
    · simp only [Function.update_of_ne other.symm]
      exact matched.thread
    · simp only [Function.update_of_ne other.symm]
      exact matched.own
    · by_cases same : third = mover
      · subst same
        simp only [Function.update_self]
        exact Thread.every_settle (every.2 _)
      · simp only [Function.update_of_ne same]
        exact matched.foreign third different
  · cases foreign

/-- A step of the client, or of the environment, is made alone with the same result. -/
theorem Matches.advance (matched : Matches part client config alone)
    (apart : Apart part client config action) (moves : config.step? action = some next)
    (concerns : action.concerns client = true) :
    ∃ after, alone.step? action = some after ∧ Matches part client next after := by
  obtain ⟨mover, call, rfl, idle, rfl⟩ | ⟨mover, outcome, call, command, rest, rfl, running, rfl⟩ |
    ⟨event, rfl, rfl⟩ := step?_cases moves
  · obtain rfl : mover = client := of_decide_eq_true concerns
    have free : alone.threads mover = .idle := by rw [← matched.thread, idle]
    refine ⟨⟨alone.world, Function.update alone.threads mover (settle call (system.program call))⟩,
      by simp [Config.step?, free, Thread.isIdle], matched.agree, ?_, ?_, fun other different => ?_⟩
    · simp only [Function.update_self]
    · rw [Apart, if_pos rfl] at apart
      simp only [Function.update_self]
      exact Thread.every_settle apart
    · simp only [Function.update_of_ne different]
      exact matched.foreign other different
  · obtain rfl : mover = client := of_decide_eq_true concerns
    have same : alone.threads mover = .running call (.call command rest) := by
      rw [← matched.thread, running]
    have every := matched.own
    rw [running] at every
    have answered := part.answered every.1 matched.agree outcome
    refine ⟨_, by rw [Config.step?, same], part.advanced every.1 matched.agree outcome, ?_, ?_,
      fun other different => ?_⟩
    · simp only [Function.update_self, answered]
    · simp only [Function.update_self]
      exact Thread.every_settle (every.2 _)
    · simp only [Function.update_of_ne different]
      exact matched.foreign other different
  · exact ⟨_, rfl, part.elapsed matched.agree event, matched.thread, matched.own, matched.foreign⟩

/-- Without the others the client makes the same steps, and is where it was with them. -/
theorem Run.erase (run : Run (Apart part client) config actions last)
    (matched : Matches part client config alone) :
    ∃ final, Run (fun _ _ => True) alone (actions.filter (Action.concerns client)) final ∧
      Matches part client last final := by
  induction run generalizing alone with
  | refl => exact ⟨alone, .refl, matched⟩
  | step apart moves _ ih =>
    rename_i _ action _ _ _ _
    cases concerns : action.concerns client with
    | false =>
      rw [List.filter_cons_of_neg (by simp [concerns])]
      exact ih (matched.spared apart moves concerns)
    | true =>
      obtain ⟨after, moved, matched⟩ := matched.advance apart moves concerns
      obtain ⟨final, run, matched⟩ := ih matched
      rw [List.filter_cons_of_pos concerns]
      exact ⟨final, .step trivial moved run, matched⟩

theorem Matches.initial (part : system.Part) (client : Nat) {world : system.World}
    (agree : part.agree world world) : Matches part client (.initial world) (.initial world) :=
  ⟨agree, rfl, trivial, fun _ _ => trivial⟩

/-- What the commands of all calls keep, and the environment, a run keeps. -/
theorem Run.keeps {permitted : system.Config → system.Action → Prop} {property : Command → Prop}
    {holds : system.World → Prop} (calls : ∀ call, (system.program call).Every property)
    (command : ∀ {world command} outcome, property command → holds world →
      holds (system.exec outcome command world).2)
    (event : ∀ {world} event, holds world → holds (system.environment event world))
    (run : Run permitted config actions last)
    (every : ∀ client, (config.threads client).Every property) (initially : holds config.world) :
    holds last.world := by
  have settled {threads : Nat → system.Thread} {mover : Nat} {call : system.Call}
      {program : Program Command Reply (system.Result call)}
      (every : ∀ client, (threads client).Every property) (issues : program.Every property)
      (client : Nat) :
      (Function.update threads mover (settle call program) client).Every property := by
    by_cases same : client = mover
    · subst same
      rw [Function.update_self]
      exact Thread.every_settle issues
    · rw [Function.update_of_ne same]
      exact every client
  refine (run.invariant (fun config => holds config.world ∧
    ∀ client, (config.threads client).Every property) ?_ ⟨initially, every⟩).1
  intro config action next _ moves ⟨now, every⟩
  obtain ⟨mover, call, rfl, idle, rfl⟩ | ⟨mover, outcome, call, issued, rest, rfl, running, rfl⟩ |
    ⟨happens, rfl, rfl⟩ := step?_cases moves
  · exact ⟨now, settled every (calls call)⟩
  · have issues := every mover
    rw [running] at issues
    exact ⟨command outcome issues.1 now, settled every (issues.2 _)⟩
  · exact ⟨event happens now, every⟩

/-- What the call ends in, whatever it is answered, the client has been told. -/
def Thread.Ends (ends : (call : system.Call) → system.Result call → Prop) : system.Thread → Prop
  | .running call program => program.Ends (ends call)
  | .returned call value => ends call value
  | .idle => True

theorem Thread.ends_settle {ends : (call : system.Call) → system.Result call → Prop}
    {call : system.Call} {program : Program Command Reply (system.Result call)}
    (values : program.Ends (ends call)) : (settle call program).Ends ends := by
  cases program with
  | done value => exact values
  | call command next => exact values

theorem Run.ends {permitted : system.Config → system.Action → Prop}
    {ends : (call : system.Call) → system.Result call → Prop}
    (calls : ∀ call, (system.program call).Ends (ends call)) (run : Run permitted config actions last)
    (initially : ∀ client, (config.threads client).Ends ends) (client : Nat) :
    (last.threads client).Ends ends := by
  refine run.invariant (fun config => ∀ client, (config.threads client).Ends ends) ?_ initially client
  intro config action next _ moves now client
  obtain ⟨mover, call, rfl, idle, rfl⟩ | ⟨mover, outcome, call, issued, rest, rfl, running, rfl⟩ |
    ⟨happens, rfl, rfl⟩ := step?_cases moves
  · by_cases same : client = mover
    · subst same
      simp only [Function.update_self]
      exact Thread.ends_settle (calls call)
    · simp only [Function.update_of_ne same]
      exact now client
  · by_cases same : client = mover
    · subst same
      have values := now client
      rw [running] at values
      simp only [Function.update_self]
      exact Thread.ends_settle (values _)
    · simp only [Function.update_of_ne same]
      exact now client
  · exact now client

end BrainMate.Interleaving.System
