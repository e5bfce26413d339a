import BrainMate.Interleaving.Separation

namespace BrainMate.Interleaving.System

variable {Command : Type} {Reply : Command → Type} {system : System Command Reply}

/-- The actions of a group of clients, and the events that they feel. -/
def Action.ofGroup (group : Nat → Bool) (felt : system.Event → Bool) : system.Action → Bool
  | .start client _ | .step client _ => group client
  | .environment event => felt event

/-- The events that are not felt leave the part as it is. -/
def Part.Ignores (part : system.Part) (felt : system.Event → Bool) : Prop :=
  ∀ {first second} event, felt event = false → part.agree first second →
    part.agree (system.environment event first) second

/-- The clients of the group make own calls and the others make foreign ones. -/
def GroupApart (part : system.Part) (group : Nat → Bool) (_ : system.Config) :
    system.Action → Prop
  | .start client call =>
    (system.program call).Every (if group client = true then part.own else part.foreign)
  | .step _ _ | .environment _ => True

variable {part : system.Part} {group : Nat → Bool} {felt : system.Event → Bool}
variable {config next last alone : system.Config}
variable {action : system.Action} {actions : List system.Action}

/-- The group stands where it stands in a run of its own, and the part with it. -/
structure GroupMatches (part : system.Part) (group : Nat → Bool) (config alone : system.Config) :
    Prop where
  agree : part.agree config.world alone.world
  threads : ∀ client, group client = true → config.threads client = alone.threads client
  own : ∀ client, group client = true → (config.threads client).Every part.own
  foreign : ∀ client, group client = false → (config.threads client).Every part.foreign

theorem update_every {property : Command → Prop} {threads : Nat → system.Thread} {mover : Nat}
    {thread : system.Thread} (moved : thread.Every property) {client : Nat}
    (before : (threads client).Every property) :
    (Function.update threads mover thread client).Every property := by
  by_cases same : client = mover
  · subst same
    rwa [Function.update_self]
  · rwa [Function.update_of_ne same]

/-- A thread of a client outside the group may change as it likes. -/
theorem GroupMatches.outside {world : system.World} {mover : Nat} {thread : system.Thread}
    (matched : GroupMatches part group config alone) (stranger : group mover = false)
    (agree : part.agree world alone.world) (every : thread.Every part.foreign) :
    GroupMatches part group ⟨world, Function.update config.threads mover thread⟩ alone := by
  have other {client : Nat} (member : group client = true) : client ≠ mover := by
    rintro rfl
    rw [member] at stranger
    cases stranger
  refine ⟨agree, fun client member => ?_, fun client member => ?_, fun client foreign => ?_⟩
  · simp only [Function.update_of_ne (other member)]
    exact matched.threads client member
  · simp only [Function.update_of_ne (other member)]
    exact matched.own client member
  · exact update_every every (matched.foreign client foreign)

/-- A thread of the group changes in both runs alike. -/
theorem GroupMatches.inside {world world' : system.World} {mover : Nat} {thread : system.Thread}
    (matched : GroupMatches part group config alone) (member : group mover = true)
    (agree : part.agree world world') (every : thread.Every part.own) :
    GroupMatches part group ⟨world, Function.update config.threads mover thread⟩
      ⟨world', Function.update alone.threads mover thread⟩ := by
  refine ⟨agree, fun client own => ?_, fun client own => ?_, fun client foreign => ?_⟩
  · by_cases same : client = mover
    · subst same
      simp only [Function.update_self]
    · simp only [Function.update_of_ne same]
      exact matched.threads client own
  · exact update_every every (matched.own client own)
  · have other : client ≠ mover := by
      rintro rfl
      rw [member] at foreign
      cases foreign
    simp only [Function.update_of_ne other]
    exact matched.foreign client foreign

/-- A step of a client outside the group is not felt. -/
theorem GroupMatches.spared (matched : GroupMatches part group config alone)
    (ignores : part.Ignores felt) (apart : GroupApart part group config action)
    (moves : config.step? action = some next) (foreign : action.ofGroup group felt = false) :
    GroupMatches part group next alone := by
  obtain ⟨mover, call, rfl, -, rfl⟩ | ⟨mover, outcome, call, command, rest, rfl, running, rfl⟩ |
    ⟨event, rfl, rfl⟩ := step?_cases moves
  · have stranger : group mover = false := foreign
    rw [GroupApart, stranger, if_neg Bool.false_ne_true] at apart
    exact matched.outside stranger matched.agree (Thread.every_settle apart)
  · have stranger : group mover = false := foreign
    have every := matched.foreign mover stranger
    rw [running] at every
    exact matched.outside stranger (part.spared every.1 matched.agree outcome)
      (Thread.every_settle (every.2 _))
  · exact ⟨ignores event foreign matched.agree, matched.threads, matched.own, matched.foreign⟩

/-- A step of the group, or of the environment, is made alone with the same result. -/
theorem GroupMatches.advance (matched : GroupMatches part group config alone)
    (apart : GroupApart part group config action) (moves : config.step? action = some next)
    (concerns : action.ofGroup group felt = true) :
    ∃ after, alone.step? action = some after ∧ GroupMatches part group next after := by
  obtain ⟨mover, call, rfl, idle, rfl⟩ | ⟨mover, outcome, call, command, rest, rfl, running, rfl⟩ |
    ⟨event, rfl, rfl⟩ := step?_cases moves
  · have member : group mover = true := concerns
    have free : alone.threads mover = .idle := by rw [← matched.threads mover member, idle]
    rw [GroupApart, if_pos member] at apart
    exact ⟨⟨alone.world, Function.update alone.threads mover (settle call (system.program call))⟩,
      by simp [Config.step?, free, Thread.isIdle],
      matched.inside member matched.agree (Thread.every_settle apart)⟩
  · have member : group mover = true := concerns
    have same : alone.threads mover = .running call (.call command rest) := by
      rw [← matched.threads mover member, running]
    have every := matched.own mover member
    rw [running] at every
    have answered := part.answered every.1 matched.agree outcome
    refine ⟨_, by rw [Config.step?, same], ?_⟩
    rw [← answered]
    exact matched.inside member (part.advanced every.1 matched.agree outcome)
      (Thread.every_settle (every.2 _))
  · exact ⟨_, rfl, part.elapsed matched.agree event, matched.threads, matched.own, matched.foreign⟩

/-- Without the others the group makes the same steps, and is where it was with them. -/
theorem Run.eraseOthers (run : Run (GroupApart part group) config actions last)
    (ignores : part.Ignores felt) (matched : GroupMatches part group config alone) :
    ∃ final, Run (fun _ _ => True) alone (actions.filter (Action.ofGroup group felt)) final ∧
      GroupMatches part group last final := by
  induction run generalizing alone with
  | refl => exact ⟨alone, .refl, matched⟩
  | step apart moves _ ih =>
    rename_i _ action _ _ _ _
    cases concerns : action.ofGroup group felt with
    | false =>
      rw [List.filter_cons_of_neg (by simp [concerns])]
      exact ih (matched.spared ignores apart moves concerns)
    | true =>
      obtain ⟨after, moved, matched⟩ := matched.advance apart moves concerns
      obtain ⟨final, run, matched⟩ := ih matched
      rw [List.filter_cons_of_pos concerns]
      exact ⟨final, .step trivial moved run, matched⟩

theorem GroupMatches.initial {world world' : system.World} (agree : part.agree world world') :
    GroupMatches part group (.initial world) (.initial world') :=
  ⟨agree, fun _ _ => rfl, fun _ _ => trivial, fun _ _ => trivial⟩

end BrainMate.Interleaving.System
