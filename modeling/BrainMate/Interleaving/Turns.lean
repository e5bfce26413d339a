import BrainMate.Interleaving.System

namespace BrainMate.Interleaving.System

variable {Command : Type} {Reply : Command → Type} {system : System Command Reply}

def Thread.isReturned : system.Thread → Bool
  | .returned _ _ => true
  | _ => false

def Thread.isRunning : system.Thread → Bool
  | .running _ _ => true
  | _ => false

/-- A call is made only after the call of the client before has returned. -/
def InTurn (config : system.Config) : system.Action → Prop
  | .start 0 _ | .step _ _ | .environment _ => True
  | .start (client + 1) _ => (config.threads client).isReturned = true

instance (config : system.Config) : (action : system.Action) → Decidable (InTurn config action)
  | .start 0 _ | .step _ _ | .environment _ => isTrue trivial
  | .start (client + 1) _ => inferInstanceAs (Decidable ((config.threads client).isReturned = true))

/-- No call is under way. -/
def Quiescent (config : system.Config) : Prop :=
  ∀ client, (config.threads client).isRunning = false

/-- One client has its turn: those before it have returned, those after it are idle. -/
structure TurnOf (config : system.Config) (turn : Nat) : Prop where
  before : ∀ client < turn, (config.threads client).isReturned = true
  after : ∀ client > turn, config.threads client = .idle

variable {config next last : system.Config} {action : system.Action} {turn : Nat}

theorem Thread.not_running_of_returned {thread : system.Thread}
    (returned : thread.isReturned = true) : thread.isRunning = false := by
  cases thread with
  | idle => rfl
  | running => cases returned
  | returned => rfl

/-- Only the client whose turn it is can be running. -/
theorem TurnOf.running (turns : TurnOf config turn) {client : Nat}
    (running : (config.threads client).isRunning = true) : client = turn := by
  rcases Nat.lt_trichotomy client turn with earlier | same | later
  · have idle := Thread.not_running_of_returned (turns.before client earlier)
    rw [running] at idle
    cases idle
  · exact same
  · rw [turns.after client later] at running
    cases running

/-- When the client whose turn it is has returned or not yet called, no call is under way. -/
theorem TurnOf.quiescent (turns : TurnOf config turn)
    (resting : (config.threads turn).isRunning = false) : Quiescent config := by
  intro client
  cases running : (config.threads client).isRunning with
  | false => rfl
  | true =>
    rw [turns.running running, resting] at running
    cases running

/-- Between the return of one call and the next call no call is under way. -/
theorem TurnOf.quiescent_between (turns : TurnOf config turn) {client : Nat}
    (returned : (config.threads client).isReturned = true)
    (idle : config.threads (client + 1) = .idle) : Quiescent config := by
  apply turns.quiescent
  have late : ¬ client > turn := by
    intro after
    rw [turns.after client after] at returned
    cases returned
  have early : ¬ client + 1 < turn := by
    intro before
    have impossible := turns.before (client + 1) before
    rw [idle] at impossible
    cases impossible
  rcases (by omega : turn = client ∨ turn = client + 1) with rfl | rfl
  · exact Thread.not_running_of_returned returned
  · rw [idle]
    rfl

theorem turnOf_initial (world : system.World) : TurnOf (Config.initial world : system.Config) 0 :=
  ⟨fun _ impossible => absurd impossible (Nat.not_lt_zero _), fun _ _ => rfl⟩

/-- A thread that is put in the place of the client whose turn it is. -/
theorem TurnOf.update (turns : TurnOf config turn) (world : system.World)
    (thread : system.Thread) :
    TurnOf ⟨world, Function.update config.threads turn thread⟩ turn where
  before client earlier := by
    simp only [Function.update_of_ne (Nat.ne_of_lt earlier)]
    exact turns.before client earlier
  after client later := by
    simp only [Function.update_of_ne (Nat.ne_of_gt later)]
    exact turns.after client later

/-- The next client takes its turn once the one before has returned. -/
theorem TurnOf.advance (turns : TurnOf config turn)
    (returned : (config.threads turn).isReturned = true) : TurnOf config (turn + 1) where
  before client earlier := by
    rcases Nat.lt_succ_iff_lt_or_eq.mp earlier with before | rfl
    · exact turns.before client before
    · exact returned
  after client later := turns.after client (by omega)

theorem TurnOf.step (turns : TurnOf config turn) (inTurn : InTurn config action)
    (moves : config.step? action = some next) : ∃ turn', TurnOf next turn' := by
  obtain ⟨client, call, rfl, state, rfl⟩ |
    ⟨client, outcome, call, command, rest, rfl, state, rfl⟩ | ⟨event, rfl, rfl⟩ := step?_cases moves
  · -- The client that starts is the one whose turn it is, or the one after it.
    have free : ¬ client < turn := by
      intro earlier
      have returned := turns.before client earlier
      rw [state] at returned
      cases returned
    cases client with
    | zero =>
      have same : turn = 0 := by omega
      subst same
      exact ⟨0, turns.update _ _⟩
    | succ previous =>
      by_cases own : previous + 1 = turn
      · subst own
        exact ⟨_, turns.update _ _⟩
      · have same : previous = turn := by
          by_contra different
          have idle := turns.after previous (by omega)
          have returned : (config.threads previous).isReturned = true := inTurn
          rw [idle] at returned
          cases returned
        subst same
        exact ⟨_, (turns.advance inTurn).update _ _⟩
  · have own : client = turn := turns.running (by rw [state]; rfl)
    subst own
    exact ⟨_, turns.update _ _⟩
  · exact ⟨turn, turns.before, turns.after⟩

variable {permitted : system.Config → system.Action → Prop} {actions : List system.Action}

/-- In a run of clients that take turns, one client has its turn at each step. -/
theorem Run.turns {world : system.World} (run : Run permitted (.initial world) actions last)
    (inTurn : ∀ config action, permitted config action → InTurn config action) :
    Run (fun config action => permitted config action ∧ ∃ turn, TurnOf config turn)
      (.initial world) actions last := by
  refine run.relying (fun config => ∃ turn, TurnOf config turn) ?_ ⟨0, turnOf_initial world⟩
  rintro config action next allowed moves ⟨turn, turns⟩
  exact turns.step (inTurn config action allowed) moves

theorem Run.turnOf_last {world : system.World} (run : Run permitted (.initial world) actions last)
    (inTurn : ∀ config action, permitted config action → InTurn config action) :
    ∃ turn, TurnOf last turn := by
  refine run.invariant (fun config => ∃ turn, TurnOf config turn) ?_ ⟨0, turnOf_initial world⟩
  rintro config action next allowed moves ⟨turn, turns⟩
  exact turns.step (inTurn config action allowed) moves

end BrainMate.Interleaving.System
