import BrainMate.Interleaving.System

/-! Proof outlines for procedures under interference. An assertion is stable
when every admitted step of any client and of the environment keeps it; an
outline puts a stable assertion at every point of a procedure, so that the one
at its end holds whatever the other clients did in between. -/

namespace BrainMate.Interleaving.System

variable {Command : Type} {Reply : Command → Type}

/-- `admits` and `occurs` are what a run is assumed to contain, `ensures` is what
the clients' outlines prove of the commands they issue. -/
structure Rules (system : System Command Reply) where
  admits : system.World → Command → system.Outcome → Prop
  occurs : system.World → system.Event → Prop
  ensures : system.World → Command → system.Outcome → Prop := fun _ _ _ => True

variable {system : System Command Reply} {α β : Type}

namespace Rules

variable (rules : system.Rules)

def permits (config : system.Config) : system.Action → Prop
  | .start _ _ => True
  | .step client outcome =>
    match config.threads client with
    | .running _ (.call command _) => rules.admits config.world command outcome
    | _ => True
  | .environment event => rules.occurs config.world event

instance [∀ world command outcome, Decidable (rules.admits world command outcome)]
    [∀ world event, Decidable (rules.occurs world event)] (config : system.Config)
    (action : system.Action) : Decidable (rules.permits config action) :=
  match action with
  | .start _ _ => inferInstanceAs (Decidable True)
  | .step client outcome =>
    match state : config.threads client with
    | .running _ (.call command _) =>
      decidable_of_iff (rules.admits config.world command outcome) (by simp [permits, state])
    | .running _ (.done _) => isTrue (by simp [permits, state])
    | .idle => isTrue (by simp [permits, state])
    | .returned _ _ => isTrue (by simp [permits, state])
  | .environment event => inferInstanceAs (Decidable (rules.occurs config.world event))

variable {rules} in
theorem permits_command {config : system.Config} {client : Nat} {outcome : system.Outcome}
    {call : system.Call} {command : Command}
    {rest : Reply command → Program Command Reply (system.Result call)}
    (permits : rules.permits config (.step client outcome))
    (state : config.threads client = .running call (.call command rest)) :
    rules.admits config.world command outcome := by
  simpa [Rules.permits, state] using permits

/-- The permission of a run grants nothing beyond the rules. -/
def Governs (permitted : system.Config → system.Action → Prop) : Prop :=
  ∀ config action, permitted config action → rules.permits config action

structure Stable (assertion : system.World → Prop) : Prop where
  command : ∀ world command outcome, rules.admits world command outcome →
    rules.ensures world command outcome → assertion world →
      assertion (system.exec outcome command world).2
  event : ∀ world event, rules.occurs world event → assertion world →
    assertion (system.environment event world)

def Outline (pre : system.World → Prop) (post : α → system.World → Prop) :
    Program Command Reply α → Prop
  | .done value => ∀ world, pre world → post value world
  | .call command next => ∃ middle : Reply command → system.World → Prop,
      (∀ reply, rules.Stable (middle reply)) ∧
      (∀ world outcome, pre world → rules.admits world command outcome →
        rules.ensures world command outcome ∧
          middle (system.exec outcome command world).1 (system.exec outcome command world).2) ∧
      ∀ reply, Outline (middle reply) post (next reply)

variable {rules}

theorem Stable.pure (fact : Prop) : rules.Stable (fun _ => fact) :=
  ⟨fun _ _ _ _ _ holds => holds, fun _ _ _ holds => holds⟩

theorem Stable.and {first second : system.World → Prop} (left : rules.Stable first)
    (right : rules.Stable second) : rules.Stable (fun world => first world ∧ second world) :=
  ⟨fun world command outcome admitted ensured holds =>
      ⟨left.command world command outcome admitted ensured holds.1,
        right.command world command outcome admitted ensured holds.2⟩,
    fun world event occurs holds =>
      ⟨left.event world event occurs holds.1, right.event world event occurs holds.2⟩⟩

theorem Stable.imp {fact : Prop} {assertion : system.World → Prop}
    (stable : fact → rules.Stable assertion) : rules.Stable (fun world => fact → assertion world) :=
  ⟨fun world command outcome admitted ensured holds known =>
      (stable known).command world command outcome admitted ensured (holds known),
    fun world event occurs holds known => (stable known).event world event occurs (holds known)⟩

theorem Stable.all {Index : Type} {assertion : Index → system.World → Prop}
    (stable : ∀ index, rules.Stable (assertion index)) :
    rules.Stable (fun world => ∀ index, assertion index world) :=
  ⟨fun world command outcome admitted ensured holds index =>
      (stable index).command world command outcome admitted ensured (holds index),
    fun world event occurs holds index => (stable index).event world event occurs (holds index)⟩

variable {pre now : system.World → Prop} {post : α → system.World → Prop}
variable {program : Program Command Reply α}

theorem Outline.strengthen (outline : rules.Outline now post program)
    (implies : ∀ world, pre world → now world) : rules.Outline pre post program := by
  cases program with
  | done value => exact fun world holds => outline world (implies world holds)
  | call command next =>
    obtain ⟨middle, stable, executes, continues⟩ := outline
    exact ⟨middle, stable, fun world outcome holds => executes world outcome (implies world holds),
      continues⟩

theorem Outline.weaken {weaker : α → system.World → Prop}
    (outline : rules.Outline pre post program)
    (implies : ∀ value world, post value world → weaker value world) :
    rules.Outline pre weaker program := by
  induction program generalizing pre with
  | done value => exact fun world holds => implies value world (outline world holds)
  | call command next ih =>
    obtain ⟨middle, stable, executes, continues⟩ := outline
    exact ⟨middle, stable, executes, fun reply => ih reply (continues reply)⟩

theorem Outline.absurd (impossible : ∀ world, ¬ pre world) (program : Program Command Reply α) :
    rules.Outline pre post program := by
  induction program generalizing pre with
  | done value => exact fun world holds => (impossible world holds).elim
  | call command next ih =>
    exact ⟨fun _ _ => False, fun _ => Stable.pure False,
      fun world _ holds => (impossible world holds).elim, fun reply => ih reply (fun _ h => h)⟩

theorem Outline.bind {middle : α → system.World → Prop} {final : β → system.World → Prop}
    {next : α → Program Command Reply β} (first : rules.Outline pre middle program)
    (rest : ∀ value, rules.Outline (middle value) final (next value)) :
    rules.Outline pre final (program >>= next) := by
  induction program generalizing pre with
  | done value => exact (rest value).strengthen first
  | call command continuation ih =>
    obtain ⟨assertion, stable, executes, continues⟩ := first
    exact ⟨assertion, stable, executes, fun reply => ih reply (continues reply)⟩

/-- Issue a command, keep a stable assertion and learn a fact about the reply. -/
theorem Outline.learn {command : Command} {next : Reply command → Program Command Reply α}
    (fact : Reply command → Prop) (stable : rules.Stable now)
    (executes : ∀ world outcome, now world → rules.admits world command outcome →
      rules.ensures world command outcome ∧ fact (system.exec outcome command world).1)
    (continues : ∀ reply, fact reply → rules.Outline now post (next reply)) :
    rules.Outline now post (.call command next) := by
  refine ⟨fun reply world => fact reply ∧ now world,
    fun reply => (Stable.pure (fact reply)).and stable, ?_, ?_⟩
  · intro world outcome holds admitted
    obtain ⟨ensured, known⟩ := executes world outcome holds admitted
    exact ⟨ensured, known, stable.command world command outcome admitted ensured holds⟩
  · intro reply
    by_cases known : fact reply
    · exact (continues reply known).strengthen (fun _ holds => holds.2)
    · exact .absurd (fun _ holds => known holds.1) _

/-- Issue a command whose reply does not matter. -/
theorem Outline.skip {command : Command} {next : Reply command → Program Command Reply α}
    (stable : rules.Stable now)
    (ensured : ∀ world outcome, now world → rules.admits world command outcome →
      rules.ensures world command outcome)
    (continues : ∀ reply, rules.Outline now post (next reply)) :
    rules.Outline now post (.call command next) :=
  .learn (fun _ => True) stable
    (fun world outcome holds admitted => ⟨ensured world outcome holds admitted, trivial⟩)
    (fun reply _ => continues reply)

/-- A stable assertion holds from the start to the end of any procedure. -/
theorem Outline.keep (free : ∀ world command outcome, rules.ensures world command outcome)
    (stable : rules.Stable now) (program : Program Command Reply α) :
    rules.Outline now (fun _ => now) program := by
  induction program with
  | done value => exact fun _ holds => holds
  | call command next ih => exact .skip stable (fun _ _ _ _ => free _ _ _) ih

end Rules

variable {rules : system.Rules} {permitted : system.Config → system.Action → Prop}
variable {config next last : system.Config} {action : system.Action} {actions : List system.Action}

/-- Where one client stands with respect to the outline of one of its calls. -/
structure Follows (rules : system.Rules) (client : Nat) (call : system.Call)
    (pre : system.World → Prop) (post : system.Result call → system.World → Prop)
    (config : system.Config) : Prop where
  idle : config.threads client = .idle → pre config.world
  running : ∀ rest, config.threads client = .running call rest →
    ∃ now, rules.Stable now ∧ now config.world ∧ rules.Outline now post rest
  returned : ∀ value, config.threads client = .returned call value → post value config.world

/-- Each running client stands at a point of some outline. -/
def Annotated (rules : system.Rules) (config : system.Config) : Prop :=
  ∀ client call rest, config.threads client = .running call rest →
    ∃ now, rules.Stable now ∧ now config.world ∧ rules.Outline now (fun _ _ => True) rest

/-- The commands of the clients satisfy what the rules say they ensure. -/
def Ensured (rules : system.Rules) (config : system.Config) : Prop :=
  ∀ client call command rest outcome, config.threads client = .running call (.call command rest) →
    rules.admits config.world command outcome → rules.ensures config.world command outcome

theorem Annotated.ensured (annotated : Annotated rules config) : Ensured rules config := by
  intro client call command rest outcome state admitted
  obtain ⟨now, _, holds, outline⟩ := annotated client call (.call command rest) state
  obtain ⟨_, _, executes, _⟩ := outline
  exact (executes config.world outcome holds admitted).1

theorem Rules.Stable.step {assertion : system.World → Prop} (stable : rules.Stable assertion)
    (ensured : Ensured rules config) (permits : rules.permits config action)
    (moves : config.step? action = some next) (holds : assertion config.world) :
    assertion next.world := by
  obtain ⟨_, _, _, _, rfl⟩ | ⟨client, outcome, call, command, rest, rfl, state, rfl⟩ |
    ⟨event, rfl, rfl⟩ := step?_cases moves
  · exact holds
  · have admitted := Rules.permits_command permits state
    exact stable.command _ _ _ admitted (ensured _ _ _ _ _ state admitted) holds
  · exact stable.event _ _ permits holds

theorem Follows.step {client : Nat} {call : system.Call} {pre : system.World → Prop}
    {post : system.Result call → system.World → Prop}
    (outline : rules.Outline pre post (system.program call)) (start : rules.Stable pre)
    (finish : ∀ value, rules.Stable (post value)) (ensured : Ensured rules config)
    (permits : rules.permits config action) (moves : config.step? action = some next)
    (follows : Follows rules client call pre post config) :
    Follows rules client call pre post next := by
  have kept : ∀ {assertion : system.World → Prop}, rules.Stable assertion →
      assertion config.world → assertion next.world :=
    fun stable => stable.step ensured permits moves
  -- A client that did not move keeps its thread, and its assertion is stable.
  have unmoved : next.threads client = config.threads client →
      Follows rules client call pre post next := by
    intro same
    refine ⟨fun state => kept start (follows.idle (same ▸ state)), ?_, ?_⟩
    · intro rest state
      obtain ⟨now, stable, holds, outlined⟩ := follows.running rest (same ▸ state)
      exact ⟨now, stable, kept stable holds, outlined⟩
    · intro value state
      exact kept (finish value) (follows.returned value (same ▸ state))
  -- A client that moved stands where `settle` put it.
  have moved : ∀ (other : system.Call) (program : Program Command Reply (system.Result other)),
      next.threads client = settle other program →
      (∀ same : other = call, ∃ now, rules.Stable now ∧ now next.world ∧
        rules.Outline now post (same ▸ program)) → Follows rules client call pre post next := by
    intro other program state outlined
    refine ⟨fun idle => ?_, ?_, ?_⟩
    · cases program <;> simp [state, settle] at idle
    · intro rest running
      obtain ⟨rfl, same⟩ := settle_running (state ▸ running)
      cases same
      exact outlined rfl
    · intro value returned
      obtain ⟨rfl, same⟩ := settle_returned (state ▸ returned)
      cases same
      obtain ⟨now, _, holds, done⟩ := outlined rfl
      exact done _ holds
  obtain ⟨mover, other, rfl, state, rfl⟩ |
    ⟨mover, outcome, other, command, rest, rfl, state, rfl⟩ | ⟨event, rfl, rfl⟩ := step?_cases moves
  · by_cases same : client = mover
    · subst mover
      refine moved other (system.program other) (by simp) ?_
      rintro rfl
      exact ⟨pre, start, follows.idle state, outline⟩
    · exact unmoved (by simp [Function.update_of_ne same])
  · by_cases same : client = mover
    · subst mover
      refine moved other (rest (system.exec outcome command config.world).1) (by simp) ?_
      rintro rfl
      obtain ⟨now, _, holds, _, stable, executes, continues⟩ := follows.running _ state
      have admitted := Rules.permits_command permits state
      exact ⟨_, stable _, (executes _ _ holds admitted).2, continues _⟩
    · exact unmoved (by simp [Function.update_of_ne same])
  · exact unmoved rfl

/-- A call that was started and has returned during a run meets the outline of
its procedure, when the rules ask nothing further of the other clients. -/
theorem Run.outline {client : Nat} {call : system.Call} {pre : system.World → Prop}
    {value : system.Result call} (post : system.Result call → system.World → Prop)
    (run : Run permitted config actions last) (governs : rules.Governs permitted)
    (free : ∀ world command outcome, rules.ensures world command outcome)
    (outline : rules.Outline pre post (system.program call)) (start : rules.Stable pre)
    (finish : ∀ value, rules.Stable (post value)) (idle : config.threads client = .idle)
    (holds : pre config.world) (returned : last.threads client = .returned call value) :
    post value last.world := by
  have initially : Follows rules client call pre post config :=
    ⟨fun _ => holds, by simp [idle], by simp [idle]⟩
  have finally_ : Follows rules client call pre post last := by
    refine run.invariant (Follows rules client call pre post) ?_ initially
    intro config action next allowed moves
    exact Follows.step outline start finish (fun _ _ _ _ _ _ _ => free _ _ _)
      (governs _ _ allowed) moves
  exact finally_.returned value returned

theorem Run.stable {assertion : system.World → Prop} (run : Run permitted config actions last)
    (governs : rules.Governs permitted)
    (free : ∀ world command outcome, rules.ensures world command outcome)
    (stable : rules.Stable assertion) (holds : assertion config.world) : assertion last.world := by
  refine run.invariant (fun config => assertion config.world) ?_ holds
  intro config action next allowed moves
  exact stable.step (fun _ _ _ _ _ _ _ => free _ _ _) (governs _ _ allowed) moves

/-- A running client stays at a point of some outline, and so does one that starts. -/
theorem Annotated.step {assertion : system.World → Prop} (annotated : Annotated rules config)
    (stable : rules.Stable assertion) (holds : assertion config.world)
    (outlined : ∀ client call, action = .start client call →
      rules.Outline assertion (fun _ _ => True) (system.program call))
    (permits : rules.permits config action) (moves : config.step? action = some next) :
    Annotated rules next := by
  have kept {assertion : system.World → Prop} (stable : rules.Stable assertion) :=
    stable.step annotated.ensured permits moves
  intro client call program state
  -- A client that did not move keeps its assertion.
  have unmoved (same : next.threads client = config.threads client) :
      ∃ now, rules.Stable now ∧ now next.world ∧
        rules.Outline now (fun _ _ => True) program := by
    obtain ⟨now, settled, holds, outline⟩ := annotated client call program (same ▸ state)
    exact ⟨now, settled, kept settled holds, outline⟩
  obtain ⟨mover, other, rfl, _, rfl⟩ |
    ⟨mover, outcome, other, command, continuation, rfl, running, rfl⟩ | ⟨event, rfl, rfl⟩ :=
    step?_cases moves
  · by_cases same : client = mover
    · subst mover
      simp only [Function.update_self] at state
      obtain ⟨rfl, same⟩ := settle_running state
      cases same
      exact ⟨assertion, stable, holds, outlined client other rfl⟩
    · exact unmoved (Function.update_of_ne same _ _)
  · by_cases same : client = mover
    · subst mover
      simp only [Function.update_self] at state
      obtain ⟨rfl, same⟩ := settle_running state
      cases same
      obtain ⟨now, _, holds, middle, settled, executes, continues⟩ :=
        annotated client other _ running
      have admitted := Rules.permits_command permits running
      exact ⟨_, settled _, (executes _ _ holds admitted).2, continues _⟩
    · exact unmoved (Function.update_of_ne same _ _)
  · exact unmoved rfl

/-- Every client started during a run issues only what its outline ensures, so
the assertion they all rely on holds at the end. -/
theorem Run.ensured {assertion : system.World → Prop} (run : Run permitted config actions last)
    (governs : rules.Governs permitted) (stable : rules.Stable assertion)
    (outlined : ∀ client call, .start client call ∈ actions →
      rules.Outline assertion (fun _ _ => True) (system.program call))
    (annotated : Annotated rules config) (holds : assertion config.world) :
    assertion last.world := by
  induction run with
  | refl => exact holds
  | step allowed moves _ ih =>
    have permits := governs _ _ allowed
    refine ih (fun client call later => outlined client call (.tail _ later)) ?_
      (stable.step annotated.ensured permits moves holds)
    refine annotated.step stable holds (fun client call same => ?_) permits moves
    exact outlined client call (same ▸ .head _)

/-- Under an assertion that all clients keep, a call that was started and has returned
meets the outline of its procedure. -/
theorem Run.ensured_outline {assertion : system.World → Prop} {client : Nat} {call : system.Call}
    {value : system.Result call} (post : system.Result call → system.World → Prop)
    (run : Run permitted config actions last) (governs : rules.Governs permitted)
    (stable : rules.Stable assertion)
    (outlined : ∀ client call, .start client call ∈ actions →
      rules.Outline assertion (fun _ _ => True) (system.program call))
    (annotated : Annotated rules config) (holds : assertion config.world)
    (outline : rules.Outline assertion post (system.program call))
    (finish : ∀ value, rules.Stable (post value)) (idle : config.threads client = .idle)
    (returned : last.threads client = .returned call value) : post value last.world := by
  have initially : Follows rules client call assertion post config :=
    ⟨fun _ => holds, by simp [idle], by simp [idle]⟩
  clear idle
  induction run with
  | refl => exact initially.returned value returned
  | step allowed moves _ ih =>
    have permits := governs _ _ allowed
    refine ih (fun client call later => outlined client call (.tail _ later)) ?_
      (stable.step annotated.ensured permits moves holds) returned
      (initially.step outline stable finish annotated.ensured permits moves)
    refine annotated.step stable holds (fun client call same => ?_) permits moves
    exact outlined client call (same ▸ .head _)

end BrainMate.Interleaving.System
