import Mathlib.Algebra.GroupWithZero.Nat
import Mathlib.Algebra.Order.BigOperators.Group.Finset
import Mathlib.Algebra.Order.Monoid.Prod
import BrainMate.Interleaving.History
import BrainMate.WriteRight.MessageClients

/-! The counters of `writeright_quota` under any interleaving of `incrementQuotaUsage`. The
fallback writes absolute values, so that a counter keeps its account exactly when each
fallback finds nothing in the row but what its own call has put there. -/

namespace BrainMate.WriteRight

open Interleaving Program System Text

@[reducible] def quotaCalls (platform : ServicePlatform) :
    System MessageCommand MessageCommand.Reply where
  World := Service
  Outcome := Dealing
  Event := MessageEvent
  Call := MessageContext
  Result _ := Except Thrown Unit
  exec := MessageCommand.exec
  environment := MessageEvent.apply
  program context := (incrementQuotaUsage platform context).run

/-- The requests and the tokens counted for a user in a period. -/
def Service.usage (service : Service) (userId period : String) : Nat × Nat :=
  match service.quota userId period with
  | some row => (row.requests, row.tokens)
  | none => 0

/-- A call that has written to the row of its user and a period. -/
structure Counted where
  client : Nat
  userId : String
  period : String
  tokens : Nat
  deriving DecidableEq, Repr

namespace Counted

/-- What the call is to raise the row by. -/
def share (entry : Counted) : Nat × Nat := (1, entry.tokens)

/-- The entry is about this row. -/
def About (userId period : String) (entry : Counted) : Prop :=
  entry.userId = userId ∧ entry.period = period

instance (userId period : String) : DecidablePred (About userId period) :=
  fun entry => inferInstanceAs (Decidable (entry.userId = userId ∧ entry.period = period))

end Counted

/-- The call of a client, with its estimate. -/
def MessageContext.counted (context : MessageContext) (client : Nat) (period : String) : Counted :=
  ⟨client, context.userId, period, estimatedTokens context.input.text⟩

/-- What the calls that have written to a row are to have raised it by. -/
def credit (log : List Counted) (userId period : String) : Nat × Nat :=
  ∑ entry ∈ log.toFinset with entry.About userId period, entry.share

section Runs

variable (platform : ServicePlatform)

/-- The call whose write to a row is carried out by a step, by the rpc or by the fallback. -/
def counted (config : (quotaCalls platform).Config) :
    (quotaCalls platform).Action → Option Counted
  | .step client dealing =>
    match config.threads client with
    | .running context (.call command _) =>
      if command.takesEffect dealing config.world then
        match command with
        | .supabase (.incrementQuota _ period _ _) => some (context.counted client period)
        | .supabase (.upsertQuota _ period _) => some (context.counted client period)
        | _ => none
      else none
    | _ => none
  | .start _ _ | .environment _ => none

/-- The call whose fallback is carried out by a step. -/
def overwrites (config : (quotaCalls platform).Config) :
    (quotaCalls platform).Action → Option Counted
  | .step client dealing =>
    match config.threads client with
    | .running context (.call command _) =>
      if command.takesEffect dealing config.world then
        match command with
        | .supabase (.upsertQuota _ period _) => some (context.counted client period)
        | _ => none
      else none
    | _ => none
  | .start _ _ | .environment _ => none

/-- A fallback finds nothing in the row but what its own call has put there. -/
def Careful (log : List Counted) (config : (quotaCalls platform).Config)
    (action : (quotaCalls platform).Action) : Prop :=
  ∀ entry ∈ overwrites platform config action,
    config.world.usage entry.userId entry.period = if entry ∈ log then entry.share else 0

def CarefulRun (log : List Counted) (config : (quotaCalls platform).Config) :
    List (quotaCalls platform).Action → Prop
  | [] => True
  | action :: later =>
    match config.step? action with
    | some next => Careful platform log config action ∧
        CarefulRun (log ++ (counted platform config action).toList) next later
    | none => True

/-- The rows are at least what they were at first and what the calls since are to raise
them by. -/
def Counts (start : Service) (log : List Counted) (service : Service) : Prop :=
  ∀ userId period,
    start.usage userId period + credit log userId period ≤ service.usage userId period

/-- In every state the rows count what has been written, and no step lowers one. -/
def KeptRun (start : Service) (log : List Counted) (config : (quotaCalls platform).Config) :
    List (quotaCalls platform).Action → Prop
  | [] => Counts start log config.world
  | action :: later => Counts start log config.world ∧
    match config.step? action with
    | some next =>
      (∀ userId period, config.world.usage userId period ≤ next.world.usage userId period) ∧
        KeptRun start (log ++ (counted platform config action).toList) next later
    | none => True

end Runs

variable {platform : ServicePlatform} {context : MessageContext} {log : List Counted}
variable {config next : (quotaCalls platform).Config} {action : (quotaCalls platform).Action}
variable {entry : Counted} {client : Nat} {userId period : String} {start : Service}

/-- What is left of a call; the flag says that the rpc is behind it. -/
inductive QuotaStage (context : MessageContext) :
    Bool → Program MessageCommand MessageCommand.Reply (Except Thrown Unit) → Prop where
  | asks {tried : Bool} {next : Nat → _} (later : ∀ now, QuotaStage context tried (next now)) :
      QuotaStage context tried (.call (.queue .time) next)
  | increments {next : Except Failure Unit → _} (period : String)
      (later : ∀ answer, QuotaStage context true (next answer)) :
      QuotaStage context false (.call (.supabase (.incrementQuota context.userId period 1
        (estimatedTokens context.input.text))) next)
  | upserts {next : Except Failure Unit → _} (period : String)
      (later : ∀ answer, QuotaStage context true (next answer)) :
      QuotaStage context true (.call (.supabase (.upsertQuota context.userId period
        ⟨1, estimatedTokens context.input.text⟩)) next)
  | ends {tried : Bool} (value : Except Thrown Unit) : QuotaStage context tried (.done value)

private theorem quotaStage_program (platform : ServicePlatform) (context : MessageContext) :
    QuotaStage context false (incrementQuotaUsage platform context).run := by
  apply QuotaStage.asks
  intro now
  apply QuotaStage.increments
  intro answer
  cases answer with
  | ok => exact .ends _
  | error failure =>
    apply QuotaStage.asks
    intro now
    apply QuotaStage.upserts
    intro answer
    exact .ends _

/-- The client has written to no row yet. -/
def Unwritten (log : List Counted) (client : Nat) : Prop := ∀ entry ∈ log, entry.client ≠ client

/-- A client writes its first row with its rpc. -/
def CallsPlaced (log : List Counted) (config : (quotaCalls platform).Config) : Prop :=
  ∀ client, match config.threads client with
    | .idle => Unwritten log client
    | .running context rest =>
      ∃ tried, QuotaStage context tried rest ∧ (tried = false → Unwritten log client)
    | .returned _ _ => True

theorem Unwritten.snoc (unwritten : Unwritten log client) (other : entry.client ≠ client) :
    Unwritten (log ++ [entry]) client := by
  intro noted member
  rcases List.mem_append.mp member with among | last
  · exact unwritten noted among
  · rw [List.mem_singleton.mp last]
    exact other

/-- The moving client is placed, and what is noted is its own. -/
theorem CallsPlaced.update (placed : CallsPlaced log config) {noted : Option Counted}
    (own : ∀ entry ∈ noted, entry.client = client) {thread : (quotaCalls platform).Thread}
    (after : match thread with
      | .idle => Unwritten (log ++ noted.toList) client
      | .running context rest => ∃ tried, QuotaStage context tried rest ∧
          (tried = false → Unwritten (log ++ noted.toList) client)
      | .returned _ _ => True) (world : Service) :
    @CallsPlaced platform (log ++ noted.toList)
      ⟨world, Function.update config.threads client thread⟩ := by
  intro other
  by_cases same : other = client
  · subst same
    dsimp only
    rw [Function.update_self]
    exact after
  · have kept (unwritten : Unwritten log other) : Unwritten (log ++ noted.toList) other := by
      cases noted with
      | none => simpa using unwritten
      | some entry => exact unwritten.snoc fun mine => same (mine.symm.trans (own entry rfl))
    have before := placed other
    dsimp only
    rw [Function.update_of_ne same]
    split
    · rename_i idle
      rw [idle] at before
      exact kept before
    · rename_i context rest running
      rw [running] at before
      obtain ⟨tried, stage, unwritten⟩ := before
      exact ⟨tried, stage, fun untried => kept (unwritten untried)⟩
    · trivial

private theorem usage_setQuota (service : Service) (row : QuotaRow) (otherId other : String) :
    (service.setQuota userId period row).usage otherId other =
      if otherId = userId ∧ other = period then (row.requests, row.tokens)
      else service.usage otherId other := by
  by_cases user : otherId = userId
  · subst user
    by_cases same : other = period
    · subst same
      simp [Service.usage, Service.setQuota]
    · simp [Service.usage, Service.setQuota, same]
  · simp [Service.usage, Service.setQuota, user]

private theorem usage_incrementWrQuota (service : Service) (tokens : Nat) (otherId other : String) :
    (service.incrementWrQuota userId period 1 tokens).usage otherId other =
      service.usage otherId other + if otherId = userId ∧ other = period then (1, tokens) else 0 := by
  rw [Service.incrementWrQuota, usage_setQuota]
  split
  · rename_i same
    obtain ⟨rfl, rfl⟩ := same
    cases stored : service.quota otherId other with
    | none => simp [Service.usage, stored]
    | some row => simp [Service.usage, stored]
  · rw [add_zero]

/-- What a step does to the rows: nothing, or one call's first write raises its row by the
call's share, or a fallback sets its row to it. -/
inductive QuotaStep (platform : ServicePlatform) (log : List Counted)
    (config : (quotaCalls platform).Config) (action : (quotaCalls platform).Action)
    (later : Service) : Prop where
  | keeps (noted : counted platform config action = none)
      (spared : overwrites platform config action = none)
      (same : ∀ userId period, later.usage userId period = config.world.usage userId period)
  | raises (entry : Counted) (noted : counted platform config action = some entry)
      (spared : overwrites platform config action = none) (fresh : entry ∉ log)
      (raised : ∀ userId period, later.usage userId period = config.world.usage userId period +
        if userId = entry.userId ∧ period = entry.period then entry.share else 0)
  | sets (entry : Counted) (noted : counted platform config action = some entry)
      (overwritten : overwrites platform config action = some entry)
      (set : ∀ userId period, later.usage userId period =
        if userId = entry.userId ∧ period = entry.period then entry.share
        else config.world.usage userId period)

theorem Unwritten.not_mem (unwritten : Unwritten log entry.client) : entry ∉ log :=
  fun member => unwritten entry member rfl

theorem placed_settle {rest : Program MessageCommand MessageCommand.Reply (Except Thrown Unit)}
    {tried : Bool} (stage : QuotaStage context tried rest)
    (unwritten : tried = false → Unwritten log client) :
    match (@settle _ _ (quotaCalls platform) context rest) with
    | .idle => Unwritten log client
    | .running context rest =>
      ∃ tried, QuotaStage context tried rest ∧ (tried = false → Unwritten log client)
    | .returned _ _ => True := by
  cases rest with
  | done value => trivial
  | call command next => exact ⟨tried, stage, unwritten⟩

/-- Each step places its client and is one of the three. -/
theorem CallsPlaced.step (placed : CallsPlaced log config) (moves : config.step? action = some next) :
    CallsPlaced (log ++ (counted platform config action).toList) next ∧
      QuotaStep platform log config action next.world := by
  obtain ⟨client, context, rfl, idle, rfl⟩ |
    ⟨client, dealing, context, command, rest, rfl, running, rfl⟩ | ⟨event, rfl, rfl⟩ :=
    step?_cases moves
  · have unwritten : Unwritten log client := by
      have before := placed client
      rw [idle] at before
      exact before
    constructor
    · have silent : ∀ entry ∈ (none : Option Counted), entry.client = client := nofun
      refine placed.update silent ?_ _
      rw [Option.toList_none, List.append_nil]
      exact placed_settle (quotaStage_program platform context) fun _ => unwritten
    · exact .keeps rfl rfl fun _ _ => rfl
  · have before := placed client
    rw [running] at before
    obtain ⟨tried, stage, unwritten⟩ := before
    cases stage with
    | asks later =>
      have noted : counted platform config (.step client dealing) = none := by
        simp [counted, running]
      rw [noted]
      constructor
      · refine placed.update (fun _ none_ => by cases none_) (placed_settle (later _) ?_) _
        rw [Option.toList_none, List.append_nil]
        exact unwritten
      · refine .keeps noted (by simp [overwrites, running]) fun userId period => ?_
        simp only [MessageCommand.exec]
        split <;> rfl
    | increments period later =>
      cases effective : MessageCommand.takesEffect dealing (.supabase (.incrementQuota context.userId
          period 1 (estimatedTokens context.input.text))) config.world with
      | false =>
        have noted : counted platform config (.step client dealing) = none := by
          simp [counted, running, effective]
        rw [noted]
        constructor
        · exact placed.update (fun _ none_ => by cases none_)
            (placed_settle (later _) fun tried => by cases tried) _
        · refine .keeps noted (by simp [overwrites, running]) fun userId period => ?_
          simp only [MessageCommand.exec, effective, Bool.false_eq_true, if_false]
      | true =>
        have noted : counted platform config (.step client dealing) =
            some (context.counted client period) := by
          simp [counted, running, effective]
        rw [noted]
        constructor
        · refine placed.update (fun entry mine => ?_)
            (placed_settle (later _) fun tried => by cases tried) _
          cases mine
          rfl
        · refine .raises (context.counted client period) noted (by simp [overwrites, running])
            (unwritten rfl).not_mem fun otherId other => ?_
          simp only [MessageCommand.exec, effective, if_true]
          exact usage_incrementWrQuota _ _ _ _
    | upserts period later =>
      cases effective : MessageCommand.takesEffect dealing (.supabase (.upsertQuota context.userId
          period ⟨1, estimatedTokens context.input.text⟩)) config.world with
      | false =>
        have noted : counted platform config (.step client dealing) = none := by
          simp [counted, running, effective]
        rw [noted]
        constructor
        · exact placed.update (fun _ none_ => by cases none_)
            (placed_settle (later _) fun tried => by cases tried) _
        · refine .keeps noted (by simp [overwrites, running, effective]) fun userId period => ?_
          simp only [MessageCommand.exec, effective, Bool.false_eq_true, if_false]
      | true =>
        have noted : counted platform config (.step client dealing) =
            some (context.counted client period) := by
          simp [counted, running, effective]
        rw [noted]
        constructor
        · refine placed.update (fun entry mine => ?_)
            (placed_settle (later _) fun tried => by cases tried) _
          cases mine
          rfl
        · refine .sets (context.counted client period) noted
            (by simp [overwrites, running, effective]) fun otherId other => ?_
          simp only [MessageCommand.exec, effective, if_true]
          exact usage_setQuota _ _ _ _
  · constructor
    · rw [counted, Option.toList_none, List.append_nil]
      exact placed
    · refine .keeps rfl rfl fun userId period => ?_
      cases event <;> rfl

/-- A call is counted once in a row. -/
theorem credit_snoc_old (old : entry ∈ log) : credit (log ++ [entry]) = credit log := by
  funext userId period
  rw [credit, credit, List.toFinset_append, List.toFinset_cons, List.toFinset_nil,
    Finset.union_eq_left.mpr]
  simpa using old

private theorem credit_snoc_new (fresh : entry ∉ log) (userId period : String) :
    credit (log ++ [entry]) userId period = credit log userId period +
      if userId = entry.userId ∧ period = entry.period then entry.share else 0 := by
  have joined : (log ++ [entry]).toFinset = insert entry log.toFinset := by
    ext other
    simp
  rw [credit, joined, Finset.filter_insert]
  by_cases about : entry.About userId period
  · have absent : entry ∉ log.toFinset.filter (Counted.About userId period) := by simp [fresh]
    rw [if_pos about, Finset.sum_insert absent, add_comm, if_pos ⟨about.1.symm, about.2.symm⟩, credit]
  · rw [if_neg about, if_neg fun same => about ⟨same.1.symm, same.2.symm⟩, add_zero, credit]

/-- The share of a call that is counted is part of the credit. -/
theorem share_le_credit (old : entry ∈ log) :
    entry.share ≤ credit log entry.userId entry.period := by
  apply Finset.single_le_sum (f := Counted.share) (fun _ _ => bot_le)
  exact Finset.mem_filter.mpr ⟨List.mem_toFinset.mpr old, rfl, rfl⟩

/-- The rows are what they were at first and what the calls since are to raise them by. -/
def Balanced (start : Service) (log : List Counted) (service : Service) : Prop :=
  ∀ userId period,
    service.usage userId period = start.usage userId period + credit log userId period

theorem Balanced.counts {service : Service} (balanced : Balanced start log service) :
    Counts start log service := fun userId period => (balanced userId period).ge

/-- What a careful step does to balanced rows. -/
theorem QuotaStep.balanced {later : Service} (step : QuotaStep platform log config action later)
    (careful : Careful platform log config action) (balanced : Balanced start log config.world) :
    Balanced start (log ++ (counted platform config action).toList) later ∧
      ∀ userId period, config.world.usage userId period ≤ later.usage userId period := by
  cases step with
  | keeps noted spared same =>
    rw [noted, Option.toList_none, List.append_nil]
    exact ⟨fun userId period => (same userId period).trans (balanced userId period),
      fun userId period => (same userId period).ge⟩
  | raises entry noted spared fresh raised =>
    rw [noted, Option.toList_some]
    constructor
    · intro userId period
      rw [raised, credit_snoc_new fresh, balanced, add_assoc]
    · intro userId period
      rw [raised]
      exact le_self_add
  | sets entry noted overwritten set =>
    have found := careful entry overwritten
    rw [noted, Option.toList_some]
    by_cases old : entry ∈ log
    · -- The call overwrites its own share with itself.
      rw [if_pos old] at found
      have same (userId period : String) :
          later.usage userId period = config.world.usage userId period := by
        rw [set]
        split
        · rename_i about
          rw [about.1, about.2, found]
        · rfl
      constructor
      · intro userId period
        rw [same, credit_snoc_old old, balanced]
      · exact fun userId period => (same userId period).ge
    · rw [if_neg old] at found
      have raised (userId period : String) : later.usage userId period =
          config.world.usage userId period +
            if userId = entry.userId ∧ period = entry.period then entry.share else 0 := by
        rw [set]
        split
        · rename_i about
          rw [about.1, about.2, found, zero_add]
        · rw [add_zero]
      constructor
      · intro userId period
        rw [raised, credit_snoc_new old, balanced, add_assoc]
      · intro userId period
        rw [raised]
        exact le_self_add

/-- A step after which balanced rows still count what has been written was careful. -/
theorem QuotaStep.careful {later : Service} (step : QuotaStep platform log config action later)
    (balanced : Balanced start log config.world)
    (counts : Counts start (log ++ (counted platform config action).toList) later) :
    Careful platform log config action := by
  intro entry overwritten
  cases step with
  | keeps noted spared =>
    rw [spared] at overwritten
    cases overwritten
  | raises _ noted spared =>
    rw [spared] at overwritten
    cases overwritten
  | sets _ noted own set =>
    rw [own] at overwritten
    cases overwritten
    have bound := counts entry.userId entry.period
    rw [noted, Option.toList_some, set, if_pos ⟨rfl, rfl⟩] at bound
    have before := balanced entry.userId entry.period
    by_cases old : entry ∈ log
    · rw [credit_snoc_old old, ← before] at bound
      rw [if_pos old]
      apply le_antisymm bound
      rw [before]
      exact (share_le_credit old).trans le_add_self
    · rw [credit_snoc_new old, if_pos ⟨rfl, rfl⟩, ← add_assoc, ← before] at bound
      rw [if_neg old]
      have none_ : config.world.usage entry.userId entry.period + entry.share ≤ 0 + entry.share := by
        rwa [zero_add]
      exact le_antisymm (le_of_add_le_add_right none_) bot_le

/-- From balanced rows a run keeps its counters exactly when its fallbacks are careful. -/
theorem keptRun_iff (actions : List (quotaCalls platform).Action) (placed : CallsPlaced log config)
    (balanced : Balanced start log config.world) :
    KeptRun platform start log config actions ↔ CarefulRun platform log config actions := by
  induction actions generalizing log config with
  | nil => exact ⟨fun _ => trivial, fun _ => balanced.counts⟩
  | cons action later ih =>
    rw [KeptRun, CarefulRun]
    cases moves : config.step? action with
    | none => exact ⟨fun _ => trivial, fun _ => ⟨balanced.counts, trivial⟩⟩
    | some next =>
      obtain ⟨placed, step⟩ := placed.step moves
      constructor
      · rintro ⟨_, _, kept⟩
        have counts : Counts start (log ++ (counted platform config action).toList) next.world := by
          cases later with
          | nil => exact kept
          | cons => exact kept.1
        have careful := step.careful balanced counts
        exact ⟨careful, (ih placed (step.balanced careful balanced).1).mp kept⟩
      · rintro ⟨careful, rest⟩
        obtain ⟨balanced', rising⟩ := step.balanced careful balanced
        exact ⟨balanced.counts, rising, (ih placed balanced').mpr rest⟩

/-- The counters of every user and period never go back and count every call that has
written, exactly in the runs in which each fallback finds nothing in its row but what its own
call has put there. -/
theorem counters_kept_iff (platform : ServicePlatform) (start : Service)
    (actions : List (quotaCalls platform).Action) :
    KeptRun platform start [] (.initial start) actions ↔
      CarefulRun platform [] (.initial start) actions := by
  apply keptRun_iff
  · intro client entry member
    cases member
  · intro userId period
    rw [credit, List.toFinset_nil, Finset.filter_empty, Finset.sum_empty, add_zero]
    rfl

/-- The rows at the end of a run that keeps its counters. -/
theorem KeptRun.ends {last : (quotaCalls platform).Config}
    {actions : List (quotaCalls platform).Action}
    (kept : KeptRun platform start log config actions)
    (run : Run (fun _ _ => True) config actions last) :
    Counts start (log ++ config.history (counted platform) actions) last.world := by
  induction run generalizing log with
  | refl =>
    rw [Config.history, List.append_nil]
    exact kept
  | step _ moves _ ih =>
    rw [KeptRun, moves] at kept
    rw [Config.history, moves, ← List.append_assoc]
    exact ih kept.2.2

/-- The increment of a counter that stands at five fails without an effect, and the fallback
succeeds. -/
def failingIncrement : List (quotaCalls sampleServicePlatform).Action :=
  [.start 0 ⟨"user", sampleInput (units "please reply to this"), none⟩, .step 0 succeeding,
    .step 0 { outcome := .failed false (.raised "connection reset") }, .step 0 succeeding,
    .step 0 succeeding]

/-- The five requests counted before are forgotten. -/
theorem failing_increment_goes_back :
    (sampleServiceWorld 5).usage "user" "2026-01" = (5, 0) ∧
    (∃ last, Run (fun _ _ => True) (.initial (sampleServiceWorld 5)) failingIncrement last ∧
      last.world.usage "user" "2026-01" = (1, 5)) ∧
    ¬ KeptRun sampleServicePlatform (sampleServiceWorld 5) [] (.initial (sampleServiceWorld 5))
      failingIncrement := by
  have reached : ∃ last, Run (fun _ _ => True) (.initial (sampleServiceWorld 5)) failingIncrement last ∧
      decide (last.world.usage "user" "2026-01" = (1, 5)) = true := by
    apply Run.of_runsTo
    rfl
  obtain ⟨last, run, checked⟩ := reached
  have ends := of_decide_eq_true checked
  refine ⟨rfl, ⟨last, run, ends⟩, fun kept => ?_⟩
  have bound := kept.ends run "user" "2026-01"
  rw [ends] at bound
  have five : 5 ≤ 1 := (Nat.le_add_right 5 _).trans bound.1
  omega

end BrainMate.WriteRight
