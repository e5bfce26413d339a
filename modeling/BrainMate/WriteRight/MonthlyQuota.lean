import Mathlib.Data.Set.Card
import BrainMate.Interleaving.Exceptions
import BrainMate.Interleaving.Turns
import BrainMate.WriteRight.MessageClients
import BrainMate.WriteRight.MessageSteps

namespace BrainMate.WriteRight

open Interleaving Program System

/-- Where a request stands with the quota of its user. `now` is the time at which it started
to read the quota, `last` the last time it asked for. -/
inductive QuotaPhase where
  | unread
  | dated (now : Nat)
  | tiered (userId : String) (now : Nat) (tier : Tier)
  | admitted (userId : String) (now last : Nat)
  | counted (userId : String) (now : Nat)
  /-- Counted, and the timer is stopped. -/
  | answered (userId : String) (now : Nat)
  /-- The increment was answered with an error. -/
  | uncounted
  /-- The request was refused. -/
  | spent
  deriving DecidableEq, Repr

namespace QuotaPhase

def advance : QuotaPhase → (command : MessageCommand) → command.Reply → QuotaPhase
  | .unread, .queue .time, now => .dated now
  | .admitted userId start _, .queue .time, now => .admitted userId start now
  | .dated now, .supabase (.selectTier userId), answer =>
    .tiered userId now ((answer.toOption.bind id).getD .free)
  | .tiered _ now tier, .supabase (.selectQuota userId _), answer =>
    if (tierLimits tier).requests ≤ ((answer.toOption.bind id).getD ⟨0, 0⟩).requests then .spent
    else .admitted userId now now
  | .admitted _ now _, .supabase (.incrementQuota userId _ _ _), answer =>
    match answer with
    | .ok _ => .counted userId now
    | .error _ => .uncounted
  | .admitted _ _ _, .timer, _ => .spent
  | .counted userId now, .timer, _ => .answered userId now
  | phase, _, _ => phase

variable (platform : ServicePlatform)

/-- What a request issues about quotas. -/
def Allowed : QuotaPhase → MessageCommand → Prop
  | phase, .supabase (.selectTier _) => ∃ now, phase = .dated now
  | phase, .supabase (.selectQuota userId period) =>
    ∃ now tier, phase = .tiered userId now tier ∧ period = platform.periodKey now
  | phase, .supabase (.incrementQuota userId period reqs _) =>
    ∃ now last, phase = .admitted userId now last ∧ period = platform.periodKey last ∧ reqs = 1
  | phase, .supabase (.upsertQuota _ _ _) => phase = .uncounted
  | .answered _ _, .timer => False
  | _, _ => True

end QuotaPhase

def quotaObserver (platform : ServicePlatform) : Observer MessageCommand MessageCommand.Reply where
  Phase := QuotaPhase
  rest := .unread
  advance := QuotaPhase.advance
  allowed := QuotaPhase.Allowed platform

/-- The request was accepted: 200 from the cache, or 202. -/
def MessageReply.counts : MessageReply → Bool
  | .accepted _ | .cached _ => true
  | .repeated _ | .refused _ => false

/-- A request that is accepted has been counted for its user. -/
def QuotaEnds (request : MessageRequest) (reply : MessageReply) (phase : QuotaPhase) : Prop :=
  reply.counts = true →
    (∃ userId now, request.userId = some userId ∧ phase = .answered userId now) ∨ phase = .uncounted

/-- The commands that have nothing to do with quotas. -/
def MessageCommand.quotaNeutral : MessageCommand → Bool
  | .queue .time | .supabase (.selectTier _) | .supabase (.selectQuota _ _)
  | .supabase (.incrementQuota _ _ _ _) | .supabase (.upsertQuota _ _ _) | .timer => false
  | _ => true

variable {platform : ServicePlatform} {context : MessageContext} {phase : QuotaPhase}

theorem neutral_of_quiet {command : MessageCommand} (quiet : Quiet command) :
    command.quotaNeutral = true := by
  unfold Quiet MessageCommand.quiet at quiet
  split at quiet
  all_goals first
    | rfl
    | cases quiet

theorem QuotaPhase.allowed_of_neutral {command : MessageCommand}
    (neutral : command.quotaNeutral = true) : phase.Allowed platform command := by
  unfold QuotaPhase.Allowed
  split <;> trivial

theorem QuotaPhase.advance_of_neutral {command : MessageCommand} (reply : command.Reply)
    (neutral : command.quotaNeutral = true) : phase.advance command reply = phase := by
  unfold QuotaPhase.advance
  split <;> first | rfl | cases neutral

/-- A step without quota commands leaves the request in its phase. -/
theorem neutral_follows {α : Type} {body : Handler α}
    (every : body.run.Every fun command => command.quotaNeutral = true) (phase : QuotaPhase) :
    (quotaObserver platform).Follows (fun _ final => final = phase) phase body.run :=
  Observer.follows_of_every (quotaObserver platform) phase
    (fun _ neutral => QuotaPhase.allowed_of_neutral neutral)
    (fun _ reply neutral => QuotaPhase.advance_of_neutral reply neutral) every

def Admitted (userId : String) (phase : QuotaPhase) : Prop :=
  ∃ now last, phase = .admitted userId now last

def Settled (userId : String) (phase : QuotaPhase) : Prop :=
  (∃ now, phase = .counted userId now) ∨ phase = .uncounted

def Unanswered (phase : QuotaPhase) : Prop := ∀ userId now, phase ≠ .answered userId now

theorem Admitted.unanswered {userId : String} (admitted : Admitted userId phase) :
    Unanswered phase := by
  obtain ⟨now, last, rfl⟩ := admitted
  exact fun _ _ same => by cases same

theorem Settled.unanswered {userId : String} (settled : Settled userId phase) :
    Unanswered phase := by
  obtain ⟨now, rfl⟩ | rfl := settled <;> exact fun _ _ same => by cases same

theorem Unanswered.allowed (unanswered : Unanswered phase) : phase.Allowed platform .timer := by
  cases phase with
  | answered userId now => exact unanswered userId now rfl
  | _ => trivial

/-- How a procedure ends in a phase, by the two ways it ends. -/
abbrev quotaEnding {α : Type} (platform : ServicePlatform) (normally : α → QuotaPhase → Prop)
    (failing : QuotaPhase → Prop) : Except Thrown α → QuotaPhase → Prop :=
  @Observer.ending _ _ (quotaObserver platform) _ _ normally fun _ => failing

theorem neutral_follows_ending {α : Type} {body : Handler α} {failing : QuotaPhase → Prop}
    (every : body.run.Every fun command => command.quotaNeutral = true) (phase : QuotaPhase)
    (fails : failing phase) :
    (quotaObserver platform).Follows (quotaEnding platform (fun _ final => final = phase) failing)
      phase body.run := by
  refine (neutral_follows every phase).imp fun result final same => ?_
  cases result with
  | ok value => exact same
  | error thrown => exact same ▸ fails

/-- Requests that are not exhausted have been admitted. -/
theorem getQuota_follows (userId : String) :
    (quotaObserver platform).Follows
      (quotaEnding platform
        (fun quota phase => quota.requestsExhausted = true ∧ Unanswered phase ∨
          Admitted userId phase) Unanswered) .unread (getQuota platform userId).run := by
  refine ⟨trivial, fun now => ⟨⟨now, rfl⟩, fun settings => ⟨⟨now, _, rfl, rfl⟩, fun row => ?_⟩⟩⟩
  by_cases used : (tierLimits ((settings.toOption.bind id).getD .free)).requests ≤
      ((row.toOption.bind id).getD ⟨0, 0⟩).requests
  · refine .inl ⟨decide_eq_true used, ?_⟩
    have spent : QuotaPhase.advance (.tiered userId now ((settings.toOption.bind id).getD .free))
        (.supabase (.selectQuota userId (platform.periodKey now))) row = .spent := if_pos used
    exact Eq.mpr (congrArg Unanswered spent) fun _ _ same => by cases same
  · exact .inr ⟨now, now, if_neg used⟩

private theorem checkQuota_follows :
    (quotaObserver platform).Follows
      (quotaEnding platform (fun _ phase => Admitted context.userId phase) Unanswered)
      .unread (checkQuota platform context).run := by
  refine Observer.Follows.andThen (getQuota_follows context.userId) fun quota phase read => ?_
  have open_ : Unanswered phase := read.elim (fun exhausted => exhausted.2) Admitted.unanswered
  split
  · exact open_
  · rename_i free
    have admitted : Admitted context.userId phase :=
      read.resolve_left fun exhausted => free (by simp [exhausted.1])
    split
    · exact open_
    · exact admitted

private theorem admitMessage_follows :
    (quotaObserver platform).Follows
      (quotaEnding platform (fun _ phase => Admitted context.userId phase) Unanswered)
      .unread (admitMessage platform context).run := by
  refine Observer.Follows.andThen checkQuota_follows fun quota phase admitted => ?_
  have neutral : (do
      let _ ← statement (.incrementDailyUsage context.userId context.input.text.length 1)
      enforceRate context quota
      checkQueueDepth : Handler Unit).run.Every fun command => command.quotaNeutral = true :=
    Every.andThen (every_statement rfl) fun _ =>
      Every.andThen ((enforceRate_quiet context quota).imp fun _ => neutral_of_quiet) fun _ =>
        checkQueueDepth_quiet.imp fun _ => neutral_of_quiet
  refine (neutral_follows neutral phase).imp fun result final same => ?_
  cases result with
  | ok => exact same ▸ admitted
  | error => exact same ▸ admitted.unanswered

private theorem insertMessage_neutral :
    (insertMessage context).run.Every fun command => command.quotaNeutral = true :=
  every_insertMessage (fun _ => neutral_of_quiet) fun _ _ _ => rfl

private theorem rememberResponse_neutral (response : MessageResponse) :
    (rememberResponse context response).run.Every fun command => command.quotaNeutral = true :=
  every_rememberResponse (fun _ => neutral_of_quiet) fun _ _ => rfl

private theorem priorResponse_neutral :
    (priorResponse context).run.Every fun command => command.quotaNeutral = true :=
  every_priorResponse (fun _ => neutral_of_quiet) fun _ => rfl

private theorem incrementQuotaUsage_follows (admitted : Admitted context.userId phase) :
    (quotaObserver platform).Follows
      (quotaEnding platform (fun _ final => Settled context.userId final) fun _ => False)
      phase (incrementQuotaUsage platform context).run := by
  obtain ⟨start, last, rfl⟩ := admitted
  refine ⟨trivial, fun now => ⟨⟨start, now, rfl, rfl, rfl⟩, fun answer => ?_⟩⟩
  cases answer with
  | ok => exact .inl ⟨start, rfl⟩
  | error => exact ⟨trivial, fun _ => ⟨rfl, fun _ => .inr rfl⟩⟩

/-- A step without quota commands keeps what is known of the phase. -/
theorem neutral_keeps {α : Type} {body : Handler α} {known : QuotaPhase → Prop}
    (every : body.run.Every fun command => command.quotaNeutral = true) (holds : known phase) :
    (quotaObserver platform).Follows (quotaEnding platform (fun _ => known) known) phase body.run := by
  refine (neutral_follows every phase).imp fun result final same => ?_
  cases result with
  | ok value => exact same ▸ holds
  | error thrown => exact same ▸ holds

private theorem follows_failing {α : Type} {body : Handler α} {normally : α → QuotaPhase → Prop}
    (failing : QuotaPhase → Prop)
    (follows : (quotaObserver platform).Follows (quotaEnding platform normally fun _ => False) phase
      body.run) :
    (quotaObserver platform).Follows (quotaEnding platform normally failing) phase body.run := by
  refine follows.imp fun result final ended => ?_
  cases result with
  | ok value => exact ended
  | error thrown => exact ended.elim

private theorem invalidateStats_keeps {userId : String} {known : QuotaPhase → Prop}
    (holds : known phase)
    (failing : QuotaPhase → Prop) :
    (quotaObserver platform).Follows (quotaEnding platform (fun _ => known) failing) phase
      (invalidateStatsCache userId).run := by
  have neutral := (invalidateStatsCache_quiet userId).imp fun _ => neutral_of_quiet
  refine ((neutral_follows neutral phase).and_ends (invalidateStatsCache_returns userId)).imp ?_
  rintro (thrown | _) final ⟨same, returned⟩
  · cases returned
  · exact same ▸ holds

private theorem answerCached_follows {messageId : String} {result : AIResult}
    (admitted : Admitted context.userId phase) :
    (quotaObserver platform).Follows
      (quotaEnding platform (fun _ final => Settled context.userId final)
        (Admitted context.userId))
      phase (answerCached platform context messageId result).run := by
  have inserted : (statement (.insertCachedMessage context.userId context.input
      (inputMaterial context.input) result)).run.Every fun command => command.quotaNeutral = true :=
    every_statement rfl
  refine Observer.Follows.andThen (neutral_keeps inserted admitted) fun _ phase admitted => ?_
  refine Observer.Follows.andThen (neutral_keeps (rememberResponse_neutral _) admitted)
    fun _ phase admitted => ?_
  refine Observer.Follows.andThen
    (follows_failing (Admitted context.userId) (incrementQuotaUsage_follows admitted))
    fun _ phase settled => ?_
  exact Observer.Follows.andThen (invalidateStats_keeps settled _) fun _ _ settled => settled

private theorem tryCache_follows {messageId : String} (admitted : Admitted context.userId phase) :
    (quotaObserver platform).Follows
      (quotaEnding platform (fun reply final => match reply with
        | some _ => Settled context.userId final
        | none => Admitted context.userId final) fun _ => False)
      phase (tryCache platform context messageId).run := by
  refine Observer.Follows.rescue ?_ fun _ phase admitted => admitted
  refine Observer.Follows.andThen
    (neutral_keeps ((getCachedAIResponse_quiet _).imp fun _ => neutral_of_quiet) admitted)
    fun cached phase admitted => ?_
  cases cached with
  | none => exact admitted
  | some result =>
    exact Observer.Follows.andThen (answerCached_follows admitted) fun _ _ settled => settled

theorem enqueue_follows {payload : WritingJobPayload} (admitted : Admitted context.userId phase) :
    (quotaObserver platform).Follows
      (quotaEnding platform (fun _ => Admitted context.userId) (Admitted context.userId))
      phase (queued (enqueueWriteRightJob payload)).run := by
  obtain ⟨start, last, rfl⟩ := admitted
  refine ⟨trivial, fun opened => ?_⟩
  cases opened with
  | true => exact ⟨start, last, rfl⟩
  | false =>
    exact ⟨trivial, fun now => ⟨trivial, fun _ => ⟨trivial, fun _ => ⟨trivial, fun _ =>
      ⟨start, now, rfl⟩⟩⟩⟩⟩

private theorem enqueueJob_follows {payload : WritingJobPayload}
    (admitted : Admitted context.userId phase) :
    (quotaObserver platform).Follows
      (quotaEnding platform (fun _ => Settled context.userId) Unanswered)
      phase (enqueueJob platform context payload).run := by
  have tried : (quotaObserver platform).Follows
      (quotaEnding platform (fun _ => Settled context.userId) (Admitted context.userId)) phase
      (do
        queued (enqueueWriteRightJob payload)
        incrementQuotaUsage platform context
        invalidateStatsCache context.userId : Handler Unit).run := by
    refine Observer.Follows.andThen (enqueue_follows admitted) fun _ phase admitted => ?_
    refine Observer.Follows.andThen
      (follows_failing (Admitted context.userId) (incrementQuotaUsage_follows admitted))
      fun _ phase settled => ?_
    exact invalidateStats_keeps settled _
  refine Observer.Follows.rescue tried fun _ phase admitted => ?_
  obtain ⟨start, last, rfl⟩ := admitted
  exact ⟨trivial, fun _ _ _ same => by cases same⟩

private theorem submitJob_follows {jobId messageId : String} {history : List HistoryMessage}
    (admitted : Admitted context.userId phase) :
    (quotaObserver platform).Follows
      (quotaEnding platform (fun _ => Settled context.userId) Unanswered)
      phase (submitJob platform context jobId messageId history).run := by
  refine Observer.Follows.andThen
    (neutral_follows_ending (every_fetchGmail (fun _ => rfl) context) phase admitted.unanswered)
    fun gmail phase same => ?_
  refine Observer.Follows.andThen (enqueueJob_follows (same ▸ admitted)) fun _ phase settled => ?_
  refine Observer.Follows.andThen
    (neutral_follows_ending (rememberResponse_neutral _) phase settled.unanswered) fun _ phase same => ?_
  exact same ▸ settled

private theorem createJob_follows {messageId : String} {history : List HistoryMessage}
    (admitted : Admitted context.userId phase) :
    (quotaObserver platform).Follows
      (quotaEnding platform (fun _ => Settled context.userId) Unanswered)
      phase (createJob platform context messageId history).run := by
  obtain ⟨start, last, rfl⟩ := admitted
  refine ⟨trivial, fun answer => ?_⟩
  cases answer with
  | error failure => exact fun _ _ same => by cases same
  | ok jobId => exact submitJob_follows ⟨start, last, rfl⟩

/-- A request that gets an answer other than a repeated one has been counted. -/
theorem serveMessage_follows :
    (quotaObserver platform).Follows
      (quotaEnding platform
        (fun reply phase =>
          Unanswered phase ∧ (reply.counts = true → Settled context.userId phase)) Unanswered)
      .unread (serveMessage platform context).run := by
  refine Observer.Follows.andThen
    (neutral_follows_ending priorResponse_neutral .unread fun _ _ same => by cases same) fun prior phase same => ?_
  subst same
  cases prior with
  | some response => exact ⟨fun _ _ same => (by cases same), fun counts => (by cases counts)⟩
  | none =>
    refine Observer.Follows.andThen admitMessage_follows fun _ phase admitted => ?_
    refine Observer.Follows.andThen
      (neutral_follows_ending insertMessage_neutral phase admitted.unanswered) fun messageId phase same => ?_
    refine Observer.Follows.andThen
      (neutral_follows_ending ((fetchChatHistory_quiet platform _ _).imp fun _ => neutral_of_quiet)
        phase (same ▸ admitted.unanswered)) fun history phase same' => ?_
    refine Observer.Follows.andThen (follows_failing Unanswered
      (tryCache_follows (same' ▸ same ▸ admitted))) fun cached phase tried => ?_
    cases cached with
    | some reply => exact ⟨tried.unanswered, fun _ => tried⟩
    | none =>
      refine (createJob_follows tried).imp fun result final ended => ?_
      cases result with
      | ok reply => exact ⟨ended.unanswered, fun _ => ended⟩
      | error thrown => exact ended

/-- An accepted request is counted before its timer is stopped. -/
theorem withTimeout_follows :
    (quotaObserver platform).Follows
      (quotaEnding platform
        (fun reply phase => reply.counts = true →
          (∃ now, phase = .answered context.userId now) ∨ phase = .uncounted) fun _ => True)
      .unread (withTimeout (serveMessage platform context)).run := by
  refine Observer.Follows.bind serveMessage_follows fun result phase ended => ?_
  have open_ : Unanswered phase := by
    cases result with
    | ok reply => exact ended.1
    | error thrown => exact ended
  refine ⟨open_.allowed, fun late => ?_⟩
  cases late with
  | true => trivial
  | false =>
    cases result with
    | error thrown => trivial
    | ok reply =>
      intro counts
      obtain ⟨now, rfl⟩ | rfl := ended.2 counts
      · exact .inl ⟨now, rfl⟩
      · exact .inr rfl

private theorem postMessage_follows (request : MessageRequest) :
    (quotaObserver platform).Follows (QuotaEnds request) .unread (postMessage platform request) := by
  unfold postMessage
  split
  · exact fun counts => by cases counts
  · rename_i context parsed
    refine Observer.Follows.bind withTimeout_follows fun result phase ended => ?_
    cases result with
    | error thrown => exact fun counts => by cases counts
    | ok reply =>
      intro counts
      exact (ended counts).imp
        (fun ⟨now, answered⟩ => ⟨context.userId, now, user_of_parse parsed, answered⟩) id

/-- The phase of each request, and the time at which its timer was stopped. -/
structure QuotaWatch where
  phase : Nat → QuotaPhase
  stopped : Nat → Nat

def QuotaWatch.initial : QuotaWatch := ⟨fun _ => .unread, fun _ => 0⟩

@[reducible] def quotaGhost (platform : ServicePlatform) : (messageService platform).Ghost where
  State := QuotaWatch
  exchange watch client command dealing service :=
    { phase := Function.update watch.phase client
        ((watch.phase client).advance command (MessageCommand.exec dealing command service).1)
      stopped := match command with
        | .timer => Function.update watch.stopped client service.queue.clock
        | _ => watch.stopped }
  crash watch client _ := { watch with phase := Function.update watch.phase client .unread }

def quotaPhases (platform : ServicePlatform) :
    Ghost.Phases (quotaGhost platform) (quotaObserver platform) where
  phase := QuotaWatch.phase
  exchange_own _ client _ _ _ := Function.update_self client _ _
  exchange_other _ _ _ _ _ _ different := Function.update_of_ne different _ _
  crash_own _ client _ := Function.update_self client _ _
  crash_other _ _ _ _ different := Function.update_of_ne different _ _

/-- The request limit of a user. -/
def Service.requestLimit (service : Service) (userId : String) : Nat :=
  (tierLimits ((service.tiers userId).getD .free)).requests

/-- The request has passed the check of a user's quota for a period, and is not yet counted. -/
def AdmittedIn (platform : ServicePlatform) (userId period : String) (phase : QuotaPhase) : Prop :=
  ∃ now last, phase = .admitted userId now last ∧ platform.periodKey now = period

def CountedIn (platform : ServicePlatform) (userId period : String) (phase : QuotaPhase) : Prop :=
  ∃ now, (phase = .counted userId now ∨ phase = .answered userId now) ∧
    platform.periodKey now = period

/-- The statements of the database succeed, and an answer that was given stays given. -/
def StatementsSucceed {platform : ServicePlatform} (config : (messageService platform).Config) :
    (messageService platform).Move → Prop
  | .act (.step client dealing) =>
    ∀ command, (config.threads client).next? = some (.supabase command) → dealing.fails = false
  | .crash client => (config.threads client).isReturned = false
  | .act (.start _ _) | .act (.environment _) => True

/-- A request that passes the check finds room for itself beside those that have passed it
before, and it is counted and answered in the period it has checked. -/
def FindsRoom {platform : ServicePlatform} (watch : QuotaWatch)
    (config : (messageService platform).Config) : (messageService platform).Move → Prop
  | .act (.step client _) =>
    (∀ userId period, (config.threads client).next? = some (.supabase (.selectQuota userId period)) →
      config.world.requestLimit userId ≤ config.world.requests userId period ∨
        {other | other ≠ client ∧ AdmittedIn platform userId period (watch.phase other)}.encard +
          config.world.requests userId period < config.world.requestLimit userId) ∧
    (∀ userId period reqs tokens now last,
      (config.threads client).next? = some (.supabase (.incrementQuota userId period reqs tokens)) →
      watch.phase client = .admitted userId now last → period = platform.periodKey now) ∧
    (∀ userId now, (config.threads client).next? = some .timer →
      watch.phase client = .counted userId now →
      platform.periodKey config.world.queue.clock = platform.periodKey now)
  | .crash _ | .act (.start _ _) | .act (.environment _) => True

/-- The requests of a user that are accepted in a period. -/
def AcceptedIn {platform : ServicePlatform} (userId period : String) (watch : QuotaWatch)
    (config : (messageService platform).Config) : Set Nat :=
  {client | ∃ request reply, config.threads client = .returned request reply ∧
    reply.counts = true ∧ request.userId = some userId ∧
    platform.periodKey (watch.stopped client) = period}

structure QuotaInvariant (platform : ServicePlatform) (userId period : String) (tier : Option Tier)
    (start : Nat) (watch : QuotaWatch) (service : Service) : Prop where
  settings : service.tiers userId = tier
  above : start ≤ service.requests userId period
  within : service.requests userId period ≤ max start (service.requestLimit userId)
  counted : {client | CountedIn platform userId period (watch.phase client)}.encard ≤
    (service.requests userId period - start : ℕ)
  admitted : {client | AdmittedIn platform userId period (watch.phase client)}.encard ≤
    (service.requestLimit userId - service.requests userId period : ℕ)
  tiered : ∀ client now read, watch.phase client = .tiered userId now read → read = tier.getD .free
  uncounted : ∀ client, watch.phase client ≠ .uncounted
  answered : ∀ client now, watch.phase client = .answered userId now →
    platform.periodKey (watch.stopped client) = platform.periodKey now

section Moving

variable {Phase : Type} {property : Phase → Prop} {phases : Nat → Phase} {client : Nat} {moved : Phase}

/-- A client that is not new to a property adds nothing to those that have it. -/
theorem encard_stays (kept : property moved → property (phases client)) :
    {other | property (Function.update phases client moved other)}.encard ≤
      {other | property (phases other)}.encard := by
  refine Set.encard_le_encard fun other holds => ?_
  by_cases own : other = client
  · subst own
    exact kept (by simpa using holds)
  · simpa [Function.update_of_ne own] using holds

private theorem encard_enters :
    {other | property (Function.update phases client moved other)}.encard ≤
      {other | other ≠ client ∧ property (phases other)}.encard + 1 := by
  have within : {other | property (Function.update phases client moved other)} ⊆
      insert client {other | other ≠ client ∧ property (phases other)} := by
    intro other holds
    by_cases own : other = client
    · exact .inl own
    · exact .inr ⟨own, by simpa [Function.update_of_ne own] using holds⟩
  exact (Set.encard_le_encard within).trans (Set.encard_insert_le _ _)

private theorem encard_leaves (was : property (phases client)) (left : ¬ property moved) :
    {other | property (Function.update phases client moved other)}.encard + 1 ≤
      {other | property (phases other)}.encard := by
  have present : client ∈ {other | property (phases other)} := was
  rw [← Set.encard_sdiff_singleton_add_one present]
  refine add_le_add_left (Set.encard_le_encard fun other holds => ?_) 1
  by_cases own : other = client
  · subst own
    exact absurd (by simpa using holds) left
  · exact ⟨by simpa [Function.update_of_ne own] using holds, own⟩

end Moving

/-- The statements that write counters. -/
def MessageCommand.writesQuota : MessageCommand → Bool
  | .supabase (.incrementQuota _ _ _ _) | .supabase (.upsertQuota _ _ _) => true
  | _ => false

theorem quota_exec {command : MessageCommand} (dealing : Dealing) (service : Service)
    (other : command.writesQuota = false) :
    (MessageCommand.exec dealing command service).2.quota = service.quota ∧
      (MessageCommand.exec dealing command service).2.tiers = service.tiers := by
  have effect : (command.effect dealing.id service).quota = service.quota ∧
      (command.effect dealing.id service).tiers = service.tiers := by
    rcases command with queue | redis | supabase | gateway | _
    · exact ⟨rfl, rfl⟩
    · cases redis with
      | expireRate userId ttlSecs =>
        simp only [MessageCommand.effect, MessageRedis.effect, Service.expireRate]
        split <;> exact ⟨rfl, rfl⟩
      | _ => exact ⟨rfl, rfl⟩
    · cases supabase with
      | incrementQuota | upsertQuota => cases other
      | _ => exact ⟨rfl, rfl⟩
    · exact ⟨rfl, rfl⟩
    · exact ⟨rfl, rfl⟩
  simp only [MessageCommand.exec]
  split
  · exact effect
  · exact ⟨rfl, rfl⟩

private theorem requests_exec {command : MessageCommand} (dealing : Dealing) (service : Service)
    (userId period : String) (other : command.writesQuota = false) :
    (MessageCommand.exec dealing command service).2.requests userId period =
      service.requests userId period := by
  rw [Service.requests, (quota_exec dealing service other).1, Service.requests]

private theorem requests_increment (service : Service) (userId period : String)
    (reqs tokens : Nat) :
    (service.incrementWrQuota userId period reqs tokens).requests userId period =
      service.requests userId period + reqs := by
  simp only [Service.requests, Service.incrementWrQuota, Service.setQuota, Function.update_self]
  cases service.quota userId period with
  | none => exact (Nat.zero_add reqs).symm
  | some row => rfl

private theorem requests_increment_other (service : Service) {holder counted userId period : String}
    (reqs tokens : Nat) (other : ¬ (holder = userId ∧ counted = period)) :
    (service.incrementWrQuota holder counted reqs tokens).requests userId period =
      service.requests userId period := by
  simp only [Service.requests, Service.incrementWrQuota, Service.setQuota]
  by_cases own : userId = holder
  · subst own
    rw [Function.update_self, Function.update_of_ne fun same => other ⟨rfl, same.symm⟩]
  · rw [Function.update_of_ne own]

private theorem requests_eq (service : Service) (userId period : String) :
    ((service.quota userId period).getD ⟨0, 0⟩).requests = service.requests userId period := by
  unfold Service.requests
  cases service.quota userId period <;> rfl

namespace QuotaInvariant

variable {userId period : String} {tier : Option Tier} {start : Nat} {watch : QuotaWatch}
variable {service after : Service} {moved : QuotaPhase} {stopped : Nat → Nat} {client : Nat}

/-- A move to a phase, given what becomes of the counter and of the two sets of requests. -/
theorem move (invariant : QuotaInvariant platform userId period tier start watch service)
    (tiers : after.tiers = service.tiers)
    (above : start ≤ after.requests userId period)
    (within : after.requests userId period ≤ max start (service.requestLimit userId))
    (counted : {other | CountedIn platform userId period
      (Function.update watch.phase client moved other)}.encard ≤
        (after.requests userId period - start : ℕ))
    (admitted : {other | AdmittedIn platform userId period
      (Function.update watch.phase client moved other)}.encard ≤
        (service.requestLimit userId - after.requests userId period : ℕ))
    (reads : ∀ now read, moved = .tiered userId now read → read = tier.getD .free)
    (accounted : moved ≠ .uncounted)
    (answers : ∀ now, moved = .answered userId now →
      platform.periodKey (stopped client) = platform.periodKey now)
    (others : ∀ other, other ≠ client → stopped other = watch.stopped other) :
    QuotaInvariant platform userId period tier start
      ⟨Function.update watch.phase client moved, stopped⟩ after := by
  have limit : after.requestLimit userId = service.requestLimit userId := by
    rw [Service.requestLimit, tiers, Service.requestLimit]
  refine ⟨tiers ▸ invariant.settings, above, limit ▸ within, counted, limit ▸ admitted, ?_, ?_, ?_⟩
  · intro other now read phase
    by_cases own : other = client
    · subst own
      exact reads now read (by simpa using phase)
    · exact invariant.tiered other now read (by simpa [Function.update_of_ne own] using phase)
  · intro other
    by_cases own : other = client
    · subst own
      simpa using accounted
    · simpa [Function.update_of_ne own] using invariant.uncounted other
  · intro other now phase
    by_cases own : other = client
    · subst own
      exact answers now (by simpa using phase)
    · have same : stopped other = watch.stopped other := others other own
      have before : watch.phase other = .answered userId now := by
        simpa [Function.update_of_ne own] using phase
      exact (congrArg platform.periodKey same).trans (invariant.answered other now before)

/-- A move that neither admits nor counts a request. -/
theorem stay (invariant : QuotaInvariant platform userId period tier start watch service)
    (tiers : after.tiers = service.tiers)
    (same : after.requests userId period = service.requests userId period)
    (admits : AdmittedIn platform userId period moved →
      AdmittedIn platform userId period (watch.phase client))
    (counts : CountedIn platform userId period moved →
      CountedIn platform userId period (watch.phase client))
    (reads : ∀ now read, moved = .tiered userId now read → read = tier.getD .free)
    (accounted : moved ≠ .uncounted)
    (answers : ∀ now, moved = .answered userId now →
      platform.periodKey (stopped client) = platform.periodKey now)
    (others : ∀ other, other ≠ client → stopped other = watch.stopped other) :
    QuotaInvariant platform userId period tier start
      ⟨Function.update watch.phase client moved, stopped⟩ after := by
  refine invariant.move tiers ?_ ?_ ?_ ?_ reads accounted answers others
  · exact same ▸ invariant.above
  · exact same ▸ invariant.within
  · exact same ▸ (encard_stays counts).trans invariant.counted
  · exact same ▸ (encard_stays admits).trans invariant.admitted

/-- A request passes the check where there is room for it. -/
theorem pass (invariant : QuotaInvariant platform userId period tier start watch service)
    (tiers : after.tiers = service.tiers)
    (same : after.requests userId period = service.requests userId period) {now last : Nat}
    (room : {other | other ≠ client ∧
      AdmittedIn platform userId period (watch.phase other)}.encard +
        service.requests userId period < service.requestLimit userId) :
    QuotaInvariant platform userId period tier start
      ⟨Function.update watch.phase client (.admitted userId now last), watch.stopped⟩ after := by
  refine invariant.move tiers (same ▸ invariant.above) (same ▸ invariant.within) ?_ ?_
    (fun _ _ impossible => by cases impossible) (by simp) (fun _ impossible => by cases impossible)
    fun _ _ => rfl
  · refine same ▸ (encard_stays ?_).trans invariant.counted
    rintro ⟨_, impossible | impossible, _⟩ <;> cases impossible
  · refine encard_enters.trans ?_
    generalize {other | other ≠ client ∧
      AdmittedIn platform userId period (watch.phase other)}.encard = others at room ⊢
    rw [same]
    cases others with
    | top => simp at room
    | coe others =>
      have bound : others + service.requests userId period < service.requestLimit userId := by
        exact_mod_cast room
      exact_mod_cast (by omega : others + 1 ≤ service.requestLimit userId -
        service.requests userId period)

/-- An admitted request is counted. -/
theorem count (invariant : QuotaInvariant platform userId period tier start watch service)
    (tiers : after.tiers = service.tiers)
    (next : after.requests userId period = service.requests userId period + 1) {now : Nat}
    (admitted : AdmittedIn platform userId period (watch.phase client)) :
    QuotaInvariant platform userId period tier start
      ⟨Function.update watch.phase client (.counted userId now), watch.stopped⟩ after := by
  have left : {other | AdmittedIn platform userId period
      (Function.update watch.phase client (.counted userId now) other)}.encard + 1 ≤
      (service.requestLimit userId - service.requests userId period : ℕ) := by
    refine (encard_leaves admitted ?_).trans invariant.admitted
    rintro ⟨_, _, impossible, _⟩
    cases impossible
  have entered : {other | CountedIn platform userId period
      (Function.update watch.phase client (.counted userId now) other)}.encard ≤
      (service.requests userId period - start : ℕ) + 1 := by
    refine encard_enters.trans (add_le_add_left (le_trans (Set.encard_le_encard ?_)
      invariant.counted) 1)
    exact fun other holds => holds.2
  have above := invariant.above
  have within := invariant.within
  have room : service.requests userId period < service.requestLimit userId := by
    have one : (1 : ℕ∞) ≤ (service.requestLimit userId - service.requests userId period : ℕ) :=
      le_trans le_add_self left
    have one : 1 ≤ service.requestLimit userId - service.requests userId period := by
      exact_mod_cast one
    omega
  refine invariant.move tiers (by omega) (by omega) ?_ ?_
    (fun _ _ impossible => by cases impossible) (by simp) (fun _ impossible => by cases impossible)
    fun _ _ => rfl
  · refine entered.trans ?_
    exact_mod_cast (by omega : service.requests userId period - start + 1 ≤
      after.requests userId period - start)
  · generalize {other | AdmittedIn platform userId period
      (Function.update watch.phase client (.counted userId now) other)}.encard = waiting at left ⊢
    cases waiting with
    | top => simp at left
    | coe waiting =>
      have bound : waiting + 1 ≤ service.requestLimit userId - service.requests userId period := by
        exact_mod_cast left
      exact_mod_cast (by omega : waiting ≤ service.requestLimit userId -
        after.requests userId period)

/-- A move that leaves the request in its phase. -/
theorem unmoved (invariant : QuotaInvariant platform userId period tier start watch service)
    (tiers : after.tiers = service.tiers)
    (same : after.requests userId period = service.requests userId period)
    (still : moved = watch.phase client) :
    QuotaInvariant platform userId period tier start
      ⟨Function.update watch.phase client moved, watch.stopped⟩ after :=
  invariant.stay tiers same (still ▸ id) (still ▸ id) (still ▸ invariant.tiered client)
    (still ▸ invariant.uncounted client) (still ▸ invariant.answered client) fun _ _ => rfl

/-- The request is no longer one of those that the counter has to make room for. -/
theorem leave (invariant : QuotaInvariant platform userId period tier start watch service)
    (tiers : after.tiers = service.tiers)
    (same : after.requests userId period = service.requests userId period)
    (plain : moved = .unread ∨ moved = .spent ∨ ∃ now, moved = .dated now) :
    QuotaInvariant platform userId period tier start
      ⟨Function.update watch.phase client moved, watch.stopped⟩ after := by
  refine invariant.stay tiers same ?_ ?_ ?_ ?_ ?_ fun _ _ => rfl
  all_goals obtain rfl | rfl | ⟨now, rfl⟩ := plain
  all_goals first
    | exact fun ⟨_, _, impossible, _⟩ => by cases impossible
    | exact fun ⟨_, phase, _⟩ => phase.elim (fun impossible => by cases impossible)
        fun impossible => by cases impossible
    | exact fun _ _ impossible => by cases impossible
    | exact fun _ impossible => by cases impossible
    | exact fun impossible => by cases impossible

end QuotaInvariant

/-- What the two statements and the timer have to meet. -/
def Permitted {platform : ServicePlatform} (watch : QuotaWatch)
    (config : (messageService platform).Config) (move : (messageService platform).Move) : Prop :=
  StatementsSucceed config move ∧ FindsRoom watch config move

section Exchange

variable {userId period : String} {tier : Option Tier} {start : Nat} {watch : QuotaWatch}
variable {service : Service} {client : Nat} {dealing : Dealing}

/-- The state after a command of a request. -/
def Exchanged (platform : ServicePlatform) (userId period : String) (tier : Option Tier)
    (start : Nat) (watch : QuotaWatch) (client : Nat) (command : MessageCommand) (dealing : Dealing)
    (service : Service) : Prop :=
  QuotaInvariant platform userId period tier start
    ((quotaGhost platform).exchange watch client command dealing service)
    (MessageCommand.exec dealing command service).2

theorem exchanged_neutral {command : MessageCommand}
    (invariant : QuotaInvariant platform userId period tier start watch service)
    (neutral : command.quotaNeutral = true) :
    Exchanged platform userId period tier start watch client command dealing service := by
  have other : command.writesQuota = false := by
    unfold MessageCommand.writesQuota
    split
    · cases neutral
    · cases neutral
    · rfl
  have still : (watch.phase client).advance command (MessageCommand.exec dealing command service).1 =
      watch.phase client := QuotaPhase.advance_of_neutral _ neutral
  have kept := invariant.unmoved (quota_exec dealing service other).2
    (requests_exec dealing service userId period other) still
  unfold Exchanged quotaGhost
  cases command with
  | timer => cases neutral
  | _ => exact kept

private theorem exchanged_time
    (invariant : QuotaInvariant platform userId period tier start watch service) :
    Exchanged platform userId period tier start watch client (.queue .time) dealing service := by
  have tiers := (@quota_exec (.queue .time) dealing service rfl).2
  have same := @requests_exec (.queue .time) dealing service userId period rfl
  unfold Exchanged quotaGhost
  dsimp only
  cases phase : watch.phase client with
  | unread => exact invariant.leave tiers same (.inr (.inr ⟨_, rfl⟩))
  | admitted holder now last =>
    refine invariant.stay tiers same ?_ ?_ (fun _ _ impossible => by cases impossible)
      (fun impossible => by cases impossible) (fun _ impossible => by cases impossible)
      fun _ _ => rfl
    · rintro ⟨_, _, holds, inPeriod⟩
      cases holds
      exact ⟨now, last, phase, inPeriod⟩
    · rintro ⟨_, impossible | impossible, _⟩ <;> cases impossible
  | _ => exact invariant.unmoved tiers same phase.symm

private theorem exec_statement {command : MessageSupabase} (succeeds : dealing.fails = false)
    (generates : command.generates dealing.id service = true) :
    MessageCommand.exec dealing (.supabase command) service =
      (command.answer dealing.id service, command.effect dealing.id service) := by
  obtain ⟨outcome, id⟩ := dealing
  cases outcome with
  | failed performed failure => cases succeeds
  | _ =>
    simp only [MessageCommand.exec, MessageCommand.takesEffect, MessageCommand.answer,
      MessageCommand.effect, generates]
    rfl

private theorem exchanged_tier {holder : String}
    (invariant : QuotaInvariant platform userId period tier start watch service)
    (succeeds : dealing.fails = false)
    (allowed : (watch.phase client).Allowed platform (.supabase (.selectTier holder))) :
    Exchanged platform userId period tier start watch client (.supabase (.selectTier holder)) dealing
      service := by
  obtain ⟨now, dated⟩ := allowed
  unfold Exchanged quotaGhost
  dsimp only
  rw [exec_statement succeeds rfl]
  rw [dated]
  refine invariant.stay rfl rfl ?_ ?_ ?_ (fun impossible => by cases impossible)
    (fun _ impossible => by cases impossible) fun _ _ => rfl
  · rintro ⟨_, _, impossible, _⟩
    cases impossible
  · rintro ⟨_, impossible | impossible, _⟩ <;> cases impossible
  · intro now read same
    cases same
    exact congrArg (Option.getD · Tier.free) invariant.settings

private theorem exchanged_quota {holder queried : String}
    (invariant : QuotaInvariant platform userId period tier start watch service)
    (succeeds : dealing.fails = false)
    (allowed : (watch.phase client).Allowed platform (.supabase (.selectQuota holder queried)))
    (room : service.requestLimit holder ≤ service.requests holder queried ∨
      {other | other ≠ client ∧ AdmittedIn platform holder queried (watch.phase other)}.encard +
        service.requests holder queried < service.requestLimit holder) :
    Exchanged platform userId period tier start watch client (.supabase (.selectQuota holder queried))
      dealing service := by
  obtain ⟨now, read, tiered, rfl⟩ := allowed
  unfold Exchanged quotaGhost
  dsimp only
  rw [exec_statement succeeds rfl]
  rw [tiered]
  have reads : QuotaPhase.advance (.tiered holder now read)
      (.supabase (.selectQuota holder (platform.periodKey now)))
      (.ok (service.quota holder (platform.periodKey now))) =
        if (tierLimits read).requests ≤
          ((service.quota holder (platform.periodKey now)).getD ⟨0, 0⟩).requests then .spent
        else .admitted holder now now := rfl
  refine Eq.mpr (congrArg (fun moved => QuotaInvariant platform userId period tier start
    ⟨Function.update watch.phase client moved, watch.stopped⟩ service) reads) ?_
  split
  · exact invariant.leave rfl rfl (.inr (.inl rfl))
  · rename_i free
    by_cases own : holder = userId ∧ platform.periodKey now = period
    · obtain ⟨rfl, rfl⟩ := own
      have limit : service.requestLimit holder = (tierLimits read).requests := by
        rw [invariant.tiered client now read tiered, Service.requestLimit, invariant.settings]
      rw [requests_eq, ← limit] at free
      exact invariant.pass rfl rfl (room.resolve_left free)
    · refine invariant.stay rfl rfl ?_ ?_ (fun _ _ impossible => by cases impossible)
        (fun impossible => by cases impossible) (fun _ impossible => by cases impossible)
        fun _ _ => rfl
      · rintro ⟨_, _, same, inPeriod⟩
        cases same
        exact absurd ⟨rfl, inPeriod⟩ own
      · rintro ⟨_, impossible | impossible, _⟩ <;> cases impossible

private theorem exchanged_increment {holder counted : String} {reqs tokens : Nat}
    (invariant : QuotaInvariant platform userId period tier start watch service)
    (succeeds : dealing.fails = false)
    (allowed : (watch.phase client).Allowed platform
      (.supabase (.incrementQuota holder counted reqs tokens)))
    (inPeriod : ∀ now last, watch.phase client = .admitted holder now last →
      counted = platform.periodKey now) :
    Exchanged platform userId period tier start watch client
      (.supabase (.incrementQuota holder counted reqs tokens)) dealing service := by
  obtain ⟨now, last, admitted, _, rfl⟩ := allowed
  have checked := inPeriod now last admitted
  unfold Exchanged quotaGhost
  dsimp only
  rw [exec_statement succeeds rfl]
  rw [admitted]
  suffices after : QuotaInvariant platform userId period tier start
      ⟨Function.update watch.phase client (.counted holder now), watch.stopped⟩
      (service.incrementWrQuota holder counted 1 tokens) from after
  rw [checked]
  by_cases own : holder = userId ∧ platform.periodKey now = period
  · obtain ⟨rfl, rfl⟩ := own
    have next := requests_increment service holder (platform.periodKey now) 1 tokens
    refine invariant.count ?_ next ⟨now, last, admitted, rfl⟩
    rfl
  · refine invariant.stay rfl (requests_increment_other service 1 tokens own) ?_ ?_
      (fun _ _ impossible => by cases impossible) (fun impossible => by cases impossible)
      (fun _ impossible => by cases impossible) fun _ _ => rfl
    · rintro ⟨_, _, impossible, _⟩
      cases impossible
    · rintro ⟨_, counts | impossible, inPeriod⟩
      · cases counts
        exact absurd ⟨rfl, inPeriod⟩ own
      · cases impossible

private theorem exchanged_timer
    (invariant : QuotaInvariant platform userId period tier start watch service)
    (allowed : (watch.phase client).Allowed platform .timer)
    (inPeriod : ∀ holder now, watch.phase client = .counted holder now →
      platform.periodKey service.queue.clock = platform.periodKey now) :
    Exchanged platform userId period tier start watch client .timer dealing service := by
  have tiers := (@quota_exec .timer dealing service rfl).2
  have same := @requests_exec .timer dealing service userId period rfl
  have others : ∀ other, other ≠ client →
      Function.update watch.stopped client service.queue.clock other = watch.stopped other :=
    fun other different => Function.update_of_ne different _ _
  unfold Exchanged quotaGhost
  dsimp only
  cases phase : watch.phase client with
  | answered holder now => exact (phase ▸ allowed).elim
  | counted holder start =>
    refine invariant.stay tiers same ?_ ?_ (fun _ _ impossible => by cases impossible)
      (fun impossible => by cases impossible) ?_ others
    · rintro ⟨_, _, impossible, _⟩
      cases impossible
    · rintro ⟨now, impossible | answered, counted⟩
      · cases impossible
      · cases answered
        exact ⟨_, .inl phase, counted⟩
    · intro now answered
      cases answered
      rw [Function.update_self]
      exact inPeriod _ _ phase
  | admitted holder now last =>
    refine invariant.stay tiers same ?_ ?_ (fun _ _ impossible => by cases impossible)
      (fun impossible => by cases impossible) (fun _ impossible => by cases impossible) others
    · rintro ⟨_, _, impossible, _⟩
      cases impossible
    · rintro ⟨_, impossible | impossible, _⟩ <;> cases impossible
  | _ =>
    refine invariant.stay tiers same (fun admitted => phase ▸ admitted)
      (fun counted => phase ▸ counted)
      (fun now read tiered => invariant.tiered client now read (phase.trans tiered))
      (fun uncounted => invariant.uncounted client (phase.trans uncounted)) (fun now answered => ?_)
      others
    cases answered

end Exchange

private theorem quota_keeps (platform : ServicePlatform) (userId period : String)
    (tier : Option Tier)
    (start : Nat) :
    (quotaPhases platform).Keeps Permitted (QuotaInvariant platform userId period tier start) where
  follows _ _ _ request _ := (postMessage_follows request).imp fun _ _ _ => trivial
  command watch config client dealing request command rest permitted running allowed invariant := by
    obtain ⟨succeeds, room, counting, timing⟩ := permitted
    have next : (config.threads client).next? = some command := by
      rw [running]
      rfl
    cases command with
    | queue command =>
      cases command with
      | time => exact exchanged_time invariant
      | _ => exact exchanged_neutral invariant rfl
    | redis command => exact exchanged_neutral invariant rfl
    | gateway command => exact exchanged_neutral invariant rfl
    | timer =>
      exact exchanged_timer invariant allowed fun holder now counted => timing holder now next counted
    | supabase command =>
      have succeeds := succeeds command next
      cases command with
      | selectTier holder => exact exchanged_tier invariant succeeds allowed
      | selectQuota holder queried =>
        exact exchanged_quota invariant succeeds allowed (room holder queried next)
      | incrementQuota holder counted reqs tokens =>
        exact exchanged_increment invariant succeeds allowed fun now last admitted =>
          counting holder counted reqs tokens now last next admitted
      | upsertQuota holder counted row => exact absurd allowed (invariant.uncounted client)
      | _ => exact exchanged_neutral invariant rfl
  event watch config event _ invariant := by
    cases event <;> exact ⟨invariant.settings, invariant.above, invariant.within, invariant.counted,
      invariant.admitted, invariant.tiered, invariant.uncounted, invariant.answered⟩
  crash watch config client _ invariant := invariant.leave rfl rfl (.inl rfl)

/-- Nothing is counted or waits to be counted before the first request. -/
theorem quotaInvariant_initial (platform : ServicePlatform) (userId period : String)
    (service : Service) :
    QuotaInvariant platform userId period (service.tiers userId)
      (service.requests userId period) QuotaWatch.initial service := by
  refine ⟨rfl, le_refl _, le_max_left _ _, ?_, ?_, ?_, ?_, ?_⟩
  · have none : {client | CountedIn platform userId period (QuotaWatch.initial.phase client)} = ∅ :=
      Set.eq_empty_of_forall_notMem fun client ⟨_, phase, _⟩ =>
        phase.elim (fun same => by cases same) fun same => by cases same
    rw [none]
    simp
  · have none : {client | AdmittedIn platform userId period (QuotaWatch.initial.phase client)} = ∅ :=
      Set.eq_empty_of_forall_notMem fun client ⟨_, _, same, _⟩ => by cases same
    rw [none]
    simp
  · exact fun _ _ _ same => by cases same
  · exact fun _ same => by cases same
  · exact fun _ _ same => by cases same

variable {userId period : String} {service : Service} {moves : List (messageService platform).Move}
variable {final : QuotaWatch} {last : (messageService platform).Config}

/-- In every run whose checks find room, the requests of a user that are accepted in a period
are within what was left of the limit. -/
theorem accepted_within_limit
    (run : Watched (quotaGhost platform) Permitted .initial (.initial service) moves final last) :
    (AcceptedIn userId period final last).encard ≤
      (service.requestLimit userId - service.requests userId period : ℕ) := by
  have invariant := (quota_keeps platform userId period (service.tiers userId)
    (service.requests userId period)).run run (fun _ => rfl)
    (quotaInvariant_initial platform userId period service)
  have ends : ∀ client, @ThreadEnds _ _ (messageService platform) (quotaObserver platform)
      QuotaEnds (final.phase client) (last.threads client) :=
    (quotaPhases platform).run_ends run postMessage_follows fun _ => rfl
  have counted : AcceptedIn userId period final last ⊆
      {client | CountedIn platform userId period (final.phase client)} := by
    rintro client ⟨request, reply, returned, counts, own, inPeriod⟩
    have ended := ends client
    rw [returned] at ended
    obtain ⟨holder, now, asked, phase⟩ | uncounted := ended counts
    · cases own.symm.trans asked
      exact ⟨now, .inr phase, (invariant.answered client now phase).symm.trans inPeriod⟩
    · exact absurd uncounted (invariant.uncounted client)
  refine ((Set.encard_le_encard counted).trans invariant.counted).trans ?_
  have within := invariant.within
  have limit : last.world.requestLimit userId = service.requestLimit userId := by
    rw [Service.requestLimit, invariant.settings, Service.requestLimit]
  exact_mod_cast (by omega : last.world.requests userId period - service.requests userId period ≤
    service.requestLimit userId - service.requests userId period)

/-- The requests of the clients 0 and 1, whose commands succeed. -/
def sampleSucceeds : (messageService sampleServicePlatform).Move → Bool
  | .act (.start client _) => decide (client < 2)
  | .act (.step client dealing) => decide (client < 2) && !dealing.fails
  | .act (.environment _) | .crash _ => false

/-- Neither of the two passes the check while the other one is admitted. -/
def sampleTurns (watch : QuotaWatch) (config : (messageService sampleServicePlatform).Config)
    (move : (messageService sampleServicePlatform).Move) : Bool :=
  sampleSucceeds move &&
    match move with
    | .act (.step client _) =>
      match (config.threads client).next? with
      | some (.supabase (.selectQuota _ _)) =>
        match watch.phase (1 - client) with
        | .admitted _ _ _ => false
        | _ => true
      | some (.supabase (.incrementQuota _ period _ _)) => decide (period = "2026-01")
      | _ => true
    | _ => true

/-- Others than the two do not come to have a phase. -/
def OnlyTwo (watch : QuotaWatch) : Prop := ∀ other, 2 ≤ other → watch.phase other = .unread

private theorem mover_of_succeeds {move : (messageService sampleServicePlatform).Move}
    {client : Nat}
    (succeeds : sampleSucceeds move = true) (own : move.client? = some client) : client < 2 := by
  cases move with
  | crash => cases succeeds
  | act action =>
    cases action with
    | environment => cases succeeds
    | start =>
      cases own
      exact of_decide_eq_true succeeds
    | step =>
      cases own
      exact of_decide_eq_true (Bool.and_eq_true_iff.mp succeeds).1

theorem OnlyTwo.note {watch : QuotaWatch} {config next : (messageService sampleServicePlatform).Config}
    {move : (messageService sampleServicePlatform).Move} (succeeds : sampleSucceeds move = true)
    (moved : config.move? move = some next) (two : OnlyTwo watch) :
    OnlyTwo ((quotaGhost sampleServicePlatform).note watch config move) := by
  intro other high
  refine ((quotaPhases sampleServicePlatform).note_other moved fun own => ?_).trans (two other high)
  have low := mover_of_succeeds succeeds own
  omega

private theorem statements_of_sample {config : (messageService sampleServicePlatform).Config}
    {move : (messageService sampleServicePlatform).Move} (succeeds : sampleSucceeds move = true) :
    StatementsSucceed config move := by
  cases move with
  | crash => cases succeeds
  | act action =>
    cases action with
    | start | environment => trivial
    | step => exact fun _ _ => (Bool.not_eq_true' _).mp (Bool.and_eq_true_iff.mp succeeds).2

/-- While the other one is not admitted, nobody is. -/
theorem room_of_turns {watch : QuotaWatch} {config : (messageService sampleServicePlatform).Config}
    {move : (messageService sampleServicePlatform).Move} (turns : sampleTurns watch config move = true)
    (two : OnlyTwo watch) : Permitted watch config move := by
  obtain ⟨succeeds, turns⟩ := Bool.and_eq_true_iff.mp turns
  refine ⟨statements_of_sample succeeds, ?_⟩
  cases move with
  | crash => cases succeeds
  | act action =>
    cases action with
    | start | environment => trivial
    | step client dealing =>
      refine ⟨fun userId period next => ?_, fun userId period reqs tokens now last next _ => ?_,
        fun _ _ _ _ => rfl⟩
      · simp only [next] at turns
        have none : {other | other ≠ client ∧
            AdmittedIn sampleServicePlatform userId period (watch.phase other)} = ∅ := by
          refine Set.eq_empty_of_forall_notMem fun other ⟨different, now, last, admitted, _⟩ => ?_
          have low : client < 2 := mover_of_succeeds succeeds rfl
          rcases lt_or_ge other 2 with low' | high
          · have same : 1 - client = other := by omega
            simp only [same, admitted] at turns
            cases turns
          · rw [two other high] at admitted
            cases admitted
        rw [none, Set.encard_empty, zero_add]
        exact_mod_cast le_or_gt _ _
      · simp only [next] at turns
        exact of_decide_eq_true turns

def acceptedThread (thread : (messageService sampleServicePlatform).Thread) : Bool :=
  match thread with
  | .returned request reply => reply.counts && decide (request.userId = some "user")
  | _ => false

private theorem accepted_of_thread {watch : QuotaWatch}
    {config : (messageService sampleServicePlatform).Config} {client : Nat}
    (accepted : acceptedThread (config.threads client) = true) :
    client ∈ AcceptedIn "user" "2026-01" watch config := by
  unfold acceptedThread at accepted
  split at accepted
  · rename_i request reply returned
    obtain ⟨counts, own⟩ := Bool.and_eq_true_iff.mp accepted
    exact ⟨request, reply, returned, counts, of_decide_eq_true own, rfl⟩
  · cases accepted

/-- What the client inserts gets the client's id. -/
def sampleStep (client : Nat) : (messageService sampleServicePlatform).Move :=
  .act (.step client (generating (if client = 0 then "a" else "b")))

/-- A request that does not ask to be answered once. -/
def keyless : MessageRequest := { sampleRequest with idempotencyHeader := none }

/-- One request after the other. -/
def inTurn : List (messageService sampleServicePlatform).Move :=
  .act (.start 0 keyless) :: .act (.start 1 keyless) ::
    (List.replicate 25 (sampleStep 0) ++ List.replicate 24 (sampleStep 1))

/-- Both at once. -/
def atOnce : List (messageService sampleServicePlatform).Move :=
  .act (.start 0 keyless) :: .act (.start 1 keyless) ::
    ((List.replicate 24 [sampleStep 0, sampleStep 1]).flatten ++ [sampleStep 0])

theorem sample_within_limit :
    ∃ final last, Watched (quotaGhost sampleServicePlatform) Permitted .initial
        (.initial (sampleServiceWorld 48)) inTurn final last ∧
      (AcceptedIn "user" "2026-01" final last).encard ≤ (50 - 48 : ℕ) := by
  obtain ⟨final, last, run, _⟩ := Watched.of_check (quotaGhost sampleServicePlatform)
    (fun watch config move => sampleTurns watch config move = true) .initial
    (.initial (sampleServiceWorld 48)) inTurn
    (fun _ last => acceptedThread (last.threads 0) && acceptedThread (last.threads 1))
    (by decide +kernel)
  have run := run.imp_of_invariant (fun watch _ => OnlyTwo watch)
    (fun _ _ _ _ turns moved => OnlyTwo.note (Bool.and_eq_true_iff.mp turns).1 moved)
    (fun _ _ _ => room_of_turns) fun _ _ => rfl
  exact ⟨final, last, run, accepted_within_limit run⟩

/-- With one request left, two that read the counter at once are both accepted. -/
theorem limit_exceeded : ¬ ∀ moves final last, Watched (quotaGhost sampleServicePlatform)
    (fun _ => StatementsSucceed) .initial (.initial (sampleServiceWorld 49)) moves final last →
      (AcceptedIn "user" "2026-01" final last).encard ≤ (50 - 49 : ℕ) := by
  intro bounded
  obtain ⟨final, last, run, checked⟩ := Watched.of_check (quotaGhost sampleServicePlatform)
    (fun _ _ move => sampleSucceeds move = true) .initial
    (.initial (sampleServiceWorld 49)) atOnce
    (fun _ last => acceptedThread (last.threads 0) && acceptedThread (last.threads 1))
    (by decide +kernel)
  obtain ⟨first, second⟩ := Bool.and_eq_true_iff.mp checked
  have pair : ({0, 1} : Set Nat) ⊆ AcceptedIn "user" "2026-01" final last := by
    rintro client (rfl | rfl)
    · exact accepted_of_thread first
    · exact accepted_of_thread second
  have two : ((2 : ℕ) : ℕ∞) ≤ (50 - 49 : ℕ) := by
    refine le_trans (le_of_eq ?_) ((Set.encard_le_encard pair).trans
      (bounded _ final last (run.imp fun _ _ _ => statements_of_sample)))
    exact (Set.encard_pair (by decide)).symm
  exact absurd (by exact_mod_cast two) (by decide : ¬ 2 ≤ 50 - 49)

end BrainMate.WriteRight
