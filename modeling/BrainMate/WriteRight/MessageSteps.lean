import BrainMate.WriteRight.MessageRoute

namespace BrainMate.WriteRight

open Interleaving Program

def MessageCommand.quiet : MessageCommand → Bool
  | .queue .isCircuitOpen | .queue (.redis (.deleteStats _)) | .gateway _
  | .redis (.incrRate _) | .redis (.expireRate _ _) | .redis .queueDepth | .redis (.getCache _)
  | .supabase (.incrementDailyUsage _ _ _) | .supabase (.selectChat _ _)
  | .supabase (.selectHistory _ _ _) => true
  | _ => false

theorem user_of_parse {platform : ServicePlatform} {context : MessageContext}
    {request : MessageRequest} (parsed : parseRequest platform request = .ok context) :
    request.userId = some context.userId := by
  unfold parseRequest at parsed
  split at parsed
  · cases parsed
  · rename_i userId known
    split at parsed
    · cases parsed
    · cases parsed
      exact known

section Every

variable {property : MessageCommand → Prop} {α : Type}

private theorem every_throwing
    {answer : Program MessageCommand MessageCommand.Reply (Except Failure α)}
    (every : answer.Every property) : (throwing answer).run.Every property := by
  refine Every.bind every fun result => ?_
  cases result <;> trivial

theorem every_redisCall {command : MessageRedis} (holds : property (.redis command)) :
    (redisCall command).run.Every property :=
  every_throwing ⟨holds, fun _ => trivial⟩

private theorem every_gatewayCall {command : MessageGateway} (holds : property (.gateway command)) :
    (gatewayCall command).run.Every property :=
  every_throwing ⟨holds, fun _ => trivial⟩

theorem every_statement {command : MessageSupabase} (holds : property (.supabase command)) :
    (statement command).run.Every property :=
  ⟨holds, fun _ => trivial⟩

theorem every_circuitOpen (holds : property (.queue .isCircuitOpen)) :
    circuitOpen.run.Every property :=
  ⟨holds, fun _ => trivial⟩

private theorem every_clock (holds : property (.queue .time)) : clock.run.Every property :=
  ⟨holds, fun _ => trivial⟩

theorem every_orElse {body fallback : Handler α} (first : body.run.Every property)
    (rest : fallback.run.Every property) : (orElse body fallback).run.Every property :=
  Every.rescue first fun _ => rest

end Every

abbrev Quiet (command : MessageCommand) : Prop := command.quiet = true

theorem enforceRate_quiet (context : MessageContext) (quota : Quota) :
    (enforceRate context quota).run.Every Quiet := by
  refine Every.andThen (every_orElse ?_ trivial) fun allowed => ?_
  · refine Every.andThen (every_circuitOpen rfl) fun opened => ?_
    cases opened with
    | true => trivial
    | false =>
      refine Every.andThen (every_redisCall rfl) fun count => ?_
      split
      · exact Every.andThen (every_redisCall rfl) fun _ => trivial
      · trivial
  · cases allowed <;> trivial

theorem checkQueueDepth_quiet : checkQueueDepth.run.Every Quiet := by
  refine Every.andThen (every_circuitOpen rfl) fun opened => ?_
  cases opened with
  | true => trivial
  | false =>
    refine Every.andThen (every_orElse (every_redisCall rfl) trivial) fun depth => ?_
    split <;> trivial

theorem fetchChatHistory_quiet (platform : ServicePlatform) (chatId currentMessageId : String) :
    (fetchChatHistory platform chatId currentMessageId).run.Every Quiet := by
  refine Every.andThen (every_statement rfl) fun rows => ?_
  cases rows <;> trivial

theorem getCachedAIResponse_quiet (material : String) :
    (getCachedAIResponse material).run.Every Quiet := by
  refine Every.andThen (every_circuitOpen rfl) fun opened => ?_
  cases opened with
  | true => trivial
  | false => exact every_redisCall rfl

theorem invalidateStatsCache_quiet (userId : String) :
    (invalidateStatsCache userId).run.Every Quiet := by
  refine Every.andThen (every_circuitOpen rfl) fun opened => ?_
  cases opened with
  | true => trivial
  | false => exact every_orElse ⟨rfl, fun reply => by cases reply <;> trivial⟩ trivial

theorem every_fetchGmail {property : MessageCommand → Prop}
    (holds : ∀ command, property (.gateway command)) (context : MessageContext) :
    (fetchGmail context).run.Every property := by
  unfold fetchGmail
  split
  · refine every_orElse (Every.andThen (every_gatewayCall (holds _)) fun connected => ?_) trivial
    split
    · exact Every.andThen (every_gatewayCall (holds _)) fun _ => trivial
    · trivial
  · trivial

section Steps

variable {property : MessageCommand → Prop} (quiet : ∀ command, Quiet command → property command)
variable (timed : property (.queue .time)) {platform : ServicePlatform} {context : MessageContext}

include quiet timed in
theorem every_admitMessage (tier : ∀ userId, property (.supabase (.selectTier userId)))
    (quota : ∀ userId period, property (.supabase (.selectQuota userId period))) :
    (admitMessage platform context).run.Every property := by
  refine Every.andThen (Every.andThen ?_ fun quota => ?_) fun quota => ?_
  · refine Every.andThen (every_clock timed) fun _ => ?_
    refine Every.andThen (every_statement (tier _)) fun _ => ?_
    exact Every.andThen (every_statement (quota _ _)) fun _ => trivial
  · split
    · trivial
    · split <;> trivial
  · refine Every.andThen (every_statement (quiet _ rfl)) fun _ => ?_
    exact Every.andThen ((enforceRate_quiet context quota).imp quiet) fun _ =>
      checkQueueDepth_quiet.imp quiet

include quiet in
theorem every_insertMessage
    (insert : ∀ userId input content, property (.supabase (.insertUserMessage userId input content))) :
    (insertMessage context).run.Every property := by
  refine Every.andThen (every_statement (quiet _ rfl)) fun chat => ?_
  rcases chat with failure | _ | chat
  · trivial
  · trivial
  · refine Every.andThen (every_statement (insert _ _ _)) fun answer => ?_
    cases answer <;> trivial

include timed in
theorem every_incrementQuotaUsage
    (increment : ∀ userId period reqs tokens,
      property (.supabase (.incrementQuota userId period reqs tokens)))
    (upsert : ∀ userId period row, property (.supabase (.upsertQuota userId period row))) :
    (incrementQuotaUsage platform context).run.Every property := by
  refine Every.andThen (every_clock timed) fun now => ?_
  refine Every.andThen (every_statement (increment _ _ _ _)) fun answer => ?_
  cases answer with
  | ok _ => trivial
  | error _ =>
    refine Every.andThen (every_clock timed) fun _ => ?_
    exact Every.andThen (every_statement (upsert _ _ _)) fun _ => trivial

include quiet in
theorem every_priorResponse (lookup : ∀ key, property (.redis (.getIdempotent key))) :
    (priorResponse context).run.Every property := by
  unfold priorResponse
  split
  · trivial
  · refine Every.andThen (every_circuitOpen (quiet _ rfl)) fun opened => ?_
    cases opened with
    | true => trivial
    | false => exact every_redisCall (lookup _)

include quiet in
theorem every_rememberResponse {response : MessageResponse}
    (store : ∀ key ttlSecs, property (.redis (.setexIdempotent key ttlSecs response))) :
    (rememberResponse context response).run.Every property := by
  unfold rememberResponse
  split
  · trivial
  · refine Every.andThen (every_circuitOpen (quiet _ rfl)) fun opened => ?_
    cases opened with
    | true => trivial
    | false => exact every_redisCall (store _ _)

include quiet timed in
/-- The pipeline of Redis commands is for the queue and the hash of the job. -/
theorem every_enqueue {payload : WritingJobPayload}
    (adds : ∀ member score, property (.queue (.redis (.zadd member score))))
    (sets : ∀ fields, property (.queue (.redis (.hset payload.id fields))))
    (expires : ∀ ttlSecs, property (.queue (.redis (.expireHash payload.id ttlSecs)))) :
    (queued (enqueueWriteRightJob payload)).run.Every property := by
  refine ⟨quiet _ rfl, fun opened => ?_⟩
  cases opened with
  | true => trivial
  | false => exact ⟨timed, fun _ => ⟨adds _ _, fun _ => ⟨sets _, fun _ => ⟨expires _, fun _ => trivial⟩⟩⟩⟩

end Steps

def Returns {α : Type} (body : Handler α) : Prop := body.run.Ends fun result => result.isOk = true

theorem Returns.andThen {α β : Type} {body : Handler α} {next : α → Handler β}
    (first : Returns body) (rest : ∀ value, Returns (next value)) : Returns (body >>= next) := by
  refine Ends.bind first fun result returned => ?_
  cases result with
  | ok value => exact rest value
  | error thrown => cases returned

private theorem returns_orElse {α : Type} (body : Handler α) {fallback : Handler α}
    (rest : Returns fallback) : Returns (orElse body fallback) := by
  have anyhow : body.run.Ends fun _ => True := by
    induction body.run with
    | done value => trivial
    | call command next ih => exact fun reply => ih reply
  refine Ends.bind anyhow fun result _ => ?_
  cases result with
  | ok value => rfl
  | error thrown => exact rest

private theorem returns_circuitOpen : Returns circuitOpen := fun _ => rfl

private theorem returns_clock : Returns clock := fun _ => rfl

private theorem returns_statement (command : MessageSupabase) :
    Returns (statement command) := fun _ => rfl

theorem incrementQuotaUsage_returns (platform : ServicePlatform) (context : MessageContext) :
    Returns (incrementQuotaUsage platform context) := by
  refine returns_clock.andThen fun now => (returns_statement _).andThen fun answer => ?_
  cases answer with
  | ok _ => rfl
  | error _ => exact returns_clock.andThen fun _ => (returns_statement _).andThen fun _ => rfl

theorem invalidateStatsCache_returns (userId : String) : Returns (invalidateStatsCache userId) := by
  refine returns_circuitOpen.andThen fun opened => ?_
  cases opened with
  | true => rfl
  | false => exact returns_orElse _ rfl

theorem fetchGmail_returns (context : MessageContext) : Returns (fetchGmail context) := by
  unfold fetchGmail
  split
  · exact returns_orElse _ rfl
  · rfl

end BrainMate.WriteRight
