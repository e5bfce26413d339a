import BrainMate.Interleaving.Progress
import BrainMate.WriteRight.MessageClients
import BrainMate.WriteRight.MessageSteps

namespace BrainMate.WriteRight

open Interleaving Program System Storage

variable {platform : ServicePlatform}

abbrev MessageTrace (platform : ServicePlatform) : Type :=
  List (messageService platform).Exchange

/-- Between two commands of a request the others do as they like, but leave the rows of the
jobs as they are. -/
def SparesRows (first second : Service) : Prop := second.queue.jobRows = first.queue.jobRows

namespace MessageCommand

def insertsJob : MessageCommand → Bool
  | .supabase (.insertJob _ _ _ _) => true
  | _ => false

def asksCircuit : MessageCommand → Bool
  | .queue .isCircuitOpen => true
  | _ => false

def marksFailed : MessageCommand → Bool
  | .supabase (.failJob _ _) => true
  | _ => false

/-- The two commands of the pipeline that put the job and its hash where they are read. -/
def entersQueue : MessageCommand → Bool
  | .queue (.redis (.zadd _ _)) | .queue (.redis (.hset _ _)) => true
  | _ => false

/-- SETEX of an answer that reports a pending job. -/
def remembersJob : MessageCommand → Bool
  | .redis (.setexIdempotent _ _ response) => decide (response.status = .pending)
  | _ => false

def isTimer : MessageCommand → Bool
  | .timer => true
  | _ => false

end MessageCommand

/-- The request has inserted the row of the job. -/
def Creates (trace : MessageTrace platform) (jobId : String) : Prop :=
  ∃ userId messageId input inputHash dealing,
    ⟨.supabase (.insertJob userId messageId input inputHash), dealing, .ok jobId⟩ ∈ trace

/-- The commands that neither make a job nor bear on what becomes of it. -/
def BeforeJob (command : MessageCommand) : Prop :=
  command.insertsJob = false ∧ command.entersQueue = false ∧ command.marksFailed = false ∧
    command.remembersJob = false ∧ command.isTimer = false

theorem beforeJob_of_quiet {command : MessageCommand} (quiet : Quiet command) :
    BeforeJob command := by
  unfold Quiet MessageCommand.quiet at quiet
  split at quiet
  all_goals first
    | exact ⟨rfl, rfl, rfl, rfl, rfl⟩
    | cases quiet

private theorem incrementQuotaUsage_beforeJob (context : MessageContext) :
    (incrementQuotaUsage platform context).run.Every BeforeJob :=
  every_incrementQuotaUsage ⟨rfl, rfl, rfl, rfl, rfl⟩
    (fun _ _ _ _ => ⟨rfl, rfl, rfl, rfl, rfl⟩) fun _ _ _ => ⟨rfl, rfl, rfl, rfl, rfl⟩

private theorem admitMessage_beforeJob (context : MessageContext) :
    (admitMessage platform context).run.Every BeforeJob :=
  every_admitMessage (fun _ => beforeJob_of_quiet) ⟨rfl, rfl, rfl, rfl, rfl⟩
    (fun _ => ⟨rfl, rfl, rfl, rfl, rfl⟩) fun _ _ => ⟨rfl, rfl, rfl, rfl, rfl⟩

private theorem insertMessage_beforeJob (context : MessageContext) :
    (insertMessage context).run.Every BeforeJob :=
  every_insertMessage (fun _ => beforeJob_of_quiet) fun _ _ _ => ⟨rfl, rfl, rfl, rfl, rfl⟩

private theorem rememberResponse_beforeJob (context : MessageContext) {response : MessageResponse}
    (decided : response.status ≠ .pending) : (rememberResponse context response).run.Every BeforeJob :=
  every_rememberResponse (fun _ => beforeJob_of_quiet) fun _ _ =>
    ⟨rfl, rfl, rfl, decide_eq_false decided, rfl⟩

private theorem tryCache_beforeJob (context : MessageContext) (messageId : String) :
    (tryCache platform context messageId).run.Every BeforeJob := by
  have quiet {α : Type} {body : Handler α} (every : body.run.Every Quiet) :
      body.run.Every BeforeJob := every.imp fun _ => beforeJob_of_quiet
  refine every_orElse (Every.andThen (quiet (getCachedAIResponse_quiet _)) fun cached => ?_) trivial
  cases cached with
  | none => trivial
  | some result =>
    refine Every.andThen ?_ fun _ => trivial
    refine Every.andThen (every_statement ⟨rfl, rfl, rfl, rfl, rfl⟩) fun _ => ?_
    refine Every.andThen (rememberResponse_beforeJob context (by simp)) fun _ => ?_
    refine Every.andThen (incrementQuotaUsage_beforeJob context) fun _ => ?_
    exact Every.andThen (quiet (invalidateStatsCache_quiet _)) fun _ => trivial

private theorem priorResponse_beforeJob (context : MessageContext) :
    (priorResponse context).run.Every BeforeJob :=
  every_priorResponse (fun _ => beforeJob_of_quiet) fun _ => ⟨rfl, rfl, rfl, rfl, rfl⟩

variable {context : MessageContext} {service last : Service} {trace : MessageTrace platform}

/-- A request executes a procedure, while the others spare the rows of the jobs. -/
abbrev Runs {α : Type} (program : Program MessageCommand MessageCommand.Reply α) (service : Service)
    (trace : MessageTrace platform) (value : α) (last : Service) : Prop :=
  @Executes _ _ (messageService platform) _ SparesRows program service trace value last

/-- A step before the job goes through when a job is made after it. -/
theorem past_step {α β : Type} {body : Handler α} {next : α → Handler β} {result : Except Thrown β}
    (executes : Runs (body >>= next).run service trace result last)
    (every : body.run.Every BeforeJob)
    (issued : ∃ exchange ∈ trace, exchange.command.insertsJob = true) :
    ∃ earlier later value middle, trace = earlier ++ later ∧
      (∀ exchange ∈ earlier, BeforeJob exchange.command) ∧
      Runs (next value).run middle later result last ∧
      ∃ exchange ∈ later, exchange.command.insertsJob = true := by
  have plain : body.run.Every fun command => ¬ command.insertsJob = true :=
    every.imp fun command before => by simp [before.1]
  obtain ⟨earlier, later, value, middle, rfl, first, second, late⟩ :=
    executes.past_body plain issued
  exact ⟨earlier, later, value, middle, rfl, first.trace_every every, second, late⟩

/-- The part of a request's run that makes the job, with what comes before it. -/
theorem createJob_of_serve {result : Except Thrown MessageReply}
    (executes : Runs (serveMessage platform context).run service trace result last)
    (issued : ∃ exchange ∈ trace, exchange.command.insertsJob = true) :
    ∃ messageId history earlier later middle, trace = earlier ++ later ∧
      (∀ exchange ∈ earlier, BeforeJob exchange.command) ∧
      Runs (createJob platform context messageId history).run middle later result last := by
  obtain ⟨first, trace, prior, world, rfl, before₁, executes, issued⟩ :=
    past_step executes (priorResponse_beforeJob context) issued
  cases prior with
  | some response =>
    obtain ⟨_, _, rfl⟩ := executes.of_done
    obtain ⟨_, member, _⟩ := issued
    cases member
  | none =>
    obtain ⟨second, trace, _, world, rfl, before₂, executes, issued⟩ :=
      past_step executes (admitMessage_beforeJob context) issued
    obtain ⟨third, trace, messageId, world, rfl, before₃, executes, issued⟩ :=
      past_step executes (insertMessage_beforeJob context) issued
    obtain ⟨fourth, trace, history, world, rfl, before₄, executes, issued⟩ :=
      past_step executes ((fetchChatHistory_quiet platform _ _).imp fun _ => beforeJob_of_quiet)
        issued
    obtain ⟨fifth, trace, cached, world, rfl, before₅, executes, issued⟩ :=
      past_step executes (tryCache_beforeJob context messageId) issued
    cases cached with
    | some reply =>
      obtain ⟨_, _, rfl⟩ := executes.of_done
      obtain ⟨_, member, _⟩ := issued
      cases member
    | none =>
      refine ⟨messageId, history, first ++ (second ++ (third ++ (fourth ++ fifth))), trace, world,
        by simp only [List.append_assoc], ?_, executes⟩
      simp only [List.forall_mem_append]
      exact ⟨before₁, before₂, before₃, before₄, before₅⟩

/-- The answer, given what the procedure came to and whether the timer was up. -/
def answerOf (late : Bool) (result : Except Thrown MessageReply) : MessageReply :=
  if late then .refused .timeout else
    match result with
    | .ok reply => reply
    | .error thrown => .refused thrown.error

theorem serve_of_post {request : MessageRequest} {reply : MessageReply}
    (executes : Runs (postMessage platform request) service trace reply last)
    (issued : ∃ exchange ∈ trace, exchange.command.insertsJob = true) :
    ∃ context served result after, ∃ timer : (messageService platform).Exchange,
      parseRequest platform request = .ok context ∧ trace = served ++ [timer] ∧
      Runs (serveMessage platform context).run service served result after ∧
      timer.command = .timer ∧ SparesRows after last ∧
      reply = answerOf timer.outcome.fails result := by
  unfold postMessage at executes
  split at executes
  · obtain ⟨_, _, rfl⟩ := executes.of_done
    obtain ⟨_, member, _⟩ := issued
    cases member
  rename_i context parsed
  obtain ⟨timed, closing, answer, world, rfl, body, ended⟩ := executes.of_bind
  obtain ⟨served, timing, result, after, rfl, serves, timer⟩ := Executes.of_bind body
  obtain ⟨between, dealing, rest, waits, rfl, answered⟩ := Executes.of_call timer
  have still : (MessageCommand.exec dealing .timer between).2 = between := ite_self _
  have late : answer = (if dealing.fails then .error (.api .timeout) else result) ∧
      world = between ∧ rest = [] := by
    change Runs (if dealing.fails then _ else _) (MessageCommand.exec dealing .timer between).2
      rest answer world at answered
    rw [still] at answered
    split at answered
    · rename_i up
      rw [if_pos up]
      exact answered.of_done
    · rename_i early
      rw [if_neg early]
      exact answered.of_done
  obtain ⟨rfl, rfl, rfl⟩ := late
  have closed : reply = answerOf dealing.fails result ∧ last = world ∧ closing = [] := by
    cases up : dealing.fails with
    | true =>
      rw [if_pos up] at ended
      exact ended.of_done
    | false =>
      rw [if_neg (by simp [up])] at ended
      cases result with
      | ok reply => exact ended.of_done
      | error thrown => exact ended.of_done
  obtain ⟨rfl, rfl, rfl⟩ := closed
  exact ⟨context, served, result, after, ⟨.timer, dealing, dealing.fails⟩, parsed,
    List.append_nil _, serves, rfl, waits, rfl⟩

/-- The commands that leave the rows of the jobs alone. -/
def KeepsRows : MessageCommand → Bool
  | .queue (.supabase _) | .supabase (.insertJob _ _ _ _) | .supabase (.failJob _ _) => false
  | _ => true

private theorem spares_exec {command : MessageCommand} (keeps : KeepsRows command = true)
    (dealing : Dealing) (service : Service) :
    SparesRows service (MessageCommand.exec dealing command service).2 := by
  have effect : (command.effect dealing.id service).queue.jobRows = service.queue.jobRows := by
    rcases command with queue | redis | supabase | gateway | _
    · cases queue with
      | redis command => exact (tables_redis command service.queue).1
      | supabase => cases keeps
      | _ => rfl
    · cases redis with
      | expireRate userId ttlSecs =>
        simp only [MessageCommand.effect, MessageRedis.effect, Service.expireRate]
        split <;> rfl
      | _ => rfl
    · cases supabase with
      | insertJob | failJob => cases keeps
      | _ => rfl
    · rfl
    · rfl
  unfold SparesRows MessageCommand.exec
  dsimp only
  split
  · exact effect
  · rfl

/-- Commands that spare the rows, with what the others do in between. -/
theorem tolerates_keepsRows :
    Tolerates (messageService platform) SparesRows SparesRows fun command =>
      KeepsRows command = true where
  refl _ := rfl
  trans first second := second.trans first
  elapse waits := waits
  command keeps outcome service := spares_exec keeps outcome service

private theorem keepsRows_of_quiet {command : MessageCommand} (quiet : Quiet command) :
    KeepsRows command = true := by
  unfold Quiet MessageCommand.quiet at quiet
  split at quiet
  all_goals first
    | rfl
    | cases quiet

private theorem keepsRows_enqueue (payload : WritingJobPayload) :
    (queued (enqueueWriteRightJob payload)).run.Every fun command => KeepsRows command = true :=
  every_enqueue (fun _ => keepsRows_of_quiet) rfl (fun _ _ => rfl) (fun _ => rfl) fun _ => rfl

private theorem keepsRows_incrementQuotaUsage (context : MessageContext) :
    (incrementQuotaUsage platform context).run.Every fun command => KeepsRows command = true :=
  @every_incrementQuotaUsage (fun command => KeepsRows command = true) rfl _ _
    (fun _ _ _ _ => rfl) fun _ _ _ => rfl

/-- The time is read, and the three commands of the pipeline are issued. -/
def Entries (payload : WritingJobPayload) (trace : MessageTrace platform) : Prop :=
  ∃ now time zadd hset expire, trace = [time, zadd, hset, expire] ∧
    time.command = .queue .time ∧
    zadd.command = .queue (.redis (.zadd (.enqueued payload) now)) ∧
    hset.command = .queue (.redis (.hset payload.id {
      status := some .pending
      createdAt := some now
      userId := some payload.userId
      chatId := some payload.chatId })) ∧
    expire.command = .queue (.redis (.expireHash payload.id statusTtlSecs))

/-- With the circuit closed the commands are issued, whatever comes of them. -/
theorem entries_shape {payload : WritingJobPayload} {result : Except Thrown Unit}
    (executes : Runs (queued (do
      let now ← time
      pipelined (.zadd (.enqueued payload) now)
      pipelined (.hset payload.id {
        status := some .pending
        createdAt := some now
        userId := some payload.userId
        chatId := some payload.chatId })
      pipelined (.expireHash payload.id statusTtlSecs))).run service trace result last) :
    result = .ok () ∧ Entries payload trace := by
  obtain ⟨_, _, _, _, rfl, first⟩ := Executes.of_call executes
  obtain ⟨_, _, _, _, rfl, second⟩ := Executes.of_call first
  obtain ⟨_, _, _, _, rfl, third⟩ := Executes.of_call second
  obtain ⟨_, _, _, _, rfl, fourth⟩ := Executes.of_call third
  obtain ⟨rfl, _, rfl⟩ := Executes.of_done fourth
  exact ⟨rfl, _, _, _, _, _, rfl, rfl, rfl, rfl, rfl⟩

private theorem enqueue_shape {payload : WritingJobPayload} {result : Except Thrown Unit}
    (executes : Runs (queued (enqueueWriteRightJob payload)).run service trace result last) :
    ∃ circuit rest, trace = circuit :: rest ∧ circuit.command = .queue .isCircuitOpen ∧
      (circuit.outcome.fails = true ∧ (∃ thrown, result = .error thrown) ∧ rest = [] ∨
        circuit.outcome.fails = false ∧ result = .ok () ∧ Entries payload rest) := by
  obtain ⟨middle, ⟨outcome, id⟩, rest, _, rfl, continues⟩ := executes.of_call
  refine ⟨_, rest, rfl, rfl, ?_⟩
  cases outcome with
  | failed performed failure =>
    obtain ⟨rfl, _, rfl⟩ := continues.of_done
    exact .inl ⟨rfl, ⟨_, rfl⟩, rfl⟩
  | ok => exact .inr ⟨rfl, entries_shape continues⟩
  | drafted result injected => exact .inr ⟨rfl, entries_shape continues⟩

/-- Step 11, by the state of the circuit. -/
theorem enqueueJob_shape {payload : WritingJobPayload} {result : Except Thrown Unit}
    (executes : Runs (enqueueJob platform context payload).run service trace result last) :
    ∃ circuit rest, trace = circuit :: rest ∧ circuit.command = .queue .isCircuitOpen ∧
      (circuit.outcome.fails = true ∧ result = .error (.api .queueError) ∧
          (∃ mark : (messageService platform).Exchange, ∃ middle, rest = [mark] ∧
            mark.command = .supabase (.failJob payload.id "Failed to enqueue to Redis") ∧
            SparesRows service middle ∧
            last = (MessageCommand.exec mark.outcome
              (.supabase (.failJob payload.id "Failed to enqueue to Redis")) middle).2) ∨
        circuit.outcome.fails = false ∧ result = .ok () ∧ SparesRows service last ∧
          ∃ entries after, rest = entries ++ after ∧ Entries payload entries ∧
            ∀ exchange ∈ after, BeforeJob exchange.command) := by
  obtain ⟨tried, handled, answer, world, rfl, body, ended⟩ := Executes.of_bind executes
  obtain ⟨entering, following, entered, between, rfl, first, second⟩ := Executes.of_bind body
  have spared := first.respects tolerates_keepsRows (keepsRows_enqueue payload)
  obtain ⟨circuit, rest, rfl, asked, ⟨opened, ⟨thrown, rfl⟩, rfl⟩ | ⟨closed, rfl, entries⟩⟩ :=
    enqueue_shape first
  · obtain ⟨rfl, rfl, rfl⟩ := Executes.of_done second
    obtain ⟨marked, dealing, _, waits, rfl, throws⟩ := Executes.of_call ended
    obtain ⟨rfl, rfl, rfl⟩ := Executes.of_done throws
    exact ⟨circuit, _, rfl, asked, .inl ⟨opened, rfl, _, marked, rfl, rfl, waits.trans spared, rfl⟩⟩
  · have returned := second.ends ((incrementQuotaUsage_returns platform context).andThen fun _ =>
      invalidateStatsCache_returns context.userId)
    have before := second.trace_every (Every.andThen (incrementQuotaUsage_beforeJob context) fun _ =>
      (invalidateStatsCache_quiet context.userId).imp fun _ => beforeJob_of_quiet)
    have kept := second.respects tolerates_keepsRows
      (Every.andThen (keepsRows_incrementQuotaUsage context) fun _ =>
        (invalidateStatsCache_quiet context.userId).imp fun _ => keepsRows_of_quiet)
    cases answer with
    | error thrown => cases returned
    | ok =>
      obtain ⟨rfl, rfl, rfl⟩ := Executes.of_done ended
      refine ⟨circuit, _, rfl, asked, .inr ⟨closed, rfl, kept.trans spared, rest, following, ?_,
        entries, before⟩⟩
      simp

/-- SETEX of an answer that reports a job goes through where it is issued, or it fails and
the request with it. -/
def Remembered (trace : MessageTrace platform) (result : Except Thrown Unit) : Prop :=
  result = .ok () ∧ (∀ exchange ∈ trace, exchange.command.remembersJob = true →
      exchange.outcome.fails = false) ∨
    (∃ thrown, result = .error thrown) ∧ ∃ exchange ∈ trace,
      exchange.command.remembersJob = true ∧ exchange.outcome.fails = true

theorem Remembered.cons {result : Except Thrown Unit} (remembered : Remembered trace result)
    (exchange : (messageService platform).Exchange)
    (other : exchange.command.remembersJob = false) : Remembered (exchange :: trace) result := by
  obtain ⟨returned, succeed⟩ | ⟨thrown, failing, member, fails⟩ := remembered
  · refine .inl ⟨returned, List.forall_mem_cons.mpr ⟨fun remembers => ?_, succeed⟩⟩
    rw [other] at remembers
    cases remembers
  · exact .inr ⟨thrown, failing, .tail _ member, fails⟩

private theorem setex_shape {key : List UInt16} {response : MessageResponse}
    (pending : response.status = .pending) {result : Except Thrown Unit}
    (executes : Runs (redisCall (.setexIdempotent key 60 response)).run service trace result last) :
    Remembered trace result := by
  obtain ⟨middle, ⟨outcome, id⟩, _, _, rfl, answered⟩ := Executes.of_call executes
  cases outcome with
  | failed performed failure =>
    obtain ⟨rfl, _, rfl⟩ := Executes.of_done answered
    exact .inr ⟨⟨_, rfl⟩, _, .head _, decide_eq_true pending, rfl⟩
  | ok | drafted =>
    obtain ⟨rfl, _, rfl⟩ := Executes.of_done answered
    refine .inl ⟨rfl, fun exchange member _ => ?_⟩
    rw [List.mem_singleton.mp member]
    rfl

private theorem remember_shape {response : MessageResponse} (pending : response.status = .pending)
    {result : Except Thrown Unit}
    (executes : Runs (rememberResponse context response).run service trace result last) :
    Remembered trace result := by
  unfold rememberResponse at executes
  split at executes
  · obtain ⟨rfl, _, rfl⟩ := Executes.of_done executes
    exact .inl ⟨rfl, fun _ member => by cases member⟩
  obtain ⟨middle, ⟨outcome, id⟩, rest, _, rfl, continues⟩ := Executes.of_call executes
  refine Remembered.cons ?_ _ rfl
  cases outcome with
  | failed performed failure =>
    obtain ⟨rfl, _, rfl⟩ := Executes.of_done continues
    exact .inl ⟨rfl, fun _ member => by cases member⟩
  | ok | drafted => exact setex_shape pending continues

private theorem spares_remember {response : MessageResponse} :
    (rememberResponse context response).run.Every fun command =>
      command.insertsJob = false ∧ command.entersQueue = false ∧ command.marksFailed = false ∧
        command.isTimer = false ∧ KeepsRows command = true := by
  unfold rememberResponse
  split
  · trivial
  · refine Every.andThen (every_circuitOpen ⟨rfl, rfl, rfl, rfl, rfl⟩) fun opened => ?_
    cases opened with
    | true => trivial
    | false => exact every_redisCall ⟨rfl, rfl, rfl, rfl, rfl⟩

/-- With the circuit open the row is marked as failed, or it should be. -/
def Marks (jobId : String) (service : Service) (trace : MessageTrace platform) (last : Service) :
    Prop :=
  ∃ mark : (messageService platform).Exchange, ∃ middle, trace = [mark] ∧
    mark.command = .supabase (.failJob jobId "Failed to enqueue to Redis") ∧
    SparesRows service middle ∧
    last = (MessageCommand.exec mark.outcome
      (.supabase (.failJob jobId "Failed to enqueue to Redis")) middle).2

/-- With the circuit closed the job is entered, and the answer remembered. -/
structure Submission (context : MessageContext) (jobId messageId : String)
    (trace : MessageTrace platform) (result : Except Thrown MessageReply) where
  payload : WritingJobPayload
  now : Nat
  time : (messageService platform).Exchange
  zadd : (messageService platform).Exchange
  hset : (messageService platform).Exchange
  expire : (messageService platform).Exchange
  after : MessageTrace platform
  ending : MessageTrace platform
  remembered : Except Thrown Unit
  cut : trace = [time, zadd, hset, expire] ++ (after ++ ending)
  id : payload.id = jobId
  user : payload.userId = context.userId
  reads : time.command = .queue .time
  adds : zadd.command = .queue (.redis (.zadd (.enqueued payload) now))
  sets : hset.command = .queue (.redis (.hset payload.id {
    status := some .pending
    createdAt := some now
    userId := some payload.userId
    chatId := some payload.chatId }))
  expires : expire.command = .queue (.redis (.expireHash payload.id statusTtlSecs))
  before : ∀ exchange ∈ after, BeforeJob exchange.command
  plain : ∀ exchange ∈ ending, exchange.command.insertsJob = false ∧
    exchange.command.entersQueue = false ∧ exchange.command.marksFailed = false ∧
    exchange.command.isTimer = false
  remembers : Remembered ending remembered
  answers : result = remembered.map fun _ => .accepted ⟨jobId, messageId, .pending, none⟩

def MessageCommand.asksGateway : MessageCommand → Bool
  | .gateway _ => true
  | _ => false

/-- Steps 10 to 12, by the state of the circuit. -/
theorem submit_shape {jobId messageId : String} {history : List HistoryMessage}
    {result : Except Thrown MessageReply}
    (executes : Runs (submitJob platform context jobId messageId history).run service trace result
      last) :
    ∃ mail circuit rest, trace = mail ++ circuit :: rest ∧
      (∀ exchange ∈ mail, exchange.command.asksGateway = true) ∧
      circuit.command = .queue .isCircuitOpen ∧
      (circuit.outcome.fails = true ∧ result = .error (.api .queueError) ∧
          Marks jobId service rest last ∨
        circuit.outcome.fails = false ∧ SparesRows service last ∧
          Nonempty (Submission context jobId messageId rest result)) := by
  have mails : (fetchGmail context).run.Every fun command => command.asksGateway = true :=
    every_fetchGmail (fun _ => rfl) context
  obtain ⟨mail, _, fetched, world, rfl, first, enqueues⟩ := Executes.of_bind executes
  have gateway := first.trace_every mails
  have spared := first.respects tolerates_keepsRows (mails.imp fun command asks => by
    cases command <;> first | rfl | cases asks)
  have returned := first.ends (fetchGmail_returns context)
  cases fetched with
  | error thrown => cases returned
  | ok gmail =>
    obtain ⟨tried, _, entered, between, rfl, second, remembers⟩ := Executes.of_bind enqueues
    obtain ⟨circuit, rest, rfl, asked, ⟨opened, rfl, mark, middle, rfl, marks, waits, rfl⟩ |
      ⟨closed, rfl, kept, entries, after, rfl, enters, before⟩⟩ := enqueueJob_shape second
    · obtain ⟨rfl, rfl, rfl⟩ := Executes.of_done remembers
      refine ⟨mail, circuit, [mark], by simp, gateway, asked, .inl ⟨opened, rfl, mark, middle, rfl,
        marks, ?_, rfl⟩⟩
      exact waits.trans spared
    · obtain ⟨closing, rest, remembered, final, rfl, third, answers⟩ := Executes.of_bind remembers
      have spares := third.trace_every spares_remember
      have settled := third.respects tolerates_keepsRows
        (spares_remember.imp fun command spared => spared.2.2.2.2)
      have ended : rest = [] ∧ last = final ∧
          result = remembered.map fun _ => .accepted ⟨jobId, messageId, .pending, none⟩ := by
        cases remembered with
        | ok value =>
          obtain ⟨rfl, rfl, rfl⟩ := Executes.of_done answers
          exact ⟨rfl, rfl, rfl⟩
        | error thrown =>
          obtain ⟨rfl, rfl, rfl⟩ := Executes.of_done answers
          exact ⟨rfl, rfl, rfl⟩
      obtain ⟨rfl, rfl, rfl⟩ := ended
      obtain ⟨now, time, zadd, hset, expire, rfl, reads, adds, sets, expires⟩ := enters
      have plain (exchange) (member : exchange ∈ closing) :=
        And.imp_right (And.imp_right (And.imp_right And.left)) (spares exchange member)
      exact ⟨mail, circuit, [time, zadd, hset, expire] ++ (after ++ closing), by simp, gateway, asked,
        .inr ⟨closed, settled.trans (kept.trans spared), ⟨⟨_, now, time, zadd, hset, expire, after,
          closing, remembered, rfl, rfl, rfl, reads, adds, sets, expires, before, plain,
          remember_shape rfl third, rfl⟩⟩⟩⟩

private theorem submitJob_inserts (context : MessageContext) (jobId messageId : String)
    (history : List HistoryMessage) :
    (submitJob platform context jobId messageId history).run.Every fun command =>
      command.insertsJob = false := by
  refine Every.andThen (every_fetchGmail (fun _ => rfl) context) fun gmail => ?_
  refine Every.andThen (every_orElse ?_ (Every.andThen (every_statement rfl) fun _ => trivial))
    fun _ => Every.andThen (spares_remember.imp fun _ spared => spared.1) fun _ => trivial
  refine Every.andThen ⟨rfl, fun opened => ?_⟩ fun _ => Every.andThen
    ((incrementQuotaUsage_beforeJob context).imp fun _ before => before.1) fun _ =>
    (invalidateStatsCache_quiet context.userId).imp fun _ quiet => (beforeJob_of_quiet quiet).1
  cases opened with
  | true => trivial
  | false => exact ⟨rfl, fun _ => ⟨rfl, fun _ => ⟨rfl, fun _ => ⟨rfl, fun _ => trivial⟩⟩⟩⟩

def Pending (service : Service) (jobId : String) : Prop :=
  ∃ row, service.queue.jobRows.find? jobId = some row ∧ row.status = .pending

/-- An insertion that answers with an id has put a pending row under it. -/
theorem pending_of_insert {userId messageId inputHash jobId : String} {input : MessageInput}
    {dealing : Dealing} {service : Service}
    (answered : (MessageCommand.exec dealing
      (.supabase (.insertJob userId messageId input inputHash)) service).1 = .ok jobId) :
    Pending (MessageCommand.exec dealing
      (.supabase (.insertJob userId messageId input inputHash)) service).2 jobId := by
  obtain ⟨performs, fresh, rfl⟩ : dealing.performed = true ∧
      (service.queue.jobRows.find? dealing.id).isNone = true ∧ dealing.id = jobId := by
    rcases dealing with ⟨outcome, id⟩
    cases outcome with
    | failed performed failure => cases answered
    | ok | drafted =>
      simp only [MessageCommand.exec, MessageCommand.answer] at answered
      split at answered
      · exact ⟨rfl, ‹_›, Except.ok.inj answered⟩
      · cases answered
  refine ⟨⟨dealing.id, userId, .pending, .empty, none⟩, ?_, rfl⟩
  have effective : MessageCommand.takesEffect dealing
      (.supabase (.insertJob userId messageId input inputHash)) service = true := by
    simp only [MessageCommand.takesEffect, MessageSupabase.generates, performs, fresh, Bool.and_self]
  simp only [MessageCommand.exec, effective, ↓reduceIte, MessageCommand.effect,
    MessageSupabase.effect, Table.find?_insertNew, Option.isNone_iff_eq_none.mp fresh]
  rfl

theorem insertJob_shape {messageId jobId : String} {history : List HistoryMessage}
    {result : Except Thrown MessageReply}
    (executes : Runs (createJob platform context messageId history).run service trace result last)
    (created : Creates trace jobId) :
    ∃ insertion later middle, trace = insertion :: later ∧
      (∃ userId messageId input inputHash,
        insertion.command = .supabase (.insertJob userId messageId input inputHash)) ∧
      Pending middle jobId ∧
      Runs (submitJob platform context jobId messageId history).run middle later result last := by
  obtain ⟨middle, dealing, later, _, rfl, continues⟩ := Executes.of_call executes
  cases answered : ((messageService platform).exec dealing (.supabase (.insertJob context.userId
      messageId context.input (inputMaterial context.input))) middle).1 with
  | error failure =>
    rw [answered] at continues created
    obtain ⟨_, _, rfl⟩ := Executes.of_done continues
    obtain ⟨_, _, _, _, _, member⟩ := created
    cases List.mem_singleton.mp member
  | ok id =>
    rw [answered] at continues created
    have same : id = jobId := by
      obtain ⟨_, _, _, _, _, member⟩ := created
      rcases List.mem_cons.mp member with head | tail
      · cases head
        rfl
      · cases Executes.trace_every (submitJob_inserts context id messageId history) continues _ tail
    subst same
    exact ⟨_, later, _, rfl, ⟨_, _, _, _, rfl⟩, pending_of_insert answered, continues⟩

end BrainMate.WriteRight
