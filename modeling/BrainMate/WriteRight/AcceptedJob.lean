import BrainMate.WriteRight.MessageEnqueue

namespace BrainMate.WriteRight

open Interleaving Program System Storage

variable {platform : ServicePlatform} {context : MessageContext} {service last : Service}
variable {trace : MessageTrace platform}

/-- The answer is 202 with the job. -/
def MessageReply.accepts (jobId : String) : MessageReply → Bool
  | .accepted response => decide (response.jobId = jobId)
  | .cached _ | .repeated _ | .refused _ => false

/-- A payload with the job's id was added to the queue, and its hash was written with the
user's id. -/
def Enqueued (trace : MessageTrace platform) (jobId : String) (userId : Option String) : Prop :=
  (∃ exchange ∈ trace, exchange.outcome.performed = true ∧ ∃ payload score,
    exchange.command = .queue (.redis (.zadd (.enqueued payload) score)) ∧ payload.id = jobId) ∧
  ∃ exchange ∈ trace, exchange.outcome.performed = true ∧ ∃ fields,
    exchange.command = .queue (.redis (.hset jobId fields)) ∧ fields.userId.isSome = true ∧
      fields.userId = userId

def RowFailed (service : Service) (jobId : String) : Prop :=
  ∃ row, service.queue.jobRows.find? jobId = some row ∧ row.status = .failed

/-- An accepted job is queued, and one that is not accepted has failed. -/
def AnswerHolds (trace : MessageTrace platform) (jobId : String) (userId : Option String)
    (reply : MessageReply) (last : Service) : Prop :=
  if reply.accepts jobId then Enqueued trace jobId userId else RowFailed last jobId

/-- The circuit was open when the route came to put its job in the queue. -/
def circuitOpenAtEnqueue (trace : MessageTrace platform) : Bool :=
  ((trace.dropWhile fun exchange => !exchange.command.insertsJob).find? fun exchange =>
    exchange.command.asksCircuit).any fun exchange => exchange.outcome.fails

/-- Nothing is lost of what the route does for its job: with the circuit open, the row is
marked; otherwise both entries are made, the answer is remembered without a failure and
the timer is not up. -/
def NothingLost (trace : MessageTrace platform) : Prop :=
  if circuitOpenAtEnqueue trace then
    ∀ exchange ∈ trace, exchange.command.marksFailed = true → exchange.outcome.performed = true
  else
    ∀ exchange ∈ trace,
      (exchange.command.entersQueue = true → exchange.outcome.performed = true) ∧
      (exchange.command.remembersJob = true ∨ exchange.command.isTimer = true →
        exchange.outcome.fails = false)

private theorem not_failed_of_pending {jobId : String} {service last : Service}
    (pending : Pending service jobId) (spared : SparesRows service last) : ¬ RowFailed last jobId := by
  obtain ⟨row, found, status⟩ := pending
  rintro ⟨other, marked, failed⟩
  rw [spared, found] at marked
  cases Option.some.inj marked
  rw [status] at failed
  cases failed

/-- A marked row has failed exactly if the update was carried out. -/
theorem rowFailed_iff_of_marks {jobId error : String} {service last : Service} {dealing : Dealing}
    (pending : Pending service jobId)
    (spared : SparesRows (MessageCommand.exec dealing (.supabase (.failJob jobId error)) service).2
      last) : RowFailed last jobId ↔ dealing.performed = true := by
  by_cases performs : dealing.performed = true
  · refine iff_of_true ?_ performs
    obtain ⟨row, found, status⟩ := pending
    have effective : MessageCommand.takesEffect dealing (.supabase (.failJob jobId error)) service =
        true := by
      simp only [MessageCommand.takesEffect, MessageSupabase.generates, performs, Bool.and_self]
    refine ⟨row.assign .failed none (some error), ?_, rfl⟩
    rw [spared]
    simp only [MessageCommand.exec, effective, ↓reduceIte, MessageCommand.effect,
      MessageSupabase.effect]
    refine (Table.find?_updateWhere service.queue.jobRows (fun row => decide (row.id = jobId))
      (fun row => row.assign .failed none (some error)) (fun _ => rfl) jobId).trans ?_
    simp [found, Table.find?_key _ found]
  · refine iff_of_false (not_failed_of_pending pending ?_) performs
    have still : (MessageCommand.exec dealing (.supabase (.failJob jobId error)) service).2 =
        service := by
      simp only [MessageCommand.exec, MessageCommand.takesEffect, Bool.eq_false_iff.mpr performs,
        Bool.false_and, Bool.false_eq_true, ↓reduceIte]
    rw [still] at spared
    exact spared

/-- A run that makes a job, cut at the row of the job and at the circuit of step 11. -/
structure JobRun (platform : ServicePlatform) (userId : Option String) (jobId : String)
    (trace : MessageTrace platform) (reply : MessageReply) (last : Service) where
  context : MessageContext
  messageId : String
  earlier : MessageTrace platform
  insertion : (messageService platform).Exchange
  mail : MessageTrace platform
  circuit : (messageService platform).Exchange
  rest : MessageTrace platform
  timer : (messageService platform).Exchange
  middle : Service
  final : Service
  result : Except Thrown MessageReply
  owner : userId = some context.userId
  cut : trace = earlier ++ (insertion :: (mail ++ circuit :: (rest ++ [timer])))
  before : ∀ exchange ∈ earlier, BeforeJob exchange.command
  inserts : ∃ userId messageId input inputHash,
    insertion.command = .supabase (.insertJob userId messageId input inputHash)
  gateway : ∀ exchange ∈ mail, exchange.command.asksGateway = true
  asked : circuit.command = .queue .isCircuitOpen
  timed : timer.command = .timer
  pending : Pending middle jobId
  closing : SparesRows final last
  answered : reply = answerOf timer.outcome.fails result
  ended : circuit.outcome.fails = true ∧ result = .error (.api .queueError) ∧
      Marks jobId middle rest final ∨
    circuit.outcome.fails = false ∧ SparesRows middle final ∧
      Nonempty (Submission context jobId messageId rest result)

theorem JobRun.of_post {request : MessageRequest} {reply : MessageReply} {jobId : String}
    (executes : Runs (postMessage platform request) service trace reply last)
    (created : Creates trace jobId) :
    Nonempty (JobRun platform request.userId jobId trace reply last) := by
  have issues {trace : MessageTrace platform} (created : Creates trace jobId) :
      ∃ exchange ∈ trace, exchange.command.insertsJob = true := by
    obtain ⟨_, _, _, _, _, member⟩ := created
    exact ⟨_, member, rfl⟩
  obtain ⟨context, served, result, final, timer, parsed, rfl, serves, timing, closing, rfl⟩ :=
    serve_of_post executes (issues created)
  have createdServed : Creates served jobId := by
    obtain ⟨_, _, _, _, _, member⟩ := created
    rcases List.mem_append.mp member with within | after
    · exact ⟨_, _, _, _, _, within⟩
    · rw [← List.mem_singleton.mp after] at timing
      cases timing
  obtain ⟨messageId, history, earlier, later, world, rfl, before, creates⟩ :=
    createJob_of_serve serves (issues createdServed)
  have createdLater : Creates later jobId := by
    obtain ⟨_, _, _, _, _, member⟩ := createdServed
    rcases List.mem_append.mp member with early | late
    · cases (before _ early).1
    · exact ⟨_, _, _, _, _, late⟩
  obtain ⟨insertion, rest, middle, rfl, inserts, pending, submits⟩ := insertJob_shape creates createdLater
  obtain ⟨mail, circuit, rest, rfl, gateway, asked, ended⟩ := submit_shape submits
  exact ⟨⟨context, messageId, earlier, insertion, mail, circuit, rest, timer, middle, final, result,
    user_of_parse parsed, by simp, before, inserts, gateway, asked, timing, pending, closing, rfl,
    ended⟩⟩

namespace JobRun

variable {userId : Option String} {jobId : String} {reply : MessageReply}

/-- The exchanges up to the circuit of step 11. -/
def start (run : JobRun platform userId jobId trace reply last) : MessageTrace platform :=
  run.earlier ++ run.insertion :: (run.mail ++ [run.circuit])

theorem mem_iff (run : JobRun platform userId jobId trace reply last)
    (exchange : (messageService platform).Exchange) :
    exchange ∈ trace ↔ exchange ∈ run.start ∨ exchange ∈ run.rest ∨ exchange = run.timer := by
  simp only [run.cut, start, List.mem_append, List.mem_cons, List.not_mem_nil, or_false, or_assoc]

theorem start_plain (run : JobRun platform userId jobId trace reply last)
    {exchange : (messageService platform).Exchange} (first : exchange ∈ run.start) :
    exchange.command.entersQueue = false ∧ exchange.command.marksFailed = false ∧
      exchange.command.remembersJob = false ∧ exchange.command.isTimer = false := by
  rcases List.mem_append.mp first with early | late
  · exact (run.before exchange early).2
  rcases List.mem_cons.mp late with rfl | later
  · obtain ⟨_, _, _, _, inserts⟩ := run.inserts
    simp [inserts, MessageCommand.entersQueue, MessageCommand.marksFailed,
      MessageCommand.remembersJob, MessageCommand.isTimer]
  rcases List.mem_append.mp later with mail | circuit
  · have asks := run.gateway exchange mail
    unfold MessageCommand.asksGateway at asks
    split at asks
    · simp [*, MessageCommand.entersQueue, MessageCommand.marksFailed,
        MessageCommand.remembersJob, MessageCommand.isTimer]
    · cases asks
  · rw [List.mem_singleton.mp circuit]
    simp [run.asked, MessageCommand.entersQueue, MessageCommand.marksFailed,
      MessageCommand.remembersJob, MessageCommand.isTimer]

/-- The first question about the circuit after the job's row is the one of step 11. -/
theorem circuit_eq (run : JobRun platform userId jobId trace reply last) :
    circuitOpenAtEnqueue trace = run.circuit.outcome.fails := by
  obtain ⟨_, _, _, _, insertion⟩ := run.inserts
  have inserts : run.insertion.command.insertsJob = true := by
    rw [insertion]
    rfl
  have other : run.insertion.command.asksCircuit = false := by
    rw [insertion]
    rfl
  have asks : run.circuit.command.asksCircuit = true := by
    rw [run.asked]
    rfl
  have skipped : trace.dropWhile (fun exchange => !exchange.command.insertsJob) =
      run.insertion :: (run.mail ++ run.circuit :: (run.rest ++ [run.timer])) := by
    refine (congrArg (List.dropWhile fun exchange => !exchange.command.insertsJob) run.cut).trans ?_
    rw [List.dropWhile_append_of_pos]
    · simp [inserts]
    · intro exchange member
      simp [(run.before exchange member).1]
  have silent : run.mail.find? (fun exchange => exchange.command.asksCircuit) = none := by
    refine List.find?_eq_none.mpr fun exchange member => ?_
    have asks := run.gateway exchange member
    unfold MessageCommand.asksGateway at asks
    split at asks
    · simp [*, MessageCommand.asksCircuit]
    · cases asks
  simp [circuitOpenAtEnqueue, skipped, other, List.find?_append, silent, asks]

/-- With the circuit open the answer is a refusal, and the row is what counts. -/
theorem holds_iff_of_open (run : JobRun platform userId jobId trace reply last)
    (opened : run.circuit.outcome.fails = true) (result : run.result = .error (.api .queueError))
    (marks : Marks jobId run.middle run.rest run.final) :
    AnswerHolds trace jobId userId reply last ↔ NothingLost trace := by
  obtain ⟨mark, world, rest, command, waits, final⟩ := marks
  have refused : reply.accepts jobId = false := by
    refine (congrArg (MessageReply.accepts jobId) run.answered).trans ?_
    rw [result]
    cases run.timer.outcome.fails <;> rfl
  have failed : RowFailed last jobId ↔ mark.outcome.performed = true := by
    obtain ⟨row, found, status⟩ := run.pending
    exact rowFailed_iff_of_marks ⟨row, by rw [waits, found], status⟩ (final ▸ run.closing)
  rw [AnswerHolds, refused, if_neg Bool.false_ne_true, failed, NothingLost, run.circuit_eq, if_pos opened]
  constructor
  · intro performs exchange member marked
    rcases (run.mem_iff exchange).mp member with first | later | rfl
    · rw [(run.start_plain first).2.1] at marked
      cases marked
    · rw [rest, List.mem_singleton] at later
      rw [later]
      exact performs
    · rw [run.timed] at marked
      cases marked
  · intro all
    refine all mark ((run.mem_iff mark).mpr (.inr (.inl ?_))) (by rw [command]; rfl)
    rw [rest]
    exact .head _

section Closed

variable (run : JobRun platform userId jobId trace reply last)
variable (submission : Submission run.context jobId run.messageId run.rest run.result)

theorem mem_of_entry {exchange : (messageService platform).Exchange}
    (entry : exchange ∈ [submission.time, submission.zadd, submission.hset, submission.expire]) :
    exchange ∈ trace := by
  refine (run.mem_iff exchange).mpr (.inr (.inl ?_))
  rw [submission.cut]
  exact List.mem_append_left _ entry

/-- Only ZADD and HSET enter the job. -/
theorem entering {exchange : (messageService platform).Exchange} (present : exchange ∈ trace)
    (enters : exchange.command.entersQueue = true) :
    exchange = submission.zadd ∨ exchange = submission.hset := by
  rcases (run.mem_iff exchange).mp present with first | later | rfl
  · rw [(run.start_plain first).1] at enters
    cases enters
  · rw [submission.cut] at later
    simp only [List.mem_append, List.mem_cons, List.not_mem_nil, or_false] at later
    obtain (rfl | rfl | rfl | rfl) | between | late := later
    · rw [submission.reads] at enters
      cases enters
    · exact .inl rfl
    · exact .inr rfl
    · rw [submission.expires] at enters
      cases enters
    · rw [(submission.before exchange between).2.1] at enters
      cases enters
    · rw [(submission.plain exchange late).2.1] at enters
      cases enters
  · rw [run.timed] at enters
    cases enters

/-- Only what is issued at the end remembers the answer. -/
theorem remembering {exchange : (messageService platform).Exchange} (present : exchange ∈ trace)
    (remembers : exchange.command.remembersJob = true) : exchange ∈ submission.ending := by
  rcases (run.mem_iff exchange).mp present with first | later | rfl
  · rw [(run.start_plain first).2.2.1] at remembers
    cases remembers
  · rw [submission.cut] at later
    simp only [List.mem_append, List.mem_cons, List.not_mem_nil, or_false] at later
    obtain (rfl | rfl | rfl | rfl) | between | late := later
    · rw [submission.reads] at remembers
      cases remembers
    · rw [submission.adds] at remembers
      cases remembers
    · rw [submission.sets] at remembers
      cases remembers
    · rw [submission.expires] at remembers
      cases remembers
    · rw [(submission.before exchange between).2.2.2.1] at remembers
      cases remembers
    · exact late
  · rw [run.timed] at remembers
    cases remembers

include submission in
theorem timing {exchange : (messageService platform).Exchange} (present : exchange ∈ trace)
    (timer : exchange.command.isTimer = true) : exchange = run.timer := by
  rcases (run.mem_iff exchange).mp present with first | later | rfl
  · rw [(run.start_plain first).2.2.2] at timer
    cases timer
  · rw [submission.cut] at later
    simp only [List.mem_append, List.mem_cons, List.not_mem_nil, or_false] at later
    obtain (rfl | rfl | rfl | rfl) | between | late := later
    · rw [submission.reads] at timer
      cases timer
    · rw [submission.adds] at timer
      cases timer
    · rw [submission.sets] at timer
      cases timer
    · rw [submission.expires] at timer
      cases timer
    · rw [(submission.before exchange between).2.2.2.2] at timer
      cases timer
    · rw [(submission.plain exchange late).2.2.2] at timer
      cases timer
  · rfl

private theorem enqueued_iff : Enqueued trace jobId userId ↔
    submission.zadd.outcome.performed = true ∧ submission.hset.outcome.performed = true := by
  constructor
  · rintro ⟨⟨first, present, added, _, _, command, _⟩, second, present', set_, _, command', _⟩
    constructor
    · rcases run.entering submission present (by rw [command]; rfl) with rfl | rfl
      · exact added
      · rw [submission.sets] at command
        cases command
    · rcases run.entering submission present' (by rw [command']; rfl) with rfl | rfl
      · rw [submission.adds] at command'
        cases command'
      · exact set_
  · rintro ⟨added, set_⟩
    refine ⟨⟨_, run.mem_of_entry submission (by simp), added, _, _, submission.adds, submission.id⟩,
      _, run.mem_of_entry submission (.tail _ (.tail _ (.head _))), set_, _,
      submission.id ▸ submission.sets, rfl, ?_⟩
    exact (congrArg some submission.user).trans run.owner.symm

/-- Nothing is lost if the job is entered, the answer remembered, and the timer not up. -/
theorem nothingLost_iff (closed : run.circuit.outcome.fails = false) :
    NothingLost trace ↔ submission.zadd.outcome.performed = true ∧
      submission.hset.outcome.performed = true ∧ submission.remembered.isOk = true ∧
      run.timer.outcome.fails = false := by
  rw [NothingLost, run.circuit_eq, closed, if_neg Bool.false_ne_true]
  constructor
  · intro all
    refine ⟨(all _ (run.mem_of_entry submission (by simp))).1 (by rw [submission.adds]; rfl),
      (all _ (run.mem_of_entry submission (.tail _ (.tail _ (.head _))))).1
        (by rw [submission.sets]; rfl), ?_,
      (all run.timer ((run.mem_iff _).mpr (.inr (.inr rfl)))).2 (.inr (by rw [run.timed]; rfl))⟩
    obtain ⟨returned, _⟩ | ⟨_, failing, late, remembers, fails⟩ := submission.remembers
    · rw [returned]
      rfl
    · have present : failing ∈ trace := by
        refine (run.mem_iff failing).mpr (.inr (.inl ?_))
        rw [submission.cut]
        exact List.mem_append_right _ (List.mem_append_right _ late)
      rw [(all failing present).2 (.inl remembers)] at fails
      cases fails
  · rintro ⟨added, set_, returned, early⟩ exchange present
    constructor
    · intro enters
      rcases run.entering submission present enters with rfl | rfl
      · exact added
      · exact set_
    · rintro (remembers | timer)
      · have late := run.remembering submission present remembers
        obtain ⟨_, succeed⟩ | ⟨⟨thrown, failed⟩, _⟩ := submission.remembers
        · exact succeed exchange late remembers
        · rw [failed] at returned
          cases returned
      · rw [run.timing submission present timer]
        exact early

include submission in
/-- With the circuit closed the entries, the memory of the answer and the timer count. -/
theorem holds_iff_of_closed (closed : run.circuit.outcome.fails = false)
    (spared : SparesRows run.middle run.final) :
    AnswerHolds trace jobId userId reply last ↔ NothingLost trace := by
  have active : ¬ RowFailed last jobId :=
    not_failed_of_pending run.pending (run.closing.trans spared)
  have accepts : reply.accepts jobId =
      (submission.remembered.isOk && !run.timer.outcome.fails) := by
    refine (congrArg (MessageReply.accepts jobId) run.answered).trans ?_
    refine (congrArg (fun result => (answerOf run.timer.outcome.fails result).accepts jobId)
      submission.answers).trans ?_
    cases run.timer.outcome.fails with
    | true => cases submission.remembered <;> rfl
    | false =>
      cases submission.remembered with
      | ok => exact decide_eq_true rfl
      | error => rfl
  rw [run.nothingLost_iff submission closed, AnswerHolds, accepts]
  split
  · rename_i both
    rw [Bool.and_eq_true, Bool.not_eq_true'] at both
    rw [run.enqueued_iff submission]
    simp [both.1, both.2]
  · rename_i neither
    rw [Bool.and_eq_true, Bool.not_eq_true'] at neither
    exact iff_of_false active fun all => neither all.2.2

end Closed

end JobRun

/-- For every request that inserts a job and every way the stores deal with its commands: the
answer is 202 with the job in the queue, or the job's row is failed, exactly if nothing
is lost of what the route does for the job. -/
theorem accepted_job_queued_iff (platform : ServicePlatform) (request : MessageRequest)
    (service last : Service) (trace : MessageTrace platform) (reply : MessageReply)
    (executes : Runs (postMessage platform request) service trace reply last) (jobId : String)
    (created : Creates trace jobId) :
    AnswerHolds trace jobId request.userId reply last ↔ NothingLost trace := by
  obtain ⟨run⟩ := JobRun.of_post executes created
  obtain ⟨opened, result, marks⟩ | ⟨closed, spared, ⟨submission⟩⟩ := run.ended
  · exact run.holds_iff_of_open opened result marks
  · exact run.holds_iff_of_closed submission closed spared

def createsJob (jobId : String) (exchange : (messageService platform).Exchange) : Bool :=
  match exchange with
  | ⟨.supabase (.insertJob _ _ _ _), _, .ok id⟩ => decide (id = jobId)
  | _ => false

theorem Creates.of_any {jobId : String} (checked : trace.any (createsJob jobId) = true) :
    Creates trace jobId := by
  obtain ⟨exchange, member, creates⟩ := List.any_eq_true.mp checked
  unfold createsJob at creates
  split at creates
  · cases of_decide_eq_true creates
    exact ⟨_, _, _, _, _, member⟩
  · cases creates

/-- A request served at one instant, by a pattern of outcomes. -/
theorem runs_serveBy (pattern : MessageCommand → Dealing) (request : MessageRequest)
    (service : Service) :
    Runs (postMessage platform request) service
      ((messageService platform).serveBy pattern (postMessage platform request) service).1
      ((messageService platform).serveBy pattern (postMessage platform request) service).2.1
      ((messageService platform).serveBy pattern (postMessage platform request) service).2.2 :=
  (executes_serveBy (messageService platform) pattern _ _).mono fun first second same => by
    rw [same]
    rfl

/-- The database generates the ids `m1` and `j1`. -/
def samplePattern : MessageCommand → Dealing
  | .supabase (.insertUserMessage _ _ _) => generating "m1"
  | .supabase (.insertJob _ _ _ _) => generating "j1"
  | _ => succeeding

def sampleServed (pattern : MessageCommand → Dealing) :
    MessageTrace sampleServicePlatform × MessageReply × Service :=
  (messageService sampleServicePlatform).serveBy pattern
    (postMessage sampleServicePlatform sampleRequest) (sampleServiceWorld 0)

theorem sample_job_queued :
    Creates (sampleServed samplePattern).1 "j1" ∧
      (AnswerHolds (sampleServed samplePattern).1 "j1" (some "user") (sampleServed samplePattern).2.1
        (sampleServed samplePattern).2.2 ↔ NothingLost (sampleServed samplePattern).1) := by
  have created : Creates (sampleServed samplePattern).1 "j1" := .of_any (by decide +kernel)
  exact ⟨created, accepted_job_queued_iff sampleServicePlatform sampleRequest _ _ _ _
    (runs_serveBy samplePattern sampleRequest (sampleServiceWorld 0)) "j1" created⟩

/-- ZADD is lost on the way to Redis. -/
def losingPattern : MessageCommand → Dealing
  | .queue (.redis (.zadd _ _)) => { outcome := .failed false (.raised "Connection is closed.") }
  | command => samplePattern command

def MessageCommand.addsJob : MessageCommand → Bool
  | .queue (.redis (.zadd _ _)) => true
  | _ => false

/-- The pipeline does not report that ZADD was lost, and the answer is 202 for a job that is
in no queue. -/
theorem accepted_job_not_queued :
    Runs (postMessage sampleServicePlatform sampleRequest) (sampleServiceWorld 0)
        (sampleServed losingPattern).1 (sampleServed losingPattern).2.1
        (sampleServed losingPattern).2.2 ∧
      Creates (sampleServed losingPattern).1 "j1" ∧
      (sampleServed losingPattern).2.1.accepts "j1" = true ∧
      ¬ AnswerHolds (sampleServed losingPattern).1 "j1" sampleRequest.userId
        (sampleServed losingPattern).2.1 (sampleServed losingPattern).2.2 := by
  have accepted : (sampleServed losingPattern).2.1.accepts "j1" = true := by decide +kernel
  have lost : (sampleServed losingPattern).1.all (fun exchange =>
      !(exchange.command.addsJob && exchange.outcome.performed)) = true := by decide +kernel
  refine ⟨runs_serveBy losingPattern sampleRequest _, .of_any (by decide +kernel), accepted, ?_⟩
  rw [AnswerHolds, if_pos accepted]
  rintro ⟨⟨exchange, member, performed, payload, score, command, _⟩, _⟩
  have unperformed := List.all_eq_true.mp lost exchange member
  rw [command, performed] at unperformed
  cases unperformed

end BrainMate.WriteRight
