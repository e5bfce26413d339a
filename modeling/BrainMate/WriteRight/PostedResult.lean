import BrainMate.Interleaving.Progress
import BrainMate.WriteRight.CompletionClients

namespace BrainMate.WriteRight

open Interleaving Program System Storage

variable {settings : Settings} {workerSecret : Option String} {request : CompletionRequest}
variable {world last : CompletionWorld} {jobId userId : String} {result : ResultData}

/-- The route with all its calls succeeding. -/
def post (settings : Settings) (workerSecret : Option String) (request : CompletionRequest)
    (world : CompletionWorld) : CompletionReply × CompletionWorld :=
  ((completions settings workerSecret).serveAll .ok (completeJob workerSecret request) world).2

/-- GET /api/writeright/job/{jobId} with all its calls succeeding. -/
def poll (settings : Settings) (userId jobId : String) (queue : World) : Except Failure JobReply :=
  ((jobQueue settings).serveAll .ok (pollJob (some userId) jobId).run queue).2.1

/-- The hash and the stream that the readers use hold the result. -/
structure Holds (jobId : String) (result : ResultData) (queue : World) : Prop where
  status : queue.status? jobId = some .completed
  head : (queue.stream? jobId).bind List.head? = some result

/-- The reader is told of the result, and finds it where it looks. -/
structure Shows (settings : Settings) (userId jobId : String) (result : ResultData)
    (queue : World) : Prop where
  told : poll settings userId jobId queue = .ok (.completed (some result))
  holds : Holds jobId result queue

/-- The queue some time later. -/
def World.later (queue : World) (millis : Nat) : World := (Event.advance millis).apply queue

/-- Redis commands of the route, one after the other, leave the queue alone. -/
theorem tolerates_redis (settings : Settings) (workerSecret : Option String) :
    Tolerates (completions settings workerSecret) Eq (fun before after => after.queue = before.queue)
      (fun command => ∃ redis, command = .redis redis) where
  refl _ := rfl
  trans first second := second.trans first
  elapse same := congrArg CompletionWorld.queue same.symm
  command := by
    rintro _ ⟨redis, rfl⟩ outcome world
    change (CompletionCommand.exec outcome (.redis redis) world).2.queue = world.queue
    simp only [CompletionCommand.exec]
    split
    · exact queue_redis redis world
    · rfl

private theorem queue_publishPosted (jobId userId : String) (result : ResultData)
    (world : CompletionWorld) :
    ((completions settings workerSecret).serveAll .ok (publishPosted jobId userId result).run
      world).2.2.queue = world.queue :=
  (executes_serveAll (completions settings workerSecret) .ok _ world).respects
    (tolerates_redis settings workerSecret) (publishPosted_redis jobId userId result)

/-- What is left of the queue after a result was received. -/
structure Received (jobId : String) (result : ResultData) (before after : World) : Prop where
  clock : after.clock = before.clock
  hashes : after.hashes = before.hashes
  streams : after.streams = before.streams
  row : ∃ row, before.jobRows.find? jobId = some row ∧
    after.jobRows.find? jobId = some { row with status := .completed, output := result }

theorem Received.holds_iff {before after : World} (received : Received jobId result before after)
    (millis : Nat) : Holds jobId result (after.later millis) ↔ Holds jobId result (before.later millis) := by
  have hash : (after.later millis).hash? jobId = (before.later millis).hash? jobId := by
    simp only [World.later, Event.apply, World.hash?, received.clock, received.hashes]
  have stream : (after.later millis).stream? jobId = (before.later millis).stream? jobId := by
    simp only [World.later, Event.apply, World.stream?, received.clock, received.streams]
  have status : (after.later millis).status? jobId = (before.later millis).status? jobId :=
    congrArg (Option.bind · StatusHash.status) hash
  exact ⟨fun ⟨said, head⟩ => ⟨status ▸ said, stream ▸ head⟩,
    fun ⟨said, head⟩ => ⟨status ▸ said, stream ▸ head⟩⟩

/-- The world after the three statements of the route. -/
def stated (jobId : String) (job : SelectedJob) (posted : PostedResult) (world : CompletionWorld) :
    CompletionWorld :=
  (CompletionSupabase.insertUsage (usageRow jobId job posted)).effect
    ((CompletionSupabase.completeJob jobId posted.result).effect world)

private theorem queue_recordCompletion (job : SelectedJob) (posted : PostedResult) :
    ((completions settings workerSecret).serveAll .ok (recordCompletion jobId job posted)
      world).2.2.queue = (stated jobId job posted world).queue := by
  have statements : ((completions settings workerSecret).serveAll .ok
      (recordCompletion jobId job posted) world).2.2 =
      ((completions settings workerSecret).serveAll .ok
        ((publishPosted jobId job.userId posted.result).run >>= fun _ =>
          (return CompletionReply.received)) (stated jobId job posted world)).2.2 := rfl
  rw [statements, serveAll_bind]
  exact @queue_publishPosted settings workerSecret jobId job.userId posted.result _

private theorem received_of_record {row : JobRow} (job : SelectedJob) (posted : PostedResult)
    (found : world.queue.jobRows.find? jobId = some row) :
    Received jobId posted.result world.queue
      ((completions settings workerSecret).serveAll .ok (recordCompletion jobId job posted)
        world).2.2.queue := by
  rw [queue_recordCompletion]
  refine ⟨rfl, rfl, rfl, row, found, ?_⟩
  have own : row.id = jobId := world.queue.jobRows.find?_key found
  refine (world.queue.jobRows.find?_updateWhere (fun row => decide (row.id = jobId))
    (fun row => { row with status := .completed, output := posted.result }) (fun _ => rfl)
    jobId).trans ?_
  rw [found, Option.map_some, if_pos (decide_eq_true own)]

/-- The route, once the secret and the body are accepted. -/
theorem post_selected (posted : PostedResult)
    (known : request.secretHeader.getD "" = expectedSecret workerSecret)
    (body : request.body = some posted) :
    post settings workerSecret request world =
      match world.queue.jobRows.find? request.jobId with
      | some row => ((completions settings workerSecret).serveAll .ok (recordCompletion request.jobId
          ⟨row.userId, (world.details request.jobId).chatId, (world.details request.jobId).mode⟩
          posted) world).2
      | none => (.refused .notFound, world) := by
  have selected : ((completions settings workerSecret).serveAll .ok
      (postStatement (.selectJob request.jobId)) world).2 =
      (.ok ((world.queue.jobRows.find? request.jobId).map fun row =>
        ⟨row.userId, (world.details request.jobId).chatId, (world.details request.jobId).mode⟩),
        world) := rfl
  rw [post, completeJob, if_neg (not_not.mpr known), body]
  dsimp only
  rw [serveAll_bind, selected]
  cases world.queue.jobRows.find? request.jobId <;> rfl

private theorem received_of_post
    (accepted : (post settings workerSecret request world).1 = .received) :
    ∃ posted, request.body = some posted ∧
      Received request.jobId posted.result world.queue
        (post settings workerSecret request world).2.queue := by
  by_cases known : request.secretHeader.getD "" = expectedSecret workerSecret
  · cases body : request.body with
    | none =>
      rw [post, completeJob, if_neg (not_not.mpr known), body] at accepted
      cases accepted
    | some posted =>
      refine ⟨posted, rfl, ?_⟩
      rw [post_selected posted known body] at accepted ⊢
      cases found : world.queue.jobRows.find? request.jobId with
      | none =>
        rw [found] at accepted
        cases accepted
      | some row => exact received_of_record _ posted found
  · rw [post, completeJob, if_pos known] at accepted
    cases accepted

section Reading

variable {queue : World} {hash : StatusHash}

private theorem serve_getJobStatus (settings : Settings) (present : queue.hash? jobId = some hash) :
    ((jobQueue settings).serveAll .ok (getJobStatus jobId).run queue).2 =
      (.ok (some ⟨hash.status.getD .pending, hash.createdAt, hash.userId.getD "",
        hash.chatId.getD "", hash.error⟩), queue) := by
  have read : ((jobQueue settings).serveAll .ok (redis (.hgetall jobId)).run queue).2 =
      (.ok (some hash), queue) := congrArg (fun found => (Except.ok found, queue)) present
  exact (serveAll_andThen read).trans rfl

private theorem serve_readJobResult (settings : Settings) (jobId : String) (queue : World) :
    ((jobQueue settings).serveAll .ok (readJobResult jobId).run queue).2 =
      (.ok ((queue.stream? jobId).bind List.head?), queue) := rfl

/-- The Redis path of the poll, when the hash says `completed`. -/
theorem serve_pollRedis (settings : Settings) (userId : String)
    (present : queue.hash? jobId = some hash)
    (completed : hash.status = some .completed) :
    ((jobQueue settings).serveAll .ok (pollRedis userId jobId).run queue).2 = (.ok
      (if hash.userId.getD "" ≠ "" ∧ hash.userId.getD "" ≠ userId then none
        else some (.completed ((queue.stream? jobId).bind List.head?))), queue) := by
  refine serveAll_rescue ((serveAll_andThen (serve_getJobStatus settings present)).trans ?_)
  simp only [JobStatusPayload.foreign, completed, Option.getD_some]
  split
  · rename_i foreign
    rw [if_pos (by simpa using foreign)]
    rfl
  · rename_i own
    rw [if_neg (by simpa using own)]
    exact (serveAll_andThen (serve_readJobResult settings jobId queue)).trans rfl

/-- The Supabase path of the poll, when the row says `completed`. -/
theorem serve_pollSupabase (settings : Settings) {row : JobRow}
    (found : queue.jobRows.find? jobId = some row) (owner : row.userId = userId)
    (completed : row.status = .completed) :
    ((jobQueue settings).serveAll .ok (pollSupabase userId jobId).run queue).2 =
      (.ok (.completed ((queue.stream? jobId).bind List.head? <|> some row.output)), queue) := by
  have own : (SupabaseCommand.selectJob jobId userId).answer queue = some row :=
    (congrArg (Option.filter _) found).trans (Option.filter_some_pos (decide_eq_true owner))
  have selected : ((jobQueue settings).serveAll .ok
      (rescue (supabase (.selectJob jobId userId)) fun _ => pure none).run queue).2 =
      (.ok (some row), queue) :=
    serveAll_rescue (congrArg (fun answer => (Except.ok answer, queue)) own)
  refine (serveAll_andThen selected).trans ?_
  simp only [completed]
  exact (serveAll_andThen (serveAll_rescue (serve_readJobResult settings jobId queue))).trans rfl

end Reading

/-- With the hash at `completed` the reader is told of the head of the stream; if the hash is
not the reader's own, the row says so, too. -/
theorem poll_of_holds {queue : World} {row : JobRow} (uuid : isUuid jobId = true)
    (holds : Holds jobId result queue) (found : queue.jobRows.find? jobId = some row)
    (owner : row.userId = userId) (completed : row.status = .completed) :
    poll settings userId jobId queue = .ok (.completed (some result)) := by
  obtain ⟨hash, present, said⟩ := Option.bind_eq_some_iff.mp holds.status
  have redis := serve_pollRedis settings userId present said
  rw [holds.head] at redis
  rw [poll, pollJob, if_pos uuid]
  split at redis
  · have row := serve_pollSupabase settings found owner completed
    rw [holds.head] at row
    rw [serveAll_andThen redis]
    exact congrArg Prod.fst row
  · rw [serveAll_andThen redis]
    rfl

/-- A posted result that was received is shown to the owner of its job if and only if the keys
the readers use say the same already. -/
theorem posted_result_shown_iff (settings : Settings) (workerSecret : Option String)
    (request : CompletionRequest) (world : CompletionWorld) (row : JobRow) (posted : PostedResult)
    (millis : Nat) (uuid : isUuid request.jobId = true)
    (found : world.queue.jobRows.find? request.jobId = some row)
    (body : request.body = some posted)
    (accepted : (post settings workerSecret request world).1 = .received) :
    Shows settings row.userId request.jobId posted.result
        ((post settings workerSecret request world).2.queue.later millis) ↔
      Holds request.jobId posted.result (world.queue.later millis) := by
  obtain ⟨_, given, received⟩ := received_of_post accepted
  cases body.symm.trans given
  have same : Holds request.jobId posted.result
      ((post settings workerSecret request world).2.queue.later millis) ↔
      Holds request.jobId posted.result (world.queue.later millis) :=
    received.holds_iff millis
  refine ⟨fun shows => same.mp shows.holds, fun holds => ⟨?_, same.mpr holds⟩⟩
  obtain ⟨_, earlier, after⟩ := received.row
  cases found.symm.trans earlier
  exact poll_of_holds uuid (same.mpr holds) after rfl rfl

def sampleHash (status : Status) : StatusHash :=
  { status := some status, createdAt := some 0, userId := some "user", chatId := some "chat" }

/-- The sample job in the table, and its hash and its stream in Redis. -/
def samplePosted (status : Status) (entries : Option (List ResultData)) : CompletionWorld :=
  .ofQueue
    { World.empty 0 with
      jobRows := Storage.Table.empty.insertNew ⟨samplePayload.id, "user", .processing, .empty, none⟩
      hashes := Function.update (fun _ => none) samplePayload.id
        (some ⟨sampleHash status, some 3600000⟩)
      streams := Function.update (fun _ => none) samplePayload.id
        (entries.map fun entries => ⟨entries, some 3600000⟩) }
    fun _ => ⟨"chat", some "email"⟩

def samplePost : CompletionRequest where
  jobId := samplePayload.id
  secretHeader := some "fallback-secret"
  body := some ⟨.result sampleResult, 10, 20, "model"⟩

/-- What a worker has published already is posted once more. -/
theorem published_result_shown :
    Shows sampleSettings "user" samplePayload.id (.result sampleResult)
      ((post sampleSettings none samplePost
        (samplePosted .completed (some [.result sampleResult]))).2.queue.later 1000) := by
  refine (posted_result_shown_iff sampleSettings none samplePost
    (samplePosted .completed (some [.result sampleResult])) _ _ 1000 ?_ rfl rfl ?_).mpr ⟨?_, ?_⟩
  · decide +kernel
  · decide +kernel
  · decide +kernel
  · decide +kernel

/-- A job that is being processed: its result is received, and not shown. -/
theorem posted_result_not_shown :
    (post sampleSettings none samplePost (samplePosted .processing none)).1 = .received ∧
      poll sampleSettings "user" samplePayload.id
        (post sampleSettings none samplePost (samplePosted .processing none)).2.queue =
          .ok (.active .processing) ∧
      ¬ Shows sampleSettings "user" samplePayload.id (.result sampleResult)
        (post sampleSettings none samplePost (samplePosted .processing none)).2.queue := by
  have told : poll sampleSettings "user" samplePayload.id
      (post sampleSettings none samplePost (samplePosted .processing none)).2.queue =
        .ok (.active .processing) := by decide +kernel
  refine ⟨by decide +kernel, told, fun shows => ?_⟩
  cases told.symm.trans shows.told

end BrainMate.WriteRight
