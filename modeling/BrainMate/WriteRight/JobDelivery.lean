import BrainMate.WriteRight.JobStream

/-! The runs of the job stream: the messages of the worker and the turns of the poll loop, in any
order, and what the page gets of them. -/

namespace BrainMate.WriteRight.JobStream

open Text

open EmailChain (Text text)

def object (members : List (String × Json)) : Json :=
  .obj (members.map fun entry => (text entry.1, entry.2))

/-- `_publish_stream_chunk` and `_publish_stream_status`. -/
inductive Published where
  | chunk (words delta : Text)
  | stage (name : Text)

namespace Published

def json : Published → Json
  | chunk words delta => object [("chunk", .str words), ("delta", .str delta)]
  | stage name => object [("stage", .str name)]

def payload (published : Published) : Text := dumps.text published.json

/-- What the page is to be shown of it. -/
def shown : Published → Option Json
  | chunk words _ => if words.isEmpty then none else some (.str words)
  | stage _ => none

end Published

def eventOf (name : EventName) (members : List (String × Json)) : Event :=
  ⟨name, members.map fun entry => (text entry.1, entry.2)⟩

/-- The message of a stage that is sent on. -/
def stageMessage (stage : Text) : Option Text :=
  if stage = text "drafting" then some (text "Writing initial draft...")
  else if stage = text "critiquing" then some (text "Refining output...")
  else if stage = text "finalizing" then some (text "Finalizing...")
  else none

def stageEvent : Json → Option Event
  | .str stage => (stageMessage stage).map fun message =>
    eventOf .status [("stage", .str stage), ("message", .str message)]
  | _ => none

def tokenEvent (chunk delta : Json) : Event :=
  eventOf .token [("chunk", chunk), ("delta", delta)]

def Platform.forward (platform : Platform) (parsed : Json) : Option Event :=
  match (property "stage" parsed).filter platform.truthy with
  | some stage => stageEvent stage
  | none => ((property "chunk" parsed).filter platform.truthy).map fun chunk =>
    tokenEvent chunk (orElse (property "delta" parsed) chunk)

/-- What a message on the channel makes the route send. -/
def Platform.onMessage (platform : Platform) (message : Text) : Option Event :=
  match platform.jsonParse message with
  -- `parsed.stage` throws for `null` too
  | none | some .null => some (tokenEvent (.str message) (.str message))
  | some parsed => platform.forward parsed

/-- What `getJobStatus` finds. -/
structure JobStatus where
  status : Text
  userId : Text
  error : Option Text

/-- The row of a job in `writeright_ai_jobs`. -/
structure JobRow where
  status : Text
  output : Json
  error : Option Text

/-- What a turn of the loop finds. -/
structure Reading where
  circuitOpen : Bool
  /-- `getJobStatus`, which may throw. -/
  status : Option (Option JobStatus)
  /-- `readJobResult`, which may throw, and is `null` where there is no result. -/
  result : Option Json
  /-- The job in the database, if it is the user's. -/
  row : Option JobRow
  /-- For 15 seconds nothing was sent. -/
  quiet : Bool

/-- What a turn sends, and whether it leaves the loop. -/
structure Turn where
  events : List Event
  lastStatusSent : Option Text
  leaves : Bool

def completed : Text := text "completed"

def failed : Text := text "failed"

def errorEvent (members : List (String × Text)) : Event :=
  eventOf .error (members.map fun entry => (entry.1, .str entry.2))

def resultEvent (result : Json) : Event :=
  eventOf .result [("status", .str completed), ("result", result)]

def announce (lastStatusSent : Option Text) (status : Text) : List Event :=
  if lastStatusSent = some status then [] else [eventOf .status [("status", .str status)]]

def redisTurn (userId : Text) (lastStatusSent : Option Text) (status : JobStatus)
    (result : Option Json) : Turn :=
  if status.userId ≠ [] ∧ status.userId ≠ userId then
    ⟨[errorEvent [("code", text "UNAUTHORIZED"), ("error", text "Job not found")]],
      lastStatusSent, true⟩
  else
    let events := announce lastStatusSent status.status
    if status.status = completed then
      match result with
      | some result => ⟨events ++ [resultEvent result], some status.status, true⟩
      | none => ⟨events, some status.status, false⟩
    else if status.status = failed then
      ⟨events ++ [errorEvent [("code", text "INTERNAL_ERROR"), ("status", failed),
        ("error", status.error.getD (text "Job failed"))]], some status.status, true⟩
    else ⟨events, some status.status, false⟩

def rowTurn (lastStatusSent : Option Text) (row : Option JobRow) (result : Option Json) : Turn :=
  match row with
  | none =>
    ⟨[errorEvent [("code", text "NOT_FOUND"), ("error", text "Job not found")]],
      lastStatusSent, true⟩
  | some row =>
    let events := announce lastStatusSent row.status
    if row.status = completed then
      ⟨events ++ [resultEvent (orElse result row.output)], some row.status, true⟩
    else if row.status = failed then
      ⟨events ++ [errorEvent [("code", text "INTERNAL_ERROR"),
        ("error", row.error.getD (text "Job failed"))]], some row.status, true⟩
    else ⟨events, some row.status, false⟩

/-- The status that Redis gives, where it is asked and answers. -/
def Reading.redis (reading : Reading) : Option JobStatus :=
  if reading.circuitOpen then none else reading.status.join

def pollTurn (userId : Text) (lastStatusSent : Option Text) (reading : Reading) : Turn :=
  match reading.redis with
  | some status => redisTurn userId lastStatusSent status reading.result
  | none => rowTurn lastStatusSent reading.row reading.result

def pinged (quiet : Bool) (turn : Turn) : Turn :=
  if quiet && !turn.leaves then { turn with events := turn.events ++ [eventOf .ping []] } else turn

inductive Phase where
  | polling
  | left
  | closing
  | ended
  deriving DecidableEq, Repr

structure Server where
  phase : Phase := .polling
  lastStatusSent : Option Text := none
  events : List Event := []

inductive Step where
  | message (message : Text)
  | turn (reading : Reading)
  /-- The time is over, or the request was aborted. -/
  | leave
  /-- Behind the loop the time is found to be over. -/
  | timeout
  | close

def timeoutEvent : Event :=
  errorEvent [("code", text "TIMEOUT"), ("error", text "This took too long. Try with shorter text.")]

/-- The handler of the messages is still there while the subscription is cleaned up. -/
def Platform.step (platform : Platform) (userId : Text) (server : Server) : Step → Server
  | .message message =>
    if server.phase = .ended then server
    else { server with events := server.events ++ (platform.onMessage message).toList }
  | .turn reading =>
    if server.phase = .polling then
      let turn := pinged reading.quiet (pollTurn userId server.lastStatusSent reading)
      { phase := if turn.leaves then .left else .polling
        lastStatusSent := turn.lastStatusSent
        events := server.events ++ turn.events }
    else server
  | .leave => if server.phase = .polling then { server with phase := .left } else server
  | .timeout =>
    if server.phase = .left then
      { server with phase := .closing, events := server.events ++ [timeoutEvent] }
    else server
  | .close => if server.phase = .polling then server else { server with phase := .ended }

def Platform.serve (platform : Platform) (userId : Text) (steps : List Step) : List Event :=
  (steps.foldl (platform.step userId) {}).events

section Turns

/-- What a turn answers this user with. -/
def Reading.Answers (userId : Text) (reading : Reading) (value : Json) : Prop :=
  (∃ status, reading.redis = some status ∧ (status.userId = [] ∨ status.userId = userId) ∧
    status.status = completed ∧ reading.result = some value) ∨
  ∃ row, reading.redis = none ∧ reading.row = some row ∧ row.status = completed ∧
    value = orElse reading.result row.output

/-- A status that a reading finds. -/
def Reading.Finds (reading : Reading) (status : Text) : Prop :=
  (∃ found, reading.redis = some found ∧ status = found.status) ∨
    ∃ found, reading.row = some found ∧ status = found.status

/-- A text of an error: the route's own, or the one that was stored. -/
def Reading.Blames (reading : Reading) (message : Text) : Prop :=
  (∃ string, message = text string) ∨
    (∃ found, reading.redis = some found ∧ found.error = some message) ∨
      ∃ found, reading.row = some found ∧ found.error = some message

variable {userId : Text} {last : Option Text} {reading : Reading} {Fits : Event → Prop}
  (status : ∀ status, reading.Finds status → Fits (eventOf .status [("status", .str status)]))
  (error : ∀ members : List (String × Text), (∀ entry ∈ members, reading.Blames entry.2) →
    Fits (errorEvent members))
  (result : ∀ value, reading.Answers userId value → Fits (resultEvent value))
  (ping : Fits (eventOf .ping []))

theorem blames_text {string : String} : reading.Blames (text string) := .inl ⟨string, rfl⟩

private theorem blames_getD {stored : Option Text} {string : String}
    (own : ∀ message, stored = some message → reading.Blames message) :
    reading.Blames (stored.getD (text string)) := by
  cases stored with
  | none => exact blames_text
  | some message => exact own message rfl

include status in
private theorem forall_announce {found : Text} (own : reading.Finds found) :
    ∀ event ∈ announce last found, Fits event := by
  unfold announce
  split
  · nofun
  · exact List.forall_mem_singleton.mpr (status found own)

include status error result

private theorem forall_redisTurn {found : JobStatus} (there : reading.redis = some found) :
    ∀ event ∈ (redisTurn userId last found reading.result).events, Fits event := by
  have told : ∀ event ∈ announce last found.status, Fits event :=
    forall_announce status (.inl ⟨found, there, rfl⟩)
  have blamed : reading.Blames (found.error.getD (text "Job failed")) :=
    blames_getD fun message stored => .inr (.inl ⟨found, there, stored⟩)
  unfold redisTurn
  split
  · exact List.forall_mem_singleton.mpr (error _ (by simp [blames_text]))
  · rename_i own
    split
    · rename_i done
      split
      · rename_i value read
        refine List.forall_mem_append.mpr ⟨told, List.forall_mem_singleton.mpr (result value ?_)⟩
        have user : found.userId = [] ∨ found.userId = userId :=
          Decidable.or_iff_not_imp_left.mpr (by simpa using own)
        exact .inl ⟨found, there, user, done, read⟩
      · exact told
    · split
      · refine List.forall_mem_append.mpr ⟨told, List.forall_mem_singleton.mpr (error _ ?_)⟩
        simp [failed, blames_text, blamed]
      · exact told

private theorem forall_rowTurn (silent : reading.redis = none) :
    ∀ event ∈ (rowTurn last reading.row reading.result).events, Fits event := by
  unfold rowTurn
  split
  · exact List.forall_mem_singleton.mpr (error _ (by simp [blames_text]))
  · rename_i found there
    have told : ∀ event ∈ announce last found.status, Fits event :=
      forall_announce status (.inr ⟨found, there, rfl⟩)
    have blamed : reading.Blames (found.error.getD (text "Job failed")) :=
      blames_getD fun message stored => .inr (.inr ⟨found, there, stored⟩)
    split
    · rename_i done
      exact List.forall_mem_append.mpr ⟨told,
        List.forall_mem_singleton.mpr (result _ (.inr ⟨found, silent, there, done, rfl⟩))⟩
    · split
      · refine List.forall_mem_append.mpr ⟨told, List.forall_mem_singleton.mpr (error _ ?_)⟩
        simp [blames_text, blamed]
      · exact told

include ping

/-- What holds of each kind of event holds of all that a turn sends. -/
theorem forall_pollTurn :
    ∀ event ∈ (pinged reading.quiet (pollTurn userId last reading)).events, Fits event := by
  have sent : ∀ event ∈ (pollTurn userId last reading).events, Fits event := by
    unfold pollTurn
    split
    · rename_i found there
      exact forall_redisTurn status error result there
    · rename_i silent
      exact forall_rowTurn status error result silent
  unfold pinged
  split
  · exact List.forall_mem_append.mpr ⟨sent, List.forall_mem_singleton.mpr ping⟩
  · exact sent

end Turns

section Held

variable (platform : Platform)

def Holds (events : List Event) : Prop := ∀ event ∈ events, platform.holds event.json = true

/-- A reading is of values that the platform has. -/
structure Reading.Held (reading : Reading) : Prop where
  status : ∀ status, reading.redis = some status →
    unpaired status.status = true ∧ ∀ error, status.error = some error → unpaired error = true
  result : ∀ result, reading.result = some result → platform.holds result = true
  row : ∀ row, reading.row = some row → unpaired row.status = true ∧
    platform.holds row.output = true ∧ ∀ error, row.error = some error → unpaired error = true

def Step.Held : Step → Prop
  | .message received => unpaired received = true
  | .turn reading => reading.Held platform
  | _ => True

end Held

variable {platform : Platform}

theorem unpaired_text (string : String) : unpaired (text string) = true :=
  unpaired_of_scalar (ShareToken.codePoints_scalar string.toList)

private theorem holds_object {members : List (String × Json)}
    (each : ∀ entry ∈ members, platform.holds entry.2 = true) :
    platform.holds (object members) = true := by
  rw [object, platform.holds_obj, List.all_eq_true]
  intro entry member
  obtain ⟨own, there, rfl⟩ := List.mem_map.mp member
  rw [unpaired_text, each own there]
  rfl

theorem holds_eventOf {name : EventName} {members : List (String × Json)}
    (each : ∀ entry ∈ members, platform.holds entry.2 = true) :
    platform.holds (eventOf name members).json = true :=
  holds_object each

private theorem holds_errorEvent {members : List (String × Text)}
    (each : ∀ entry ∈ members, unpaired entry.2 = true) :
    platform.holds (errorEvent members).json = true := by
  refine holds_eventOf fun entry member => ?_
  obtain ⟨own, there, rfl⟩ := List.mem_map.mp member
  rw [platform.holds_str, each own there]

theorem Holds.append {first second : List Event} (one : Holds platform first)
    (other : Holds platform second) : Holds platform (first ++ second) := by
  intro event member
  obtain left | right := List.mem_append.mp member
  · exact one event left
  · exact other event right

theorem Holds.single {event : Event} (held : platform.holds event.json = true) :
    Holds platform [event] := by
  rintro _ member
  rwa [List.mem_singleton.mp member]

private theorem holds_property {key : String} {value found : Json}
    (held : platform.holds value = true)
    (there : property key value = some found) : platform.holds found = true := by
  cases value with
  | obj members =>
    obtain ⟨entry, at_, rfl⟩ := Option.map_eq_some_iff.mp there
    rw [platform.holds_obj, List.all_eq_true] at held
    have member := List.mem_reverse.mp (List.mem_of_find?_eq_some at_)
    exact (Bool.and_eq_true_iff.mp (held entry member)).2
  | _ => cases there

private theorem holds_orElse {value : Option Json} {other : Json}
    (held : ∀ found, value = some found → platform.holds found = true)
    (otherwise : platform.holds other = true) : platform.holds (orElse value other) = true := by
  unfold orElse
  split
  · exact otherwise
  · exact otherwise
  · exact held _ rfl

private theorem holds_tokenEvent {chunk delta : Json} (first : platform.holds chunk = true)
    (second : platform.holds delta = true) : platform.holds (tokenEvent chunk delta).json = true :=
  holds_eventOf (by simp [first, second])

private theorem holds_onMessage {message : Text} (whole : unpaired message = true) :
    Holds platform (platform.onMessage message).toList := by
  intro event sent
  rw [Option.mem_toList] at sent
  have raw : platform.holds (.str message) = true := by rw [platform.holds_str, whole]
  unfold Platform.onMessage at sent
  split at sent
  · cases sent
    exact holds_tokenEvent raw raw
  · cases sent
    exact holds_tokenEvent raw raw
  · rename_i parsed _ found
    have held := platform.holds_parsed found
    unfold Platform.forward at sent
    split at sent
    · rename_i stage chosen
      have own := holds_property held (Option.filter_eq_some_iff.mp chosen).1
      cases stage with
      | str name =>
        obtain ⟨message, known, rfl⟩ := Option.map_eq_some_iff.mp sent
        have shown : unpaired message = true := by
          unfold stageMessage at known
          split_ifs at known <;> cases known <;> exact unpaired_text _
        exact holds_eventOf (by simp [own, platform.holds_str, shown])
      | _ => cases sent
    · obtain ⟨chunk, chosen, rfl⟩ := Option.map_eq_some_iff.mp sent
      have own := holds_property held (Option.filter_eq_some_iff.mp chosen).1
      exact holds_tokenEvent own (holds_orElse (fun _ there => holds_property held there) own)

private theorem holds_resultEvent {result : Json} (held : platform.holds result = true) :
    platform.holds (resultEvent result).json = true :=
  holds_eventOf (by simp [held, completed, platform.holds_str, unpaired_text])

private theorem holds_pollTurn {userId : Text} {last : Option Text} {reading : Reading}
    (held : reading.Held platform) :
    Holds platform (pinged reading.quiet (pollTurn userId last reading)).events := by
  refine forall_pollTurn (fun status own => ?_) (fun members own => ?_) (fun value own => ?_) ?_
  · have whole : unpaired status = true := by
      obtain ⟨found, redis, rfl⟩ | ⟨found, row, rfl⟩ := own
      · exact (held.status found redis).1
      · exact (held.row found row).1
    exact holds_eventOf (by simp [platform.holds_str, whole])
  · refine holds_errorEvent fun entry member => ?_
    obtain ⟨string, same⟩ | ⟨found, redis, same⟩ | ⟨found, row, same⟩ := own entry member
    · exact same ▸ unpaired_text string
    · exact (held.status found redis).2 _ same
    · exact (held.row found row).2.2 _ same
  · refine holds_resultEvent ?_
    obtain ⟨_, _, _, _, result⟩ | ⟨row, _, found, _, rfl⟩ := own
    · exact held.result value result
    · exact holds_orElse held.result (held.row row found).2.1
  · exact holds_eventOf (by simp)

private theorem holds_step {userId : Text} {server : Server} {step : Step}
    (before : Holds platform server.events) (held : step.Held platform) :
    Holds platform (platform.step userId server step).events := by
  cases step with
  | message received =>
    rw [Platform.step]
    split
    · exact before
    · exact before.append (holds_onMessage held)
  | turn reading =>
    rw [Platform.step]
    split
    · exact before.append (holds_pollTurn held)
    · exact before
  | leave =>
    rw [Platform.step]
    split <;> exact before
  | timeout =>
    rw [Platform.step]
    split
    · exact before.append (.single (holds_errorEvent (by simp [unpaired_text])))
    · exact before
  | close =>
    rw [Platform.step]
    split <;> exact before

private theorem holds_serve {userId : Text} {steps : List Step}
    (held : ∀ step ∈ steps, step.Held platform) : Holds platform (platform.serve userId steps) := by
  induction steps using List.reverseRecOn with
  | nil => nofun
  | append_singleton steps step ih =>
    rw [Platform.serve, List.foldl_append]
    exact holds_step (ih fun other member => held other (List.mem_append_left _ member))
      (held step (List.mem_append_right _ List.mem_cons_self))

def Handled.chunk? : Handled → Option Json
  | .token chunk => some chunk
  | _ => none

/-- The chunk that a step brings to the page. -/
def Platform.chunk? (platform : Platform) : Step → Option Json
  | .message received => (platform.onMessage received).bind fun event => (platform.handled event).chunk?
  | _ => none

def Platform.chunks (platform : Platform) (events : List Event) : List Json :=
  events.filterMap fun event => (platform.handled event).chunk?

private theorem foldl_take_returned (tokens : List Json) (outcome : Outcome)
    (handled : List Handled) :
    handled.foldl Client.take { tokens := tokens, outcome := some outcome } =
      { tokens := tokens, outcome := some outcome } := by
  induction handled with
  | nil => rfl
  | cons handled rest ih => cases handled <;> exact ih

/-- A client takes the first tokens, up to where it returns. -/
theorem foldl_take_tokens (client : Client) (handled : List Handled) :
    (handled.foldl Client.take client).tokens <+:
      client.tokens ++ handled.filterMap Handled.chunk? := by
  induction handled generalizing client with
  | nil => exact List.prefix_append _ _
  | cons handled rest ih =>
    obtain ⟨tokens, outcome⟩ := client
    cases outcome with
    | some outcome =>
      rw [foldl_take_returned]
      exact List.prefix_append _ _
    | none =>
      cases handled with
      | nothing => exact ih { tokens := tokens }
      | done outcome =>
        rw [List.foldl_cons]
        exact (foldl_take_returned tokens outcome rest).symm ▸ List.prefix_append _ _
      | token chunk =>
        have more := ih { tokens := tokens ++ [chunk] }
        rwa [List.append_assoc] at more

private theorem finish_tokens (client : Client) : client.finish.tokens = client.tokens := by
  obtain ⟨tokens, outcome⟩ := client
  cases outcome <;> rfl

private theorem result_of_finish {client : Client} {value : Json}
    (returned : client.finish.outcome = some (.result value)) :
    client.outcome = some (.result value) := by
  obtain ⟨tokens, outcome⟩ := client
  cases outcome with
  | some outcome => exact returned
  | none => cases returned

private theorem follow_tokens (platform : Platform) (events : List Event) :
    (platform.follow events).tokens <+: platform.chunks events := by
  have taken := foldl_take_tokens {} (events.map platform.handled)
  rw [List.nil_append, List.filterMap_map] at taken
  rw [Platform.follow, finish_tokens]
  exact taken

/-- The outcome is what one of the events says, or that there was none. -/
theorem foldl_take_outcome {client : Client} {handled : List Handled} {outcome : Outcome}
    (returned : (handled.foldl Client.take client).outcome = some outcome) :
    client.outcome = some outcome ∨ .done outcome ∈ handled := by
  induction handled generalizing client with
  | nil => exact .inl returned
  | cons handled rest ih =>
    obtain before | later := ih returned
    · obtain ⟨tokens, already⟩ := client
      cases already with
      | some already => cases handled <;> exact .inl before
      | none =>
        cases handled with
        | done own =>
          cases before
          exact .inr List.mem_cons_self
        | nothing => exact .inl before
        | token chunk => exact .inl before
    · exact .inr (List.mem_cons_of_mem _ later)

private theorem follow_result {events : List Event} {value : Json}
    (returned : (platform.follow events).outcome = some (.result value)) :
    ∃ event ∈ events, platform.handled event = .done (.result value) := by
  obtain before | there := foldl_take_outcome (result_of_finish returned)
  · cases before
  · exact List.mem_map.mp there

private theorem text_inj {string other : String} : text string = text other ↔ string = other := by
  refine ⟨fun same => String.toList_inj.mp ?_, fun same => same ▸ rfl⟩
  exact List.map_injective_iff.mpr (fun _ _ equal => Char.toNat_inj.mp equal) same

theorem property_object (key : String) (members : List (String × Json)) :
    property key (object members) =
      (members.reverse.find? fun entry => entry.1 == key).map Prod.snd := by
  have same : (fun entry : Text × Json => entry.1 == text key) ∘
      (fun entry : String × Json => (text entry.1, entry.2)) = fun entry => entry.1 == key := by
    funext entry
    exact Bool.eq_iff_iff.mpr (by simp only [Function.comp_apply, beq_iff_eq, text_inj])
  rw [object, property, ← List.map_reverse, List.find?_map, same, Option.map_map]
  rfl

private theorem handled_tokenEvent (chunk delta : Json) :
    (platform.handled (tokenEvent chunk delta)).chunk? =
      if platform.truthy chunk = true then some chunk else none := by
  have found : property "chunk" (tokenEvent chunk delta).json = some chunk :=
    (property_object _ _).trans (by simp)
  have named : (tokenEvent chunk delta).name = .token := rfl
  rw [Platform.handled, named]
  simp only [found, Platform.onChunk, Option.filter_some]
  by_cases shown : platform.truthy chunk = true
  · rw [if_pos shown]
    rfl
  · rw [if_neg shown]
    rfl

private theorem handled_resultEvent {result value : Json}
    (given : platform.handled (resultEvent result) = .done (.result value)) :
    result = value ∧ platform.truthy value = true := by
  have found : property "result" (resultEvent result).json = some result :=
    (property_object _ _).trans (by simp)
  have named : (resultEvent result).name = .result := rfl
  rw [Platform.handled, named] at given
  simp only [found, Platform.onResult, Option.filter_some] at given
  by_cases shown : platform.truthy result = true
  · rw [if_pos shown] at given
    cases given
    exact ⟨rfl, shown⟩
  · rw [if_neg shown] at given
    cases given

private theorem chunk?_eq_none {event : Event} (name : event.name ≠ .token) :
    (platform.handled event).chunk? = none := by
  unfold Platform.handled
  split
  · rfl
  · rfl
  · exact absurd ‹event.name = .token› name
  · unfold Platform.onResult
    split <;> rfl
  · rfl

private theorem name_of_result {event : Event} {value : Json}
    (given : platform.handled event = .done (.result value)) : event.name = .result := by
  unfold Platform.handled at given
  split at given
  · cases given
  · cases given
  · unfold Platform.onChunk at given
    split at given <;> cases given
  · assumption
  · cases given

/-- A turn sends no tokens, and a result only where it has read one. -/
def Told (userId : Text) (reading : Reading) (event : Event) : Prop :=
  event.name ≠ .token ∧
    (event.name = .result → ∃ value, event = resultEvent value ∧ reading.Answers userId value)

private theorem told_pollTurn {userId : Text} {last : Option Text} {reading : Reading} :
    ∀ event ∈ (pinged reading.quiet (pollTurn userId last reading)).events,
      Told userId reading event := by
  refine forall_pollTurn (fun status _ => ?_) (fun members _ => ?_) (fun value own => ?_) ?_
  · exact ⟨nofun, nofun⟩
  · exact ⟨nofun, nofun⟩
  · exact ⟨nofun, fun _ => ⟨value, rfl, own⟩⟩
  · exact ⟨nofun, nofun⟩

/-- A message makes a token or a status. -/
theorem onMessage_name {message : Text} {event : Event}
    (sent : event ∈ platform.onMessage message) : event.name ≠ .result := by
  unfold Platform.onMessage at sent
  split at sent
  · cases sent
    nofun
  · cases sent
    nofun
  · unfold Platform.forward at sent
    split at sent
    · rename_i stage _
      cases stage with
      | str name =>
        obtain ⟨_, _, rfl⟩ := Option.map_eq_some_iff.mp sent
        nofun
      | _ => cases sent
    · obtain ⟨_, _, rfl⟩ := Option.map_eq_some_iff.mp sent
      nofun

/-- What the steps of a run have sent. -/
structure Sent (platform : Platform) (userId : Text) (steps : List Step) (server : Server) : Prop where
  tokens : platform.chunks server.events <+: steps.filterMap platform.chunk?
  open_ : server.phase ≠ .ended →
    platform.chunks server.events = steps.filterMap platform.chunk?
  results : ∀ event ∈ server.events, event.name = .result →
    ∃ reading value, .turn reading ∈ steps ∧ event = resultEvent value ∧
      reading.Answers userId value

/-- A step that sends no token and no result keeps what has been sent. -/
theorem Sent.quiet {userId : Text} {steps : List Step} {server next : Server} {step : Step}
    (sent : Sent platform userId steps server) (silent : platform.chunk? step = none)
    (phase : next.phase ≠ .ended → server.phase ≠ .ended) (more : List Event)
    (events : next.events = server.events ++ more) (tokens : platform.chunks more = [])
    (results : ∀ event ∈ more, event.name = .result →
      ∃ reading value, .turn reading ∈ steps ++ [step] ∧ event = resultEvent value ∧
        reading.Answers userId value) :
    Sent platform userId (steps ++ [step]) next := by
  have same : platform.chunks next.events = platform.chunks server.events := by
    rw [events, Platform.chunks, List.filterMap_append]
    exact (congrArg (_ ++ ·) tokens).trans (List.append_nil _)
  have steps_eq : (steps ++ [step]).filterMap platform.chunk? = steps.filterMap platform.chunk? := by
    simp [List.filterMap_append, silent]
  refine ⟨?_, fun alive => ?_, fun event member name => ?_⟩
  · rw [same, steps_eq]
    exact sent.tokens
  · rw [same, steps_eq]
    exact sent.open_ (phase alive)
  · rw [events] at member
    obtain before | new := List.mem_append.mp member
    · obtain ⟨reading, value, there, own⟩ := sent.results event before name
      exact ⟨reading, value, List.mem_append_left _ there, own⟩
    · exact results event new name

private theorem chunks_eq_nil {events : List Event}
    (names : ∀ event ∈ events, event.name ≠ .token) :
    platform.chunks events = [] :=
  List.filterMap_eq_nil_iff.mpr fun event member => chunk?_eq_none (names event member)

theorem Sent.step {userId : Text} {steps : List Step} {server : Server} (step : Step)
    (sent : Sent platform userId steps server) :
    Sent platform userId (steps ++ [step]) (platform.step userId server step) := by
  have stays {next : Server} (silent : platform.chunk? step = none)
      (phase : next.phase ≠ .ended → server.phase ≠ .ended) (events : next.events = server.events) :
      Sent platform userId (steps ++ [step]) next :=
    sent.quiet silent phase [] (events.trans (List.append_nil _).symm) rfl nofun
  cases step with
  | message received =>
    have last : (steps ++ [Step.message received]).filterMap platform.chunk? =
        steps.filterMap platform.chunk? ++ platform.chunks (platform.onMessage received).toList := by
      rw [List.filterMap_append]
      refine congrArg (_ ++ ·) ?_
      cases sends : platform.onMessage received with
      | none => simp [Platform.chunk?, sends, Platform.chunks]
      | some event =>
        have own : platform.chunk? (.message received) = (platform.handled event).chunk? := by
          rw [Platform.chunk?, sends]
          rfl
        simp [Platform.chunks, List.filterMap_cons, own]
    rw [Platform.step]
    split
    · rename_i ended
      refine ⟨?_, fun alive => absurd ended alive, fun event member name => ?_⟩
      · rw [last]
        exact sent.tokens.trans (List.prefix_append _ _)
      · obtain ⟨reading, value, there, own⟩ := sent.results event member name
        exact ⟨reading, value, List.mem_append_left _ there, own⟩
    · rename_i alive
      have all : platform.chunks (server.events ++ (platform.onMessage received).toList) =
          (steps ++ [Step.message received]).filterMap platform.chunk? := by
        rw [last, ← sent.open_ alive]
        exact List.filterMap_append
      refine ⟨all ▸ List.prefix_rfl, fun _ => all, fun event member name => ?_⟩
      obtain before | new := List.mem_append.mp member
      · obtain ⟨reading, value, there, own⟩ := sent.results event before name
        exact ⟨reading, value, List.mem_append_left _ there, own⟩
      · exact absurd name (onMessage_name (Option.mem_toList.mp new))
  | turn reading =>
    rw [Platform.step]
    split
    · rename_i polling
      have told := @told_pollTurn userId server.lastStatusSent reading
      refine sent.quiet rfl (fun _ => by rw [polling]; nofun) _ rfl
        (chunks_eq_nil fun event member => (told event member).1) fun event member name => ?_
      obtain ⟨value, same, own⟩ := (told event member).2 name
      exact ⟨reading, value, List.mem_append_right _ List.mem_cons_self, same, own⟩
    · exact stays rfl id rfl
  | leave =>
    rw [Platform.step]
    split
    · rename_i polling
      exact stays rfl (fun _ => by rw [polling]; nofun) rfl
    · exact stays rfl id rfl
  | timeout =>
    rw [Platform.step]
    split
    · rename_i left
      refine sent.quiet rfl (fun _ => by rw [left]; nofun) [timeoutEvent] rfl
        (chunks_eq_nil (by simp [timeoutEvent, errorEvent, eventOf])) ?_
      simp [timeoutEvent, errorEvent, eventOf]
    · exact stays rfl id rfl
  | close =>
    rw [Platform.step]
    split
    · exact stays rfl id rfl
    · exact stays rfl (fun alive => absurd rfl alive) rfl

private theorem sent_serve (platform : Platform) (userId : Text) (steps : List Step) :
    Sent platform userId steps (steps.foldl (platform.step userId) {}) := by
  induction steps using List.reverseRecOn with
  | nil => exact ⟨List.prefix_rfl, fun _ => rfl, nofun⟩
  | append_singleton steps step ih =>
    rw [List.foldl_append]
    exact ih.step step

/-- The texts that Python publishes have no halves of pairs. -/
def Published.Whole : Published → Prop
  | chunk words delta => words.all isScalar = true ∧ delta.all isScalar = true
  | stage name => name.all isScalar = true

private theorem onMessage_payload {published : Published} (whole : published.Whole) :
    platform.onMessage published.payload = platform.forward published.json := by
  have plain : published.json.plain = true := by
    cases published with
    | chunk words delta =>
      have keys : (text "chunk").all isScalar = true ∧ (text "delta").all isScalar = true := by decide
      simp only [Published.json, object, List.map_cons, List.map_nil, Json.plain, Json.plainMembers,
        keys.1, keys.2, whole.1, whole.2, Bool.and_self]
    | stage name =>
      have key : (text "stage").all isScalar = true := by decide
      have own : name.all isScalar = true := whole
      simp only [Published.json, object, List.map_cons, List.map_nil, Json.plain, Json.plainMembers,
        key, own, Bool.and_self]
  have held : platform.holds published.json = true := by
    cases published with
    | chunk words delta =>
      exact holds_object (by
        simp [platform.holds_str, unpaired_of_scalar whole.1, unpaired_of_scalar whole.2])
    | stage name =>
      exact holds_object (by simp [platform.holds_str, unpaired_of_scalar whole])
  have parsed := platform.jsonParse_dumps plain held
  unfold Platform.onMessage
  rw [Published.payload, parsed]
  cases published <;> rfl

/-- A message that the worker published is shown as it was meant. -/
theorem chunk?_payload {published : Published} (whole : published.Whole) :
    platform.chunk? (.message published.payload) = published.shown := by
  rw [Platform.chunk?, onMessage_payload whole, Platform.forward]
  cases published with
  | chunk words delta =>
    have stage : property "stage" (Published.chunk words delta).json = none :=
      (property_object _ _).trans (by simp)
    have chunk : property "chunk" (Published.chunk words delta).json = some (.str words) :=
      (property_object _ _).trans (by simp)
    rw [stage, chunk]
    cases words with
    | nil => rfl
    | cons point rest => exact handled_tokenEvent (.str (point :: rest)) _
  | stage name =>
    have stage : property "stage" (Published.stage name).json = some (.str name) :=
      (property_object _ _).trans (by simp)
    have chunk : property "chunk" (Published.stage name).json = none :=
      (property_object _ _).trans (by simp)
    rw [stage, chunk]
    cases name with
    | nil => rfl
    | cons point rest =>
      change (stageEvent (.str (point :: rest))).bind _ = none
      rw [Option.bind_eq_none_iff]
      intro event sent
      obtain ⟨message, -, rfl⟩ := Option.map_eq_some_iff.mp sent
      exact chunk?_eq_none nofun

def Step.message? : Step → Option Text
  | .message received => some received
  | _ => none

/-- The messages that arrived. -/
def messagesOf (steps : List Step) : List Text := steps.filterMap Step.message?

private theorem chunks_of_messages (steps : List Step) : steps.filterMap platform.chunk? =
    (messagesOf steps).filterMap fun received => platform.chunk? (.message received) := by
  rw [messagesOf, List.filterMap_filterMap]
  refine List.filterMap_congr fun step _ => ?_
  cases step <;> rfl

/-- Whatever the order of the steps, and wherever the stream is cut or ends, the page is given the
chunks of the worker one after another from the first, and no result but one that a turn of the loop
read, of a status for this user or for nobody or of the user's row, when the job was completed. -/
theorem answer_delivered (platform : Platform) (userId : Text) {steps : List Step}
    (held : ∀ step ∈ steps, step.Held platform) {reads : List (List UInt8)}
    (arrived : reads.flatten <+: streamBytes (platform.serve userId steps)) :
    ((platform.streamJobResult reads).tokens <+: steps.filterMap platform.chunk?) ∧
      (∀ published : List Published, (∀ each ∈ published, each.Whole) →
        messagesOf steps = published.map Published.payload →
        (platform.streamJobResult reads).tokens <+: published.filterMap Published.shown) ∧
      ∀ value, (platform.streamJobResult reads).outcome = some (.result value) →
        platform.truthy value = true ∧
          ∃ reading, .turn reading ∈ steps ∧ reading.Answers userId value := by
  obtain ⟨count, read, -⟩ := stream_delivered platform (holds_serve held) arrived
  have sent := sent_serve platform userId steps
  have tokens : (platform.streamJobResult reads).tokens <+: steps.filterMap platform.chunk? := by
    rw [read]
    refine (follow_tokens platform _).trans (List.IsPrefix.trans ?_ sent.tokens)
    exact (List.take_prefix count _).filterMap _
  refine ⟨tokens, fun published whole same => ?_, fun value returned => ?_⟩
  · rw [chunks_of_messages, same, List.filterMap_map] at tokens
    have each : published.filterMap
        ((fun received => platform.chunk? (.message received)) ∘ Published.payload) =
          published.filterMap Published.shown :=
      List.filterMap_congr fun one member => chunk?_payload (whole one member)
    rwa [each] at tokens
  · rw [read] at returned
    obtain ⟨event, member, given⟩ := follow_result returned
    obtain ⟨reading, found, there, rfl, own⟩ :=
      sent.results event (List.mem_of_mem_take member) (name_of_result given)
    obtain ⟨rfl, shown⟩ := handled_resultEvent given
    exact ⟨shown, reading, there, own⟩

def sampleReading : Reading where
  circuitOpen := false
  status := some (some { status := completed, userId := text "u1", error := none })
  result := some sampleAnswer
  row := none
  quiet := false

def samplePublished : List Published := [.stage (text "drafting"), .chunk (text "Dear ") (text "Dear ")]

def sampleSteps : List Step :=
  samplePublished.map (fun each => .message each.payload) ++ [.turn sampleReading, .timeout, .close]

private theorem held_sampleSteps : ∀ step ∈ sampleSteps, step.Held writtenNumbers := by
  have reading : sampleReading.Held writtenNumbers := by
    refine ⟨fun status found => ?_, fun result found => ?_, nofun⟩
    · cases found
      exact ⟨unpaired_text _, nofun⟩
    · cases found
      decide
  intro step member
  simp only [sampleSteps, samplePublished, List.map_cons, List.map_nil, List.cons_append,
    List.nil_append, List.mem_cons, List.not_mem_nil, or_false] at member
  obtain rfl | rfl | rfl | rfl | rfl := member
  · change unpaired (Published.payload _) = true
    decide
  · change unpaired (Published.payload _) = true
    decide
  · exact reading
  · trivial
  · trivial

/-- A stream that ends behind the first character of the answer. -/
theorem broken_stream_delivered :
    (writtenNumbers.streamJobResult
      [(streamBytes (writtenNumbers.serve (text "u1") sampleSteps)).take 150]).tokens <+:
        [.str (text "Dear ")] := by
  have arrived : [(streamBytes (writtenNumbers.serve (text "u1") sampleSteps)).take 150].flatten <+:
      streamBytes (writtenNumbers.serve (text "u1") sampleSteps) := by
    rw [List.flatten_cons, List.flatten_nil, List.append_nil]
    exact List.take_prefix _ _
  exact (answer_delivered writtenNumbers (text "u1") held_sampleSteps arrived).2.1 samplePublished
    (by simp [samplePublished, Published.Whole]; decide) rfl

end BrainMate.WriteRight.JobStream
