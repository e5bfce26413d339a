import BrainMate.Text.BlockBuffer
import BrainMate.WriteRight.EmailChain
import BrainMate.WriteRight.ShareToken

/-! The events of GET /api/writeright/job/[jobId]/stream, and how `streamJobResult` of the page reads
them. -/

namespace BrainMate.WriteRight.JobStream

open Text

open EmailChain (Text text trim isWhite newline)

/-- What a platform does with JSON: the values it has come back as they were written, by itself or
by Python. -/
structure Platform where
  holds : Json → Bool
  sound {value : Json} : holds value = true → value.all unpaired isFloat = true
  holds_str {points : Text} : holds (.str points) = unpaired points
  holds_obj {members : List (Text × Json)} :
    holds (.obj members) = members.all fun entry => unpaired entry.1 && holds entry.2
  jsonParse : Text → Option Json
  holds_parsed {written : Text} {value : Json} : jsonParse written = some value → holds value = true
  jsonParse_stringify {value : Json} :
    holds value = true → jsonParse (stringify.text value) = some value
  jsonParse_dumps {value : Json} :
    value.plain = true → holds value = true → jsonParse (dumps.text value) = some value
  /-- Whether a number that is no integer counts as true. -/
  truthyFloat : Text → Bool

/-- `value.key`, which is `undefined` where there is none. -/
def property (key : String) : Json → Option Json
  | .obj members => (members.reverse.find? fun entry => entry.1 == text key).map Prod.snd
  | _ => none

def Platform.truthy (platform : Platform) : Json → Bool
  | .null => false
  | .bool value => value
  | .int value => value ≠ 0
  | .float literal => platform.truthyFloat literal
  | .str points => !points.isEmpty
  | .arr _ | .obj _ => true

/-- `value ?? other` -/
def orElse (value : Option Json) (other : Json) : Json :=
  match value with
  | none | some .null => other
  | some value => value

inductive EventName where
  | status
  | token
  | result
  | error
  | ping
  deriving DecidableEq, Repr

def EventName.text : EventName → Text
  | status => EmailChain.text "status"
  | token => EmailChain.text "token"
  | result => EmailChain.text "result"
  | error => EmailChain.text "error"
  | ping => EmailChain.text "ping"

structure Event where
  name : EventName
  members : List (Text × Json)

namespace Event

def json (event : Event) : Json := .obj event.members

/-- What stands in front of the blank line. -/
def block (event : Event) : Text :=
  text "event: " ++ event.name.text ++ newline :: (text "data: " ++ stringify.text event.json)

end Event

/-- What `sendEvent` enqueues for one event after another. -/
def streamText (events : List Event) : Text :=
  (events.map Event.block).flatMap (· ++ [newline, newline])

def streamBytes (events : List Event) : List UInt8 := (streamText events).flatMap utf8

inductive Outcome where
  | result (value : Json)
  | apiError (message : Json) (code : Option Json)
  | syntaxError
  | typeError

inductive Handled where
  | nothing
  | token (chunk : Json)
  | done (outcome : Outcome)

/-- `payload.key` of a parsed payload, which throws where the payload is `null`. -/
def Platform.withPayload (platform : Platform) (rawData : Text) (key : String)
    (use : Option Json → Json → Handled) : Handled :=
  match platform.jsonParse rawData with
  | none => .done .syntaxError
  | some .null => .done .typeError
  | some payload => use (property key payload) payload

def Platform.onChunk (platform : Platform) (chunk : Option Json) (_ : Json) : Handled :=
  match chunk.filter platform.truthy with
  | some chunk => .token chunk
  | none => .nothing

def Platform.onResult (platform : Platform) (result : Option Json) (_ : Json) : Handled :=
  match result.filter platform.truthy with
  | some value => .done (.result value)
  | none => .done (.apiError (.str (text "Empty result")) none)

def onError (error : Option Json) (payload : Json) : Handled :=
  .done (.apiError (orElse error (.str (text "Job failed"))) (property "code" payload))

structure Fields where
  eventName : Text := text "message"
  dataLines : List Text := []

def onLine (fields : Fields) (line : Text) : Fields :=
  if line.isEmpty || (text ":").isPrefixOf line then fields
  else if (text "event:").isPrefixOf line then { fields with eventName := trim (line.drop 6) }
  else if (text "data:").isPrefixOf line then
    { fields with dataLines := fields.dataLines ++ [trim (line.drop 5)] }
  else fields

def Platform.handleFields (platform : Platform) (eventName rawData : Text) : Handled :=
  if rawData.isEmpty then .nothing
  else if eventName = EventName.ping.text ∨ eventName = EventName.status.text then .nothing
  else if eventName = EventName.token.text then
    platform.withPayload rawData "chunk" platform.onChunk
  else if eventName = EventName.result.text then
    platform.withPayload rawData "result" platform.onResult
  else if eventName = EventName.error.text then platform.withPayload rawData "error" onError
  else .nothing

def Platform.handleEventBlock (platform : Platform) (block : Text) : Handled :=
  let fields := (block.splitOn newline).foldl onLine {}
  platform.handleFields fields.eventName ([newline].intercalate fields.dataLines)

structure Client where
  /-- What `onToken` was called with. -/
  tokens : List Json := []
  outcome : Option Outcome := none

/-- A client with an outcome has returned or thrown. -/
def Client.take (client : Client) (handled : Handled) : Client :=
  match client.outcome, handled with
  | none, .token chunk => { client with tokens := client.tokens ++ [chunk] }
  | none, .done outcome => { client with outcome := some outcome }
  | _, _ => client

structure Reader where
  decoder : Utf8Decoder := {}
  buffer : Text := []
  client : Client := {}

def Platform.onText (platform : Platform) (reader : Reader) (value : Text) : Reader :=
  let (blocks, buffer) := cutBlocks newline [newline] (reader.buffer ++ value.filter (· ≠ 0x0d))
  { reader with
    buffer := buffer
    client := (blocks.map platform.handleEventBlock).foldl Client.take reader.client }

def Platform.onRead (platform : Platform) (reader : Reader) (bytes : List UInt8) : Reader :=
  let (decoder, value) := reader.decoder.decode bytes
  platform.onText { reader with decoder := decoder } value

/-- What the decoder still gives at the end: a character that is not complete is malformed. -/
def flushed (decoder : Utf8Decoder) : Text := if decoder.needed = 0 then [] else [0xfffd]

def Client.finish (client : Client) : Client :=
  client.take
    (.done (.apiError (.str (text "Stream ended before a result was returned.")) none))

def Platform.streamJobResult (platform : Platform) (reads : List (List UInt8)) : Client :=
  let reader := reads.foldl platform.onRead {}
  (platform.onText reader (flushed reader.decoder)).client.finish

/-- What an event is to the page. -/
def Platform.handled (platform : Platform) (event : Event) : Handled :=
  match event.name with
  | .status | .ping => .nothing
  | .token => platform.onChunk (property "chunk" event.json) event.json
  | .result => platform.onResult (property "result" event.json) event.json
  | .error => onError (property "error" event.json) event.json

def Platform.follow (platform : Platform) (events : List Event) : Client :=
  ((events.map platform.handled).foldl Client.take {}).finish

section Written

variable {event : Event}

private theorem lastMember (members : List (Text × Json)) :
    ∃ front, stringify.moreMembers members = front ++ [0x7d] := by
  induction members with
  | nil => exact ⟨[], rfl⟩
  | cons member rest ih =>
    obtain ⟨front, ends⟩ := ih
    rw [Writer.moreMembers, ends, ← List.append_assoc]
    exact ⟨_, rfl⟩

/-- The data of an event begins and ends in a bracket. -/
theorem json_brackets (event : Event) :
    ∃ middle, stringify.text event.json = 0x7b :: (middle ++ [0x7d]) := by
  rw [Event.json, Writer.text]
  cases event.members with
  | nil => exact ⟨[], rfl⟩
  | cons member rest =>
    obtain ⟨front, ends⟩ := lastMember rest
    rw [Writer.firstMember, ends, ← List.append_assoc]
    exact ⟨_, rfl⟩

private theorem newline_not_mem_json (sound : event.json.all unpaired isFloat = true) :
    newline ∉ stringify.text event.json := by
  intro inside
  have shown := List.all_eq_true.mp (text_shown sound) newline inside
  exact absurd shown (by decide)

def nameLine (name : EventName) : Text := text "event: " ++ name.text

def dataLine (event : Event) : Text := text "data: " ++ stringify.text event.json

private theorem block_eq (event : Event) :
    event.block = nameLine event.name ++ newline :: dataLine event := rfl

private theorem newline_not_mem_nameLine (name : EventName) : newline ∉ nameLine name := by
  cases name <;> decide

private theorem newline_not_mem_dataLine (sound : event.json.all unpaired isFloat = true) :
    newline ∉ dataLine event := by
  rw [dataLine, List.mem_append, not_or]
  exact ⟨by decide, newline_not_mem_json sound⟩

/-- There is no blank line in an event. -/
theorem block_free (sound : event.json.all unpaired isFloat = true) :
    ¬ [newline, newline] <:+: event.block ++ [newline, newline].dropLast := by
  have ending : ¬ [newline, newline] <:+: dataLine event ++ newline :: [] :=
    pair_free (newline_not_mem_dataLine sound) (by decide)
      fun found => List.cons_ne_nil _ _ (List.infix_nil.mp found)
  rw [block_eq, List.append_assoc, List.cons_append]
  have next : (0x64 : Nat) ≠ newline := by decide
  exact pair_free (newline_not_mem_nameLine _) (fun same => next (Option.some.inj same)) ending

private theorem splitOn_block (sound : event.json.all unpaired isFloat = true) :
    event.block.splitOn newline = [nameLine event.name, dataLine event] := by
  rw [block_eq, List.splitOn_append_cons_self_of_not_mem (newline_not_mem_nameLine _),
    List.splitOn_eq_singleton (newline_not_mem_dataLine sound)]

private theorem onLine_name (name : EventName) :
    onLine {} (nameLine name) = { eventName := name.text } := by
  cases name <;> rfl

private theorem onLine_data (event : Event) (name : Text) :
    onLine { eventName := name } (dataLine event) =
      { eventName := name, dataLines := [stringify.text event.json] } := by
  obtain ⟨middle, shape⟩ := json_brackets event
  have value : (dataLine event).drop 5 = 0x20 :: stringify.text event.json := rfl
  have trimmed : trim ((dataLine event).drop 5) = stringify.text event.json := by
    have solid : trim (stringify.text event.json) = stringify.text event.json := by
      rw [shape]
      exact trimBy_solid (by decide) (by decide)
    rw [value, trim, trimBy, List.dropWhile_cons_of_pos (by decide)]
    exact solid
  have read : onLine { eventName := name } (dataLine event) =
      { eventName := name, dataLines := [trim ((dataLine event).drop 5)] } := rfl
  rw [read, trimmed]

private theorem withPayload_json {platform : Platform} (held : platform.holds event.json = true)
    (key : String) (use : Option Json → Json → Handled) :
    platform.withPayload (stringify.text event.json) key use =
      use (property key event.json) event.json := by
  have parsed : platform.jsonParse (stringify.text event.json) = some (.obj event.members) :=
    platform.jsonParse_stringify held
  rw [Platform.withPayload, parsed]
  rfl

/-- A block is handled as the event that it is. -/
theorem handleEventBlock_block {platform : Platform} (held : platform.holds event.json = true) :
    platform.handleEventBlock event.block = platform.handled event := by
  have fields : (event.block.splitOn newline).foldl onLine {} =
      { eventName := event.name.text, dataLines := [stringify.text event.json] } := by
    rw [splitOn_block (platform.sound held), List.foldl_cons, onLine_name, List.foldl_cons,
      onLine_data, List.foldl_nil]
  have joined : [newline].intercalate [stringify.text event.json] = stringify.text event.json :=
    List.append_nil _
  rw [Platform.handleEventBlock, fields]
  simp only [joined]
  rw [Platform.handled]
  cases event.name with
  | status => rfl
  | ping => rfl
  | token => exact withPayload_json held "chunk" platform.onChunk
  | result => exact withPayload_json held "result" platform.onResult
  | error => exact withPayload_json held "error" onError

end Written

variable {platform : Platform} {events : List Event}

private theorem onText_append (reader : Reader) (first second : Text) :
    platform.onText reader (first ++ second) =
      platform.onText (platform.onText reader first) second := by
  rw [Platform.onText, List.filter_append, ← List.append_assoc, cutBlocks_append]
  simp only [Platform.onText, List.map_append, List.foldl_append]

/-- Two reads are read like one. -/
theorem onRead_append (reader : Reader) (first second : List UInt8) :
    platform.onRead reader (first ++ second) =
      platform.onRead (platform.onRead reader first) second := by
  simp only [Platform.onRead, Utf8Decoder.decode_append, onText_append]
  rfl

private theorem onRead_nil : platform.onRead {} [] = {} := by
  simp only [Platform.onRead, Utf8Decoder.decode, Platform.onText, List.filter_nil, List.append_nil,
    cutBlocks_nil, List.map_nil, List.foldl_nil]

theorem foldl_onRead (reads : List (List UInt8)) :
    reads.foldl platform.onRead {} = platform.onRead {} reads.flatten := by
  induction reads using List.reverseRecOn with
  | nil => exact onRead_nil.symm
  | append_singleton reads value ih =>
    rw [List.foldl_append, ih, List.flatten_append, onRead_append]
    simp only [List.foldl_cons, List.foldl_nil, List.flatten_cons, List.flatten_nil,
      List.append_nil]

private theorem scalar_streamText (held : ∀ event ∈ events, platform.holds event.json = true) :
    ∀ point ∈ streamText events, isScalar point = true ∧ point ≠ 0x0d := by
  intro point sent
  obtain ⟨block, inside, within⟩ := List.mem_flatMap.mp sent
  obtain ⟨event, member, rfl⟩ := List.mem_map.mp inside
  have plain : ∀ name point, point ∈ nameLine name → isScalar point = true ∧ point ≠ 0x0d := by
    intro name
    cases name <;> decide
  have marked : ∀ point ∈ text "data: ", isScalar point = true ∧ point ≠ 0x0d := by decide
  have sound := platform.sound (held event member)
  rw [block_eq, dataLine] at within
  simp only [List.mem_append, List.mem_cons, List.not_mem_nil, or_false] at within
  obtain (name | rfl | header | data) | rfl | rfl := within
  · exact plain event.name point name
  · decide
  · exact marked point header
  · have shown := List.all_eq_true.mp (text_shown sound) point data
    refine ⟨List.all_eq_true.mp (text_scalar sound) point data, ?_⟩
    rintro rfl
    exact absurd shown (by decide)
  · decide
  · decide

private theorem decode_streamBytes (held : ∀ event ∈ events, platform.holds event.json = true) :
    ∃ decoder, ({} : Utf8Decoder).decode (streamBytes events) = (decoder, streamText events) := by
  cases events with
  | nil => exact ⟨{}, rfl⟩
  | cons event rest =>
    have begins : streamText (event :: rest) = 0x65 :: (streamText (event :: rest)).tail := rfl
    refine ⟨{ begun := true }, ?_⟩
    rw [streamBytes, begins, Utf8Decoder.decode_fresh (by decide)]
    intro point sent
    rw [← begins] at sent
    simpa [isScalar] using (scalar_streamText held point sent).1

private theorem cutBlocks_streamText (held : ∀ event ∈ events, platform.holds event.json = true) :
    cutBlocks newline [newline] (streamText events) = (events.map Event.block, []) := by
  refine cutBlocks_flatMap fun block sent => ?_
  obtain ⟨event, member, rfl⟩ := List.mem_map.mp sent
  exact block_free (platform.sound (held event member))

/-- What the decoder gives at the end completes no block. -/
theorem streamJobResult_eq {reads : List (List UInt8)} {decoder : Utf8Decoder} {points : Text}
    (first : ({} : Utf8Decoder).decode reads.flatten = (decoder, points))
    (kept : points.filter (· ≠ 0x0d) = points) :
    platform.streamJobResult reads =
      (((cutBlocks newline [newline] points).1.map platform.handleEventBlock).foldl
        Client.take {}).finish := by
  have reader : reads.foldl platform.onRead {} = platform.onText { decoder := decoder } points := by
    rw [foldl_onRead, Platform.onRead, first]
  have ended : (cutBlocks newline [newline] (points ++ flushed decoder)).1 =
      (cutBlocks newline [newline] points).1 := by
    unfold flushed
    split
    · rw [List.append_nil]
    · exact cutBlocks_foreign (by decide)
  have filtered : (points ++ flushed decoder).filter (· ≠ 0x0d) = points ++ flushed decoder := by
    rw [List.filter_append, kept]
    unfold flushed
    split <;> rfl
  have same : (platform.onText { decoder := decoder } points).decoder = decoder := rfl
  rw [Platform.streamJobResult, reader]
  simp only [same, ← onText_append]
  rw [Platform.onText, filtered, List.nil_append, ← ended]

/-- Of a stream that may end early, the page reads the first events, and all of them when it
arrives whole, wherever it is cut. -/
theorem stream_delivered (platform : Platform) {events : List Event}
    (held : ∀ event ∈ events, platform.holds event.json = true) {reads : List (List UInt8)}
    (arrived : reads.flatten <+: streamBytes events) :
    ∃ count, platform.streamJobResult reads = platform.follow (events.take count) ∧
      (reads.flatten = streamBytes events → count = events.length) := by
  obtain ⟨missing, whole⟩ := arrived
  obtain ⟨last, decoded⟩ := decode_streamBytes held
  -- what is decoded is the beginning of what was sent
  obtain ⟨decoder, points, first⟩ : ∃ decoder points,
      ({} : Utf8Decoder).decode reads.flatten = (decoder, points) := ⟨_, _, rfl⟩
  have parts : points ++ (decoder.decode missing).2 = streamText events := by
    have same := decoded
    rw [← whole, Utf8Decoder.decode_append, first] at same
    exact (Prod.mk.inj same).2
  have begins : points <+: streamText events := ⟨_, parts⟩
  have kept : points.filter (· ≠ 0x0d) = points := by
    refine List.filter_eq_self.mpr fun point member => ?_
    simpa using (scalar_streamText held point (begins.subset member)).2
  have blocks : (cutBlocks newline [newline] points).1 <+: events.map Event.block := by
    have cut := @cutBlocks_of_arrived _ _ _ newline [newline] _ begins
    rwa [cutBlocks_streamText held] at cut
  have same : (cutBlocks newline [newline] points).1 =
      (events.take (cutBlocks newline [newline] points).1.length).map Event.block := by
    rw [List.map_take]
    exact List.prefix_iff_eq_take.mp blocks
  refine ⟨(cutBlocks newline [newline] points).1.length, ?_, fun full => ?_⟩
  · have each : (cutBlocks newline [newline] points).1.map platform.handleEventBlock =
        (events.take (cutBlocks newline [newline] points).1.length).map platform.handled := by
      generalize (cutBlocks newline [newline] points).1.length = count at same
      rw [same, List.map_map]
      exact List.map_congr_left fun event member =>
        handleEventBlock_block (held event (List.mem_of_mem_take member))
    rw [streamJobResult_eq first kept, each, Platform.follow]
  · have all : points = streamText events := by
      rw [full, decoded] at first
      exact (Prod.mk.inj first).2.symm
    rw [all, cutBlocks_streamText held, List.length_map]

/-- A platform that keeps numbers as they are written. -/
def writtenNumbers : Platform where
  holds value := value.all unpaired isFloat
  sound := id
  holds_str := rfl
  holds_obj {members} := by
    rw [Json.all]
    induction members with
    | nil => rfl
    | cons entry rest ih => rw [Json.allMembers, ih, List.all_cons]
  jsonParse written := (ShareToken.jsonParse written).filter fun value => value.all unpaired isFloat
  holds_parsed parsed := (Option.filter_eq_some_iff.mp parsed).2
  jsonParse_stringify sound := by
    rw [ShareToken.jsonParse_stringify sound, Option.filter_some, if_pos sound]
  jsonParse_dumps plain held := by
    rw [ShareToken.jsonParse, loads_text dumps plain, Option.filter_some,
      if_pos (Json.all_mono (fun _ _ => rfl) held), Option.filter_some, if_pos held]
  truthyFloat literal := (literal.takeWhile fun point => point ≠ 0x65).any fun point =>
    0x31 ≤ point && point ≤ 0x39

def sampleAnswer : Json := .obj [(text "improved_text", .str (text "Dear Ana"))]

def sampleEvents : List Event :=
  [⟨.status, [(text "status", .str (text "processing"))]⟩,
    ⟨.token, [(text "chunk", .str (text "Dear "))]⟩,
    ⟨.result, [(text "status", .str (text "completed")), (text "result", sampleAnswer)]⟩]

/-- Two reads, cut inside the second event. -/
theorem two_reads_delivered : writtenNumbers.streamJobResult
    [(streamBytes sampleEvents).take 70, (streamBytes sampleEvents).drop 70] =
      { tokens := [.str (text "Dear ")], outcome := some (.result sampleAnswer) } := by
  have whole : [(streamBytes sampleEvents).take 70, (streamBytes sampleEvents).drop 70].flatten =
      streamBytes sampleEvents := by
    rw [List.flatten_cons, List.flatten_cons, List.flatten_nil, List.append_nil,
      List.take_append_drop]
  have held : ∀ event ∈ sampleEvents, writtenNumbers.holds event.json = true := by decide
  obtain ⟨count, read, all⟩ :=
    stream_delivered writtenNumbers held (by rw [whole])
  rw [read, all whole]
  rfl

end BrainMate.WriteRight.JobStream
