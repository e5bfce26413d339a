import BrainMate.Text.Blanks
import BrainMate.Text.Json
import BrainMate.Text.LineBuffer
import BrainMate.Text.Marker
import BrainMate.Text.Utf8Stream

/-! POST /api/writeright/email-chain: how the route takes the model's stream apart. -/

namespace BrainMate.WriteRight.EmailChain

open Text

/-- A string, as its code points. -/
abbrev Text := List Nat

def text (string : String) : Text := string.toList.map Char.toNat

/-- What the platform does with texts: `JSON.parse` and `toLowerCase`. -/
structure Platform where
  jsonParse : Text → Option Json
  toLowerCase : Text → Text
  toLowerCase_nil : toLowerCase [] = []

/-- What `trim` takes away. -/
def isWhite (point : Nat) : Bool :=
  (0x09 ≤ point && point ≤ 0x0d) || point = 0x20 || point = 0xa0 || point = 0x1680 ||
    (0x2000 ≤ point && point ≤ 0x200a) || point = 0x2028 || point = 0x2029 || point = 0x202f ||
    point = 0x205f || point = 0x3000 || point = 0xfeff

def trim (line : Text) : Text := trimBy isWhite line

def includes (line part : Text) : Bool := decide (part <:+: line)

def bracket : Nat := 0x5b

def emailBody : Marker bracket where
  tail := text "EMAIL_BODY]"
  once := by decide

def strategicAdvice : Marker bracket where
  tail := text "STRATEGIC_ADVICE]"
  once := by decide

inductive Mode where
  | header
  | body
  | advice
  deriving DecidableEq, Repr

structure ChainState where
  currentMode : Mode := .header
  adviceText : Text := []
  /-- The texts of the token events so far. -/
  tokens : List Text := []
  deriving DecidableEq, Repr

def onText (state : ChainState) (delta : Text) : ChainState :=
  if delta.isEmpty then state
  else
    let fullText := state.adviceText ++ delta
    if includes fullText emailBody.text && state.currentMode == .header then
      { state with currentMode := .body }
    else if includes fullText strategicAdvice.text then
      { state with currentMode := .advice, adviceText := state.adviceText ++ delta }
    else
      match state.currentMode with
      | .body => { state with tokens := state.tokens ++ [delta] }
      | .advice => { state with adviceText := state.adviceText ++ delta }
      | .header => state

def member (key : String) : Json → Json
  | .obj members =>
    ((members.reverse.find? fun entry => entry.1 == text key).map Prod.snd).getD .null
  | _ => .null

def firstItem : Json → Json
  | .arr (item :: _) => item
  | _ => .null

/-- `choices?.[0]?.delta?.content || ""`, which is a string where there is one. -/
def contentOf (event : Json) : Text :=
  match member "content" (member "delta" (firstItem (member "choices" event))) with
  | .str points => points
  | _ => []

/-- The delta that a payload carries; a payload that is no JSON is ignored. -/
def Platform.deltaOf (platform : Platform) (payload : Text) : Text :=
  ((platform.jsonParse payload).map contentOf).getD []

def dataPrefix : Text := text "data: "

def doneLine : Text := text "data: [DONE]"

def Platform.onLine (platform : Platform) (state : ChainState) (line : Text) : ChainState :=
  let cleanLine := trim line
  if cleanLine.isEmpty || cleanLine == doneLine then state
  else if dataPrefix.isPrefixOf cleanLine then
    onText state (platform.deltaOf (cleanLine.drop 6))
  else state

structure Reader where
  decoder : Utf8Decoder := {}
  buffer : Text := []
  chain : ChainState := {}

def newline : Nat := 0x0a

def Platform.onRead (platform : Platform) (reader : Reader) (value : List UInt8) : Reader :=
  let (decoder, points) := reader.decoder.decode value
  let (lines, buffer) := takeLines newline reader.buffer points
  { decoder := decoder, buffer := buffer, chain := lines.foldl platform.onLine reader.chain }

inductive ToneTrend where
  | escalating
  | deEscalating
  | neutral
  deriving DecidableEq, Repr

def ToneTrend.name : ToneTrend → String
  | escalating => "escalating"
  | deEscalating => "de-escalating"
  | neutral => "neutral"

structure Advice where
  negotiationStatus : Text := text "Under review"
  toneTrend : ToneTrend := .neutral
  recommendedNextMove : Text := text "Continue correspondence"
  riskAssessment : Text := text "No critical risks identified"
  deriving DecidableEq, Repr

/-- `parsedTrend`, as the route reads it. -/
def parsedTrend (value : Text) : ToneTrend :=
  if includes value (text "escalating") then .escalating
  else if includes value (text "de-escalating") then .deEscalating
  else .neutral

/-- What a labelled line says; `trendOf` reads the value of a tone trend. -/
def Platform.adviceLine (platform : Platform) (trendOf : Text → ToneTrend) (advice : Advice)
    (line : Text) : Advice :=
  let lowerLine := platform.toLowerCase line
  if (text "negotiation status:").isPrefixOf lowerLine then
    { advice with negotiationStatus := trim (line.drop 19) }
  else if (text "tone trend:").isPrefixOf lowerLine then
    { advice with toneTrend := trendOf (platform.toLowerCase (trim (line.drop 11))) }
  else if (text "recommended next move:").isPrefixOf lowerLine then
    { advice with recommendedNextMove := trim (line.drop 22) }
  else if (text "risk assessment:").isPrefixOf lowerLine then
    { advice with riskAssessment := trim (line.drop 16) }
  else advice

/-- What the lines of a text say; a later line counts. -/
def Platform.adviceOf (platform : Platform) (trendOf : Text → ToneTrend) (lines : Text) : Advice :=
  ((trim lines).splitOn newline).foldl (platform.adviceLine trendOf) {}

/-- `replace` with an empty text, which takes away the first occurrence. -/
def removeFirst (part : Text) : Text → Text
  | [] => []
  | point :: rest =>
    if part.isPrefixOf (point :: rest) then (point :: rest).drop part.length
    else point :: removeFirst part rest

inductive StreamEvent where
  | token (delta : Text)
  | advice (advice : Advice)
  | done
  deriving DecidableEq, Repr

def Platform.answer (platform : Platform) (state : ChainState) : List StreamEvent :=
  state.tokens.map .token ++
    [.advice (platform.adviceOf parsedTrend (removeFirst strategicAdvice.text state.adviceText)),
      .done]

/-- The events of the answer, from what is read of the model's answer. -/
def Platform.start (platform : Platform) (reads : List (List UInt8)) : List StreamEvent :=
  platform.answer (reads.foldl platform.onRead {}).chain

/-- A payload on a line of its own. -/
structure Payload where
  points : Text
  /-- It ends in no white space, so the line is nothing but the payload. -/
  solid : ∃ front last, points = front ++ [last] ∧ isWhite last = false
  inline : newline ∉ points
  scalar : ∀ point ∈ points, isScalar point = true

def Payload.line (payload : Payload) : Text := dataPrefix ++ payload.points

/-- The events as they are sent. -/
def sseText (payloads : List Payload) : Text :=
  payloads.flatMap fun payload => payload.line ++ [newline] ++ [newline]

def sseBytes (payloads : List Payload) : List UInt8 := (sseText payloads).flatMap utf8

variable {platform : Platform}

/-- Two reads are read like one. -/
theorem onRead_append (reader : Reader) (first second : List UInt8) :
    platform.onRead reader (first ++ second) =
      platform.onRead (platform.onRead reader first) second := by
  simp only [Platform.onRead, Utf8Decoder.decode_append, takeLines_append, List.foldl_append]

/-- It does not matter where the bytes are cut into reads. -/
theorem foldl_onRead (reads : List (List UInt8)) :
    reads.foldl platform.onRead {} = platform.onRead {} reads.flatten := by
  induction reads using List.reverseRecOn with
  | nil => rfl
  | append_singleton reads value ih =>
    rw [List.foldl_append, ih, List.flatten_append, onRead_append]
    simp only [List.foldl_cons, List.foldl_nil, List.flatten_cons, List.flatten_nil, List.append_nil]

private theorem takeLines_payload (payload : Payload) :
    takeLines newline [] (payload.line ++ [newline] ++ [newline]) = ([payload.line, []], []) := by
  have inside : newline ∉ payload.line := by
    rw [Payload.line, List.mem_append, not_or]
    exact ⟨by decide, payload.inline⟩
  have empty : takeLines newline [] [newline] = ([[]], []) := takeLines_line List.not_mem_nil
  rw [takeLines_append, takeLines_line inside, empty]
  rfl

/-- The lines that are read are those that were sent. -/
theorem takeLines_sseText (payloads : List Payload) :
    takeLines newline [] (sseText payloads) =
      (payloads.flatMap fun payload => [payload.line, []], []) := by
  induction payloads with
  | nil => rfl
  | cons payload rest ih =>
    have parts : sseText (payload :: rest) =
        (payload.line ++ [newline] ++ [newline]) ++ sseText rest := rfl
    rw [parts, takeLines_append, takeLines_payload, ih]
    rfl

private theorem scalar_sseText {payloads : List Payload} {point : Nat}
    (sent : point ∈ sseText payloads) :
    isScalar point = true := by
  obtain ⟨payload, -, inside⟩ := List.mem_flatMap.mp sent
  simp only [Payload.line, List.mem_append, List.mem_singleton] at inside
  have header : ∀ point ∈ dataPrefix, isScalar point = true := by decide
  obtain (((inside | inside) | rfl) | rfl) := inside
  · exact header point inside
  · exact payload.scalar point inside
  · decide
  · decide

private theorem decode_sseBytes (payloads : List Payload) :
    (({} : Utf8Decoder).decode (sseBytes payloads)).2 = sseText payloads := by
  cases payloads with
  | nil => rfl
  | cons payload rest =>
    have begins : sseText (payload :: rest) =
        0x64 :: (sseText (payload :: rest)).tail := rfl
    rw [sseBytes, begins, Utf8Decoder.decode_fresh (by decide)]
    intro point sent
    rw [← begins] at sent
    simpa [isScalar] using scalar_sseText sent

/-- The delta that a line carries; the last one carries none. -/
def Platform.delivered (platform : Platform) (payload : Payload) : Text :=
  if payload.points = text "[DONE]" then [] else platform.deltaOf payload.points

private theorem onLine_payload (state : ChainState) (payload : Payload) :
    platform.onLine state payload.line = onText state (platform.delivered payload) := by
  obtain ⟨front, last, points_eq, solid⟩ := payload.solid
  have clean : trim payload.line = payload.line := by
    have shape : payload.line = 0x64 :: ((dataPrefix.tail ++ front) ++ [last]) := by
      rw [Payload.line, points_eq, ← List.append_assoc]
      rfl
    rw [shape]
    exact trimBy_solid (by decide) solid
  have rest : payload.line.drop 6 = payload.points := rfl
  have marked : dataPrefix.isPrefixOf payload.line = true :=
    List.isPrefixOf_iff_prefix.mpr (List.prefix_append _ _)
  have nonempty : payload.line.isEmpty = false := rfl
  rw [Platform.onLine, clean, nonempty, Bool.false_or, Platform.delivered]
  by_cases last_ : payload.points = text "[DONE]"
  · have done : (payload.line == doneLine) = true := by
      rw [Payload.line, last_]
      decide
    rw [if_pos done, if_pos last_]
    rfl
  · have more : ¬(payload.line == doneLine) = true := by
      rw [beq_iff_eq]
      exact fun same => last_ (List.append_cancel_left same)
    rw [if_neg more, if_neg last_, if_pos marked, rest]

private theorem foldl_onLine (payloads : List Payload) (state : ChainState) :
    (payloads.flatMap fun payload => [payload.line, []]).foldl platform.onLine state =
      (payloads.map platform.delivered).foldl onText state := by
  induction payloads generalizing state with
  | nil => rfl
  | cons payload rest ih =>
    rw [List.flatMap_cons, List.foldl_append, ih]
    exact congrArg ((rest.map platform.delivered).foldl onText) (onLine_payload state payload)

/-- The stream is read as the deltas it carries, however it is cut into reads. -/
theorem start_sseBytes {payloads : List Payload} {reads : List (List UInt8)}
    (sent : reads.flatten = sseBytes payloads) :
    platform.start reads =
      platform.answer ((payloads.map platform.delivered).foldl onText {}) := by
  have read : platform.onRead {} (sseBytes payloads) =
      { decoder := (({} : Utf8Decoder).decode (sseBytes payloads)).1
        buffer := []
        chain := (payloads.map platform.delivered).foldl onText {} } := by
    have decoded := decode_sseBytes payloads
    have taken := takeLines_sseText payloads
    simp only [Platform.onRead, decoded, taken, foldl_onLine]
  rw [Platform.start, foldl_onRead, sent, read]

end BrainMate.WriteRight.EmailChain
