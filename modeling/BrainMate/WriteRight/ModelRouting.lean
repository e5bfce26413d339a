import BrainMate.WriteRight.AnthropicMessages
import BrainMate.WriteRight.TokenStream

/-! `route_stream`, `_route_anthropic` and `route_with_fallback` of `model_router.py`: requests to
the provider, tried again where they fail, and the callback that hears the text as it comes in. -/

namespace BrainMate.WriteRight.ModelRouter

open Text ModelResponse

inductive TaskType where
  | writeImprovement
  | followUp
  | translation
  | jsonRepair
  | devHelper
  | studyMate
  | interviewPro
  | contentFlow
  deriving DecidableEq, Repr

/-- `_TASK_TEMPERATURES`, in tenths. -/
def temperatureForTask : TaskType → Nat
  | .writeImprovement => 7
  | .followUp => 4
  | .translation => 2
  | .jsonRepair => 1
  | .devHelper => 3
  | .studyMate => 7
  | .interviewPro => 6
  | .contentFlow => 8

structure Settings where
  /-- `TASK_MODEL_MAP`. -/
  taskModelMap : TaskType → Option PyStr
  defaultModel : PyStr
  maxOutputTokens : Nat
  jobTimeoutSeconds : Nat
  googleAiStudioApiKey : PyStr
  anthropicApiKey : PyStr
  anthropicFallbackModel : PyStr
  enableAnthropicFallback : Bool

def Settings.selectModel (settings : Settings) (taskType : TaskType) : PyStr :=
  (settings.taskModelMap taskType).getD settings.defaultModel

structure Request where
  apiKey : PyStr
  traceparent : Option PyStr
  model : PyStr
  messages : List Message
  maxTokens : Nat
  temperature : Nat
  stream : Bool

structure AnthropicRequest where
  apiKey : PyStr
  traceparent : Option PyStr
  model : PyStr
  payload : Payload
  maxTokens : Nat
  temperature : Nat

/-- An exception of `httpx`. -/
structure HttpError where
  /-- It is a `TimeoutException`. -/
  timeout : Bool
  message : PyStr
  deriving DecidableEq, Repr

structure StreamResponse where
  statusCode : Nat
  retryAfter : Option PyStr
  /-- The first 500 bytes of the body, decoded, if it can be read. -/
  body : Except HttpError PyStr
  lines : List PyStr
  /-- How the lines break off. -/
  broken : Option HttpError

abbrev StreamAttempt := Except HttpError StreamResponse

structure PostResponse where
  statusCode : Nat
  text : PyStr

abbrev PostAttempt := Except HttpError PostResponse

structure Providers where
  /-- What Google AI Studio does with a request that is sent for the n-th time. -/
  stream : Request → Nat → StreamAttempt
  anthropic : AnthropicRequest → PostAttempt

inductive RouterError (ε : Type) where
  | modelTimeout (message : PyStr)
  | modelRateLimit (retryAfter : PyStr)
  | modelError (message : PyStr)
  /-- Raised by what the router does with an answer. -/
  | raised (raised : Raised)
  | keyError
  /-- Raised by `on_token`. -/
  | callback (error : ε)

/-- `ModelResponse` of `job.py`, without the raw answer. -/
structure Response where
  content : PyStr
  model : PyStr
  promptTokens : Int
  completionTokens : Int
  finishReason : PyStr
  deriving DecidableEq, Repr

/-- What depends on the interpreter and on pydantic. -/
structure Runtime where
  python : Python
  /-- `float` takes the string. -/
  isFloat : PyStr → Bool
  /-- What a field of type `int` takes. -/
  toInt : Json → Option Int

/-- `on_token`, with the state it works on. -/
abbrev Callback (σ ε : Type) := PyStr → PyStr → σ → Except ε Unit × σ

def statusText (statusCode : Nat) : PyStr := pyText (toString statusCode)

section Router

variable {σ ε : Type} (runtime : Runtime) (settings : Settings)

structure Received where
  contentChunks : List Json := []
  finishReason : Json := .str []
  promptTokens : Int := 0
  completionTokens : Int := 0
  finalModel : Json

def dataPrefix : PyStr := pyText "data:"

def payloadLine (line : PyStr) : Option PyStr :=
  if dataPrefix.isPrefixOf line then
    let payload := ModelResponse.strip (line.drop 5)
    if payload.isEmpty ∨ payload = pyText "[DONE]" then none else some payload
  else none

/-- `json.loads`, where only a `JSONDecodeError` is caught. -/
def readItem (payload : PyStr) : Except Raised (Option Json) :=
  if runtime.python.exhausts payload then .error .recursionError
  else
    match loads payload with
    | none => .ok none
    | some item => if tooLong item then .error .valueError else .ok (some item)

/-- What `.get` can be called on. -/
def dict : Json → Except Raised (List (List Nat × Json))
  | .obj members => .ok members
  | _ => .error .attributeError

/-- `value or {}` -/
def dictOrEmpty (value : Json) : Except Raised (List (List Nat × Json)) :=
  if truthy runtime.python value then dict value else .ok []

/-- `int(usage.get(name, count) or count)` -/
def usageCount (usage : List (List Nat × Json)) (name : String) (count : Int) : Except Raised Int :=
  let value := get usage name (.int count)
  if truthy runtime.python value then pyInt runtime.python value else .ok count

/-- `choices[0]` of something that counts as true. -/
def firstChoice : Json → Except (RouterError ε) Json
  | .arr (choice :: _) => .ok choice
  | .str (point :: _) => .ok (.str [point])
  | .obj _ => .error .keyError
  | _ => .error (.raised .typeError)

/-- What an item says, and the chunk it brings. -/
def readChoice (received : Received) (choice : List (List Nat × Json)) :
    Except Raised (Received × Option Json) := do
  let reason := get choice "finish_reason" .null
  let finishReason := if truthy runtime.python reason then reason else received.finishReason
  let delta ← dictOrEmpty runtime (get choice "delta" .null)
  let chunk := get delta "content" .null
  return ({ received with finishReason }, if truthy runtime.python chunk then some chunk else none)

def readUsage (received : Received) (item : List (List Nat × Json)) : Except Raised Received := do
  let finalModel := get item "model" received.finalModel
  let usage ← dictOrEmpty runtime (get item "usage" .null)
  let promptTokens ← usageCount runtime usage "prompt_tokens" received.promptTokens
  let completionTokens ← usageCount runtime usage "completion_tokens" received.completionTokens
  return { received with finalModel, promptTokens, completionTokens }

def onItem (received : Received) (item : Json) :
    Except (RouterError ε) (Received × Option Json) := do
  let item ← (dict item).mapError .raised
  let received ← (readUsage runtime received item).mapError .raised
  let choices := get item "choices" .null
  if truthy runtime.python choices then
    let choice ← firstChoice choices
    let choice ← (dict choice).mapError .raised
    (readChoice runtime received choice).mapError .raised
  else return (received, none)

def readLine (received : Received) (line : PyStr) :
    Except (RouterError ε) (Received × Option Json) :=
  match payloadLine line with
  | none => .ok (received, none)
  | some payload =>
    match readItem runtime payload with
    | .error raised => .error (.raised raised)
    | .ok none => .ok (received, none)
    | .ok (some item) => onItem runtime received item

/-- `"".join(chunks)`, which raises a `TypeError` where a chunk is no string. -/
def joined : List Json → Option PyStr
  | [] => some []
  | .str points :: chunks => (joined chunks).map (points ++ ·)
  | _ :: _ => none

variable (onToken : Option (Callback σ ε))

def hear (chunk : Json) (contentChunks : List Json) (state : σ) :
    Except (RouterError ε) Unit × σ :=
  match onToken with
  | none => (.ok (), state)
  | some onToken =>
    match chunk, joined contentChunks with
    | .str chunk, some fullText =>
      let (outcome, state) := onToken chunk fullText state
      (outcome.mapError .callback, state)
    | _, _ => (.error (.raised .typeError), state)

def onLines : List PyStr → Received → σ → Except (RouterError ε) Received × σ
  | [], received, state => (.ok received, state)
  | line :: lines, received, state =>
    match readLine runtime received line with
    | .error error => (.error error, state)
    | .ok (received, none) => onLines lines received state
    | .ok (received, some chunk) =>
      let contentChunks := received.contentChunks ++ [chunk]
      match hear onToken chunk contentChunks state with
      | (.error error, state) => (.error error, state)
      | (.ok (), state) => onLines lines { received with contentChunks } state

/-- `ModelResponse(...)` -/
def response? (content model : Json) (promptTokens completionTokens : Int)
    (finishReason : Json) : Option Response := do
  let content ← ModelResponse.str? runtime.python content
  let model ← ModelResponse.str? runtime.python model
  let finishReason ← ModelResponse.str? runtime.python finishReason
  return { content, model, promptTokens, completionTokens, finishReason }

def noContent : PyStr := pyText "Streaming response did not include any content"

def finish (received : Received) : Except (RouterError ε) Response :=
  match joined received.contentChunks with
  | none => .error (.raised .typeError)
  | some content =>
    if content.isEmpty then .error (.modelError noContent)
    else
      match response? runtime (.str content) received.finalModel received.promptTokens
          received.completionTokens received.finishReason with
      | none => .error (.raised .valueError)
      | some response => .ok response

/-- How an attempt can go on. -/
inductive Progress where
  | limited (retryAfter : PyStr)
  | broken (error : HttpError)
  | returned (response : Response)

def streamOnce (request : Request) (attempt : Nat) (answer : StreamAttempt) (state : σ) :
    Except (RouterError ε) Progress × σ :=
  match answer with
  | .error error => (.ok (.broken error), state)
  | .ok response =>
    if response.statusCode = 429 then
      let retryAfter := response.retryAfter.getD (pyText (toString (2 ^ attempt)))
      if runtime.isFloat retryAfter then (.ok (.limited retryAfter), state)
      else (.error (.raised .valueError), state)
    else if response.statusCode ≠ 200 then
      match response.body with
      | .error error => (.ok (.broken error), state)
      | .ok body =>
        (.error (.modelError (pyText "Google AI Studio stream error " ++
          statusText response.statusCode ++ pyText ": " ++ body)), state)
    else
      match onLines runtime onToken response.lines { finalModel := .str request.model } state with
      | (.error error, state) => (.error error, state)
      | (.ok received, state) =>
        match response.broken with
        | some error => (.ok (.broken error), state)
        | none => ((finish runtime received).map .returned, state)

/-- The loop over the attempts. The last one ends in a result or raises. -/
def retrying (once : Nat → σ → Except (RouterError ε) Progress × σ)
    (gaveUp : HttpError → RouterError ε) : Nat → Nat → σ →
    Except (RouterError ε) Response × σ
  | left, attempt, state =>
    match once attempt state with
    | (.error error, state) => (.error error, state)
    | (.ok (.returned response), state) => (.ok response, state)
    | (.ok (.limited retryAfter), state) =>
      match left with
      | 0 => (.error (.modelRateLimit retryAfter), state)
      | left + 1 => retrying once gaveUp left (attempt + 1) state
    | (.ok (.broken error), state) =>
      match left with
      | 0 => (.error (gaveUp error), state)
      | left + 1 => retrying once gaveUp left (attempt + 1) state

def maxRetries : Nat := 3

def streamGaveUp (error : HttpError) : RouterError ε :=
  if error.timeout then
    .modelTimeout (pyText "Google AI Studio streaming request timed out after " ++
      pyText (toString settings.jobTimeoutSeconds) ++ pyText "s")
  else .modelError (pyText "Google AI Studio streaming HTTP error: " ++ error.message)

structure Call where
  taskType : TaskType
  messages : List Message
  /-- 0 means the default. -/
  maxTokens : Nat := 0
  traceparent : Option PyStr := none
  modelOverride : Option PyStr := none

def Call.effectiveMaxTokens (call : Call) : Nat :=
  if call.maxTokens = 0 then settings.maxOutputTokens else call.maxTokens

/-- An empty string counts as none. -/
def nonEmpty (text : Option PyStr) : Option PyStr := text.filter fun text => !text.isEmpty

def Call.streamRequest (call : Call) : Request where
  apiKey := settings.googleAiStudioApiKey
  traceparent := nonEmpty call.traceparent
  model := (nonEmpty call.modelOverride).getD (settings.selectModel call.taskType)
  messages := call.messages
  maxTokens := call.effectiveMaxTokens settings
  temperature := temperatureForTask call.taskType
  stream := true

def routeStream (providers : Providers) (call : Call) (state : σ) :
    Except (RouterError ε) Response × σ :=
  let request := call.streamRequest settings
  retrying (fun attempt => streamOnce runtime onToken request attempt (providers.stream request attempt))
    (streamGaveUp settings) maxRetries 0 state

def Call.anthropicRequest (call : Call) : AnthropicRequest where
  apiKey := settings.anthropicApiKey
  traceparent := nonEmpty call.traceparent
  model := settings.anthropicFallbackModel
  payload := anthropicPayload call.messages
  maxTokens := call.effectiveMaxTokens settings
  temperature := temperatureForTask call.taskType

/-- What a loop over the blocks gets. -/
def contentBlocks : Json → Except Raised (List Json)
  | .arr blocks => .ok blocks
  | .str points => .ok (points.map fun point => .str [point])
  | .obj members => .ok (members.map fun member => .str member.1)
  | _ => .error .typeError

def isTextType : Json → Bool
  | .str points => points = pyText "text"
  | _ => false

/-- The texts of the blocks of type `text`. -/
def blockTexts : List Json → Except Raised (List Json)
  | [] => .ok []
  | block :: blocks => do
    let block ← dict block
    let texts ← blockTexts blocks
    return if isTextType (get block "type" .null) then get block "text" (.str []) :: texts else texts

def blocksContent (data : List (List Nat × Json)) : Except Raised PyStr := do
  let blocks ← contentBlocks (get data "content" (.arr []))
  match joined (← blockTexts blocks) with
  | none => .error .typeError
  | some content => return content

def anthropicResponse (data : List (List Nat × Json)) (content : PyStr) :
    Except Raised Response := do
  let usage ← dict (get data "usage" (.obj []))
  match runtime.toInt (get usage "input_tokens" (.int 0)),
      runtime.toInt (get usage "output_tokens" (.int 0)) with
  | some promptTokens, some completionTokens =>
    match response? runtime (.str content)
        (get data "model" (.str settings.anthropicFallbackModel)) promptTokens completionTokens
        (get data "stop_reason" (.str [])) with
    | none => .error .valueError
    | some response => return response
  | _, _ => .error .valueError

def readAnthropic (response : PostResponse) :
    Except (RouterError ε) (List (List Nat × Json) × PyStr) :=
  if response.statusCode ≠ 200 then
    .error (.modelError (pyText "Anthropic API error " ++ statusText response.statusCode ++
      pyText ": " ++ response.text.take 500))
  else (do
    let data ← jsonLoads runtime.python response.text
    let data ← dict data
    return (data, ← blocksContent data)).mapError .raised

def routeAnthropic (providers : Providers) (call : Call) (state : σ) :
    Except (RouterError ε) Response × σ :=
  match providers.anthropic (call.anthropicRequest settings) with
  | .error error => (.error (.modelError (pyText "Anthropic HTTP error: " ++ error.message)), state)
  | .ok response =>
    match readAnthropic runtime response with
    | .error error => (.error error, state)
    | .ok (data, content) =>
      let (heard, state) :=
        if content.isEmpty then (.ok (), state) else hear onToken (.str content) [.str content] state
      match heard with
      | .error error => (.error error, state)
      | .ok () => ((anthropicResponse runtime settings data content).mapError .raised, state)

/-- A rate limit is no reason for the fallback. -/
def fallsBack : RouterError ε → Bool
  | .modelTimeout _ | .modelError _ => true
  | .modelRateLimit _ | .raised _ | .keyError | .callback _ => false

def routeWithFallback (providers : Providers) (call : Call) (state : σ) :
    Except (RouterError ε) Response × σ :=
  match routeStream runtime settings onToken providers call state with
  | (.ok response, state) => (.ok response, state)
  | (.error error, state) =>
    if fallsBack error && settings.enableAnthropicFallback && !settings.anthropicApiKey.isEmpty then
      routeAnthropic runtime settings onToken providers call state
    else (.error error, state)

end Router

end BrainMate.WriteRight.ModelRouter
