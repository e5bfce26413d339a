import BrainMate.Interleaving.Embedding
import BrainMate.WriteRight.MessageWorld
import BrainMate.WriteRight.Routes

/-! POST /api/writeright/message, step by step as the route numbers them, with
GET /api/writeright/quota, which it calls. The headers of the answers are left out. -/

namespace BrainMate.WriteRight

open Interleaving Program Text

/-- What the route takes from its platform. -/
structure ServicePlatform extends TextPlatform where
  /-- `currentPeriodKey` at a time. -/
  periodKey : Nat → String
  /-- `JSON.stringify` of a result. -/
  stringify : AIResult → String
  /-- The string `improved_text` of a JSON text. -/
  improvedText? : String → Option String
  /-- `injectTraceContext`. -/
  traceparent : Option String

inductive MessageError where
  | unauthorized
  | invalidBody
  | validationError
  | emptyText
  | quotaExceeded (tier : Tier)
  | textTooLong
  | rateLimited
  | queueError
  | chatNotFound
  | dbError
  | timeout
  | internalError
  deriving DecidableEq, Repr

namespace MessageError

def httpStatus : MessageError → Nat
  | .unauthorized => 401
  | .invalidBody | .validationError | .emptyText | .textTooLong => 400
  | .quotaExceeded _ => 402
  | .rateLimited => 429
  | .queueError | .timeout => 503
  | .chatNotFound => 404
  | .dbError | .internalError => 500

/-- `USER_MESSAGES`, and the route's own text for a code that is not listed there. -/
def message : MessageError → String
  | .unauthorized => "Session expired. Please refresh."
  | .invalidBody => "Invalid request format."
  | .validationError => "Invalid input. Please check your data."
  | .emptyText => "Text is empty after processing. Please try different text."
  | .quotaExceeded _ => "Monthly limit reached. Upgrade for more."
  | .textTooLong => "Text exceeds your plan limit."
  | .rateLimited => "You're moving fast! Wait a moment and try again."
  | .queueError => "Service is busy. Please try again in a moment."
  | .chatNotFound => "Chat not found or does not belong to you."
  | .dbError => "Something went wrong saving your data."
  | .timeout => "POST /api/writeright/message timed out after 30000ms"
  | .internalError => "Something went wrong. We've been notified."

end MessageError

/-- What is thrown: an error of the API, or what a client of a store threw. -/
inductive Thrown where
  | api (error : MessageError)
  | failure (failure : Failure)
  deriving DecidableEq, Repr

/-- `toApiResponse`. -/
def Thrown.error : Thrown → MessageError
  | .api error => error
  | .failure (.raised text) =>
    if contains "Unauthenticated" (units text) || contains "unauthorized" (units text) then
      .unauthorized
    else .internalError
  | .failure _ => .internalError

inductive MessageReply where
  /-- 202. -/
  | accepted (response : MessageResponse)
  /-- 200, from the cache of results. -/
  | cached (response : MessageResponse)
  /-- 200, the stored answer to a request with the same key. -/
  | repeated (response : MessageResponse)
  | refused (error : MessageError)
  deriving DecidableEq, Repr

abbrev Handler (α : Type) : Type := ExceptT Thrown (Program MessageCommand MessageCommand.Reply) α

/-- A call of the job queue's library. -/
def queued {α : Type} (body : Async α) : Handler α :=
  embedBody .queue (fun _ reply => reply) .failure body

def throwing {α : Type} (answer : Program MessageCommand MessageCommand.Reply (Except Failure α)) :
    Handler α :=
  ExceptT.mk do
    match ← answer with
    | .ok value => return .ok value
    | .error failure => return .error (.failure failure)

def redisCall (command : MessageRedis) : Handler command.Reply :=
  throwing (request (MessageCommand.redis command))

/-- `{ data, error }`: a statement that fails throws nothing. -/
def statement (command : MessageSupabase) : Handler (Except Failure command.Reply) :=
  ExceptT.lift (request (MessageCommand.supabase command))

def gatewayCall (command : MessageGateway) : Handler command.Reply :=
  throwing (request (MessageCommand.gateway command))

def circuitOpen : Handler Bool := queued isCircuitOpen

def clock : Handler Nat := queued time

/-- `catch` for everything. -/
def orElse {α : Type} (body : Handler α) (fallback : Handler α) : Handler α :=
  rescue body fun _ => fallback

/-- What `req.json()` makes of the body. -/
inductive RequestBody where
  | invalidJson
  /-- A JSON value whose fields do not have the types of `MessageSchema`. -/
  | mistyped
  | typed (body : MessageBody)
  deriving DecidableEq, Repr

structure MessageRequest where
  /-- `auth()`. -/
  userId : Option String
  /-- `X-Idempotency-Key`. -/
  idempotencyHeader : Option (List UInt16)
  body : RequestBody
  deriving DecidableEq, Repr

/-- `normalizeIdempotencyKey`. -/
def normalizeIdempotencyKey (header : Option (List UInt16)) : Option (List UInt16) :=
  match header with
  | none => none
  | some value =>
    let normalized := (trim value).take 120
    if 0 < normalized.length then some normalized else none

/-- What the later steps know of the request. -/
structure MessageContext where
  userId : String
  input : MessageInput
  idempotencyKey : Option (List UInt16)
  deriving DecidableEq, Repr

def parseBody (platform : ServicePlatform) : RequestBody → Except MessageError MessageInput
  | .invalidJson => .error .invalidBody
  | .mistyped => .error .validationError
  | .typed body =>
    match messageSchema platform.toTextPlatform body with
    | none => .error .validationError
    | some input =>
      let text := sanitizeInput platform.toTextPlatform input.text
      if (trim text).length = 0 then .error .emptyText else .ok { input with text := text }

def parseRequest (platform : ServicePlatform) (request : MessageRequest) :
    Except MessageError MessageContext :=
  match request.userId with
  | none => .error .unauthorized
  | some userId =>
    match parseBody platform request.body with
    | .error error => .error error
    | .ok input => .ok ⟨userId, input, normalizeIdempotencyKey request.idempotencyHeader⟩

/-- `idempotencyKey` of `writeright-queue.ts`. -/
def idempotencyRedisKey (userId : String) (requestKey : List UInt16) : List UInt16 :=
  units (userId ++ ":") ++ requestKey

/-- `getIdempotentResponse`. -/
def getIdempotentResponse (userId : String) (requestKey : List UInt16) :
    Handler (Option MessageResponse) := do
  if ← circuitOpen then return none
  else redisCall (.getIdempotent (idempotencyRedisKey userId requestKey))

/-- `setIdempotentResponse`. -/
def setIdempotentResponse (userId : String) (requestKey : List UInt16) (response : MessageResponse) :
    Handler Unit := do
  if ← circuitOpen then return ()
  else redisCall (.setexIdempotent (idempotencyRedisKey userId requestKey) 60 response)

def priorResponse (context : MessageContext) : Handler (Option MessageResponse) :=
  match context.idempotencyKey with
  | none => return none
  | some key => getIdempotentResponse context.userId key

def rememberResponse (context : MessageContext) (response : MessageResponse) : Handler Unit :=
  match context.idempotencyKey with
  | none => return ()
  | some key => setIdempotentResponse context.userId key response

structure Quota where
  tier : Tier
  requestsExhausted : Bool
  tokensExhausted : Bool
  deriving DecidableEq, Repr

/-- `GET` of the quota route. A statement that fails has no data. -/
def getQuota (platform : ServicePlatform) (userId : String) : Handler Quota := do
  let period := platform.periodKey (← clock)
  let settings ← statement (.selectTier userId)
  let row ← statement (.selectQuota userId period)
  let tier := (settings.toOption.bind id).getD .free
  let used := (row.toOption.bind id).getD ⟨0, 0⟩
  return ⟨tier, decide ((tierLimits tier).requests ≤ used.requests),
    decide ((tierLimits tier).tokens ≤ used.tokens)⟩

def checkQuota (platform : ServicePlatform) (context : MessageContext) : Handler Quota := do
  let quota ← getQuota platform context.userId
  if quota.requestsExhausted || quota.tokensExhausted then throw (.api (.quotaExceeded quota.tier))
  else if (tierLimits quota.tier).tokens < (trim context.input.text).length then
    throw (.api .textTooLong)
  else return quota

/-- `checkRateLimit`. -/
def checkRateLimit (userId : String) (maxPerMinute : Nat) : Handler Bool := do
  if ← circuitOpen then return true
  else
    let count ← redisCall (.incrRate userId)
    if count = 1 then redisCall (.expireRate userId 60)
    return decide (count ≤ maxPerMinute)

/-- Step 5.5; a check that fails lets the request pass. -/
def enforceRate (context : MessageContext) (quota : Quota) : Handler Unit := do
  if ← orElse (checkRateLimit context.userId (tierRateLimits quota.tier)) (pure true) then return ()
  else throw (.api .rateLimited)

def checkQueueDepth : Handler Unit := do
  if ← circuitOpen then return ()
  else
    let depth ← orElse (redisCall .queueDepth) (pure 0)
    if 500 < depth then throw (.api .queueError) else return ()

/-- Steps 5 to 7, up to the id of the message. -/
def admitMessage (platform : ServicePlatform) (context : MessageContext) : Handler Unit := do
  let quota ← checkQuota platform context
  let _ ← statement (.incrementDailyUsage context.userId context.input.text.length 1)
  enforceRate context quota
  checkQueueDepth

/-- A text of JavaScript as Redis and the database are given it. -/
def textOf (text : List UInt16) : String :=
  String.ofList ((points text).map fun point =>
    Char.ofNat (if isSurrogate point then 0xfffd else point))

def insertMessage (context : MessageContext) : Handler String := do
  match ← statement (.selectChat context.input.chatId context.userId) with
  | .ok (some _) =>
    match ← statement (.insertUserMessage context.userId context.input (textOf context.input.text)) with
    | .ok messageId => return messageId
    | .error _ => throw (.api .dbError)
  | .ok none | .error _ => throw (.api .chatNotFound)

/-- `extractAssistantHistoryContent`. -/
def extractAssistantHistoryContent (platform : ServicePlatform) : MessageContent → String
  | .dumped result =>
    if (trim (units result.improvedText)).length ≠ 0 then result.improvedText
    else platform.stringify result
  | .text content =>
    match platform.improvedText? content with
    | some improved => if (trim (units improved)).length ≠ 0 then improved else content
    | none => content

def historyMessage (platform : ServicePlatform) : Role × MessageContent → HistoryMessage
  | (.assistant, content) => ⟨"assistant", extractAssistantHistoryContent platform content⟩
  | (.user, .text content) => ⟨"user", content⟩
  | (.user, .dumped result) => ⟨"user", platform.stringify result⟩

/-- `fetchChatHistory`. -/
def fetchChatHistory (platform : ServicePlatform) (chatId currentMessageId : String) :
    Handler (List HistoryMessage) := do
  match ← statement (.selectHistory chatId currentMessageId 6) with
  | .ok rows =>
    return (rows.reverse.map (historyMessage platform)).filter fun entry =>
      decide (0 < (trim (units entry.content)).length)
  | .error _ => return []

/-- The text that `computeInputHash` hashes. -/
def inputMaterial (input : MessageInput) : String :=
  textOf input.text ++ ":" ++ input.tone ++ ":" ++ input.mode ++ ":" ++ input.outputLanguage ++
    ":" ++ toString input.intensity

/-- `getCachedAIResponse`. -/
def getCachedAIResponse (material : String) : Handler (Option AIResult) := do
  if ← circuitOpen then return none else redisCall (.getCache material)

/-- `Math.ceil(text.length / 4)`. -/
def estimatedTokens (text : List UInt16) : Nat := (text.length + 3) / 4

/-- `incrementQuotaUsage`. -/
def incrementQuotaUsage (platform : ServicePlatform) (context : MessageContext) : Handler Unit := do
  let tokens := estimatedTokens context.input.text
  let period := platform.periodKey (← clock)
  match ← statement (.incrementQuota context.userId period 1 tokens) with
  | .ok _ => return ()
  | .error _ =>
    let period := platform.periodKey (← clock)
    let _ ← statement (.upsertQuota context.userId period ⟨1, tokens⟩)

/-- `invalidateStatsCache`. -/
def invalidateStatsCache (userId : String) : Handler Unit := do
  if ← circuitOpen then return ()
  else orElse (queued (redis (.deleteStats userId))) (pure ())

/-- The answer from the cache. -/
def answerCached (platform : ServicePlatform) (context : MessageContext) (messageId : String)
    (result : AIResult) : Handler MessageReply := do
  let _ ← statement
    (.insertCachedMessage context.userId context.input (inputMaterial context.input) result)
  let response : MessageResponse := ⟨"cached", messageId, .completed, some result⟩
  rememberResponse context response
  incrementQuotaUsage platform context
  invalidateStatsCache context.userId
  return .cached response

/-- The `try` block around the cache; whatever fails in it, the request goes on to a job. -/
def tryCache (platform : ServicePlatform) (context : MessageContext) (messageId : String) :
    Handler (Option MessageReply) :=
  orElse
    (do
      match ← getCachedAIResponse (inputMaterial context.input) with
      | some result => return some (← answerCached platform context messageId result)
      | none => return none)
    (pure none)

/-- The Gmail context, asked for only when the text mentions mail. -/
def fetchGmail (context : MessageContext) : Handler GmailState :=
  if hasGmailRef context.input.text then
    orElse
      (do
        if ← gatewayCall (.getConnection context.userId) then
          return ⟨.ok true, .ok (← gatewayCall (.recentEmails context.userId 5))⟩
        else return ⟨.ok false, .ok []⟩)
      (return ⟨.ok false, .ok []⟩)
  else return ⟨.ok false, .ok []⟩

def messagePayload (platform : ServicePlatform) (context : MessageContext) (jobId messageId : String)
    (history : List HistoryMessage) (gmail : GmailState) : WritingJobPayload where
  id := jobId
  chatId := context.input.chatId
  userId := context.userId
  messageId := messageId
  content := textOf (enqueuedContent gmail context.input.text)
  tone := context.input.tone
  mode := context.input.mode
  outputLanguage := some context.input.outputLanguage
  history := some history
  intensity := some context.input.intensity
  quick := some context.input.quick
  attempt := 0
  traceparent := platform.traceparent

/-- Step 11. -/
def enqueueJob (platform : ServicePlatform) (context : MessageContext)
    (payload : WritingJobPayload) : Handler Unit :=
  orElse
    (do
      queued (enqueueWriteRightJob payload)
      incrementQuotaUsage platform context
      invalidateStatsCache context.userId)
    (do
      let _ ← statement (.failJob payload.id "Failed to enqueue to Redis")
      throw (.api .queueError))

/-- Steps 10 to 12, for a job that has its row. -/
def submitJob (platform : ServicePlatform) (context : MessageContext) (jobId messageId : String)
    (history : List HistoryMessage) : Handler MessageReply := do
  let gmail ← fetchGmail context
  enqueueJob platform context (messagePayload platform context jobId messageId history gmail)
  let response : MessageResponse := ⟨jobId, messageId, .pending, none⟩
  rememberResponse context response
  return .accepted response

/-- Steps 9 to 12. -/
def createJob (platform : ServicePlatform) (context : MessageContext) (messageId : String)
    (history : List HistoryMessage) : Handler MessageReply := do
  match ← statement
    (.insertJob context.userId messageId context.input (inputMaterial context.input)) with
  | .ok jobId => submitJob platform context jobId messageId history
  | .error _ => throw (.api .dbError)

/-- What is done for a request that has no stored answer. -/
def handleMessage (platform : ServicePlatform) (context : MessageContext) : Handler MessageReply := do
  admitMessage platform context
  let messageId ← insertMessage context
  let history ← fetchChatHistory platform context.input.chatId messageId
  match ← tryCache platform context messageId with
  | some reply => return reply
  | none => createJob platform context messageId history

def serveMessage (platform : ServicePlatform) (context : MessageContext) : Handler MessageReply := do
  match ← priorResponse context with
  | some response => return .repeated response
  | none => handleMessage platform context

/-- `withTimeout`: the answer of the timer comes first when the procedure takes 30 seconds,
and the procedure goes on all the same. -/
def withTimeout (body : Handler MessageReply) : Handler MessageReply :=
  ExceptT.mk do
    let result ← body.run
    if ← request MessageCommand.timer then return .error (.api .timeout) else return result

/-- `POST`, with `withErrorHandler` around it. -/
def postMessage (platform : ServicePlatform) (request : MessageRequest) :
    Program MessageCommand MessageCommand.Reply MessageReply := do
  match parseRequest platform request with
  | .error error => return .refused error
  | .ok context =>
    match ← (withTimeout (serveMessage platform context)).run with
    | .ok reply => return reply
    | .error thrown => return .refused thrown.error

end BrainMate.WriteRight
