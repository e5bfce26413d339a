import BrainMate.Interleaving.Exceptions
import BrainMate.WriteRight.World

/-! `ai_worker.py`: the gates before the model is asked, and `process_job`, which asks it
and writes the message, the job row and the usage row. -/

namespace BrainMate.WriteRight

open Interleaving Program

/-- `str.isspace`, and `\s` of a regular expression. -/
def isspace (char : Char) : Bool :=
  let code := char.toNat
  (9 ≤ code && code ≤ 13) || (28 ≤ code && code ≤ 32) || code = 0x85 || code = 0xa0 ||
    code = 0x1680 || (0x2000 ≤ code && code ≤ 0x200a) || code = 0x2028 || code = 0x2029 ||
    code = 0x202f || code = 0x205f || code = 0x3000

/-- `text.strip()`. -/
def strip (text : String) : List Char :=
  ((text.toList.dropWhile isspace).reverse.dropWhile isspace).reverse

/-- The lines that start, after blanks, with one of the words. -/
def codeLines (words : List String) (text : List Char) : Nat :=
  (text.splitOn '\n').countP fun line =>
    words.any fun word => word.toList.isPrefixOf (line.dropWhile isspace)

/-- The checks the two gates share: length, share of letters in percent, lines of code. -/
def gate (settings : Settings) (minPercent : Nat) (words : List String) (codeReason text : String) :
    Bool × String :=
  let stripped := strip text
  if stripped.length < 10 then (false, "Text is too short to improve meaningfully.")
  else if stripped.countP settings.isalpha * 100 < minPercent * max stripped.length 1 then
    (false, "Text appears to contain mostly numbers or symbols.")
  else if 3 ≤ codeLines words stripped then (false, codeReason)
  else (true, "")

/-- `_is_processable_input`. -/
def isProcessableInput (settings : Settings) (text : String) : Bool × String :=
  gate settings 30
    ["def ", "class ", "function ", "import ", "const ", "let ", "var ", "\x7b", "\x7d"]
    "This looks like code. WriteRight is for natural language writing only." text

/-- `_quality_gate`. -/
def qualityGate (settings : Settings) (text : String) : Bool × String :=
  gate settings 25
    ["def ", "class ", "function ", "import ", "const ", "let ", "var ", "#include", "<?php"]
    "This looks like code. WriteRight works with natural language only." text

/-- What is returned for a text that does not pass the first gate. -/
def unprocessableResult (content reason : String) : AIResult where
  improvedText := content
  teaching := ⟨[reason], ["Please provide natural language text to improve."],
    ["WriteRight is designed for emails, paragraphs, LinkedIn posts, and WhatsApp messages."]⟩
  followUp := "Try pasting an email draft or a paragraph you've written."
  suggestions := ["Try an email draft", "Try a LinkedIn post", "Try a paragraph"]
  scores := ⟨0, 0, 0, "Needs more work"⟩
  model := "quality_gate"

/-- The text of the `UnboundLocalError`. -/
def unboundAIResult : String :=
  "cannot access local variable 'AIResult' where it is not associated with a value"

/-- A coroutine: a procedure that may fail. -/
abbrev Async (α : Type) : Type := ExceptT Failure (Program Command Command.Reply) α

def time : Async Nat := ExceptT.lift (request Command.time)

def redis (command : RedisCommand) : Async command.Reply := ExceptT.mk (request (Command.redis command))

def supabase (command : SupabaseCommand) : Async command.Reply :=
  ExceptT.mk (request (Command.supabase command))

def model (command : ModelCommand) : Async command.Reply :=
  ExceptT.mk (request (Command.model command))

/-- `try: ... except Exception: ...` of a call that `wait_for` has a watch on: when the time
is up, it is cancelled. -/
def catching {α : Type} (body : Async α) (fallback : Async α) : Async α :=
  rescue body fun
    | .raised _ => fallback
    | .timedOut => throw .timedOut
    | .cancelled => throw .cancelled

def saveAiMessage (job : WritingJob) (result : AIResult) (injectionDetected : Bool) : Async Unit :=
  supabase (.insertMessage {
    chatId := job.chatId
    userId := job.userId
    role := .assistant
    content := .dumped result
    metadata := some {
      model := result.model
      promptTokens := result.promptTokens
      completionTokens := result.completionTokens
      injectionDetected := injectionDetected
      jobId := job.id
      mode := job.mode
      tone := job.tone
      outputLanguage := job.outputLanguage } })

def recordUsage (job : WritingJob) (result : AIResult) : Async Unit :=
  catching
    (supabase (.insertUsage {
      userId := job.userId
      jobId := job.id
      chatId := job.chatId
      model := result.model
      promptTokens := result.promptTokens
      completionTokens := result.completionTokens
      totalTokens := result.promptTokens + result.completionTokens }))
    (pure ())

/-- `on_status`. -/
def publishStage (job : WritingJob) (stage : String) : Async Unit := redis (.publish job.id stage)

/-- `_generate_critique_and_revision` keeps the draft when the second pass fails. -/
def critiqueAndRevise (draft : AIResult) (job : WritingJob) : Async AIResult :=
  catching (model (.critique draft job)) (pure draft)

/-- Steps 6 to 9: what `process_job` writes about a result, each write on its own. -/
def persist (job : WritingJob) (result : AIResult) (injectionDetected : Bool) : Async Unit := do
  catching (saveAiMessage job result injectionDetected) (pure ())
  catching (supabase (.updateJobStatus job.id .completed (some result) none)) (pure ())
  recordUsage job result
  catching (supabase (.updateStreakAndAchievements job.userId)) (pure ())

/-- The part of `process_job` that asks the model. -/
def improve (settings : Settings) (job : WritingJob) (history : List (Role × MessageContent))
    (profile : List String) : Async AIResult := do
  let (draft, injectionDetected) ← model (.generateDraft job history profile)
  let result ←
    if settings.enableCritiquePipeline then do
      publishStage job "critiquing"
      critiqueAndRevise draft job
    else pure draft
  publishStage job "finalizing"
  persist job result injectionDetected
  return result

def processJob (settings : Settings) (job : WritingJob) : Async AIResult := do
  catching (supabase (.updateJobStatus job.id .processing none none)) (pure ())
  let history ← catching (supabase (.getChatHistory job.chatId 20)) (pure [])
  let profile ← catching (supabase (.getWritingProfile job.userId)) (pure [])
  match isProcessableInput settings job.content with
  | (false, reason) => return unprocessableResult job.content reason
  | (true, _) =>
    publishStage job "drafting"
    match qualityGate settings job.content with
    -- The import under the first gate makes `AIResult` a local name of the whole function, and
    -- here it is unbound.
    | (false, _) => throw (.raised unboundAIResult)
    | (true, _) => improve settings job history profile

end BrainMate.WriteRight
