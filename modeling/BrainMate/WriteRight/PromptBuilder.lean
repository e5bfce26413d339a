import BrainMate.Metering.GreedyFit
import BrainMate.WriteRight.Injection
import BrainMate.WriteRight.PromptTexts

/-! `build_messages` of `prompt_builder.py`. -/

namespace BrainMate.WriteRight.Prompt

open Text Text.Pattern ModelResponse

/-- What raises. -/
inductive Failure where
  | recursionError
  | valueError
  | typeError
  | keyError
  deriving DecidableEq, Repr

structure Interpreter extends ModelResponse.Python where
  /-- In a text that is no JSON `json.loads` meets an integer that it refuses before the error. -/
  refuses : PyStr → Bool
  /-- `\w` -/
  isWord : Nat → Bool
  /-- `str` of a value. -/
  render : Json → PyStr

section Slices

variable {Item : Type}

/-- `items[:stop]` -/
def sliceTo (stop : Int) (items : List Item) : List Item :=
  if 0 ≤ stop then items.take stop.toNat else items.take (items.length - (-stop).toNat)

/-- `items[start:]` -/
def sliceFrom (start : Int) (items : List Item) : List Item :=
  if 0 ≤ start then items.drop start.toNat else items.drop (items.length - (-start).toNat)

end Slices

/-- `[\x00-\x08\x0b\x0c\x0e-\x1f\x7f]` -/
def isControl (point : Nat) : Bool :=
  point ≤ 0x08 || point == 0x0b || point == 0x0c || (0x0e ≤ point && point ≤ 0x1f) || point == 0x7f

def sanitizeText (text : PyStr) (maxChars : Int) : PyStr :=
  ModelResponse.strip (sliceTo maxChars (text.filter fun point => !isControl point))

def isRefinementRequest (text : PyStr) : Bool := text.length < 100 && !text.contains 0x0a

/-- `.`; where it does not match, `$` does under `re.MULTILINE`. -/
def anyOfLine : Pattern Nat := .symbol fun point => point != 0x0a

def lowerLiteral (text : String) : Pattern Nat := .word id (pyText text)

def looksLikeReplyChain (python : Interpreter) (text : PyStr) : Bool :=
  let lowered := python.lower text
  let start : Pattern Nat := .boundary python.isWord
  let patterns := [
    chain [start, lowerLiteral "from:", .symbol isSpace],
    chain [start, lowerLiteral "to:", .symbol isSpace],
    chain [start, lowerLiteral "subject:", .symbol isSpace],
    chain [start, lowerLiteral "on ", .oneOrMore anyOfLine, lowerLiteral " wrote:", spaces,
      .unless anyOfLine]]
  patterns.any fun pattern => pattern.search none lowered

/-- The floating point quotients are compared with 0.15 as the rational numbers are, since no
text is long enough for the difference. -/
def detectScript (text : PyStr) : String :=
  let devanagari := text.countP fun point => 0x900 ≤ point && point ≤ 0x97f
  let arabic := text.countP fun point => 0x600 ≤ point && point ≤ 0x6ff
  let total := text.countP fun point => !isSpace point
  if total = 0 then "en"
  else if 15 * total < 100 * devanagari then "hi"
  else if 15 * total < 100 * arabic then "ar"
  else "en"

/-- The order of strings by code points. -/
def before : PyStr → PyStr → Bool
  | _, [] => false
  | [], _ :: _ => true
  | point :: points, other :: others =>
    point < other || (point == other && before points others)

/-- `"一" <= c <= "鿿"` -/
def isCjk (text : PyStr) : Bool := !before text (pyText "一") && !before (pyText "鿿") text

def estimate (pieces : List PyStr) : Nat :=
  let cjkCount := pieces.countP isCjk
  let otherCount := pieces.length - cjkCount
  cjkCount / 2 + otherCount / 4

/-- `_estimate_tokens` of a string. -/
def estimateText (text : PyStr) : Nat := estimate (text.map fun point => [point])

def text? : Json → Option PyStr
  | .str points => some points
  | _ => none

/-- `_estimate_tokens`, which goes through whatever it is given. -/
def estimateTokens : Json → Except Failure Nat
  | .str points => .ok (estimateText points)
  | .arr items =>
    match items.mapM text? with
    | some pieces => .ok (estimate pieces)
    | none => .error .typeError
  | .obj members => .ok (estimate (members.map Prod.fst).dedup)
  | .null | .bool _ | .int _ | .float _ => .error .typeError

/-- A row as `process_job` hands it over, with the defaults of a row that lacks a field. -/
structure HistoryRow where
  role : PyStr := pyText "user"
  content : PyStr := []
  deriving DecidableEq, Repr

inductive Speaker where
  | system
  | user
  | assistant
  deriving DecidableEq, Repr

structure Message where
  role : Speaker
  content : Json

/-- What is no JSON is taken as it is, and so is an object without an improved text. -/
def extractImprovedText (python : Interpreter) (content : PyStr) : Except Failure Json :=
  if python.exhausts content then .error .recursionError
  else
    match loads content with
    | none => if python.refuses content then .error .valueError else .ok (.str content)
    | some parsed =>
      if tooLong parsed then .error .valueError
      else
        match parsed with
        | .obj members => .ok ((lookup members "improved_text").getD (.str content))
        | _ => .ok (.str content)

def formatRow (python : Interpreter) (row : HistoryRow) : Except Failure Message :=
  if row.role = pyText "assistant" then
    (extractImprovedText python row.content).map fun content => ⟨.assistant, content⟩
  else .ok ⟨.user, .str row.content⟩

/-- `messages[-max_messages:]`, where there are more. -/
def recent {Row : Type} (messages : List Row) (maxMessages : Int) : List Row :=
  if maxMessages < messages.length then sliceFrom (-maxMessages) messages else messages

def formatHistory (python : Interpreter) (messages : List HistoryRow) (maxMessages : Int) :
    Except Failure (List Message) :=
  (recent messages maxMessages).mapM (formatRow python)

/-- The loop over the history from its newest message on. -/
def trimNewest : Int → List Message → Except Failure (List Message)
  | _, [] => .ok []
  | remainingBudget, message :: older => do
    let messageTokens ← estimateTokens message.content
    if 0 ≤ remainingBudget - messageTokens then
      return message :: (← trimNewest (remainingBudget - messageTokens) older)
    else trimNewest remainingBudget older

def trimHistory (remainingBudget : Int) (historyMessages : List Message) :
    Except Failure (List Message) :=
  (trimNewest remainingBudget historyMessages.reverse).map List.reverse

def maxPrevTextChars : Nat := 2000

def truncationMark : PyStr := pyText "\n[... truncated for context ...]"

/-- `prev_improved[:MAX_PREV_TEXT_CHARS]`, with a mark where something is left out, as `format`
writes it. -/
def truncatedPrev (python : Interpreter) : Json → Except Failure PyStr
  | .str points =>
    .ok (points.take maxPrevTextChars ++
      if maxPrevTextChars < points.length then truncationMark else [])
  | .arr items =>
    .ok (python.render (.arr (items.take maxPrevTextChars ++
      if maxPrevTextChars < items.length then truncationMark.map fun point => .str [point] else [])))
  | .obj _ => .error .keyError
  | .null | .bool _ | .int _ | .float _ => .error .typeError

/-- What the refinement prefix puts before the previous answer. -/
def refinementOpening : PyStr :=
  pyText "You are refining a previous response. The last improved version was:\n\n"

/-- What it puts between the answer and the request. -/
def refinementRequest : PyStr := pyText "\n\nNow apply this refinement: "

/-- `REFINEMENT_PREFIX.format(prev_improved_text=..., user_request=...)` -/
def refinementPrefix (prevImprovedText userRequest : PyStr) : PyStr :=
  refinementOpening ++ prevImprovedText ++ refinementRequest ++ userRequest

/-- The newest answer of the history, if it is not empty. -/
def prevImproved (python : Interpreter) (historyMessages : List Message) : Option Json :=
  ((historyMessages.reverse.find? fun message => message.role = .assistant).map
    Message.content).filter (truthy python.toPython)

def userContent (python : Interpreter) (historyMessages : List Message) (sanitized : PyStr) :
    Except Failure PyStr :=
  if isRefinementRequest sanitized then
    match prevImproved python historyMessages with
    | some prev => (truncatedPrev python prev).map fun cut => refinementPrefix cut sanitized
    | none => .ok sanitized
  else .ok sanitized

/-- What is `None` is as good as empty. -/
structure Arguments where
  userText : PyStr
  tone : PyStr
  mode : PyStr
  outputLanguage : PyStr
  history : List HistoryRow
  profile : List PyStr := []
  voiceExamples : List PyStr := []
  intensity : Int := 3
  maxHistory : Int := 10
  maxInputTokens : Int := 4096
  gmailContext : PyStr := []
  deriving DecidableEq, Repr

/-- A section that is left out where its text is empty. -/
def optionalSection (text : PyStr) : PyStr := if text.isEmpty then [] else pyText "\n\n" ++ text

def profileBlock (profile : List PyStr) : PyStr :=
  if profile.isEmpty then []
  else
    pyText ("\n\nPERSONALISED COACHING CONTEXT:\n" ++
      "Based on this user's history, they frequently make these specific errors:\n") ++
    [0x0a].intercalate ((profile.take 5).map fun mistake => pyText "- " ++ mistake) ++
    pyText ("\n\nTreat these as your primary targets. When you find any of these patterns:\n" ++
      "1. Always flag them in the teaching.mistakes array\n" ++
      "2. Always provide the specific better_versions replacement\n" ++
      "3. Give special emphasis to WHY this pattern persists among Indian English writers\n" ++
      "This user has been coached on these before — they need a direct, specific fix, not a " ++
      "generic explanation.")

def dnaBlock (voiceExamples : List PyStr) : PyStr :=
  if voiceExamples.isEmpty then []
  else
    pyText "\n\nUSER STYLE DNA (Mimic this vocabulary, cadence, and sign-offs):\n" ++
    (voiceExamples.zipIdx.map fun (example_, index) =>
      pyText "Example " ++ pyText (toString (index + 1)) ++ pyText ": \"" ++ example_ ++
        pyText "\"\n").flatten

def lengthBlock (sanitized : PyStr) : PyStr :=
  if sanitized.length < 50 then
    pyText "\n\nThe input is very short. Match the output length."
  else if 2000 < sanitized.length then
    pyText ("\n\nThis is a long document. Maintain the same structure and length. Do not summarise " ++
      "or truncate.")
  else []

def translationBlock (python : Interpreter) (outputLanguage : PyStr) : PyStr :=
  let outputLanguageClean := python.lower (ModelResponse.strip outputLanguage)
  if outputLanguageClean ≠ [] ∧ outputLanguageClean ≠ pyText "en" then
    pyText "\n\nAfter improving the text in English, translate the ENTIRE improved_text to " ++
      outputLanguageClean ++ pyText ". The improved_text field must be in " ++
      outputLanguageClean ++
      pyText ". Add english_version with the English improved text before translation."
  else []

def scriptBlock (sanitized : PyStr) : PyStr :=
  let detectedLang := detectScript sanitized
  if detectedLang ≠ "en" then
    pyText "\n\nInput language detected as " ++ pyText detectedLang ++
      pyText (". Preserve native speaker patterns that are correct. Only fix actual errors, not " ++
        "differences from English.")
  else []

def systemPrompt (python : Interpreter) (arguments : Arguments) (sanitized : PyStr) : PyStr :=
  systemPromptTemplate arguments.tone arguments.mode ++
  optionalSection (modeContext arguments.mode) ++
  optionalSection (intensityContext arguments.intensity arguments.tone) ++
  optionalSection arguments.gmailContext ++
  profileBlock arguments.profile ++
  dnaBlock arguments.voiceExamples ++
  (if looksLikeReplyChain python sanitized then
    pyText ("\n\nThis appears to be a reply chain. Improve ONLY the user's portion (the newest " ++
      "text at the top). Preserve quoted context unchanged.")
  else []) ++
  lengthBlock sanitized ++
  translationBlock python arguments.outputLanguage ++
  scriptBlock sanitized

/-- The request as it goes on, and whether something of it was filtered. -/
def sanitizedRequest (arguments : Arguments) : PyStr × Bool :=
  detectInjection (sanitizeText arguments.userText (arguments.maxInputTokens * 4))

/-- `random.choice` takes either example. -/
def selectedExample (mode : PyStr) (choice : Bool) : FewShot :=
  if choice then (fewShotPool mode).2 else (fewShotPool mode).1

def fewShotMessages (mode : PyStr) (choice : Bool) : List Message :=
  let selected := selectedExample mode choice
  [⟨.user, .str selected.input⟩, ⟨.assistant, .str selected.output⟩]

/-- What the other messages and the safety margin leave for the history. -/
def remainingBudget (python : Interpreter) (arguments : Arguments) (choice : Bool)
    (content : PyStr) : Int :=
  let selected := selectedExample arguments.mode choice
  let systemBudget := estimateText (systemPrompt python arguments (sanitizedRequest arguments).1)
  let userBudget := estimateText content
  let fewShotBudget := estimateText selected.input + estimateText selected.output
  arguments.maxInputTokens - systemBudget - userBudget - fewShotBudget - 200

def buildMessages (python : Interpreter) (choice : Bool) (arguments : Arguments) :
    Except Failure (List Message × Bool) := do
  let (sanitized, injectionDetected) := sanitizedRequest arguments
  let historyMessages ← formatHistory python arguments.history arguments.maxHistory
  let content ← userContent python historyMessages sanitized
  let trimmedHistory ← trimHistory (remainingBudget python arguments choice content) historyMessages
  return (
    [⟨.system, .str (systemPrompt python arguments sanitized)⟩] ++
      fewShotMessages arguments.mode choice ++ trimmedHistory ++ [⟨.user, .str content⟩],
    injectionDetected)

end BrainMate.WriteRight.Prompt
