import BrainMate.WriteRight.JobText

/-! `_parse_ai_response` of `ai_worker.py`: what the worker makes of the text a model answers with.
A Python string is a list of code points, which may be lone surrogates. -/

namespace BrainMate.WriteRight.ModelResponse

open Text

abbrev PyStr := List Nat

/-- What raises. `JSONDecodeError` and pydantic's `ValidationError` are `ValueError`s. -/
inductive Raised where
  | valueError
  | typeError
  | attributeError
  | overflowError
  | recursionError
  deriving DecidableEq, Repr

/-- A `float`, as far as `bool` and `int` tell it from another. -/
inductive FloatValue where
  | nan
  | infinite
  | finite (zero : Bool) (truncated : Int)
  deriving DecidableEq, Repr

def asciiLower (point : Nat) : Nat := if 0x41 ≤ point ∧ point ≤ 0x5a then point + 0x20 else point

/-- What depends on the interpreter, on the tables of Unicode and on pydantic. -/
structure Python where
  /-- `json.loads` meets the recursion limit in the text. -/
  exhausts : PyStr → Bool
  /-- The `float` of a literal. -/
  floatValue : PyStr → FloatValue
  /-- `int` of a string, where it raises no `ValueError`. -/
  intOfStr : PyStr → Option Int
  lower : PyStr → PyStr
  /-- A field of type `str` takes the string. -/
  accepts : PyStr → Bool
  lower_ascii : ∀ text : PyStr, (∀ point ∈ text, point < 0x80) → lower text = text.map asciiLower
  accepts_scalar : ∀ text : PyStr, text.all isScalar = true → accepts text = true

/-- `str.isspace`. -/
def isSpace (point : Nat) : Bool :=
  (0x09 ≤ point && point ≤ 0x0d) || (0x1c ≤ point && point ≤ 0x20) || point == 0x85 ||
    point == 0xa0 || point == 0x1680 || (0x2000 ≤ point && point ≤ 0x200a) || point == 0x2028 ||
    point == 0x2029 || point == 0x202f || point == 0x205f || point == 0x3000

def strip (text : PyStr) : PyStr := ((text.dropWhile isSpace).reverse.dropWhile isSpace).reverse

/-- `str.split()`. -/
def split (text : PyStr) : List PyStr := (text.splitOnP isSpace).filter fun word => !word.isEmpty

/-- `" ".join(words)`. -/
def join (words : List PyStr) : PyStr := [0x20].intercalate words

/-- `str.replace` of two code points by one. -/
def replacePair (first second new : Nat) : PyStr → PyStr
  | [] => []
  | [point] => [point]
  | point :: next :: rest =>
    if point = first ∧ next = second then new :: replacePair first second new rest
    else point :: replacePair first second new (next :: rest)

structure TeachingBlock where
  mistakes : List PyStr := []
  betterVersions : List PyStr := []
  explanations : List PyStr := []
  deriving DecidableEq, Repr

structure AIResult where
  improvedText : PyStr
  englishVersion : Option PyStr := none
  teaching : TeachingBlock := {}
  extraction : ExtractionBlock := {}
  followUp : PyStr := []
  suggestions : List PyStr := []
  scores : ScoreBlock := {}
  model : PyStr := []
  promptTokens : Int := 0
  completionTokens : Int := 0
  deriving DecidableEq, Repr

/-- What `AIResult` is called with. -/
structure Call where
  model : PyStr
  promptTokens : Int
  completionTokens : Int
  mode : PyStr

section Parser

variable (python : Python)

/-- A field of type `str`. -/
def str? : Json → Option PyStr
  | .str points => if python.accepts points then some points else none
  | _ => none

/-- A field of type `list[str]`. -/
def strList? : Json → Option (List PyStr)
  | .arr items => items.mapM (str? python)
  | _ => none

/-- `data.get(name, default)`. -/
def get (data : List (List Nat × Json)) (name : String) (default : Json) : Json :=
  (lookup data name).getD default

def teachingBlock? (teachingData : List (List Nat × Json)) : Option TeachingBlock := do
  let mistakes ← strList? python (get teachingData "mistakes" (.arr []))
  let betterVersions ← strList? python (get teachingData "better_versions" (.arr []))
  let explanations ← strList? python (get teachingData "explanations" (.arr []))
  return { mistakes, betterVersions, explanations }

def aiResult? (improvedText : Json) (englishVersion : Option PyStr) (teaching : TeachingBlock)
    (followUp : Json) (suggestions : List PyStr) (scores : ScoreBlock) (call : Call) :
    Option AIResult := do
  let improvedText ← str? python improvedText
  let englishVersion ← nullable (str? python) (orNull (englishVersion.map .str))
  let followUp ← str? python followUp
  let suggestions ← strList? python (.arr (suggestions.map .str))
  let model ← str? python (.str call.model)
  return {
    improvedText, englishVersion, teaching, followUp, suggestions, scores, model
    promptTokens := call.promptTokens
    completionTokens := call.completionTokens }

def verdictReady : String := "Ready to send"

def verdictNeedsWork : String := "Needs more work"

def verdictStrong : String := "Strong draft"

def pyInt : Json → Except Raised Int
  | .bool value => .ok (if value then 1 else 0)
  | .int value => .ok value
  | .float literal =>
    match python.floatValue literal with
    | .nan => .error .valueError
    | .infinite => .error .overflowError
    | .finite _ truncated => .ok truncated
  | .str points =>
    match python.intOfStr points with
    | some value => .ok value
    | none => .error .valueError
  | .null | .arr _ | .obj _ => .error .typeError

def clampScore (rawValue : Json) : Except Raised Int :=
  match pyInt python rawValue with
  | .ok score => .ok (max 1 (min 10 score))
  | .error .typeError | .error .valueError => .ok 6
  | .error raised => .error raised

def normalizeVerdict : Json → String
  | .str points =>
    let normalized := python.lower (strip points)
    if normalized = python.lower (pyText verdictReady) then verdictReady
    else if normalized = pyText "needs work" ∨
      normalized = python.lower (pyText verdictNeedsWork) then verdictNeedsWork
    else if normalized = python.lower (pyText verdictStrong) then verdictStrong
    else verdictNeedsWork
  | _ => verdictNeedsWork

/-- What is no object counts as an empty one. -/
def scoresData (data : List (List Nat × Json)) : List (List Nat × Json) :=
  match get data "scores" (.obj []) with
  | .obj scoresData => scoresData
  | _ => []

def scoreBlock (scoresData : List (List Nat × Json)) : Except Raised ScoreBlock := do
  let clarity ← clampScore python (get scoresData "clarity" .null)
  let tone ← clampScore python (get scoresData "tone" .null)
  let impact ← clampScore python (get scoresData "impact" .null)
  return { clarity, tone, impact, verdict := normalizeVerdict python (get scoresData "verdict" .null) }

def sanitizeSuggestion : Json → Option PyStr
  | .str points =>
    let compact := join (split (strip points))
    if compact.isEmpty then none
    else
      let words := compact.splitOn 0x20
      some (if 8 < words.length then join (words.take 8) else compact)
  | _ => none

/-- `DEFAULT_SUGGESTIONS_BY_MODE`. -/
def fallbackSuggestions (mode : PyStr) : List PyStr :=
  if mode = pyText "paragraph" then
    [pyText "Simplify the language", pyText "Tighten the structure", pyText "Make it more concise"]
  else if mode = pyText "linkedin" then
    [pyText "Add a stronger hook", pyText "Make it more concise", pyText "Add a clear CTA"]
  else if mode = pyText "whatsapp" then
    [pyText "Make it more formal", pyText "Add a clear deadline", pyText "Keep it concise"]
  else [pyText "Make it shorter", pyText "Add a formal closing", pyText "Make it more assertive"]

/-- One after the other is added, where it has not been seen, until there are three. -/
def collect : List PyStr → List PyStr × List PyStr → List PyStr × List PyStr
  | [], state => state
  | text :: rest, (suggestions, seen) =>
    let dedupeKey := python.lower text
    if dedupeKey ∈ seen then collect rest (suggestions, seen)
    else
      let suggestions := suggestions ++ [text]
      let seen := dedupeKey :: seen
      if suggestions.length = 3 then (suggestions, seen) else collect rest (suggestions, seen)

def extractSuggestions (data : List (List Nat × Json)) (mode : PyStr) : List PyStr :=
  let suggestionsList :=
    match get data "suggestions" .null with
    | .arr items => items
    | _ => []
  let (suggestions, seen) := collect python (suggestionsList.filterMap sanitizeSuggestion) ([], [])
  if suggestions.length = 3 then suggestions
  else (collect python (fallbackSuggestions mode) (suggestions, seen)).1

mutual

/-- An integer in the value has more than 4300 digits, which `int` refuses. -/
def tooLong : Json → Bool
  | .int value => 10 ^ 4300 ≤ value.natAbs
  | .arr items => tooLongItems items
  | .obj members => tooLongMembers members
  | .null | .bool _ | .float _ | .str _ => false

def tooLongItems : List Json → Bool
  | [] => false
  | item :: items => tooLong item || tooLongItems items

def tooLongMembers : List (List Nat × Json) → Bool
  | [] => false
  | (_, value) :: members => tooLong value || tooLongMembers members

end

def jsonLoads (text : PyStr) : Except Raised Json :=
  if python.exhausts text then .error .recursionError
  else
    match loads text with
    | none => .error .valueError
    | some value => if tooLong value then .error .valueError else .ok value

/-- `data.pop("cot_reasoning", None)`, which only a `dict` has with two arguments. -/
def popReasoning : Json → Except Raised (List (List Nat × Json))
  | .obj members => .ok (members.filter fun member => member.1 ≠ pyText "cot_reasoning")
  | .arr _ => .error .typeError
  | .null | .bool _ | .int _ | .float _ | .str _ => .error .attributeError

def truthy : Json → Bool
  | .null => false
  | .bool value => value
  | .int value => value ≠ 0
  | .float literal =>
    match python.floatValue literal with
    | .finite zero _ => !zero
    | .nan | .infinite => true
  | .str points => !points.isEmpty
  | .arr items => !items.isEmpty
  | .obj members => !members.isEmpty

/-- What is no string is left out. -/
def englishVersion (data : List (List Nat × Json)) : Option PyStr :=
  match get data "english_version" .null with
  | .str points => some points
  | _ => none

/-- The result of an object with an improved text. -/
def structured (data : List (List Nat × Json)) (improvedText : Json) (call : Call) :
    Except Raised AIResult :=
  match get data "teaching" (.obj []) with
  | .obj teachingData =>
    match teachingBlock? python teachingData with
    | none => .error .valueError
    | some teaching =>
      match scoreBlock python (scoresData data) with
      | .error raised => .error raised
      | .ok scores =>
        match aiResult? python improvedText (englishVersion data) teaching
            (get data "follow_up" (.str [])) (extractSuggestions python data call.mode) scores
            call with
        | none => .error .valueError
        | some result => .ok result
  | _ => .error .attributeError

/-- `json.loads` and the removal of the reasoning. -/
def readObject (text : PyStr) : Except Raised (List (List Nat × Json)) :=
  match jsonLoads python text with
  | .error raised => .error raised
  | .ok value => popReasoning value

/-- An attempt at a text. Of the two in the source the second raises nothing for an empty improved
text, but goes on as after a `ValueError`. -/
def attempt (text : PyStr) (call : Call) : Except Raised AIResult :=
  match readObject python text with
  | .error raised => .error raised
  | .ok data =>
    let improvedText := get data "improved_text" (.str [])
    if truthy python improvedText then structured python data improvedText call
    else .error .valueError

def fence : PyStr := pyText "```"

def withoutStart (start text : PyStr) : PyStr := (text.dropPrefix? start).getD text

def withoutEnd (ending text : PyStr) : PyStr :=
  if ending.isSuffixOf text then text.take (text.length - ending.length) else text

def clean (content : PyStr) : PyStr :=
  strip (withoutEnd fence (withoutStart fence (withoutStart (pyText "```json") (strip content))))

def needle : PyStr := pyText "\"improved_text\""

/-- `re.search(r'\{.*"improved_text".*\}', text, re.DOTALL)`: from the first opening brace to the
last closing one. -/
def jsonMatch (text : PyStr) : Option PyStr :=
  let start := text.dropWhile (· ≠ 0x7b)
  let group := (start.reverse.dropWhile (· ≠ 0x7d)).reverse
  if (group.drop 1).dropLast.tails.any needle.isPrefixOf then some group else none

/-- `(?:\\"|[^"])*`. -/
def stringGroup : PyStr → PyStr
  | [] => []
  | [point] => if point = 0x22 then [] else [point]
  | point :: next :: rest =>
    if point = 0x5c ∧ next = 0x22 then 0x5c :: 0x22 :: stringGroup rest
    else if point = 0x22 then []
    else point :: stringGroup (next :: rest)

/-- `"improved_text"\s*:\s*"((?:\\"|[^"])*)` at the start of the text. -/
def improvedHere (text : PyStr) : Option PyStr :=
  match text.dropPrefix? needle with
  | none => none
  | some rest =>
    match rest.dropWhile isSpace with
    | 0x3a :: rest =>
      match rest.dropWhile isSpace with
      | 0x22 :: rest => some (stringGroup rest)
      | _ => none
    | _ => none

def improvedMatch (text : PyStr) : Option PyStr := text.tails.findSome? improvedHere

/-- The unescaping of the fallback. -/
def fbText (group : PyStr) : PyStr := replacePair 0x5c 0x6e 0x0a (replacePair 0x5c 0x22 0x22 group)

def rephrase : PyStr := pyText "Could you try rephrasing your request?"

/-- A result without teaching and scores. -/
def plainResult (improvedText : PyStr) (call : Call) : Except Raised AIResult :=
  match aiResult? python (.str improvedText) none {} (.str rephrase)
      (fallbackSuggestions call.mode) {} call with
  | none => .error .valueError
  | some result => .ok result

def contentDump (content : PyStr) : PyStr :=
  if strip content ≠ [] then strip content
  else pyText "Unable to process your request. Please try again."

def fallback (content cleaned : PyStr) (call : Call) : Except Raised AIResult :=
  match improvedMatch cleaned with
  | none => plainResult python (contentDump content) call
  | some group =>
    match plainResult python (fbText group) call with
    | .ok result => .ok result
    | .error _ => plainResult python (contentDump content) call

def parseAiResponse (content : PyStr) (call : Call) : Except Raised AIResult :=
  let cleaned := clean content
  match attempt python cleaned call with
  | .ok result => .ok result
  | .error .valueError =>
    match jsonMatch cleaned with
    | none => fallback python content cleaned call
    | some text =>
      match attempt python text call with
      | .ok result => .ok result
      | .error .valueError => fallback python content cleaned call
      | .error raised => .error raised
  | .error raised => .error raised

end Parser

end BrainMate.WriteRight.ModelResponse
