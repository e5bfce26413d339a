import BrainMate.Text.Words
import BrainMate.WriteRight.ModelResponse

/-! `on_stream_chunk` of `queue_consumer.py`: the words that are published while a response comes
in, and the words of the text it brings. -/

namespace BrainMate.WriteRight.TokenStream

open Text ModelResponse

structure StreamState where
  tokenBuffer : PyStr := []
  wordCountPublished : Nat := 0
  /-- The chunks that were published. -/
  published : List PyStr := []
  deriving DecidableEq, Repr

def quotationMark : Nat := 0x22

def backslash : Nat := 0x5c

def lineFeed : Nat := 0x0a

/-- `(?:[^"\\]|\\.)*`; a dot is no line feed. -/
def stringPart : PyStr → PyStr
  | [] => []
  | [point] => if point = quotationMark ∨ point = backslash then [] else [point]
  | point :: next :: rest =>
    if point = quotationMark then []
    else if point = backslash then
      if next = lineFeed then [] else point :: next :: stringPart rest
    else point :: stringPart (next :: rest)

def memberName : PyStr := pyText "\"improved_text\":"

/-- `"improved_text":\s*"((?:[^"\\]|\\.)*)` at the start of a text. -/
def matchHere (text : PyStr) : Option PyStr :=
  match text.dropPrefix? memberName with
  | none => none
  | some rest =>
    match rest.dropWhile isSpace with
    | [] => none
    | point :: value => if point = quotationMark then some (stringPart value) else none

/-- `re.search`: the group of the first match. -/
def search : PyStr → Option PyStr
  | [] => matchHere []
  | point :: rest => (matchHere (point :: rest)).or (search rest)

/-- `match.group(1).replace('\\"', '"').replace("\\n", "\n")` -/
def soFar (group : PyStr) : PyStr :=
  replacePair backslash 0x6e lineFeed (replacePair backslash quotationMark quotationMark group)

def gate : PyStr := pyText "\"improved_text\": \""

def onStreamChunk (state : StreamState) (chunk fullText : PyStr) : StreamState :=
  let state := { state with tokenBuffer := state.tokenBuffer ++ chunk }
  if gate <:+: fullText ∧ state.wordCountPublished < 500 then
    match search fullText with
    | none => state
    | some group =>
      let wordsSoFar := split (soFar group)
      if state.wordCountPublished < wordsSoFar.length then
        let newWords := wordsSoFar.drop state.wordCountPublished
        { state with
          published := state.published ++ [join newWords ++ [0x20]]
          wordCountPublished := wordsSoFar.length }
      else state
  else state

/-- What `on_token` is called with in one attempt, `received` before it. -/
def callsOf : PyStr → List PyStr → List (PyStr × PyStr)
  | _, [] => []
  | received, chunk :: rest =>
    if chunk.isEmpty then callsOf received rest
    else (chunk, received ++ chunk) :: callsOf (received ++ chunk) rest

/-- Every attempt begins the text anew, and the callback goes on as it was. -/
def streamCalls (attempts : List (List PyStr)) : List (PyStr × PyStr) :=
  attempts.flatMap (callsOf [])

def deliver (state : StreamState) (calls : List (PyStr × PyStr)) : StreamState :=
  calls.foldl (fun state call => onStreamChunk state call.1 call.2) state

/-- A serialisation that `json.loads` takes, and the text it brings. -/
structure Response where
  serialised : PyStr
  members : List (List Nat × Json)
  accepted : loads serialised = some (.obj members)
  improvedText : PyStr
  brought : lookup members "improved_text" = some (.str improvedText)

/-- Attempts that deliver the serialisation from its start, and the calls made so far. -/
structure Run (response : Response) where
  attempts : List (List PyStr)
  delivered : ∀ attempt ∈ attempts, attempt.flatten <+: response.serialised
  calls : List (PyStr × PyStr)
  reached : calls <+: streamCalls attempts

/-- The words published are the first words of the text, and all of them once it has arrived. -/
def Faithful {response : Response} (run : Run response) : Prop :=
  let words := split (deliver {} run.calls).published.flatten
  words <+: split response.improvedText ∧
    ((∃ call ∈ run.calls, call.2 = response.serialised) →
      (split response.improvedText).length ≤ 500 → words = split response.improvedText)

/-- A letter of a string as the callback can read it. -/
inductive Letter where
  | plain (point : Nat) (bare : point ≠ quotationMark ∧ point ≠ backslash)
  | quote
  | newline

namespace Letter

def spelling : Letter → PyStr
  | plain point _ => [point]
  | quote => [backslash, quotationMark]
  | newline => [backslash, 0x6e]

def value : Letter → Nat
  | plain point _ => point
  | quote => quotationMark
  | newline => lineFeed

end Letter

def spell (letters : List Letter) : PyStr := letters.flatMap Letter.spelling

/-- The pattern matches nowhere before. -/
def noneBefore (rest : PyStr) : PyStr → Bool
  | [] => true
  | point :: head => (matchHere (point :: head ++ rest)).isNone && noneBefore rest head

/-- What a full text shows of the text: its first letters, up to the end of the string or up to a
cut, which may leave a lone backslash. -/
structure Sight (response : Response) (fullText : PyStr) where
  head : PyStr
  blanks : PyStr
  letters : List Letter
  stop : PyStr
  more : PyStr
  shape : fullText = head ++ (memberName ++ (blanks ++ quotationMark :: (spell letters ++ stop)))
  blank : ∀ point ∈ blanks, isSpace point = true
  first : noneBefore (memberName ++ (blanks ++ quotationMark :: (spell letters ++ stop))) head = true
  stops : stop = [] ∨ stop = [backslash] ∨ ∃ tail, stop = quotationMark :: tail
  brought : response.improvedText = letters.map Letter.value ++ more
  complete : fullText = response.serialised → more = []

/-- What a call must meet: it comes when the publishing is over, or the member's name is not there
as the callback looks for it, or what it shows is cut at no word that is still to be published. -/
def StepMeets (response : Response) (count : Nat) (fullText : PyStr) : Prop :=
  500 ≤ count ∨
  (¬gate <:+: fullText ∧
    (fullText = response.serialised → (split response.improvedText).length ≤ count)) ∨
  gate <:+: fullText ∧ ∃ sight : Sight response fullText,
    WordBreak isSpace (sight.letters.map Letter.value) sight.more ∨
      (split (sight.letters.map Letter.value)).length ≤ count

def Meets (response : Response) : StreamState → List (PyStr × PyStr) → Prop
  | _, [] => True
  | state, call :: rest =>
    StepMeets response state.wordCountPublished call.2 ∧
      Meets response (onStreamChunk state call.1 call.2) rest

variable {response : Response} {state : StreamState} {chunk fullText : PyStr}

private theorem stringPart_bare {point : Nat} (bare : point ≠ quotationMark ∧ point ≠ backslash)
    (rest : PyStr) : stringPart (point :: rest) = point :: stringPart rest := by
  cases rest with
  | nil => simp [stringPart, bare.1, bare.2]
  | cons next rest => rw [stringPart, if_neg bare.1, if_neg bare.2]

private theorem stringPart_escape {next : Nat} (dot : next ≠ lineFeed) (rest : PyStr) :
    stringPart (backslash :: next :: rest) = backslash :: next :: stringPart rest := by
  rw [stringPart, if_neg (by decide), if_pos rfl, if_neg dot]

private theorem stringPart_stop {stop : PyStr}
    (stops : stop = [] ∨ stop = [backslash] ∨ ∃ tail, stop = quotationMark :: tail) :
    stringPart stop = [] := by
  obtain rfl | rfl | ⟨tail, rfl⟩ := stops
  · rfl
  · rfl
  · cases tail with
    | nil => rfl
    | cons next rest => rw [stringPart, if_pos rfl]

private theorem stringPart_spell (letters : List Letter) {stop : PyStr}
    (stops : stop = [] ∨ stop = [backslash] ∨ ∃ tail, stop = quotationMark :: tail) :
    stringPart (spell letters ++ stop) = spell letters := by
  induction letters with
  | nil => exact stringPart_stop stops
  | cons letter rest ih =>
    have parts : spell (letter :: rest) ++ stop = letter.spelling ++ (spell rest ++ stop) := by
      rw [spell, List.flatMap_cons, List.append_assoc]
      rfl
    rw [parts]
    cases letter with
    | plain point bare => exact (stringPart_bare bare _).trans (congrArg (point :: ·) ih)
    | quote =>
      exact (stringPart_escape (by decide) _).trans (congrArg ([backslash, quotationMark] ++ ·) ih)
    | newline => exact (stringPart_escape (by decide) _).trans (congrArg ([backslash, 0x6e] ++ ·) ih)

theorem replacePair_other {first second new point : Nat} (other : point ≠ first) (rest : PyStr) :
    replacePair first second new (point :: rest) = point :: replacePair first second new rest := by
  cases rest with
  | nil => rfl
  | cons next rest => rw [replacePair, if_neg fun same => other same.1]

private theorem replacePair_apart {first second new next : Nat} (other : next ≠ second)
    (rest : PyStr) :
    replacePair first second new (first :: next :: rest) =
      first :: replacePair first second new (next :: rest) := by
  rw [replacePair, if_neg fun same => other same.2]

private theorem replacePair_hit {first second new : Nat} (rest : PyStr) :
    replacePair first second new (first :: second :: rest) =
      new :: replacePair first second new rest := by
  rw [replacePair, if_pos ⟨rfl, rfl⟩]

/-- A letter between the two replacements. -/
def Letter.half : Letter → PyStr
  | quote => [quotationMark]
  | letter => letter.spelling

private theorem replacePair_quotes (letters : List Letter) :
    replacePair backslash quotationMark quotationMark (spell letters) =
      letters.flatMap Letter.half := by
  induction letters with
  | nil => rfl
  | cons letter rest ih =>
    rw [List.flatMap_cons, ← ih]
    cases letter with
    | plain point bare => exact replacePair_other bare.2 _
    | quote => exact replacePair_hit _
    | newline =>
      exact (replacePair_apart (by decide) _).trans
        (congrArg (backslash :: ·) (replacePair_other (by decide) _))

private theorem soFar_spell (letters : List Letter) :
    soFar (spell letters) = letters.map Letter.value := by
  rw [soFar, replacePair_quotes]
  induction letters with
  | nil => rfl
  | cons letter rest ih =>
    rw [List.map_cons, ← ih]
    cases letter with
    | plain point bare => exact replacePair_other bare.2 _
    | quote => exact replacePair_other (by decide) _
    | newline => exact replacePair_hit _

private theorem search_first {rest group : PyStr} (here : matchHere rest = some group)
    {head : PyStr}
    (first : noneBefore rest head = true) : search (head ++ rest) = some group := by
  induction head with
  | nil =>
    cases rest with
    | nil => exact here
    | cons point rest => rw [List.nil_append, search, here, Option.some_or]
  | cons point head ih =>
    simp only [noneBefore, Bool.and_eq_true, Option.isNone_iff_eq_none] at first
    rw [List.cons_append, search]
    rw [List.cons_append] at first
    rw [first.1, Option.none_or, ih first.2]

private theorem matchHere_member {blanks : PyStr} (blank : ∀ point ∈ blanks, isSpace point = true)
    (value : PyStr) :
    matchHere (memberName ++ (blanks ++ quotationMark :: value)) = some (stringPart value) := by
  have solid : isSpace quotationMark = false := by decide
  have behind : (memberName ++ (blanks ++ quotationMark :: value)).dropPrefix? memberName =
      some (blanks ++ quotationMark :: value) :=
    List.dropPrefix?_eq_some_iff.mpr ⟨memberName, rfl, beq_self_eq_true _⟩
  rw [matchHere, behind]
  simp [List.dropWhile_append_of_pos blank, solid]

/-- The callback reads the letters that a full text shows. -/
theorem search_sight (sight : Sight response fullText) :
    search fullText = some (spell sight.letters) := by
  have here := matchHere_member sight.blank (spell sight.letters ++ sight.stop)
  rw [stringPart_spell sight.letters sight.stops] at here
  exact (congrArg search sight.shape).trans (search_first here sight.first)

/-- What is published so far are the first words of the text. -/
structure Inv (response : Response) (state : StreamState) : Prop where
  words : split state.published.flatten =
    (split response.improvedText).take state.wordCountPublished
  within : state.wordCountPublished ≤ (split response.improvedText).length
  ends : state.published.flatten.getLast?.all isSpace = true

private theorem inv_start : Inv response {} := ⟨rfl, Nat.zero_le _, rfl⟩

/-- What a step leaves. -/
structure Step (response : Response) (state next : StreamState) (fullText : PyStr) : Prop where
  inv : Inv response next
  grows : state.wordCountPublished ≤ next.wordCountPublished
  all : fullText = response.serialised → (split response.improvedText).length ≤ 500 →
    (split response.improvedText).length ≤ next.wordCountPublished

/-- Publishing nothing is right where nothing is left. -/
theorem step_silent (inv : Inv response state)
    (silent : onStreamChunk state chunk fullText =
      { state with tokenBuffer := state.tokenBuffer ++ chunk })
    (all : fullText = response.serialised → (split response.improvedText).length ≤ 500 →
      (split response.improvedText).length ≤ state.wordCountPublished) :
    Step response state (onStreamChunk state chunk fullText) fullText := by
  rw [silent]
  exact ⟨⟨inv.words, inv.within, inv.ends⟩, Nat.le_refl _, all⟩

/-- The words of a part that cuts no word are the first words. -/
theorem split_append {first second : PyStr} (apart : WordBreak isSpace first second) :
    split (first ++ second) = split first ++ split second := wordsBy_append apart

private theorem split_join {words : List PyStr} (each : ∀ word ∈ words, IsWord isSpace word) :
    split (join words ++ [0x20]) = words := by
  have spaced : isSpace 0x20 = true := by decide
  have joined : wordsBy isSpace (join words ++ 0x20 :: []) = _ := wordsBy_space _ [] spaced
  rw [wordsBy_nil, List.append_nil] at joined
  exact joined.trans (wordsBy_intercalate spaced each)

private theorem step_sight (inv : Inv response state) (open_ : gate <:+: fullText)
    (below : state.wordCountPublished < 500) (sight : Sight response fullText)
    (cut : WordBreak isSpace (sight.letters.map Letter.value) sight.more ∨
      (split (sight.letters.map Letter.value)).length ≤ state.wordCountPublished) :
    Step response state (onStreamChunk state chunk fullText) fullText := by
  have group := search_sight sight
  by_cases news : state.wordCountPublished < (split (sight.letters.map Letter.value)).length
  · have apart := cut.resolve_right (Nat.not_le.mpr news)
    have words : split response.improvedText =
        split (sight.letters.map Letter.value) ++ split sight.more := by
      rw [sight.brought]
      exact split_append apart
    have next : onStreamChunk state chunk fullText =
        { tokenBuffer := state.tokenBuffer ++ chunk
          published := state.published ++
            [join ((split (sight.letters.map Letter.value)).drop state.wordCountPublished) ++ [0x20]]
          wordCountPublished := (split (sight.letters.map Letter.value)).length } := by
      simp [onStreamChunk, open_, below, group, soFar_spell, news]
    have each : ∀ word ∈ (split (sight.letters.map Letter.value)).drop state.wordCountPublished,
        IsWord isSpace word := fun word member => isWord_of_mem (List.mem_of_mem_drop member)
    have published : split (state.published.flatten ++
        (join ((split (sight.letters.map Letter.value)).drop state.wordCountPublished) ++ [0x20])) =
          split (sight.letters.map Letter.value) := by
      rw [split_append (.inl inv.ends), split_join each, inv.words, words,
        List.take_append_of_le_length news.le, List.take_append_drop]
    rw [next]
    refine ⟨⟨?_, ?_, ?_⟩, news.le, fun whole _ => ?_⟩
    · rw [List.flatten_append, List.flatten_singleton, published, words, List.take_left]
    · rw [words, List.length_append]
      exact Nat.le_add_right _ _
    · rw [List.flatten_append, List.flatten_singleton, ← List.append_assoc, List.getLast?_concat]
      decide
    · rw [words, sight.complete whole]
      exact (congrArg List.length (List.append_nil _)).le
  · have silent : onStreamChunk state chunk fullText =
        { state with tokenBuffer := state.tokenBuffer ++ chunk } := by
      simp [onStreamChunk, open_, below, group, soFar_spell, news]
    refine step_silent inv silent fun whole _ => ?_
    rw [sight.brought, sight.complete whole, List.append_nil]
    exact Nat.not_lt.mp news

/-- One step keeps what is published to the first words of the text. -/
theorem step_meets (inv : Inv response state)
    (meets : StepMeets response state.wordCountPublished fullText) :
    Step response state (onStreamChunk state chunk fullText) fullText := by
  obtain over_ | ⟨shut, all⟩ | ⟨open_, sight, cut⟩ := meets
  · have silent : onStreamChunk state chunk fullText =
        { state with tokenBuffer := state.tokenBuffer ++ chunk } := by
      simp [onStreamChunk, Nat.not_lt.mpr over_]
    exact step_silent inv silent fun _ short => short.trans over_
  · have silent : onStreamChunk state chunk fullText =
        { state with tokenBuffer := state.tokenBuffer ++ chunk } := by
      simp [onStreamChunk, shut]
    exact step_silent inv silent fun whole _ => all whole
  · by_cases below : state.wordCountPublished < 500
    · exact step_sight inv open_ below sight cut
    · have silent : onStreamChunk state chunk fullText =
          { state with tokenBuffer := state.tokenBuffer ++ chunk } := by
        simp [onStreamChunk, below]
      exact step_silent inv silent fun _ short => short.trans (Nat.not_lt.mp below)

/-- What a run leaves, whichever call brought the whole text. -/
theorem deliver_meets {calls : List (PyStr × PyStr)} (inv : Inv response state)
    (meets : Meets response state calls) :
    Inv response (deliver state calls) ∧
      state.wordCountPublished ≤ (deliver state calls).wordCountPublished ∧
      ((∃ call ∈ calls, call.2 = response.serialised) →
        (split response.improvedText).length ≤ 500 →
        (split response.improvedText).length ≤ (deliver state calls).wordCountPublished) := by
  induction calls generalizing state with
  | nil => exact ⟨inv, Nat.le_refl _, fun ⟨_, member, _⟩ => nomatch member⟩
  | cons call rest ih =>
    have step : Step response state (onStreamChunk state call.1 call.2) call.2 :=
      step_meets inv meets.1
    obtain ⟨inv', grows, all⟩ := ih step.inv meets.2
    refine ⟨inv', step.grows.trans grows, ?_⟩
    rintro ⟨whole, member, same⟩ short
    obtain rfl | later := List.mem_cons.mp member
    · exact (step.all same short).trans grows
    · exact all ⟨whole, later, same⟩ short

/-- In a run of which each step meets the condition, the words published are the first words of the
text, and all of them once it has arrived. -/
theorem faithful_of_meets (response : Response) (run : Run response)
    (meets : Meets response {} run.calls) : Faithful run := by
  obtain ⟨inv, -, all⟩ := deliver_meets inv_start meets
  refine ⟨by rw [inv.words]; exact List.take_prefix _ _, fun arrived short => ?_⟩
  rw [inv.words, List.take_of_length_le (all arrived short)]

def greetingStart : PyStr := pyText "\x7b\"improved_text\": \"Hello"

def greetingEnd : PyStr := pyText " world\"\x7d"

def greetingMembers : List (List Nat × Json) :=
  [(pyText "improved_text", .str (pyText "Hello world"))]

private theorem greeting_dumped :
    dumps.text (.obj greetingMembers) = greetingStart ++ greetingEnd := by
  decide +kernel

def greeting : Response where
  serialised := greetingStart ++ greetingEnd
  members := greetingMembers
  accepted := greeting_dumped ▸ loads_text dumps (by decide)
  improvedText := pyText "Hello world"
  brought := rfl

/-- A stream that breaks off behind a word, and is tried again. -/
def retriedGreeting : Run greeting where
  attempts := [[greetingStart], [greetingStart ++ greetingEnd]]
  delivered := by decide
  calls := streamCalls [[greetingStart], [greetingStart ++ greetingEnd]]
  reached := List.prefix_refl _

/-- The same text, cut in a word. -/
def cutGreeting : Run greeting where
  attempts := [[greetingStart.dropLast, pyText "o" ++ greetingEnd]]
  delivered := by decide
  calls := streamCalls [[greetingStart.dropLast, pyText "o" ++ greetingEnd]]
  reached := List.prefix_refl _

def bareLetters (text : PyStr)
    (bare : ∀ point ∈ text, point ≠ quotationMark ∧ point ≠ backslash) : List Letter :=
  text.pmap Letter.plain bare

def startSight : Sight greeting greetingStart where
  head := [0x7b]
  blanks := [0x20]
  letters := bareLetters (pyText "Hello") (by decide)
  stop := []
  more := pyText " world"
  shape := by decide
  blank := by decide
  first := by decide
  stops := .inl rfl
  brought := by decide
  complete whole := absurd whole (by decide)

def wholeSight : Sight greeting (greetingStart ++ greetingEnd) where
  head := [0x7b]
  blanks := [0x20]
  letters := bareLetters (pyText "Hello world") (by decide)
  stop := quotationMark :: [0x7d]
  more := []
  shape := by decide
  blank := by decide
  first := by decide
  stops := .inr (.inr ⟨_, rfl⟩)
  brought := by decide
  complete _ := rfl

theorem retriedGreeting_faithful : Faithful retriedGreeting := by
  refine faithful_of_meets greeting retriedGreeting ⟨?_, ?_, trivial⟩
  · exact .inr (.inr ⟨by decide, startSight, .inl (.inr (by decide))⟩)
  · exact .inr (.inr ⟨by decide, wholeSight, .inl (.inr rfl)⟩)

/-- The first half of a word is published, and then nothing of that word. -/
theorem cutGreeting_unfaithful : ¬Faithful cutGreeting := by
  intro faithful
  have cut : ¬split (deliver {} cutGreeting.calls).published.flatten <+:
      split (pyText "Hello world") := by decide +kernel
  exact cut faithful.1

end BrainMate.WriteRight.TokenStream
