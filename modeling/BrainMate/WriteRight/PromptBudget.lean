import BrainMate.WriteRight.ParserTotality
import BrainMate.WriteRight.PromptBuilder

namespace BrainMate.WriteRight.Prompt

open Text Metering ModelResponse

/-- The estimate of a message that has one. -/
def tokens (message : Message) : Nat := (estimateTokens message.content).toOption.getD 0

/-- A message the loop does not stumble over. -/
def Estimated (message : Message) : Prop := estimateTokens message.content = .ok (tokens message)

/-- The messages between the examples and the request. -/
def keptHistory (messages : List Message) : List Message := (messages.drop 3).dropLast

private theorem tokens_text {role : Speaker} {text : PyStr} :
    tokens ⟨role, .str text⟩ = estimateText text := by
  rw [tokens, estimateTokens]
  rfl

private theorem total_prompt (system content : PyStr) (selected : FewShot) (kept : List Message) :
    total tokens ([⟨.system, .str system⟩] ++
        [⟨.user, .str selected.input⟩, ⟨.assistant, .str selected.output⟩] ++ kept ++
        [⟨.user, .str content⟩]) =
      estimateText system + (estimateText selected.input + estimateText selected.output) +
        total tokens kept + estimateText content := by
  simp only [total_append, total_cons, total_nil, tokens_text, Nat.add_zero]

theorem estimated_text {role : Speaker} {text : PyStr} : Estimated ⟨role, .str text⟩ := rfl

private theorem trimNewest_ok {budget : Int} {newest kept : List Message}
    (trimmed : trimNewest budget newest = .ok kept) :
    (∀ message ∈ newest, Estimated message) ∧ kept = pickFitting tokens budget newest := by
  induction newest generalizing budget kept with
  | nil => exact ⟨fun _ member => absurd member List.not_mem_nil, (Except.ok.inj trimmed).symm⟩
  | cons message older ih =>
    rw [trimNewest] at trimmed
    cases estimate : estimateTokens message.content with
    | error failure => simp [estimate, bind, Except.bind] at trimmed
    | ok messageTokens =>
      have size : tokens message = messageTokens := by rw [tokens, estimate]; rfl
      have estimated : Estimated message := by rw [Estimated, size, estimate]
      rw [List.forall_mem_cons, pickFitting, size]
      simp only [estimate, bind, Except.bind] at trimmed
      split at trimmed
      · rename_i fits
        rw [if_pos fits]
        cases rest : trimNewest (budget - messageTokens) older with
        | error failure => simp [rest] at trimmed
        | ok others =>
          obtain ⟨all, same⟩ := ih rest
          rw [rest] at trimmed
          exact ⟨⟨estimated, all⟩, same ▸ (Except.ok.inj trimmed).symm⟩
      · rename_i large
        rw [if_neg large]
        obtain ⟨all, same⟩ := ih trimmed
        exact ⟨⟨estimated, all⟩, same⟩

private theorem trimNewest_of_estimated {budget : Int} {newest : List Message}
    (all : ∀ message ∈ newest, Estimated message) :
    trimNewest budget newest = .ok (pickFitting tokens budget newest) := by
  induction newest generalizing budget with
  | nil => rfl
  | cons message older ih =>
    rw [List.forall_mem_cons] at all
    rw [trimNewest, all.1, pickFitting]
    simp only [bind, Except.bind]
    split
    · rw [ih all.2]
      rfl
    · exact ih all.2

private theorem trimHistory_ok {budget : Int} {history kept : List Message}
    (trimmed : trimHistory budget history = .ok kept) :
    (∀ message ∈ history, Estimated message) ∧ kept = keepFitting tokens budget history := by
  rw [trimHistory] at trimmed
  cases loop : trimNewest budget history.reverse with
  | error failure => simp [loop, Except.map] at trimmed
  | ok newest =>
    rw [loop] at trimmed
    obtain ⟨all, rfl⟩ := trimNewest_ok loop
    exact ⟨fun message member => all message (List.mem_reverse.mpr member),
      (Except.ok.inj trimmed).symm⟩

private theorem trimHistory_of_estimated {budget : Int} {history : List Message}
    (all : ∀ message ∈ history, Estimated message) :
    trimHistory budget history = .ok (keepFitting tokens budget history) := by
  rw [trimHistory, trimNewest_of_estimated fun message member => all message (List.mem_reverse.mp member)]
  rfl

variable {python : Interpreter} {choice : Bool} {arguments : Arguments}

/-- The parts of a prompt. -/
structure Built (python : Interpreter) (choice : Bool) (arguments : Arguments)
    (history : List Message) (content : PyStr) (messages : List Message) (detected : Bool) : Prop where
  formatted : formatHistory python arguments.history arguments.maxHistory = .ok history
  request : userContent python history (sanitizedRequest arguments).1 = .ok content
  estimated : ∀ message ∈ history, Estimated message
  assembled : messages =
    [⟨.system, .str (systemPrompt python arguments (sanitizedRequest arguments).1)⟩] ++
      fewShotMessages arguments.mode choice ++
      keepFitting tokens (remainingBudget python arguments choice content) history ++
      [⟨.user, .str content⟩]
  detected_eq : detected = (sanitizedRequest arguments).2

theorem buildMessages_ok_iff {messages : List Message} {detected : Bool} :
    buildMessages python choice arguments = .ok (messages, detected) ↔
      ∃ history content, Built python choice arguments history content messages detected := by
  constructor
  · intro built
    rw [buildMessages] at built
    cases formatted : formatHistory python arguments.history arguments.maxHistory with
    | error failure => simp [formatted, bind, Except.bind] at built
    | ok history =>
      cases request : userContent python history (sanitizedRequest arguments).1 with
      | error failure => simp [formatted, request, bind, Except.bind] at built
      | ok content =>
        cases trimmed : trimHistory (remainingBudget python arguments choice content) history with
        | error failure => simp [formatted, request, trimmed, bind, Except.bind] at built
        | ok kept =>
          simp only [formatted, request, trimmed, bind, Except.bind, pure, Except.pure] at built
          obtain ⟨rfl, rfl⟩ := Prod.mk.inj (Except.ok.inj built)
          obtain ⟨estimated, rfl⟩ := trimHistory_ok trimmed
          exact ⟨history, content, formatted, request, estimated, rfl, rfl⟩
  · rintro ⟨history, content, built⟩
    rw [buildMessages]
    simp only [built.formatted, built.request, trimHistory_of_estimated built.estimated, bind,
      Except.bind, pure, Except.pure, built.assembled, built.detected_eq]

namespace Built

variable {history messages : List Message} {content : PyStr} {detected : Bool}

theorem kept (built : Built python choice arguments history content messages detected) :
    keptHistory messages =
      keepFitting tokens (remainingBudget python arguments choice content) history := by
  rw [keptHistory, built.assembled]
  exact List.dropLast_concat

private theorem all_estimated
    (built : Built python choice arguments history content messages detected) :
    ∀ message ∈ messages, Estimated message := by
  rw [built.assembled]
  simp only [fewShotMessages, List.cons_append, List.nil_append, List.forall_mem_cons, List.forall_mem_append, estimated_text, true_and]
  exact ⟨fun message member => built.estimated message (keepFitting_subset message member),
    fun message member => absurd member List.not_mem_nil⟩

/-- The messages that are no history cost what the budget has been reduced by. -/
theorem total_eq (built : Built python choice arguments history content messages detected) :
    (total tokens messages : Int) = arguments.maxInputTokens - 200 -
      remainingBudget python arguments choice content + total tokens (keptHistory messages) := by
  rw [built.kept, built.assembled, fewShotMessages, total_prompt, remainingBudget]
  push_cast
  omega

end Built

/-- The history that is kept is the longest part up to the newest message that fits, just where no
message fits that is older than one that does not. -/
theorem keptHistory_longest_iff {history messages : List Message} {content : PyStr}
    {detected : Bool} (built : buildMessages python choice arguments = .ok (messages, detected))
    (formatted : formatHistory python arguments.history arguments.maxHistory = .ok history)
    (request : userContent python history (sanitizedRequest arguments).1 = .ok content) :
    LongestSuffix tokens (remainingBudget python arguments choice content) history
        (keptHistory messages) ↔
      NoneFitsEarlier tokens (remainingBudget python arguments choice content) history := by
  obtain ⟨history', content', parts⟩ := buildMessages_ok_iff.mp built
  obtain rfl : history' = history := Except.ok.inj (parts.formatted.symm.trans formatted)
  obtain rfl : content' = content := Except.ok.inj (parts.request.symm.trans request)
  rw [parts.kept]
  exact keepFitting_longest_iff

/-- With some of the history a prompt costs no more than the limit without its margin, and without
any of it no message would have fitted. -/
theorem buildMessages_within_budget {history messages : List Message} {detected : Bool}
    (built : buildMessages python choice arguments = .ok (messages, detected))
    (formatted : formatHistory python arguments.history arguments.maxHistory = .ok history) :
    (∀ message ∈ messages, Estimated message) ∧
      (keptHistory messages ≠ [] → (total tokens messages : Int) ≤ arguments.maxInputTokens - 200) ∧
      (keptHistory messages = [] → ∀ message ∈ history,
        arguments.maxInputTokens - 200 < (total tokens messages : Int) + tokens message) := by
  obtain ⟨history', content, parts⟩ := buildMessages_ok_iff.mp built
  obtain rfl : history' = history := Except.ok.inj (parts.formatted.symm.trans formatted)
  have cost := parts.total_eq
  refine ⟨parts.all_estimated, fun kept => ?_, fun none message member => ?_⟩
  · have within : (total tokens (keptHistory messages) : Int) ≤
        remainingBudget python arguments choice content := by
      rw [parts.kept] at kept ⊢
      exact total_keepFitting_le kept
    omega
  · rw [none, total_nil] at cost
    rw [parts.kept, keepFitting_eq_nil_iff] at none
    have := none message member
    omega

/-- An interpreter that knows the letters of ASCII. -/
def asciiInterpreter : Interpreter where
  toPython := ModelResponse.samplePython
  refuses _ := false
  isWord point := (0x61 ≤ point && point ≤ 0x7a) || (0x41 ≤ point && point ≤ 0x5a)
  render _ := []

/-- A text a user sends, and what the prompt asks for. -/
structure Request where
  text : PyStr
  asked : PyStr
  detected : Bool
  short : text.length ≤ 800
  printable : (text.filter fun point => !isControl point) = text
  filtered : detectInjection (ModelResponse.strip text) = (asked, detected)

/-- A request with a history, at a limit that leaves some tokens for the history. -/
def chatWith (request : Request) (left : Nat) (history : List HistoryRow) : Arguments :=
  let chat : Arguments := {
    userText := request.text
    tone := pyText "Concise"
    mode := pyText "paragraph"
    outputLanguage := pyText "en"
    history }
  let selected := selectedExample chat.mode false
  { chat with
    maxInputTokens := left + 200 + estimateText (systemPrompt asciiInterpreter chat request.asked) +
      estimateText request.asked + (estimateText selected.input + estimateText selected.output) }

theorem chatWith_request (request : Request) (left : Nat) (history : List HistoryRow) :
    sanitizedRequest (chatWith request left history) = (request.asked, request.detected) := by
  have short : (request.text.length : Int) ≤ (chatWith request left history).maxInputTokens * 4 := by
    have := request.short
    simp only [chatWith]
    omega
  have whole : sliceTo ((chatWith request left history).maxInputTokens * 4)
      (request.text.filter fun point => !isControl point) = request.text := by
    rw [request.printable, sliceTo, if_pos (by omega), List.take_of_length_le (by omega)]
  rw [sanitizedRequest, sanitizeText]
  exact (congrArg (fun text => detectInjection (ModelResponse.strip text)) whole).trans
    request.filtered

theorem chatWith_budget (request : Request) (left : Nat) (history : List HistoryRow) :
    remainingBudget asciiInterpreter (chatWith request left history) false request.asked = left := by
  rw [remainingBudget, chatWith_request]
  simp only [chatWith, systemPrompt]
  omega

theorem chatWith_content {request : Request} {left : Nat} {rows : List HistoryRow}
    {history : List Message} (unanswered : prevImproved asciiInterpreter history = none) :
    userContent asciiInterpreter history (sanitizedRequest (chatWith request left rows)).1 =
      .ok request.asked := by
  rw [chatWith_request, userContent, unanswered, ite_self]

/-- The prompt of a chat in which nothing has been answered yet. -/
def promptWith (request : Request) (left : Nat) (rows : List HistoryRow) (kept : List Message) :
    List Message :=
  [⟨.system, .str (systemPrompt asciiInterpreter (chatWith request left rows) request.asked)⟩] ++
    fewShotMessages (pyText "paragraph") false ++ kept ++ [⟨.user, .str request.asked⟩]

theorem chatWith_built {request : Request} {left : Nat} {rows : List HistoryRow}
    {history kept : List Message} (formatted : formatHistory asciiInterpreter rows 10 = .ok history)
    (unanswered : prevImproved asciiInterpreter history = none)
    (estimated : ∀ message ∈ history, Estimated message)
    (fits : keepFitting tokens left history = kept) :
    buildMessages asciiInterpreter false (chatWith request left rows) =
      .ok (promptWith request left rows kept, request.detected) := by
  rw [buildMessages_ok_iff]
  refine ⟨history, request.asked, formatted, chatWith_content unanswered, estimated, ?_,
    by rw [chatWith_request]⟩
  rw [chatWith_budget, chatWith_request, fits]
  rfl

def improveRequest : Request where
  text := pyText "Fix it"
  asked := pyText "Fix it"
  detected := false
  short := by decide
  printable := by decide
  filtered := by decide

def greeting : HistoryRow := { content := pyText "Hello there." }

def longQuestion : HistoryRow := { content := pyText "Could you make it warmer?" }

def HistoryRow.message (row : HistoryRow) : Message := ⟨.user, .str row.content⟩

/-- With five tokens for the history the newer message does not fit, and the older one does. -/
def crowdedChat : Arguments := chatWith improveRequest 5 [greeting, longQuestion]

def crowdedPrompt : List Message :=
  promptWith improveRequest 5 [greeting, longQuestion] [greeting.message]

theorem crowdedChat_formatted :
    formatHistory asciiInterpreter crowdedChat.history crowdedChat.maxHistory =
      .ok [greeting.message, longQuestion.message] := rfl

theorem crowdedChat_built :
    buildMessages asciiInterpreter false crowdedChat = .ok (crowdedPrompt, false) :=
  chatWith_built crowdedChat_formatted rfl (by simp [HistoryRow.message, estimated_text]) rfl

theorem keptHistory_gap_seen :
    ¬ LongestSuffix tokens
      (remainingBudget asciiInterpreter crowdedChat false improveRequest.asked)
      [greeting.message, longQuestion.message] (keptHistory crowdedPrompt) := by
  rw [keptHistory_longest_iff crowdedChat_built crowdedChat_formatted (chatWith_content rfl),
    crowdedChat, chatWith_budget]
  intro none
  have large : ((5 : Nat) : Int) < total tokens [] + tokens longQuestion.message := by decide
  have larger := none [greeting.message] longQuestion.message [] rfl (by decide) large
    greeting.message (List.mem_singleton_self _)
  exact absurd larger (by decide)

/-- The message that was sent last is left out, and the one before it is kept. -/
theorem keptHistory_with_gap :
    buildMessages asciiInterpreter false crowdedChat = .ok (crowdedPrompt, false) ∧
      formatHistory asciiInterpreter crowdedChat.history crowdedChat.maxHistory =
        .ok [greeting.message, longQuestion.message] ∧
      ¬ LongestSuffix tokens
        (remainingBudget asciiInterpreter crowdedChat false improveRequest.asked)
        [greeting.message, longQuestion.message] (keptHistory crowdedPrompt) := by
  refine ⟨crowdedChat_built, crowdedChat_formatted, fun longest => ?_⟩
  have inside : [greeting.message] <:+ [greeting.message, longQuestion.message] := longest.isSuffix
  obtain ⟨front, split⟩ := inside
  have last := congrArg List.getLast? split
  rw [List.getLast?_append] at last
  simp [greeting, longQuestion, HistoryRow.message] at last
  revert last
  decide

theorem crowdedPrompt_within_budget :
    (total tokens crowdedPrompt : Int) ≤ crowdedChat.maxInputTokens - 200 :=
  (buildMessages_within_budget crowdedChat_built crowdedChat_formatted).2.1 (List.cons_ne_nil _ _)

end BrainMate.WriteRight.Prompt
