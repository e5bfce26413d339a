import BrainMate.Text.Utf16
import BrainMate.WriteRight.World

/-! POST /api/writeright/refine, and under which key it keeps its replies. -/

namespace BrainMate.WriteRight.Refine

open Text

/-- The fields of a body; what is no string is as good as missing. -/
structure RefineBody where
  text : Option (List UInt16) := none
  selection : Option (List UInt16) := none
  instruction : Option (List UInt16) := none
  chatId : Option (List UInt16) := none
  fullText : Option (List UInt16) := none
  selectedText : Option (List UInt16) := none
  prompt : Option (List UInt16) := none
  mode : Option (List UInt16) := none
  tone : Option (List UInt16) := none
  deriving DecidableEq, Repr

/-- What a prompt is made of. -/
structure RefineInput where
  sourceText : List UInt16
  selected : List UInt16
  userInstruction : List UInt16
  mode : List UInt16
  tone : List UInt16
  deriving DecidableEq, Repr

def RefineBody.input (body : RefineBody) : RefineInput where
  sourceText := (body.text.or body.fullText).getD []
  selected := (body.selection.or body.selectedText).getD []
  userInstruction := (body.instruction.or body.prompt).getD []
  mode := body.mode.getD (units "paragraph")
  tone := body.tone.getD (units "Professional")

def RefineInput.complete (input : RefineInput) : Bool :=
  !input.sourceText.isEmpty && !input.selected.isEmpty && !input.userInstruction.isEmpty

def RefineInput.systemPrompt (input : RefineInput) : List UInt16 :=
  units ("You are a precise writing assistant. Your task is to rewrite a SPECIFIC segment of a " ++
    "larger text based on a user's instruction.\n            \nCONTEXT:\nFull text: \"") ++
  input.sourceText ++
  units "\"\nSegment to rewrite: \"" ++
  input.selected ++
  units "\"\nWriting Mode: " ++
  input.mode ++
  units "\nActive Tone: " ++
  input.tone ++
  units "\n\nUSER INSTRUCTION:\n\"" ++
  input.userInstruction ++
  units ("\"\n\nRULES:\n" ++
    "1. Return JSON with alternatives (3 strings) and explanation (one short sentence).\n" ++
    "2. Ensure the rewritten segment fits perfectly back into the original text's grammar and " ++
    "flow.\n" ++
    "3. Preserve the core meaning unless the instruction explicitly asks to change it.\n" ++
    "4. Keep the length similar unless the instruction asks otherwise.")

/-- What `callGemini` returns, as far as it has the types the route asks for. -/
structure GeminiAnswer where
  alternatives : Option (List (Option (List UInt16)))
  explanation : Option (List UInt16)
  deriving DecidableEq, Repr

structure RefineResult where
  alternatives : List (List UInt16)
  explanation : List UInt16
  refinedText : List UInt16
  deriving DecidableEq, Repr

structure RefinePlatform where
  /-- The hex digest of the bytes of a text. -/
  sha256 : List UInt16 → String
  /-- The answer to a prompt, or the status of the error. -/
  callGemini : List UInt16 → Except Nat GeminiAnswer

structure RefineRequest where
  userId : Option String
  /-- A body that is JSON. -/
  body : Option RefineBody
  deriving DecidableEq, Repr

structure RefineWorld where
  clock : Nat
  circuitOpen : Bool
  /-- `writeright:refine:ratelimit:{userId}`. -/
  ratelimit : String → Option (Stored Nat)
  /-- `writeright:refine:{sha256}`. -/
  cache : String → Option (Stored RefineResult)
  /-- The chats a user has that are not deleted. -/
  owns : String → List UInt16 → Bool

variable (platform : RefinePlatform)

/-- The digest in `cacheKey`. -/
def cacheKey (input : RefineInput) : String :=
  platform.sha256 (input.selected ++ units ":" ++ input.userInstruction)

/-- INCR, and EXPIRE of a counter that is new. -/
def countRequest (world : RefineWorld) (userId : String) : Nat × RefineWorld :=
  let counter := (world.ratelimit userId).filter fun stored => stored.alive world.clock
  let counted : Stored Nat :=
    match counter with
    | some stored => { stored with value := stored.value + 1 }
    | none => ⟨1, some (world.clock + 60 * 1000)⟩
  (counted.value, { world with ratelimit := Function.update world.ratelimit userId (some counted) })

/-- `checkRefineRateLimit`. -/
def checkRefineRateLimit (world : RefineWorld) (userId : String) : Bool × RefineWorld :=
  if world.circuitOpen then (true, world)
  else
    let (count, world) := countRequest world userId
    (count ≤ 20, world)

/-- What comes before the cache: the input of a request that is accepted, or a status. -/
def accept (world : RefineWorld) (request : RefineRequest) : Except Nat RefineInput × RefineWorld :=
  match request.userId with
  | none => (.error 401, world)
  | some userId =>
    match checkRefineRateLimit world userId with
    | (false, world) => (.error 429, world)
    | (true, world) =>
      match request.body with
      | none => (.error 400, world)
      | some body =>
        if body.input.complete then
          match body.chatId with
          | some chatId =>
            if world.owns userId chatId then (.ok body.input, world) else (.error 404, world)
          | none => (.ok body.input, world)
        else (.error 400, world)

/-- The cached reply of an input. -/
def RefineWorld.cached? (world : RefineWorld) (key : String) : Option RefineResult :=
  if world.circuitOpen then none
  else ((world.cache key).filter fun stored => stored.alive world.clock).map Stored.value

/-- The reply that is made of an answer. -/
def refineResult (input : RefineInput) (parsed : GeminiAnswer) : RefineResult :=
  let alternatives :=
    match parsed.alternatives with
    | some items => (items.filterMap id).take 3
    | none => [input.selected]
  { alternatives
    explanation := parsed.explanation.getD (units "Suggested replacement.")
    refinedText := alternatives.head?.getD input.selected }

def RefineWorld.setCache (world : RefineWorld) (key : String) (result : RefineResult) : RefineWorld :=
  if world.circuitOpen then world
  else
    { world with
      cache := Function.update world.cache key (some ⟨result, some (world.clock + 600 * 1000)⟩) }

def post (world : RefineWorld) (request : RefineRequest) : Except Nat RefineResult × RefineWorld :=
  match accept world request with
  | (.error status, world) => (.error status, world)
  | (.ok input, world) =>
    let key := cacheKey platform input
    match world.cached? key with
    | some cached => (.ok cached, world)
    | none =>
      match platform.callGemini input.systemPrompt with
      | .error status => (.error status, world)
      | .ok parsed =>
        let result := refineResult input parsed
        (.ok result, world.setCache key result)

variable {platform} {world : RefineWorld} {request other : RefineRequest}
  {input otherInput : RefineInput}

/-- The route goes on with this input as soon as there is a world that admits the request. -/
def Accepted (request : RefineRequest) (input : RefineInput) : Prop :=
  ∃ world, (accept world request).1 = .ok input

private theorem accept_complete (accepted : (accept world request).1 = .ok input) :
    ∃ userId, request.userId = some userId ∧ input.complete = true := by
  rw [accept] at accepted
  split at accepted
  · cases accepted
  · rename_i userId known
    refine ⟨userId, known, ?_⟩
    split at accepted
    · cases accepted
    · split at accepted
      · cases accepted
      · rename_i body given
        split at accepted
        · rename_i complete
          split at accepted
          · split at accepted
            · exact Except.ok.inj accepted ▸ complete
            · cases accepted
          · exact Except.ok.inj accepted ▸ complete
        · cases accepted

/-- The checks before the cache leave it, the clock and the breaker as they are. -/
theorem accept_cached (key : String) :
    (accept world request).2.cached? key = world.cached? key ∧
      (accept world request).2.circuitOpen = world.circuitOpen := by
  have checked (userId : String) :
      (checkRefineRateLimit world userId).2.cached? key = world.cached? key ∧
        (checkRefineRateLimit world userId).2.circuitOpen = world.circuitOpen := by
    rw [checkRefineRateLimit]
    split
    · exact ⟨rfl, rfl⟩
    · exact ⟨rfl, rfl⟩
  rw [accept]
  split
  · exact ⟨rfl, rfl⟩
  · rename_i userId known
    have same := checked userId
    split
    · rename_i refused
      rwa [refused] at same
    · rename_i allowed
      rw [allowed] at same
      split
      · exact same
      · split
        · split
          · split
            · exact same
            · exact same
          · exact same
        · exact same

private theorem cached?_setCache {key : String} {result : RefineResult}
    (closed : world.circuitOpen = false) :
    (world.setCache key result).cached? key = some result := by
  have alive : world.clock < world.clock + 600 * 1000 := by omega
  simp [RefineWorld.setCache, RefineWorld.cached?, closed, Stored.alive, alive]

/-- Whatever is asked under a key next is answered with the reply that was computed first. -/
theorem post_after_post {parsed : GeminiAnswer} (closed : world.circuitOpen = false)
    (fresh : world.cached? (cacheKey platform otherInput) = none)
    (first : (accept world other).1 = .ok otherInput)
    (answered : platform.callGemini otherInput.systemPrompt = .ok parsed)
    (second : (accept (post platform world other).2 request).1 = .ok input)
    (same : cacheKey platform otherInput = cacheKey platform input) :
    (post platform (post platform world other).2 request).1 = .ok (refineResult otherInput parsed) := by
  obtain ⟨cached, closed_then⟩ :=
    @accept_cached world other (cacheKey platform otherInput)
  have kept : (post platform world other).2 =
      (accept world other).2.setCache (cacheKey platform otherInput)
        (refineResult otherInput parsed) := by
    rw [post]
    split
    · rename_i refused
      rw [refused] at first
      cases first
    · rename_i input' after admitted
      rw [admitted] at first cached
      obtain rfl : input' = otherInput := Except.ok.inj first
      rw [fresh] at cached
      simp only [cached, answered, admitted]
  have there : (post platform world other).2.cached? (cacheKey platform input) =
      some (refineResult otherInput parsed) := by
    rw [kept, ← same]
    exact cached?_setCache (closed_then.trans closed)
  have still := (@accept_cached (post platform world other).2 request (cacheKey platform input)).1
  rw [there] at still
  rw [post]
  split
  · rename_i refused
    rw [refused] at second
    cases second
  · rename_i input' after admitted
    rw [admitted] at second still
    obtain rfl : input' = input := Except.ok.inj second
    simp only [still]

private theorem systemPrompt_length (input : RefineInput) (longer : List UInt16) :
    ({ input with sourceText := input.sourceText ++ longer } : RefineInput).systemPrompt.length =
      input.systemPrompt.length + longer.length := by
  simp only [RefineInput.systemPrompt, List.length_append]
  omega

/-- Under the key of any request another user can ask about another document, with another prompt,
and when that is answered first, the request gets the same reply. -/
theorem cacheKey_shared (accepted : Accepted request input) :
    ∃ other otherInput, Accepted other otherInput ∧ other.userId ≠ request.userId ∧
      cacheKey platform otherInput = cacheKey platform input ∧
      otherInput.sourceText ≠ input.sourceText ∧
      otherInput.systemPrompt ≠ input.systemPrompt ∧
      ∀ world parsed, world.circuitOpen = false →
        world.cached? (cacheKey platform otherInput) = none →
        (accept world other).1 = .ok otherInput →
        platform.callGemini otherInput.systemPrompt = .ok parsed →
        (accept (post platform world other).2 request).1 = .ok input →
        (post platform (post platform world other).2 request).1 =
          .ok (refineResult otherInput parsed) := by
  obtain ⟨before, admitted⟩ := accepted
  obtain ⟨userId, known, complete⟩ := accept_complete admitted
  obtain ⟨otherUser, differs⟩ : ∃ otherUser : String, otherUser ≠ userId := by
    by_cases same : userId = "user"
    · exact ⟨"", same ▸ by decide⟩
    · exact ⟨"user", Ne.symm same⟩
  have dot : (units ".").length = 1 := by decide
  let longer : RefineInput := { input with sourceText := input.sourceText ++ units "." }
  have longer_complete : longer.complete = true := by
    simp only [RefineInput.complete, Bool.and_eq_true, Bool.not_eq_true', longer] at complete ⊢
    refine ⟨⟨?_, complete.1.2⟩, complete.2⟩
    rw [List.isEmpty_eq_false_iff, ← List.length_pos_iff, List.length_append]
    omega
  let other : RefineRequest := ⟨some otherUser, some {
    text := some longer.sourceText
    selection := some longer.selected
    instruction := some longer.userInstruction
    mode := some longer.mode
    tone := some longer.tone }⟩
  have other_accepted : Accepted other longer := by
    refine ⟨⟨0, true, fun _ => none, fun _ => none, fun _ _ => false⟩, ?_⟩
    simp [accept, other, checkRefineRateLimit, RefineBody.input, longer_complete]
  refine ⟨other, longer, other_accepted, ?_, rfl, ?_, ?_, ?_⟩
  · rw [known]
    exact fun same => differs (Option.some.inj same)
  · intro same
    have := congrArg List.length same
    simp only [longer, List.length_append] at this
    omega
  · intro same
    have := congrArg List.length same
    rw [systemPrompt_length] at this
    omega
  · intro world parsed closed fresh first answered second
    exact post_after_post closed fresh first answered second rfl

def samplePlatform : RefinePlatform where
  sha256 text :=
    if text = units "thanks:Make it formal" then
      "34c27a4090bd5918c610e9b313712ea0719a7fbcca9429e33405eaf2ac362435"
    else ""
  callGemini prompt := .ok ⟨some [some prompt], none⟩

def emptyWorld : RefineWorld := ⟨0, false, fun _ => none, fun _ => none, fun _ _ => false⟩

/-- A user who asks to have the thanks in a document made formal. -/
def thanksRequest (userId : String) (document : String) : RefineRequest where
  userId := some userId
  body := some {
    text := some (units document)
    selection := some (units "thanks")
    instruction := some (units "Make it formal") }

def thanksInput (document : String) : RefineInput where
  sourceText := units document
  selected := units "thanks"
  userInstruction := units "Make it formal"
  mode := units "paragraph"
  tone := units "Professional"

/-- Two users ask the same of two documents, under one key, and with two prompts. -/
theorem thanks_share_key :
    Accepted (thanksRequest "ann" "ok, thanks") (thanksInput "ok, thanks") ∧
      Accepted (thanksRequest "bob" "No, thanks!") (thanksInput "No, thanks!") ∧
      cacheKey samplePlatform (thanksInput "ok, thanks") =
        cacheKey samplePlatform (thanksInput "No, thanks!") ∧
      (thanksInput "ok, thanks").sourceText ≠ (thanksInput "No, thanks!").sourceText ∧
      (thanksInput "ok, thanks").systemPrompt ≠ (thanksInput "No, thanks!").systemPrompt := by
  refine ⟨⟨emptyWorld, rfl⟩, ⟨emptyWorld, rfl⟩, rfl, by decide, fun same => ?_⟩
  have lengths := congrArg List.length same
  simp only [RefineInput.systemPrompt, thanksInput, List.length_append] at lengths
  have documents : (units "ok, thanks").length ≠ (units "No, thanks!").length := by decide
  omega

theorem thanks_shared :
    ∃ other otherInput, Accepted other otherInput ∧ other.userId ≠ some "ann" ∧
      cacheKey samplePlatform otherInput = cacheKey samplePlatform (thanksInput "ok, thanks") ∧
      otherInput.systemPrompt ≠ (thanksInput "ok, thanks").systemPrompt := by
  have accepted : Accepted (thanksRequest "ann" "ok, thanks") (thanksInput "ok, thanks") :=
    ⟨emptyWorld, rfl⟩
  obtain ⟨other, otherInput, admitted, elsewhere, same, _, differs, _⟩ :=
    @cacheKey_shared samplePlatform _ _ accepted
  exact ⟨other, otherInput, admitted, elsewhere, same, differs⟩

end BrainMate.WriteRight.Refine
