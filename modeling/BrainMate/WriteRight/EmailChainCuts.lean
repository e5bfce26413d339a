import BrainMate.WriteRight.EmailChain

namespace BrainMate.WriteRight.EmailChain

open Text

/-- A text of the form the prompt asks for. -/
structure ModelText where
  body : Text
  advice : Text
  bodyFree : ¬emailBody.text <:+: body ∧ ¬strategicAdvice.text <:+: body
  adviceFree : ¬emailBody.text <:+: advice ∧ ¬strategicAdvice.text <:+: advice

def ModelText.text (model : ModelText) : Text :=
  emailBody.text ++ (model.body ++ (strategicAdvice.text ++ model.advice))

/-- The trend that the value of a tone trend names; one name contains another. -/
def namedTrend (value : Text) : ToneTrend :=
  if includes value (text "de-escalating") then .deEscalating
  else if includes value (text "escalating") then .escalating
  else .neutral

/-- What the four labelled lines of the model's advice say. -/
def ModelText.named (model : ModelText) (platform : Platform) : Advice :=
  platform.adviceOf namedTrend model.advice

/-- The tokens make up the body, and the advice is the one that is named. -/
def Faithful (platform : Platform) (model : ModelText) (events : List StreamEvent) : Prop :=
  ∃ deltas : List Text, deltas.flatten = model.body ∧
    events = deltas.map .token ++ [.advice (model.named platform), .done]

variable {platform : Platform} {model : ModelText} {front back : Text}

private theorem marks_differ {first second : Text} :
    emailBody.text ++ first ≠ strategicAdvice.text ++ second := by
  intro same
  have seconds : (some 0x45 : Option Nat) = some 0x53 := congrArg (fun points => points[1]?) same
  exact absurd seconds (by decide)

private theorem emailBody_only (parts : front ++ (emailBody.text ++ back) = model.text) :
    front = [] ∧ back = model.body ++ (strategicAdvice.text ++ model.advice) := by
  refine Marker.only_at_start ?_ parts
  rintro ⟨before, behind, found⟩
  rw [List.append_assoc] at found
  obtain inBody | ⟨between, -, found⟩ := Marker.found_before found
  · exact model.bodyFree.1 inBody
  · obtain rfl | ⟨between, -, found⟩ := Marker.found_behind found
    · exact marks_differ found
    · exact model.adviceFree.1 ⟨between, behind, by rw [List.append_assoc, found]⟩

private theorem strategicAdvice_only
    (parts : front ++ (strategicAdvice.text ++ back) = model.text) :
    front = emailBody.text ++ model.body ∧ back = model.advice := by
  obtain rfl | ⟨between, rfl, found⟩ := Marker.found_behind parts
  · exact absurd parts.symm marks_differ
  · obtain inBody | ⟨rest, rfl, last⟩ := Marker.found_before found
    · exact absurd inBody model.bodyFree.2
    · obtain ⟨rfl, same⟩ := Marker.only_at_start model.adviceFree.2 last
      exact ⟨by rw [List.append_nil], same⟩

variable {state : ChainState} {delta : Text} {deltas : List Text}

private theorem isEmpty_of_found {marker : Marker bracket} (found : marker.text <:+: delta) :
    delta.isEmpty = false := by
  cases delta with
  | nil => exact absurd (List.infix_nil.mp found) (List.cons_ne_nil _ _)
  | cons point rest => rfl

/-- The marker of the body is looked for before the body only. -/
theorem onText_emailBody (header : state.currentMode = .header)
    (found : emailBody.text <:+: delta) :
    onText state delta = { state with currentMode := .body } := by
  have marked : includes (state.adviceText ++ delta) emailBody.text = true :=
    decide_eq_true (found.trans (List.suffix_append _ _).isInfix)
  simp [onText, isEmpty_of_found found, marked, header]

private theorem onText_strategicAdvice (nonempty : delta.isEmpty = false)
    (found : strategicAdvice.text <:+: state.adviceText ++ delta)
    (other : state.currentMode ≠ .header ∨ ¬emailBody.text <:+: state.adviceText ++ delta) :
    onText state delta =
      { state with currentMode := .advice, adviceText := state.adviceText ++ delta } := by
  have marked : includes (state.adviceText ++ delta) strategicAdvice.text = true :=
    decide_eq_true found
  have past : (includes (state.adviceText ++ delta) emailBody.text &&
      state.currentMode == .header) = false := by
    rw [Bool.and_eq_false_iff]
    obtain other | other := other
    · exact .inr (beq_eq_false_iff_ne.mpr other)
    · exact .inl (decide_eq_false other)
  simp only [onText, nonempty, past, marked, Bool.false_eq_true, if_false, if_true]

/-- Behind the marker of the advice everything is advice. -/
theorem foldl_advice (mode : state.currentMode = .advice)
    (found : strategicAdvice.text <:+: state.adviceText) :
    deltas.foldl onText state = { state with adviceText := state.adviceText ++ deltas.flatten } := by
  induction deltas generalizing state with
  | nil =>
    rw [List.flatten_nil, List.append_nil]
    rfl
  | cons delta rest ih =>
    have found' : strategicAdvice.text <:+: state.adviceText ++ delta :=
      found.trans (List.prefix_append _ _).isInfix
    have next : onText state delta = { state with adviceText := state.adviceText ++ delta } := by
      cases nonempty : delta.isEmpty with
      | true =>
        rw [onText, nonempty, if_pos rfl, List.isEmpty_iff.mp nonempty, List.append_nil]
      | false =>
        rw [onText_strategicAdvice nonempty found' (.inl (by rw [mode]; decide)), mode]
    rw [List.foldl_cons, next, List.flatten_cons, ← List.append_assoc]
    refine ih ?_ ?_
    · exact mode
    · exact found'

/-- In the body a delta without the marker of the advice is a token. -/
theorem foldl_body (mode : state.currentMode = .body) (fresh : state.adviceText = [])
    (free : ∀ delta ∈ deltas, delta.isEmpty = false ∧ ¬strategicAdvice.text <:+: delta) :
    deltas.foldl onText state = { state with tokens := state.tokens ++ deltas } := by
  induction deltas generalizing state with
  | nil => rw [List.append_nil]; rfl
  | cons delta rest ih =>
    obtain ⟨nonempty, unmarked⟩ := free delta List.mem_cons_self
    have unmarked' : includes delta strategicAdvice.text = false := decide_eq_false unmarked
    have next : onText state delta = { state with tokens := state.tokens ++ [delta] } := by
      simp [onText, nonempty, fresh, mode, unmarked']
    rw [List.foldl_cons, next, List.append_cons state.tokens delta rest]
    refine ih ?_ ?_ fun other member => free other (.tail _ member)
    · exact mode
    · exact fresh

/-- Before any marker nothing is kept. -/
theorem foldl_header (mode : state.currentMode = .header) (fresh : state.adviceText = [])
    (free : ∀ delta ∈ deltas, ¬emailBody.text <:+: delta ∧ ¬strategicAdvice.text <:+: delta) :
    deltas.foldl onText state = state := by
  induction deltas with
  | nil => rfl
  | cons delta rest ih =>
    obtain ⟨unmarked, unmarked'⟩ := free delta List.mem_cons_self
    have marks : includes delta emailBody.text = false ∧
        includes delta strategicAdvice.text = false :=
      ⟨decide_eq_false unmarked, decide_eq_false unmarked'⟩
    have next : onText state delta = state := by
      simp [onText, fresh, mode, marks.1, marks.2]
    rw [List.foldl_cons, next, ih fun other member => free other (.tail _ member)]

/-- Empty deltas do nothing. -/
theorem foldl_kept : deltas.foldl onText state =
    (deltas.filter fun delta => !delta.isEmpty).foldl onText state := by
  induction deltas generalizing state with
  | nil => rfl
  | cons delta rest ih =>
    rw [List.foldl_cons, ih, List.filter_cons]
    cases empty : delta.isEmpty with
    | true =>
      rw [onText, empty, if_pos rfl]
      rfl
    | false => rfl

private theorem parsedTrend_eq (value : Text) : parsedTrend value =
    if namedTrend value = .deEscalating then .escalating else namedTrend value := by
  have inside : text "escalating" <:+: text "de-escalating" := by decide
  cases deEscalating : includes value (text "de-escalating") with
  | true =>
    have escalating : includes value (text "escalating") = true :=
      decide_eq_true (inside.trans (of_decide_eq_true deEscalating))
    simp [parsedTrend, namedTrend, deEscalating, escalating]
  | false =>
    cases escalating : includes value (text "escalating") <;>
      simp [parsedTrend, namedTrend, deEscalating, escalating]

/-- The advice with the one trend read as the other. -/
def Advice.escalated (advice : Advice) : Advice :=
  { advice with
    toneTrend := if advice.toneTrend = .deEscalating then .escalating else advice.toneTrend }

private theorem adviceLine_parsed (advice : Advice) (line : Text) :
    platform.adviceLine parsedTrend advice.escalated line =
      (platform.adviceLine namedTrend advice line).escalated := by
  simp only [Platform.adviceLine, Advice.escalated, parsedTrend_eq]
  split_ifs <;> rfl

private theorem adviceOf_parsed (lines : Text) :
    platform.adviceOf parsedTrend lines = (platform.adviceOf namedTrend lines).escalated := by
  have from_ (rows : List Text) (advice : Advice) :
      rows.foldl (platform.adviceLine parsedTrend) advice.escalated =
        (rows.foldl (platform.adviceLine namedTrend) advice).escalated := by
    induction rows generalizing advice with
    | nil => rfl
    | cons row rest ih => rw [List.foldl_cons, adviceLine_parsed, ih, List.foldl_cons]
  exact from_ _ {}

/-- The route reads what is named, but for the one trend. -/
theorem adviceOf_parsed_iff {lines : Text} :
    platform.adviceOf parsedTrend lines = platform.adviceOf namedTrend lines ↔
      (platform.adviceOf namedTrend lines).toneTrend ≠ .deEscalating := by
  rw [adviceOf_parsed]
  generalize platform.adviceOf namedTrend lines = advice
  constructor
  · intro same trend
    have other := congrArg Advice.toneTrend same
    rw [Advice.escalated, if_pos trend, trend] at other
    cases other
  · intro other
    rw [Advice.escalated, if_neg other]

private theorem adviceOf_nil (trendOf : Text → ToneTrend) : platform.adviceOf trendOf [] = {} := by
  have row : platform.adviceLine trendOf {} [] = {} := by
    simp only [Platform.adviceLine, platform.toLowerCase_nil]
    rfl
  exact row

private theorem removeFirst_at {marker : Marker bracket}
    (first : ∀ front' back', front' ++ (marker.text ++ back') = front ++ (marker.text ++ back) →
      front' = front) : removeFirst marker.text (front ++ (marker.text ++ back)) = front ++ back := by
  induction front with
  | nil =>
    have here : marker.text.isPrefixOf (marker.text ++ back) = true :=
      List.isPrefixOf_iff_prefix.mpr (List.prefix_append _ _)
    rw [List.nil_append, List.nil_append]
    rw [Marker.text, List.cons_append] at here ⊢
    rw [removeFirst, if_pos here]
    simp
  | cons point rest ih =>
    have later : ¬marker.text.isPrefixOf (point :: (rest ++ (marker.text ++ back))) = true := by
      intro here
      obtain ⟨behind, same⟩ := List.isPrefixOf_iff_prefix.mp here
      cases first [] behind same
    rw [List.cons_append, removeFirst, if_neg later, ih, List.cons_append]
    intro front' back' same
    exact (List.cons.inj (first (point :: front') back' (congrArg (List.cons point) same))).2

/-- The deltas of a text, without the empty ones. -/
structure Cut (model : ModelText) where
  pieces : List Text
  nonempty : ∀ piece ∈ pieces, piece.isEmpty = false
  whole : pieces.flatten = model.text

/-- One marker is a delta of its own, and the other one begins a delta. -/
def Cut.aligned (cut : Cut model) : Prop :=
  ∃ body opening rest,
    cut.pieces = emailBody.text :: (body ++ (strategicAdvice.text ++ opening) :: rest)

/-- The body and the advice come out by chance, though a marker was cut or was not seen. -/
def Cut.lucky (platform : Platform) (cut : Cut model) : Prop :=
  (∃ opening rest, cut.pieces = (emailBody.text ++ opening) :: rest ∧
    (∀ piece ∈ rest, ¬strategicAdvice.text <:+: piece) ∧ rest.flatten = model.body ∧
    model.named platform = {}) ∨
  (∀ piece ∈ cut.pieces, ¬emailBody.text <:+: piece) ∧ model.body = [] ∧
    ((∀ piece ∈ cut.pieces, ¬strategicAdvice.text <:+: piece) ∧ model.named platform = {} ∨
      ∃ earlier before opening rest,
        cut.pieces = earlier ++ (before ++ (strategicAdvice.text ++ opening)) :: rest ∧
        platform.adviceOf parsedTrend (before ++ model.advice) = model.named platform)

theorem faithful_answer : Faithful platform model (platform.answer state) ↔
    state.tokens.flatten = model.body ∧
      platform.adviceOf parsedTrend (removeFirst strategicAdvice.text state.adviceText) =
        model.named platform := by
  constructor
  · rintro ⟨texts, body, same⟩
    obtain ⟨tokens, ends⟩ := List.append_inj' same rfl
    obtain rfl : state.tokens = texts :=
      List.map_injective_iff.mpr (fun _ _ => StreamEvent.token.inj) tokens
    exact ⟨body, StreamEvent.advice.inj (List.cons.inj ends).1⟩
  · rintro ⟨body, advice⟩
    exact ⟨state.tokens, body, by rw [Platform.answer, advice]⟩

section

variable {cut : Cut model} {opening before rest : Text} {earlier later pieces : List Text}

/-- Where a piece holds the marker of the advice. -/
theorem advice_place
    (shape : cut.pieces = earlier ++ (before ++ (strategicAdvice.text ++ rest)) :: later) :
    earlier.flatten ++ before = emailBody.text ++ model.body ∧ rest ++ later.flatten = model.advice ∧
      ∀ piece ∈ earlier, ¬strategicAdvice.text <:+: piece := by
  have whole := cut.whole
  rw [shape] at whole
  exact Marker.place_of_piece fun front' back' same =>
    strategicAdvice_only (same.trans ((List.nil_append _).trans whole))

/-- Where a piece holds the marker of the body. -/
theorem body_place {piece : Text} (member : piece ∈ cut.pieces)
    (found : emailBody.text <:+: piece) :
    ∃ opening rest, cut.pieces = (emailBody.text ++ opening) :: rest := by
  obtain ⟨earlier, before, behind, later, shape⟩ := Marker.split_piece member found
  have whole := cut.whole
  rw [shape] at whole
  have place := (Marker.place_of_piece fun front' back' same =>
    emailBody_only (same.trans ((List.nil_append _).trans whole))).1
  obtain ⟨none_, rfl⟩ := List.append_eq_nil_iff.mp ((List.nil_append _).symm.trans place)
  cases earlier with
  | nil => exact ⟨behind, later, shape⟩
  | cons first others =>
    have nonempty := cut.nonempty first (by rw [shape]; exact List.mem_cons_self)
    rw [List.flatten_cons, List.append_eq_nil_iff] at none_
    rw [none_.1] at nonempty
    cases nonempty

private theorem removeFirst_advice (place : front ++ before = emailBody.text ++ model.body) :
    removeFirst strategicAdvice.text (before ++ (strategicAdvice.text ++ model.advice)) =
      before ++ model.advice := by
  apply removeFirst_at
  intro front' back' same
  have found : (front ++ front') ++ (strategicAdvice.text ++ back') = model.text := by
    rw [List.append_assoc, same, ← List.append_assoc, place, List.append_assoc]
    rfl
  exact List.append_cancel_left ((strategicAdvice_only found).1.trans place.symm)

private theorem foldl_strategicAdvice (fresh : state.adviceText = [])
    (other : state.currentMode ≠ .header ∨
      ¬emailBody.text <:+: before ++ (strategicAdvice.text ++ rest)) :
    ((before ++ (strategicAdvice.text ++ rest)) :: later).foldl onText state =
      { state with
        currentMode := .advice
        adviceText := before ++ (strategicAdvice.text ++ (rest ++ later.flatten)) } := by
  have found : strategicAdvice.text <:+: before ++ (strategicAdvice.text ++ rest) :=
    Marker.infix_between
  have found' : strategicAdvice.text <:+:
      state.adviceText ++ (before ++ (strategicAdvice.text ++ rest)) := by
    rwa [fresh]
  rw [List.foldl_cons, onText_strategicAdvice (isEmpty_of_found found) found' (by rwa [fresh])]
  rw [foldl_advice rfl found', fresh]
  simp only [List.nil_append, List.append_assoc]

/-- The body is seen, and the advice. -/
theorem foldl_both (shape : cut.pieces = (emailBody.text ++ opening) ::
    (earlier ++ (before ++ (strategicAdvice.text ++ rest)) :: later)) :
    cut.pieces.foldl onText {} =
        { currentMode := .advice
          adviceText := before ++ (strategicAdvice.text ++ model.advice)
          tokens := earlier } ∧
      opening ++ (earlier.flatten ++ before) = model.body := by
  have shape' : cut.pieces = ((emailBody.text ++ opening) :: earlier) ++
    (before ++ (strategicAdvice.text ++ rest)) :: later := shape
  obtain ⟨place, behind, free⟩ := advice_place shape'
  have solid : ∀ piece ∈ earlier, piece.isEmpty = false ∧ ¬strategicAdvice.text <:+: piece := by
    intro piece member
    refine ⟨cut.nonempty piece ?_, free piece (.tail _ member)⟩
    rw [shape']
    exact List.mem_append_left _ (.tail _ member)
  constructor
  · rw [shape, List.foldl_cons, onText_emailBody rfl (List.prefix_append _ _).isInfix,
      List.foldl_append, foldl_body rfl rfl solid, foldl_strategicAdvice rfl
        (.inl (show Mode.body ≠ .header by decide)), behind]
    rfl
  · rw [List.flatten_cons, List.append_assoc, List.append_assoc] at place
    exact List.append_cancel_left place

/-- The body is seen, but not the advice. -/
theorem foldl_body_only (shape : cut.pieces = (emailBody.text ++ opening) :: pieces)
    (free : ∀ piece ∈ pieces, ¬strategicAdvice.text <:+: piece) :
    cut.pieces.foldl onText {} = { currentMode := .body, tokens := pieces } := by
  have solid : ∀ piece ∈ pieces, piece.isEmpty = false ∧ ¬strategicAdvice.text <:+: piece := by
    intro piece member
    exact ⟨cut.nonempty piece (by rw [shape]; exact .tail _ member), free piece member⟩
  rw [shape, List.foldl_cons, onText_emailBody rfl (List.prefix_append _ _).isInfix,
    foldl_body rfl rfl solid]
  rfl

/-- The advice is seen, but not the body. -/
theorem foldl_advice_only
    (shape : cut.pieces = earlier ++ (before ++ (strategicAdvice.text ++ rest)) :: later)
    (free : ∀ piece ∈ cut.pieces, ¬emailBody.text <:+: piece) :
    cut.pieces.foldl onText {} =
        { currentMode := .advice
          adviceText := before ++ (strategicAdvice.text ++ model.advice) } ∧
      earlier.flatten ++ before = emailBody.text ++ model.body := by
  obtain ⟨place, behind, unmarked⟩ := advice_place shape
  rw [shape] at free
  have silent : ∀ piece ∈ earlier,
      ¬emailBody.text <:+: piece ∧ ¬strategicAdvice.text <:+: piece := fun piece member =>
    ⟨free piece (List.mem_append_left _ member), unmarked piece member⟩
  have other := free _ (List.mem_append_right _ List.mem_cons_self)
  refine ⟨?_, place⟩
  rw [shape, List.foldl_append, foldl_header rfl rfl silent, foldl_strategicAdvice rfl (.inr other),
    behind]

private theorem faithful_both (shape : cut.pieces = (emailBody.text ++ opening) ::
    (earlier ++ (before ++ (strategicAdvice.text ++ rest)) :: later)) :
    Faithful platform model (platform.answer (cut.pieces.foldl onText {})) ↔
      cut.aligned ∧ (model.named platform).toneTrend ≠ .deEscalating := by
  obtain ⟨folded, body⟩ := foldl_both shape
  have place : (emailBody.text ++ (opening ++ earlier.flatten)) ++ before =
      emailBody.text ++ model.body := by
    rw [← body, List.append_assoc, List.append_assoc]
  rw [faithful_answer, folded]
  change earlier.flatten = model.body ∧ platform.adviceOf parsedTrend (removeFirst
    strategicAdvice.text (before ++ (strategicAdvice.text ++ model.advice))) = _ ↔ _
  rw [removeFirst_advice place]
  constructor
  · rintro ⟨tokens, advice⟩
    have lengths := congrArg List.length (body.trans tokens.symm)
    simp only [List.length_append] at lengths
    obtain rfl : opening = [] := List.eq_nil_of_length_eq_zero (by omega)
    obtain rfl : before = [] := List.eq_nil_of_length_eq_zero (by omega)
    exact ⟨⟨earlier, rest, later, by rw [shape, List.append_nil]; rfl⟩, adviceOf_parsed_iff.mp advice⟩
  · rintro ⟨⟨body', opening', rest', shape'⟩, trend⟩
    -- the marker of the advice is at one place only
    have again : cut.pieces = (emailBody.text ++ []) ::
        (body' ++ ([] ++ (strategicAdvice.text ++ opening')) :: rest') := by
      rw [shape', List.append_nil]
      rfl
    obtain ⟨folded', body_eq⟩ := foldl_both again
    have same := folded.symm.trans folded'
    obtain rfl : earlier = body' := congrArg ChainState.tokens same
    obtain rfl : before = [] := List.append_cancel_right (congrArg ChainState.adviceText same)
    rw [List.append_nil] at body_eq
    exact ⟨body_eq, adviceOf_parsed_iff.mpr trend⟩

private theorem faithful_body_only (shape : cut.pieces = (emailBody.text ++ opening) :: pieces)
    (free : ∀ piece ∈ pieces, ¬strategicAdvice.text <:+: piece) :
    Faithful platform model (platform.answer (cut.pieces.foldl onText {})) ↔
      pieces.flatten = model.body ∧ model.named platform = {} := by
  rw [faithful_answer, foldl_body_only shape free]
  have none_ : platform.adviceOf parsedTrend (removeFirst strategicAdvice.text []) = {} :=
    adviceOf_nil _
  rw [none_, eq_comm (a := ({} : Advice))]

private theorem faithful_advice_only
    (shape : cut.pieces = earlier ++ (before ++ (strategicAdvice.text ++ rest)) :: later)
    (free : ∀ piece ∈ cut.pieces, ¬emailBody.text <:+: piece) :
    Faithful platform model (platform.answer (cut.pieces.foldl onText {})) ↔
      model.body = [] ∧
        platform.adviceOf parsedTrend (before ++ model.advice) = model.named platform := by
  obtain ⟨folded, place⟩ := foldl_advice_only shape free
  rw [faithful_answer, folded, removeFirst_advice place, eq_comm (a := model.body)]
  rfl

private theorem faithful_nothing
    (free : ∀ piece ∈ cut.pieces, ¬emailBody.text <:+: piece ∧ ¬strategicAdvice.text <:+: piece) :
    Faithful platform model (platform.answer (cut.pieces.foldl onText {})) ↔
      model.body = [] ∧ model.named platform = {} := by
  have none_ : platform.adviceOf parsedTrend (removeFirst strategicAdvice.text []) = {} :=
    adviceOf_nil _
  rw [faithful_answer, foldl_header rfl rfl free, none_, eq_comm (a := ({} : Advice)),
    eq_comm (a := model.body)]
  rfl

/-- With the marker of the body in one piece, chance has one way left. -/
theorem faithful_opened (shape : cut.pieces = (emailBody.text ++ opening) :: pieces) :
    Faithful platform model (platform.answer (cut.pieces.foldl onText {})) ↔
      cut.aligned ∧ (model.named platform).toneTrend ≠ .deEscalating ∨ cut.lucky platform := by
  have seen : ¬∀ piece ∈ cut.pieces, ¬emailBody.text <:+: piece := fun none_ =>
    none_ _ (by rw [shape]; exact List.mem_cons_self) (List.prefix_append _ _).isInfix
  by_cases later : ∃ piece ∈ pieces, strategicAdvice.text <:+: piece
  · obtain ⟨piece, member, found⟩ := later
    obtain ⟨earlier, before, rest, later, rfl⟩ := Marker.split_piece member found
    rw [faithful_both shape, or_iff_left]
    rintro (⟨opening', pieces', shape', free, -⟩ | ⟨none_, -⟩)
    · obtain ⟨-, rfl⟩ := List.cons.inj (shape.symm.trans shape')
      exact free piece member found
    · exact seen none_
  · have free : ∀ piece ∈ pieces, ¬strategicAdvice.text <:+: piece := fun piece member found =>
      later ⟨piece, member, found⟩
    rw [faithful_body_only shape free]
    constructor
    · rintro ⟨tokens, advice⟩
      exact .inr (.inl ⟨opening, pieces, shape, free, tokens, advice⟩)
    · rintro (⟨⟨body, _, rest, shape'⟩, -⟩ | ⟨_, pieces', shape', -, kept⟩ | ⟨none_, -⟩)
      · obtain ⟨-, rfl⟩ := List.cons.inj (shape.symm.trans shape')
        exact absurd (List.prefix_append _ _).isInfix
          (free _ (List.mem_append_right _ List.mem_cons_self))
      · obtain ⟨-, rfl⟩ := List.cons.inj (shape.symm.trans shape')
        exact kept
      · exact absurd none_ seen

/-- With the marker of the body cut, only chance is left. -/
theorem faithful_unopened (free : ∀ piece ∈ cut.pieces, ¬emailBody.text <:+: piece) :
    Faithful platform model (platform.answer (cut.pieces.foldl onText {})) ↔
      cut.aligned ∧ (model.named platform).toneTrend ≠ .deEscalating ∨ cut.lucky platform := by
  have unaligned : ¬cut.aligned := by
    rintro ⟨body, opening, rest, shape⟩
    exact free _ (by rw [shape]; exact List.mem_cons_self) (List.infix_refl _)
  have unopened {opening : Text} {rest : List Text} :
      cut.pieces ≠ (emailBody.text ++ opening) :: rest := by
    intro shape
    exact free _ (by rw [shape]; exact List.mem_cons_self) (List.prefix_append _ _).isInfix
  by_cases later : ∃ piece ∈ cut.pieces, strategicAdvice.text <:+: piece
  · obtain ⟨piece, member, found⟩ := later
    obtain ⟨earlier, before, rest, later, shape⟩ := Marker.split_piece member found
    constructor
    · intro kept
      obtain ⟨empty, advice⟩ := (faithful_advice_only shape free).mp kept
      exact .inr (.inr ⟨free, empty, .inr ⟨earlier, before, rest, later, shape, advice⟩⟩)
    · rintro (⟨aligned, -⟩ | ⟨_, _, shape', -⟩ | ⟨-, empty, ⟨none_, -⟩ | ⟨_, _, _, _, shape', advice⟩⟩)
      · exact absurd aligned unaligned
      · exact absurd shape' unopened
      · exact absurd found (none_ piece member)
      · exact (faithful_advice_only shape' free).mpr ⟨empty, advice⟩
  · have none_ : ∀ piece ∈ cut.pieces, ¬strategicAdvice.text <:+: piece :=
      fun piece member found => later ⟨piece, member, found⟩
    rw [faithful_nothing fun piece member => ⟨free piece member, none_ piece member⟩]
    constructor
    · rintro ⟨empty, advice⟩
      exact .inr (.inr ⟨free, empty, .inl ⟨none_, advice⟩⟩)
    · rintro (⟨aligned, -⟩ | ⟨_, _, shape', -⟩ | ⟨-, empty, ⟨-, advice⟩ | ⟨_, _, _, _, shape', -⟩⟩)
      · exact absurd aligned unaligned
      · exact absurd shape' unopened
      · exact ⟨empty, advice⟩
      · exact absurd Marker.infix_between (none_ _ (by rw [shape']; exact List.mem_append_right _ List.mem_cons_self))

end

/-- A text of the model as it is delivered: cut into deltas, and its bytes into reads. -/
structure Delivery (platform : Platform) (model : ModelText) where
  payloads : List Payload
  spelled : (payloads.map platform.delivered).flatten = model.text
  reads : List (List UInt8)
  sent : reads.flatten = sseBytes payloads

def Delivery.cut (delivery : Delivery platform model) : Cut model where
  pieces := (delivery.payloads.map platform.delivered).filter fun delta => !delta.isEmpty
  nonempty piece member := by simpa using (List.mem_filter.mp member).2
  whole := List.flatten_filter_not_isEmpty.trans delivery.spelled

/-- The answer is the body and the advice just where the marker of the body is a delta of its own,
the marker of the advice begins a delta and the trend named is not the one whose name contains
another, or by luck; the reads do not matter. -/
theorem start_faithful_iff (platform : Platform) (model : ModelText)
    (delivery : Delivery platform model) :
    Faithful platform model (platform.start delivery.reads) ↔
      delivery.cut.aligned ∧ (model.named platform).toneTrend ≠ .deEscalating ∨
        delivery.cut.lucky platform := by
  rw [start_sseBytes delivery.sent, foldl_kept]
  change Faithful platform model (platform.answer (delivery.cut.pieces.foldl onText {})) ↔ _
  by_cases marked : ∃ piece ∈ delivery.cut.pieces, emailBody.text <:+: piece
  · obtain ⟨piece, member, found⟩ := marked
    obtain ⟨opening, pieces, shape⟩ := body_place member found
    exact faithful_opened shape
  · exact faithful_unopened fun piece member found => marked ⟨piece, member, found⟩

/-- A platform that folds ASCII letters. -/
def asciiPlatform : Platform where
  jsonParse := loads
  toLowerCase := List.map fun point => if 0x41 ≤ point && point ≤ 0x5a then point + 0x20 else point
  toLowerCase_nil := rfl

def eventOf (content : Text) : Json :=
  .obj [(text "choices", .arr [.obj [(text "delta", .obj [(text "content", .str content)])]])]

def greeting : Payload where
  points := stringify.text (eventOf (emailBody.text ++ text "Hi."))
  solid := ⟨_, 0x7d, (List.dropLast_append_getLast (by decide)).symm, by decide⟩
  inline := by decide
  scalar := by decide

def noAdvice : Payload where
  points := stringify.text (eventOf strategicAdvice.text)
  solid := ⟨_, 0x7d, (List.dropLast_append_getLast (by decide)).symm, by decide⟩
  inline := by decide
  scalar := by decide

def greetingText : ModelText where
  body := text "Hi."
  advice := []
  bodyFree := by decide
  adviceFree := by decide

def greetingDelivery : Delivery asciiPlatform greetingText where
  payloads := [greeting, noAdvice]
  spelled := by decide +kernel
  reads := [sseBytes [greeting, noAdvice]]
  sent := List.append_nil _

/-- The greeting is lost. -/
theorem greeting_lost : ¬Faithful asciiPlatform greetingText (asciiPlatform.start greetingDelivery.reads) := by
  rintro ⟨deltas, body, same⟩
  have two : (asciiPlatform.start greetingDelivery.reads).length = 2 := by decide +kernel
  rw [same, List.length_append, List.length_map] at two
  obtain rfl : deltas = [] := List.eq_nil_of_length_eq_zero (Nat.add_right_cancel two)
  exact absurd body (by decide)

end BrainMate.WriteRight.EmailChain
