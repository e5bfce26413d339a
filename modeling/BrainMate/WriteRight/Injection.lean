import BrainMate.Text.Regex
import BrainMate.WriteRight.ModelResponse

/-! `detect_injection` of `prompt_builder.py`. -/

namespace BrainMate.WriteRight.Prompt

open Text Text.Pattern ModelResponse

/-- The code point that `re.IGNORECASE` compares with a letter of ASCII. Four letters beyond ASCII
count as one of it. -/
def foldCase (point : Nat) : Nat :=
  if point = 0x130 ∨ point = 0x131 then 0x69
  else if point = 0x17f then 0x73
  else if point = 0x212a then 0x6b
  else asciiLower point

/-- A text of small letters and signs, in either case. -/
def literal (text : String) : Pattern Nat := .word foldCase (pyText text)

/-- `\s*` -/
def spaces : Pattern Nat := .many (.symbol isSpace)

/-- `\s+` -/
def someSpaces : Pattern Nat := .oneOrMore (.symbol isSpace)

def ignoreInstructions : Pattern Nat := chain [literal "ignore", someSpaces,
  .many (chain [oneOf [literal "previous", literal "all", literal "prior"], someSpaces]),
  literal "instructions"]

/-- What may follow `act as`. -/
def writingRole : Pattern Nat := oneOf [
  chain [literal "a", someSpaces, oneOf [literal "writing", literal "communication"]],
  literal "writing",
  literal "communication"]

def actAsRole : Pattern Nat := chain [literal "act", someSpaces, literal "as", someSpaces]

def actAs : Pattern Nat := .seq actAsRole (.unless writingRole)

/-- `INJECTION_PATTERNS`. -/
def injectionPatterns : List (Pattern Nat) := [
  ignoreInstructions,
  chain [literal "you", someSpaces, literal "are", someSpaces, literal "now"],
  chain [literal "new", someSpaces, literal "persona"],
  chain [literal "system", spaces, literal ":"],
  chain [literal "<", spaces, literal "system", spaces, literal ">"],
  actAs,
  chain [literal "forget", someSpaces,
    .group 1 (oneOf [literal "everything", literal "all", literal "your"])],
  chain [literal "override", someSpaces, .group 1 (oneOf [literal "your", literal "the"]),
    someSpaces, .group 2 (oneOf [literal "instructions", literal "prompt", literal "rules"])],
  chain [literal "disregard", someSpaces, literal "all", someSpaces, literal "above"],
  chain [literal "jailbreak"],
  chain [literal "developer", spaces, literal "mode"],
  chain [literal "simulate", someSpaces, literal "being"]]

def contentFiltered : PyStr := pyText "[content filtered]"

/-- One turn of the loop over the patterns. -/
def filterPattern (state : PyStr × Bool) (pattern : Pattern Nat) : PyStr × Bool :=
  if pattern.search none state.1 then (pattern.sub contentFiltered 0 none state.1, true) else state

def detectInjection (text : PyStr) : PyStr × Bool := injectionPatterns.foldl filterPattern (text, false)

/-- Whatever the pattern takes begins with a word. -/
def Opens (pattern : Pattern Nat) (opening : String) : Prop :=
  ∀ taken, pattern.Takes taken → pyText opening <+: taken.map foldCase

private theorem opens_seq {first second : Pattern Nat} {opening : String}
    (opens : Opens first opening) :
    Opens (.seq first second) opening := by
  intro taken took
  obtain ⟨front, back, rfl, began, _⟩ := takes_seq.mp took
  rw [List.map_append]
  exact (opens front began).trans (List.prefix_append _ _)

private theorem opens_literal (opening : String) : Opens (literal opening) opening := by
  intro taken took
  rw [map_of_takes_word took]

/-- The words that the patterns begin with, in their order. -/
def openings : List String := ["ignore", "you", "new", "system", "<", "act", "forget", "override",
  "disregard", "jailbreak", "developer", "simulate"]

theorem patterns_open : List.Forall₂ Opens injectionPatterns openings := by
  have begins (opening : String) (others : List (Pattern Nat)) :
      Opens (chain (literal opening :: others)) opening := opens_seq (opens_literal opening)
  exact .cons (begins _ _) <| .cons (begins _ _) <| .cons (begins _ _) <| .cons (begins _ _) <|
    .cons (begins _ _) <| .cons (opens_seq (begins _ _)) <| .cons (begins _ _) <|
    .cons (begins _ _) <| .cons (begins _ _) <| .cons (begins _ _) <| .cons (begins _ _) <|
    .cons (begins _ _) .nil

/-- One list cannot be found where the other begins. -/
def Apart (opening letters : List Nat) : Prop := ¬ opening <+: letters ∧ ¬ letters <+: opening

instance (opening letters : List Nat) : Decidable (Apart opening letters) :=
  inferInstanceAs (Decidable (_ ∧ _))

theorem ne_of_apart {pattern : Pattern Nat} {opening : String} {front behind taken rest : List Nat}
    (opens : Opens pattern opening) (took : pattern.Takes taken)
    (apart : Apart (pyText opening) (front.map foldCase)) : front ++ behind ≠ taken ++ rest := by
  intro same
  have whole := congrArg (List.map foldCase) same
  rw [List.map_append, List.map_append] at whole
  have opened : pyText opening <+: front.map foldCase ++ behind.map foldCase :=
    whole ▸ (opens taken took).trans (List.prefix_append _ _)
  obtain inside | inside := List.prefix_or_prefix_of_prefix opened (List.prefix_append _ _)
  · exact apart.1 inside
  · exact apart.2 inside

private theorem not_takes_nil {pattern : Pattern Nat} {opening : String}
    (opens : Opens pattern opening)
    (letters : pyText opening ≠ []) : ¬ pattern.Takes [] :=
  fun took => letters (List.prefix_nil.mp (opens [] took))

/-- None of the words begins in the letters. -/
def Quiet (openings : List String) (letters : List Nat) : Prop :=
  ∀ back ∈ letters.tails, back ≠ [] → ∀ opening ∈ openings, Apart (pyText opening) back

instance (openings : List String) (letters : List Nat) : Decidable (Quiet openings letters) :=
  inferInstanceAs (Decidable (∀ back ∈ letters.tails, _))

private theorem quiet_cons {openings : List String} {letter : Nat} {letters : List Nat}
    (first : ∀ opening ∈ openings, Apart (pyText opening) (letter :: letters))
    (others : Quiet openings letters) : Quiet openings (letter :: letters) := by
  intro back member nonempty
  rw [List.tails_cons, List.mem_cons] at member
  obtain rfl | member := member
  · exact first
  · exact others back member nonempty

/-- The words that the patterns from `act as` on begin with. -/
def laterOpenings : List String := openings.drop 5

private theorem foldCase_space {point : Nat} (space : isSpace point = true) :
    foldCase point = point := by
  simp only [isSpace, Bool.or_eq_true, Bool.and_eq_true, decide_eq_true_eq, beq_iff_eq] at space
  rw [foldCase, if_neg (by omega), if_neg (by omega), if_neg (by omega), asciiLower,
    if_neg (by omega)]

/-- The words differ in a letter. -/
theorem apart_of_differs {opening letters : List Nat} {index other : Nat}
    (there : letters[index]? = some other)
    (differs : opening[index]?.any (fun letter => letter != other) = true) :
    Apart opening letters := by
  obtain ⟨letter, opens, differ⟩ := (Option.any_eq_true _ _).mp differs
  have differ : letter ≠ other := bne_iff_ne.mp differ
  constructor
  · rintro ⟨rest, rfl⟩
    rw [List.getElem?_append_left (List.getElem?_eq_some_iff.mp opens).1, opens] at there
    exact differ (Option.some.inj there)
  · rintro ⟨rest, rfl⟩
    rw [List.getElem?_append_left (List.getElem?_eq_some_iff.mp there).1, there] at opens
    exact differ (Option.some.inj opens).symm

private theorem space_apart {opening letters : List Nat} {index point : Nat}
    (dense : opening[index]?.any (fun letter => !isSpace letter) = true)
    (there : letters[index]? = some (foldCase point)) (space : isSpace point = true) :
    Apart opening letters := by
  refine apart_of_differs there ?_
  rw [foldCase_space space]
  obtain ⟨letter, opens, dense⟩ := (Option.any_eq_true _ _).mp dense
  have differ : letter ≠ point := by
    rintro rfl
    simp [space] at dense
  rw [opens]
  exact bne_iff_ne.mpr differ

private theorem spaces_quiet {gap letters : List Nat} (blank : ∀ point ∈ gap, isSpace point = true)
    (others : Quiet laterOpenings letters) : Quiet laterOpenings (gap.map foldCase ++ letters) := by
  induction gap with
  | nil => exact others
  | cons point gap ih =>
    have dense : ∀ opening ∈ laterOpenings,
        (pyText opening)[0]?.any (fun letter => !isSpace letter) = true := by decide
    exact quiet_cons
      (fun opening member => space_apart (dense opening member) rfl (blank point List.mem_cons_self))
      (ih fun point member => blank point (List.mem_cons_of_mem _ member))

private theorem role_quiet {taken : List Nat}
    (took : (oneOf [literal "writing", literal "communication"]).Takes taken) :
    Quiet laterOpenings (taken.map foldCase) := by
  cases took with
  | left took =>
    rw [map_of_takes_word took]
    decide
  | right took =>
    rw [map_of_takes_word took]
    decide

/-- The words that may follow `act as` do not run into another pattern. -/
theorem writingRole_quiet {taken : List Nat} (took : writingRole.Takes taken) :
    Quiet laterOpenings (taken.map foldCase) := by
  cases took with
  | right took => exact role_quiet took
  | left took =>
    obtain ⟨article, _, rfl, article_took, took⟩ := takes_seq.mp took
    obtain ⟨gap, _, rfl, gap_took, took⟩ := takes_seq.mp took
    obtain ⟨role, _, rfl, role_took, ended⟩ := takes_seq.mp took
    cases ended
    obtain ⟨first, others, rfl, first_took, others_took⟩ := takes_seq.mp gap_took
    cases first_took with
    | @symbol _ point space =>
      rw [List.map_append, List.map_append, List.map_append, map_of_takes_word article_took,
        List.append_nil]
      have blank : ∀ symbol ∈ point :: others, isSpace symbol = true := by
        rw [List.forall_mem_cons]
        exact ⟨space, accepts_of_takes_many others_took⟩
      refine quiet_cons (fun opening member => ?_) (spaces_quiet blank (role_quiet role_took))
      -- of the words only `act` begins with the letter, and it goes on with another one
      have differs : ∀ opening ∈ laterOpenings,
          (pyText opening)[0]?.any (fun letter => letter != 0x61) = true ∨
          (pyText opening)[1]?.any (fun letter => !isSpace letter) = true := by decide
      obtain other | dense := differs opening member
      · exact apart_of_differs rfl other
      · exact space_apart dense rfl space

/-- Nothing that a pattern takes begins inside the text that is put in. -/
theorem filtered_apart {pattern : Pattern Nat} {opening : String} {front back : List Nat}
    (opens : Opens pattern opening) (member : opening ∈ openings)
    (split : contentFiltered = front ++ back) (nonempty : back ≠ []) :
    ∀ out taken rest, pattern.Takes taken → back ++ out ≠ taken ++ rest := by
  have apart : ∀ opening ∈ openings, ∀ back ∈ contentFiltered.tails, back ≠ [] →
      Apart (pyText opening) (back.map foldCase) := by decide
  intro out taken rest took
  have part : back ∈ contentFiltered.tails := (List.mem_tails _ _).mpr ⟨front, split.symm⟩
  exact ne_of_apart opens took (apart opening member back part nonempty)

/-- After these replacements the pattern matches nowhere, if it matched at no place that was kept. -/
def Cleared (took : List Nat → Prop) (pattern : Pattern Nat) : Prop :=
  ∀ text out, Replaced (fun text => ¬ pattern.Hits text) took contentFiltered text out →
    ¬ pattern.Occurs out

private theorem openings_ne_nil : ∀ opening ∈ openings, pyText opening ≠ [] := by decide

private theorem cleared_of_plain {pattern : Pattern Nat} {opening : String} (took : List Nat → Prop)
    (plain : pattern.Plain) (opens : Opens pattern opening) (member : opening ∈ openings)
    (avoids : pattern.avoids 0x5b = true) : Cleared took pattern := by
  have takes_some := not_takes_nil opens (openings_ne_nil opening member)
  intro text out replaced
  refine replaced.not_occurs ?_ ?_ ?_
  · rw [hits_iff plain]
    rintro ⟨taken, rest, whole, took⟩
    obtain ⟨rfl, rfl⟩ := List.append_eq_nil_iff.mp whole.symm
    exact takes_some took
  · intro front back split nonempty out
    rw [hits_iff plain]
    rintro ⟨taken, rest, whole, took⟩
    exact filtered_apart opens member split nonempty out taken rest took whole
  · intro head rest out kept others hits
    obtain ⟨taken, behind, whole, took⟩ := (hits_iff plain).mp hits
    obtain ⟨left, starts, _⟩ := others.hits_of_result takes_some rfl avoids whole took
    exact kept ((hits_iff plain).mpr ⟨taken, left, starts, took⟩)

private theorem actAs_opens : Opens actAsRole "act" := opens_seq (opens_literal "act")

/-- A word that may follow `act as` is not cut off by a replacement. -/
theorem writingRole_kept {pattern : Pattern Nat} {opening : String} {text out : List Nat}
    {kept : List Nat → Prop} (opens : Opens pattern opening) (member : opening ∈ laterOpenings)
    (replaced : Replaced kept pattern.Takes contentFiltered text out)
    (allowed : writingRole.Hits text) : writingRole.Hits out := by
  have plain : writingRole.Plain := by decide
  obtain ⟨taken, behind, rfl, took⟩ := (hits_iff plain).mp allowed
  have quiet := writingRole_quiet took
  obtain ⟨rest, rfl⟩ := replaced.to_result fun front back split nonempty other rest other_took => by
    refine ne_of_apart opens other_took (quiet _ ?_ ?_ opening member)
    · rw [split, List.map_append]
      exact (List.mem_tails _ _).mpr (List.suffix_append _ _)
    · exact List.map_eq_nil_iff.not.mpr nonempty
  exact (hits_iff plain).mpr ⟨taken, rest, rfl, took⟩

theorem actAs_hits_iff {text : List Nat} :
    actAs.Hits text ↔
      ∃ taken rest, text = taken ++ rest ∧ actAsRole.Takes taken ∧ ¬ writingRole.Hits rest :=
  hits_unless_iff (by decide) (blind_of_plain (by decide))

private theorem cleared_actAs {pattern : Pattern Nat} {opening : String}
    (opens : Opens pattern opening)
    (member : opening ∈ laterOpenings) : Cleared pattern.Takes actAs := by
  have takes_some := not_takes_nil actAs_opens (by decide)
  intro text out replaced
  refine replaced.not_occurs ?_ ?_ ?_
  · rw [actAs_hits_iff]
    rintro ⟨taken, rest, whole, took, _⟩
    obtain ⟨rfl, rfl⟩ := List.append_eq_nil_iff.mp whole.symm
    exact takes_some took
  · intro front back split nonempty out
    rw [actAs_hits_iff]
    rintro ⟨taken, rest, whole, took, _⟩
    exact filtered_apart actAs_opens (by decide) split nonempty out taken rest took whole
  · intro head rest out kept others hits
    obtain ⟨taken, behind, whole, took, free⟩ := actAs_hits_iff.mp hits
    obtain ⟨left, starts, continued⟩ := others.hits_of_result takes_some rfl (by decide) whole took
    exact kept (actAs_hits_iff.mpr
      ⟨taken, left, starts, took, fun allowed => free (writingRole_kept opens member continued allowed)⟩)

theorem opens_at {index : Nat} (inside : index < injectionPatterns.length) :
    ∃ opening ∈ openings, Opens injectionPatterns[index] opening :=
  ⟨_, List.get_mem _ _, (List.forall₂_iff_get.mp patterns_open).2 index inside inside⟩

private theorem opens_later {index : Nat} (inside : index < injectionPatterns.length)
    (later : 5 ≤ index) :
    ∃ opening ∈ laterOpenings, Opens injectionPatterns[index] opening := by
  obtain ⟨distance, rfl⟩ := Nat.exists_eq_add_of_le later
  have within : distance < (injectionPatterns.drop 5).length := by
    rw [List.length_drop]
    omega
  have opens := (List.forall₂_iff_get.mp (List.forall₂_drop 5 patterns_open)).2 distance within within
  rw [List.get_eq_getElem, List.getElem_drop] at opens
  exact ⟨_, List.get_mem (openings.drop 5) ⟨distance, within⟩, opens⟩

theorem plain_at : ∀ (index : Nat) (inside : index < injectionPatterns.length), index ≠ 5 →
    injectionPatterns[index].Plain ∧ injectionPatterns[index].avoids 0x5b = true := by decide

theorem takes_some_at {index : Nat} (inside : index < injectionPatterns.length) :
    ¬ injectionPatterns[index].Takes [] := by
  obtain ⟨opening, member, opens⟩ := opens_at inside
  exact not_takes_nil opens (openings_ne_nil opening member)

theorem blind_at {index : Nat} (inside : index < injectionPatterns.length) :
    injectionPatterns[index].Blind := by
  by_cases act : index = 5
  · subst act
    exact blind_unless (by decide) (blind_of_plain (by decide))
  · exact blind_of_plain (plain_at index inside act).1

/-- A pattern is not brought back by itself or by one that comes later. -/
theorem cleared_at {earlier later : Nat} (order : earlier ≤ later)
    (inside : later < injectionPatterns.length) :
    Cleared injectionPatterns[later].Takes injectionPatterns[earlier] := by
  by_cases act : earlier = 5
  · subst act
    obtain ⟨opening, member, opens⟩ := opens_later inside order
    exact cleared_actAs opens member
  · have within : earlier < injectionPatterns.length := by omega
    obtain ⟨plain, avoids⟩ := plain_at earlier within act
    obtain ⟨opening, member, opens⟩ := opens_at within
    exact cleared_of_plain _ plain opens member avoids

private theorem filterPattern_free {earlier later : Nat} {state : PyStr × Bool}
    (order : earlier ≤ later)
    (inside : later < injectionPatterns.length)
    (free : earlier < later → ¬ injectionPatterns[earlier].Occurs state.1) :
    ¬ injectionPatterns[earlier].Occurs (filterPattern state injectionPatterns[later]).1 := by
  rw [filterPattern]
  split
  · have replaced := @sub_replaced _ _ none state.1 contentFiltered (blind_at inside)
      (takes_some_at inside)
    obtain before | rfl := Nat.lt_or_eq_of_le order
    · exact cleared_at order inside _ _ (replaced.keeping (free before))
    · exact cleared_at order inside _ _ replaced
  · rename_i missed
    obtain before | rfl := Nat.lt_or_eq_of_le order
    · exact free before
    · rwa [search_iff (blind_at inside)] at missed

private theorem filtered_free (text : PyStr) (count : Nat)
    (inside : count ≤ injectionPatterns.length) :
    ∀ (index : Nat) (earlier : index < count),
      ¬ injectionPatterns[index].Occurs
        ((injectionPatterns.take count).foldl filterPattern (text, false)).1 := by
  induction count with
  | zero => exact fun index earlier => absurd earlier (Nat.not_lt_zero index)
  | succ count ih =>
    intro index earlier
    rw [List.take_succ_eq_append_getElem (by omega), List.foldl_append]
    exact filterPattern_free (by omega) (by omega) fun before => ih (by omega) index before

private theorem filterPattern_missed {state : PyStr × Bool} {pattern : Pattern Nat}
    (missed : ¬ pattern.search none state.1 = true) : filterPattern state pattern = state :=
  if_neg missed

private theorem detected_stays (patterns : List (Pattern Nat)) {state : PyStr × Bool}
    (detected : state.2 = true) : (patterns.foldl filterPattern state).2 = true := by
  induction patterns generalizing state with
  | nil => exact detected
  | cons pattern patterns ih =>
    refine ih ?_
    rw [filterPattern]
    split
    · rfl
    · exact detected

private theorem foldl_missed {patterns : List (Pattern Nat)} {state : PyStr × Bool}
    (missed : ∀ pattern ∈ patterns, ¬ pattern.search none state.1 = true) :
    patterns.foldl filterPattern state = state := by
  induction patterns with
  | nil => rfl
  | cons pattern patterns ih =>
    rw [List.foldl_cons, filterPattern_missed (missed pattern List.mem_cons_self)]
    exact ih fun other member => missed other (List.mem_cons_of_mem _ member)

private theorem foldl_detected_iff {patterns : List (Pattern Nat)} {text : PyStr} :
    (patterns.foldl filterPattern (text, false)).2 = true ↔
      ∃ pattern ∈ patterns, pattern.search none text = true := by
  induction patterns with
  | nil => simp
  | cons pattern patterns ih =>
    simp only [List.foldl_cons, List.mem_cons, exists_eq_or_imp]
    by_cases found : pattern.search none text = true
    · have detected : (filterPattern (text, false) pattern).2 = true := by
        rw [filterPattern, if_pos found]
      exact iff_of_true (detected_stays patterns detected) (.inl found)
    · rw [filterPattern_missed found, ih]
      exact (or_iff_right found).symm

theorem detectInjection_free (text : PyStr) :
    ∀ pattern ∈ injectionPatterns, ¬ pattern.search none (detectInjection text).1 = true := by
  intro pattern member
  obtain ⟨index, inside, rfl⟩ := List.mem_iff_getElem.mp member
  rw [search_iff (blind_at inside)]
  have free := filtered_free text injectionPatterns.length le_rfl index inside
  rwa [List.take_length] at free

private theorem detectInjection_of_free {text : PyStr}
    (free : ∀ pattern ∈ injectionPatterns, ¬ pattern.search none text = true) :
    detectInjection text = (text, false) := foldl_missed free

/-- What has been filtered holds no match, so that filtering it again finds nothing; and
something is detected just where a pattern matches the text as it came. -/
theorem detectInjection_fixpoint (text : PyStr) :
    (∀ pattern ∈ injectionPatterns, pattern.search none (detectInjection text).1 = false) ∧
      detectInjection (detectInjection text).1 = ((detectInjection text).1, false) ∧
      ((detectInjection text).2 = true ↔
        ∃ pattern ∈ injectionPatterns, pattern.search none text = true) := by
  refine ⟨fun pattern member => ?_, detectInjection_of_free (detectInjection_free text), foldl_detected_iff⟩
  exact Bool.eq_false_iff.mpr (detectInjection_free text pattern member)

end BrainMate.WriteRight.Prompt
