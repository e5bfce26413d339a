import BrainMate.Storage.Doubles
import BrainMate.Text.GlobalRegExp
import BrainMate.WriteRight.GrammarChecker

/-! `analyzeText` of `writing-coach.ts`, with the regular expressions that all its calls share. -/

namespace BrainMate.WriteRight.Coach

open Storage Text

def informalWords : List String :=
  ["hey", "hi", "wanna", "gonna", "gotta", "cool", "awesome", "yeah", "yep", "nope", "stuff", "guy",
    "guys", "idk", "tbh", "imho", "lol", "btw", "pls", "thx", "thanks", "kid", "kids", "cheap",
    "lazy", "hangout", "sucks", "crazy"]

/-- A phrase with what the coach would write in its place. -/
structure Coached where
  regex : GlobalRegExp UInt16
  suggestion : List UInt16

/-- `/\b…\b/gi` -/
def coached (phrase suggestion : String) : Coached where
  regex := { pattern := .wholeWords Grammar.isWord (Grammar.phrase phrase) }
  suggestion := units suggestion

/-- The regular expressions of the module, as the calls so far have left them. -/
structure Patterns where
  fillerPhrases : List Coached
  indianEnglishPatterns : List Coached
  passiveVerbPattern : GlobalRegExp UInt16

def fillerPhrases : List Coached :=
  [ coached "in order to" "to",
    coached "due to the fact that" "because",
    coached "so as to" "to",
    coached "at the end of the day" "ultimately",
    coached "as a matter of fact" "actually",
    coached "needless to say" "obviously",
    coached "at this point in time" "now",
    coached "for the purpose of" "for",
    coached "with reference to" "about",
    coached "in the event that" "if" ]

def indianEnglishPatterns : List Coached :=
  [ coached "do the needful" "do what is required",
    coached "please revert" "please reply",
    coached "revert back" "reply",
    coached "prepone" "bring forward / reschedule earlier",
    coached "passed out" "graduated",
    coached "out of station" "out of town",
    coached "discuss about" "discuss",
    coached "order for" "order",
    coached "today morning" "this morning",
    coached "yesterday night" "last night",
    coached "coping up with" "coping with",
    coached "have a doubt" "have a question",
    coached "doubt regarding" "question regarding" ]

/-- The expression is that of `grammar-checker.ts`. -/
def passiveVerbPattern : GlobalRegExp UInt16 := { pattern := Grammar.passiveVerbRegex.pattern }

def Patterns.initial : Patterns :=
  ⟨Coach.fillerPhrases, Coach.indianEnglishPatterns, Coach.passiveVerbPattern⟩

/-- `[aeiouy]` -/
def isVowel (unit : UInt16) : Bool := (units "aeiouy").contains unit

section Words

variable (toLowerCase : List UInt16 → List UInt16)

/-- `word.toLowerCase().replace(/[^a-z]/g, '')` -/
def cleanWord (word : List UInt16) : List UInt16 := (toLowerCase word).filter Grammar.isLower

def countWordSyllables (word : List UInt16) : Int :=
  let cleanWord := cleanWord toLowerCase word
  if cleanWord.length ≤ 3 then 1
  else
    let vowels : GlobalRegExp UInt16 := { pattern := .oneOrMore (.symbol isVowel) }
    let count : Int := (vowels.matchIn cleanWord).1.elim 1 fun groups => groups.length
    let ends (ending : String) : Bool := (units ending).isSuffixOf cleanWord
    let count := if ends "es" || ends "ed" then count - 1 else count
    let count := if ends "e" && !ends "le" then count - 1 else count
    max 1 count

def isInformal (word : List UInt16) : Bool :=
  (informalWords.map units).contains (cleanWord toLowerCase word)

end Words

/-- `Math.max(0, Math.min(100, Math.round(value)))` -/
def clampScore (value : ℚ) : ℚ := max 0 (min 100 (roundHalfUp value))

/-- The score of so many occurrences: `100 - (count / among) * weight`. -/
def penaltyScore (count among weight : ℕ) : ℚ :=
  clampScore (double (100 - double (double (count / among) * weight)))

/-- `CoachMetrics`, with the values for a text that is too short. -/
structure CoachMetrics where
  clarity : ℚ := 100
  formality : ℚ := 100
  conciseness : ℚ := 100
  indianEnglish : ℚ := 100
  passiveVoice : ℚ := 100
  suggestions : List (List UInt16) := []
  deriving DecidableEq

/-- `text.split(/[.!?]+/)` -/
def splitSentences (text : List UInt16) : List (List UInt16) :=
  (squeeze Grammar.isTerminator 0x2e false text).splitOnP Grammar.isTerminator

/-- What the scores are made of, apart from the phrases. -/
structure Measures where
  sentenceCount : ℕ
  wordCount : ℕ
  totalSyllables : Int
  informalCount : ℕ

def measure (toLowerCase : List UInt16 → List UInt16) (safeText : List UInt16) : Measures :=
  let sentences := (splitSentences safeText).filter fun sentence => 0 < (trim sentence).length
  let words := (Grammar.splitSpaces safeText).filter fun word => 0 < (trim word).length
  { sentenceCount := max 1 sentences.length
    wordCount := max 1 words.length
    totalSyllables := (words.map (countWordSyllables toLowerCase)).sum
    informalCount := words.countP (isInformal toLowerCase) }

def Measures.avgSentenceLength (measures : Measures) : ℚ :=
  double (measures.wordCount / measures.sentenceCount)

/-- The approximation of the Flesch reading ease. -/
def Measures.clarityScore (measures : Measures) : ℚ :=
  let avgSyllablesPerWord := double (measures.totalSyllables / measures.wordCount)
  let shortened := double (double 206.835 - double (double 1.015 * measures.avgSentenceLength))
  clampScore (double (shortened - double (double 84.6 * avgSyllablesPerWord)))

/-- How often the phrases occur in a text. -/
def countMatches (safeText : List UInt16) : List Coached → ℕ × List Coached
  | [] => (0, [])
  | item :: items =>
    let (found, regex) := item.regex.matchIn safeText
    let (count, others) := countMatches safeText items
    (found.elim 0 List.length + count, { item with regex } :: others)

/-- The first of the phrases that the text passes the test for, and how the text has it. -/
def firstHit (safeText : List UInt16) : List Coached → Option (Coached × List UInt16) × List Coached
  | [] => (none, [])
  | item :: items =>
    match item.regex.test safeText with
    | (true, regex) =>
      let (found, regex) := regex.matchIn safeText
      let quoted := (found.bind List.head?).elim (units "undefined") Match.taken
      (some (item, quoted), { item with regex } :: items)
    | (false, regex) =>
      let (hit, others) := firstHit safeText items
      (hit, { item with regex } :: others)

/-- The loop behind its condition. -/
def firstHitIf (condition : Prop) [Decidable condition] (safeText : List UInt16)
    (items : List Coached) : Option (Coached × List UInt16) × List Coached :=
  if condition then firstHit safeText items else (none, items)

def indianEnglishSuggestion (hit : Coached × List UInt16) : List UInt16 :=
  units "Avoid Indian English pattern: Use \"" ++ hit.1.suggestion ++ units "\" instead of \"" ++
    hit.2 ++ units "\"."

def concisenessSuggestion (hit : Coached × List UInt16) : List UInt16 :=
  units "Simplify \"" ++ hit.2 ++ units "\" to \"" ++ hit.1.suggestion ++
    units "\" to make it more concise."

def passiveSuggestion : List UInt16 :=
  units "Consider rewriting passive voice sentences using active verbs to add punch."

def claritySuggestion (avgSentenceLength : ℚ) : List UInt16 :=
  if 20 < avgSentenceLength then
    units "Some sentences are too long. Try splitting them into shorter, punchier sentences."
  else units "Simplify vocabulary and structure to improve readability."

/-- Step 6: the suggestions, and the expressions as its tests leave them. -/
def suggest (safeText : List UInt16) (scores : CoachMetrics) (avgSentenceLength : ℚ)
    (patterns : Patterns) : List (List UInt16) × Patterns :=
  let (indian, indianEnglishPatterns) :=
    firstHitIf (scores.indianEnglish < 95) safeText patterns.indianEnglishPatterns
  let suggestions := (indian.map indianEnglishSuggestion).toList
  let (filler, fillerPhrases) :=
    firstHitIf (scores.conciseness < 95 ∧ suggestions.length < 3) safeText patterns.fillerPhrases
  let suggestions := suggestions ++ (filler.map concisenessSuggestion).toList
  let suggestions := suggestions ++
    if scores.passiveVoice < 85 ∧ suggestions.length < 3 then [passiveSuggestion] else []
  let suggestions := suggestions ++
    if scores.clarity < 60 ∧ suggestions.length < 3 then [claritySuggestion avgSentenceLength] else []
  (suggestions, { patterns with fillerPhrases, indianEnglishPatterns })

def analyzeText (toLowerCase : List UInt16 → List UInt16) (text : List UInt16) (patterns : Patterns) :
    CoachMetrics × Patterns :=
  let safeText := trim text
  if safeText.length < 21 then ({}, patterns)
  else
    let measures := measure toLowerCase safeText
    let (fillerCount, fillerPhrases) := countMatches safeText patterns.fillerPhrases
    let (ieCount, indianEnglishPatterns) := countMatches safeText patterns.indianEnglishPatterns
    let (passiveMatches, passiveVerbPattern) := patterns.passiveVerbPattern.matchIn safeText
    let passiveCount := passiveMatches.elim 0 List.length
    let scores : CoachMetrics :=
      { clarity := measures.clarityScore
        formality := penaltyScore measures.informalCount measures.wordCount 400
        conciseness := penaltyScore fillerCount measures.wordCount 500
        indianEnglish := penaltyScore ieCount measures.wordCount 1000
        passiveVoice := penaltyScore passiveCount measures.sentenceCount 50 }
    let (suggestions, patterns) := suggest safeText scores measures.avgSentenceLength
      { fillerPhrases, indianEnglishPatterns, passiveVerbPattern }
    ({ scores with suggestions := suggestions.take 3 }, patterns)

/-- The results of the calls for these texts, one after the other. -/
def analyses (toLowerCase : List UInt16 → List UInt16) :
    List (List UInt16) → Patterns → List CoachMetrics
  | [], _ => []
  | text :: texts, patterns =>
    let (metrics, patterns) := analyzeText toLowerCase text patterns
    metrics :: analyses toLowerCase texts patterns

section Shared

variable {safeText : List UInt16} {item : Coached} {items : List Coached} {patterns : Patterns}

def Coached.reset (item : Coached) : Coached := { item with regex := item.regex.reset }

/-- The expressions as they are before the first call. -/
def Patterns.reset (patterns : Patterns) : Patterns where
  fillerPhrases := patterns.fillerPhrases.map Coached.reset
  indianEnglishPatterns := patterns.indianEnglishPatterns.map Coached.reset
  passiveVerbPattern := patterns.passiveVerbPattern.reset

/-- Each phrase takes something. -/
def Solid (items : List Coached) : Prop := ∀ item ∈ items, item.regex.pattern.solid = true

instance : Decidable (Solid items) :=
  inferInstanceAs (Decidable (∀ item ∈ items, item.regex.pattern.solid = true))

/-- A phrase that a text has, and how the text has it first. -/
def occurrence (safeText : List UInt16) (item : Coached) : Option (Coached × List UInt16) :=
  (item.regex.pattern.allMatches safeText).head?.map fun found => (item, found.taken)

/-- How often a text has the phrases. -/
def occurrences (safeText : List UInt16) (items : List Coached) : ℕ :=
  (items.map fun item => (item.regex.pattern.allMatches safeText).length).sum

private theorem countMatches_eq (solid : Solid items) :
    countMatches safeText items = (occurrences safeText items, items.map Coached.reset) := by
  induction items with
  | nil => rfl
  | cons item items ih =>
    obtain ⟨first, others⟩ := List.forall_mem_cons.mp solid
    rw [countMatches, ih others]
    simp only [occurrences, List.map_cons, List.sum_cons, GlobalRegExp.length_matchIn first,
      GlobalRegExp.matchIn_snd, Coached.reset]

/-- The tests of the loop and the `match` behind the one that succeeds leave no index behind. -/
theorem firstHit_reset (solid : Solid items) :
    firstHit safeText (items.map Coached.reset) =
      ((items.map Coached.reset).findSome? (occurrence safeText), items.map Coached.reset) := by
  induction items with
  | nil => rfl
  | cons item items ih =>
    obtain ⟨first, others⟩ := List.forall_mem_cons.mp solid
    have tested := @GlobalRegExp.test_reset _ item.regex safeText first
    have left := @GlobalRegExp.reset_test _ item.regex.reset safeText
    have regexes : item.reset.regex = item.regex.reset := rfl
    rw [List.map_cons, firstHit, List.findSome?_cons, occurrence, regexes]
    cases result : item.regex.reset.test safeText with
    | mk passed regex =>
      rw [result] at tested left
      cases passed with
      | false =>
        have still : regex = item.regex.reset := by
          have failed := @GlobalRegExp.test_false _ item.regex.reset safeText (by rw [result])
          rwa [result] at failed
        have nothing : (item.regex.pattern.allMatches safeText).head? = none :=
          Option.isNone_iff_eq_none.mp (Option.isSome_eq_false_iff.mp tested.symm)
        have none_ : (item.regex.reset.pattern.allMatches safeText).head? = none := nothing
        rw [none_, ih others, still]
        rfl
      | true =>
        have matched : regex.matchIn safeText = item.regex.matchIn safeText := by
          rw [← GlobalRegExp.matchIn_reset, left, GlobalRegExp.reset_reset, GlobalRegExp.matchIn_reset]
        obtain ⟨found, begins⟩ := Option.isSome_iff_exists.mp tested.symm
        have begins' : (item.regex.reset.pattern.allMatches safeText).head? = some found := begins
        simp only [matched, GlobalRegExp.matchIn_snd, GlobalRegExp.head?_matchIn first, begins, begins']
        rfl

private theorem findSome?_occurrence (some_ : 0 < occurrences safeText items) :
    ∃ item ∈ items, ∃ found, (item.regex.pattern.allMatches safeText).head? = some found ∧
      items.findSome? (occurrence safeText) = some (item, found.taken) := by
  cases hit : items.findSome? (occurrence safeText) with
  | none =>
    have none_ := List.findSome?_eq_none_iff.mp hit
    have nothing : occurrences safeText items = 0 := by
      refine List.sum_eq_zero fun count member => ?_
      obtain ⟨item, among, rfl⟩ := List.mem_map.mp member
      have without := Option.map_eq_none_iff.mp (none_ item among)
      rw [List.head?_eq_none_iff.mp without, List.length_nil]
    omega
  | some hit_ =>
    obtain ⟨item, member, occurs⟩ := List.exists_of_findSome?_eq_some hit
    obtain ⟨found, first, rfl⟩ := Option.map_eq_some_iff.mp occurs
    exact ⟨item, member, found, first, rfl⟩

end Shared

private theorem clampScore_bounds (value : ℚ) : ∃ points :
    ℕ, points ≤ 100 ∧ clampScore value = points := by
  refine ⟨(max 0 (min 100 (roundHalfUp value))).toNat, by omega, ?_⟩
  have nonneg : 0 ≤ max 0 (min 100 (roundHalfUp value)) := le_max_left _ _
  have same : ((max 0 (min 100 (roundHalfUp value))).toNat : ℤ) = max 0 (min 100 (roundHalfUp value)) :=
    Int.toNat_of_nonneg nonneg
  rw [clampScore, ← Int.cast_natCast, same]
  push_cast
  rfl

/-- Without occurrences nothing is taken off, however the numbers are rounded. -/
theorem penaltyScore_zero (among weight : ℕ) : penaltyScore 0 among weight = 100 := by
  have hundred : double 100 = 100 := by exact_mod_cast double_natCast (by decide : 100 < 2 ^ 53)
  have rounded : roundHalfUp 100 = 100 := by exact_mod_cast roundHalfUp_intCast 100
  rw [penaltyScore, Nat.cast_zero, zero_div, double_zero, zero_mul, double_zero, sub_zero, hundred,
    clampScore, rounded]
  norm_num

private theorem occurs_of_penalty {count among weight : ℕ}
    (below : penaltyScore count among weight < 95) :
    0 < count := by
  rcases Nat.eq_zero_or_pos count with rfl | some_
  · rw [penaltyScore_zero] at below
    norm_num at below
  · exact some_

section Suggestions

variable {safeText : List UInt16} {scores : CoachMetrics} {avgSentenceLength : ℚ}
variable {patterns : Patterns}

theorem firstHitIf_reset (condition : Prop) [Decidable condition] {items : List Coached}
    (solid : Solid items) :
    firstHitIf condition safeText (items.map Coached.reset) =
      (if condition then (items.map Coached.reset).findSome? (occurrence safeText) else none,
        items.map Coached.reset) := by
  rw [firstHitIf]
  split
  · exact firstHit_reset solid
  · rfl

private theorem suggest_snd (fillers : Solid patterns.fillerPhrases)
    (indian : Solid patterns.indianEnglishPatterns) :
    (suggest safeText scores avgSentenceLength patterns.reset).2 = patterns.reset := by
  simp only [suggest, Patterns.reset, firstHitIf_reset _ fillers, firstHitIf_reset _ indian]

private theorem length_suggest_le :
    (suggest safeText scores avgSentenceLength patterns).1.length ≤ 3 := by
  have if_ (condition : Prop) [Decidable condition] (suggestion : List UInt16) :
      (if condition then [suggestion] else []).length = if condition then 1 else 0 := by
    split <;> rfl
  simp only [suggest, List.length_append, if_]
  generalize Option.map indianEnglishSuggestion _ = indian
  generalize Option.map concisenessSuggestion _ = filler
  have first : indian.toList.length ≤ 1 := Option.length_toList_le
  have second : filler.toList.length ≤ 1 := Option.length_toList_le
  split
  · split <;> omega
  · split <;> omega

/-- A phrase of Indian English that the text has is pointed out when its score is low. -/
theorem suggest_indianEnglish (indian : Solid patterns.indianEnglishPatterns)
    (low : scores.indianEnglish < 95) {hit : Coached × List UInt16}
    (occurs : (patterns.indianEnglishPatterns.map Coached.reset).findSome? (occurrence safeText) =
      some hit) :
    indianEnglishSuggestion hit ∈ (suggest safeText scores avgSentenceLength patterns.reset).1 := by
  simp only [suggest, Patterns.reset, firstHitIf_reset _ indian, if_pos low, occurs]
  exact List.mem_append_left _ (List.mem_append_left _ (List.mem_append_left _ List.mem_cons_self))

private theorem suggest_conciseness (fillers : Solid patterns.fillerPhrases)
    (low : scores.conciseness < 95) {hit : Coached × List UInt16}
    (occurs : (patterns.fillerPhrases.map Coached.reset).findSome? (occurrence safeText) = some hit) :
    concisenessSuggestion hit ∈ (suggest safeText scores avgSentenceLength patterns.reset).1 := by
  have room (indian : Option (List UInt16)) : indian.toList.length < 3 :=
    Nat.lt_of_le_of_lt Option.length_toList_le (by decide)
  simp only [suggest, Patterns.reset, firstHitIf_reset _ fillers, low, room, and_self, if_true, occurs]
  exact List.mem_append_left _ (List.mem_append_left _ (List.mem_append_right _ List.mem_cons_self))

end Suggestions

section Calls

variable {toLowerCase : List UInt16 → List UInt16} {text : List UInt16} {patterns : Patterns}

/-- Each expression takes something. -/
structure Patterns.AllSolid (patterns : Patterns) : Prop where
  fillerPhrases : Solid patterns.fillerPhrases
  indianEnglishPatterns : Solid patterns.indianEnglishPatterns
  passiveVerbPattern : patterns.passiveVerbPattern.pattern.solid = true

theorem allSolid_initial : Patterns.initial.AllSolid := ⟨by decide, by decide, by decide⟩

/-- The scores of a text, by the matches that it has. -/
def scoresOf (toLowerCase : List UInt16 → List UInt16) (safeText : List UInt16)
    (patterns : Patterns) : CoachMetrics :=
  let measures := measure toLowerCase safeText
  { clarity := measures.clarityScore
    formality := penaltyScore measures.informalCount measures.wordCount 400
    conciseness := penaltyScore (occurrences safeText patterns.fillerPhrases) measures.wordCount 500
    indianEnglish :=
      penaltyScore (occurrences safeText patterns.indianEnglishPatterns) measures.wordCount 1000
    passiveVoice :=
      penaltyScore (patterns.passiveVerbPattern.pattern.allMatches safeText).length
        measures.sentenceCount 50 }

/-- Whatever the calls before it left behind, a call scores the matches of its text and suggests as
after a reset. -/
theorem analyzeText_eq (solid : patterns.AllSolid) (long : ¬ (trim text).length < 21) :
    let scores := scoresOf toLowerCase (trim text) patterns
    let suggested := suggest (trim text) scores (measure toLowerCase (trim text)).avgSentenceLength
      patterns.reset
    analyzeText toLowerCase text patterns =
      ({ scores with suggestions := suggested.1 }, patterns.reset) := by
  intro scores suggested
  have few : suggested.1.take 3 = suggested.1 := List.take_of_length_le length_suggest_le
  have still : suggested.2 = patterns.reset :=
    suggest_snd solid.fillerPhrases solid.indianEnglishPatterns
  rw [← few, ← still]
  simp only [analyzeText, if_neg long, countMatches_eq solid.fillerPhrases,
    countMatches_eq solid.indianEnglishPatterns, GlobalRegExp.matchIn_snd,
    GlobalRegExp.length_matchIn solid.passiveVerbPattern]
  rfl

/-- What the metrics of a text are like: a low score comes with a suggestion that quotes the first
match of a phrase that the text has. -/
structure CoachMetrics.Fair (text : List UInt16) (metrics : CoachMetrics) : Prop where
  scores : ∀ score ∈ [metrics.clarity, metrics.formality, metrics.conciseness, metrics.indianEnglish,
    metrics.passiveVoice], ∃ points : ℕ, points ≤ 100 ∧ score = points
  few : metrics.suggestions.length ≤ 3
  indianEnglish : metrics.indianEnglish < 95 → ∃ item ∈ Coach.indianEnglishPatterns, ∃ found,
    (item.regex.pattern.allMatches (trim text)).head? = some found ∧
      indianEnglishSuggestion (item, found.taken) ∈ metrics.suggestions
  conciseness : metrics.conciseness < 95 → ∃ item ∈ Coach.fillerPhrases, ∃ found,
    (item.regex.pattern.allMatches (trim text)).head? = some found ∧
      concisenessSuggestion (item, found.taken) ∈ metrics.suggestions

private theorem analyzeText_fair (toLowerCase : List UInt16 → List UInt16) (text : List UInt16) :
    (analyzeText toLowerCase text .initial).1.Fair text := by
  by_cases short : (trim text).length < 21
  · have full : ∃ points : ℕ, points ≤ 100 ∧ (100 : ℚ) = points := ⟨100, Nat.le_refl _, rfl⟩
    rw [analyzeText]
    simp only [if_pos short]
    refine ⟨?_, Nat.zero_le _, fun low => ?_, fun low => ?_⟩
    · intro score member
      simp only [List.mem_cons, List.not_mem_nil, or_false, or_self] at member
      rw [member]
      exact full
    · norm_num at low
    · norm_num at low
  · rw [analyzeText_eq allSolid_initial short]
    refine ⟨fun score member => ?_, length_suggest_le, fun low => ?_, fun low => ?_⟩
    · simp only [scoresOf, List.mem_cons, List.not_mem_nil, or_false] at member
      obtain rfl | rfl | rfl | rfl | rfl := member <;> exact clampScore_bounds _
    · obtain ⟨item, member, found, first, occurs⟩ := findSome?_occurrence (occurs_of_penalty low)
      exact ⟨item, member, found, first, suggest_indianEnglish allSolid_initial.2 low occurs⟩
    · obtain ⟨item, member, found, first, occurs⟩ := findSome?_occurrence (occurs_of_penalty low)
      exact ⟨item, member, found, first, suggest_conciseness allSolid_initial.1 low occurs⟩

/-- Every call comes to what it comes to as the first call. Its scores are numbers of points up to
100, it makes at most three suggestions, and a low score for Indian English or conciseness comes
with a suggestion of its kind. -/
theorem analyses_alike (toLowerCase : List UInt16 → List UInt16) (texts : List (List UInt16)) :
    analyses toLowerCase texts .initial =
        texts.map (fun text => (analyzeText toLowerCase text .initial).1) ∧
      ∀ text ∈ texts, (analyzeText toLowerCase text .initial).1.Fair text := by
  refine ⟨?_, fun text _ => analyzeText_fair toLowerCase text⟩
  have still (text : List UInt16) : (analyzeText toLowerCase text .initial).2 = .initial := by
    by_cases short : (trim text).length < 21
    · simp only [analyzeText, if_pos short]
    · rw [analyzeText_eq allSolid_initial short]
      rfl
  induction texts with
  | nil => rfl
  | cons text texts ih =>
    rw [analyses, List.map_cons]
    dsimp only
    rw [still, ih]

end Calls

end BrainMate.WriteRight.Coach
