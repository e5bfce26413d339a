import Mathlib.Data.List.Perm.Subperm
import BrainMate.WriteRight.ModelResponse

namespace BrainMate.WriteRight.ModelResponse

open Text

/-- What the users of a result rely on. -/
structure Complete (result : AIResult) : Prop where
  improvedText : result.improvedText ≠ []
  clarity : 1 ≤ result.scores.clarity ∧ result.scores.clarity ≤ 10
  tone : 1 ≤ result.scores.tone ∧ result.scores.tone ≤ 10
  impact : 1 ≤ result.scores.impact ∧ result.scores.impact ≤ 10
  verdict : result.scores.verdict ∈ [verdictReady, verdictNeedsWork, verdictStrong]
  suggestions : result.suggestions.length = 3

variable (python : Python)

/-- The keys that have been seen are those of the suggestions, each once. -/
structure Deduplicated (state : List PyStr × List PyStr) : Prop where
  seen : state.2 = (state.1.map python.lower).reverse
  nodup : state.2.Nodup

/-- What a run of additions leaves: no more than three, and less only where all have been seen. -/
structure Collected (texts : List PyStr) (before after : List PyStr × List PyStr) : Prop where
  deduplicated : Deduplicated python after
  bound : after.1.length ≤ 3
  kept : ∀ key ∈ before.2, key ∈ after.2
  all : after.1.length < 3 → ∀ text ∈ texts, python.lower text ∈ after.2

section Suggestions

variable {python}

theorem Deduplicated.length {state : List PyStr × List PyStr}
    (deduplicated : Deduplicated python state) : state.2.length = state.1.length := by
  rw [deduplicated.seen, List.length_reverse, List.length_map]

theorem Deduplicated.add {suggestions seen : List PyStr} {text : PyStr}
    (deduplicated : Deduplicated python (suggestions, seen)) (fresh : python.lower text ∉ seen) :
    Deduplicated python (suggestions ++ [text], python.lower text :: seen) where
  seen := by
    rw [List.map_append, List.reverse_append, ← deduplicated.seen]
    rfl
  nodup := List.nodup_cons.mpr ⟨fresh, deduplicated.nodup⟩

theorem collect_collected (texts : List PyStr) {state : List PyStr × List PyStr}
    (deduplicated : Deduplicated python state) (few : state.1.length < 3) :
    Collected python texts state (collect python texts state) := by
  induction texts generalizing state with
  | nil =>
    exact ⟨deduplicated, Nat.le_of_lt few, fun _ member => member, fun _ _ none_ => nomatch none_⟩
  | cons text rest ih =>
    obtain ⟨suggestions, seen⟩ := state
    rw [collect]
    by_cases known : python.lower text ∈ seen
    · rw [if_pos known]
      have later := ih deduplicated few
      refine ⟨later.deduplicated, later.bound, later.kept, fun short => ?_⟩
      exact List.forall_mem_cons.mpr ⟨later.kept _ known, later.all short⟩
    · rw [if_neg known]
      have added := deduplicated.add known
      by_cases full : (suggestions ++ [text]).length = 3
      · rw [if_pos full]
        exact ⟨added, Nat.le_of_eq full, fun _ member => .tail _ member,
          fun short => absurd full (Nat.ne_of_lt short)⟩
      · rw [if_neg full]
        rw [List.length_append, List.length_singleton] at full
        have fewer : (suggestions ++ [text]).length < 3 := by
          rw [List.length_append, List.length_singleton]
          dsimp only at few
          omega
        have later := ih added fewer
        refine ⟨later.deduplicated, later.bound, fun key member => later.kept _ (.tail _ member),
          fun short => ?_⟩
        exact List.forall_mem_cons.mpr ⟨later.kept _ (.head _), later.all short⟩

/-- The three defaults of a mode are ASCII texts, and differ in more than their case. -/
theorem fallback_keys (mode : PyStr) :
    (fallbackSuggestions mode).length = 3 ∧
      (∀ text ∈ fallbackSuggestions mode, text.all fun point => decide (point < 0x80)) ∧
      ((fallbackSuggestions mode).map (List.map asciiLower)).Nodup := by
  unfold fallbackSuggestions
  split
  · decide +kernel
  split
  · decide +kernel
  split
  · decide +kernel
  decide +kernel

private theorem fallback_nodup (mode : PyStr) :
    ((fallbackSuggestions mode).map python.lower).Nodup := by
  obtain ⟨_, ascii, distinct⟩ := fallback_keys mode
  have same : (fallbackSuggestions mode).map python.lower =
      (fallbackSuggestions mode).map (List.map asciiLower) := by
    refine List.map_congr_left fun text member => python.lower_ascii text fun point inside => ?_
    exact of_decide_eq_true (List.all_eq_true.mp (ascii text member) point inside)
  rwa [same]

/-- With the defaults there are always three. -/
theorem length_extractSuggestions (data : List (List Nat × Json)) (mode : PyStr) :
    (extractSuggestions python data mode).length = 3 := by
  have start : Deduplicated python ([], []) := ⟨rfl, List.nodup_nil⟩
  rw [extractSuggestions]
  generalize List.filterMap sanitizeSuggestion _ = texts
  have first := collect_collected texts start (by decide)
  dsimp only
  by_cases full : (collect python texts ([], [])).1.length = 3
  · rw [if_pos full, full]
  · rw [if_neg full]
    have few : (collect python texts ([], [])).1.length < 3 :=
      Nat.lt_of_le_of_ne first.bound full
    have second := collect_collected (fallbackSuggestions mode) first.deduplicated few
    refine Nat.le_antisymm second.bound (Nat.le_of_not_lt fun short => ?_)
    have inside : (fallbackSuggestions mode).map python.lower ⊆
        (collect python (fallbackSuggestions mode) (collect python texts ([], []))).2 := by
      intro key member
      obtain ⟨text, present, rfl⟩ := List.mem_map.mp member
      exact second.all short text present
    have count := ((fallback_nodup mode).subperm inside).length_le
    rw [List.length_map, (fallback_keys mode).1, second.deduplicated.length] at count
    exact absurd short (Nat.not_lt.mpr count)

end Suggestions

/-- What `int` cannot make a number of, and raises no `ValueError` for. -/
def Infinite (rawValue : Json) : Prop :=
  ∃ literal, rawValue = .float literal ∧ python.floatValue literal = .infinite

/-- One of the three scores is infinite. -/
def InfiniteScore (scoresData : List (List Nat × Json)) : Prop :=
  Infinite python (get scoresData "clarity" .null) ∨ Infinite python (get scoresData "tone" .null) ∨
    Infinite python (get scoresData "impact" .null)

section Scores

variable {python}

/-- Only an infinite float is no score. -/
theorem clampScore_cases (rawValue : Json) :
    (∃ score, clampScore python rawValue = .ok score ∧ (1 ≤ score ∧ score ≤ 10) ∧
      ¬ Infinite python rawValue) ∨
    (clampScore python rawValue = .error .overflowError ∧ Infinite python rawValue) := by
  have range (score : Int) : 1 ≤ max 1 (min 10 score) ∧ max 1 (min 10 score) ≤ 10 := by omega
  rw [clampScore]
  cases rawValue with
  | float literal =>
    rw [pyInt]
    cases value : python.floatValue literal with
    | infinite => exact .inr ⟨rfl, literal, rfl, value⟩
    | nan | finite =>
      refine .inl ⟨_, rfl, by omega, ?_⟩
      rintro ⟨_, ⟨⟩, infinite⟩
      rw [value] at infinite
      cases infinite
  | str points =>
    rw [pyInt]
    cases python.intOfStr points with
    | none => exact .inl ⟨_, rfl, by omega, nofun⟩
    | some value => exact .inl ⟨_, rfl, range value, nofun⟩
  | bool | int => exact .inl ⟨_, rfl, range _, nofun⟩
  | null | arr | obj => exact .inl ⟨_, rfl, by omega, nofun⟩

private theorem normalizeVerdict_mem (rawVerdict : Json) :
    normalizeVerdict python rawVerdict ∈ [verdictReady, verdictNeedsWork, verdictStrong] := by
  unfold normalizeVerdict
  split
  · dsimp only
    split
    · exact .head _
    · split
      · exact .tail _ (.head _)
      · split
        · exact .tail _ (.tail _ (.head _))
        · exact .tail _ (.head _)
  · exact .tail _ (.head _)

/-- A block of scores in their range. -/
structure InRange (scores : ScoreBlock) : Prop where
  clarity : 1 ≤ scores.clarity ∧ scores.clarity ≤ 10
  tone : 1 ≤ scores.tone ∧ scores.tone ≤ 10
  impact : 1 ≤ scores.impact ∧ scores.impact ≤ 10
  verdict : scores.verdict ∈ [verdictReady, verdictNeedsWork, verdictStrong]

private theorem scoreBlock_cases (scoresData : List (List Nat × Json)) :
    (∃ scores, scoreBlock python scoresData = .ok scores ∧ InRange scores ∧
      ¬ InfiniteScore python scoresData) ∨
    (scoreBlock python scoresData = .error .overflowError ∧ InfiniteScore python scoresData) := by
  rw [scoreBlock]
  obtain ⟨clarity, read, clarityRange, clarityFinite⟩ | ⟨raised, infinite⟩ :=
    @clampScore_cases python (get scoresData "clarity" .null)
  · obtain ⟨tone, read', toneRange, toneFinite⟩ | ⟨raised, infinite⟩ :=
      @clampScore_cases python (get scoresData "tone" .null)
    · obtain ⟨impact, read'', impactRange, impactFinite⟩ | ⟨raised, infinite⟩ :=
        @clampScore_cases python (get scoresData "impact" .null)
      · left
        rw [read, read', read'']
        refine ⟨_, rfl, ⟨clarityRange, toneRange, impactRange, normalizeVerdict_mem _⟩, ?_⟩
        rintro (infinite | infinite | infinite)
        · exact clarityFinite infinite
        · exact toneFinite infinite
        · exact impactFinite infinite
      · right
        rw [read, read', raised]
        exact ⟨rfl, .inr (.inr infinite)⟩
    · right
      rw [read, raised]
      exact ⟨rfl, .inr (.inl infinite)⟩
  · right
    rw [raised]
    exact ⟨rfl, .inl infinite⟩

end Scores

/-- The value of a field of type `str`. -/
def IsStr (value : Json) : Prop := ∃ points, value = .str points ∧ python.accepts points = true

/-- Every field of a result that is text is taken. -/
structure Taken (improvedText : Json) (englishVersion : Option PyStr) (followUp : Json)
    (suggestions : List PyStr) (call : Call) : Prop where
  improvedText : IsStr python improvedText
  englishVersion : ∀ points, englishVersion = some points → python.accepts points = true
  followUp : IsStr python followUp
  suggestions : ∀ points ∈ suggestions, python.accepts points = true
  model : python.accepts call.model = true

section Validation

variable {python}

theorem str?_eq_some_iff {value : Json} {points : PyStr} :
    str? python value = some points ↔ value = .str points ∧ python.accepts points = true := by
  cases value with
  | str text =>
    rw [str?]
    by_cases accepted : python.accepts text = true
    · rw [if_pos accepted]
      constructor
      · rintro ⟨⟩
        exact ⟨rfl, accepted⟩
      · rintro ⟨⟨⟩, _⟩
        rfl
    · rw [if_neg accepted]
      constructor
      · nofun
      · rintro ⟨⟨⟩, taken⟩
        exact absurd taken accepted
  | null | bool | int | float | arr | obj => constructor <;> nofun

private theorem strList?_strs (texts : List PyStr) :
    strList? python (.arr (texts.map .str)) =
      if ∀ points ∈ texts, python.accepts points = true then some texts else none := by
  induction texts with
  | nil => rfl
  | cons text rest ih =>
    rw [strList?] at ih ⊢
    rw [List.map_cons, List.mapM_cons, ih, str?]
    by_cases accepted : python.accepts text = true
    · by_cases others : ∀ points ∈ rest, python.accepts points = true
      · have all : ∀ points ∈ text :: rest, python.accepts points = true := by
          intro points member
          rcases List.mem_cons.mp member with rfl | later
          · exact accepted
          · exact others points later
        rw [if_pos accepted, if_pos others, if_pos all]
        rfl
      · rw [if_pos accepted, if_neg others,
          if_neg fun all => others fun points member => all points (.tail _ member)]
        rfl
    · have missing : ¬ ∀ points ∈ text :: rest, python.accepts points = true :=
        fun all => accepted (all text (.head _))
      rw [if_neg accepted, if_neg missing]
      rfl

private theorem aiResult?_taken {improvedText : Json} {englishVersion : Option PyStr}
    {followUp : Json}
    {suggestions : List PyStr} {call : Call}
    (taken : Taken python improvedText englishVersion followUp suggestions call)
    (teaching : TeachingBlock) (scores : ScoreBlock) :
    ∃ result, aiResult? python improvedText englishVersion teaching followUp suggestions scores
        call = some result ∧ improvedText = .str result.improvedText ∧
      result.suggestions = suggestions ∧ result.scores = scores := by
  obtain ⟨improved, rfl, improvedTaken⟩ := taken.improvedText
  obtain ⟨follow, rfl, followTaken⟩ := taken.followUp
  have english : nullable (str? python) (orNull (englishVersion.map .str)) =
      some englishVersion := by
    cases englishVersion with
    | none => rfl
    | some points =>
      have taken := str?_eq_some_iff.mpr ⟨rfl, taken.englishVersion points rfl⟩
      rw [Option.map_some, orNull, Option.getD_some, nullable, taken]
      · rfl
      · nofun
  rw [aiResult?, str?_eq_some_iff.mpr ⟨rfl, improvedTaken⟩, english,
    str?_eq_some_iff.mpr ⟨rfl, followTaken⟩, strList?_strs, if_pos taken.suggestions,
    str?_eq_some_iff.mpr ⟨rfl, taken.model⟩]
  exact ⟨_, rfl, rfl, rfl, rfl⟩

private theorem taken_of_aiResult? {improvedText : Json} {englishVersion : Option PyStr}
    {teaching : TeachingBlock} {followUp : Json} {suggestions : List PyStr} {scores : ScoreBlock}
    {call : Call} {result : AIResult}
    (valid : aiResult? python improvedText englishVersion teaching followUp suggestions scores call =
      some result) :
    Taken python improvedText englishVersion followUp suggestions call := by
  simp only [aiResult?, Option.bind_eq_bind, Option.bind_eq_some_iff] at valid
  obtain ⟨improved, isImproved, english, isEnglish, follow, isFollow, list, isList, model, isModel,
    -⟩ := valid
  refine ⟨⟨improved, str?_eq_some_iff.mp isImproved⟩, ?_, ⟨follow, str?_eq_some_iff.mp isFollow⟩, ?_,
    ?_⟩
  · rintro points rfl
    rw [Option.map_some, orNull, Option.getD_some, nullable] at isEnglish
    · obtain ⟨found, read, -⟩ := Option.map_eq_some_iff.mp isEnglish
      obtain ⟨same, taken⟩ := str?_eq_some_iff.mp read
      cases same
      exact taken
    · nofun
  · rw [strList?_strs] at isList
    split at isList
    · assumption
    · cases isList
  · obtain ⟨same, taken⟩ := str?_eq_some_iff.mp isModel
    cases same
    exact taken

end Validation

/-- The object has an improved text. -/
def HasText (data : List (List Nat × Json)) : Prop :=
  truthy python (get data "improved_text" (.str [])) = true

/-- The teaching is an object of lists of texts. -/
def Teaches (data : List (List Nat × Json)) : Prop :=
  ∃ teachingData, get data "teaching" (.obj []) = .obj teachingData ∧
    (teachingBlock? python teachingData).isSome = true

/-- The text is an object that makes a result. -/
def Answers (text : PyStr) (call : Call) : Prop :=
  ∃ data, readObject python text = .ok data ∧ HasText python data ∧ Teaches python data ∧
    ¬ InfiniteScore python (scoresData data) ∧
    Taken python (get data "improved_text" (.str [])) (englishVersion data)
      (get data "follow_up" (.str [])) (extractSuggestions python data call.mode) call

/-- An attempt at the text raises what is not caught. It is nested too deep or no object; or it is
an object with an improved text, and its teaching is no object, or one of its scores is infinite. -/
def Trips (text : PyStr) : Prop :=
  (∃ raised, raised ≠ .valueError ∧ readObject python text = .error raised) ∨
    ∃ data, readObject python text = .ok data ∧ HasText python data ∧
      ((∀ teachingData, get data "teaching" (.obj []) ≠ .obj teachingData) ∨
        (Teaches python data ∧ InfiniteScore python (scoresData data)))

section Attempt

variable {python} {text : PyStr} {call : Call}

/-- What an attempt comes to, as the object tells. -/
inductive Attempted (python : Python) (text : PyStr) (call : Call) : Except Raised AIResult → Prop where
  | answers {result : AIResult} (answer : Answers python text call) (safe : ¬ Trips python text)
      (complete : Complete result) : Attempted python text call (.ok result)
  | trips {raised : Raised} (uncaught : raised ≠ .valueError) (trip : Trips python text) :
      Attempted python text call (.error raised)
  | fails (none_ : ¬ Answers python text call) (safe : ¬ Trips python text) :
      Attempted python text call (.error .valueError)

private theorem structured_attempted {data : List (List Nat × Json)}
    (read : readObject python text = .ok data) (hasText : HasText python data) :
    Attempted python text call
      (structured python data (get data "improved_text" (.str [])) call) := by
  have only {other : List (List Nat × Json)} (same : readObject python text = .ok other) :
      other = data := Except.ok.inj (same.symm.trans read)
  have noError : ¬ ∃ raised, raised ≠ .valueError ∧ readObject python text = .error raised := by
    rintro ⟨raised, -, failed⟩
    rw [read] at failed
    cases failed
  rw [structured]
  split
  · rename_i teachingData teaching
    split
    · rename_i invalid
      have untaught : ¬ Teaches python data := by
        rintro ⟨other, same, valid⟩
        cases teaching.symm.trans same
        rw [invalid] at valid
        cases valid
      refine .fails ?_ ?_
      · rintro ⟨other, same, -, taught, -⟩
        exact untaught (only same ▸ taught)
      · rintro (failed | ⟨other, same, -, trip⟩)
        · exact noError failed
        · cases only same
          rcases trip with other | ⟨taught, -⟩
          · exact other _ teaching
          · exact untaught taught
    · rename_i block valid
      have taught : Teaches python data := ⟨teachingData, teaching, by rw [valid]; rfl⟩
      obtain ⟨scores, scored, range, finite⟩ | ⟨raised, infinite⟩ :=
        @scoreBlock_cases python (scoresData data)
      · rw [scored]
        dsimp only
        have safe : ¬ Trips python text := by
          rintro (failed | ⟨other, same, -, trip⟩)
          · exact noError failed
          · cases only same
            rcases trip with other | ⟨-, infinite⟩
            · exact other _ teaching
            · exact finite infinite
        split
        · rename_i refused
          refine .fails ?_ safe
          rintro ⟨other, same, -, -, -, taken⟩
          cases only same
          obtain ⟨result, made, -⟩ := aiResult?_taken taken block scores
          rw [made] at refused
          cases refused
        · rename_i result made
          have taken := taken_of_aiResult? made
          obtain ⟨other, again, improved, suggestions, scored⟩ := aiResult?_taken taken block scores
          cases made.symm.trans again
          refine .answers ⟨data, read, hasText, taught, finite, taken⟩ safe ?_
          refine ⟨?_, ?_, ?_, ?_, ?_, ?_⟩
          · intro empty
            rw [HasText, improved, empty] at hasText
            cases hasText
          · rw [scored]
            exact range.clarity
          · rw [scored]
            exact range.tone
          · rw [scored]
            exact range.impact
          · rw [scored]
            exact range.verdict
          · rw [suggestions]
            exact length_extractSuggestions data call.mode
      · rw [raised]
        exact .trips nofun (.inr ⟨data, read, hasText, .inr ⟨taught, infinite⟩⟩)
  · rename_i teaching
    exact .trips nofun (.inr ⟨data, read, hasText, .inl teaching⟩)

private theorem attempt_attempted (text : PyStr) (call : Call) :
    Attempted python text call (attempt python text call) := by
  rw [attempt]
  cases read : readObject python text with
  | error raised =>
    by_cases caught : raised = .valueError
    · subst caught
      refine .fails ?_ ?_
      · rintro ⟨data, same, -⟩
        rw [read] at same
        cases same
      · rintro (⟨raised, uncaught, same⟩ | ⟨data, same, -⟩)
        · rw [read] at same
          cases same
          exact uncaught rfl
        · rw [read] at same
          cases same
    · exact .trips caught (.inl ⟨raised, caught, read⟩)
  | ok data =>
    dsimp only
    by_cases hasText : truthy python (get data "improved_text" (.str [])) = true
    · rw [if_pos hasText]
      exact structured_attempted read hasText
    · rw [if_neg hasText]
      refine .fails ?_ ?_
      · rintro ⟨other, same, present, -⟩
        cases read.symm.trans same
        exact hasText present
      · rintro (⟨raised, -, same⟩ | ⟨other, same, present, -⟩)
        · cases read.symm.trans same
        · cases read.symm.trans same
          exact hasText present

end Attempt

private theorem replacePair_ne_nil (first second new : Nat) {text : PyStr} (filled : text ≠ []) :
    replacePair first second new text ≠ [] := by
  cases text with
  | nil => exact absurd rfl filled
  | cons point rest =>
    cases rest with
    | nil =>
      rw [replacePair]
      exact List.cons_ne_nil _ _
    | cons next rest =>
      rw [replacePair]
      split <;> exact List.cons_ne_nil _ _

private theorem fbText_ne_nil {group : PyStr} (filled : group ≠ []) : fbText group ≠ [] :=
  replacePair_ne_nil _ _ _ (replacePair_ne_nil _ _ _ filled)

private theorem contentDump_ne_nil (content : PyStr) : contentDump content ≠ [] := by
  rw [contentDump]
  split
  · assumption
  · decide

/-- The text of the regular expression is not empty, where it is taken; and the whole content is
taken, where that text is not or there is none. -/
def Falls (content : PyStr) : Prop :=
  match improvedMatch (clean content) with
  | none => python.accepts (contentDump content) = true
  | some group =>
    if python.accepts (fbText group) = true then group ≠ []
    else python.accepts (contentDump content) = true

section Fallback

variable {python} {call : Call}

theorem accepts_pyText (text : String) : python.accepts (pyText text) = true :=
  python.accepts_scalar _ (isScalar_pyText text)

private theorem accepts_fallback (mode : PyStr) :
    ∀ text ∈ fallbackSuggestions mode, python.accepts text = true := by
  unfold fallbackSuggestions
  split
  · simp [accepts_pyText]
  split
  · simp [accepts_pyText]
  split
  · simp [accepts_pyText]
  simp [accepts_pyText]

private theorem plainResult_taken {improvedText : PyStr}
    (taken : python.accepts improvedText = true)
    (model : python.accepts call.model = true) :
    ∃ result, plainResult python improvedText call = .ok result ∧
      result.improvedText = improvedText ∧ (improvedText ≠ [] → Complete result) := by
  have all : Taken python (.str improvedText) none (.str rephrase) (fallbackSuggestions call.mode)
      call := ⟨⟨_, rfl, taken⟩, nofun, ⟨_, rfl, accepts_pyText _⟩, accepts_fallback _, model⟩
  obtain ⟨result, made, improved, suggestions, scores⟩ := aiResult?_taken all {} {}
  rw [plainResult, made]
  refine ⟨result, rfl, (Json.str.inj improved).symm, fun filled => ?_⟩
  refine ⟨?_, ?_, ?_, ?_, ?_, ?_⟩
  · rwa [← Json.str.inj improved]
  · rw [scores]
    decide
  · rw [scores]
    decide
  · rw [scores]
    decide
  · rw [scores]
    exact .tail _ (.head _)
  · rw [suggestions]
    exact (fallback_keys call.mode).1

theorem taken_of_plainResult {improvedText : PyStr} {result : AIResult}
    (made : plainResult python improvedText call = .ok result) :
    python.accepts improvedText = true ∧ python.accepts call.model = true := by
  rw [plainResult] at made
  split at made
  · cases made
  · rename_i valid
    have taken := taken_of_aiResult? valid
    obtain ⟨points, same, accepted⟩ := taken.improvedText
    cases same
    exact ⟨accepted, taken.model⟩

/-- The content itself is a complete result wherever it is taken at all. -/
theorem dump_complete_iff (content : PyStr) :
    (∃ result, plainResult python (contentDump content) call = .ok result ∧ Complete result) ↔
      python.accepts call.model = true ∧ python.accepts (contentDump content) = true := by
  constructor
  · rintro ⟨result, made, -⟩
    exact (taken_of_plainResult made).symm
  · rintro ⟨model, taken⟩
    obtain ⟨result, made, -, complete⟩ := plainResult_taken taken model
    exact ⟨result, made, complete (contentDump_ne_nil content)⟩

private theorem fallback_complete_iff (content : PyStr) :
    (∃ result, fallback python content (clean content) call = .ok result ∧ Complete result) ↔
      python.accepts call.model = true ∧ Falls python content := by
  rw [fallback, Falls]
  cases improvedMatch (clean content) with
  | none => exact dump_complete_iff content
  | some group =>
    dsimp only
    by_cases taken : python.accepts (fbText group) = true
    · rw [if_pos taken]
      by_cases model : python.accepts call.model = true
      · obtain ⟨result, made, improved, complete⟩ := plainResult_taken taken model
        rw [made]
        constructor
        · rintro ⟨_, ⟨⟩, full⟩
          refine ⟨model, ?_⟩
          rintro rfl
          exact full.improvedText improved
        · rintro ⟨-, filled⟩
          exact ⟨result, rfl, complete (fbText_ne_nil filled)⟩
      · constructor
        · rintro ⟨result, made, -⟩
          split at made
          · rename_i first
            exact absurd (taken_of_plainResult first).2 model
          · exact absurd (taken_of_plainResult made).2 model
        · rintro ⟨present, -⟩
          exact absurd present model
    · rw [if_neg taken]
      cases made : plainResult python (fbText group) call with
      | ok result => exact absurd (taken_of_plainResult made).1 taken
      | error raised => exact dump_complete_iff content

end Fallback

/-- What a content has to be. The name of the model is taken. Neither the whole text nor the part
from its first to its last brace trips an attempt, as far as they are tried; and one of them
answers, or the fallbacks hold. -/
def Handled (content : PyStr) (call : Call) : Prop :=
  python.accepts call.model = true ∧ ¬ Trips python (clean content) ∧
    (Answers python (clean content) call ∨
      (∀ text, jsonMatch (clean content) = some text → ¬ Trips python text) ∧
        ((∃ text, jsonMatch (clean content) = some text ∧ Answers python text call) ∨
          Falls python content))

/-- The parser returns a complete result for these contents and for no others. -/
theorem parse_complete_iff (content : PyStr) (call : Call) :
    (∃ result, parseAiResponse python content call = .ok result ∧ Complete result) ↔
      Handled python content call := by
  rw [parseAiResponse, Handled]
  have first := @attempt_attempted python (clean content) call
  generalize attempt python (clean content) call = outcome at first
  cases first with
  | @answers result answer safe complete =>
    obtain ⟨data, -, -, -, -, taken⟩ := id answer
    exact ⟨fun _ => ⟨taken.model, safe, .inl answer⟩, fun _ => ⟨result, rfl, complete⟩⟩
  | @trips raised uncaught trip =>
    constructor
    · rintro ⟨result, made, -⟩
      cases raised with
      | valueError => exact absurd rfl uncaught
      | typeError | attributeError | overflowError | recursionError => cases made
    · rintro ⟨-, safe, -⟩
      exact absurd trip safe
  | fails none_ safe =>
    dsimp only
    cases found : jsonMatch (clean content) with
    | none =>
      dsimp only
      rw [fallback_complete_iff]
      constructor
      · rintro ⟨model, falls⟩
        exact ⟨model, safe, .inr ⟨nofun, .inr falls⟩⟩
      · rintro ⟨model, -, answer | ⟨-, ⟨_, ⟨⟩, -⟩ | falls⟩⟩
        · exact absurd answer none_
        · exact ⟨model, falls⟩
    | some text =>
      dsimp only
      have second := @attempt_attempted python text call
      generalize attempt python text call = outcome at second
      cases second with
      | @answers result answer untripped complete =>
        obtain ⟨data, -, -, -, -, taken⟩ := id answer
        refine ⟨fun _ => ⟨taken.model, safe, .inr ⟨?_, .inl ⟨text, rfl, answer⟩⟩⟩,
          fun _ => ⟨result, rfl, complete⟩⟩
        rintro _ ⟨⟩
        exact untripped
      | @trips raised uncaught trip =>
        constructor
        · rintro ⟨result, made, -⟩
          cases raised with
          | valueError => exact absurd rfl uncaught
          | typeError | attributeError | overflowError | recursionError => cases made
        · rintro ⟨-, -, answer | ⟨untripped, -⟩⟩
          · exact absurd answer none_
          · exact absurd trip (untripped text rfl)
      | fails silent untripped =>
        dsimp only
        rw [fallback_complete_iff]
        constructor
        · rintro ⟨model, falls⟩
          refine ⟨model, safe, .inr ⟨?_, .inr falls⟩⟩
          rintro _ ⟨⟩
          exact untripped
        · rintro ⟨model, -, answer | ⟨-, ⟨_, ⟨⟩, answer⟩ | falls⟩⟩
          · exact absurd answer none_
          · exact absurd answer silent
          · exact ⟨model, falls⟩

def samplePython : Python where
  exhausts _ := false
  floatValue _ := .nan
  intOfStr _ := none
  lower text := text.map asciiLower
  accepts text := text.all isScalar
  lower_ascii _ _ := rfl
  accepts_scalar _ scalar := scalar

def sampleCall : Call := ⟨pyText "gemini", 1, 1, pyText "email"⟩

theorem list_answer_raises :
    ¬ ∃ result, parseAiResponse samplePython (pyText "[]") sampleCall = .ok result ∧
      Complete result := by
  have raised : parseAiResponse samplePython (pyText "[]") sampleCall = .error .typeError := by
    decide +kernel
  rintro ⟨result, made, -⟩
  rw [raised] at made
  cases made

end BrainMate.WriteRight.ModelResponse
