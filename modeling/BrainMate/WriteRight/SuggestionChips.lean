import BrainMate.Text.Words
import BrainMate.WriteRight.ParserTotality

namespace BrainMate.WriteRight.ModelResponse

open Text

section Firsts

variable {Value Key : Type} [DecidableEq Key] {key : Value → Key}

/-- The values whose keys no earlier value has. -/
def firstsBy (key : Value → Key) : List Value → List Value
  | [] => []
  | value :: rest => value :: (firstsBy key rest).filter fun other => key other ≠ key value

/-- The values whose keys have not been seen, as far as there is room. -/
def fresh (key : Value → Key) (values : List Value) (seen : List Key) (room : Nat) : List Value :=
  ((firstsBy key values).filter fun value => key value ∉ seen).take room

private theorem fresh_seen {value : Value} {rest : List Value} {seen : List Key}
    (known : key value ∈ seen)
    (room : Nat) : fresh key (value :: rest) seen room = fresh key rest seen room := by
  have same : ∀ other ∈ firstsBy key rest,
      (decide (key other ∉ seen) && decide (key other ≠ key value)) = decide (key other ∉ seen) := by
    intro other _
    by_cases new : key other ∈ seen
    · simp [new]
    · have different : key other ≠ key value := fun alike => new (alike ▸ known)
      simp [new, different]
  rw [fresh, firstsBy, List.filter_cons_of_neg (by simpa using known), List.filter_filter,
    List.filter_congr same, fresh]

private theorem fresh_new {value : Value} {rest : List Value} {seen : List Key}
    (new : key value ∉ seen)
    (room : Nat) :
    fresh key (value :: rest) seen (room + 1) =
      value :: fresh key rest (key value :: seen) room := by
  have same : ∀ other ∈ firstsBy key rest,
      (decide (key other ∉ seen) && decide (key other ≠ key value)) =
        decide (key other ∉ key value :: seen) := by
    intro other _
    simp [Bool.and_comm]
  rw [fresh, firstsBy, List.filter_cons_of_pos (by simpa using new), List.filter_filter,
    List.filter_congr same, List.take_succ_cons, fresh]

end Firsts

/-- A chip is tidy and has eight words at most. -/
structure Chip (text : PyStr) : Prop where
  tidy : Tidy isSpace text
  short : (split text).length ≤ 8

instance (text : PyStr) : Decidable (Chip text) :=
  decidable_of_iff
    ((text ≠ [] ∧ Trimmed isSpace text ∧ singleBlanks isSpace false text = true) ∧
      (split text).length ≤ 8)
    ⟨fun ⟨⟨nonempty, trimmed, single⟩, short⟩ => ⟨⟨nonempty, trimmed, single⟩, short⟩,
      fun ⟨⟨nonempty, trimmed, single⟩, short⟩ => ⟨⟨nonempty, trimmed, single⟩, short⟩⟩

private theorem chip_join {words : List PyStr} (some_ : words ≠ [])
    (each : ∀ word ∈ words, IsWord isSpace word) (short : words.length ≤ 8) :
    Chip (join words) := by
  have words_back : split (join words) = words := wordsBy_intercalate (by decide) each
  exact ⟨tidy_intercalate some_ each, by rwa [words_back]⟩

private theorem chip_of_sanitize {raw : Json} {text : PyStr}
    (sanitized : sanitizeSuggestion raw = some text) :
    Chip text := by
  cases raw with
  | str points =>
    have each : ∀ word ∈ split (strip points), IsWord isSpace word := fun _ => isWord_of_mem
    rw [sanitizeSuggestion] at sanitized
    dsimp only at sanitized
    split at sanitized
    · cases sanitized
    · rename_i nonempty
      have some_ : split (strip points) ≠ [] := by
        intro nothing
        rw [nothing] at nonempty
        exact nonempty rfl
      have no_blank : ∀ word ∈ split (strip points), 0x20 ∉ word := by
        intro word member inside
        exact absurd ((each word member).2 _ inside) (by decide)
      have words_back : (join (split (strip points))).splitOn 0x20 = split (strip points) :=
        List.splitOn_intercalate 0x20 no_blank some_
      rw [words_back] at sanitized
      obtain rfl := Option.some.inj sanitized
      split
      · refine chip_join (List.take_eq_nil_iff.not.mpr (not_or.mpr ⟨by decide, some_⟩))
          (fun word member => each word (List.mem_of_mem_take member)) ?_
        exact List.length_take_le ..
      · rename_i few
        exact chip_join some_ each (Nat.le_of_not_lt few)
  | _ => cases sanitized

private theorem chip_fallback (mode : PyStr) : ∀ text ∈ fallbackSuggestions mode, Chip text := by
  unfold fallbackSuggestions
  split
  · decide +kernel
  split
  · decide +kernel
  split
  · decide +kernel
  decide +kernel

variable {python : Python}

/-- The suggestions of the model that can be chips, in order. -/
def acceptable (data : List (List Nat × Json)) : List PyStr :=
  let suggestionsList :=
    match get data "suggestions" .null with
    | .arr items => items
    | _ => []
  suggestionsList.filterMap sanitizeSuggestion

private theorem extractSuggestions_eq (data : List (List Nat × Json)) (mode : PyStr) :
    extractSuggestions python data mode =
      if (collect python (acceptable data) ([], [])).1.length = 3 then
        (collect python (acceptable data) ([], [])).1
      else (collect python (fallbackSuggestions mode)
        (collect python (acceptable data) ([], []))).1 := rfl

private theorem collect_eq (texts : List PyStr) {suggestions seen : List PyStr}
    (few : suggestions.length < 3) :
    (collect python texts (suggestions, seen)).1 =
      suggestions ++ fresh python.lower texts seen (3 - suggestions.length) := by
  induction texts generalizing suggestions seen with
  | nil => simp [collect, fresh, firstsBy]
  | cons text rest ih =>
    obtain ⟨room, left⟩ : ∃ room, 3 - suggestions.length = room + 1 := ⟨2 - suggestions.length, by omega⟩
    rw [collect]
    by_cases known : python.lower text ∈ seen
    · rw [if_pos known, ih few, fresh_seen known]
    · have added : (suggestions ++ [text]).length = suggestions.length + 1 := List.length_append
      rw [if_neg known, left, fresh_new known]
      by_cases full : (suggestions ++ [text]).length = 3
      · have none_left : room = 0 := by omega
        rw [if_pos full, none_left]
        simp [fresh]
      · have room_left : 3 - (suggestions ++ [text]).length = room := by omega
        rw [if_neg full, ih (by omega), room_left, List.append_assoc, List.singleton_append]

private theorem fresh_all (texts : List PyStr) :
    fresh python.lower texts [] 3 = (firstsBy python.lower texts).take 3 := by
  simp [fresh]

private theorem subset_of_firstsBy {Value Key : Type} [DecidableEq Key] {key : Value → Key}
    {value : Value}
    {values : List Value} (member : value ∈ firstsBy key values) : value ∈ values := by
  induction values with
  | nil => exact member
  | cons first rest ih =>
    obtain rfl | later := List.mem_cons.mp member
    · exact List.mem_cons_self
    · exact List.mem_cons_of_mem _ (ih (List.mem_filter.mp later).1)

/-- What is left open by the suggestions of the model is filled with defaults. -/
structure Filled (python : Python) (texts defaults result : List PyStr) : Prop where
  deduplicated : (result.map python.lower).Nodup
  first : ∃ others, result = (firstsBy python.lower texts).take 3 ++ others ∧
    ∀ text ∈ others, text ∈ defaults

private theorem nodup_of_deduplicated {state : List PyStr × List PyStr}
    (deduplicated : Deduplicated python state) : (state.1.map python.lower).Nodup := by
  rw [← List.nodup_reverse, ← deduplicated.seen]
  exact deduplicated.nodup

theorem filled (data : List (List Nat × Json)) (mode : PyStr) :
    Filled python (acceptable data) (fallbackSuggestions mode) (extractSuggestions python data mode) := by
  have start : Deduplicated python ([], []) := ⟨rfl, List.nodup_nil⟩
  have first := collect_collected (acceptable data) start (by decide)
  have of_model := @collect_eq python (acceptable data) [] [] (by decide)
  rw [List.nil_append, List.length_nil, Nat.sub_zero, fresh_all] at of_model
  rw [extractSuggestions_eq]
  by_cases full : (collect python (acceptable data) ([], [])).1.length = 3
  · rw [if_pos full]
    refine ⟨nodup_of_deduplicated first.deduplicated, [], ?_, fun _ none_ => nomatch none_⟩
    rw [List.append_nil, of_model]
  · rw [if_neg full]
    have few : (collect python (acceptable data) ([], [])).1.length < 3 :=
      Nat.lt_of_le_of_ne first.bound full
    have second := collect_collected (fallbackSuggestions mode) first.deduplicated few
    have more := @collect_eq python (fallbackSuggestions mode) _
      (collect python (acceptable data) ([], [])).2 few
    refine ⟨nodup_of_deduplicated second.deduplicated, _,
      more.trans (congrArg (fun front => front ++ _) of_model), fun text member => ?_⟩
    · have unseen := List.mem_of_mem_take member
      exact subset_of_firstsBy (List.mem_filter.mp unseen).1

/-- Three chips that differ in more than their case, the acceptable ones of the model in front. -/
structure ThreeChips (python : Python) (data : List (List Nat × Json)) (chips : List PyStr) : Prop where
  three : chips.length = 3
  each : ∀ chip ∈ chips, Chip chip
  distinct : (chips.map python.lower).Nodup
  first : (firstsBy python.lower (acceptable data)).take 3 <+: chips

private theorem chip_of_acceptable {data : List (List Nat × Json)} {text : PyStr}
    (member : text ∈ acceptable data) : Chip text := by
  obtain ⟨raw, _, sanitized⟩ := List.mem_filterMap.mp member
  exact chip_of_sanitize sanitized

theorem extractSuggestions_chips (python : Python) (data : List (List Nat × Json)) (mode : PyStr) :
    ThreeChips python data (extractSuggestions python data mode) := by
  obtain ⟨distinct, others, parts, defaults⟩ := @filled python data mode
  refine ⟨length_extractSuggestions data mode, fun chip member => ?_, distinct, ?_⟩
  · rw [parts, List.mem_append] at member
    obtain model | default_ := member
    · exact chip_of_acceptable (subset_of_firstsBy (List.mem_of_mem_take model))
    · exact chip_fallback mode chip (defaults chip default_)
  · rw [parts]
    exact List.prefix_append _ _

end BrainMate.WriteRight.ModelResponse
