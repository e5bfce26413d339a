import BrainMate.Text.Blanks

namespace BrainMate.Text

variable {Symbol : Type} {isSpace : Symbol → Bool}

def wordsBy (isSpace : Symbol → Bool) (text : List Symbol) : List (List Symbol) :=
  (text.splitOnP isSpace).filter fun word => !word.isEmpty

/-- The text can be cut between the two parts without cutting a word. -/
def WordBreak (isSpace : Symbol → Bool) (first second : List Symbol) : Prop :=
  first.getLast?.all isSpace = true ∨ second.head?.all isSpace = true

@[simp] theorem wordsBy_nil : wordsBy isSpace [] = [] := rfl

theorem wordsBy_space (first second : List Symbol) {space : Symbol}
    (spaced : isSpace space = true) :
    wordsBy isSpace (first ++ space :: second) = wordsBy isSpace first ++ wordsBy isSpace second := by
  rw [wordsBy, List.splitOnP_append_cons _ _ spaced, List.filter_append]
  rfl

/-- A cut between words leaves the words as they are. -/
theorem wordsBy_append {first second : List Symbol} (apart : WordBreak isSpace first second) :
    wordsBy isSpace (first ++ second) = wordsBy isSpace first ++ wordsBy isSpace second := by
  obtain ends | begins := apart
  · obtain rfl | ⟨front, last, rfl⟩ := List.eq_nil_or_concat' first
    · rfl
    · rw [List.getLast?_concat, Option.all_some] at ends
      have alone := wordsBy_space front [] ends
      rw [wordsBy_nil, List.append_nil] at alone
      rw [List.append_assoc, List.singleton_append, wordsBy_space _ _ ends, alone]
  · cases second with
    | nil => simp
    | cons space rest =>
      rw [List.head?_cons, Option.all_some] at begins
      have alone := wordsBy_space [] rest begins
      rw [wordsBy_nil, List.nil_append, List.nil_append] at alone
      rw [wordsBy_space _ _ begins, alone]

/-- A run of symbols without a space. -/
def IsWord (isSpace : Symbol → Bool) (word : List Symbol) : Prop :=
  word ≠ [] ∧ ∀ symbol ∈ word, isSpace symbol = false

/-- The pieces of a text behind the begun one, which is a run of spaces or a word. -/
def piecesFrom (isSpace : Symbol → Bool) : Bool → List Symbol → List Symbol → List (List Symbol)
  | false, piece, [] => [piece]
  | true, piece, [] => [piece, []]
  | inSpaces, piece, symbol :: rest =>
    if isSpace symbol = inSpaces then piecesFrom isSpace inSpaces (piece ++ [symbol]) rest
    else piece :: piecesFrom isSpace (!inSpaces) [symbol] rest

/-- Words and the runs of spaces between them in turn, with a word, which may be empty, at both
ends. -/
def piecesBy (isSpace : Symbol → Bool) (text : List Symbol) : List (List Symbol) :=
  piecesFrom isSpace false [] text

private theorem flatten_piecesFrom (inSpaces : Bool) (piece text : List Symbol) :
    (piecesFrom isSpace inSpaces piece text).flatten = piece ++ text := by
  induction text generalizing inSpaces piece with
  | nil => cases inSpaces <;> simp [piecesFrom]
  | cons symbol rest ih =>
    rw [piecesFrom]
    split
    · rw [ih, List.append_assoc, List.singleton_append]
    · rw [List.flatten_cons, ih, List.singleton_append]

/-- The pieces are all of the text. -/
theorem flatten_piecesBy (text : List Symbol) : (piecesBy isSpace text).flatten = text :=
  flatten_piecesFrom false [] text

private theorem not_space_of_mem {text part : List Symbol} {symbol : Symbol}
    (member : part ∈ text.splitOnP isSpace) (inside : symbol ∈ part) : isSpace symbol = false := by
  induction text generalizing part with
  | nil =>
    rw [List.splitOnP_nil, List.mem_singleton] at member
    simp [member] at inside
  | cons head rest ih =>
    rw [List.splitOnP_cons_eq_if_modifyHead] at member
    split at member
    · obtain rfl | later := List.mem_cons.mp member
      · cases inside
      · exact ih later inside
    · rename_i solid
      obtain ⟨first, later, parts⟩ := List.exists_cons_of_ne_nil (List.splitOnP_ne_nil isSpace rest)
      rw [parts] at ih member
      obtain rfl | behind := List.mem_cons.mp member
      · obtain rfl | inside := List.mem_cons.mp inside
        · simpa using solid
        · exact ih (.head _) inside
      · exact ih (.tail _ behind) inside

theorem isWord_of_mem {text word : List Symbol} (member : word ∈ wordsBy isSpace text) :
    IsWord isSpace word := by
  obtain ⟨part, nonempty⟩ := List.mem_filter.mp member
  exact ⟨by simpa using nonempty, fun symbol inside => not_space_of_mem part inside⟩

private theorem wordsBy_word {word : List Symbol} (isWord : IsWord isSpace word) :
    wordsBy isSpace word = [word] := by
  have nonempty : word.isEmpty = false := List.isEmpty_eq_false_iff.mpr isWord.1
  rw [wordsBy, List.splitOnP_eq_singleton isWord.2]
  simp [nonempty]

/-- Words that are joined by a space are the words of what they are joined to. -/
theorem wordsBy_intercalate {space : Symbol} (spaced : isSpace space = true)
    {words : List (List Symbol)} (each : ∀ word ∈ words, IsWord isSpace word) :
    wordsBy isSpace ([space].intercalate words) = words := by
  induction words with
  | nil => rfl
  | cons word rest ih =>
    have first := wordsBy_word (each word List.mem_cons_self)
    have others := ih fun other member => each other (List.mem_cons_of_mem _ member)
    cases rest with
    | nil => simpa using first
    | cons next rest =>
      rw [List.intercalate_cons_cons, List.append_assoc, List.singleton_append,
        wordsBy_space _ _ spaced, first, others]
      rfl

/-- No blank at an end, and none behind another. -/
structure Tidy (isSpace : Symbol → Bool) (text : List Symbol) : Prop where
  nonempty : text ≠ []
  trimmed : Trimmed isSpace text
  single : singleBlanks isSpace false text = true

theorem singleBlanks_word {inRun : Bool} {word : List Symbol} (isWord : IsWord isSpace word)
    (rest : List Symbol) :
    singleBlanks isSpace inRun (word ++ rest) = singleBlanks isSpace false rest := by
  obtain ⟨nonempty, solid⟩ := isWord
  induction word generalizing inRun with
  | nil => exact absurd rfl nonempty
  | cons symbol word ih =>
    obtain ⟨first, others⟩ := List.forall_mem_cons.mp solid
    rw [List.cons_append, singleBlanks, first, Bool.and_false, Bool.not_false, Bool.true_and]
    cases word with
    | nil => rfl
    | cons next word => exact ih (List.cons_ne_nil _ _) others

theorem IsWord.head {word : List Symbol} (isWord : IsWord isSpace word) (rest : List Symbol) :
    (word ++ rest).head?.any isSpace = false := by
  obtain ⟨symbol, word, rfl⟩ := List.exists_cons_of_ne_nil isWord.1
  simpa using isWord.2 symbol List.mem_cons_self

theorem IsWord.last {word : List Symbol} (isWord : IsWord isSpace word) :
    word.getLast?.any isSpace = false := by
  obtain ⟨front, symbol, rfl⟩ := (List.eq_nil_or_concat' word).resolve_left isWord.1
  simpa using isWord.2 symbol List.mem_concat_self

/-- Words that are joined by single spaces leave a tidy text. -/
theorem tidy_intercalate {space : Symbol} {words : List (List Symbol)} (some_ : words ≠ [])
    (each : ∀ word ∈ words, IsWord isSpace word) : Tidy isSpace ([space].intercalate words) := by
  induction words with
  | nil => exact absurd rfl some_
  | cons word rest ih =>
    obtain ⟨first, others⟩ := List.forall_mem_cons.mp each
    cases rest with
    | nil =>
      have alone := @singleBlanks_word _ _ false _ first []
      have begins := first.head []
      rw [List.append_nil] at alone begins
      rw [List.intercalate_singleton]
      exact ⟨first.1, ⟨begins, first.last⟩, alone⟩
    | cons next rest =>
      have behind := ih (List.cons_ne_nil _ _) others
      rw [List.intercalate_cons_cons, List.append_assoc]
      refine ⟨?_, ⟨first.head _, ?_⟩, ?_⟩
      · exact fun nothing => first.1 (List.append_eq_nil_iff.mp nothing).1
      · have last := behind.trimmed.2
        obtain ⟨front, symbol, parts⟩ := (List.eq_nil_or_concat' _).resolve_left behind.nonempty
        rw [parts, List.getLast?_concat] at last
        rw [parts, ← List.append_assoc, ← List.append_assoc, List.getLast?_concat]
        exact last
      · rw [singleBlanks_word first]
        obtain ⟨symbol, text, parts⟩ := List.exists_cons_of_ne_nil behind.nonempty
        have begins := behind.trimmed.1
        have single := behind.single
        rw [parts] at begins single ⊢
        simp only [List.head?_cons, Option.any_some] at begins
        simpa [singleBlanks, begins] using single

end BrainMate.Text
