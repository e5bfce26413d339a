import Mathlib.Data.List.DropRight

namespace BrainMate.Text

variable {Symbol : Type} {isBlank wanted : Symbol → Bool} {blank : Symbol}

/-- Every run of blanks becomes one; `inRun` behind a blank. -/
def squeeze (isBlank : Symbol → Bool) (blank : Symbol) : Bool → List Symbol → List Symbol
  | _, [] => []
  | inRun, symbol :: rest =>
    if isBlank symbol then
      if inRun then squeeze isBlank blank true rest
      else blank :: squeeze isBlank blank true rest
    else symbol :: squeeze isBlank blank false rest

/-- The text without the blanks at its ends. -/
def trimBy (isBlank : Symbol → Bool) (text : List Symbol) : List Symbol :=
  (text.dropWhile isBlank).rdropWhile isBlank

/-- No blank stands behind another. -/
def singleBlanks (isBlank : Symbol → Bool) : Bool → List Symbol → Bool
  | _, [] => true
  | inRun, symbol :: rest =>
    !(inRun && isBlank symbol) && singleBlanks isBlank (isBlank symbol) rest

theorem length_squeeze_le (inRun : Bool) (text : List Symbol) :
    (squeeze isBlank blank inRun text).length ≤ text.length := by
  induction text generalizing inRun with
  | nil => exact Nat.le_refl _
  | cons symbol rest ih =>
    rw [squeeze]
    split
    · split
      · exact (ih true).trans (Nat.le_succ _)
      · exact Nat.succ_le_succ (ih true)
    · exact Nat.succ_le_succ (ih false)

/-- Nothing is lost just where there are no runs to lose from. -/
theorem singleBlanks_of_length {inRun : Bool} {text : List Symbol}
    (full : text.length ≤ (squeeze isBlank blank inRun text).length) :
    singleBlanks isBlank inRun text = true := by
  induction text generalizing inRun with
  | nil => rfl
  | cons symbol rest ih =>
    rw [squeeze] at full
    cases here : isBlank symbol with
    | false =>
      rw [if_neg (by simp [here])] at full
      simp [singleBlanks, here, ih (Nat.le_of_succ_le_succ full)]
    | true =>
      rw [if_pos here] at full
      cases inRun with
      | true => exact absurd (length_squeeze_le true rest) (Nat.not_le.mpr full)
      | false => simp [singleBlanks, here, ih (Nat.le_of_succ_le_succ full)]

theorem squeeze_of_single {inRun : Bool} {text : List Symbol}
    (single : singleBlanks isBlank inRun text = true) :
    squeeze isBlank blank inRun text =
      text.map fun symbol => if isBlank symbol then blank else symbol := by
  induction text generalizing inRun with
  | nil => rfl
  | cons symbol rest ih =>
    simp only [singleBlanks, Bool.and_eq_true, Bool.not_eq_true', Bool.and_eq_false_iff] at single
    rw [squeeze, List.map_cons]
    cases here : isBlank symbol with
    | false =>
      rw [if_neg Bool.false_ne_true, if_neg Bool.false_ne_true, ih (here ▸ single.2)]
    | true =>
      have outside : inRun = false := single.1.resolve_right (by simp [here])
      rw [if_pos rfl, if_pos rfl, outside, if_neg Bool.false_ne_true, ih (here ▸ single.2)]

/-- What is no blank is all kept. -/
theorem countP_squeeze (dark : ∀ symbol, isBlank symbol = true → wanted symbol = false)
    (dark' : wanted blank = false) (inRun : Bool) (text : List Symbol) :
    (squeeze isBlank blank inRun text).countP wanted = text.countP wanted := by
  induction text generalizing inRun with
  | nil => rfl
  | cons symbol rest ih =>
    rw [squeeze, List.countP_cons]
    split
    · rename_i here
      rw [dark symbol here]
      split
      · exact ih true
      · rw [List.countP_cons, dark']
        exact ih true
    · rw [List.countP_cons, ih false]

theorem trimBy_sublist (text : List Symbol) : (trimBy isBlank text).Sublist text :=
  (List.rdropWhile_prefix _ _).sublist.trans (List.dropWhile_sublist _)

/-- A text that neither begins nor ends in a blank keeps its ends. -/
theorem trimBy_solid {first last : Symbol} {middle : List Symbol} (begins : isBlank first = false)
    (ends : isBlank last = false) :
    trimBy isBlank (first :: (middle ++ [last])) = first :: (middle ++ [last]) := by
  rw [trimBy, List.dropWhile_cons_of_neg (by simp [begins]), ← List.cons_append,
    List.rdropWhile_concat_neg _ _ _ (by simp [ends])]

/-- No blank at either end. -/
def Trimmed (isBlank : Symbol → Bool) (text : List Symbol) : Prop :=
  text.head?.any isBlank = false ∧ text.getLast?.any isBlank = false

instance {text : List Symbol} : Decidable (Trimmed isBlank text) := inferInstanceAs (Decidable (_ ∧ _))

theorem dropWhile_of_head {text : List Symbol} (begins : text.head?.any isBlank = false) :
    text.dropWhile isBlank = text := by
  cases text with
  | nil => rfl
  | cons symbol rest => exact List.dropWhile_cons_of_neg (by simpa using begins)

private theorem rdropWhile_of_getLast {text : List Symbol}
    (ends : text.getLast?.any isBlank = false) :
    text.rdropWhile isBlank = text := by
  rw [List.rdropWhile, dropWhile_of_head (by rwa [List.head?_reverse]), List.reverse_reverse]

theorem trimBy_of_trimmed {text : List Symbol} (trimmed : Trimmed isBlank text) :
    trimBy isBlank text = text := by
  rw [trimBy, dropWhile_of_head trimmed.1, rdropWhile_of_getLast trimmed.2]

theorem head_dropWhile (text : List Symbol) : (text.dropWhile isBlank).head?.any isBlank = false := by
  induction text with
  | nil => rfl
  | cons symbol rest ih =>
    rw [List.dropWhile_cons]
    split
    · exact ih
    · rename_i solid
      simpa using solid

theorem trimmed_trimBy (text : List Symbol) : Trimmed isBlank (trimBy isBlank text) := by
  constructor
  · have begins := @head_dropWhile _ isBlank text
    obtain ⟨tail, parts⟩ := List.rdropWhile_prefix isBlank (text.dropWhile isBlank)
    rw [trimBy]
    rw [← parts, List.head?_append] at begins
    cases kept : ((text.dropWhile isBlank).rdropWhile isBlank).head? with
    | none => rfl
    | some first => simpa [kept] using begins
  · rw [trimBy, List.rdropWhile, List.getLast?_reverse]
    exact head_dropWhile _

/-- What begins without a blank is trimmed at its end only. -/
theorem trimBy_begins {text : List Symbol} (begins : text.head?.any isBlank = false) :
    trimBy isBlank text <+: text := by
  rw [trimBy, dropWhile_of_head begins]
  exact List.rdropWhile_prefix _ _

theorem trimBy_eq_nil {text : List Symbol} :
    trimBy isBlank text = [] ↔ ∀ symbol ∈ text, isBlank symbol = true := by
  constructor
  · intro nothing
    have blank := List.rdropWhile_eq_nil_iff.mp nothing
    apply List.dropWhile_eq_nil_iff.mp
    cases left : text.dropWhile isBlank with
    | nil => rfl
    | cons first rest =>
      have begins := @head_dropWhile _ isBlank text
      rw [left, List.head?_cons, Option.any_some] at begins
      have blank_first := blank first (left ▸ List.mem_cons_self)
      exact absurd (begins.symm.trans blank_first) Bool.false_ne_true
  · intro blank
    rw [trimBy, List.dropWhile_eq_nil_iff.mpr blank]
    rfl

theorem takeWhile_squeeze (text : List Symbol) (blanks : isBlank blank = true) :
    (squeeze isBlank blank false text).takeWhile (fun symbol => !isBlank symbol) =
      text.takeWhile fun symbol => !isBlank symbol := by
  induction text with
  | nil => rfl
  | cons symbol rest ih =>
    rw [squeeze]
    cases here : isBlank symbol with
    | true => simp [here, blanks]
    | false => simp [here, ih]

theorem head_splitOnP (text : List Symbol) :
    (text.splitOnP isBlank).head? = some (text.takeWhile fun symbol => !isBlank symbol) := by
  induction text with
  | nil => rfl
  | cons symbol rest ih =>
    rw [List.splitOnP_cons_eq_if_modifyHead]
    cases here : isBlank symbol with
    | true => simp [here]
    | false => simp [here, ih]

theorem countP_dropWhile (dark : ∀ symbol, isBlank symbol = true → wanted symbol = false)
    (text : List Symbol) : (text.dropWhile isBlank).countP wanted = text.countP wanted := by
  induction text with
  | nil => rfl
  | cons symbol rest ih =>
    rw [List.dropWhile_cons]
    split
    · rename_i here
      rw [List.countP_cons, dark symbol here]
      exact ih
    · rfl

theorem countP_trimBy (dark : ∀ symbol, isBlank symbol = true → wanted symbol = false)
    (text : List Symbol) : (trimBy isBlank text).countP wanted = text.countP wanted := by
  rw [trimBy, List.rdropWhile, List.countP_reverse, countP_dropWhile dark, List.countP_reverse,
    countP_dropWhile dark]

end BrainMate.Text
