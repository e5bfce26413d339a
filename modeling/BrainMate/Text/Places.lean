import BrainMate.Text.Marker

namespace BrainMate.Text

variable {Symbol : Type} [DecidableEq Symbol]

/-- The first place of a part. -/
def placeOf (part : List Symbol) : List Symbol → Option Nat
  | [] => if part.isEmpty then some 0 else none
  | head :: rest =>
    if part.isPrefixOf (head :: rest) then some 0 else (placeOf part rest).map (· + 1)

/-- The last place of a symbol. -/
def lastPlaceOf (symbol : Symbol) : List Symbol → Option Nat
  | [] => none
  | head :: rest =>
    match lastPlaceOf symbol rest with
    | some place => some (place + 1)
    | none => if head = symbol then some 0 else none

variable {part front back : List Symbol} {symbol : Symbol}

theorem placeOf_prefix (part back : List Symbol) : placeOf part (part ++ back) = some 0 := by
  have begins : part.isPrefixOf (part ++ back) = true :=
    List.isPrefixOf_iff_prefix.mpr (List.prefix_append part back)
  cases whole : part ++ back with
  | nil =>
    rw [(List.append_eq_nil_iff.mp whole).1]
    rfl
  | cons head rest =>
    rw [whole] at begins
    rw [placeOf, if_pos begins]

/-- A part is found where it stands, if it does not stand further in front. -/
theorem placeOf_eq (only : ∀ front' back', front' ++ (part ++ back') = front ++ (part ++ back) →
      front.length ≤ front'.length) :
    placeOf part (front ++ (part ++ back)) = some front.length := by
  induction front with
  | nil => exact placeOf_prefix part back
  | cons head front ih =>
    have later : ¬ part.isPrefixOf (head :: front ++ (part ++ back)) = true := by
      intro begins
      obtain ⟨back', whole⟩ := List.isPrefixOf_iff_prefix.mp begins
      exact absurd (only [] back' whole) (Nat.not_succ_le_zero _)
    rw [List.cons_append] at later ⊢
    rw [placeOf, if_neg later, ih]
    · rfl
    · intro front' back' whole
      exact Nat.le_of_succ_le_succ (only (head :: front') back' (congrArg (head :: ·) whole))

theorem placeOf_marker {sign : Symbol} {marker : Marker sign} (free : ¬ marker.text <:+: front) :
    placeOf marker.text (front ++ (marker.text ++ back)) = some front.length := by
  refine placeOf_eq fun front' back' whole => ?_
  obtain inside | ⟨between, rfl, -⟩ := Marker.found_before whole
  · exact absurd inside free
  · exact (List.prefix_append front between).length_le

theorem placeOf_symbol (free : symbol ∉ front) :
    placeOf [symbol] (front ++ symbol :: back) = some front.length := by
  have absent : ¬ (⟨[], List.not_mem_nil⟩ : Marker symbol).text <:+: front :=
    fun inside => free (inside.subset List.mem_cons_self)
  exact placeOf_marker absent

private theorem lastPlaceOf_absent (absent : symbol ∉ back) : lastPlaceOf symbol back = none := by
  induction back with
  | nil => rfl
  | cons head rest ih =>
    rw [List.mem_cons, not_or] at absent
    rw [lastPlaceOf, ih absent.2]
    exact if_neg (Ne.symm absent.1)

theorem lastPlaceOf_eq (free : symbol ∉ back) :
    lastPlaceOf symbol (front ++ symbol :: back) = some front.length := by
  induction front with
  | nil =>
    rw [List.nil_append, lastPlaceOf, lastPlaceOf_absent free]
    exact if_pos rfl
  | cons head front ih =>
    rw [List.cons_append, lastPlaceOf, ih]
    rfl

end BrainMate.Text
