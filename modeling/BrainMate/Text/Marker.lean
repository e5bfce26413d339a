import Mathlib.Data.List.Infix

namespace BrainMate.Text

variable {Symbol : Type} {sign : Symbol}

/-- What stands at a sign stands behind a text without it. -/
theorem behind_of_not_mem {text behind front back : List Symbol} (inside : sign ∉ text)
    (parts : front ++ sign :: back = text ++ behind) :
    ∃ rest, front = text ++ rest ∧ rest ++ sign :: back = behind := by
  obtain ⟨rest, same, after⟩ | ⟨rest, same, after⟩ := List.append_eq_append_iff.mp parts
  · cases rest with
    | nil => exact ⟨[], by rw [same, List.append_nil, List.append_nil], after⟩
    | cons first rest =>
      obtain rfl : sign = first := (List.cons.inj after).1
      rw [same] at inside
      exact absurd (List.mem_append_right _ List.mem_cons_self) inside
  · exact ⟨rest, same, after.symm⟩

/-- A word that begins with the sign and does not repeat it. -/
structure Marker (sign : Symbol) where
  tail : List Symbol
  once : sign ∉ tail

namespace Marker

def text (marker : Marker sign) : List Symbol := sign :: marker.tail

variable {first second : Marker sign} {front back : List Symbol}

/-- Behind a marker a marker is found at its place or later. -/
theorem found_behind {rest : List Symbol}
    (parts : front ++ (first.text ++ back) = second.text ++ rest) :
    front = [] ∨ ∃ between, front = second.text ++ between ∧
      between ++ (first.text ++ back) = rest := by
  cases front with
  | nil => exact .inl rfl
  | cons symbol others =>
    right
    obtain ⟨rfl, after⟩ := List.cons.inj parts
    obtain ⟨between, rfl, rest_eq⟩ := behind_of_not_mem second.once after
    exact ⟨between, rfl, rest_eq⟩

/-- Before a marker a marker is found whole, or not at all. -/
theorem found_before {text rest : List Symbol}
    (parts : front ++ (first.text ++ back) = text ++ (second.text ++ rest)) :
    first.text <:+: text ∨ ∃ between, front = text ++ between ∧
      between ++ (first.text ++ back) = second.text ++ rest := by
  obtain ⟨others, same, after⟩ | ⟨between, same, after⟩ := List.append_eq_append_iff.mp parts
  · cases others with
    | nil => exact .inr ⟨[], by rw [same, List.append_nil, List.append_nil], after⟩
    | cons symbol others =>
      obtain ⟨rfl, tails⟩ := List.cons.inj after
      obtain ⟨last, rfl, -⟩ := behind_of_not_mem first.once tails.symm
      exact .inl ⟨front, last, by rw [same, List.append_assoc]; rfl⟩
  · exact .inr ⟨between, same, after.symm⟩

/-- A marker is nowhere but at the start, where it is not in the rest. -/
theorem only_at_start {rest : List Symbol} (none_ : ¬first.text <:+: rest)
    (parts : front ++ (first.text ++ back) = first.text ++ rest) : front = [] ∧ back = rest := by
  obtain rfl | ⟨between, -, after⟩ := found_behind parts
  · exact ⟨rfl, List.append_cancel_left parts⟩
  · exact absurd ⟨between, back, by rw [List.append_assoc, after]⟩ none_

theorem infix_between {before behind : List Symbol} :
    first.text <:+: before ++ (first.text ++ behind) := ⟨before, behind, List.append_assoc _ _ _⟩

theorem split_piece {pieces : List (List Symbol)} {piece : List Symbol} (member : piece ∈ pieces)
    (found : first.text <:+: piece) : ∃ earlier before behind later,
      pieces = earlier ++ (before ++ (first.text ++ behind)) :: later := by
  obtain ⟨earlier, later, rfl⟩ := List.append_of_mem member
  obtain ⟨before, behind, rfl⟩ := found
  exact ⟨earlier, before, behind, later, by rw [List.append_assoc]⟩

/-- Where a marker is found in one place only, the piece that holds it lies there, and no piece
before it holds one. -/
theorem place_of_piece {lead before behind : List Symbol} {earlier later : List (List Symbol)}
    (only : ∀ front' back', front' ++ (first.text ++ back') =
      lead ++ (earlier ++ (before ++ (first.text ++ behind)) :: later).flatten →
        front' = front ∧ back' = back) :
    lead ++ (earlier.flatten ++ before) = front ∧ behind ++ later.flatten = back ∧
      ∀ piece ∈ earlier, ¬first.text <:+: piece := by
  have here := only (lead ++ (earlier.flatten ++ before)) (behind ++ later.flatten)
    (by simp only [List.flatten_append, List.flatten_cons, List.append_assoc])
  refine ⟨here.1, here.2, fun piece member found => ?_⟩
  obtain ⟨others, start, rest, more, rfl⟩ := split_piece member found
  have there := only (lead ++ (others.flatten ++ start))
    (rest ++ (more.flatten ++ (before ++ (first.text ++ (behind ++ later.flatten)))))
    (by simp only [List.flatten_append, List.flatten_cons, List.append_assoc])
  have lengths := congrArg List.length (there.1.trans here.1.symm)
  simp only [List.flatten_append, List.flatten_cons, List.length_append, text,
    List.length_cons] at lengths
  omega

end Marker

end BrainMate.Text
