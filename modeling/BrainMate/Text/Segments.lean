import Mathlib.Data.List.Basic

namespace BrainMate.Text

variable {α β : Type} {property : α → Bool} {list : List α}

/-- From the last element with the property onwards; the whole list where there is none. -/
def fromLast (property : α → Bool) : List α → List α
  | [] => []
  | element :: rest => if rest.any property then fromLast property rest else element :: rest

theorem fromLast_cons (element : α) (some_ : list.any property = true) :
    fromLast property (element :: list) = fromLast property list := by
  rw [fromLast, if_pos some_]

theorem any_fromLast : (fromLast property list).any property = list.any property := by
  induction list with
  | nil => rfl
  | cons element rest ih =>
    rw [fromLast]
    split
    · rename_i later
      rw [ih, List.any_cons, later, Bool.or_true]
    · rfl

theorem fromLast_fromLast : fromLast property (fromLast property list) = fromLast property list := by
  induction list with
  | nil => rfl
  | cons element rest ih =>
    rw [fromLast]
    split
    · exact ih
    · rename_i later
      rw [fromLast, if_neg later]

theorem mem_of_mem_fromLast {element : α} (member : element ∈ fromLast property list) :
    element ∈ list := by
  induction list with
  | nil => exact member
  | cons head rest ih =>
    rw [fromLast] at member
    split at member
    · exact .tail _ (ih member)
    · exact member

/-- Going through the list from the right finds what the part from the last one starts with. -/
theorem find?_fromLast : (fromLast property list).find? property = list.reverse.find? property := by
  induction list with
  | nil => rfl
  | cons element rest ih =>
    rw [fromLast, List.reverse_cons, List.find?_append]
    split
    · rename_i later
      rw [ih]
      obtain ⟨last, member, held⟩ := List.any_eq_true.mp later
      have found : (rest.reverse.find? property).isSome = true :=
        List.find?_isSome.mpr ⟨last, List.mem_reverse.mpr member, held⟩
      rw [Option.or_of_isSome found]
    · rename_i later
      have missing : rest.find? property = none ∧ rest.reverse.find? property = none := by
        simpa using later
      rw [missing.2, List.find?_cons, List.find?_cons, missing.1]
      rfl

/-- What stands behind the last separator, and in front of it, is told apart. -/
theorem cut_last {separator : α} {front front' back back' : List α} (free : separator ∉ back)
    (free' : separator ∉ back')
    (same : front ++ separator :: back = front' ++ separator :: back') :
    front = front' ∧ back = back' := by
  obtain ⟨gap, first, second⟩ | ⟨gap, first, second⟩ := List.append_eq_append_iff.mp same
  · cases gap with
    | nil =>
      rw [List.append_nil] at first
      exact ⟨first.symm, (List.cons.inj second).2⟩
    | cons head gap =>
      have inside : separator ∈ back := by
        rw [(List.cons.inj second).2]
        exact List.mem_append_right _ List.mem_cons_self
      exact absurd inside free
  · cases gap with
    | nil =>
      rw [List.append_nil] at first
      exact ⟨first, (List.cons.inj second).2.symm⟩
    | cons head gap =>
      have inside : separator ∈ back' := by
        rw [(List.cons.inj second).2]
        exact List.mem_append_right _ List.mem_cons_self
      exact absurd inside free'
variable [BEq α] [BEq β]

/-- What stands in a segment is in the list and is not the separator. -/
theorem of_mem_splitOn [LawfulBEq α] {separator element : α} {segment : List α}
    (member : segment ∈ list.splitOn separator) (inside : element ∈ segment) :
    element ∈ list ∧ element ≠ separator := by
  induction list generalizing segment with
  | nil =>
    rw [List.splitOn_nil, List.mem_singleton] at member
    simp [member] at inside
  | cons head rest ih =>
    rw [List.splitOn_cons_eq_if_modifyHead] at member
    split at member
    · rcases List.mem_cons.mp member with rfl | later
      · cases inside
      · exact (ih later inside).imp_left (.tail _)
    · rename_i other
      cases split : rest.splitOn separator with
      | nil => exact absurd split (List.splitOn_ne_nil _ _)
      | cons first later =>
        rw [split] at ih member
        rcases List.mem_cons.mp member with rfl | behind
        · rcases List.mem_cons.mp inside with rfl | inside
          · exact ⟨.head _, fun same => other (beq_iff_eq.mpr same)⟩
          · exact (ih (.head _) inside).imp_left (.tail _)
        · exact (ih (.tail _ behind) inside).imp_left (.tail _)

theorem not_mem_of_mem_splitOn [LawfulBEq α] {separator : α} {segment : List α}
    (member : segment ∈ list.splitOn separator) : separator ∉ segment :=
  fun inside => (of_mem_splitOn member inside).2 rfl

/-- A function that tells the separator apart may be applied before or after the split. -/
theorem splitOn_map {separator : α} {image : β} (f : α → β)
    (apart : ∀ element ∈ list, (f element == image) = (element == separator)) :
    (list.map f).splitOn image = (list.splitOn separator).map (List.map f) := by
  induction list with
  | nil => rfl
  | cons head rest ih =>
    rw [List.map_cons, List.splitOn_cons_eq_if_modifyHead, List.splitOn_cons_eq_if_modifyHead,
      apart head (.head _), ih fun element member => apart element (.tail _ member)]
    split
    · rfl
    · cases split : rest.splitOn separator with
      | nil => exact absurd split (List.splitOn_ne_nil _ _)
      | cons first later => rfl

end BrainMate.Text
