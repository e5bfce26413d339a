import BrainMate.Text.Places

namespace BrainMate.Text

variable {Symbol : Type} [DecidableEq Symbol] {part text more : List Symbol}

theorem placeOf_le {place : Nat} (found : placeOf part text = some place) :
    place + part.length ≤ text.length := by
  induction text generalizing place with
  | nil =>
    rw [placeOf] at found
    split at found
    · rename_i empty
      cases found
      rw [List.isEmpty_iff.mp empty]
      exact Nat.le_refl _
    · cases found
  | cons head rest ih =>
    rw [placeOf] at found
    split at found
    · rename_i begins
      cases found
      rw [Nat.zero_add]
      exact (List.isPrefixOf_iff_prefix.mp begins).length_le
    · obtain ⟨later, there, rfl⟩ := Option.map_eq_some_iff.mp found
      have bound := ih there
      rw [List.length_cons]
      omega

/-- What comes behind does not move the first place. -/
theorem placeOf_append {place : Nat} (found : placeOf part text = some place)
    (more : List Symbol) : placeOf part (text ++ more) = some place := by
  induction text generalizing place with
  | nil =>
    rw [placeOf] at found
    split at found
    · rename_i empty
      cases found
      rw [List.isEmpty_iff.mp empty]
      exact placeOf_prefix [] more
    · cases found
  | cons head rest ih =>
    have bound := placeOf_le found
    rw [placeOf] at found
    rw [List.cons_append, placeOf]
    split at found
    · rename_i begins
      cases found
      have extended := (List.isPrefixOf_iff_prefix.mp begins).trans
        (List.prefix_append (head :: rest) more)
      exact if_pos (List.isPrefixOf_iff_prefix.mpr extended)
    · rename_i elsewhere
      obtain ⟨later, there, rfl⟩ := Option.map_eq_some_iff.mp found
      -- a part that began here would end before the place where one was found
      have still : ¬ part.isPrefixOf (head :: (rest ++ more)) = true := by
        intro begins
        have inside : part <+: head :: rest :=
          List.prefix_of_prefix_length_le (List.isPrefixOf_iff_prefix.mp begins)
            (List.prefix_append (head :: rest) more) (by omega)
        exact elsewhere (List.isPrefixOf_iff_prefix.mpr inside)
      rw [if_neg still, ih there]
      rfl

private theorem infix_of_placeOf {place : Nat} (found : placeOf part text = some place) :
    part <:+: text := by
  induction text generalizing place with
  | nil =>
    rw [placeOf] at found
    split at found
    · rename_i empty
      rw [List.isEmpty_iff.mp empty]
    · cases found
  | cons head rest ih =>
    rw [placeOf] at found
    split at found
    · rename_i begins
      exact (List.isPrefixOf_iff_prefix.mp begins).isInfix
    · obtain ⟨later, there, -⟩ := Option.map_eq_some_iff.mp found
      exact List.infix_cons (ih there)

private theorem placeOf_isSome_of_infix (inside : part <:+: text) : (placeOf part text).isSome := by
  induction text with
  | nil => rw [List.infix_nil.mp inside]; rfl
  | cons head rest ih =>
    rw [placeOf]
    split
    · rfl
    · rename_i elsewhere
      obtain begins | later := List.infix_cons_iff.mp inside
      · exact absurd (List.isPrefixOf_iff_prefix.mpr begins) elsewhere
      · rw [Option.isSome_map]
        exact ih later

/-- A part is found where it stands, unless it begins in what is in front of it. -/
theorem placeOf_ends (free : ¬ part <:+: text ++ part.dropLast) (more : List Symbol) :
    placeOf part (text ++ (part ++ more)) = some text.length := by
  refine placeOf_eq fun front back whole => Nat.le_of_not_lt fun before => free ?_
  have short : (front ++ part).length ≤ (text ++ part.dropLast).length := by
    rw [List.length_append, List.length_append, List.length_dropLast]
    omega
  have ahead : front ++ part <+: text ++ (part ++ more) :=
    ⟨back, by rw [List.append_assoc, whole]⟩
  have beginning : text ++ part.dropLast <+: text ++ (part ++ more) :=
    (List.prefix_append_right_inj text).mpr
      ((List.dropLast_prefix part).trans (List.prefix_append part more))
  obtain ⟨rest, same⟩ := List.prefix_of_prefix_length_le ahead beginning short
  exact ⟨front, rest, same⟩

/-- The blocks that `first :: others` ends, and what waits behind the last of them. -/
def cutBlocks (first : Symbol) (others buffer : List Symbol) : List (List Symbol) × List Symbol :=
  match _ : placeOf (first :: others) buffer with
  | none => ([], buffer)
  | some place =>
    let (blocks, rest) := cutBlocks first others (buffer.drop (place + (others.length + 1)))
    (buffer.take place :: blocks, rest)
termination_by buffer.length
decreasing_by
  have bound := placeOf_le ‹placeOf (first :: others) buffer = some place›
  rw [List.length_cons] at bound
  rw [List.length_drop]
  omega

variable {first : Symbol} {others buffer : List Symbol}

theorem cutBlocks_none (absent : placeOf (first :: others) buffer = none) :
    cutBlocks first others buffer = ([], buffer) := by
  rw [cutBlocks]
  split
  · rfl
  · rename_i found
    rw [absent] at found
    cases found

theorem cutBlocks_some {place : Nat} (found : placeOf (first :: others) buffer = some place) :
    cutBlocks first others buffer =
      (buffer.take place :: (cutBlocks first others (buffer.drop (place + (others.length + 1)))).1,
        (cutBlocks first others (buffer.drop (place + (others.length + 1)))).2) := by
  rw [cutBlocks]
  split
  · rename_i absent
    rw [absent] at found
    cases found
  · rename_i there
    rw [there] at found
    cases found
    rfl

theorem cutBlocks_nil : cutBlocks first others [] = ([], []) := cutBlocks_none rfl

/-- It does not matter where a stream is cut. -/
theorem cutBlocks_append (buffer more : List Symbol) : cutBlocks first others (buffer ++ more) =
    ((cutBlocks first others buffer).1 ++
        (cutBlocks first others ((cutBlocks first others buffer).2 ++ more)).1,
      (cutBlocks first others ((cutBlocks first others buffer).2 ++ more)).2) := by
  induction size : buffer.length using Nat.strong_induction_on generalizing buffer with
  | _ size ih =>
    cases found : placeOf (first :: others) buffer with
    | none => simp only [cutBlocks_none found, List.nil_append]
    | some place =>
      have bound := placeOf_le found
      rw [List.length_cons] at bound
      have rest := ih _ (by rw [List.length_drop]; omega)
        (buffer.drop (place + (others.length + 1))) rfl
      rw [cutBlocks_some found, cutBlocks_some (placeOf_append found more),
        List.take_append_of_le_length (by omega), List.drop_append_of_le_length (by omega), rest]
      rfl

private theorem cutBlocks_block (free : ¬ first :: others <:+: buffer ++ (first :: others).dropLast)
    (more : List Symbol) : cutBlocks first others (buffer ++ (first :: others) ++ more) =
      (buffer :: (cutBlocks first others more).1, (cutBlocks first others more).2) := by
  have found := placeOf_ends free more
  rw [List.append_assoc, cutBlocks_some found, List.take_left' rfl,
    ← List.append_assoc, List.drop_left' (by rw [List.length_append, List.length_cons])]

/-- Blocks that are sent one after another are the blocks that are cut. -/
theorem cutBlocks_flatMap {blocks : List (List Symbol)}
    (free : ∀ block ∈ blocks, ¬ first :: others <:+: block ++ (first :: others).dropLast) :
    cutBlocks first others (blocks.flatMap (· ++ (first :: others))) = (blocks, []) := by
  induction blocks with
  | nil => exact cutBlocks_nil
  | cons block rest ih =>
    rw [List.flatMap_cons, cutBlocks_block (free block List.mem_cons_self),
      ih fun other member => free other (List.mem_cons_of_mem _ member)]

/-- Of a stream that breaks off the blocks that arrived whole are cut. -/
theorem cutBlocks_of_arrived {arrived : List Symbol} (begins : arrived <+: text) :
    (cutBlocks first others arrived).1 <+: (cutBlocks first others text).1 := by
  obtain ⟨missing, rfl⟩ := begins
  rw [cutBlocks_append]
  exact List.prefix_append _ _

private theorem placeOf_rest :
    placeOf (first :: others) (cutBlocks first others buffer).2 = none := by
  induction size : buffer.length using Nat.strong_induction_on generalizing buffer with
  | _ size ih =>
    cases found : placeOf (first :: others) buffer with
    | none => rw [cutBlocks_none found, found]
    | some place =>
      have bound := placeOf_le found
      rw [List.length_cons] at bound
      rw [cutBlocks_some found]
      exact ih _ (by rw [List.length_drop]; omega) rfl

/-- A foreign symbol at the end completes no block. -/
theorem cutBlocks_foreign {symbol : Symbol} (foreign : symbol ∉ first :: others) :
    (cutBlocks first others (buffer ++ [symbol])).1 = (cutBlocks first others buffer).1 := by
  have absent : placeOf (first :: others)
      ((cutBlocks first others buffer).2 ++ [symbol]) = none := by
    rw [← Option.not_isSome_iff_eq_none]
    intro found
    obtain ⟨place, there⟩ := Option.isSome_iff_exists.mp found
    obtain ⟨front, back, whole⟩ := infix_of_placeOf there
    obtain rfl | ⟨init, last, rfl⟩ := List.eq_nil_or_concat' back
    · rw [List.append_nil] at whole
      have ends := congrArg List.getLast? whole
      rw [List.getLast?_concat, List.getLast?_append_of_ne_nil _ (List.cons_ne_nil _ _)] at ends
      exact foreign (List.mem_of_getLast? ends)
    · rw [← List.append_assoc] at whole
      have inside : first :: others <:+: (cutBlocks first others buffer).2 :=
        ⟨front, init, (List.append_inj' whole rfl).1⟩
      have here := placeOf_isSome_of_infix inside
      rw [placeOf_rest] at here
      cases here
  rw [cutBlocks_append, cutBlocks_none absent, List.append_nil]

omit [DecidableEq Symbol] in
/-- A separator that ends a line makes no pair, unless one follows it. -/
theorem pair_free {separator : Symbol} {line rest : List Symbol} (inside : separator ∉ line)
    (next : rest.head? ≠ some separator) (free : ¬ [separator, separator] <:+: rest) :
    ¬ [separator, separator] <:+: line ++ separator :: rest := by
  induction line with
  | nil =>
    intro found
    obtain begins | later := List.infix_cons_iff.mp found
    · obtain ⟨back, whole⟩ := (List.cons_prefix_cons.mp begins).2
      exact next (by rw [← whole]; rfl)
    · exact free later
  | cons symbol line ih =>
    rw [List.mem_cons, not_or] at inside
    intro found
    obtain begins | later := List.infix_cons_iff.mp found
    · exact inside.1 (List.cons_prefix_cons.mp begins).1
    · exact ih inside.2 later

end BrainMate.Text
