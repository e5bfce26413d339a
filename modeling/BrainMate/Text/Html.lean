import BrainMate.Text.Utf16

namespace BrainMate.Text.Html

/-- The entities that stand for the symbols of HTML itself. -/
def entities : List (List UInt16 × UInt16) :=
  [(units "&amp;", 0x26), (units "&lt;", 0x3c), (units "&gt;", 0x3e), (units "&quot;", 0x22),
    (units "&#039;", 0x27)]

/-- The units that are left of an entity are skipped; a tag goes up to the next `>`. -/
def textContent : Nat → Bool → List UInt16 → List UInt16
  | _, _, [] => []
  | skip + 1, inTag, _ :: rest => textContent skip inTag rest
  | 0, true, unit :: rest => textContent 0 (unit != 0x3e) rest
  | 0, false, unit :: rest =>
    if unit = 0x3c then textContent 0 true rest
    else
      match entities.find? fun entity => entity.1.isPrefixOf (unit :: rest) with
      | some entity => entity.2 :: textContent (entity.1.length - 1) false rest
      | none => unit :: textContent 0 false rest

/-- The HTML shows the content, whatever comes behind it. -/
def Shows (html content : List UInt16) : Prop :=
  ∀ more, textContent 0 false (html ++ more) = content ++ textContent 0 false more

variable {html content : List UInt16}

theorem textContent_of_shows (shows : Shows html content) : textContent 0 false html = content := by
  have whole := shows []
  rwa [List.append_nil, textContent, List.append_nil] at whole

theorem shows_nil : Shows [] [] := fun _ => rfl

theorem shows_append {html' content' : List UInt16} (first : Shows html content)
    (second : Shows html' content') : Shows (html ++ html') (content ++ content') := by
  intro more
  rw [List.append_assoc, first, second, List.append_assoc]

private theorem entities_open : ∀ entity ∈ entities, entity.1.head? = some 0x26 := by decide

theorem shows_entity : ∀ entity ∈ entities, Shows entity.1 [entity.2] := by
  simp only [entities, List.forall_mem_cons]
  exact ⟨fun _ => rfl, fun _ => rfl, fun _ => rfl, fun _ => rfl, fun _ => rfl,
    fun _ member => absurd member List.not_mem_nil⟩

/-- A symbol that opens neither a tag nor an entity stands for itself. -/
theorem shows_unit {unit : UInt16} (noTag : unit ≠ 0x3c) (noEntity : unit ≠ 0x26) :
    Shows [unit] [unit] := by
  intro more
  have none_starts : (entities.find? fun entity => entity.1.isPrefixOf (unit :: more)) = none := by
    refine List.find?_eq_none.mpr fun entity member starts => noEntity ?_
    have opens := entities_open entity member
    obtain ⟨behind, whole⟩ := List.isPrefixOf_iff_prefix.mp starts
    cases name : entity.1 with
    | nil => simp [name] at opens
    | cons first others =>
      rw [name, List.head?_cons] at opens
      rw [name, List.cons_append] at whole
      rw [← (List.cons.inj whole).1, Option.some.inj opens]
  rw [List.singleton_append, textContent, if_neg noTag, none_starts]
  rfl

private theorem textContent_tag {inside more : List UInt16} (noEnd : 0x3e ∉ inside) :
    textContent 0 true (inside ++ 0x3e :: more) = textContent 0 false more := by
  induction inside with
  | nil => rfl
  | cons unit inside ih =>
    rw [List.mem_cons, not_or] at noEnd
    have open_still : (unit != 0x3e) = true := bne_iff_ne.mpr (Ne.symm noEnd.1)
    rw [List.cons_append, textContent, open_still, ih noEnd.2]

theorem shows_tag {inside : List UInt16} (noEnd : 0x3e ∉ inside) :
    Shows (0x3c :: (inside ++ [0x3e])) [] := by
  intro more
  rw [List.cons_append, textContent, if_pos rfl, List.append_assoc, List.singleton_append,
    textContent_tag noEnd, List.nil_append]

end BrainMate.Text.Html
