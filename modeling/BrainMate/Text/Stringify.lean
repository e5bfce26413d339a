import BrainMate.Text.Json

namespace BrainMate.Text

private theorem stringify_reads : stringify.Reads unpaired := by
  intro points tail fuel text enough
  have longer := length_le_quoted points
  have written : stringify.escape = quotePoint := rfl
  rw [written] at enough ⊢
  rw [List.length_append, List.length_cons] at enough
  exact scanString_quoted (unpaired_iff.mp text).2 tail (by omega)

theorem loads_stringify {value : Json} (sound : value.all unpaired isFloat = true) :
    loads (stringify.text value) = some value :=
  loads_text_of_reads stringify stringify_reads sound

theorem isScalar_of_small {point : Nat} (small : point < 0xd800) : isScalar point = true := by
  simp only [isScalar, isSurrogate, Bool.and_eq_true, Bool.not_eq_true', Bool.and_eq_false_iff,
    decide_eq_true_eq, decide_eq_false_iff_not]
  omega

private theorem hexDigit_small (value : Nat) : hexDigit (value % 16) < 0xd800 := by
  unfold hexDigit
  split
  · omega
  · omega

private theorem quotePoint_scalar {point : Nat} (bound : point < 0x110000) :
    (quotePoint point).all isScalar = true := by
  unfold quotePoint
  split
  · rename_i letter short
    have small : letter < 0xd800 := by
      unfold shortEscape? at short
      split at short
      all_goals first | (cases short; decide) | cases short
    simp [isScalar_of_small small, @isScalar_of_small 0x5c (by decide)]
  · split
    · have digits (value : Nat) := isScalar_of_small (hexDigit_small value)
      simp [unicodeEscape, digits, @isScalar_of_small 0x5c (by decide),
        @isScalar_of_small 0x75 (by decide)]
    · rename_i plain
      simp only [Bool.or_eq_true, decide_eq_true_eq, not_or, Bool.not_eq_true] at plain
      simp [isScalar, bound, plain.2]

private theorem quoted_scalar {points : List Nat} (bound : ∀ point ∈ points, point < 0x110000) :
    (stringify.quoted points).all isScalar = true := by
  have mark : isScalar 0x22 = true := by decide
  have inside : (points.flatMap stringify.escape).all isScalar = true := by
    rw [List.all_flatMap, List.all_eq_true]
    exact fun point member => quotePoint_scalar (bound point member)
  simp only [Writer.quoted, List.all_append, List.all_cons, List.all_nil, mark, inside,
    Bool.and_self]

section

variable {allowed : Nat → Bool} (visible : ∀ point, isVisible point = true → allowed point = true)

include visible

private theorem all_integer (value : Int) : (integer value).all allowed = true := by
  rw [List.all_eq_true]
  intro point member
  cases value with
  | ofNat value => exact visible _ (isVisible_digit (isDigit_numeral member))
  | negSucc value =>
    obtain rfl | digit := List.mem_cons.mp member
    · exact visible _ (by decide)
    · exact visible _ (isVisible_digit (isDigit_numeral digit))

mutual

theorem all_text
    (strings : ∀ points, unpaired points = true → (stringify.quoted points).all allowed = true) :
    ∀ {value : Json}, value.all unpaired isFloat = true →
    (stringify.text value).all allowed = true
  | .null, _ => List.all_eq_true.mpr fun _ member =>
    visible _ (List.all_eq_true.mp (by decide) _ member)
  | .bool true, _ => List.all_eq_true.mpr fun _ member =>
    visible _ (List.all_eq_true.mp (by decide) _ member)
  | .bool false, _ => List.all_eq_true.mpr fun _ member =>
    visible _ (List.all_eq_true.mp (by decide) _ member)
  | .int value, _ => all_integer visible value
  | .float _, float => List.all_eq_true.mpr fun _ member =>
    visible _ (visible_of_float float member)
  | .str points, text => strings points text
  | .arr items, sound => by
    rw [Writer.text, List.all_cons, all_firstItem strings sound, visible 0x5b (by decide)]
    rfl
  | .obj members, sound => by
    rw [Writer.text, List.all_cons, all_firstMember strings sound, visible 0x7b (by decide)]
    rfl

private theorem all_firstItem
    (strings : ∀ points, unpaired points = true → (stringify.quoted points).all allowed = true) :
    ∀ {items : List Json}, Json.allItems unpaired isFloat items = true →
    (stringify.firstItem items).all allowed = true
  | [], _ => by
    rw [Writer.firstItem, List.all_cons, visible 0x5d (by decide)]
    rfl
  | item :: items, sound => by
    rw [Json.allItems, Bool.and_eq_true] at sound
    rw [Writer.firstItem, List.all_append, all_text strings sound.1, all_moreItems strings sound.2]
    rfl

theorem all_moreItems
    (strings : ∀ points, unpaired points = true → (stringify.quoted points).all allowed = true) :
    ∀ {items : List Json}, Json.allItems unpaired isFloat items = true →
    (stringify.moreItems items).all allowed = true
  | [], _ => by
    rw [Writer.moreItems, List.all_cons, visible 0x5d (by decide)]
    rfl
  | item :: items, sound => by
    rw [Json.allItems, Bool.and_eq_true] at sound
    simp only [Writer.moreItems, List.all_append, List.all_cons, all_text strings sound.1,
      all_moreItems strings sound.2, visible 0x2c (by decide)]
    rfl

private theorem all_firstMember
    (strings : ∀ points, unpaired points = true → (stringify.quoted points).all allowed = true) :
    ∀ {members : List (List Nat × Json)},
    Json.allMembers unpaired isFloat members = true →
    (stringify.firstMember members).all allowed = true
  | [], _ => by
    rw [Writer.firstMember, List.all_cons, visible 0x7d (by decide)]
    rfl
  | (key, value) :: members, sound => by
    rw [Json.allMembers, Bool.and_eq_true, Bool.and_eq_true] at sound
    simp only [Writer.firstMember, List.all_append, List.all_cons, strings key sound.1.1,
      all_text strings sound.1.2, all_moreMembers strings sound.2, visible 0x3a (by decide)]
    rfl

theorem all_moreMembers
    (strings : ∀ points, unpaired points = true → (stringify.quoted points).all allowed = true) :
    ∀ {members : List (List Nat × Json)},
    Json.allMembers unpaired isFloat members = true →
    (stringify.moreMembers members).all allowed = true
  | [], _ => by
    rw [Writer.moreMembers, List.all_cons, visible 0x7d (by decide)]
    rfl
  | (key, value) :: members, sound => by
    rw [Json.allMembers, Bool.and_eq_true, Bool.and_eq_true] at sound
    simp only [Writer.moreMembers, List.all_append, List.all_cons, strings key sound.1.1,
      all_text strings sound.1.2, all_moreMembers strings sound.2, visible 0x2c (by decide),
      visible 0x3a (by decide)]
    rfl

end

end

theorem text_scalar {value : Json} (sound : value.all unpaired isFloat = true) :
    (stringify.text value).all isScalar = true := by
  refine all_text (fun point visible => ?_) (fun points text => ?_) sound
  · simp only [isVisible, Bool.and_eq_true, decide_eq_true_eq] at visible
    exact isScalar_of_small (Nat.lt_trans visible.2 (by decide))
  · exact quoted_scalar (unpaired_iff.mp text).1

private theorem hexDigit_shown (value : Nat) : 0x20 ≤ hexDigit (value % 16) := by
  unfold hexDigit
  split
  · omega
  · omega

private theorem quotePoint_shown (point : Nat) : (quotePoint point).all (0x20 ≤ ·) = true := by
  unfold quotePoint
  split
  · rename_i letter short
    have shown : 0x20 ≤ letter := by
      unfold shortEscape? at short
      split at short
      all_goals first | (cases short; decide) | cases short
    simp [shown]
  · split
    · simp [unicodeEscape, hexDigit_shown]
    · rename_i plain
      simp only [Bool.or_eq_true, decide_eq_true_eq, not_or, Nat.not_lt] at plain
      simp [plain.1]

theorem text_shown {value : Json} (sound : value.all unpaired isFloat = true) :
    (stringify.text value).all (0x20 ≤ ·) = true := by
  refine all_text (fun point visible => ?_) (fun points _ => ?_) sound
  · rw [isVisible, Bool.and_eq_true] at visible
    exact visible.1
  · have inside : (points.flatMap stringify.escape).all (0x20 ≤ ·) = true := by
      rw [List.all_flatMap, List.all_eq_true]
      exact fun point _ => quotePoint_shown point
    simp [Writer.quoted, List.all_append, inside]

theorem unpaired_of_scalar {text : List Nat} (scalar : text.all isScalar = true) :
    unpaired text = true := by
  have each : ∀ point ∈ text, point < 0x110000 ∧ isHighSurrogate point = false := by
    intro point member
    have own := List.all_eq_true.mp scalar point member
    refine ⟨?_, not_high_of_scalar own⟩
    rw [isScalar, Bool.and_eq_true] at own
    exact of_decide_eq_true own.1
  refine unpaired_iff.mpr ⟨fun point member => (each point member).1, ?_⟩
  apply List.Pairwise.isChain
  apply List.pairwise_of_forall_mem_list
  intro point member _ _ high
  rw [(each point member).2] at high
  cases high

/-- Nor of a value without any. -/
theorem text_scalar_of_plain {value : Json} (plain : value.plain = true) :
    (stringify.text value).all isScalar = true :=
  text_scalar (Json.all_mono (fun _ => unpaired_of_scalar) (Json.all_of_plain plain))

end BrainMate.Text
