import Mathlib.Data.List.Chain

namespace BrainMate.Text

def isHighSurrogate (point : Nat) : Bool := 0xd800 ≤ point && point ≤ 0xdbff

def isLowSurrogate (point : Nat) : Bool := 0xdc00 ≤ point && point ≤ 0xdfff

def isSurrogate (point : Nat) : Bool := 0xd800 ≤ point && point ≤ 0xdfff

/-- The code point of a surrogate pair. -/
def combine (high low : Nat) : Nat := 0x10000 + (high - 0xd800) * 0x400 + (low - 0xdc00)

/-- The code points of a string of code units. -/
def points : List UInt16 → List Nat
  | [] => []
  | [unit] => [unit.toNat]
  | unit :: next :: rest =>
    if isHighSurrogate unit.toNat && isLowSurrogate next.toNat then
      combine unit.toNat next.toNat :: points rest
    else unit.toNat :: points (next :: rest)

/-- The code units of a character. -/
def unitsOf (char : Char) : List UInt16 :=
  if char.toNat < 0x10000 then [char.toNat.toUInt16]
  else [(0xd800 + (char.toNat - 0x10000) / 0x400).toUInt16,
    (0xdc00 + (char.toNat - 0x10000) % 0x400).toUInt16]

def units (text : String) : List UInt16 := text.toList.flatMap unitsOf

/-- The bytes of a code point. -/
def utf8 (point : Nat) : List UInt8 :=
  if point < 0x80 then [point.toUInt8]
  else if point < 0x800 then [(0xc0 + point / 0x40).toUInt8, (0x80 + point % 0x40).toUInt8]
  else if point < 0x10000 then
    [(0xe0 + point / 0x1000).toUInt8, (0x80 + point / 0x40 % 0x40).toUInt8,
      (0x80 + point % 0x40).toUInt8]
  else
    [(0xf0 + point / 0x40000).toUInt8, (0x80 + point / 0x1000 % 0x40).toUInt8,
      (0x80 + point / 0x40 % 0x40).toUInt8, (0x80 + point % 0x40).toUInt8]

theorem utf8_ne_nil (point : Nat) : utf8 point ≠ [] := by
  unfold utf8
  split
  · simp
  · split
    · simp
    · split <;> simp

/-- The text has no lone surrogate. -/
def wellFormed (text : List UInt16) : Bool := (points text).all fun point => !isSurrogate point

theorem combine_ge (high low : Nat) : 0x10000 ≤ combine high low := by
  unfold combine
  omega

/-- Texts are decoded each on its own unless a pair lies across the border. -/
theorem points_append (first second : List UInt16)
    (apart : ∀ last ∈ first.getLast?, ∀ unit ∈ second.head?,
      (isHighSurrogate last.toNat && isLowSurrogate unit.toNat) = false) :
    points (first ++ second) = points first ++ points second := by
  induction first using points.induct with
  | case1 => rfl
  | case2 unit =>
    cases second with
    | nil => rfl
    | cons next rest =>
      have single := apart unit rfl next rfl
      simp only [List.singleton_append, points, single, Bool.false_eq_true, ↓reduceIte]
  | case3 unit next rest pair ih =>
    have later : ∀ last ∈ rest.getLast?, ∀ unit ∈ second.head?,
        (isHighSurrogate last.toNat && isLowSurrogate unit.toNat) = false := by
      intro last found
      refine apart last ?_
      cases rest with
      | nil => cases found
      | cons third rest => simpa using found
    simp [points, pair, ih later]
  | case4 unit next rest single ih =>
    rw [Bool.not_eq_true] at single
    have later : ∀ last ∈ (next :: rest).getLast?, ∀ unit ∈ second.head?,
        (isHighSurrogate last.toNat && isLowSurrogate unit.toNat) = false := by
      intro last found
      exact apart last (by simpa using found)
    simpa [points, single] using ih later

/-- After decoding no pair is left. -/
theorem points_unpaired (text : List UInt16) :
    (points text).IsChain fun point next =>
      isHighSurrogate point = true → isLowSurrogate next = false := by
  induction text using points.induct with
  | case1 => exact .nil
  | case2 unit => exact .singleton _
  | case3 unit next rest pair ih =>
    rw [points, if_pos pair]
    refine List.isChain_cons.mpr ⟨fun other _ high => ?_, ih⟩
    have above := combine_ge unit.toNat next.toNat
    simp only [isHighSurrogate, Bool.and_eq_true, decide_eq_true_eq] at high
    omega
  | case4 unit next rest single ih =>
    rw [points, if_neg single]
    refine List.isChain_cons.mpr ⟨fun other found high => ?_, ih⟩
    cases rest with
    | nil =>
      cases found
      simpa [high] using single
    | cons third rest =>
      rw [points] at found
      split at found
      · have above := combine_ge next.toNat third.toNat
        rw [← Bool.not_eq_true, ← Option.some.inj found]
        simp only [isLowSurrogate, Bool.and_eq_true, decide_eq_true_eq]
        omega
      · cases found
        simpa [high] using single

/-- The code points of some string of code units. -/
def unpaired (text : List Nat) : Bool :=
  text.all (· < 0x110000) && decide (text.IsChain fun point next =>
    isHighSurrogate point = true → isLowSurrogate next = false)

theorem unpaired_iff {text : List Nat} : unpaired text = true ↔
    (∀ point ∈ text, point < 0x110000) ∧ text.IsChain fun point next =>
      isHighSurrogate point = true → isLowSurrogate next = false := by
  rw [unpaired, Bool.and_eq_true, List.all_eq_true, decide_eq_true_eq]
  simp only [decide_eq_true_eq]

theorem char_scalar (char : Char) :
    char.toNat < 0xd800 ∨ (0xdfff < char.toNat ∧ char.toNat < 0x110000) := char.valid

/-- No character is half of a pair. -/
theorem not_surrogate (char : Char) : isSurrogate char.toNat = false := by
  rw [← Bool.not_eq_true]
  simp only [isSurrogate, Bool.and_eq_true, decide_eq_true_eq]
  have scalar := char_scalar char
  omega

theorem combine_split (point : Nat) (above : 0x10000 ≤ point) :
    combine (0xd800 + (point - 0x10000) / 0x400) (0xdc00 + (point - 0x10000) % 0x400) = point := by
  unfold combine
  omega

private theorem points_unitsOf (char : Char) : points (unitsOf char) = [char.toNat] := by
  have scalar := char_scalar char
  unfold unitsOf
  split
  · rename_i small
    simp [points, Nat.mod_eq_of_lt small]
  · rename_i large
    have high : (0xd800 + (char.toNat - 0x10000) / 0x400) % 2 ^ 16 =
        0xd800 + (char.toNat - 0x10000) / 0x400 := Nat.mod_eq_of_lt (by omega)
    have low : (0xdc00 + (char.toNat - 0x10000) % 0x400) % 2 ^ 16 =
        0xdc00 + (char.toNat - 0x10000) % 0x400 := Nat.mod_eq_of_lt (by omega)
    have pair : (isHighSurrogate (0xd800 + (char.toNat - 0x10000) / 0x400) &&
        isLowSurrogate (0xdc00 + (char.toNat - 0x10000) % 0x400)) = true := by
      simp only [isHighSurrogate, isLowSurrogate, Bool.and_eq_true, decide_eq_true_eq]
      omega
    rw [points, Nat.toUInt16_eq, Nat.toUInt16_eq, UInt16.toNat_ofNat', UInt16.toNat_ofNat', high,
      low, if_pos pair, combine_split _ (by omega)]
    rfl

/-- No character begins with the second half of a pair. -/
theorem head_unitsOf (char : Char) (rest : List UInt16) :
    ∀ unit ∈ (unitsOf char ++ rest).head?, isLowSurrogate unit.toNat = false := by
  have scalar := char_scalar char
  unfold unitsOf
  intro unit found
  rw [← Bool.not_eq_true]
  split at found
  · rename_i small
    have same : char.toNat.toUInt16 = unit := Option.some.inj found
    rw [← same, Nat.toUInt16_eq, UInt16.toNat_ofNat', Nat.mod_eq_of_lt small]
    simp only [isLowSurrogate, Bool.and_eq_true, decide_eq_true_eq]
    omega
  · have same : (0xd800 + (char.toNat - 0x10000) / 0x400).toUInt16 = unit := Option.some.inj found
    have high : (0xd800 + (char.toNat - 0x10000) / 0x400) % 2 ^ 16 =
        0xd800 + (char.toNat - 0x10000) / 0x400 := Nat.mod_eq_of_lt (by omega)
    rw [← same, Nat.toUInt16_eq, UInt16.toNat_ofNat', high]
    simp only [isLowSurrogate, Bool.and_eq_true, decide_eq_true_eq]
    omega

/-- No text begins with the second half of a pair. -/
theorem head_units (text : String) :
    ∀ unit ∈ (units text).head?, isLowSurrogate unit.toNat = false := by
  unfold units
  cases text.toList with
  | nil => exact fun unit found => nomatch found
  | cons char rest => exact head_unitsOf char (rest.flatMap unitsOf)

/-- The characters of a text come back from its code units. -/
theorem points_units (text : String) : points (units text) = text.toList.map Char.toNat := by
  unfold units
  induction text.toList with
  | nil => rfl
  | cons char rest ih =>
    have apart : ∀ unit ∈ (rest.flatMap unitsOf).head?, isLowSurrogate unit.toNat = false := by
      cases rest with
      | nil => exact fun unit found => nomatch found
      | cons next rest => exact head_unitsOf next (rest.flatMap unitsOf)
    rw [List.flatMap_cons, points_append _ _ fun _ _ unit found => by simp [apart unit found],
      points_unitsOf, ih]
    rfl

theorem wellFormed_units (text : String) : wellFormed (units text) = true := by
  simp [wellFormed, points_units, not_surrogate]

theorem points_append_units (first : List UInt16) (second : String) :
    points (first ++ units second) = points first ++ second.toList.map Char.toNat := by
  rw [points_append _ _ fun _ _ unit found => by simp [head_units second unit found], points_units]

end BrainMate.Text
