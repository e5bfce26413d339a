import BrainMate.Text.Utf16

namespace BrainMate.Text

/-- What a decoder knows between two bytes: the character it is in, how many bytes are missing, the
bounds of the next one, and whether there was a character before. -/
structure Utf8Decoder where
  codePoint : Nat := 0
  needed : Nat := 0
  lower : Nat := 0x80
  upper : Nat := 0xbf
  begun : Bool := false
  deriving DecidableEq, Repr

namespace Utf8Decoder

def emit (begun : Bool) (point : Nat) : Utf8Decoder × List Nat :=
  ({ begun := true }, if !begun && point == 0xfeff then [] else [point])

/-- A byte that begins a character. -/
def lead (begun : Bool) (byte : Nat) : Utf8Decoder × List Nat :=
  if byte < 0x80 then emit begun byte
  else if 0xc2 ≤ byte ∧ byte ≤ 0xdf then
    ({ codePoint := byte - 0xc0, needed := 1, begun := begun }, [])
  else if 0xe0 ≤ byte ∧ byte ≤ 0xef then
    ({
      codePoint := byte - 0xe0
      needed := 2
      lower := if byte = 0xe0 then 0xa0 else 0x80
      upper := if byte = 0xed then 0x9f else 0xbf
      begun := begun }, [])
  else if 0xf0 ≤ byte ∧ byte ≤ 0xf4 then
    ({
      codePoint := byte - 0xf0
      needed := 3
      lower := if byte = 0xf0 then 0x90 else 0x80
      upper := if byte = 0xf4 then 0x8f else 0xbf
      begun := begun }, [])
  else emit begun 0xfffd

def push (decoder : Utf8Decoder) (byte : UInt8) : Utf8Decoder × List Nat :=
  if decoder.needed = 0 then lead decoder.begun byte.toNat
  else if byte.toNat < decoder.lower ∨ decoder.upper < byte.toNat then
    -- the byte that does not fit begins the next character
    ((lead true byte.toNat).1, 0xfffd :: (lead true byte.toNat).2)
  else
    let point := decoder.codePoint * 0x40 + (byte.toNat - 0x80)
    if decoder.needed = 1 then emit decoder.begun point
    else ({ codePoint := point, needed := decoder.needed - 1, begun := decoder.begun }, [])

/-- What a piece of a stream is decoded to. -/
def decode : Utf8Decoder → List UInt8 → Utf8Decoder × List Nat
  | decoder, [] => (decoder, [])
  | decoder, byte :: rest =>
    let (next, points) := decoder.push byte
    let (last, more) := decode next rest
    (last, points ++ more)

theorem decode_append (decoder : Utf8Decoder) (first second : List UInt8) :
    decoder.decode (first ++ second) =
      (((decoder.decode first).1.decode second).1,
        (decoder.decode first).2 ++ ((decoder.decode first).1.decode second).2) := by
  induction first generalizing decoder with
  | nil => rfl
  | cons byte rest ih =>
    simp only [List.cons_append, decode, ih, List.append_assoc]

theorem toNat_byte {value : Nat} (bound : value < 0x100) : value.toUInt8.toNat = value :=
  Nat.mod_eq_of_lt bound

/-- A byte that continues a character and is not its last. -/
theorem push_more {codePoint needed lower upper value : Nat} {begun : Bool} (bound : value < 0x100)
    (above : lower ≤ value) (below : value ≤ upper) :
    push ⟨codePoint, needed + 2, lower, upper, begun⟩ value.toUInt8 =
      (⟨codePoint * 0x40 + (value - 0x80), needed + 1, 0x80, 0xbf, begun⟩, []) := by
  rw [push, if_neg (Nat.succ_ne_zero _), toNat_byte bound,
    if_neg (not_or.mpr ⟨Nat.not_lt.mpr above, Nat.not_lt.mpr below⟩), if_neg (nofun)]
  rfl

/-- The last byte of a character. -/
theorem push_last {codePoint lower upper value : Nat} {begun : Bool} (bound : value < 0x100)
    (above : lower ≤ value) (below : value ≤ upper) :
    push ⟨codePoint, 1, lower, upper, begun⟩ value.toUInt8 =
      emit begun (codePoint * 0x40 + (value - 0x80)) := by
  rw [push, if_neg Nat.one_ne_zero, toNat_byte bound,
    if_neg (not_or.mpr ⟨Nat.not_lt.mpr above, Nat.not_lt.mpr below⟩), if_pos rfl]

theorem decode_cons (decoder : Utf8Decoder) (byte : UInt8) (rest : List UInt8) :
    decoder.decode (byte :: rest) =
      (((decoder.push byte).1.decode rest).1,
        (decoder.push byte).2 ++ ((decoder.push byte).1.decode rest).2) := rfl

theorem push_begin {begun : Bool} {value : Nat} (bound : value < 0x100) :
    push { begun := begun } value.toUInt8 = lead begun value := by
  rw [push, if_pos rfl, toNat_byte bound]

theorem decode_last {codePoint lower upper value : Nat} {begun : Bool} (bound : value < 0x100)
    (above : lower ≤ value) (below : value ≤ upper) :
    decode ⟨codePoint, 1, lower, upper, begun⟩ [value.toUInt8] =
      emit begun (codePoint * 0x40 + (value - 0x80)) := by
  rw [decode_cons, push_last bound above below]
  simp only [decode, List.append_nil]

theorem decode_more {codePoint needed lower upper value : Nat} {begun : Bool} {rest : List UInt8}
    (bound : value < 0x100) (above : lower ≤ value) (below : value ≤ upper) :
    decode ⟨codePoint, needed + 2, lower, upper, begun⟩ (value.toUInt8 :: rest) =
      decode ⟨codePoint * 0x40 + (value - 0x80), needed + 1, 0x80, 0xbf, begun⟩ rest := by
  rw [decode_cons, push_more bound above below]
  simp only [List.nil_append]

/-- The bytes of a character are decoded to it. -/
theorem decode_utf8 {point : Nat} (begun : Bool) (bound : point < 0x110000)
    (whole : isSurrogate point = false) :
    decode { begun := begun } (utf8 point) = emit begun point := by
  simp only [isSurrogate, Bool.and_eq_false_iff, decide_eq_false_iff_not] at whole
  unfold utf8
  split
  · rename_i ascii
    rw [decode_cons, push_begin (by omega), lead, if_pos ascii]
    simp only [decode, List.append_nil]
  · rename_i ascii
    split
    · rename_i double
      rw [decode_cons, push_begin (by omega), lead, if_neg (by omega), if_pos (by omega),
        decode_last (by omega) (by omega) (by omega)]
      have value : (0xc0 + point / 0x40 - 0xc0) * 0x40 + (0x80 + point % 0x40 - 0x80) = point := by
        omega
      simp only [value, List.nil_append]
    · rename_i double
      split
      · rename_i triple
        rw [decode_cons, push_begin (by omega), lead, if_neg (by omega), if_neg (by omega),
          if_pos (by omega), decode_more (by omega) (by split <;> omega) (by split <;> omega),
          decode_last (by omega) (by omega) (by omega)]
        have value : ((0xe0 + point / 0x1000 - 0xe0) * 0x40 + (0x80 + point / 0x40 % 0x40 - 0x80)) *
            0x40 + (0x80 + point % 0x40 - 0x80) = point := by omega
        simp only [value, List.nil_append]
      · rename_i triple
        rw [decode_cons, push_begin (by omega), lead, if_neg (by omega), if_neg (by omega),
          if_neg (by omega), if_pos (by omega),
          decode_more (by omega) (by split <;> omega) (by split <;> omega),
          decode_more (by omega) (by omega) (by omega), decode_last (by omega) (by omega) (by omega)]
        have value : (((0xf0 + point / 0x40000 - 0xf0) * 0x40 +
            (0x80 + point / 0x1000 % 0x40 - 0x80)) * 0x40 + (0x80 + point / 0x40 % 0x40 - 0x80)) *
            0x40 + (0x80 + point % 0x40 - 0x80) = point := by omega
        simp only [value, List.nil_append]

/-- After the first character the bytes of a text are decoded to it. -/
theorem decode_text {text : List Nat}
    (scalar : ∀ point ∈ text, point < 0x110000 ∧ isSurrogate point = false) :
    decode { begun := true } (text.flatMap utf8) = ({ begun := true }, text) := by
  induction text with
  | nil => rfl
  | cons point rest ih =>
    obtain ⟨bound, whole⟩ := scalar point List.mem_cons_self
    rw [List.flatMap_cons, decode_append, decode_utf8 true bound whole, emit,
      ih fun other member => scalar other (List.mem_cons_of_mem _ member)]
    rfl

/-- A text that begins with no byte order mark is decoded to itself. -/
theorem decode_fresh {first : Nat} {rest : List Nat} (unmarked : first ≠ 0xfeff)
    (scalar : ∀ point ∈ first :: rest, point < 0x110000 ∧ isSurrogate point = false) :
    decode {} ((first :: rest).flatMap utf8) = ({ begun := true }, first :: rest) := by
  obtain ⟨bound, whole⟩ := scalar first List.mem_cons_self
  rw [List.flatMap_cons, decode_append, decode_utf8 false bound whole, emit,
    decode_text fun other member => scalar other (List.mem_cons_of_mem _ member)]
  simp [unmarked]

end Utf8Decoder

end BrainMate.Text
