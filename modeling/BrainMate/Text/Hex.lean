import Mathlib.Data.Nat.Notation

/-! Bytes as hexadecimal digits, written in lower case and read in either. -/

namespace BrainMate.Text.Hex

def digit (value : Nat) : Char :=
  if value < 10 then Char.ofNat (48 + value) else Char.ofNat (87 + value)

def digitValue? (c : Char) : Option Nat :=
  if '0' ≤ c ∧ c ≤ '9' then some (c.toNat - 48)
  else if 'a' ≤ c ∧ c ≤ 'f' then some (c.toNat - 87)
  else if 'A' ≤ c ∧ c ≤ 'F' then some (c.toNat - 55)
  else none

def encode : List UInt8 → List Char
  | [] => []
  | byte :: rest => digit (byte.toNat / 16) :: digit (byte.toNat % 16) :: encode rest

/-- An odd number of digits, or a character that is none, is refused. -/
def decode : List Char → Option (List UInt8)
  | [] => some []
  | [_] => none
  | high :: low :: rest => do
    return UInt8.ofNat (16 * (← digitValue? high) + (← digitValue? low)) :: (← decode rest)

theorem digitValue?_digit {value : Nat} (small : value < 16) :
    digitValue? (digit value) = some value := by
  have every : ∀ value : Fin 16, digitValue? (digit value) = some value.val := by decide
  exact every ⟨value, small⟩

/-- What is written is read. -/
theorem decode_encode (bytes : List UInt8) : decode (encode bytes) = some bytes := by
  induction bytes with
  | nil => rfl
  | cons byte rest ih =>
    have range := byte.toNat_lt
    have high : byte.toNat / 16 < 16 := by omega
    have low : byte.toNat % 16 < 16 := Nat.mod_lt _ (by decide)
    have whole : 16 * (byte.toNat / 16) + byte.toNat % 16 = byte.toNat := Nat.div_add_mod _ _
    simp only [encode, decode, digitValue?_digit high, digitValue?_digit low, ih,
      Option.bind_eq_bind, Option.bind_some, whole, UInt8.ofNat_toNat]
    rfl

end BrainMate.Text.Hex
