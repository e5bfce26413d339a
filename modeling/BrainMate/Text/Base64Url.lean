import Mathlib.Data.Nat.Notation

namespace BrainMate.Text.Base64Url

def digit (value : Nat) : Char :=
  if value < 26 then Char.ofNat (65 + value)
  else if value < 52 then Char.ofNat (71 + value)
  else if value < 62 then Char.ofNat (value - 4)
  else if value = 62 then '-'
  else '_'

def digitValue? (c : Char) : Option Nat :=
  if 'A' ≤ c ∧ c ≤ 'Z' then some (c.toNat - 65)
  else if 'a' ≤ c ∧ c ≤ 'z' then some (c.toNat - 71)
  else if '0' ≤ c ∧ c ≤ '9' then some (c.toNat + 4)
  else if c = '-' then some 62
  else if c = '_' then some 63
  else none

def encode : List UInt8 → List Char
  | [] => []
  | [one] => [digit (one.toNat / 4), digit (one.toNat % 4 * 16)]
  | [one, two] =>
    [digit (one.toNat / 4), digit (one.toNat % 4 * 16 + two.toNat / 16),
      digit (two.toNat % 16 * 4)]
  | one :: two :: three :: rest =>
    digit (one.toNat / 4) :: digit (one.toNat % 4 * 16 + two.toNat / 16) ::
      digit (two.toNat % 16 * 4 + three.toNat / 64) :: digit (three.toNat % 64) :: encode rest

def decode : List Char → Option (List UInt8)
  | [] => some []
  | [_] => none
  | [first, second] => do
    let first ← digitValue? first
    let second ← digitValue? second
    if second % 16 = 0 then some [UInt8.ofNat (first * 4 + second / 16)] else none
  | [first, second, third] => do
    let first ← digitValue? first
    let second ← digitValue? second
    let third ← digitValue? third
    if third % 4 = 0 then
      some [UInt8.ofNat (first * 4 + second / 16), UInt8.ofNat (second % 16 * 16 + third / 4)]
    else none
  | first :: second :: third :: fourth :: rest => do
    let first ← digitValue? first
    let second ← digitValue? second
    let third ← digitValue? third
    let fourth ← digitValue? fourth
    let bytes ← decode rest
    return UInt8.ofNat (first * 4 + second / 16) ::
      UInt8.ofNat (second % 16 * 16 + third / 4) :: UInt8.ofNat (third % 4 * 64 + fourth) :: bytes

theorem digitValue?_digit {value : Nat} (small : value < 64) :
    digitValue? (digit value) = some value := by
  have every : ∀ value : Fin 64, digitValue? (digit value) = some value.val := by decide
  exact every ⟨value, small⟩

/-- What is written is read. -/
theorem decode_encode (bytes : List UInt8) : decode (encode bytes) = some bytes := by
  induction bytes using encode.induct with
  | case1 => rfl
  | case2 one =>
    have range := one.toNat_lt
    have first : one.toNat / 4 < 64 := by omega
    have second : one.toNat % 4 * 16 < 64 := by omega
    have back : one.toNat / 4 * 4 + one.toNat % 4 * 16 / 16 = one.toNat := by omega
    have zero : one.toNat % 4 * 16 % 16 = 0 := by omega
    simp only [encode, decode, digitValue?_digit first, digitValue?_digit second,
      Option.bind_eq_bind, Option.bind_some, zero, if_true, back, UInt8.ofNat_toNat]
  | case3 one two =>
    have range := one.toNat_lt
    have range' := two.toNat_lt
    have first : one.toNat / 4 < 64 := by omega
    have second : one.toNat % 4 * 16 + two.toNat / 16 < 64 := by omega
    have third : two.toNat % 16 * 4 < 64 := by omega
    have back : one.toNat / 4 * 4 + (one.toNat % 4 * 16 + two.toNat / 16) / 16 = one.toNat := by
      omega
    have back' : (one.toNat % 4 * 16 + two.toNat / 16) % 16 * 16 + two.toNat % 16 * 4 / 4 =
        two.toNat := by omega
    have zero : two.toNat % 16 * 4 % 4 = 0 := by omega
    simp only [encode, decode, digitValue?_digit first, digitValue?_digit second,
      digitValue?_digit third, Option.bind_eq_bind, Option.bind_some, zero, if_true, back, back',
      UInt8.ofNat_toNat]
  | case4 one two three rest ih =>
    have range := one.toNat_lt
    have range' := two.toNat_lt
    have range'' := three.toNat_lt
    have first : one.toNat / 4 < 64 := by omega
    have second : one.toNat % 4 * 16 + two.toNat / 16 < 64 := by omega
    have third : two.toNat % 16 * 4 + three.toNat / 64 < 64 := by omega
    have fourth : three.toNat % 64 < 64 := by omega
    have back : one.toNat / 4 * 4 + (one.toNat % 4 * 16 + two.toNat / 16) / 16 = one.toNat := by
      omega
    have back' : (one.toNat % 4 * 16 + two.toNat / 16) % 16 * 16 +
        (two.toNat % 16 * 4 + three.toNat / 64) / 4 = two.toNat := by omega
    have back'' : (two.toNat % 16 * 4 + three.toNat / 64) % 4 * 64 + three.toNat % 64 =
        three.toNat := by omega
    simp only [encode, decode, digitValue?_digit first, digitValue?_digit second,
      digitValue?_digit third, digitValue?_digit fourth, Option.bind_eq_bind, Option.bind_some, ih,
      back, back', back'', UInt8.ofNat_toNat]
    rfl

theorem digit_ne {c : Char} (outside : digitValue? c = none) (value : Nat) : digit value ≠ c := by
  by_cases small : value < 64
  · intro same
    have read := digitValue?_digit small
    rw [same, outside] at read
    cases read
  · rw [digit, if_neg (by omega), if_neg (by omega), if_neg (by omega), if_neg (by omega)]
    rintro rfl
    cases outside

/-- What is in no alphabet is not written. -/
theorem not_mem_encode {c : Char} (outside : digitValue? c = none) (bytes : List UInt8) :
    c ∉ encode bytes := by
  induction bytes using encode.induct with
  | case1 => exact List.not_mem_nil
  | case2 | case3 => simp [encode, (digit_ne outside _).symm]
  | case4 one two three rest ih => simp [encode, (digit_ne outside _).symm, ih]

/-- The alphabet has no full stop. -/
theorem dot_not_mem_encode (bytes : List UInt8) : '.' ∉ encode bytes :=
  not_mem_encode (by decide) bytes

end BrainMate.Text.Base64Url
