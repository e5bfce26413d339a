import Mathlib.Data.List.DropRight
import BrainMate.Text.Base64Url

/-! Bytes in base64 with its plus, slash and padding, and a reader that takes either alphabet and
passes over what is in none. -/

namespace BrainMate.Text.Base64

def digit (value : Nat) : Char :=
  if value < 62 then Base64Url.digit value
  else if value = 62 then '+'
  else '/'

def encode : List UInt8 → List Char
  | [] => []
  | [one] => [digit (one.toNat / 4), digit (one.toNat % 4 * 16), '=', '=']
  | [one, two] =>
    [digit (one.toNat / 4), digit (one.toNat % 4 * 16 + two.toNat / 16),
      digit (two.toNat % 16 * 4), '=']
  | one :: two :: three :: rest =>
    digit (one.toNat / 4) :: digit (one.toNat % 4 * 16 + two.toNat / 16) ::
      digit (two.toNat % 16 * 4 + three.toNat / 64) :: digit (three.toNat % 64) :: encode rest

def digitValue? (c : Char) : Option Nat :=
  if c = '+' then some 62
  else if c = '/' then some 63
  else Base64Url.digitValue? c

/-- The bytes of so many digits; what is left of a last digit alone is dropped. -/
def bytesOf : List Nat → List UInt8
  | first :: second :: third :: fourth :: rest =>
    UInt8.ofNat (first * 4 + second / 16) :: UInt8.ofNat (second % 16 * 16 + third / 4) ::
      UInt8.ofNat (third % 4 * 64 + fourth) :: bytesOf rest
  | [first, second, third] =>
    [UInt8.ofNat (first * 4 + second / 16), UInt8.ofNat (second % 16 * 16 + third / 4)]
  | [first, second] => [UInt8.ofNat (first * 4 + second / 16)]
  | _ => []

def digits (text : List Char) : List Nat := (text.takeWhile (· ≠ '=')).filterMap digitValue?

def decode (text : List Char) : List UInt8 := bytesOf (digits text)

def urlSafe (c : Char) : Char := if c = '+' then '-' else if c = '/' then '_' else c

theorem urlSafe_digit (value : Nat) : urlSafe (digit value) = Base64Url.digit value := by
  by_cases small : value < 62
  · have plus := @Base64Url.digit_ne '+' (by decide) value
    have slash := @Base64Url.digit_ne '/' (by decide) value
    rw [digit, if_pos small, urlSafe, if_neg plus, if_neg slash]
  · by_cases plus : value = 62
    · rw [plus]
      decide
    · rw [digit, if_neg small, if_neg plus, Base64Url.digit, if_neg (by omega), if_neg (by omega),
        if_neg small, if_neg plus]
      decide

private theorem map_urlSafe_encode (bytes : List UInt8) :
    ∃ padding, (encode bytes).map urlSafe = Base64Url.encode bytes ++ List.replicate padding '=' := by
  induction bytes using encode.induct with
  | case1 => exact ⟨0, rfl⟩
  | case2 one =>
    refine ⟨2, ?_⟩
    simp only [encode, List.map_cons, List.map_nil, urlSafe_digit]
    rfl
  | case3 one two =>
    refine ⟨1, ?_⟩
    simp only [encode, List.map_cons, List.map_nil, urlSafe_digit]
    rfl
  | case4 one two three rest ih =>
    obtain ⟨padding, written⟩ := ih
    refine ⟨padding, ?_⟩
    simp only [encode, List.map_cons, urlSafe_digit, written]
    rfl

private theorem rdropWhile_replicate {c : Char} {text : List Char} (outside : c ∉ text)
    (count : Nat) :
    (text ++ List.replicate count c).rdropWhile (· = c) = text := by
  induction count with
  | zero =>
    rw [List.replicate_zero, List.append_nil, List.rdropWhile_eq_self_iff]
    intro some_ last
    exact outside (of_decide_eq_true last ▸ List.getLast_mem some_)
  | succ count ih =>
    rw [List.replicate_succ', ← List.append_assoc, List.rdropWhile_concat_pos _ _ _ (by simp), ih]

/-- Base64 with its signs replaced and its padding taken off. -/
theorem rdropWhile_map_urlSafe (bytes : List UInt8) :
    ((encode bytes).map urlSafe).rdropWhile (· = '=') = Base64Url.encode bytes := by
  obtain ⟨padding, written⟩ := map_urlSafe_encode bytes
  rw [written, rdropWhile_replicate (Base64Url.not_mem_encode (by decide) bytes)]

theorem digits_cons {c : Char} {value : Nat} (read : Base64Url.digitValue? c = some value)
    (rest : List Char) : digits (c :: rest) = value :: digits rest := by
  have other {sign : Char} (outside : Base64Url.digitValue? sign = none) : c ≠ sign := by
    rintro rfl
    rw [outside] at read
    cases read
  have kept : digitValue? c = some value := by
    rw [digitValue?, if_neg (other (by decide)), if_neg (other (by decide)), read]
  have inside : decide (c ≠ '=') = true := decide_eq_true (other (by decide))
  rw [digits, List.takeWhile_cons, if_pos inside, List.filterMap_cons_some kept]
  rfl

/-- It is read to the same bytes. -/
theorem decode_of_strict {text : List Char} {bytes : List UInt8}
    (read : Base64Url.decode text = some bytes) : decode text = bytes := by
  induction text using Base64Url.decode.induct generalizing bytes with
  | case1 => exact Option.some.inj read
  | case2 => cases read
  | case3 first second =>
    simp only [Base64Url.decode, Option.bind_eq_bind, Option.bind_eq_some_iff] at read
    obtain ⟨one, first, two, second, read⟩ := read
    split at read
    · rw [decode, digits_cons first, digits_cons second]
      exact Option.some.inj read
    · cases read
  | case4 first second third =>
    simp only [Base64Url.decode, Option.bind_eq_bind, Option.bind_eq_some_iff] at read
    obtain ⟨one, first, two, second, three, third, read⟩ := read
    split at read
    · rw [decode, digits_cons first, digits_cons second, digits_cons third]
      exact Option.some.inj read
    · cases read
  | case5 first second third fourth rest ih =>
    simp only [Base64Url.decode, Option.bind_eq_bind, Option.bind_eq_some_iff] at read
    obtain ⟨one, first, two, second, three, third, four, fourth, later, rest, read⟩ := read
    rw [decode, digits_cons first, digits_cons second, digits_cons third, digits_cons fourth,
      bytesOf, ← decode, ih rest]
    exact Option.some.inj read

theorem decode_encode (bytes : List UInt8) : decode (Base64Url.encode bytes) = bytes :=
  decode_of_strict (Base64Url.decode_encode bytes)

end BrainMate.Text.Base64
