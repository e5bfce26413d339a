import Mathlib.Algebra.Order.Ring.Int
import Mathlib.Tactic.IntervalCases

namespace BrainMate.Text.Integer

def fitsI64 (value : Int) : Bool := -2 ^ 63 ≤ value && value < 2 ^ 63

/-- The number a run of digits stands for. -/
def digits (chars : List Char) : Option Nat :=
  if !chars.isEmpty && chars.all Char.isDigit then some (Nat.ofDigitChars 10 chars 0) else none

/-- The first digit is there and not zero. -/
def leads : List Char → Bool
  | first :: _ => first.isDigit && first != '0'
  | [] => false

/-- The lenient reader: an optional sign and any digits. -/
def lenient : List Char → Option Int
  | '+' :: chars => (digits chars).map Nat.cast
  | '-' :: chars => (digits chars).map fun value => -(value : Int)
  | chars => (digits chars).map Nat.cast

/-- The strict reader: no plus, no zero before other digits, no negative zero. -/
def strict : List Char → Option Int
  | ['0'] => some 0
  | '-' :: chars => if leads chars then (digits chars).map fun value => -(value : Int) else none
  | chars => if leads chars then (digits chars).map Nat.cast else none

def readLenient (text : String) : Option Int := (lenient text.toList).filter fitsI64

def readStrict (text : String) : Option Int := (strict text.toList).filter fitsI64

variable {chars : List Char} {text : String} {value : Int}

private theorem lenient_of_leads (first : leads chars = true) :
    lenient chars = (digits chars).map Nat.cast := by
  unfold lenient
  split
  · cases first
  · cases first
  · rfl

private theorem lenient_of_strict (read : strict chars = some value) :
    lenient chars = some value := by
  unfold strict at read
  split at read
  · exact read
  · split at read
    · exact read
    · cases read
  · split at read
    · rename_i first
      rw [lenient_of_leads first]
      exact read
    · cases read

/-- Whoever reads strictly reads leniently, and the same. -/
theorem readLenient_of_readStrict (read : readStrict text = some value) :
    readLenient text = some value := by
  obtain ⟨strictly, fits⟩ := Option.filter_eq_some_iff.mp read
  exact Option.filter_eq_some_iff.mpr ⟨lenient_of_strict strictly, fits⟩

theorem digits_toDigits (value : Nat) : digits (Nat.toDigits 10 value) = some value := by
  have all : (Nat.toDigits 10 value).all Char.isDigit = true :=
    List.all_eq_true.mpr fun c member => Nat.isDigit_of_mem_toDigits (by decide) (by decide) member
  have some_ : (Nat.toDigits 10 value).isEmpty = false :=
    List.isEmpty_eq_false_iff.mpr Nat.toDigits_ne_nil
  rw [digits, some_, all, Nat.ofDigitChars_ten_toDigits]
  rfl

private theorem leads_append {more : List Char} (first : leads chars = true) :
    leads (chars ++ more) = true := by
  cases chars with
  | nil => cases first
  | cons => exact first

theorem leads_toDigits {value : Nat} (positive : 0 < value) :
    leads (Nat.toDigits 10 value) = true := by
  induction value using Nat.strongRecOn with
  | ind value ih =>
    by_cases small : value < 10
    · interval_cases value <;> rfl
    · have quotient : 0 < value / 10 := Nat.div_pos (not_lt.mp small) (by decide)
      have split := Nat.toDigits_append_toDigits (b := 10) (by decide) quotient
        (Nat.mod_lt value (by decide))
      rw [Nat.div_add_mod] at split
      rw [← split]
      exact leads_append (ih (value / 10) (Nat.div_lt_self positive (by decide)) quotient)

private theorem strict_of_leads (first : leads chars = true) :
    strict chars = (digits chars).map Nat.cast := by
  unfold strict
  split
  · cases first
  · cases first
  · rw [if_pos first]

/-- The strict reader takes every number back. -/
theorem readStrict_toString (fits : fitsI64 value = true) :
    readStrict (toString value) = some value := by
  have strictly : strict (toString value).toList = some value := by
    cases value with
    | ofNat value =>
      rw [show toString (Int.ofNat value) = Nat.repr value from rfl, Nat.toList_repr]
      rcases Nat.eq_zero_or_pos value with rfl | positive
      · rfl
      · rw [strict_of_leads (leads_toDigits positive), digits_toDigits]
        rfl
    | negSucc value =>
      rw [show toString (Int.negSucc value) = "-" ++ Nat.repr (value + 1) from rfl,
        String.toList_append, Nat.toList_repr]
      have first := leads_toDigits (Nat.succ_pos value)
      change (if leads (Nat.toDigits 10 (value + 1)) then
        (digits (Nat.toDigits 10 (value + 1))).map fun value => -(value : Int) else none) = _
      rw [if_pos first, digits_toDigits]
      rfl
  rw [readStrict, strictly, Option.filter_some, if_pos fits]

end BrainMate.Text.Integer
