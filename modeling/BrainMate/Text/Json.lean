import Mathlib.Data.List.TakeWhile
import Mathlib.Data.Nat.Digits.Lemmas
import BrainMate.Text.JsonString

/-! JSON texts as strings of code points. Two writers differ in what they escape and in the
blanks they set; one reader, Python's `json.loads`, takes back what either of them wrote. -/

namespace BrainMate.Text

/-- What a JSON text stands for. An object keeps its members in their order, and a number
that is no integer is kept as it was written. -/
inductive Json where
  | null
  | bool (value : Bool)
  | int (value : Int)
  | float (literal : List Nat)
  | str (points : List Nat)
  | arr (items : List Json)
  | obj (members : List (List Nat × Json))

/-- A code point that is half of no pair. -/
def isScalar (point : Nat) : Bool := point < 0x110000 && !isSurrogate point

def isDigit (point : Nat) : Bool := 0x30 ≤ point && point ≤ 0x39

/-- The digits of a number, without leading zeros. -/
def numeral (value : Nat) : List Nat :=
  if value = 0 then [0x30] else (Nat.digits 10 value).reverse.map (· + 0x30)

/-- The number that a run of digits stands for. -/
def numberOf (digits : List Nat) : Nat := Nat.ofDigits 10 (digits.reverse.map (· - 0x30))

/-- `JSON.stringify` writes the integers below 10^21 so, `json.dumps` all of them. -/
def integer : Int → List Nat
  | .ofNat value => numeral value
  | .negSucc value => 0x2d :: numeral (value + 1)

/-- `WHITESPACE`. -/
def isBlank (point : Nat) : Bool := point = 0x20 || point = 0x09 || point = 0x0a || point = 0x0d

structure Writer where
  escape : Nat → List Nat
  /-- What is set after a comma. -/
  afterComma : List Nat
  /-- What is set after a colon. -/
  afterColon : List Nat
  scans : ∀ point tail, isScalar point = true → scanPoint (escape point ++ tail) = some (point, tail)
  opens : ∀ point, ∃ first rest, escape point = first :: rest ∧ first ≠ 0x22
  blankComma : afterComma.all isBlank = true
  blankColon : afterColon.all isBlank = true

namespace Writer

variable (writer : Writer)

def quoted (points : List Nat) : List Nat := 0x22 :: points.flatMap writer.escape ++ [0x22]

mutual

def text : Json → List Nat
  | .null => [0x6e, 0x75, 0x6c, 0x6c]
  | .bool true => [0x74, 0x72, 0x75, 0x65]
  | .bool false => [0x66, 0x61, 0x6c, 0x73, 0x65]
  | .int value => integer value
  | .float literal => literal
  | .str points => writer.quoted points
  | .arr items => 0x5b :: firstItem items
  | .obj members => 0x7b :: firstMember members

def firstItem : List Json → List Nat
  | [] => [0x5d]
  | item :: items => text item ++ moreItems items

def moreItems : List Json → List Nat
  | [] => [0x5d]
  | item :: items => 0x2c :: writer.afterComma ++ text item ++ moreItems items

def firstMember : List (List Nat × Json) → List Nat
  | [] => [0x7d]
  | (key, value) :: members =>
    writer.quoted key ++ 0x3a :: writer.afterColon ++ text value ++ moreMembers members

def moreMembers : List (List Nat × Json) → List Nat
  | [] => [0x7d]
  | (key, value) :: members =>
    0x2c :: writer.afterComma ++ writer.quoted key ++ 0x3a :: writer.afterColon ++ text value ++
      moreMembers members

end

end Writer

def skip (text : List Nat) : List Nat := text.dropWhile isBlank

/-- The words of `scan_once`. -/
def words : List (List Nat × Json) :=
  [([0x6e, 0x75, 0x6c, 0x6c], .null), ([0x74, 0x72, 0x75, 0x65], .bool true),
    ([0x66, 0x61, 0x6c, 0x73, 0x65], .bool false), ([0x4e, 0x61, 0x4e], .float [0x4e, 0x61, 0x4e]),
    ([0x49, 0x6e, 0x66, 0x69, 0x6e, 0x69, 0x74, 0x79],
      .float [0x49, 0x6e, 0x66, 0x69, 0x6e, 0x69, 0x74, 0x79]),
    ([0x2d, 0x49, 0x6e, 0x66, 0x69, 0x6e, 0x69, 0x74, 0x79],
      .float [0x2d, 0x49, 0x6e, 0x66, 0x69, 0x6e, 0x69, 0x74, 0x79])]

def scanWord (text : List Nat) : Option (Json × List Nat) :=
  words.findSome? fun (word, value) => (text.dropPrefix? word).map fun rest => (value, rest)

/-- The first code point, when it is of the kind. -/
def leading (kind : Nat → Bool) : List Nat → List Nat
  | first :: _ => if kind first then [first] else []
  | [] => []

/-- `0|[1-9]\d*`. -/
def naturalPart : List Nat → List Nat
  | 0x30 :: _ => [0x30]
  | text => text.takeWhile isDigit

/-- `\.\d+`, or nothing. -/
def fractionPart : List Nat → List Nat
  | 0x2e :: rest =>
    match rest.takeWhile isDigit with
    | [] => []
    | digits => 0x2e :: digits
  | _ => []

/-- `[eE][-+]?\d+`, or nothing. -/
def exponentPart : List Nat → List Nat
  | letter :: rest =>
    if letter = 0x65 || letter = 0x45 then
      let sign := leading (fun point => point = 0x2b || point = 0x2d) rest
      match (rest.drop sign.length).takeWhile isDigit with
      | [] => []
      | digits => letter :: sign ++ digits
    else []
  | [] => []

/-- `NUMBER_RE`: an integer when there is neither a fraction nor an exponent. -/
def scanNumber (text : List Nat) : Option (Json × List Nat) :=
  let sign := leading (· = 0x2d) text
  let digits := naturalPart (text.drop sign.length)
  let after := text.drop (sign.length + digits.length)
  let fraction := fractionPart after
  let exponent := exponentPart (after.drop fraction.length)
  if digits = [] then none
  else if fraction = [] ∧ exponent = [] then
    some (.int (if sign = [] then numberOf digits else -(numberOf digits : Int)), after)
  else some (.float (sign ++ digits ++ fraction ++ exponent),
    after.drop (fraction.length + exponent.length))

mutual

/-- `scan_once`, to so many levels and items. -/
def scanValue : Nat → List Nat → Option (Json × List Nat)
  | 0, _ => none
  | fuel + 1, text =>
    match text with
    | 0x22 :: rest => (scanString text.length rest).map fun (points, after) => (.str points, after)
    | 0x5b :: rest =>
      match skip rest with
      | 0x5d :: after => some (.arr [], after)
      | start => (scanItems fuel start).map fun (items, after) => (.arr items, after)
    | 0x7b :: rest =>
      match skip rest with
      | 0x7d :: after => some (.obj [], after)
      | start => (scanMembers fuel start).map fun (members, after) => (.obj members, after)
    | _ => (scanWord text).or (scanNumber text)

/-- `JSONArray`, from the start of an item on. -/
def scanItems : Nat → List Nat → Option (List Json × List Nat)
  | 0, _ => none
  | fuel + 1, text => do
    let (item, after) ← scanValue fuel text
    match skip after with
    | 0x5d :: rest => return ([item], rest)
    | 0x2c :: rest => do
      let (items, last) ← scanItems fuel (skip rest)
      return (item :: items, last)
    | _ => none

/-- `JSONObject`, from the start of a key on. -/
def scanMembers : Nat → List Nat → Option (List (List Nat × Json) × List Nat)
  | fuel + 1, 0x22 :: text => do
    let (key, colon) ← scanString (text.length + 1) text
    match skip colon with
    | 0x3a :: start => do
      let (value, after) ← scanValue fuel (skip start)
      match skip after with
      | 0x7d :: rest => return ([(key, value)], rest)
      | 0x2c :: rest => do
        let (members, last) ← scanMembers fuel (skip rest)
        return ((key, value) :: members, last)
      | _ => none
    | _ => none
  | _, _ => none

end

def loads (text : List Nat) : Option Json :=
  match scanValue (2 * text.length + 1) (skip text) with
  | some (value, rest) => if skip rest = [] then some value else none
  | none => none

/-- Behind a value stands nothing, or what ends an item or a member. -/
def Closed (tail : List Nat) : Prop :=
  ∀ first ∈ tail.head?, first = 0x2c ∨ first = 0x5d ∨ first = 0x7d

theorem numberOf_numeral (value : Nat) : numberOf (numeral value) = value := by
  unfold numeral
  split
  · rename_i zero
    rw [zero]
    rfl
  · have back : ((Nat.digits 10 value).reverse.map (· + 0x30)).reverse.map (· - 0x30) =
        Nat.digits 10 value := by
      simp [Function.comp_def]
    rw [numberOf, back, Nat.ofDigits_digits]

theorem isDigit_numeral {value digit : Nat} (member : digit ∈ numeral value) :
    isDigit digit = true := by
  unfold numeral at member
  split at member
  · rw [List.mem_singleton.mp member]
    rfl
  · obtain ⟨figure, found, rfl⟩ := List.mem_map.mp member
    have small := Nat.digits_lt_base (by decide : 1 < 10) (List.mem_reverse.mp found)
    simp only [isDigit, Bool.and_eq_true, decide_eq_true_eq]
    omega

/-- A number other than zero does not begin with the digit zero. -/
theorem numeral_cases (value : Nat) :
    numeral value = [0x30] ∨ ∃ first rest, numeral value = first :: rest ∧ first ≠ 0x30 := by
  unfold numeral
  split
  · exact .inl rfl
  · rename_i nonzero
    have some_ : Nat.digits 10 value ≠ [] := Nat.digits_ne_nil_iff_ne_zero.mpr nonzero
    have lead := Nat.getLast_digit_ne_zero 10 nonzero
    right
    rw [← List.dropLast_append_getLast some_]
    simp only [List.reverse_append, List.reverse_cons, List.reverse_nil, List.nil_append,
      List.singleton_append, List.map_cons]
    refine ⟨_, _, rfl, ?_⟩
    omega

theorem not_isDigit_of_closed {tail : List Nat} (closed : Closed tail) :
    tail.takeWhile isDigit = [] := by
  cases tail with
  | nil => rfl
  | cons first rest =>
    have shut := closed first rfl
    obtain rfl | rfl | rfl := shut <;> rfl

theorem naturalPart_numeral (value : Nat) {tail : List Nat} (closed : Closed tail) :
    naturalPart (numeral value ++ tail) = numeral value := by
  have all : (numeral value ++ tail).takeWhile isDigit = numeral value := by
    rw [List.takeWhile_append_of_pos fun _ => isDigit_numeral, not_isDigit_of_closed closed,
      List.append_nil]
  obtain zero | ⟨first, rest, shape, nonzero⟩ := numeral_cases value
  · rw [zero]
    rfl
  · rw [naturalPart, all]
    intro rest' same
    rw [shape] at same
    exact nonzero (List.cons.inj same).1

theorem fractionPart_closed {tail : List Nat} (closed : Closed tail) : fractionPart tail = [] := by
  cases tail with
  | nil => rfl
  | cons first rest =>
    have shut := closed first rfl
    obtain rfl | rfl | rfl := shut <;> rfl

theorem exponentPart_closed {tail : List Nat} (closed : Closed tail) : exponentPart tail = [] := by
  cases tail with
  | nil => rfl
  | cons first rest =>
    have shut := closed first rfl
    obtain rfl | rfl | rfl := shut <;> rfl

theorem skip_closed {tail : List Nat} (closed : Closed tail) : skip tail = tail := by
  cases tail with
  | nil => rfl
  | cons first rest =>
    have shut := closed first rfl
    obtain rfl | rfl | rfl := shut <;> rfl

theorem head_numeral (value : Nat) :
    ∃ first rest, numeral value = first :: rest ∧ isDigit first = true := by
  obtain zero | ⟨first, rest, shape, _⟩ := numeral_cases value
  · exact ⟨0x30, [], zero, rfl⟩
  · exact ⟨first, rest, shape, isDigit_numeral (by rw [shape]; exact .head _)⟩

private theorem leading_numeral (value : Nat) (tail : List Nat) :
    leading (· = 0x2d) (numeral value ++ tail) = [] := by
  obtain ⟨first, rest, shape, digit⟩ := head_numeral value
  have other : first ≠ 0x2d := by
    rintro rfl
    cases digit
  simp [shape, leading, other]

private theorem scanNumber_integer (value : Int) {tail : List Nat} (closed : Closed tail) :
    scanNumber (integer value ++ tail) = some (.int value, tail) := by
  have filled (value : Nat) : numeral value ≠ [] := by
    obtain ⟨first, rest, shape, _⟩ := head_numeral value
    simp [shape]
  cases value with
  | ofNat value =>
    simp [scanNumber, integer, leading_numeral, naturalPart_numeral value closed,
      fractionPart_closed closed, exponentPart_closed closed, filled, numberOf_numeral]
  | negSucc value =>
    have sign : leading (· = 0x2d) (0x2d :: (numeral (value + 1) ++ tail)) = [0x2d] := rfl
    have beyond : (0x2d :: (numeral (value + 1) ++ tail)).drop
        (1 + (numeral (value + 1)).length) = tail := by
      rw [Nat.add_comm, List.drop_succ_cons, List.drop_left]
    simp [scanNumber, integer, sign, beyond, naturalPart_numeral (value + 1) closed,
      fractionPart_closed closed, exponentPart_closed closed, filled, numberOf_numeral]
    omega

theorem scanWord_digit {first : Nat} (digit : isDigit first = true) (rest : List Nat) :
    scanWord (first :: rest) = none ∧ scanWord (0x2d :: first :: rest) = none := by
  simp only [isDigit, Bool.and_eq_true, decide_eq_true_eq] at digit
  have other (letter : Nat) (above : 0x39 < letter) : (first == letter) = false := by
    rw [beq_eq_false_iff_ne]
    omega
  have noSign : (0x2d == first) = false ∧ (first == 0x2d) = false := by
    constructor <;> rw [beq_eq_false_iff_ne] <;> omega
  simp [scanWord, words, List.dropPrefix?, other, noSign]

/-- The literal of a number that is no integer. -/
def isFloat (literal : List Nat) : Bool :=
  match scanNumber literal with
  | some (.float same, []) => same == literal
  | _ => false

section Floats

variable {tail : List Nat}

theorem leading_closed {kind : Nat → Bool} (closed : Closed tail)
    (other : kind 0x2c = false ∧ kind 0x5d = false ∧ kind 0x7d = false) (text : List Nat) :
    leading kind (text ++ tail) = leading kind text := by
  cases text with
  | cons first rest => rfl
  | nil =>
    cases tail with
    | nil => rfl
    | cons first rest =>
      obtain rfl | rfl | rfl := closed first rfl
      all_goals simp [leading, other]

theorem takeWhile_closed (closed : Closed tail) (text : List Nat) :
    (text ++ tail).takeWhile isDigit = text.takeWhile isDigit := by
  induction text with
  | nil => exact not_isDigit_of_closed closed
  | cons first rest ih => rw [List.cons_append, List.takeWhile_cons, List.takeWhile_cons, ih]

private theorem naturalPart_append (closed : Closed tail) (text : List Nat) :
    naturalPart (text ++ tail) = naturalPart text := by
  cases text with
  | nil =>
    cases tail with
    | nil => rfl
    | cons first rest =>
      obtain rfl | rfl | rfl := closed first rfl
      all_goals rfl
  | cons first rest =>
    have digits := takeWhile_closed closed (first :: rest)
    by_cases zero : first = 0x30
    · rw [zero]
      rfl
    · have other : ∀ rest more, first :: rest ≠ 0x30 :: more :=
        fun _ _ same => zero (List.cons.inj same).1
      rw [List.cons_append] at digits ⊢
      rw [naturalPart, naturalPart, digits]
      · exact other rest
      · exact other (rest ++ tail)

private theorem fractionPart_append (closed : Closed tail) (text : List Nat) :
    fractionPart (text ++ tail) = fractionPart text := by
  cases text with
  | nil => exact fractionPart_closed closed
  | cons first rest =>
    by_cases point : first = 0x2e
    · simp only [point, List.cons_append, fractionPart, takeWhile_closed closed]
    · simp [fractionPart, point]

theorem length_leading_le (kind : Nat → Bool) (text : List Nat) :
    (leading kind text).length ≤ text.length := by
  cases text with
  | nil => exact Nat.le_refl _
  | cons first rest =>
    rw [leading]
    split <;> simp

private theorem exponentPart_append (closed : Closed tail) (text : List Nat) :
    exponentPart (text ++ tail) = exponentPart text := by
  cases text with
  | nil => exact exponentPart_closed closed
  | cons letter rest =>
    have signed := @leading_closed _ (fun point => point = 0x2b || point = 0x2d) closed
      (by decide) rest
    have within := length_leading_le (fun point => point = 0x2b || point = 0x2d) rest
    rw [List.cons_append]
    simp only [exponentPart, signed, List.drop_append_of_le_length within, takeWhile_closed closed]

private theorem length_naturalPart_le (text : List Nat) :
    (naturalPart text).length ≤ text.length := by
  unfold naturalPart
  split
  · simp
  · exact (List.takeWhile_prefix _).length_le

private theorem length_fractionPart_le (text : List Nat) :
    (fractionPart text).length ≤ text.length := by
  unfold fractionPart
  split
  · rename_i rest
    have within := (List.takeWhile_prefix isDigit (l := rest)).length_le
    split
    · exact Nat.zero_le _
    · rw [List.length_cons, List.length_cons]
      omega
  · exact Nat.zero_le _

private theorem length_exponentPart_le (text : List Nat) :
    (exponentPart text).length ≤ text.length := by
  cases text with
  | nil => exact Nat.le_refl _
  | cons letter rest =>
    rw [exponentPart]
    have signed := length_leading_le (fun point => point = 0x2b || point = 0x2d) rest
    generalize leading (fun point => point = 0x2b || point = 0x2d) rest = sign at signed ⊢
    have within := (List.takeWhile_prefix isDigit (l := rest.drop sign.length)).length_le
    rw [List.length_drop] at within
    split
    · dsimp only
      split
      · exact Nat.zero_le _
      · simp only [List.length_append, List.length_cons]
        omega
    · exact Nat.zero_le _

/-- What is a number to its end is one in front of what ends an item. -/
theorem scanNumber_append (closed : Closed tail) {literal : List Nat} {value : Json}
    (scanned : scanNumber literal = some (value, [])) :
    scanNumber (literal ++ tail) = some (value, tail) := by
  unfold scanNumber at scanned ⊢
  dsimp only at scanned ⊢
  rw [leading_closed closed (by decide)]
  have signed := length_leading_le (· = 0x2d) literal
  generalize leading (· = 0x2d) literal = sign at scanned signed ⊢
  have within := length_naturalPart_le (literal.drop sign.length)
  rw [List.length_drop] at within
  rw [List.drop_append_of_le_length signed, naturalPart_append closed]
  generalize naturalPart (literal.drop sign.length) = digits at scanned within ⊢
  rw [List.drop_append_of_le_length (by omega)]
  generalize literal.drop (sign.length + digits.length) = after at scanned ⊢
  have broken := length_fractionPart_le after
  rw [fractionPart_append closed]
  generalize fractionPart after = fraction at scanned broken ⊢
  have raised := length_exponentPart_le (after.drop fraction.length)
  rw [List.length_drop] at raised
  rw [List.drop_append_of_le_length broken, exponentPart_append closed]
  generalize exponentPart (after.drop fraction.length) = exponent at scanned raised ⊢
  rw [List.drop_append_of_le_length (by omega)]
  split at scanned
  · cases scanned
  · rename_i some_
    rw [if_neg some_]
    split at scanned
    · rename_i whole
      obtain ⟨rfl, rfl⟩ := Prod.mk.inj (Option.some.inj scanned)
      rw [if_pos whole, List.nil_append]
    · rename_i broken
      obtain ⟨rfl, last⟩ := Prod.mk.inj (Option.some.inj scanned)
      rw [if_neg broken, last, List.nil_append]

theorem scanNumber_float {literal : List Nat} (float : isFloat literal = true) :
    scanNumber literal = some (.float literal, []) := by
  unfold isFloat at float
  split at float
  · rename_i same scanned
    rw [scanned, beq_iff_eq.mp float]
  · cases float

private theorem head_of_naturalPart {text : List Nat} (some_ : naturalPart text ≠ []) :
    ∃ first rest, text = first :: rest ∧ isDigit first = true := by
  cases text with
  | nil => exact absurd rfl some_
  | cons first rest =>
    refine ⟨first, rest, rfl, ?_⟩
    by_cases zero : first = 0x30
    · rw [zero]
      rfl
    · rw [naturalPart] at some_
      · by_contra other
        rw [List.takeWhile_cons_of_neg other] at some_
        exact some_ rfl
      · exact fun _ same => zero (List.cons.inj same).1

/-- A literal begins with a digit, or with a sign and a digit. -/
theorem head_float {literal : List Nat} (float : isFloat literal = true) :
    ∃ first rest, isDigit first = true ∧
      (literal = first :: rest ∨ literal = 0x2d :: first :: rest) := by
  have scanned := scanNumber_float float
  unfold scanNumber at scanned
  dsimp only at scanned
  split at scanned
  · cases scanned
  · rename_i some_
    obtain ⟨first, rest, shape, digit⟩ := head_of_naturalPart some_
    refine ⟨first, rest, digit, ?_⟩
    cases literal with
    | nil => cases shape
    | cons head more =>
      by_cases minus : head = 0x2d
      · right
        simpa [leading, minus] using shape
      · left
        simpa [leading, minus] using shape

private theorem isDigit_of_mem_naturalPart {text : List Nat} {point : Nat}
    (member : point ∈ naturalPart text) : isDigit point = true := by
  unfold naturalPart at member
  split at member
  · rw [List.mem_singleton.mp member]
    rfl
  · exact List.mem_takeWhile_imp member

private theorem mem_fractionPart {text : List Nat} {point : Nat}
    (member : point ∈ fractionPart text) :
    point = 0x2e ∨ isDigit point = true := by
  unfold fractionPart at member
  split at member
  · rename_i rest
    split at member
    · cases member
    · exact (List.mem_cons.mp member).imp_right List.mem_takeWhile_imp
  · cases member

theorem of_mem_leading {kind : Nat → Bool} {text : List Nat} {point : Nat}
    (member : point ∈ leading kind text) : kind point = true := by
  cases text with
  | nil => cases member
  | cons first rest =>
    rw [leading] at member
    split at member
    · rename_i found
      rwa [List.mem_singleton.mp member]
    · cases member

private theorem mem_exponentPart {text : List Nat} {point : Nat}
    (member : point ∈ exponentPart text) :
    point = 0x65 ∨ point = 0x45 ∨ point = 0x2b ∨ point = 0x2d ∨ isDigit point = true := by
  cases text with
  | nil => cases member
  | cons letter rest =>
    rw [exponentPart] at member
    split at member
    · rename_i opens
      dsimp only at member
      split at member
      · cases member
      · simp only [List.cons_append, List.mem_cons, List.mem_append] at member
        obtain rfl | sign | digit := member
        · simp only [Bool.or_eq_true, decide_eq_true_eq] at opens
          tauto
        · have signs := of_mem_leading sign
          simp only [Bool.or_eq_true, decide_eq_true_eq] at signs
          tauto
        · exact .inr (.inr (.inr (.inr (List.mem_takeWhile_imp digit))))
    · cases member

/-- A character of ASCII that is no control character. -/
def isVisible (point : Nat) : Bool := 0x20 ≤ point && point < 0x80

theorem isVisible_digit {point : Nat} (digit : isDigit point = true) : isVisible point = true := by
  simp only [isDigit, isVisible, Bool.and_eq_true, decide_eq_true_eq] at digit ⊢
  omega

theorem visible_of_float {literal : List Nat} (float : isFloat literal = true) {point : Nat}
    (member : point ∈ literal) : isVisible point = true := by
  have scanned := scanNumber_float float
  unfold scanNumber at scanned
  dsimp only at scanned
  split at scanned
  · cases scanned
  · split at scanned
    · cases scanned
    · have shape := Json.float.inj (Prod.mk.inj (Option.some.inj scanned)).1
      rw [← shape] at member
      simp only [List.mem_append] at member
      obtain ((sign | digit) | fraction) | exponent := member
      · have minus := of_mem_leading sign
        rw [of_decide_eq_true minus]
        decide
      · exact isVisible_digit (isDigit_of_mem_naturalPart digit)
      · obtain rfl | digit := mem_fractionPart fraction
        · decide
        · exact isVisible_digit digit
      · obtain rfl | rfl | rfl | rfl | digit := mem_exponentPart exponent
        all_goals first | decide | exact isVisible_digit digit

end Floats

section Strings

variable (writer : Writer)

theorem Writer.length_le_escaped (points : List Nat) :
    points.length ≤ (points.flatMap writer.escape).length := by
  induction points with
  | nil => exact Nat.le_refl _
  | cons point rest ih =>
    obtain ⟨first, more, shape, _⟩ := writer.opens point
    rw [List.flatMap_cons, List.length_append, List.length_cons, shape, List.length_cons]
    omega

private theorem scanString_escaped {points : List Nat} (scalar : points.all isScalar = true)
    (tail : List Nat) {fuel : Nat} (enough : points.length < fuel) :
    scanString fuel (points.flatMap writer.escape ++ 0x22 :: tail) = some (points, tail) := by
  induction points generalizing fuel with
  | nil =>
    cases fuel with
    | zero => cases enough
    | succ fuel => rfl
  | cons point rest ih =>
    cases fuel with
    | zero => cases enough
    | succ fuel =>
      rw [List.all_cons, Bool.and_eq_true] at scalar
      have later := ih scalar.2 (Nat.lt_of_succ_lt_succ enough)
      have scanned := writer.scans point (rest.flatMap writer.escape ++ 0x22 :: tail) scalar.1
      obtain ⟨first, more, shape, open_⟩ := writer.opens point
      rw [List.flatMap_cons, List.append_assoc, shape, List.cons_append, scanString]
      · rw [← List.cons_append, ← shape, scanned]
        simp [later]
      · exact fun _ same => open_ (List.cons.inj same).1

/-- Strings of the kind come back. -/
def Writer.Reads (strings : List Nat → Bool) : Prop :=
  ∀ points tail fuel, strings points = true →
    (points.flatMap writer.escape ++ 0x22 :: tail).length ≤ fuel →
    scanString fuel (points.flatMap writer.escape ++ 0x22 :: tail) = some (points, tail)

theorem Writer.reads_scalar : writer.Reads (·.all isScalar) := by
  intro points tail fuel scalar enough
  have longer := writer.length_le_escaped points
  simp only [List.length_append, List.length_cons] at enough
  exact scanString_escaped writer scalar tail (by omega)

end Strings

namespace Json

mutual

/-- All strings, keys included, and all literals of numbers are of a kind. -/
def all (strings literals : List Nat → Bool) : Json → Bool
  | .null | .bool _ | .int _ => true
  | .float literal => literals literal
  | .str points => strings points
  | .arr items => allItems strings literals items
  | .obj members => allMembers strings literals members

def allItems (strings literals : List Nat → Bool) : List Json → Bool
  | [] => true
  | item :: items => all strings literals item && allItems strings literals items

def allMembers (strings literals : List Nat → Bool) : List (List Nat × Json) → Bool
  | [] => true
  | (key, value) :: members =>
    strings key && all strings literals value && allMembers strings literals members

end

section Mono

variable {strings other literals : List Nat → Bool}

mutual

theorem all_mono (le : ∀ text, strings text = true → other text = true) : ∀ {value : Json},
    value.all strings literals = true → value.all other literals = true
  | .null, _ | .bool _, _ | .int _, _ => rfl
  | .float _, sound => sound
  | .str text, sound => le text sound
  | .arr _, sound => allItems_mono le sound
  | .obj _, sound => allMembers_mono le sound

theorem allItems_mono (le : ∀ text, strings text = true → other text = true) :
    ∀ {items : List Json},
    allItems strings literals items = true → allItems other literals items = true
  | [], _ => rfl
  | item :: items, sound => by
    rw [allItems, Bool.and_eq_true] at sound
    rw [allItems, all_mono le sound.1, allItems_mono le sound.2]
    rfl

theorem allMembers_mono (le : ∀ text, strings text = true → other text = true) :
    ∀ {members : List (List Nat × Json)},
    allMembers strings literals members = true → allMembers other literals members = true
  | [], _ => rfl
  | (key, value) :: members, sound => by
    rw [allMembers, Bool.and_eq_true, Bool.and_eq_true] at sound
    rw [allMembers, le key sound.1.1, all_mono le sound.1.2, allMembers_mono le sound.2]
    rfl

end

end Mono

mutual

/-- The strings are well-formed, and the numbers integers. -/
def plain : Json → Bool
  | .null | .bool _ | .int _ => true
  | .float _ => false
  | .str points => points.all isScalar
  | .arr items => plainItems items
  | .obj members => plainMembers members

def plainItems : List Json → Bool
  | [] => true
  | item :: items => plain item && plainItems items

def plainMembers : List (List Nat × Json) → Bool
  | [] => true
  | (key, value) :: members => key.all isScalar && plain value && plainMembers members

end

mutual

theorem all_of_plain : ∀ {value : Json}, value.plain = true →
    value.all (·.all isScalar) isFloat = true
  | .null, _ | .bool _, _ | .int _, _ => rfl
  | .str _, plain => plain
  | .arr _, plain => allItems_of_plain plain
  | .obj _, plain => allMembers_of_plain plain

theorem allItems_of_plain : ∀ {items : List Json}, plainItems items = true →
    allItems (·.all isScalar) isFloat items = true
  | [], _ => rfl
  | item :: items, plain => by
    rw [plainItems, Bool.and_eq_true] at plain
    rw [allItems, all_of_plain plain.1, allItems_of_plain plain.2]
    rfl

theorem allMembers_of_plain : ∀ {members : List (List Nat × Json)}, plainMembers members = true →
    allMembers (·.all isScalar) isFloat members = true
  | [], _ => rfl
  | (key, value) :: members, plain => by
    rw [plainMembers, Bool.and_eq_true, Bool.and_eq_true] at plain
    rw [allMembers, plain.1.1, all_of_plain plain.1.2, allMembers_of_plain plain.2]
    rfl

end

end Json

section Values

variable (writer : Writer) {strings : List Nat → Bool}

/-- A value begins with neither a blank nor a closing bracket. -/
theorem head_text {value : Json} (sound : value.all strings isFloat = true) :
    ∃ first rest, writer.text value = first :: rest ∧ isBlank first = false ∧ first ≠ 0x5d := by
  have digits {first : Nat} (digit : isDigit first = true) :
      isBlank first = false ∧ first ≠ 0x5d := by
    simp only [isDigit, Bool.and_eq_true, decide_eq_true_eq] at digit
    refine ⟨?_, by omega⟩
    simp only [isBlank, Bool.or_eq_false_iff, decide_eq_false_iff_not]
    omega
  cases value with
  | null => exact ⟨_, _, rfl, rfl, by decide⟩
  | bool value => cases value <;> exact ⟨_, _, rfl, rfl, by decide⟩
  | float literal =>
    obtain ⟨first, rest, digit, rfl | rfl⟩ := head_float sound
    · exact ⟨first, rest, rfl, digits digit⟩
    · exact ⟨0x2d, first :: rest, rfl, rfl, by decide⟩
  | str points => exact ⟨_, _, rfl, rfl, by decide⟩
  | arr items => exact ⟨_, _, rfl, rfl, by decide⟩
  | obj members => exact ⟨_, _, rfl, rfl, by decide⟩
  | int value =>
    cases value with
    | negSucc value => exact ⟨_, _, rfl, rfl, by decide⟩
    | ofNat value =>
      obtain ⟨first, rest, shape, digit⟩ := head_numeral value
      exact ⟨first, rest, shape, digits digit⟩

theorem skip_blanks {blanks : List Nat} (blank : blanks.all isBlank = true) {first : Nat}
    (solid : isBlank first = false) (rest : List Nat) :
    skip (blanks ++ first :: rest) = first :: rest := by
  rw [skip, List.dropWhile_append_of_pos (List.all_eq_true.mp blank),
    List.dropWhile_cons_of_neg (by simp [solid])]

theorem skip_solid {first : Nat} (solid : isBlank first = false) (rest : List Nat) :
    skip (first :: rest) = first :: rest :=
  List.dropWhile_cons_of_neg (by simp [solid])

private theorem closed_moreItems (items : List Json) (tail : List Nat) :
    Closed (writer.moreItems items ++ tail) := by
  intro first found
  cases items with
  | nil =>
    cases found
    exact .inr (.inl rfl)
  | cons item items =>
    cases found
    exact .inl rfl

private theorem closed_moreMembers (members : List (List Nat × Json)) (tail : List Nat) :
    Closed (writer.moreMembers members ++ tail) := by
  intro first found
  cases members with
  | nil =>
    cases found
    exact .inr (.inr rfl)
  | cons member members =>
    cases found
    exact .inl rfl

theorem scanValue_other {first : Nat} (quote : first ≠ 0x22) (bracket : first ≠ 0x5b)
    (brace : first ≠ 0x7b) (fuel : Nat) (rest : List Nat) :
    scanValue (fuel + 1) (first :: rest) =
      (scanWord (first :: rest)).or (scanNumber (first :: rest)) := by
  rw [scanValue]
  all_goals
    intro _ same
    have head := (List.cons.inj same).1
    contradiction

private theorem scanValue_null (fuel : Nat) (tail : List Nat) :
    scanValue (fuel + 1) (writer.text .null ++ tail) = some (.null, tail) := by
  have scanned : scanWord (writer.text .null ++ tail) = some (.null, tail) := by
    simp [Writer.text, scanWord, words, List.dropPrefix?]
  rw [Writer.text, List.cons_append] at scanned ⊢
  rw [scanValue_other (by decide) (by decide) (by decide), scanned, Option.some_or]

private theorem scanValue_bool (value : Bool) (fuel : Nat) (tail : List Nat) :
    scanValue (fuel + 1) (writer.text (.bool value) ++ tail) = some (.bool value, tail) := by
  have scanned : scanWord (writer.text (.bool value) ++ tail) = some (.bool value, tail) := by
    cases value <;> simp [Writer.text, scanWord, words, List.dropPrefix?]
  cases value <;>
    rw [Writer.text, List.cons_append] at scanned ⊢ <;>
    rw [scanValue_other (by decide) (by decide) (by decide), scanned, Option.some_or]

/-- What begins like a number is scanned as one. -/
theorem scanValue_number {first : Nat} (digit : isDigit first = true) {text rest : List Nat}
    (shape : text = first :: rest ∨ text = 0x2d :: first :: rest) (fuel : Nat) :
    scanValue (fuel + 1) text = scanNumber text := by
  obtain rfl | rfl := shape
  · have bounds : first ≠ 0x22 ∧ first ≠ 0x5b ∧ first ≠ 0x7b := by
      simp only [isDigit, Bool.and_eq_true, decide_eq_true_eq] at digit
      omega
    rw [scanValue_other bounds.1 bounds.2.1 bounds.2.2, (scanWord_digit digit _).1, Option.none_or]
  · rw [scanValue_other (by decide) (by decide) (by decide), (scanWord_digit digit _).2,
      Option.none_or]

private theorem scanValue_integer (value : Int) (fuel : Nat) {tail : List Nat}
    (closed : Closed tail) :
    scanValue (fuel + 1) (integer value ++ tail) = some (.int value, tail) := by
  rw [← scanNumber_integer value closed]
  cases value with
  | ofNat value =>
    obtain ⟨first, rest, shape, digit⟩ := head_numeral value
    exact scanValue_number digit (.inl (by rw [integer, shape, List.cons_append])) fuel
  | negSucc value =>
    obtain ⟨first, rest, shape, digit⟩ := head_numeral (value + 1)
    exact scanValue_number digit
      (.inr (by rw [integer, shape, List.cons_append, List.cons_append])) fuel

private theorem scanValue_float {literal : List Nat} (float : isFloat literal = true) (fuel : Nat)
    {tail : List Nat} (closed : Closed tail) :
    scanValue (fuel + 1) (literal ++ tail) = some (.float literal, tail) := by
  rw [← scanNumber_append closed (scanNumber_float float)]
  obtain ⟨first, rest, digit, shape⟩ := head_float float
  refine @scanValue_number first digit _ (rest ++ tail) (shape.imp ?_ ?_) fuel
  · intro shape
    rw [shape, List.cons_append]
  · intro shape
    rw [shape, List.cons_append, List.cons_append]

private theorem scanValue_bracket {rest : List Nat} {first : Nat} (fuel : Nat)
    (solid : isBlank first = false) (open_ : first ≠ 0x5d) :
    scanValue (fuel + 1) (0x5b :: first :: rest) =
      (scanItems fuel (first :: rest)).map fun (items, after) => (.arr items, after) := by
  rw [scanValue, skip_solid solid]
  split
  · rename_i same
    exact absurd (List.cons.inj same).1 open_
  · rfl

mutual

theorem scanValue_text (reads : writer.Reads strings) : ∀ {value : Json},
    value.all strings isFloat = true → ∀ (fuel : Nat) (tail : List Nat), Closed tail →
    2 * (writer.text value ++ tail).length < fuel →
    scanValue fuel (writer.text value ++ tail) = some (value, tail)
  | .null, _, fuel + 1, tail, _, _ => scanValue_null writer fuel tail
  | .bool value, _, fuel + 1, tail, _, _ => scanValue_bool writer value fuel tail
  | .int value, _, fuel + 1, tail, closed, _ => scanValue_integer value fuel closed
  | .float literal, float, fuel + 1, tail, closed, _ => scanValue_float float fuel closed
  | .str points, sound, fuel + 1, tail, _, enough => by
    have scanned := reads points tail _ sound (Nat.le_succ _)
    simp only [Writer.text, Writer.quoted, List.cons_append, List.append_assoc, List.nil_append]
    rw [scanValue, List.length_cons, scanned]
    rfl
  | .arr [], _, fuel + 1, tail, _, _ => rfl
  | .obj [], _, fuel + 1, tail, _, _ => rfl
  | .arr (item :: items), sound, fuel + 1, tail, _, enough => by
    have scanned := scanItems_text reads (List.cons_ne_nil item items) sound fuel tail
      (by simp only [Writer.text, List.cons_append, List.length_cons] at enough; omega)
    rw [Json.all, Json.allItems, Bool.and_eq_true] at sound
    obtain ⟨first, rest, shape, solid, open_⟩ := head_text writer sound.1
    have start : writer.firstItem (item :: items) ++ tail =
        first :: (rest ++ writer.moreItems items ++ tail) := by
      simp [Writer.firstItem, shape]
    rw [start] at scanned
    rw [Writer.text, List.cons_append, start, scanValue_bracket fuel solid open_, scanned]
    rfl
  | .obj ((key, value) :: members), sound, fuel + 1, tail, _, enough => by
    have scanned := scanMembers_text reads (List.cons_ne_nil (key, value) members) sound fuel tail
      (by simp only [Writer.text, List.cons_append, List.length_cons] at enough; omega)
    rw [Writer.text, List.cons_append, scanValue]
    simp only [Writer.firstMember, Writer.quoted, List.cons_append] at scanned ⊢
    rw [show ∀ rest, skip (0x22 :: rest) = 0x22 :: rest from fun _ => rfl]
    exact congrArg (Option.map _) scanned

theorem scanItems_text (reads : writer.Reads strings) : ∀ {items : List Json}, items ≠ [] →
    Json.allItems strings isFloat items = true → ∀ (fuel : Nat) (tail : List Nat),
    2 * (writer.firstItem items ++ tail).length + 1 < fuel →
    scanItems fuel (writer.firstItem items ++ tail) = some (items, tail)
  | item :: items, _, sound, fuel + 1, tail, enough => by
    rw [Json.allItems, Bool.and_eq_true] at sound
    rw [Writer.firstItem, List.append_assoc] at enough ⊢
    have closed := closed_moreItems writer items tail
    rw [scanItems, scanValue_text reads sound.1 _ _ closed (by omega)]
    simp only [Option.bind_eq_bind, Option.bind_some, skip_closed closed]
    cases items with
    | nil => rfl
    | cons next items =>
      have later := scanItems_text reads (List.cons_ne_nil next items) sound.2 fuel tail
        (by
          simp only [Writer.moreItems, Writer.firstItem, List.cons_append, List.append_assoc,
            List.length_append, List.length_cons] at enough ⊢
          omega)
      rw [Json.allItems, Bool.and_eq_true] at sound
      obtain ⟨first, rest, shape, solid, _⟩ := head_text writer sound.2.1
      have start : writer.firstItem (next :: items) ++ tail =
          first :: (rest ++ writer.moreItems items ++ tail) := by
        simp [Writer.firstItem, shape]
      have more : writer.moreItems (next :: items) ++ tail =
          0x2c :: (writer.afterComma ++ (writer.firstItem (next :: items) ++ tail)) := by
        simp [Writer.moreItems, Writer.firstItem]
      have skipped : skip (writer.afterComma ++ (writer.firstItem (next :: items) ++ tail)) =
          writer.firstItem (next :: items) ++ tail := by
        rw [start, skip_blanks writer.blankComma solid]
      rw [more]
      change (scanItems fuel (skip (writer.afterComma ++ _))).bind _ = _
      rw [skipped, later]
      rfl

theorem scanMembers_text (reads : writer.Reads strings) :
    ∀ {members : List (List Nat × Json)}, members ≠ [] →
    Json.allMembers strings isFloat members = true → ∀ (fuel : Nat) (tail : List Nat),
    2 * (writer.firstMember members ++ tail).length + 1 < fuel →
    scanMembers fuel (writer.firstMember members ++ tail) = some (members, tail)
  | (key, value) :: members, _, sound, fuel + 1, tail, enough => by
    rw [Json.allMembers, Bool.and_eq_true, Bool.and_eq_true] at sound
    obtain ⟨⟨string, sound⟩, sounds⟩ := sound
    have closed := closed_moreMembers writer members tail
    obtain ⟨first, rest, shape, solid, _⟩ := head_text writer sound
    have start : writer.firstMember ((key, value) :: members) ++ tail =
        0x22 :: (key.flatMap writer.escape ++ 0x22 :: 0x3a :: (writer.afterColon ++
          (writer.text value ++ (writer.moreMembers members ++ tail)))) := by
      simp [Writer.firstMember, Writer.quoted]
    have skipped : skip (writer.afterColon ++
        (writer.text value ++ (writer.moreMembers members ++ tail))) =
        writer.text value ++ (writer.moreMembers members ++ tail) := by
      rw [shape]
      exact skip_blanks writer.blankColon solid _
    rw [start] at enough ⊢
    have scanned := scanValue_text reads sound fuel _ closed
      (by simp only [List.length_append, List.length_cons] at enough ⊢; omega)
    rw [scanMembers, reads key _ _ string (Nat.le_succ _)]
    simp only [Option.bind_eq_bind, Option.bind_some]
    rw [show ∀ rest, skip (0x3a :: rest) = 0x3a :: rest from fun _ => rfl]
    simp only [skipped, scanned, Option.bind_some, skip_closed closed]
    cases members with
    | nil => rfl
    | cons next members =>
      obtain ⟨nextKey, nextValue⟩ := next
      have later := scanMembers_text reads (List.cons_ne_nil (nextKey, nextValue) members) sounds fuel
        tail (by
          simp only [Writer.moreMembers, Writer.firstMember, List.cons_append, List.append_assoc,
            List.length_append, List.length_cons] at enough ⊢
          omega)
      have skipped : skip (writer.afterComma ++
          (writer.firstMember ((nextKey, nextValue) :: members) ++ tail)) =
          writer.firstMember ((nextKey, nextValue) :: members) ++ tail :=
        skip_blanks writer.blankComma (by decide) _
      have more : writer.moreMembers ((nextKey, nextValue) :: members) ++ tail =
          0x2c :: (writer.afterComma ++
            (writer.firstMember ((nextKey, nextValue) :: members) ++ tail)) := by
        simp [Writer.moreMembers, Writer.firstMember]
      rw [more]
      change (scanMembers fuel (skip (writer.afterComma ++ _))).bind _ = _
      rw [skipped, later]
      rfl

end

/-- What a writer wrote is read as the value it wrote. -/
theorem loads_text_of_reads (reads : writer.Reads strings) {value : Json}
    (sound : value.all strings isFloat = true) : loads (writer.text value) = some value := by
  obtain ⟨first, rest, shape, solid, _⟩ := head_text writer sound
  have kept : skip (writer.text value) = writer.text value := by
    rw [shape]
    exact skip_solid solid rest
  have scanned := scanValue_text writer reads sound (2 * (writer.text value).length + 1) [] nofun
    (by rw [List.append_nil]; omega)
  rw [List.append_nil] at scanned
  rw [loads, kept, scanned]
  rfl

/-- What either writer wrote is read as the value it wrote. -/
theorem loads_text {value : Json} (plain : value.plain = true) :
    loads (writer.text value) = some value :=
  loads_text_of_reads writer writer.reads_scalar (Json.all_of_plain plain)

end Values

theorem not_high_of_scalar {point : Nat} (scalar : isScalar point = true) :
    isHighSurrogate point = false := by
  rw [← Bool.not_eq_true]
  simp only [isScalar, isSurrogate, isHighSurrogate, Bool.and_eq_true, Bool.not_eq_true',
    Bool.and_eq_false_iff, decide_eq_true_eq, decide_eq_false_iff_not] at scalar ⊢
  omega

/-- `JSON.stringify`. -/
def stringify : Writer where
  escape := quotePoint
  afterComma := []
  afterColon := []
  scans point tail scalar := scanPoint_quotePoint fun high => by
    rw [not_high_of_scalar scalar] at high
    cases high
  opens point := by
    obtain ⟨first, rest, shape, open_⟩ := head_quotePoint point []
    exact ⟨first, rest, by rwa [List.append_nil] at shape, open_⟩
  blankComma := rfl
  blankColon := rfl

/-- `ESCAPE_ASCII` and what is put for its matches: a code point beyond 0xffff is written as
the two halves of a pair. -/
def asciiEscape (point : Nat) : List Nat :=
  match shortEscape? point with
  | some letter => [0x5c, letter]
  | none =>
    if 0x20 ≤ point && point ≤ 0x7e then [point]
    else if point < 0x10000 then unicodeEscape point
    else unicodeEscape (0xd800 + (point - 0x10000) / 0x400 % 0x400) ++
      unicodeEscape (0xdc00 + (point - 0x10000) % 0x400)

theorem scanPoint_unicodeEscape {unit : Nat} (bound : unit < 0x10000) (tail : List Nat) :
    scanPoint (unicodeEscape unit ++ tail) = scanPair unit tail := by
  have decoded := decodeUxxxx_unicodeEscape bound tail
  simp only [unicodeEscape, List.drop_succ_cons, List.drop_zero, List.cons_append,
    List.nil_append] at decoded
  simp [unicodeEscape, scanPoint, decoded]

private theorem scanPoint_asciiEscape {point : Nat} (scalar : isScalar point = true)
    (tail : List Nat) :
    scanPoint (asciiEscape point ++ tail) = some (point, tail) := by
  have single : ∀ {tail}, Unpaired point tail := by
    intro tail high
    rw [not_high_of_scalar scalar] at high
    cases high
  simp only [isScalar, Bool.and_eq_true, decide_eq_true_eq] at scalar
  unfold asciiEscape
  split
  · rename_i letter short
    obtain ⟨back, _⟩ := backslash?_of_shortEscape? short
    simp [scanPoint, back]
  · rename_i long
    split
    · rename_i printable
      have notBackslash : point ≠ 0x5c := by
        rintro rfl
        cases long
      simp only [Bool.and_eq_true, decide_eq_true_eq] at printable
      simp [scanPoint, notBackslash, printable.1]
    · split
      · rename_i small
        rw [scanPoint_unicodeEscape small, scanPair_single single]
      · rename_i large
        have quotient : (point - 0x10000) / 0x400 % 0x400 = (point - 0x10000) / 0x400 :=
          Nat.mod_eq_of_lt (by omega)
        rw [quotient, List.append_assoc, scanPoint_unicodeEscape (by omega)]
        have decoded := decodeUxxxx_unicodeEscape
          (show 0xdc00 + (point - 0x10000) % 0x400 < 0x10000 by omega) tail
        have high : isHighSurrogate (0xd800 + (point - 0x10000) / 0x400) = true := by
          simp only [isHighSurrogate, Bool.and_eq_true, decide_eq_true_eq]
          omega
        have low : isLowSurrogate (0xdc00 + (point - 0x10000) % 0x400) = true := by
          simp only [isLowSurrogate, Bool.and_eq_true, decide_eq_true_eq]
          omega
        simp only [unicodeEscape, List.drop_succ_cons, List.drop_zero, List.cons_append,
          List.nil_append] at decoded ⊢
        simp [scanPair, high, decoded, low, combine_split point (by omega)]

private theorem asciiEscape_opens (point : Nat) :
    ∃ first rest, asciiEscape point = first :: rest ∧ first ≠ 0x22 := by
  unfold asciiEscape
  split
  · exact ⟨_, _, rfl, by decide⟩
  · rename_i long
    split
    · refine ⟨point, [], rfl, ?_⟩
      rintro rfl
      cases long
    · split
      · exact ⟨_, _, rfl, by decide⟩
      · exact ⟨_, _, rfl, by decide⟩

/-- `json.dumps`. -/
def dumps : Writer where
  escape := asciiEscape
  afterComma := [0x20]
  afterColon := [0x20]
  scans _ tail scalar := scanPoint_asciiEscape scalar tail
  opens := asciiEscape_opens
  blankComma := rfl
  blankColon := rfl

end BrainMate.Text
