import BrainMate.Text.Utf16

/-! A string on its way from `JSON.stringify` to `json.loads`: the one quotes code units,
the other scans code points. The text between them is a string of code points. -/

namespace BrainMate.Text

/-- A digit of a `\u` escape: 0 to 9 and a to f. -/
def hexDigit (value : Nat) : Nat := if value < 10 then 0x30 + value else 0x57 + value

/-- Backslash, u, and four digits. -/
def unicodeEscape (unit : Nat) : List Nat :=
  [0x5c, 0x75, hexDigit (unit / 0x1000 % 16), hexDigit (unit / 0x100 % 16),
    hexDigit (unit / 0x10 % 16), hexDigit (unit % 16)]

/-- The escapes with a letter: quotation mark, backslash, \\b, \\t, \\n, \\f and \\r. -/
def shortEscape? : Nat → Option Nat
  | 0x22 => some 0x22
  | 0x5c => some 0x5c
  | 0x08 => some 0x62
  | 0x09 => some 0x74
  | 0x0a => some 0x6e
  | 0x0c => some 0x66
  | 0x0d => some 0x72
  | _ => none

def quotePoint (point : Nat) : List Nat :=
  match shortEscape? point with
  | some letter => [0x5c, letter]
  | none => if point < 0x20 || isSurrogate point then unicodeEscape point else [point]

/-- QuoteJSONString: a lone surrogate is written as an escape. -/
def quote (text : List UInt16) : List Nat := 0x22 :: (points text).flatMap quotePoint ++ [0x22]

def hexValue? (digit : Nat) : Option Nat :=
  if 0x30 ≤ digit && digit ≤ 0x39 then some (digit - 0x30)
  else if 0x61 ≤ digit && digit ≤ 0x66 then some (digit - 0x57)
  else if 0x41 ≤ digit && digit ≤ 0x46 then some (digit - 0x37)
  else none

/-- `_decode_uXXXX`, with what follows the digits. -/
def decodeUxxxx : List Nat → Option (Nat × List Nat)
  | first :: second :: third :: fourth :: rest => do
    let first ← hexValue? first
    let second ← hexValue? second
    let third ← hexValue? third
    let fourth ← hexValue? fourth
    return (first * 0x1000 + second * 0x100 + third * 0x10 + fourth, rest)
  | _ => none

/-- `BACKSLASH`. -/
def backslash? : Nat → Option Nat
  | 0x22 => some 0x22
  | 0x5c => some 0x5c
  | 0x2f => some 0x2f
  | 0x62 => some 0x08
  | 0x66 => some 0x0c
  | 0x6e => some 0x0a
  | 0x72 => some 0x0d
  | 0x74 => some 0x09
  | _ => none

/-- The rest of an escape of a code unit: two halves of a pair make one code point. -/
def scanPair (unit : Nat) (rest : List Nat) : Option (Nat × List Nat) :=
  match rest with
  | 0x5c :: 0x75 :: more =>
    if isHighSurrogate unit then do
      let (low, beyond) ← decodeUxxxx more
      return if isLowSurrogate low then (combine unit low, beyond) else (unit, rest)
    else some (unit, rest)
  | _ => some (unit, rest)

/-- One character of a string, with what follows it. -/
def scanPoint : List Nat → Option (Nat × List Nat)
  | 0x5c :: 0x75 :: rest => do
    let (unit, after) ← decodeUxxxx rest
    scanPair unit after
  | 0x5c :: letter :: rest => (backslash? letter).map fun point => (point, rest)
  | point :: rest => if point < 0x20 then none else some (point, rest)
  | [] => none

/-- `scanstring` after the opening quotation mark, which reads at most so many characters. -/
def scanString : Nat → List Nat → Option (List Nat × List Nat)
  | 0, _ => none
  | fuel + 1, text =>
    match text with
    | 0x22 :: rest => some ([], rest)
    | _ => do
      let (point, after) ← scanPoint text
      let (points, rest) ← scanString fuel after
      return (point :: points, rest)

/-- A JSON text that is one string. -/
def loadString (text : List Nat) : Option (List Nat) :=
  match text with
  | 0x22 :: rest =>
    match scanString rest.length rest with
    | some (points, []) => some points
    | _ => none
  | _ => none

theorem hexValue?_hexDigit {value : Nat} (digit : value < 16) :
    hexValue? (hexDigit value) = some value := by
  unfold hexDigit
  split
  · have low : 0x30 ≤ 0x30 + value ∧ 0x30 + value ≤ 0x39 := by omega
    simp [hexValue?, low]
  · have high : ¬ (0x30 ≤ 0x57 + value ∧ 0x57 + value ≤ 0x39) := by omega
    have letter : 0x61 ≤ 0x57 + value ∧ 0x57 + value ≤ 0x66 := by omega
    simp [hexValue?, high, letter]

theorem decodeUxxxx_unicodeEscape {unit : Nat} (bound : unit < 0x10000) (rest : List Nat) :
    decodeUxxxx ((unicodeEscape unit).drop 2 ++ rest) = some (unit, rest) := by
  have first := hexValue?_hexDigit (Nat.mod_lt (unit / 0x1000) (by decide : 0 < 16))
  have second := hexValue?_hexDigit (Nat.mod_lt (unit / 0x100) (by decide : 0 < 16))
  have third := hexValue?_hexDigit (Nat.mod_lt (unit / 0x10) (by decide : 0 < 16))
  have fourth := hexValue?_hexDigit (Nat.mod_lt unit (by decide : 0 < 16))
  have sum : unit / 0x1000 % 16 * 0x1000 + unit / 0x100 % 16 * 0x100 + unit / 0x10 % 16 * 0x10 +
      unit % 16 = unit := by omega
  simp [decodeUxxxx, unicodeEscape, first, second, third, fourth, sum]

theorem backslash?_of_shortEscape? {point letter : Nat} (short : shortEscape? point = some letter) :
    backslash? letter = some point ∧ letter ≠ 0x75 := by
  unfold shortEscape? at short
  split at short
  all_goals first | (cases short; decide) | cases short

/-- Behind a character comes no second half of a pair. -/
def Unpaired (point : Nat) (tail : List Nat) : Prop :=
  isHighSurrogate point = true → ∀ more, tail = 0x5c :: 0x75 :: more →
    ∃ unit beyond, decodeUxxxx more = some (unit, beyond) ∧ isLowSurrogate unit = false

theorem scanPair_single {unit : Nat} {tail : List Nat} (unpaired : Unpaired unit tail) :
    scanPair unit tail = some (unit, tail) := by
  unfold scanPair
  split
  · rename_i more
    split
    · rename_i high
      obtain ⟨low, beyond, decoded, single⟩ := unpaired high more rfl
      simp [decoded, single]
    · rfl
  · rfl

/-- A quoted character is scanned as itself. -/
theorem scanPoint_quotePoint {point : Nat} {tail : List Nat} (unpaired : Unpaired point tail) :
    scanPoint (quotePoint point ++ tail) = some (point, tail) := by
  unfold quotePoint
  split
  · rename_i letter short
    obtain ⟨back, _⟩ := backslash?_of_shortEscape? short
    simp [scanPoint, back]
  · rename_i long
    split
    · rename_i escaped
      have bound : point < 0x10000 := by
        simp only [isSurrogate, Bool.or_eq_true, Bool.and_eq_true, decide_eq_true_eq] at escaped
        omega
      have decoded := decodeUxxxx_unicodeEscape bound tail
      simp only [unicodeEscape, List.drop_succ_cons, List.drop_zero, List.cons_append,
        List.nil_append] at decoded
      simp [unicodeEscape, scanPoint, decoded, scanPair_single unpaired]
    · rename_i plain
      have notBackslash : point ≠ 0x5c := by
        rintro rfl
        cases long
      simp only [Bool.or_eq_true, decide_eq_true_eq, not_or] at plain
      simp [scanPoint, notBackslash, plain.1]

theorem head_quotePoint (point : Nat) (tail : List Nat) :
    ∃ first rest, quotePoint point ++ tail = first :: rest ∧ first ≠ 0x22 := by
  unfold quotePoint
  split
  · exact ⟨_, _, rfl, by decide⟩
  · rename_i long
    split
    · exact ⟨_, _, rfl, by decide⟩
    · refine ⟨point, tail, rfl, ?_⟩
      rintro rfl
      cases long

/-- What follows a character that is quoted does not complete it. -/
theorem unpaired_quotePoint {point next : Nat} (tail : List Nat)
    (single : isHighSurrogate point = true → isLowSurrogate next = false) :
    Unpaired point (quotePoint next ++ tail) := by
  intro high more follows
  unfold quotePoint at follows
  split at follows
  · rename_i letter short
    obtain ⟨_, notUnicode⟩ := backslash?_of_shortEscape? short
    exact absurd (List.cons.inj (List.cons.inj follows).2).1 notUnicode
  · rename_i long
    split at follows
    · rename_i escaped
      have bound : next < 0x10000 := by
        simp only [isSurrogate, Bool.or_eq_true, Bool.and_eq_true, decide_eq_true_eq] at escaped
        omega
      have decoded := decodeUxxxx_unicodeEscape bound tail
      have same : (unicodeEscape next).drop 2 ++ tail = more :=
        (List.cons.inj (List.cons.inj follows).2).2
      rw [same] at decoded
      exact ⟨next, tail, decoded, single high⟩
    · have backslash : next = 0x5c := (List.cons.inj follows).1
      rw [backslash] at long
      cases long

theorem scanString_quoted {text : List Nat}
    (chain : text.IsChain fun point next =>
      isHighSurrogate point = true → isLowSurrogate next = false)
    (tail : List Nat) {fuel : Nat} (enough : text.length < fuel) :
    scanString fuel (text.flatMap quotePoint ++ 0x22 :: tail) = some (text, tail) := by
  induction text generalizing fuel with
  | nil =>
    cases fuel with
    | zero => cases enough
    | succ fuel => rfl
  | cons point rest ih =>
    cases fuel with
    | zero => cases enough
    | succ fuel =>
      obtain ⟨follows, chain⟩ := List.isChain_cons.mp chain
      have unpaired : Unpaired point (rest.flatMap quotePoint ++ 0x22 :: tail) := by
        cases rest with
        | nil => exact fun _ _ same => nomatch same
        | cons next rest =>
          rw [List.flatMap_cons, List.append_assoc]
          exact unpaired_quotePoint _ (follows next rfl)
      have scanned := scanPoint_quotePoint unpaired
      have later := ih chain (Nat.lt_of_succ_lt_succ enough)
      obtain ⟨first, more, shape, open_⟩ :=
        head_quotePoint point (rest.flatMap quotePoint ++ 0x22 :: tail)
      rw [List.flatMap_cons, List.append_assoc, shape, scanString]
      · rw [← shape, scanned]
        simp [later]
      · exact fun _ same => open_ (List.cons.inj same).1

theorem length_le_quoted (text : List Nat) : text.length ≤ (text.flatMap quotePoint).length := by
  induction text with
  | nil => exact Nat.le_refl _
  | cons point rest ih =>
    obtain ⟨first, tail, shape, _⟩ := head_quotePoint point []
    rw [List.append_nil] at shape
    rw [List.flatMap_cons, List.length_append, List.length_cons, shape, List.length_cons]
    omega

/-- A string comes out of its JSON text as its code points, lone surrogates included. -/
theorem loadString_quote (text : List UInt16) : loadString (quote text) = some (points text) := by
  have enough := length_le_quoted (points text)
  have scanned := scanString_quoted (points_unpaired text) []
    (show (points text).length < ((points text).flatMap quotePoint ++ [0x22]).length by
      rw [List.length_append]
      simp only [List.length_singleton]
      omega)
  simp only [loadString, quote, List.cons_append]
  rw [scanned]

end BrainMate.Text
