import Mathlib.Data.List.Basic

/-! Content lines of iCalendar (RFC 5545): lines that end with CRLF, each a property name and a
value, and values of type TEXT with their escapes. -/

namespace BrainMate.Text.ICalendar

def splitCrlf : List Char → List (List Char)
  | [] => [[]]
  | '\r' :: '\n' :: rest => [] :: splitCrlf rest
  | c :: rest => (splitCrlf rest).modifyHead (c :: ·)

/-- Neither CR nor LF stands in the line. -/
def Unbroken (line : List Char) : Prop := '\r' ∉ line ∧ '\n' ∉ line

theorem Unbroken.append {before behind : List Char} (first : Unbroken before)
    (second : Unbroken behind) : Unbroken (before ++ behind) := by
  constructor
  · intro member
    rcases List.mem_append.mp member with left | right
    · exact first.1 left
    · exact second.1 right
  · intro member
    rcases List.mem_append.mp member with left | right
    · exact first.2 left
    · exact second.2 right

theorem unbroken_of_all {line : List Char}
    (all : line.all (fun c => c != '\r' && c != '\n') = true) : Unbroken line := by
  rw [List.all_eq_true] at all
  constructor <;> exact fun member => absurd (all _ member) (by decide)

def joinCrlf (lines : List (List Char)) : List Char := lines.flatMap fun line => line ++ ['\r', '\n']

private theorem splitCrlf_cons {c : Char} (other : c ≠ '\r') (rest : List Char) :
    splitCrlf (c :: rest) = (splitCrlf rest).modifyHead (c :: ·) := by
  rw [splitCrlf]
  rintro _ rfl
  exact absurd rfl other

private theorem splitCrlf_line {line : List Char} (unbroken : Unbroken line) (rest : List Char) :
    splitCrlf (line ++ '\r' :: '\n' :: rest) = line :: splitCrlf rest := by
  induction line with
  | nil => rfl
  | cons c later ih =>
    have other : c ≠ '\r' := fun same => unbroken.1 (same ▸ .head _)
    have back := ih ⟨fun member => unbroken.1 (.tail _ member),
      fun member => unbroken.2 (.tail _ member)⟩
    rw [List.cons_append, splitCrlf_cons other, back]
    rfl

/-- Behind the last line stands an empty one. -/
theorem splitCrlf_joinCrlf {lines : List (List Char)} (unbroken : ∀ line ∈ lines, Unbroken line) :
    splitCrlf (joinCrlf lines) = lines ++ [[]] := by
  induction lines with
  | nil => rfl
  | cons line later ih =>
    have back := ih fun line member => unbroken line (.tail _ member)
    have shape : joinCrlf (line :: later) = line ++ '\r' :: '\n' :: joinCrlf later := by
      simp [joinCrlf]
    rw [shape, splitCrlf_line (unbroken line (.head _)), back, List.cons_append]

def isNameChar (c : Char) : Bool := c != ':' && c != ';'

/-- What stands before the value and the parameters. -/
def propertyName (line : List Char) : List Char := line.takeWhile isNameChar

/-- The value of a property without parameters. -/
def propertyValue (line : List Char) : List Char := (line.dropWhile isNameChar).drop 1

def property? (name : List Char) (lines : List (List Char)) : Option (List Char) :=
  (lines.find? fun line => propertyName line == name).map propertyValue

structure Property where
  name : String
  value : List Char
  plain : name.toList.all isNameChar = true

namespace Property

variable (property : Property)

def line : List Char := property.name.toList ++ ':' :: property.value

theorem propertyName_line : propertyName property.line = property.name.toList := by
  rw [propertyName, line, List.takeWhile_append_of_pos (List.all_eq_true.mp property.plain),
    List.takeWhile_cons_of_neg (by decide), List.append_nil]

private theorem propertyValue_line : propertyValue property.line = property.value := by
  rw [propertyValue, line, List.dropWhile_append_of_pos (List.all_eq_true.mp property.plain),
    List.dropWhile_cons_of_neg (by decide), List.drop_one, List.tail_cons]

/-- The first property of the name gives the value. -/
theorem property?_lines {properties : List Property} {name : String} {first : Property}
    (found : properties.find? (fun property => property.name == name) = some first)
    (rest : List (List Char)) :
    property? name.toList (properties.map line ++ rest) = some first.value := by
  have same : (fun property : Property => propertyName property.line == name.toList) =
      fun property => property.name == name := by
    funext property
    rw [propertyName_line, Bool.eq_iff_iff, beq_iff_eq, beq_iff_eq, String.toList_inj]
  rw [property?, List.find?_append, List.find?_map, Function.comp_def, same, found]
  simp [propertyValue_line]

end Property

/-- The characters that a TEXT value stands for. A comma, a semicolon or a backslash without its
backslash is no TEXT. -/
def unescape : List Char → Option (List Char)
  | [] => some []
  | '\\' :: '\\' :: rest => (unescape rest).map ('\\' :: ·)
  | '\\' :: ',' :: rest => (unescape rest).map (',' :: ·)
  | '\\' :: ';' :: rest => (unescape rest).map (';' :: ·)
  | '\\' :: 'n' :: rest => (unescape rest).map ('\n' :: ·)
  | '\\' :: 'N' :: rest => (unescape rest).map ('\n' :: ·)
  | c :: rest => if c = '\\' ∨ c = ',' ∨ c = ';' then none else (unescape rest).map (c :: ·)

theorem unescape_cons {c : Char} (backslash : c ≠ '\\') (comma : c ≠ ',') (semicolon : c ≠ ';')
    (rest : List Char) : unescape (c :: rest) = (unescape rest).map (c :: ·) := by
  rw [unescape]
  · rw [if_neg (by simp [backslash, comma, semicolon])]
  all_goals
    intro _ same _
    exact absurd same backslash

end BrainMate.Text.ICalendar
