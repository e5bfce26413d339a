import Mathlib.Data.List.Basic

namespace BrainMate.Text

variable {Symbol : Type} [DecidableEq Symbol] {separator : Symbol}

/-- The parts of a text that a separator ends. -/
def ended (separator : Symbol) (text : List Symbol) : List (List Symbol) :=
  (text.splitOn separator).dropLast

/-- The part of a text behind its last separator. -/
def lastPiece (separator : Symbol) (text : List Symbol) : List Symbol :=
  (text.splitOn separator).getLast?.getD []

theorem splitOn_eq (text : List Symbol) :
    text.splitOn separator = ended separator text ++ [lastPiece separator text] := by
  obtain empty | ⟨pieces, last, parts⟩ := List.eq_nil_or_concat' (text.splitOn separator)
  · exact absurd empty (List.splitOn_ne_nil _ _)
  · rw [ended, lastPiece, parts, List.dropLast_concat, List.getLast?_concat, Option.getD_some]

theorem ended_of_splitOn {text last : List Symbol} {pieces : List (List Symbol)}
    (parts : text.splitOn separator = pieces ++ [last]) :
    ended separator text = pieces ∧ lastPiece separator text = last := by
  rw [ended, lastPiece, parts, List.dropLast_concat, List.getLast?_concat]
  exact ⟨rfl, rfl⟩

/-- Splitting goes on where the first part was left. -/
theorem splitOn_append (first second : List Symbol) : (first ++ second).splitOn separator =
    ended separator first ++ (lastPiece separator first ++ second).splitOn separator := by
  induction first with
  | nil =>
    have parts : ([] : List Symbol).splitOn separator = [] ++ [[]] := List.splitOn_nil separator
    rw [(ended_of_splitOn parts).1, (ended_of_splitOn parts).2]
    rfl
  | cons symbol rest ih =>
    have whole : rest.splitOn separator = _ := splitOn_eq rest
    by_cases same : (symbol == separator) = true
    · have parts : (symbol :: rest).splitOn separator =
          ([] :: ended separator rest) ++ [lastPiece separator rest] := by
        rw [List.splitOn_cons_eq_if_modifyHead, if_pos same, whole]
        rfl
      rw [(ended_of_splitOn parts).1, (ended_of_splitOn parts).2, List.cons_append,
        List.splitOn_cons_eq_if_modifyHead, if_pos same, ih]
      rfl
    · rw [List.cons_append, List.splitOn_cons_eq_if_modifyHead, if_neg same, ih]
      cases pieces : ended separator rest with
      | nil =>
        have parts : (symbol :: rest).splitOn separator =
            [] ++ [symbol :: lastPiece separator rest] := by
          rw [List.splitOn_cons_eq_if_modifyHead, if_neg same, whole, pieces]
          rfl
        rw [(ended_of_splitOn parts).1, (ended_of_splitOn parts).2, List.cons_append,
          List.splitOn_cons_eq_if_modifyHead, if_neg same]
        rfl
      | cons piece others =>
        have parts : (symbol :: rest).splitOn separator =
            ((symbol :: piece) :: others) ++ [lastPiece separator rest] := by
          rw [List.splitOn_cons_eq_if_modifyHead, if_neg same, whole, pieces]
          rfl
        rw [(ended_of_splitOn parts).1, (ended_of_splitOn parts).2]
        rfl

/-- The lines that a piece completes, and what waits behind them. -/
def takeLines (separator : Symbol) (buffer piece : List Symbol) :
    List (List Symbol) × List Symbol :=
  (ended separator (buffer ++ piece), lastPiece separator (buffer ++ piece))

/-- It does not matter where a stream is cut. -/
theorem takeLines_append (buffer first second : List Symbol) :
    takeLines separator buffer (first ++ second) =
      ((takeLines separator buffer first).1 ++
          (takeLines separator (takeLines separator buffer first).2 second).1,
        (takeLines separator (takeLines separator buffer first).2 second).2) := by
  have parts : (buffer ++ first ++ second).splitOn separator = _ := splitOn_append _ second
  rw [splitOn_eq (lastPiece separator (buffer ++ first) ++ second), ← List.append_assoc,
    List.append_assoc buffer] at parts
  simp only [takeLines, (ended_of_splitOn parts).1, (ended_of_splitOn parts).2]

/-- A line that comes whole is completed alone. -/
theorem takeLines_line {line : List Symbol} (inside : separator ∉ line) :
    takeLines separator [] (line ++ [separator]) = ([line], []) := by
  have parts : ([] ++ (line ++ [separator])).splitOn separator = [line] ++ [[]] := by
    rw [List.nil_append, List.splitOn_append_cons_self_of_not_mem inside, List.splitOn_nil]
    rfl
  rw [takeLines, (ended_of_splitOn parts).1, (ended_of_splitOn parts).2]

end BrainMate.Text
