import Mathlib.Data.List.Infix

namespace BrainMate.Text.Like

inductive Piece (Symbol : Type) where
  /-- Any run of symbols. -/
  | any
  /-- Any one symbol. -/
  | one
  | exactly (symbol : Symbol)
  deriving DecidableEq, Repr

variable {Symbol Key : Type} [DecidableEq Key] {fold : Symbol → Key}

/-- The whole text matches; symbols that `fold` does not tell apart are the same. -/
def accepts (fold : Symbol → Key) : List (Piece Symbol) → List Symbol → Bool
  | [], text => text.isEmpty
  | .any :: pieces, text => text.tails.any fun rest => accepts fold pieces rest
  | .one :: _, [] => false
  | .one :: pieces, _ :: rest => accepts fold pieces rest
  | .exactly _ :: _, [] => false
  | .exactly symbol :: pieces, first :: rest =>
    decide (fold symbol = fold first) && accepts fold pieces rest

@[simp] theorem accepts_any {pieces : List (Piece Symbol)} {text : List Symbol} :
    accepts fold (.any :: pieces) text = true ↔
      ∃ front rest, front ++ rest = text ∧ accepts fold pieces rest = true := by
  rw [accepts, List.any_eq_true]
  constructor
  · rintro ⟨rest, member, accepted⟩
    obtain ⟨front, rfl⟩ := (List.mem_tails _ _).mp member
    exact ⟨front, rest, rfl, accepted⟩
  · rintro ⟨front, rest, rfl, accepted⟩
    exact ⟨rest, (List.mem_tails _ _).mpr ⟨front, rfl⟩, accepted⟩

/-- A pattern that starts with symbols matches what starts with the same symbols. -/
theorem accepts_exactly_append {wanted : List Symbol} {pieces : List (Piece Symbol)}
    {text : List Symbol} :
    accepts fold (wanted.map .exactly ++ pieces) text = true ↔
      ∃ front rest, front ++ rest = text ∧ front.map fold = wanted.map fold ∧
        accepts fold pieces rest = true := by
  induction wanted generalizing text with
  | nil =>
    constructor
    · intro accepted
      exact ⟨[], text, rfl, rfl, accepted⟩
    · rintro ⟨front, rest, rfl, same, accepted⟩
      obtain rfl := List.map_eq_nil_iff.mp same
      exact accepted
  | cons symbol others ih =>
    constructor
    · intro accepted
      cases text with
      | nil => simp [accepts] at accepted
      | cons first rest =>
        simp only [List.map_cons, List.cons_append, accepts, Bool.and_eq_true,
          decide_eq_true_eq] at accepted
        obtain ⟨front, behind, rfl, same, accepted'⟩ := ih.mp accepted.2
        exact ⟨first :: front, behind, rfl, by simp [same, accepted.1], accepted'⟩
    · rintro ⟨front, rest, rfl, same, accepted⟩
      cases front with
      | nil => simp at same
      | cons first front =>
        simp only [List.map_cons, List.cons.injEq] at same
        simp only [List.map_cons, List.cons_append, accepts, Bool.and_eq_true, decide_eq_true_eq]
        exact ⟨same.1.symm, ih.mpr ⟨front, rest, rfl, same.2, accepted⟩⟩

/-- Between two runs of anything, symbols match where they are found. -/
theorem accepts_between {wanted text : List Symbol} :
    accepts fold (.any :: (wanted.map .exactly ++ [.any])) text = true ↔
      wanted.map fold <:+: text.map fold := by
  simp only [accepts_any, accepts_exactly_append]
  constructor
  · rintro ⟨front, _, rfl, found, back, rfl, same, -⟩
    refine ⟨front.map fold, back.map fold, ?_⟩
    rw [← same, List.append_assoc, List.map_append, List.map_append]
  · rintro ⟨front, back, parts⟩
    obtain ⟨start, behind, rfl, split, -⟩ := List.map_eq_append_iff.mp parts.symm
    obtain ⟨before, found, rfl, -, same⟩ := List.map_eq_append_iff.mp split
    refine ⟨before, found ++ behind, by simp, found, behind, rfl, same, behind, [], ?_, rfl⟩
    rw [List.append_nil]

/-- The shortest text that a pattern matches, with one symbol wherever any would do. -/
def shortest (filler : Symbol) : List (Piece Symbol) → List Symbol
  | [] => []
  | .any :: pieces => shortest filler pieces
  | .one :: pieces => filler :: shortest filler pieces
  | .exactly symbol :: pieces => symbol :: shortest filler pieces

theorem accepts_shortest (filler : Symbol) (pieces : List (Piece Symbol)) :
    accepts fold pieces (shortest filler pieces) = true := by
  induction pieces with
  | nil => rfl
  | cons piece pieces ih =>
    cases piece with
    | any => exact accepts_any.mpr ⟨[], _, rfl, ih⟩
    | one => exact ih
    | exactly symbol => simpa only [shortest, accepts, decide_true, Bool.true_and] using ih

/-- How many symbols of a kind a pattern spells out. -/
def spelled (wanted : Symbol → Bool) : List (Piece Symbol) → Nat
  | [] => 0
  | .any :: pieces => spelled wanted pieces
  | .one :: pieces => spelled wanted pieces
  | .exactly symbol :: pieces => (if wanted symbol then 1 else 0) + spelled wanted pieces

theorem spelled_le_countP {wanted : Symbol → Bool}
    (kept : ∀ symbol other, fold symbol = fold other → wanted symbol = wanted other) :
    ∀ {pieces : List (Piece Symbol)} {text : List Symbol}, accepts fold pieces text = true →
      spelled wanted pieces ≤ text.countP wanted := by
  intro pieces
  induction pieces with
  | nil => exact fun _ => Nat.zero_le _
  | cons piece pieces ih =>
    intro text accepted
    cases piece with
    | any =>
      obtain ⟨front, rest, rfl, accepted'⟩ := accepts_any.mp accepted
      rw [List.countP_append]
      exact (ih accepted').trans (Nat.le_add_left _ _)
    | one =>
      cases text with
      | nil => simp [accepts] at accepted
      | cons first rest =>
        rw [List.countP_cons]
        exact (ih accepted).trans (Nat.le_add_right _ _)
    | exactly symbol =>
      cases text with
      | nil => simp [accepts] at accepted
      | cons first rest =>
        simp only [accepts, Bool.and_eq_true, decide_eq_true_eq] at accepted
        rw [List.countP_cons, spelled, kept _ _ accepted.1, Nat.add_comm]
        exact Nat.add_le_add_right (ih accepted.2) _

/-- What a pattern means: `%` and `_` are wildcards, and `\` takes the meaning from the character
behind it. A pattern that ends in a lone `\` is one that PostgreSQL refuses. -/
def read : List Char → List (Piece Char)
  | [] => []
  | '%' :: rest => .any :: read rest
  | '_' :: rest => .one :: read rest
  | '\\' :: [] => [.exactly '\\']
  | '\\' :: char :: rest => .exactly char :: read rest
  | char :: rest => .exactly char :: read rest

def isWild (char : Char) : Bool := char == '%' || char == '_' || char == '\\'

/-- The last case of `read` is left to the characters that are no sign. -/
theorem isWild_of_other {char : Char} {rest : List Char} (notAny : char = '%' → False)
    (notOne : char = '_' → False) (notLast : char = '\\' → rest = [] → False)
    (notEscape : ∀ next others, char = '\\' → rest = next :: others → False) :
    isWild char = false := by
  simp only [isWild, Bool.or_eq_false_iff, beq_eq_false_iff_ne]
  refine ⟨⟨notAny, notOne⟩, fun same => ?_⟩
  cases rest with
  | nil => exact notLast same rfl
  | cons next others => exact notEscape next others same rfl

theorem read_cons {char : Char} {rest : List Char} (plain : isWild char = false) :
    read (char :: rest) = .exactly char :: read rest := by
  simp only [isWild, Bool.or_eq_false_iff, beq_eq_false_iff_ne] at plain
  exact read.eq_6 _ _ plain.1.1 plain.1.2 (fun same => absurd same plain.2)
    fun _ _ same => absurd same plain.2

/-- What has no sign in it stands for itself. -/
theorem read_ordinary {text rest : List Char} (ordinary : ∀ char ∈ text, isWild char = false) :
    read (text ++ rest) = text.map .exactly ++ read rest := by
  induction text with
  | nil => rfl
  | cons char text ih =>
    rw [List.cons_append, read_cons (ordinary char List.mem_cons_self),
      ih fun other member => ordinary other (List.mem_cons_of_mem _ member)]
    rfl

/-- How a character that is written at the end of a pattern reappears in its shortest match, where
no character is lost. -/
def shown (filler written other : Char) : Prop :=
  isWild written = false ∧ other = written ∨ written = '_' ∧ other = filler ∨
    written = '\\' ∧ other = '%'

/-- A match may be as short as what is written before the last `%`, and is shorter where a `%` is
among it or a `\` before another character. -/
theorem shortest_read (filler : Char) (text : List Char) :
    (shortest filler (read (text ++ ['%']))).length ≤ text.length ∧
      (text.length ≤ (shortest filler (read (text ++ ['%']))).length →
        List.Forall₂ (shown filler) text (shortest filler (read (text ++ ['%'])))) := by
  induction text using read.induct with
  | case1 => exact ⟨Nat.le_refl _, fun _ => .nil⟩
  | case2 rest ih =>
    refine ⟨ih.1.trans (Nat.le_succ _), fun full => ?_⟩
    exact absurd ih.1 (Nat.not_le.mpr full)
  | case3 rest ih =>
    refine ⟨Nat.succ_le_succ ih.1, fun full => ?_⟩
    exact .cons (.inr (.inl ⟨rfl, rfl⟩)) (ih.2 (Nat.le_of_succ_le_succ full))
  | case4 => exact ⟨Nat.le_refl _, fun _ => .cons (.inr (.inr ⟨rfl, rfl⟩)) .nil⟩
  | case5 char rest ih =>
    refine ⟨(Nat.succ_le_succ ih.1).trans (Nat.le_succ _), fun full => ?_⟩
    exact absurd ih.1 (Nat.not_le.mpr (Nat.le_of_succ_le_succ full))
  | case6 char rest notAny notOne notLast notEscape ih =>
    have plain := isWild_of_other notAny notOne notLast notEscape
    rw [List.cons_append, read_cons plain]
    refine ⟨Nat.succ_le_succ ih.1, fun full => ?_⟩
    exact .cons (.inl ⟨plain, rfl⟩) (ih.2 (Nat.le_of_succ_le_succ full))

/-- Neither a wildcard nor an escape keeps a character of another kind from being spelled out. -/
theorem spelled_read {wanted : Char → Bool}
    (ordinary : ∀ char, isWild char = true → wanted char = false) (text : List Char) :
    text.countP wanted ≤ spelled wanted (read (text ++ ['%'])) := by
  induction text using read.induct with
  | case1 => exact Nat.zero_le _
  | case2 rest ih =>
    rw [List.countP_cons, ordinary '%' rfl]
    exact ih
  | case3 rest ih =>
    rw [List.countP_cons, ordinary '_' rfl]
    exact ih
  | case4 =>
    rw [List.countP_cons, ordinary '\\' rfl]
    exact Nat.zero_le _
  | case5 char rest ih =>
    rw [List.countP_cons, ordinary '\\' rfl, List.countP_cons, Nat.add_comm (rest.countP _)]
    exact Nat.add_le_add_left ih _
  | case6 char rest notAny notOne notLast notEscape ih =>
    have plain := isWild_of_other notAny notOne notLast notEscape
    rw [List.countP_cons, List.cons_append, read_cons plain, spelled, Nat.add_comm]
    exact Nat.add_le_add_left ih _

end BrainMate.Text.Like
