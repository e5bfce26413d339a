import Mathlib.Logic.Relation

namespace BrainMate.Storage

open Relation

variable {Key : Type} {links : Key → Key → Prop}

private theorem chain_climbs {rank : Key → Nat → Prop}
    (functional : ∀ key first second, rank key first → rank key second → first = second)
    (climbs : ∀ key next, links key next → ∃ level, rank key level ∧ rank next (level + 1))
    {first last : Key} (path : TransGen links first last) :
    ∃ low high, rank first low ∧ rank last high ∧ low < high := by
  induction path with
  | single link =>
    obtain ⟨level, below, above⟩ := climbs _ _ link
    exact ⟨level, level + 1, below, above, Nat.lt_succ_self level⟩
  | tail _ link ih =>
    obtain ⟨low, high, below, middle, climbed⟩ := ih
    obtain ⟨level, again, above⟩ := climbs _ _ link
    have same := functional _ _ _ middle again
    exact ⟨low, level + 1, below, above, by omega⟩

theorem chain_acyclic (rank : Key → Nat → Prop)
    (functional : ∀ key first second, rank key first → rank key second → first = second)
    (climbs : ∀ key next, links key next → ∃ level, rank key level ∧ rank next (level + 1))
    (key : Key) : ¬ TransGen links key key := by
  intro cycle
  obtain ⟨low, high, below, above, climbed⟩ := chain_climbs functional climbs cycle
  have same := functional _ _ _ below above
  omega

theorem chain_end_unique (unique : Relator.RightUnique links) {root first second : Key}
    (toFirst : ReflTransGen links root first) (toSecond : ReflTransGen links root second)
    (firstEnds : ∀ next, ¬ links first next) (secondEnds : ∀ next, ¬ links second next) :
    first = second := by
  rcases ReflTransGen.total_of_right_unique unique toFirst toSecond with path | path
  · rcases path.cases_head with same | ⟨next, link, _⟩
    · exact same
    · exact absurd link (firstEnds next)
  · rcases path.cases_head with same | ⟨next, link, _⟩
    · exact same.symm
    · exact absurd link (secondEnds next)

end BrainMate.Storage
