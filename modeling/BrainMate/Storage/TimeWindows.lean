import Mathlib.Algebra.Order.Group.Nat
import Mathlib.Data.List.Basic

namespace BrainMate.Storage.TimeWindows

/-- The times from a start on, for so long. -/
def inWindow (width start : Nat) (times : List Nat) : Nat :=
  times.countP fun time => start ≤ time ∧ time < start + width

/-- The times that are not so long ago. -/
def recent (width now : Nat) (times : List Nat) : Nat :=
  times.countP fun time => now < time + width

/-- No window holds more. -/
def AtMost (width limit : Nat) (times : List Nat) : Prop :=
  ∀ start, inWindow width start times ≤ limit

variable {width limit now : Nat} {times later earlier : List Nat}

private theorem recent_append : recent width now (later ++ earlier) =
    recent width now later + recent width now earlier :=
  List.countP_append

theorem atMost_nil : AtMost width limit [] := fun _ => Nat.zero_le _

/-- A time that comes last falls into a window with those that are not so long ago. -/
theorem atMost_cons_iff (wide : 0 < width) (past : ∀ time ∈ times, time ≤ now) :
    AtMost width limit (now :: times) ↔
      AtMost width limit times ∧ recent width now times + 1 ≤ limit := by
  constructor
  · intro bounded
    constructor
    · intro start
      exact Nat.le_trans (List.Sublist.countP_le (List.sublist_cons_self now times)) (bounded start)
    · have last := bounded (now + 1 - width)
      rw [inWindow, List.countP_cons, if_pos (decide_eq_true (by omega))] at last
      have same : recent width now times = times.countP fun time =>
          now + 1 - width ≤ time ∧ time < now + 1 - width + width := by
        apply List.countP_congr
        intro time member
        have before := past time member
        simp only [decide_eq_true_eq]
        omega
      rwa [same]
  · intro ⟨bounded, fits⟩ start
    rw [inWindow, List.countP_cons]
    split
    · rename_i inside
      have now_in := of_decide_eq_true inside
      have fewer : inWindow width start times ≤ recent width now times := by
        apply List.countP_mono_left
        intro time _ within
        have time_in := of_decide_eq_true within
        exact decide_eq_true (by omega)
      exact Nat.le_trans (Nat.add_le_add_right fewer 1) fits
    · exact bounded start

/-- Where one of the earlier times is not so long ago, none of the later ones is. -/
theorem recent_later (sorted : (later ++ earlier).Pairwise (· ≥ ·))
    (some_ : 0 < recent width now earlier) : recent width now later = later.length := by
  obtain ⟨time, member, fresh⟩ := List.countP_pos_iff.mp some_
  apply List.countP_eq_length.mpr
  intro other inside
  have order := (List.pairwise_append.mp sorted).2.2 other inside time member
  have bound := of_decide_eq_true fresh
  exact decide_eq_true (by omega)

private theorem recent_le : recent width now times ≤ times.length := List.countP_le_length

/-- It takes the earlier times to exceed a limit that the later ones keep. -/
theorem recent_append_le_iff (sorted : (later ++ earlier).Pairwise (· ≥ ·))
    (kept : later.length ≤ limit) : recent width now (later ++ earlier) ≤ limit ↔
      recent width now earlier + later.length ≤ limit := by
  rw [recent_append]
  by_cases some_ : 0 < recent width now earlier
  · rw [recent_later sorted some_, Nat.add_comm]
  · have below := @recent_le width now later
    omega

end BrainMate.Storage.TimeWindows
