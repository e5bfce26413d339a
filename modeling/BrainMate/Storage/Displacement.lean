import Mathlib.Data.List.Basic
import Mathlib.Algebra.Order.Ring.Int

namespace BrainMate.Storage.Displacement

variable {Row : Type} {rows : List Row}

/-- Equal counts, and one condition implies the other. -/
theorem imp_of_countP_eq {first second : Row → Bool}
    (imp : ∀ row ∈ rows, first row = true → second row = true)
    (same : rows.countP first = rows.countP second) :
    ∀ row ∈ rows, second row = true → first row = true := by
  induction rows with
  | nil => nofun
  | cons head rest ih =>
    have fewer := List.countP_mono_left fun row member => imp row (.tail _ member)
    have own := imp head (.head _)
    rw [List.countP_cons, List.countP_cons] at same
    have both : rest.countP first = rest.countP second ∧ (second head = true → first head = true) := by
      by_cases held : first head = true
      · rw [if_pos held, if_pos (own held)] at same
        exact ⟨Nat.add_right_cancel same, fun _ => held⟩
      · rw [if_neg held] at same
        by_cases other : second head = true
        · rw [if_pos other] at same
          omega
        · rw [if_neg other] at same
          exact ⟨Nat.add_right_cancel same, fun held => absurd held other⟩
    intro row member
    obtain rfl | member := List.mem_cons.mp member
    · exact both.2
    · exact ih (fun row member => imp row (.tail _ member)) both.1 row member

variable {kept : Row → Prop} {found actual : Row → Int} [DecidablePred kept]

/-- The places in front are found for what belongs there, or for what belongs further back. -/
structure Forward (kept : Row → Prop) (found actual : Row → Int) (rows : List Row) : Prop where
  nonneg : ∀ row ∈ rows, 0 ≤ actual row → 0 ≤ found row
  le : ∀ row ∈ rows, 0 ≤ actual row → found row ≤ actual row
  neg : ∀ row ∈ rows, actual row < 0 → found row < 0
  /-- What is dropped does not belong in front of what is kept. -/
  dropped : ∀ row ∈ rows, ∀ other ∈ rows, ¬ kept row → kept other → actual other ≤ actual row

theorem placed_of_counts (forward : Forward kept found actual rows) {limit : Nat}
    (counts : ∀ place : Nat, place < limit →
      rows.countP (fun row => kept row ∧ found row = place) =
        rows.countP fun row => actual row = place) (place : Nat) (inside : place < limit) :
    ∀ row ∈ rows, kept row ∧ found row = place ↔ actual row = place := by
  induction place using Nat.strongRecOn with
  | ind place ih =>
    have equal := counts place inside
    by_cases all : ∀ row ∈ rows, actual row = place → kept row
    · have here : ∀ row ∈ rows, actual row = place → kept row ∧ found row = place := by
        intro row member belongs
        refine ⟨all row member belongs, ?_⟩
        have low := forward.nonneg row member (by omega)
        have high := forward.le row member (by omega)
        by_contra elsewhere
        -- a place in front of it has only what belongs there
        have front : found row = ((found row).toNat : Int) := (Int.toNat_of_nonneg low).symm
        have settled := ih (found row).toNat (by omega) (by omega) row member
        have wrong := settled.mp ⟨all row member belongs, front⟩
        omega
      have back := imp_of_countP_eq (fun row member held =>
        decide_eq_true (here row member (of_decide_eq_true held))) equal.symm
      exact fun row member => ⟨fun held =>
        of_decide_eq_true (back row member (decide_eq_true held)), here row member⟩
    · push Not at all
      obtain ⟨last, last_mem, last_place, lost⟩ := all
      have here : ∀ row ∈ rows, kept row ∧ found row = place → actual row = place := by
        intro row member ⟨keeps, place_eq⟩
        have high := forward.dropped last last_mem row member lost keeps
        by_cases before : actual row < 0
        · have out := forward.neg row member before
          omega
        · have low := forward.le row member (by omega)
          omega
      have back := imp_of_countP_eq (fun row member held =>
        decide_eq_true (here row member (of_decide_eq_true held))) equal
      exact fun row member => ⟨here row member, fun held =>
        of_decide_eq_true (back row member (decide_eq_true held))⟩

theorem counts_of_placed {limit : Nat}
    (placed : ∀ row ∈ rows, ∀ place : Nat, place < limit →
      (kept row ∧ found row = place ↔ actual row = place)) (place : Nat) (inside : place < limit) :
    rows.countP (fun row => kept row ∧ found row = place) =
      rows.countP fun row => actual row = place := by
  apply List.countP_congr
  intro row member
  rw [decide_eq_true_eq, decide_eq_true_eq]
  exact placed row member place inside

end BrainMate.Storage.Displacement
