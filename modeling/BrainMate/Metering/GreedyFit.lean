import Mathlib.Algebra.GroupWithZero.Nat
import Mathlib.Data.List.Basic
import Mathlib.Algebra.Order.Group.Unbundled.Int

namespace BrainMate.Metering

variable {Item : Type} (size : Item → Nat)

def total (items : List Item) : Nat := (items.map size).sum

/-- Each item that fits what those before it have left. -/
def pickFitting : Int → List Item → List Item
  | _, [] => []
  | budget, item :: items =>
    if 0 ≤ budget - size item then item :: pickFitting (budget - size item) items
    else pickFitting budget items

/-- A part of the list from its start on that fits, and no longer one does. -/
structure LongestPrefix (budget : Int) (items kept : List Item) : Prop where
  isPrefix : kept <+: items
  fits : kept ≠ [] → (total size kept : Int) ≤ budget
  longest : ∀ part, part <+: items → (total size part : Int) ≤ budget → part.length ≤ kept.length

/-- A part of the list up to its end that fits, and no longer one does. -/
structure LongestSuffix (budget : Int) (items kept : List Item) : Prop where
  isSuffix : kept <:+ items
  fits : kept ≠ [] → (total size kept : Int) ≤ budget
  longest : ∀ part, part <:+ items → (total size part : Int) ≤ budget → part.length ≤ kept.length

/-- Behind the first item that does not fit there is none that does. -/
def NoneFitsLater (budget : Int) (items : List Item) : Prop :=
  ∀ front item back, items = front ++ item :: back → (total size front : Int) ≤ budget →
    budget < total size front + size item → ∀ later ∈ back, budget < total size front + size later

variable {size} {budget : Int} {item : Item} {items kept : List Item}

@[simp]
theorem total_nil : total size [] = 0 := rfl

@[simp]
theorem total_cons : total size (item :: items) = size item + total size items := List.sum_cons

@[simp]
theorem total_append {others : List Item} :
    total size (items ++ others) = total size items + total size others := by
  rw [total, List.map_append, List.sum_append]
  rfl

@[simp]
theorem total_reverse : total size items.reverse = total size items := by
  induction items with
  | nil => rfl
  | cons item items ih => simp [ih, Nat.add_comm]

private theorem pickFitting_of_fits (fits : (size item : Int) ≤ budget) :
    pickFitting size budget (item :: items) =
      item :: pickFitting size (budget - size item) items := by
  rw [pickFitting, if_pos (by omega)]

private theorem pickFitting_of_not_fits (large : budget < size item) :
    pickFitting size budget (item :: items) = pickFitting size budget items := by
  rw [pickFitting, if_neg (by omega)]

theorem pickFitting_eq_nil_iff :
    pickFitting size budget items = [] ↔ ∀ item ∈ items, budget < size item := by
  induction items with
  | nil => simp [pickFitting]
  | cons item items ih =>
    rw [List.forall_mem_cons]
    by_cases fits : (size item : Int) ≤ budget
    · rw [pickFitting_of_fits fits]
      exact iff_of_false (List.cons_ne_nil _ _) fun large => absurd large.1 (by omega)
    · rw [pickFitting_of_not_fits (by omega), ih]
      exact (and_iff_right (by omega)).symm

private theorem pickFitting_subset : ∀ item ∈ pickFitting size budget items, item ∈ items := by
  induction items generalizing budget with
  | nil => exact fun item member => member
  | cons first items ih =>
    intro item member
    rw [pickFitting] at member
    split at member
    · obtain rfl | member := List.mem_cons.mp member
      · exact List.mem_cons_self
      · exact List.mem_cons_of_mem _ (ih item member)
    · exact List.mem_cons_of_mem _ (ih item member)

private theorem total_pickFitting_le_max :
    (total size (pickFitting size budget items) : Int) ≤ max budget 0 := by
  induction items generalizing budget with
  | nil => simp [pickFitting]
  | cons item items ih =>
    by_cases fits : (size item : Int) ≤ budget
    · have rest := @ih (budget - size item)
      rw [pickFitting_of_fits fits, total_cons]
      push_cast
      omega
    · rw [pickFitting_of_not_fits (by omega)]
      exact ih

/-- What is picked fits the budget, if anything is. -/
theorem total_pickFitting_le (picked : pickFitting size budget items ≠ []) :
    (total size (pickFitting size budget items) : Int) ≤ budget := by
  have bound := @total_pickFitting_le_max _ size budget items
  by_cases negative : budget < 0
  · exact absurd (pickFitting_eq_nil_iff.mpr fun item _ => by omega) picked
  · omega

private theorem longestPrefix_cons (fits : (size item : Int) ≤ budget) :
    LongestPrefix size budget (item :: items) (item :: kept) ↔
      LongestPrefix size (budget - size item) items kept := by
  constructor
  · intro whole
    refine ⟨(List.prefix_cons_inj item).mp whole.isPrefix, fun _ => ?_, fun part inside small => ?_⟩
    · have fits := whole.fits (List.cons_ne_nil _ _)
      rw [total_cons] at fits
      push_cast at fits
      omega
    · have longer := whole.longest (item :: part) ((List.prefix_cons_inj item).mpr inside)
        (by rw [total_cons]; push_cast; omega)
      exact Nat.le_of_succ_le_succ longer
  · intro rest
    refine ⟨(List.prefix_cons_inj item).mpr rest.isPrefix, fun _ => ?_, fun part inside small => ?_⟩
    · rw [total_cons]
      push_cast
      by_cases nothing : kept = []
      · subst nothing
        rw [total_nil]
        omega
      · have := rest.fits nothing
        omega
    · cases part with
      | nil => exact Nat.zero_le _
      | cons first part =>
        obtain ⟨rfl, within⟩ := List.cons_prefix_cons.mp inside
        rw [total_cons] at small
        push_cast at small
        exact Nat.succ_le_succ (rest.longest part within (by omega))

private theorem longestPrefix_nil (large : ∀ first ∈ items.head?, budget < size first) :
    LongestPrefix size budget items [] := by
  refine ⟨List.nil_prefix, fun picked => absurd rfl picked, fun part inside small => ?_⟩
  cases part with
  | nil => exact Nat.le_refl 0
  | cons first part =>
    obtain ⟨rest, rfl⟩ := inside
    rw [total_cons] at small
    push_cast at small
    exact absurd (large first rfl) (by omega)

private theorem noneFitsLater_cons (fits : (size item : Int) ≤ budget) :
    NoneFitsLater size budget (item :: items) ↔ NoneFitsLater size (budget - size item) items := by
  constructor
  · rintro none front gap back rfl small large later member
    have beyond := none (item :: front) gap back rfl
    rw [total_cons] at beyond
    push_cast at beyond
    have := beyond (by omega) (by omega) later member
    omega
  · intro none front gap back split small large later member
    cases front with
    | nil =>
      obtain ⟨rfl, rfl⟩ := List.cons.inj split
      rw [total_nil] at large
      omega
    | cons first front =>
      obtain ⟨rfl, rfl⟩ := List.cons.inj split
      rw [total_cons] at small large ⊢
      push_cast at small large ⊢
      have := none front gap back rfl (by omega) (by omega) later member
      omega

/-- The greedy choice is the longest part that fits just where nothing is picked behind a gap. -/
theorem pickFitting_longest_iff :
    LongestPrefix size budget items (pickFitting size budget items) ↔
      NoneFitsLater size budget items := by
  induction items generalizing budget with
  | nil =>
    refine iff_of_true (longestPrefix_nil fun _ none => absurd none (Option.not_mem_none _)) ?_
    intro front item back split
    simp at split
  | cons item items ih =>
    by_cases fits : (size item : Int) ≤ budget
    · rw [pickFitting_of_fits fits, longestPrefix_cons fits, noneFitsLater_cons fits, ih]
    · rw [pickFitting_of_not_fits (by omega)]
      constructor
      · intro longest front gap back split small large later member
        cases front with
        | cons first front =>
          obtain ⟨rfl, rfl⟩ := List.cons.inj split
          rw [total_cons] at small
          push_cast at small
          omega
        | nil =>
          obtain ⟨rfl, rfl⟩ := List.cons.inj split
          have nothing : pickFitting size budget items = [] := by
            by_contra picked
            have small := total_pickFitting_le picked
            obtain ⟨first, others, picks⟩ := List.exists_cons_of_ne_nil picked
            rw [picks] at longest small
            obtain ⟨rfl, _⟩ := List.cons_prefix_cons.mp longest.isPrefix
            rw [total_cons] at small
            omega
          have := pickFitting_eq_nil_iff.mp nothing later member
          rw [total_nil]
          omega
      · intro none
        have nothing : pickFitting size budget items = [] := by
          rw [pickFitting_eq_nil_iff]
          intro later member
          by_cases negative : budget < 0
          · omega
          · have := none [] item items rfl (by rw [total_nil]; omega) (by rw [total_nil]; omega)
              later member
            rw [total_nil] at this
            omega
        rw [nothing]
        exact longestPrefix_nil fun first head => by
          obtain rfl := Option.some.inj head
          omega

variable (size) in
/-- Each item that fits what those behind it have left. -/
def keepFitting (budget : Int) (items : List Item) : List Item :=
  (pickFitting size budget items.reverse).reverse

/-- Before the last item that does not fit there is none that does. -/
def NoneFitsEarlier (size : Item → Nat) (budget : Int) (items : List Item) : Prop :=
  ∀ front item back, items = front ++ item :: back → (total size back : Int) ≤ budget →
    budget < total size back + size item →
    ∀ earlier ∈ front, budget < total size back + size earlier

private theorem longestSuffix_iff :
    LongestSuffix size budget items kept ↔ LongestPrefix size budget items.reverse kept.reverse := by
  constructor
  · intro longest
    refine ⟨List.reverse_prefix.mpr longest.isSuffix, fun picked => ?_, fun part inside small => ?_⟩
    · rw [total_reverse]
      exact longest.fits (List.reverse_eq_nil_iff.not.mp picked)
    · rw [← total_reverse] at small
      rw [← List.length_reverse, @List.length_reverse _ kept]
      exact longest.longest part.reverse (List.reverse_prefix.mp (by rwa [List.reverse_reverse])) small
  · intro longest
    refine ⟨List.reverse_prefix.mp longest.isPrefix, fun picked => ?_, fun part inside small => ?_⟩
    · have fits := longest.fits (List.reverse_eq_nil_iff.not.mpr picked)
      rwa [total_reverse] at fits
    · rw [← total_reverse] at small
      have longer := longest.longest part.reverse (List.reverse_prefix.mpr inside) small
      rwa [List.length_reverse, List.length_reverse] at longer

private theorem noneFitsEarlier_iff :
    NoneFitsEarlier size budget items ↔ NoneFitsLater size budget items.reverse := by
  constructor
  · intro none front item back split small large later member
    have split : items = back.reverse ++ item :: front.reverse := by
      rw [← List.reverse_reverse items, split]
      simp
    have := none back.reverse item front.reverse split (by rwa [total_reverse])
      (by rwa [total_reverse]) later (List.mem_reverse.mpr member)
    rwa [total_reverse] at this
  · intro none front item back split small large earlier member
    have split : items.reverse = back.reverse ++ item :: front.reverse := by
      rw [split]
      simp
    have := none back.reverse item front.reverse split (by rwa [total_reverse])
      (by rwa [total_reverse]) earlier (List.mem_reverse.mpr member)
    rwa [total_reverse] at this

theorem keepFitting_subset : ∀ item ∈ keepFitting size budget items, item ∈ items := fun item member =>
  List.mem_reverse.mp (pickFitting_subset item (List.mem_reverse.mp member))

theorem keepFitting_longest_iff :
    LongestSuffix size budget items (keepFitting size budget items) ↔
      NoneFitsEarlier size budget items := by
  rw [longestSuffix_iff, keepFitting, List.reverse_reverse, pickFitting_longest_iff,
    noneFitsEarlier_iff]

theorem total_keepFitting_le (kept : keepFitting size budget items ≠ []) :
    (total size (keepFitting size budget items) : Int) ≤ budget := by
  rw [keepFitting, total_reverse]
  exact total_pickFitting_le (List.reverse_eq_nil_iff.not.mp kept)

theorem keepFitting_eq_nil_iff :
    keepFitting size budget items = [] ↔ ∀ item ∈ items, budget < size item := by
  rw [keepFitting, List.reverse_eq_nil_iff, pickFitting_eq_nil_iff]
  simp only [List.mem_reverse]

end BrainMate.Metering
