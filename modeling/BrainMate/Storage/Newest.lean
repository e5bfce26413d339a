import Mathlib.Data.List.DropRight
import Mathlib.Data.List.Nodup
import Mathlib.Data.List.Sort

namespace BrainMate.Storage

variable {Row Key : Type} [LinearOrder Key] {key : Row → Key} {rows : List Row}

/-- `ORDER BY key ASC`. -/
def ascending (key : Row → Key) (rows : List Row) : List Row :=
  rows.insertionSort fun row other => key row ≤ key other

/-- `ORDER BY key DESC`. -/
def descending (key : Row → Key) (rows : List Row) : List Row :=
  rows.insertionSort fun row other => key other ≤ key row

theorem ascending_perm : (ascending key rows).Perm rows := List.perm_insertionSort _ rows

theorem descending_perm : (descending key rows).Perm rows := List.perm_insertionSort _ rows

theorem mem_ascending {row : Row} : row ∈ ascending key rows ↔ row ∈ rows := ascending_perm.mem_iff

theorem ascending_pairwise : (ascending key rows).Pairwise fun row other => key row ≤ key other :=
  List.pairwise_insertionSort _ rows

/-- The rows of a list have no two orders. -/
theorem eq_of_ascending {others : List Row} (distinct : (rows.map key).Nodup)
    (sorted : rows.Pairwise fun row other => key row ≤ key other)
    (sorted' : others.Pairwise fun row other => key row ≤ key other) (same : rows.Perm others) :
    rows = others := by
  refine List.Perm.eq_of_pairwise (fun row other member member' less more => ?_) sorted sorted' same
  exact List.inj_on_of_nodup_map distinct member (same.mem_iff.mpr member') (le_antisymm less more)

theorem reverse_descending (distinct : (rows.map key).Nodup) :
    (descending key rows).reverse = ascending key rows := by
  have same : (descending key rows).reverse.Perm (ascending key rows) :=
    (List.reverse_perm _).trans (descending_perm.trans ascending_perm.symm)
  refine eq_of_ascending ?_ ?_ ascending_pairwise same
  · exact ((same.trans ascending_perm).map key).nodup_iff.mpr distinct
  · rw [List.pairwise_reverse]
    exact List.pairwise_insertionSort _ rows

theorem filter_ascending (keep : Row → Bool) (distinct : (rows.map key).Nodup) :
    (ascending key rows).filter keep = ascending key (rows.filter keep) := by
  have same : ((ascending key rows).filter keep).Perm (ascending key (rows.filter keep)) :=
    (ascending_perm.filter keep).trans ascending_perm.symm
  refine eq_of_ascending ?_ (ascending_pairwise.filter keep) ascending_pairwise same
  exact (ascending_perm.map key).nodup_iff.mpr distinct |>.sublist (List.filter_sublist.map key)

omit [LinearOrder Key] in
private theorem rtake_append_of_filled {older newest : List Row} {count : Nat}
    (filled : older = [] ∨ newest.length = count) (short : newest.length ≤ count) :
    (older ++ newest).rtake count = newest := by
  obtain rfl | full := filled
  · rw [List.nil_append, List.rtake, Nat.sub_eq_zero_of_le short, List.drop_zero]
  · rw [List.rtake, List.length_append, full, Nat.add_sub_cancel, List.drop_left]

/-- The newest rows of a first part are the newest of the whole with a property, just where they
have it and no row behind the part does. -/
theorem rtake_eq_rtake_filter_iff {front back : List Row} {count : Nat} {keep : Row → Bool}
    (distinct : (front ++ back).Nodup) (positive : 0 < count) :
    front.rtake count = ((front ++ back).filter keep).rtake count ↔
      (∀ row ∈ front.rtake count, keep row = true) ∧ ∀ row ∈ back, keep row = false := by
  constructor
  · intro same
    constructor
    · intro row member
      rw [same, List.rtake] at member
      exact (List.mem_filter.mp (List.mem_of_mem_drop member)).2
    · intro row member
      by_contra kept
      have some_kept : back.filter keep ≠ [] :=
        List.ne_nil_of_mem (List.mem_filter.mpr ⟨member, Bool.eq_true_of_not_eq_false kept⟩)
      obtain ⟨others, last, ending⟩ := (List.eq_nil_or_concat' _).resolve_left some_kept
      have in_back : last ∈ back := (List.mem_filter.mp (ending ▸ List.mem_concat_self)).1
      have in_front : last ∈ front.rtake count := by
        obtain ⟨fewer, rfl⟩ := Nat.exists_eq_succ_of_ne_zero positive.ne'
        rw [same, List.filter_append, ending, ← List.append_assoc, List.rtake_concat_succ]
        exact List.mem_concat_self
      exact (List.disjoint_of_nodup_append distinct) (List.mem_of_mem_drop in_front) in_back
  · rintro ⟨newest_kept, none_later⟩
    have front_split : front.take (front.length - count) ++ front.rtake count = front :=
      List.take_append_drop _ _
    have kept : (front ++ back).filter keep =
        (front.take (front.length - count)).filter keep ++ front.rtake count := by
      have nothing : back.filter keep = [] := List.filter_eq_nil_iff.mpr fun row member => by
        simp [none_later row member]
      rw [List.filter_append, nothing, List.append_nil]
      conv_lhs => rw [← front_split]
      rw [List.filter_append, List.filter_eq_self.mpr newest_kept]
    rw [kept]
    refine (rtake_append_of_filled ?_ ?_).symm
    · by_cases short : front.length ≤ count
      · left
        rw [Nat.sub_eq_zero_of_le short]
        rfl
      · right
        rw [List.rtake, List.length_drop]
        omega
    · rw [List.rtake, List.length_drop]
      omega

end BrainMate.Storage
