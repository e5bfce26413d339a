import Mathlib.Data.List.Basic

namespace BrainMate.Text

variable {α : Type} {first second : α} {xs ys : List α} {length length' : Nat}

structure IsCommon (xs ys common : List α) : Prop where
  left : common.Sublist xs
  right : common.Sublist ys

/-- No common subsequence is longer, and there is one of this length. -/
structure IsLongest (xs ys : List α) (length : Nat) : Prop where
  reached : ∃ common, IsCommon xs ys common ∧ common.length = length
  bound : ∀ common, IsCommon xs ys common → common.length ≤ length

theorem IsLongest.unique (longest : IsLongest xs ys length) (longest' : IsLongest xs ys length') :
    length = length' := by
  obtain ⟨common, isCommon, rfl⟩ := longest.reached
  obtain ⟨common', isCommon', rfl⟩ := longest'.reached
  exact Nat.le_antisymm (longest'.bound common isCommon) (longest.bound common' isCommon')

theorem isLongest_nil_left (ys : List α) : IsLongest [] ys 0 where
  reached := ⟨[], ⟨List.nil_sublist _, List.nil_sublist _⟩, rfl⟩
  bound common isCommon := by
    rw [List.sublist_nil.mp isCommon.left]
    exact Nat.le_refl _

theorem isLongest_nil_right (xs : List α) : IsLongest xs [] 0 where
  reached := ⟨[], ⟨List.nil_sublist _, List.nil_sublist _⟩, rfl⟩
  bound common isCommon := by
    rw [List.sublist_nil.mp isCommon.right]
    exact Nat.le_refl _

theorem IsLongest.cons_same (longest : IsLongest xs ys length) (symbol : α) :
    IsLongest (symbol :: xs) (symbol :: ys) (length + 1) where
  reached := by
    obtain ⟨common, isCommon, rfl⟩ := longest.reached
    exact ⟨symbol :: common, ⟨isCommon.left.cons_cons _, isCommon.right.cons_cons _⟩, rfl⟩
  bound common isCommon := by
    have rest := longest.bound common.tail ⟨isCommon.left.tail, isCommon.right.tail⟩
    rw [List.length_tail] at rest
    omega

theorem IsLongest.cons_different (different : first ≠ second)
    (without : IsLongest xs (second :: ys) length)
    (without' : IsLongest (first :: xs) ys length') :
    IsLongest (first :: xs) (second :: ys) (max length length') where
  reached := by
    obtain shorter | longer := Nat.le_total length' length
    · obtain ⟨common, isCommon, rfl⟩ := without.reached
      exact ⟨common, ⟨isCommon.left.cons _, isCommon.right⟩, (Nat.max_eq_left shorter).symm⟩
    · obtain ⟨common, isCommon, rfl⟩ := without'.reached
      exact ⟨common, ⟨isCommon.left, isCommon.right.cons _⟩, (Nat.max_eq_right longer).symm⟩
  bound common isCommon := by
    -- one of the two heads is not the head of the common part
    cases common with
    | nil => exact Nat.zero_le _
    | cons head rest =>
      by_cases here : head = first
      · have aside : head ≠ second := fun there => different (here.symm.trans there)
        have shared := without'.bound _ ⟨isCommon.left, isCommon.right.of_cons_of_ne aside⟩
        exact Nat.le_trans shared (Nat.le_max_right _ _)
      · have shared := without.bound _ ⟨isCommon.left.of_cons_of_ne here, isCommon.right⟩
        exact Nat.le_trans shared (Nat.le_max_left _ _)

theorem IsLongest.reverse (longest : IsLongest xs ys length) :
    IsLongest xs.reverse ys.reverse length where
  reached := by
    obtain ⟨common, isCommon, rfl⟩ := longest.reached
    exact ⟨common.reverse, ⟨isCommon.left.reverse, isCommon.right.reverse⟩, List.length_reverse⟩
  bound common isCommon := by
    have left := List.reverse_sublist.mpr isCommon.left
    have right := List.reverse_sublist.mpr isCommon.right
    rw [List.reverse_reverse] at left right
    rw [← List.length_reverse]
    exact longest.bound common.reverse ⟨left, right⟩

theorem IsLongest.concat_same (longest : IsLongest xs ys length) (symbol : α) :
    IsLongest (xs ++ [symbol]) (ys ++ [symbol]) (length + 1) := by
  have reversed := (longest.reverse.cons_same symbol).reverse
  rwa [List.reverse_cons, List.reverse_cons, List.reverse_reverse, List.reverse_reverse] at reversed

theorem IsLongest.concat_different (different : first ≠ second)
    (without : IsLongest xs (ys ++ [second]) length)
    (without' : IsLongest (xs ++ [first]) ys length') :
    IsLongest (xs ++ [first]) (ys ++ [second]) (max length length') := by
  have mirrored := without.reverse
  have mirrored' := without'.reverse
  rw [List.reverse_concat] at mirrored mirrored'
  have reversed := (mirrored.cons_different different mirrored').reverse
  rwa [List.reverse_cons, List.reverse_cons, List.reverse_reverse, List.reverse_reverse] at reversed

inductive Change (α : Type) where
  | eq (text : α)
  | del (text : α)
  | ins (text : α)
  deriving DecidableEq, Repr

namespace Change

variable {changes : List (Change α)}

/-- What the change was made to. -/
def old? : Change α → Option α
  | eq text | del text => some text
  | ins _ => none

/-- What the change leaves. -/
def new? : Change α → Option α
  | eq text | ins text => some text
  | del _ => none

def kept? : Change α → Option α
  | eq text => some text
  | del _ | ins _ => none

def isKept : Change α → Bool
  | eq _ => true
  | del _ | ins _ => false

@[simp] theorem isKept_eq (text : α) : (eq text).isKept = true := rfl

@[simp] theorem isKept_del (text : α) : (del text).isKept = false := rfl

@[simp] theorem isKept_ins (text : α) : (ins text).isKept = false := rfl

/-- The changes turn the first list into the second. -/
structure Leads (xs ys : List α) (changes : List (Change α)) : Prop where
  old : changes.filterMap old? = xs
  new : changes.filterMap new? = ys

theorem Leads.append {xs' ys' : List α} {changes' : List (Change α)} (leads : Leads xs ys changes)
    (leads' : Leads xs' ys' changes') : Leads (xs ++ xs') (ys ++ ys') (changes ++ changes') := by
  constructor
  · rw [List.filterMap_append, leads.old, leads'.old]
  · rw [List.filterMap_append, leads.new, leads'.new]

private theorem kept_sublist_old (changes : List (Change α)) :
    (changes.filterMap kept?).Sublist (changes.filterMap old?) := by
  induction changes with
  | nil => exact .slnil
  | cons change rest ih =>
    cases change with
    | eq text => exact ih.cons_cons text
    | del text => exact ih.cons text
    | ins text => exact ih

private theorem kept_sublist_new (changes : List (Change α)) :
    (changes.filterMap kept?).Sublist (changes.filterMap new?) := by
  induction changes with
  | nil => exact .slnil
  | cons change rest ih =>
    cases change with
    | eq text => exact ih.cons_cons text
    | del text => exact ih
    | ins text => exact ih.cons text

theorem Leads.isCommon (leads : Leads xs ys changes) :
    IsCommon xs ys (changes.filterMap kept?) where
  left := leads.old ▸ kept_sublist_old changes
  right := leads.new ▸ kept_sublist_new changes

/-- Every symbol of the two lists is kept in both, deleted or inserted. -/
theorem Leads.count (leads : Leads xs ys changes) :
    changes.countP (fun change => !change.isKept) + 2 * (changes.filterMap kept?).length =
      xs.length + ys.length := by
  induction changes generalizing xs ys with
  | nil => rw [← leads.old, ← leads.new]; rfl
  | cons change rest ih =>
    have behind := ih ⟨rfl, rfl⟩
    rw [← leads.old, ← leads.new]
    cases change with
    | eq text =>
      simp only [List.countP_cons, List.filterMap_cons, kept?, old?, new?, List.length_cons,
        isKept_eq, Bool.not_true, Bool.false_eq_true, if_false]
      omega
    | del text =>
      simp only [List.countP_cons, List.filterMap_cons, kept?, old?, new?, List.length_cons,
        isKept_del, Bool.not_false, if_true]
      omega
    | ins text =>
      simp only [List.countP_cons, List.filterMap_cons, kept?, old?, new?, List.length_cons,
        isKept_ins, Bool.not_false, if_true]
      omega

/-- Changes that keep a longest common subsequence are as few as can be. -/
theorem Leads.fewest {others : List (Change α)} (leads : Leads xs ys changes)
    (longest : IsLongest xs ys (changes.filterMap kept?).length) (leads' : Leads xs ys others) :
    changes.countP (fun change => !change.isKept) ≤ others.countP fun change => !change.isKept := by
  have kept := longest.bound _ leads'.isCommon
  have here := leads.count
  have there := leads'.count
  omega

end Change

end BrainMate.Text
