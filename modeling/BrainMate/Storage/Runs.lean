import Mathlib.Data.List.Destutter
import Mathlib.Data.List.SplitBy

namespace BrainMate.Storage

/-- Items that are merged have the same key, and so has what they are merged to. -/
structure Merging (Item Key : Type) where
  key : Item → Key
  merge : Item → Item → Item
  key_merge : ∀ first second, key first = key second → key (merge first second) = key first

namespace Merging

variable {Item Key : Type} [DecidableEq Key] (merging : Merging Item Key)

def same (first second : Item) : Bool := merging.key first = merging.key second

/-- An item is merged with the last one or put behind it. -/
def absorb (merged : List Item) (item : Item) : List Item :=
  match merged.getLast? with
  | some last =>
    if merging.key last = merging.key item then merged.dropLast ++ [merging.merge last item]
    else merged ++ [item]
  | none => merged ++ [item]

def mergeRuns (items : List Item) : List Item := items.foldl merging.absorb []

/-- What is left of a run. -/
def ofRun : List Item → Option Item
  | [] => none
  | first :: rest => some (rest.foldl merging.merge first)

variable {merging} {front items rest : List Item} {last item first : Item}

theorem absorb_same (same : merging.key last = merging.key item) :
    merging.absorb (front ++ [last]) item = front ++ [merging.merge last item] := by
  rw [absorb, List.getLast?_concat]
  dsimp only
  rw [if_pos same, List.dropLast_concat]

theorem absorb_other (other : merging.key last ≠ merging.key item) :
    merging.absorb (front ++ [last]) item = front ++ [last] ++ [item] := by
  rw [absorb, List.getLast?_concat]
  exact if_neg other

private theorem keys_foldl (front : List Item) (last : Item) (items : List Item) :
    (items.foldl merging.absorb (front ++ [last])).map merging.key =
      front.map merging.key ++ (items.map merging.key).destutter' (· ≠ ·) (merging.key last) := by
  induction items generalizing front last with
  | nil => simp
  | cons item rest ih =>
    rw [List.foldl_cons, List.map_cons, List.destutter'_cons]
    by_cases same : merging.key last = merging.key item
    · rw [absorb_same same, ih, merging.key_merge last item same, if_neg (not_not.mpr same)]
    · rw [absorb_other same, ih, if_pos same, List.map_append]
      simp

variable (merging) in
/-- The keys are left without their repetitions. -/
theorem keys_mergeRuns (items : List Item) :
    (merging.mergeRuns items).map merging.key = (items.map merging.key).destutter (· ≠ ·) := by
  cases items with
  | nil => rfl
  | cons first rest =>
    rw [List.map_cons, List.destutter_cons']
    exact keys_foldl [] first rest

variable (merging) in
/-- Neighbours differ in their keys. -/
theorem alternates_mergeRuns (items : List Item) :
    (merging.mergeRuns items).IsChain fun first second =>
      merging.key first ≠ merging.key second := by
  have chain := List.isChain_destutter (· ≠ ·) (items.map merging.key)
  rw [← merging.keys_mergeRuns, List.isChain_map] at chain
  exact chain

private theorem foldl_of_alternates (front : List Item)
    (alternates : (last :: rest).IsChain fun first second =>
      merging.key first ≠ merging.key second) :
    rest.foldl merging.absorb (front ++ [last]) = front ++ last :: rest := by
  induction rest generalizing front last with
  | nil => rfl
  | cons item rest ih =>
    obtain ⟨other, alternates⟩ := List.isChain_cons_cons.mp alternates
    rw [List.foldl_cons, absorb_other other, ih _ alternates, List.append_assoc]
    rfl

/-- Where neighbours differ there is nothing to merge. -/
theorem mergeRuns_of_alternates
    (alternates : items.IsChain fun first second => merging.key first ≠ merging.key second) :
    merging.mergeRuns items = items := by
  cases items with
  | nil => rfl
  | cons first rest => exact foldl_of_alternates [] alternates

variable (merging) in
theorem mergeRuns_mergeRuns (items : List Item) :
    merging.mergeRuns (merging.mergeRuns items) = merging.mergeRuns items :=
  mergeRuns_of_alternates (merging.alternates_mergeRuns items)

theorem foldl_same (front : List Item) (same : ∀ item ∈ rest, merging.key first = merging.key item) :
    rest.foldl merging.absorb (front ++ [first]) = front ++ [rest.foldl merging.merge first] := by
  induction rest generalizing first with
  | nil => rfl
  | cons item rest ih =>
    obtain ⟨here, later⟩ := List.forall_mem_cons.mp same
    rw [List.foldl_cons, List.foldl_cons, absorb_same here]
    apply ih
    intro other member
    rw [merging.key_merge first item here]
    exact later other member

omit [DecidableEq Key] in
private theorem key_foldl (same : ∀ item ∈ rest, merging.key first = merging.key item) :
    merging.key (rest.foldl merging.merge first) = merging.key first := by
  induction rest generalizing first with
  | nil => rfl
  | cons item rest ih =>
    obtain ⟨here, later⟩ := List.forall_mem_cons.mp same
    have kept := merging.key_merge first item here
    rw [List.foldl_cons, ih fun other member => kept.trans (later other member), kept]

/-- The items of a run have the key of the first. -/
theorem same_of_run (run : (first :: rest).IsChain fun one other => merging.same one other = true) :
    ∀ item ∈ rest, merging.key first = merging.key item := by
  induction rest generalizing first with
  | nil => exact fun _ member => absurd member List.not_mem_nil
  | cons item rest ih =>
    obtain ⟨here, later⟩ := List.isChain_cons_cons.mp run
    have here : merging.key first = merging.key item := of_decide_eq_true here
    exact List.forall_mem_cons.mpr ⟨here, fun other member => here.trans (ih later other member)⟩

omit [DecidableEq Key] in
private theorem key_getLast (same : ∀ item ∈ rest, merging.key first = merging.key item) :
    ∀ last ∈ (first :: rest).getLast?, merging.key last = merging.key first := by
  intro last ends
  obtain rfl | inside := List.mem_cons.mp (List.mem_of_getLast? ends)
  · rfl
  · exact (same last inside).symm

/-- The list ends in another key than the next run begins with. -/
def Parted (merging : Merging Item Key) (front run : List Item) : Prop :=
  ∀ last ∈ front.getLast?, ∀ first ∈ run.head?, merging.key last ≠ merging.key first

private theorem foldl_run (parted : merging.Parted front (first :: rest))
    (same : ∀ item ∈ rest, merging.key first = merging.key item) :
    (first :: rest).foldl merging.absorb front = front ++ [rest.foldl merging.merge first] := by
  rw [List.foldl_cons]
  obtain rfl | ⟨front, last, rfl⟩ := List.eq_nil_or_concat' front
  · exact foldl_same [] same
  · have other := parted last (List.getLast?_concat ..) first rfl
    rw [absorb_other other, foldl_same _ same]

private theorem foldl_flatten {runs : List (List Item)} (nonempty : [] ∉ runs)
    (run : ∀ run ∈ runs, run.IsChain fun one other => merging.same one other = true)
    (parted : runs.IsChain merging.Parted) (front : List Item)
    (begins : ∀ run ∈ runs.head?, merging.Parted front run) :
    runs.flatten.foldl merging.absorb front = front ++ runs.filterMap merging.ofRun := by
  induction runs generalizing front with
  | nil => simp
  | cons head runs ih =>
    obtain ⟨here, later⟩ := List.forall_mem_cons.mp run
    obtain ⟨next_parted, later_parted⟩ := List.isChain_cons.mp parted
    rw [List.mem_cons, not_or] at nonempty
    obtain ⟨first, rest, rfl⟩ := List.exists_cons_of_ne_nil (Ne.symm nonempty.1)
    have same := same_of_run here
    have left : merging.ofRun (first :: rest) = some (rest.foldl merging.merge first) := rfl
    -- What is left of the run has the key that its last item has.
    have begins' : ∀ next ∈ runs.head?,
        merging.Parted (front ++ [rest.foldl merging.merge first]) next := by
      intro next found last ends item heads
      rw [List.getLast?_concat, Option.mem_some_iff] at ends
      have final := List.getLast?_eq_some_getLast (List.cons_ne_nil first rest)
      rw [← ends, key_foldl same, ← key_getLast same _ final]
      exact next_parted next found _ final item heads
    rw [List.flatten_cons, List.foldl_append, foldl_run (begins _ rfl) same,
      List.filterMap_cons_some left, ih nonempty.2 later later_parted _ begins', List.append_assoc]
    rfl

variable (merging) in
/-- Of each run of the list the items are merged from the first to the last. -/
theorem mergeRuns_eq (items : List Item) :
    merging.mergeRuns items = (items.splitBy merging.same).filterMap merging.ofRun := by
  have parted : (items.splitBy merging.same).IsChain merging.Parted := by
    refine (List.isChain_getLast_head_splitBy merging.same items).imp ?_
    intro run next ⟨run_some, next_some, other⟩ last ends first heads
    rw [List.getLast?_eq_some_getLast run_some, Option.mem_some_iff] at ends
    rw [List.head?_eq_some_head next_some, Option.mem_some_iff] at heads
    rw [← ends, ← heads]
    exact of_decide_eq_false other
  have merged := foldl_flatten (List.nil_notMem_splitBy merging.same items)
    (fun _ member => List.isChain_of_mem_splitBy member) parted [] fun _ _ _ ends => nomatch ends
  rwa [List.flatten_splitBy, List.nil_append] at merged

end Merging

end BrainMate.Storage
