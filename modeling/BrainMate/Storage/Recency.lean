import Mathlib.Data.List.DropRight
import Mathlib.Data.List.Nodup

namespace BrainMate.Storage

variable {Item : Type} [DecidableEq Item]

/-- One addition to a list that keeps so many items. -/
def remember (limit : Nat) (known : List Item) (item : Item) : List Item :=
  if item ∈ known then known
  else if limit < (known ++ [item]).length then (known ++ [item]).drop 1
  else known ++ [item]

/-- All additions: an item is added when it is not among those that were added last. -/
def additions (limit : Nat) (items : List Item) : List Item :=
  items.foldl (fun added item => if item ∈ added.rtake limit then added else added ++ [item]) []

/-- The items that were added last. -/
def latest (limit : Nat) (items : List Item) : List Item := (additions limit items).rtake limit

variable {limit : Nat} {known : List Item} {item : Item}

private theorem additions_concat (limit : Nat) (items : List Item) (item : Item) :
    additions limit (items ++ [item]) =
      if item ∈ latest limit items then additions limit items
      else additions limit items ++ [item] := by
  rw [additions, List.foldl_append]
  rfl

omit [DecidableEq Item] in
/-- Of one more item the first is left out, if there are too many. -/
theorem rtake_concat (limit : Nat) (added : List Item) (item : Item) :
    (added ++ [item]).rtake limit =
      if limit < (added.rtake limit ++ [item]).length then (added.rtake limit ++ [item]).drop 1
      else added.rtake limit ++ [item] := by
  have kept : (added.rtake limit).length = min limit added.length := by
    rw [List.rtake, List.length_drop]
    omega
  have tail : added.rtake limit ++ [item] = (added ++ [item]).drop (added.length - limit) := by
    rw [List.rtake, List.drop_append_of_le_length (Nat.sub_le _ _)]
  rw [List.length_append, kept, tail, List.drop_drop, List.rtake, List.length_append,
    List.length_singleton]
  split
  · congr 1
    omega
  · congr 1
    omega

@[simp] theorem latest_nil (limit : Nat) : latest limit ([] : List Item) = [] := List.rtake_nil limit

theorem latest_concat (limit : Nat) (items : List Item) (item : Item) :
    latest limit (items ++ [item]) = remember limit (latest limit items) item := by
  rw [latest, additions_concat, remember]
  split
  · rfl
  · exact rtake_concat limit _ item

/-- The list holds what was added last, in the order of the additions. -/
theorem foldl_remember (limit : Nat) (items : List Item) :
    items.foldl (remember limit) [] = latest limit items := by
  induction items using List.reverseRecOn with
  | nil => rw [latest_nil, List.foldl_nil]
  | append_singleton items item ih => rw [List.foldl_concat, ih, latest_concat]

theorem latest_append (limit : Nat) (items more : List Item) :
    latest limit (items ++ more) = more.foldl (remember limit) (latest limit items) := by
  rw [← foldl_remember, List.foldl_append, foldl_remember]

theorem length_latest_le (limit : Nat) (items : List Item) : (latest limit items).length ≤ limit := by
  rw [latest, List.rtake, List.length_drop]
  omega

private theorem nodup_remember (distinct : known.Nodup) : (remember limit known item).Nodup := by
  rw [remember]
  split
  · exact distinct
  · rename_i new
    have longer : (known ++ [item]).Nodup := by
      rw [← List.concat_eq_append]
      exact (List.nodup_concat known item).mpr ⟨new, distinct⟩
    split
    · exact longer.sublist (List.drop_sublist 1 _)
    · exact longer

theorem nodup_latest (limit : Nat) (items : List Item) : (latest limit items).Nodup := by
  induction items using List.reverseRecOn with
  | nil =>
    rw [latest_nil]
    exact List.nodup_nil
  | append_singleton items item ih =>
    rw [latest_concat]
    exact nodup_remember ih

/-- The item is in the list afterwards, whatever had to go. -/
theorem mem_remember (room : 0 < limit) : item ∈ remember limit known item := by
  rw [remember]
  split
  · assumption
  · split
    · rename_i full
      rw [List.length_append, List.length_singleton] at full
      have some_ : known ≠ [] := List.ne_nil_of_length_pos (by omega)
      obtain ⟨first, rest, rfl⟩ := List.exists_cons_of_ne_nil some_
      exact List.mem_concat_self
    · exact List.mem_concat_self

end BrainMate.Storage
