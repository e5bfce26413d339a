import Mathlib.Data.List.Nodup

namespace BrainMate.Storage

/-- No two rows carry the same key. -/
structure Table (Row Key : Type) (key : Row → Key) where
  rows : List Row
  unique : (rows.map key).Nodup

namespace Table

variable {Row Key : Type} {key : Row → Key}

def empty : Table Row Key key := ⟨[], List.nodup_nil⟩

/-- `UPDATE ... SET ... WHERE`; the key columns are not assigned. -/
def updateWhere (table : Table Row Key key) (condition : Row → Bool) (assign : Row → Row)
    (keeps : ∀ row, key (assign row) = key row) : Table Row Key key where
  rows := table.rows.map fun row => if condition row then assign row else row
  unique := by
    have same : (table.rows.map fun row => if condition row then assign row else row).map key =
        table.rows.map key := by
      rw [List.map_map]
      apply List.map_congr_left
      intro row _
      simp only [Function.comp]
      split
      · exact keeps row
      · rfl
    rw [same]
    exact table.unique

/-- A row after an update was there before, or is an updated one. -/
theorem mem_updateWhere {table : Table Row Key key} {condition : Row → Bool} {assign : Row → Row}
    (keeps : ∀ row, key (assign row) = key row) {row : Row}
    (member : row ∈ (table.updateWhere condition assign keeps).rows) :
    row ∈ table.rows ∨ ∃ before ∈ table.rows, condition before = true ∧ assign before = row := by
  obtain ⟨before, stored, same⟩ := List.mem_map.mp member
  split at same
  · exact .inr ⟨before, stored, ‹_›, same⟩
  · exact .inl (same ▸ stored)

/-- `DELETE ... WHERE`. -/
def deleteWhere (table : Table Row Key key) (condition : Row → Bool) : Table Row Key key where
  rows := table.rows.filter fun row => !condition row
  unique := table.unique.sublist (List.filter_sublist.map key)

/-- `SELECT COUNT(*) ... WHERE`. -/
def countWhere (table : Table Row Key key) (condition : Row → Bool) : Nat :=
  table.rows.countP condition

variable [DecidableEq Key]

/-- `SELECT ... WHERE key = $1`. -/
def find? (table : Table Row Key key) (wanted : Key) : Option Row :=
  table.rows.find? fun row => key row = wanted

/-- `INSERT ... ON CONFLICT (key) DO NOTHING`. -/
def insertNew (table : Table Row Key key) (row : Row) : Table Row Key key :=
  if conflict : key row ∈ table.rows.map key then table
  else ⟨table.rows ++ [row], by
    rw [List.map_append, List.nodup_append]
    refine ⟨table.unique, by simp, ?_⟩
    intro stored member other own
    have same : other = key row := by simpa using own
    rw [same]
    intro equal
    exact conflict (equal ▸ member)⟩

variable (table : Table Row Key key)

@[simp] theorem find?_empty (wanted : Key) :
    (empty : Table Row Key key).find? wanted = none := rfl

theorem find?_eq_some_iff {wanted : Key} {row : Row} :
    table.find? wanted = some row ↔ row ∈ table.rows ∧ key row = wanted := by
  constructor
  · intro found
    exact ⟨List.mem_of_find?_eq_some found, by simpa using List.find?_some found⟩
  · rintro ⟨member, rfl⟩
    obtain ⟨other, found⟩ : ∃ other, table.find? (key row) = some other := by
      apply Option.isSome_iff_exists.mp
      exact List.find?_isSome.mpr ⟨row, member, by simp⟩
    have present := List.mem_of_find?_eq_some found
    have same : key other = key row := by simpa using List.find?_some found
    rw [found, List.inj_on_of_nodup_map table.unique present member same]

theorem find?_key {wanted : Key} {row : Row} (found : table.find? wanted = some row) :
    key row = wanted := (table.find?_eq_some_iff.mp found).2

theorem find?_eq_none_iff {wanted : Key} :
    table.find? wanted = none ↔ wanted ∉ table.rows.map key := by
  simp [find?]

@[simp] theorem find?_updateWhere (condition : Row → Bool) (assign : Row → Row)
    (keeps : ∀ row, key (assign row) = key row) (wanted : Key) :
    (table.updateWhere condition assign keeps).find? wanted =
      (table.find? wanted).map fun row => if condition row then assign row else row := by
  have sameKey (row : Row) : key (if condition row then assign row else row) = key row := by
    split
    · exact keeps row
    · rfl
  simp only [find?, updateWhere, List.find?_map]
  congr 2
  funext row
  simp [Function.comp, sameKey]

@[simp] theorem find?_deleteWhere (condition : Row → Bool) (wanted : Key) :
    (table.deleteWhere condition).find? wanted =
      (table.find? wanted).filter fun row => !condition row := by
  apply Option.ext
  intro row
  simp only [find?_eq_some_iff, Option.filter_eq_some_iff, deleteWhere, List.mem_filter]
  constructor
  · rintro ⟨⟨member, kept⟩, same⟩
    exact ⟨⟨member, same⟩, kept⟩
  · rintro ⟨⟨member, same⟩, kept⟩
    exact ⟨⟨member, kept⟩, same⟩

@[simp] theorem find?_insertNew (row : Row) (wanted : Key) :
    (table.insertNew row).find? wanted =
      if key row = wanted then some ((table.find? wanted).getD row) else table.find? wanted := by
  unfold insertNew
  split
  · rename_i conflict
    split
    · rename_i same
      subst wanted
      cases found : table.find? (key row) with
      | none => exact absurd conflict (table.find?_eq_none_iff.mp found)
      | some stored => rfl
    · rfl
  · rename_i fresh
    simp only [find?, List.find?_append]
    split
    · rename_i same
      subst wanted
      have absent : table.find? (key row) = none := table.find?_eq_none_iff.mpr fresh
      simp only [find?] at absent
      simp [absent]
    · rename_i other
      simp [other]

section Counting

variable {condition other : Row → Bool}

omit [DecidableEq Key] in
theorem countWhere_mono (weaker : ∀ row, condition row = true → other row = true) :
    table.countWhere condition ≤ table.countWhere other :=
  List.countP_mono_left fun row _ => weaker row

omit [DecidableEq Key] in
/-- An update that makes no row meet a condition does not add to its count. -/
theorem countWhere_updateWhere_le {selects : Row → Bool} {assign : Row → Row}
    (keeps : ∀ row, key (assign row) = key row)
    (before : ∀ row, condition (assign row) = true → condition row = true) :
    (table.updateWhere selects assign keeps).countWhere condition ≤ table.countWhere condition := by
  simp only [countWhere, updateWhere, List.countP_map]
  apply List.countP_mono_left
  intro row _ met
  simp only [Function.comp] at met
  split at met
  · exact before row met
  · exact met

omit [DecidableEq Key] in
theorem countWhere_deleteWhere_le (deletes : Row → Bool) :
    (table.deleteWhere deletes).countWhere condition ≤ table.countWhere condition :=
  List.filter_sublist.countP_le

theorem countWhere_insertNew_le (row : Row) :
    (table.insertNew row).countWhere condition ≤
      table.countWhere condition + if condition row then 1 else 0 := by
  unfold insertNew countWhere
  split
  · exact Nat.le_add_right _ _
  · simp [List.countP_append, List.countP_cons]

end Counting

end Table

end BrainMate.Storage
