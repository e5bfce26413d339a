import BrainMate.Storage.Ownership

namespace BrainMate.Storage

variable {Row Label : Type} {label : Row → Label} {row : Row} {rows : List Row}

structure AtRest (label : Row → Label) (row : Row) (rows : List Row) : Prop where
  member : row ∈ rows
  only : ∀ other ∈ rows, label other = label row → other = row

theorem AtRest.updateRows {condition : Row → Bool} {assign : Row → Row}
    (settled : AtRest label row rows) (spared : condition row = false)
    (keeps : ∀ other, label (assign other) = label other) :
    AtRest label row (updateRows condition assign rows) := by
  refine ⟨List.mem_map.mpr ⟨row, settled.member, by rw [spared]; rfl⟩, fun other member same => ?_⟩
  obtain ⟨before, there, rfl⟩ := List.mem_map.mp member
  split at same
  · rename_i met
    rw [keeps] at same
    rw [settled.only before there same, spared] at met
    cases met
  · rename_i unmet
    rw [if_neg unmet]
    exact settled.only before there same

theorem AtRest.append {new : Row} (settled : AtRest label row rows)
    (apart : label new ≠ label row) : AtRest label row (rows ++ [new]) := by
  refine ⟨List.mem_append_left _ settled.member, fun other member same => ?_⟩
  obtain before | here := List.mem_append.mp member
  · exact settled.only other before same
  · obtain rfl := List.mem_singleton.mp here
    exact absurd same apart

/-- An update that finds a row of its own label leaves the changed row there. -/
theorem AtRest.updated {condition : Row → Bool} {assign : Row → Row}
    (settled : AtRest label row rows) (met : condition row = true)
    (keeps : ∀ other, label (assign other) = label other) :
    AtRest label (assign row) (Storage.updateRows condition assign rows) := by
  refine ⟨List.mem_map.mpr ⟨row, settled.member, if_pos met⟩, fun other member same => ?_⟩
  obtain ⟨before, there, rfl⟩ := List.mem_map.mp member
  have equal : before = row := by
    refine settled.only before there ?_
    split at same
    · rwa [keeps, keeps] at same
    · rwa [keeps] at same
  rw [equal, if_pos met]

end BrainMate.Storage
