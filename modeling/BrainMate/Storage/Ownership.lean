import Mathlib.Data.List.Basic

namespace BrainMate.Storage

variable {Row User : Type} [DecidableEq User]

def ownedBy (owner : Row → User) (user : User) (rows : List Row) : List Row :=
  rows.filter fun row => owner row = user

/-- Only rows of the user meet the condition. -/
def Within (owner : Row → User) (user : User) (condition : Row → Bool) : Prop :=
  ∀ row, condition row = true → owner row = user

/-- `UPDATE ... SET ... WHERE` -/
def updateRows (condition : Row → Bool) (assign : Row → Row) (rows : List Row) : List Row :=
  rows.map fun row => if condition row then assign row else row

/-- `DELETE ... WHERE` -/
def deleteRows (condition : Row → Bool) (rows : List Row) : List Row :=
  rows.filter fun row => !condition row

variable {owner : Row → User} {user other : User} {condition : Row → Bool} {assign : Row → Row}

/-- A user's statement finds what it would find among the user's rows alone. -/
theorem filter_ownedBy (within : Within owner user condition) (rows : List Row) :
    (ownedBy owner user rows).filter condition = rows.filter condition := by
  rw [ownedBy, List.filter_filter]
  refine List.filter_congr fun row _ => ?_
  cases met : condition row with
  | false => rfl
  | true => simp [within row met]

theorem any_ownedBy (within : Within owner user condition) (rows : List Row) :
    (ownedBy owner user rows).any condition = rows.any condition := by
  have found (rows : List Row) : rows.any condition = !(rows.filter condition).isEmpty := by
    rw [Bool.eq_iff_iff]
    simp
  rw [found, found, filter_ownedBy within]

theorem ownedBy_updateRows (keeps : ∀ row, owner (assign row) = owner row) (rows : List Row) :
    ownedBy owner user (updateRows condition assign rows) =
      updateRows condition assign (ownedBy owner user rows) := by
  have same (row : Row) : owner (if condition row then assign row else row) = owner row := by
    split
    · exact keeps row
    · rfl
  rw [updateRows, ownedBy, List.filter_map]
  refine congrArg (List.map _) (List.filter_congr fun row _ => ?_)
  simp only [Function.comp_apply, same]

/-- Statements of others change none of a user's rows. -/
theorem ownedBy_updateRows_other (within : Within owner other condition) (apart : other ≠ user)
    (keeps : ∀ row, owner (assign row) = owner row) (rows : List Row) :
    ownedBy owner user (updateRows condition assign rows) = ownedBy owner user rows := by
  rw [ownedBy_updateRows keeps, updateRows]
  conv_rhs => rw [← List.map_id (ownedBy owner user rows)]
  refine List.map_congr_left fun row member => if_neg fun met => ?_
  have mine : owner row = user := by simpa using (List.mem_filter.mp member).2
  exact apart ((within row met).symm.trans mine)

theorem ownedBy_deleteRows (rows : List Row) :
    ownedBy owner user (deleteRows condition rows) =
      deleteRows condition (ownedBy owner user rows) := by
  rw [ownedBy, deleteRows, ownedBy, deleteRows, List.filter_comm]

theorem ownedBy_deleteRows_other (within : Within owner other condition) (apart : other ≠ user)
    (rows : List Row) :
    ownedBy owner user (deleteRows condition rows) = ownedBy owner user rows := by
  rw [ownedBy_deleteRows, deleteRows]
  refine List.filter_eq_self.mpr fun row member => ?_
  have mine : owner row = user := by simpa using (List.mem_filter.mp member).2
  cases met : condition row with
  | false => rfl
  | true => exact absurd ((within row met).symm.trans mine) apart

theorem ownedBy_append (first second : List Row) : ownedBy owner user (first ++ second) =
    ownedBy owner user first ++ ownedBy owner user second := List.filter_append _ _

theorem ownedBy_single_self {row : Row} (mine : owner row = user) :
    ownedBy owner user [row] = [row] := by simp [ownedBy, mine]

theorem ownedBy_single_other {row : Row} (apart : owner row ≠ user) :
    ownedBy owner user [row] = [] := by simp [ownedBy, apart]

end BrainMate.Storage
