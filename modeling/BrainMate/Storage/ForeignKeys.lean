import Mathlib.Data.List.Basic
import Mathlib.Logic.Function.Basic

/-! Tables linked by foreign keys. A DELETE takes with it the rows that hang on the
deleted ones through keys with ON DELETE CASCADE, and is refused when a row that stays
refers to a deleted one. -/

namespace BrainMate.Storage

inductive OnDelete where
  | cascade
  | noAction
  deriving DecidableEq, Repr

/-- The foreign keys of a set of tables. A table refers to tables of lower rank, so that
cascades end. -/
structure Schema (Table ForeignKey : Type) where
  keys : List ForeignKey
  complete : ∀ key, key ∈ keys
  source : ForeignKey → Table
  target : ForeignKey → Table
  onDelete : ForeignKey → OnDelete
  rank : Table → Nat
  descends : ∀ key, rank (target key) < rank (source key)

/-- A row with its primary key, its references and its other columns. -/
structure Record (ForeignKey Id Data : Type) where
  id : Id
  ref : ForeignKey → Option Id
  data : Data

/-- The rows of each table. -/
abbrev Database (Table ForeignKey Id Data : Type) : Type :=
  Table → List (Record ForeignKey Id Data)

namespace Schema

variable {Table ForeignKey Id Data : Type} [DecidableEq Table] [DecidableEq Id]
variable (schema : Schema Table ForeignKey) (database : Database Table ForeignKey Id Data)

/-- Primary keys are unique, and every reference leads to a row. -/
structure Integrity : Prop where
  unique : ∀ table, ((database table).map Record.id).Nodup
  resolves : ∀ key, ∀ row ∈ database (schema.source key), ∀ id, row.ref key = some id →
    ∃ parent ∈ database (schema.target key), parent.id = id

/-- The row is one of the roots, or refers by a cascading key to a row that hangs on them. -/
inductive Hangs (roots : Table → Record ForeignKey Id Data → Bool) :
    Table → Record ForeignKey Id Data → Prop where
  | root {table : Table} {row : Record ForeignKey Id Data} (member : row ∈ database table)
      (isRoot : roots table row = true) : Hangs roots table row
  | along (key : ForeignKey) {row parent : Record ForeignKey Id Data}
      (cascades : schema.onDelete key = .cascade) (member : row ∈ database (schema.source key))
      (refers : row.ref key = some parent.id) (above : Hangs roots (schema.target key) parent) :
      Hangs roots (schema.source key) row

/-- Follow the cascading keys upwards, at most so many of them. -/
def hangsWithin (roots : Table → Record ForeignKey Id Data → Bool) :
    Nat → Table → Record ForeignKey Id Data → Bool
  | 0, table, row => roots table row
  | steps + 1, table, row =>
    roots table row || schema.keys.any fun key =>
      decide (schema.source key = table) && decide (schema.onDelete key = .cascade) &&
        (database (schema.target key)).any fun parent =>
          decide (row.ref key = some parent.id) &&
            hangsWithin roots steps (schema.target key) parent

/-- The rows a DELETE of the roots takes with it. -/
def gone (roots : Table → Record ForeignKey Id Data → Bool) (table : Table)
    (row : Record ForeignKey Id Data) : Bool :=
  schema.hangsWithin database roots (schema.rank table) table row

/-- A row that stays refers to one that goes by a key without an action. -/
def blocked (roots : Table → Record ForeignKey Id Data → Bool) : Bool :=
  schema.keys.any fun key =>
    decide (schema.onDelete key = .noAction) &&
      (database (schema.source key)).any fun row =>
        !schema.gone database roots (schema.source key) row &&
          (database (schema.target key)).any fun parent =>
            decide (row.ref key = some parent.id) &&
              schema.gone database roots (schema.target key) parent

/-- The rows of one table that meet a condition. -/
def rootsOf (table : Table) (condition : Record ForeignKey Id Data → Bool) (other : Table)
    (row : Record ForeignKey Id Data) : Bool :=
  decide (other = table) && condition row

/-- `DELETE FROM table WHERE condition`; `none` is a foreign-key violation. -/
def deleteWhere (table : Table) (condition : Record ForeignKey Id Data → Bool) :
    Option (Database Table ForeignKey Id Data) :=
  if schema.blocked database (rootsOf table condition) then none
  else some fun other =>
    (database other).filter fun row => !schema.gone database (rootsOf table condition) other row

variable {schema database}
variable {roots : Table → Record ForeignKey Id Data → Bool} {table : Table}
variable {row : Record ForeignKey Id Data}

omit [DecidableEq Table] [DecidableEq Id] in
theorem Hangs.member (hangs : schema.Hangs database roots table row) : row ∈ database table := by
  cases hangs with
  | root member isRoot => exact member
  | along key cascades member refers above => exact member

private theorem hangs_of_within {steps : Nat} (member : row ∈ database table)
    (within : schema.hangsWithin database roots steps table row = true) :
    schema.Hangs database roots table row := by
  induction steps generalizing table row with
  | zero => exact .root member within
  | succ steps ih =>
    simp only [hangsWithin, Bool.or_eq_true, List.any_eq_true, Bool.and_eq_true,
      decide_eq_true_eq] at within
    rcases within with isRoot | ⟨key, _, ⟨rfl, cascades⟩, parent, above, refers, hangs⟩
    · exact .root member isRoot
    · exact .along key cascades member refers (ih above hangs)

private theorem within_of_hangs (hangs : schema.Hangs database roots table row) {steps : Nat}
    (enough : schema.rank table ≤ steps) :
    schema.hangsWithin database roots steps table row = true := by
  induction hangs generalizing steps with
  | root member isRoot =>
    cases steps with
    | zero => exact isRoot
    | succ steps => simp [hangsWithin, isRoot]
  | along key cascades member refers above ih =>
    have lower := schema.descends key
    cases steps with
    | zero => omega
    | succ steps =>
      simp only [hangsWithin, Bool.or_eq_true, List.any_eq_true, Bool.and_eq_true,
        decide_eq_true_eq]
      exact .inr ⟨key, schema.complete key, ⟨rfl, cascades⟩, _, above.member, refers,
        ih (by omega)⟩

/-- What a DELETE takes with it is what hangs on the rows it selects. -/
theorem gone_iff (member : row ∈ database table) :
    schema.gone database roots table row = true ↔ schema.Hangs database roots table row :=
  ⟨hangs_of_within member, fun hangs => within_of_hangs hangs (Nat.le_refl _)⟩

omit [DecidableEq Table] [DecidableEq Id] in
/-- Rows taken out of tables nothing refers to leave what hangs on the roots. -/
theorem hangs_restricted {smaller : Database Table ForeignKey Id Data}
    (within : ∀ table, smaller table ⊆ database table)
    (targets : ∀ key, smaller (schema.target key) = database (schema.target key)) :
    schema.Hangs smaller roots table row ↔
      row ∈ smaller table ∧ schema.Hangs database roots table row := by
  constructor
  · intro hangs
    refine ⟨hangs.member, ?_⟩
    induction hangs with
    | root member isRoot => exact .root (within _ member) isRoot
    | along key cascades member refers above ih => exact .along key cascades (within _ member) refers ih
  · rintro ⟨member, hangs⟩
    induction hangs with
    | root _ isRoot => exact .root member isRoot
    | along key cascades _ refers above ih =>
      exact .along key cascades member refers (ih (targets key ▸ above.member))

/-- The DELETE succeeds unless a row that stays refers to one that goes. -/
theorem blocked_eq_false_iff :
    schema.blocked database roots = false ↔
      ∀ key, schema.onDelete key = .noAction → ∀ row ∈ database (schema.source key),
        ∀ parent ∈ database (schema.target key), row.ref key = some parent.id →
          schema.Hangs database roots (schema.target key) parent →
            schema.Hangs database roots (schema.source key) row := by
  rw [← Bool.not_eq_true, blocked]
  simp only [List.any_eq_true, Bool.and_eq_true, decide_eq_true_eq, Bool.not_eq_true',
    not_exists, not_and, ← Bool.not_eq_true]
  constructor
  · intro free key restricts row member parent above refers hangs
    by_contra stays
    exact free key (schema.complete key) restricts row member
      (fun goes => stays ((gone_iff member).mp goes)) parent above refers
      ((gone_iff above).mpr hangs)
  · intro free key _ restricts row member stays parent above refers goes
    exact stays ((gone_iff member).mpr
      (free key restricts row member parent above refers ((gone_iff above).mp goes)))

/-- Deleting from a table nothing refers to changes that table alone. -/
theorem deleteWhere_leaf {condition : Record ForeignKey Id Data → Bool}
    (leaf : ∀ key, schema.target key ≠ table) :
    schema.deleteWhere database table condition =
      some (Function.update database table ((database table).filter fun row => !condition row)) := by
  have only {other : Table} {row : Record ForeignKey Id Data} (member : row ∈ database other) :
      schema.Hangs database (rootsOf table condition) other row ↔
        other = table ∧ condition row = true := by
    constructor
    · intro hangs
      induction hangs with
      | root _ isRoot => simpa [rootsOf] using isRoot
      | along key _ _ _ above ih => exact absurd (ih above.member).1 (leaf key)
    · rintro ⟨rfl, selected⟩
      exact .root member (by simp [rootsOf, selected])
  have free : schema.blocked database (rootsOf table condition) = false := by
    refine blocked_eq_false_iff.mpr fun key _ row _ parent above _ hangs => ?_
    exact absurd ((only above).mp hangs).1 (leaf key)
  rw [deleteWhere, free]
  simp only [Bool.false_eq_true, ↓reduceIte, Option.some.injEq]
  funext other
  by_cases same : other = table
  · subst same
    rw [Function.update_self]
    refine List.filter_congr fun row member => ?_
    have equal : schema.gone database (rootsOf other condition) other row = condition row := by
      rw [Bool.eq_iff_iff, gone_iff member, only member]
      simp
    rw [equal]
  · rw [Function.update_of_ne same]
    refine List.filter_eq_self.mpr fun row member => ?_
    rw [Bool.not_eq_true', ← Bool.not_eq_true, gone_iff member, only member]
    exact fun impossible => same impossible.1

/-- One DELETE after another from tables nothing refers to. -/
theorem deleteEach_leaves (schema : Schema Table ForeignKey)
    (condition : Record ForeignKey Id Data → Bool) (tables : List Table)
    (leaves : ∀ table ∈ tables, ∀ key, schema.target key ≠ table)
    (database : Database Table ForeignKey Id Data) :
    tables.foldlM (fun database table => schema.deleteWhere database table condition) database =
      some fun table =>
        if table ∈ tables then (database table).filter fun row => !condition row
        else database table := by
  induction tables generalizing database with
  | nil => rfl
  | cons first rest ih =>
    rw [List.foldlM_cons, deleteWhere_leaf (leaves first (.head _))]
    refine (ih (fun table later => leaves table (.tail _ later)) _).trans ?_
    refine congrArg some (funext fun table => ?_)
    by_cases same : table = first
    · subst same
      simp [List.filter_filter]
    · simp [same]

end Schema

end BrainMate.Storage
