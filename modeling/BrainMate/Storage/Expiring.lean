import Mathlib.Logic.Function.Basic

namespace BrainMate.Storage

structure Expiring.Entry (Value : Type) where
  value : Value
  /-- `none` for an entry that is kept. -/
  deadline : Option Nat
  deriving DecidableEq, Repr

abbrev Expiring (Key Value : Type) := Key → Option (Expiring.Entry Value)

namespace Expiring

variable {Key Value : Type} [DecidableEq Key]

def Entry.alive (entry : Entry Value) (clock : Nat) : Bool :=
  entry.deadline.all fun deadline => decide (clock < deadline)

def empty : Expiring Key Value := fun _ => none

/-- What is alive under a key. -/
def live (store : Expiring Key Value) (clock : Nat) (key : Key) : Option (Entry Value) :=
  (store key).filter fun entry => entry.alive clock

def put (store : Expiring Key Value) (key : Key) (entry : Entry Value) : Expiring Key Value :=
  Function.update store key (some entry)

def drop (store : Expiring Key Value) (key : Key) : Expiring Key Value :=
  Function.update store key none

/-- Drop the entry of a key if it is past its deadline. -/
def prune (store : Expiring Key Value) (clock : Nat) (key : Key) : Expiring Key Value :=
  if (store key).any fun entry => !entry.alive clock then store.drop key else store

/-- The stores hold the same at a time. -/
def Agree (clock : Nat) (first second : Expiring Key Value) : Prop :=
  ∀ key, first.live clock key = second.live clock key

variable {store first second : Expiring Key Value} {clock later : Nat} {key other : Key}
variable {entry : Entry Value}

omit [DecidableEq Key] in
theorem Entry.alive_of_later (passed : clock ≤ later) (alive : entry.alive later = true) :
    entry.alive clock = true := by
  cases deadline : entry.deadline with
  | none => simp [Entry.alive, deadline]
  | some time =>
    simp only [Entry.alive, deadline, Option.all_some, decide_eq_true_eq] at alive ⊢
    exact Nat.lt_of_le_of_lt passed alive

theorem live_put_same (alive : entry.alive clock = true) :
    (store.put key entry).live clock key = some entry := by
  rw [live, put, Function.update_self, Option.filter_some, if_pos alive]

theorem live_put_other (different : other ≠ key) :
    (store.put key entry).live clock other = store.live clock other := by
  rw [live, put, Function.update_of_ne different, live]

@[simp] theorem put_put {last : Entry Value} :
    (store.put key entry).put key last = store.put key last :=
  Function.update_idem _ _ _

@[simp] theorem live_drop_same : (store.drop key).live clock key = none := by
  rw [live, drop, Function.update_self, Option.filter_none]

theorem live_drop_other (different : other ≠ key) :
    (store.drop key).live clock other = store.live clock other := by
  rw [live, drop, Function.update_of_ne different, live]

/-- After pruning the key holds what was alive under it. -/
theorem prune_same : (store.prune clock key) key = store.live clock key := by
  cases stored : store key with
  | none => simp [prune, live, stored]
  | some entry =>
    cases alive : entry.alive clock with
    | true => simp [prune, live, stored, alive, Option.filter_some]
    | false => simp [prune, live, stored, alive, drop, Option.filter_some]

private theorem live_prune : (store.prune clock key).live clock other = store.live clock other := by
  by_cases own : other = key
  · subst own
    rw [live, prune_same, live, Option.filter_filter]
    simp
  · unfold prune
    split
    · exact live_drop_other own
    · rfl

namespace Agree

omit [DecidableEq Key] in
theorem refl (clock : Nat) (store : Expiring Key Value) : Agree clock store store := fun _ => rfl

omit [DecidableEq Key] in
/-- Stores that agree go on agreeing while time passes. -/
theorem pass (agree : Agree clock first second) (passed : clock ≤ later) :
    Agree later first second := by
  intro key
  have narrow (store : Expiring Key Value) :
      store.live later key = (store.live clock key).filter fun entry => entry.alive later := by
    rw [live, live, Option.filter_filter]
    congr 1
    funext entry
    cases alive : entry.alive later with
    | false => exact (Bool.and_false _).symm
    | true => rw [Entry.alive_of_later passed alive]; rfl
  rw [narrow first, narrow second, agree key]

theorem put (agree : Agree clock first second) (key : Key) (entry : Entry Value) :
    Agree clock (first.put key entry) (second.put key entry) := by
  intro other
  by_cases own : other = key
  · subst own
    simp only [live, Expiring.put, Function.update_self]
  · rw [live_put_other own, live_put_other own]
    exact agree other

theorem drop (agree : Agree clock first second) (key : Key) :
    Agree clock (first.drop key) (second.drop key) := by
  intro other
  by_cases own : other = key
  · subst own
    rw [live_drop_same, live_drop_same]
  · rw [live_drop_other own, live_drop_other own]
    exact agree other

theorem prune (agree : Agree clock first second) (key : Key) :
    Agree clock (first.prune clock key) second := by
  intro other
  rw [live_prune]
  exact agree other

end Agree

end Expiring

end BrainMate.Storage
