import BrainMate.Interleaving.System

namespace BrainMate.Interleaving

/-- Each entry of the log is accounted for by those before it. -/
def Justified {Entry : Type} (justifies : List Entry → Entry → Prop) (log : List Entry) : Prop :=
  ∀ before entry after, log = before ++ entry :: after → justifies before entry

namespace Justified

variable {Entry : Type} {justifies : List Entry → Entry → Prop} {log : List Entry} {entry : Entry}

theorem nil : Justified justifies [] := by
  intro before entry after split
  cases before with
  | nil => cases split
  | cons => cases split

theorem snoc (justified : Justified justifies log) (next : justifies log entry) :
    Justified justifies (log ++ [entry]) := by
  intro before other after split
  rcases List.eq_nil_or_concat after with rfl | ⟨most, final, rfl⟩
  · obtain ⟨rfl, same⟩ := List.append_inj' split rfl
    cases same
    exact next
  · have longer : log ++ [entry] = (before ++ other :: most) ++ [final] := by simp [split]
    obtain ⟨earlier, _⟩ := List.append_inj' longer rfl
    exact justified before other most earlier

theorem append_toList (justified : Justified justifies log) {noted : Option Entry}
    (next : ∀ entry ∈ noted, justifies log entry) :
    Justified justifies (log ++ noted.toList) := by
  cases noted with
  | none => simpa using justified
  | some entry => exact justified.snoc (next entry rfl)

/-- The entry at an index is accounted for by those at smaller ones. -/
theorem at_index (justified : Justified justifies log) {index : Nat}
    (present : log[index]? = some entry) : justifies (log.take index) entry := by
  obtain ⟨within, same⟩ := List.getElem?_eq_some_iff.mp present
  apply justified (log.take index) entry (log.drop (index + 1))
  rw [← same, List.getElem_cons_drop, List.take_append_drop]

end Justified

namespace System

variable {Command : Type} {Reply : Command → Type} {system : System Command Reply} {Entry : Type}

/-- What is noted of the steps of a run. -/
def Config.history (note : system.Config → system.Action → Option Entry) (config : system.Config) :
    List system.Action → List Entry
  | [] => []
  | action :: later =>
    match config.step? action with
    | some next => (note config action).toList ++ next.history note later
    | none => []

variable {permitted : system.Config → system.Action → Prop}
variable {config last : system.Config} {actions : List system.Action}
variable {note : system.Config → system.Action → Option Entry}

/-- What each step keeps of the configuration and the history so far holds after a run. -/
theorem Run.history_invariant (holds : List Entry → system.Config → Prop)
    (run : Run permitted config actions last)
    (kept : ∀ log config action next, permitted config action → config.step? action = some next →
      holds log config → holds (log ++ (note config action).toList) next)
    {log : List Entry} (initially : holds log config) :
    holds (log ++ config.history note actions) last := by
  induction run generalizing log with
  | refl =>
    rw [Config.history, List.append_nil]
    exact initially
  | step allowed moves _ ih =>
    rw [Config.history, moves, ← List.append_assoc]
    exact ih (kept _ _ _ _ allowed moves initially)

end System

end BrainMate.Interleaving
