import BrainMate.Interleaving.Program

namespace BrainMate.Interleaving.Program

variable {Command : Type} {Reply : Command → Type} {World α β ε : Type}
variable {exec : (command : Command) → World → Reply command × World}
variable {acknowledged : (command : Command) → Reply command → Bool}
variable {world last : World} {value : α}

variable (exec acknowledged) in
def Completes : Program Command Reply α → World → α → World → Prop
  | .done result, world, value, last => value = result ∧ last = world
  | .call command next, world, value, last =>
    acknowledged command (exec command world).1 = true ∧
      Completes (next (exec command world).1) (exec command world).2 value last

@[simp] theorem completes_done {result : α} :
    (Program.done result : Program Command Reply α).Completes exec acknowledged world value last ↔
      value = result ∧ last = world := .rfl

theorem completes_bind {program : Program Command Reply α}
    {next : α → Program Command Reply β} {result : β} :
    (program >>= next).Completes exec acknowledged world result last ↔
      ∃ value middle, program.Completes exec acknowledged world value middle ∧
        (next value).Completes exec acknowledged middle result last := by
  induction program generalizing world with
  | done value =>
    constructor
    · exact fun continues => ⟨value, world, ⟨rfl, rfl⟩, continues⟩
    · rintro ⟨_, _, ⟨rfl, rfl⟩, continues⟩
      exact continues
  | call command rest ih =>
    constructor
    · rintro ⟨answered, continues⟩
      obtain ⟨value, middle, first, second⟩ := (ih _).mp continues
      exact ⟨value, middle, ⟨answered, first⟩, second⟩
    · rintro ⟨value, middle, ⟨answered, first⟩, second⟩
      exact ⟨answered, (ih _).mpr ⟨value, middle, first, second⟩⟩

/-- What a procedure completes with is determined. -/
theorem Completes.unique {program : Program Command Reply α} {other : α} {final : World}
    (first : program.Completes exec acknowledged world value last)
    (second : program.Completes exec acknowledged world other final) :
    value = other ∧ last = final := by
  induction program generalizing world with
  | done result => exact ⟨first.1.trans second.1.symm, first.2.trans second.2.symm⟩
  | call command next ih => exact ih _ first.2 second.2

/-- An error of the first part is passed on. -/
theorem completes_andThen {program : Program Command Reply (Except ε Unit)}
    {next : Except ε Unit → Program Command Reply (Except β Unit)}
    (stops : ∀ error middle, ¬ (next (.error error)).Completes exec acknowledged middle (.ok ()) last) :
    (program >>= next).Completes exec acknowledged world (.ok ()) last ↔
      ∃ middle, program.Completes exec acknowledged world (.ok ()) middle ∧
        (next (.ok ())).Completes exec acknowledged middle (.ok ()) last := by
  rw [completes_bind]
  constructor
  · rintro ⟨error | _, middle, first, second⟩
    · exact absurd second (stops error middle)
    · exact ⟨middle, first, second⟩
  · rintro ⟨middle, first, second⟩
    exact ⟨.ok (), middle, first, second⟩

theorem completes_mapError {program : Program Command Reply (Except ε Unit)} {describe : ε → β} :
    (program >>= fun answer => pure (answer.mapError describe)).Completes exec acknowledged world
      (.ok ()) last ↔ program.Completes exec acknowledged world (.ok ()) last := by
  have failed (error : ε) :
      (Except.error error : Except ε Unit).mapError describe = .error (describe error) := rfl
  have passed : (Except.ok () : Except ε Unit).mapError describe = .ok () := rfl
  rw [completes_andThen fun error middle => by simp [failed]]
  simp [passed]

end BrainMate.Interleaving.Program
