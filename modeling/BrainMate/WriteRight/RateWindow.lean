import BrainMate.Storage.Expiring
import BrainMate.Storage.TimeWindows

/-! `checkRateLimit`: a counter that is counted up by one command and given its time to live by
another. Redis is there; the times are its milliseconds. -/

namespace BrainMate.WriteRight.RateWindow

open Storage Storage.TimeWindows

/-- What stands under the key of a user. -/
abbrev Counter := Expiring.Entry Nat

/-- 60 seconds. -/
def ttlMs : Nat := 60000

/-- `INCR`: a key that is not there is made, without a deadline. -/
def incr (counter : Option Counter) (now : Nat) : Counter :=
  match counter.filter fun counter => counter.alive now with
  | none => { value := 1, deadline := none }
  | some counter => { counter with value := counter.value + 1 }

/-- `EXPIRE` -/
def expire (counter : Option Counter) (now : Nat) : Option Counter :=
  (counter.filter fun counter => counter.alive now).map fun counter =>
    { counter with deadline := some (now + ttlMs) }

structure Checked where
  allowed : Bool
  remaining : Nat

/-- What `checkRateLimit` returns for its count. -/
def checked (maxPerMinute count : Nat) : Checked where
  allowed := count ≤ maxPerMinute
  remaining := maxPerMinute - count

structure State where
  counter : Option Counter
  /-- The time of the call that counted to one and has its `EXPIRE` to send. -/
  owing : Option Nat
  /-- The calls that the counter allowed, the latest first. -/
  current : List Nat
  /-- The calls that the counters before it allowed. -/
  earlier : List Nat

def State.fresh : State where
  counter := none
  owing := none
  current := []
  earlier := []

namespace State

/-- The calls that were allowed. -/
def times (state : State) : List Nat := state.current ++ state.earlier

/-- The calls that the counter which counts to this has allowed, -/
def own (state : State) (count : Nat) : List Nat := if count = 1 then [] else state.current

/-- and those of the counters before it. -/
def others (state : State) (count : Nat) : List Nat :=
  if count = 1 then state.times else state.earlier

private theorem own_append_others (state : State) (count : Nat) :
    state.own count ++ state.others count = state.times := by
  unfold own others
  split
  · rfl
  · rfl

end State

inductive Event where
  | incr
  | expire
  | fails

def step (maxPerMinute : Nat) (state : State) (now : Nat) : Event → Option State
  | .incr =>
    let counter := incr state.counter now
    let count := counter.value
    let admitted := if (checked maxPerMinute count).allowed then [now] else []
    some {
      counter := some counter
      owing := if count = 1 then some now else state.owing
      current := admitted ++ state.own count
      earlier := state.others count }
  | .expire => state.owing.map fun _ =>
    { state with counter := expire state.counter now, owing := none }
  -- the call ends with an error, between its commands or in the second
  | .fails => state.owing.map fun time =>
    { state with owing := none, current := state.current.erase time }

/-- A step, with the state before it. -/
structure Step where
  state : State
  now : Nat
  event : Event

/-- The steps of a run, the last first, the time and the state after them. -/
inductive Run (maxPerMinute : Nat) (first : State) (since : Nat) :
    List Step → Nat → State → Prop where
  | start : Run maxPerMinute first since [] since first
  | step {history : List Step} {clock now : Nat} {state next : State} {event : Event} :
    Run maxPerMinute first since history clock state → clock ≤ now →
      step maxPerMinute state now event = some next →
      Run maxPerMinute first since (⟨state, now, event⟩ :: history) now next

/-- No minute has more calls than are allowed, and the counter has a deadline or is about to get
one. -/
structure Kept (maxPerMinute : Nat) (state : State) : Prop where
  windows : AtMost ttlMs maxPerMinute state.times
  ttl : ∀ counter, state.counter = some counter → state.owing = none → counter.deadline.isSome

/-- Between the commands nothing fails, and a call that the counter allows still has room beside
those that earlier counters allowed within the minute. -/
def Meets (maxPerMinute : Nat) (step : Step) : Prop :=
  match step.event with
  | .incr =>
    let count := (incr step.state.counter step.now).value
    count ≤ maxPerMinute →
      recent ttlMs step.now (step.state.others count) + count ≤ maxPerMinute
  | .expire => True
  | .fails => False

structure Sound (maxPerMinute clock : Nat) (state : State) : Prop where
  sorted : state.times.Pairwise (· ≥ ·)
  past : ∀ time ∈ state.times, time ≤ clock
  positive : ∀ counter, state.counter = some counter → 0 < counter.value
  counted : ∀ counter, state.counter = some counter →
    state.current.length = min counter.value maxPerMinute
  waits : ∀ counter, state.counter = some counter →
    (counter.deadline = none ↔ state.owing.isSome = true)
  owed : state.owing.isSome = true → state.counter.isSome = true

variable {maxPerMinute clock now : Nat} {state next first : State}

private theorem sound_fresh : Sound maxPerMinute clock State.fresh where
  sorted := .nil
  past := nofun
  positive := nofun
  counted := nofun
  waits := nofun
  owed := nofun

theorem incr_cases (counter : Option Counter) (now : Nat) :
    incr counter now = { value := 1, deadline := none } ∨
      ∃ alive, counter = some alive ∧ incr counter now = { alive with value := alive.value + 1 } := by
  unfold incr
  split
  · exact .inl rfl
  · rename_i alive found
    exact .inr ⟨alive, (Option.filter_eq_some_iff.mp found).1, rfl⟩

private theorem incr_positive (counter : Option Counter) (now : Nat) :
    0 < (incr counter now).value := by
  obtain made | ⟨alive, _, counted⟩ := incr_cases counter now
  · rw [made]
    exact Nat.one_pos
  · rw [counted]
    exact Nat.succ_pos _

/-- The calls of the counter, where it allows one more. -/
theorem Sound.length_own (sound : Sound maxPerMinute clock state)
    (allowed : (incr state.counter now).value ≤ maxPerMinute) :
    (state.own (incr state.counter now).value).length + 1 = (incr state.counter now).value := by
  obtain made | ⟨alive, found, counted⟩ := incr_cases state.counter now
  · rw [made]
    rfl
  · have positive := sound.positive alive found
    have length := sound.counted alive found
    rw [counted] at allowed ⊢
    rw [State.own, if_neg (by dsimp only; omega), length]
    dsimp only at allowed ⊢
    omega

theorem Sound.length_own_refused (sound : Sound maxPerMinute clock state)
    (refused : maxPerMinute < (incr state.counter now).value) :
    (state.own (incr state.counter now).value).length = maxPerMinute := by
  obtain made | ⟨alive, found, counted⟩ := incr_cases state.counter now
  · rw [made] at refused ⊢
    exact (Nat.lt_one_iff.mp refused).symm
  · have positive := sound.positive alive found
    have length := sound.counted alive found
    rw [counted] at refused ⊢
    rw [State.own, if_neg (by dsimp only; omega), length]
    dsimp only at refused
    omega

private theorem admitted_eq (maxPerMinute count now : Nat) :
    (if (checked maxPerMinute count).allowed then [now] else []) =
      if count ≤ maxPerMinute then [now] else [] := by
  simp only [checked, decide_eq_true_eq]

private theorem times_incr (taken : step maxPerMinute state now .incr = some next) :
    next.times =
      (if (incr state.counter now).value ≤ maxPerMinute then [now] else []) ++ state.times := by
  obtain rfl := Option.some.inj taken
  rw [State.times, List.append_assoc, State.own_append_others, admitted_eq]

private theorem sound_incr (sound : Sound maxPerMinute clock state) (passed : clock ≤ now)
    (taken : step maxPerMinute state now .incr = some next) : Sound maxPerMinute now next := by
  have times := times_incr taken
  have past : ∀ time ∈ state.times, time ≤ now := fun time member =>
    (sound.past time member).trans passed
  obtain rfl := Option.some.inj taken
  constructor
  · rw [times]
    split
    · exact List.pairwise_cons.mpr ⟨past, sound.sorted⟩
    · exact sound.sorted
  · rw [times]
    intro time member
    obtain new | old := List.mem_append.mp member
    · split at new
      · exact (List.mem_singleton.mp new).le
      · cases new
    · exact past time old
  · intro counter found
    obtain rfl := Option.some.inj found
    exact incr_positive _ _
  · intro counter found
    obtain rfl := Option.some.inj found
    dsimp only
    rw [admitted_eq, List.length_append]
    by_cases allowed : (incr state.counter now).value ≤ maxPerMinute
    · rw [if_pos allowed, Nat.min_eq_left allowed, List.length_singleton, Nat.add_comm,
        sound.length_own allowed]
    · rw [if_neg allowed, sound.length_own_refused (Nat.not_le.mp allowed),
        Nat.min_eq_right (by omega), List.length_nil, Nat.zero_add]
  · intro counter found
    obtain rfl := Option.some.inj found
    obtain made | ⟨alive, kept, counted⟩ := incr_cases state.counter now
    · simp [made]
    · have positive := sound.positive alive kept
      rw [counted]
      dsimp only
      rw [if_neg (by omega)]
      exact sound.waits alive kept
  · intro _
    rfl

private theorem sound_expire (sound : Sound maxPerMinute clock state) (passed : clock ≤ now)
    (taken : step maxPerMinute state now .expire = some next) :
    Sound maxPerMinute now next ∧ next.times = state.times := by
  obtain ⟨time, owing, rfl⟩ := Option.map_eq_some_iff.mp taken
  have owes : state.owing.isSome = true := by rw [owing, Option.isSome_some]
  obtain ⟨counter, found⟩ := Option.isSome_iff_exists.mp (sound.owed owes)
  have undated := (sound.waits counter found).mpr owes
  have alive : counter.alive now = true := by simp [Expiring.Entry.alive, undated]
  have dated : expire state.counter now = some { counter with deadline := some (now + ttlMs) } := by
    rw [expire, found, Option.filter_some, if_pos alive, Option.map_some]
  refine ⟨?_, rfl⟩
  constructor
  · exact sound.sorted
  · exact fun time member => (sound.past time member).trans passed
  · intro other same
    obtain rfl := Option.some.inj (dated.symm.trans same)
    exact sound.positive counter found
  · intro other same
    obtain rfl := Option.some.inj (dated.symm.trans same)
    exact sound.counted counter found
  · intro other same
    obtain rfl := Option.some.inj (dated.symm.trans same)
    simp
  · rintro ⟨⟩

/-- A minute keeps its bound when the call that is allowed meets the condition. -/
theorem atMost_incr_iff (sound : Sound maxPerMinute clock state) (passed : clock ≤ now)
    (taken : step maxPerMinute state now .incr = some next) :
    AtMost ttlMs maxPerMinute next.times ↔
      AtMost ttlMs maxPerMinute state.times ∧ Meets maxPerMinute ⟨state, now, .incr⟩ := by
  rw [times_incr taken]
  by_cases allowed : (incr state.counter now).value ≤ maxPerMinute
  · have past : ∀ time ∈ state.times, time ≤ now := fun time member =>
      (sound.past time member).trans passed
    have length := sound.length_own allowed
    have same := state.own_append_others (incr state.counter now).value
    have counted : recent ttlMs now state.times + 1 =
        recent ttlMs now (now :: state.own (incr state.counter now).value ++
          state.others (incr state.counter now).value) := by
      rw [List.cons_append, same, recent, recent, List.countP_cons, if_pos (by simp [ttlMs])]
    have sorted : (now :: state.own (incr state.counter now).value ++
        state.others (incr state.counter now).value).Pairwise (· ≥ ·) := by
      rw [List.cons_append, same]
      exact List.pairwise_cons.mpr ⟨past, sound.sorted⟩
    rw [if_pos allowed, List.singleton_append, atMost_cons_iff (by decide) past, counted,
      recent_append_le_iff sorted (by rw [List.length_cons, length]; exact allowed),
      List.length_cons, length]
    exact and_congr_right fun _ => ⟨fun fits _ => fits, fun meets => meets allowed⟩
  · rw [if_neg allowed, List.nil_append]
    exact (and_iff_left fun fits => absurd fits allowed).symm

private theorem kept_of_sound (sound : Sound maxPerMinute clock state) :
    Kept maxPerMinute state ↔ AtMost ttlMs maxPerMinute state.times := by
  constructor
  · exact fun kept => kept.windows
  · intro windows
    refine ⟨windows, fun counter found settled => ?_⟩
    by_contra undated
    have owes := (sound.waits counter found).mp (Option.not_isSome_iff_eq_none.mp undated)
    rw [settled] at owes
    cases owes

private theorem not_kept_fails (sound : Sound maxPerMinute clock state)
    (taken : step maxPerMinute state now .fails = some next) : ¬ Kept maxPerMinute next := by
  intro kept
  obtain ⟨time, owing, rfl⟩ := Option.map_eq_some_iff.mp taken
  have owes : state.owing.isSome = true := by rw [owing, Option.isSome_some]
  obtain ⟨counter, found⟩ := Option.isSome_iff_exists.mp (sound.owed owes)
  have dated := kept.ttl counter found rfl
  rw [(sound.waits counter found).mpr owes] at dated
  cases dated

/-- In every state that was reached. -/
def AlwaysKept (maxPerMinute : Nat) (history : List Step) (state : State) : Prop :=
  (∀ step ∈ history, Kept maxPerMinute step.state) ∧ Kept maxPerMinute state

private theorem alwaysKept_cons {history : List Step} {event : Event} :
    AlwaysKept maxPerMinute (⟨state, now, event⟩ :: history) next ↔
      AlwaysKept maxPerMinute history state ∧ Kept maxPerMinute next := by
  simp only [AlwaysKept, List.forall_mem_cons]
  exact and_congr_left fun _ => and_comm

private theorem meets_cons {history : List Step} {event : Event} :
    (∀ step ∈ (⟨state, now, event⟩ :: history : List Step), Meets maxPerMinute step) ↔
      (∀ step ∈ history, Meets maxPerMinute step) ∧ Meets maxPerMinute ⟨state, now, event⟩ := by
  rw [List.forall_mem_cons, and_comm]

private theorem run_invariant {history : List Step}
    (run : Run maxPerMinute State.fresh 0 history clock state) :
    (AlwaysKept maxPerMinute history state ↔ ∀ step ∈ history, Meets maxPerMinute step) ∧
      (AlwaysKept maxPerMinute history state → Sound maxPerMinute clock state) := by
  induction run with
  | start =>
    have kept := (kept_of_sound (@sound_fresh maxPerMinute 0)).mpr atMost_nil
    exact ⟨iff_of_true ⟨nofun, kept⟩ nofun, fun _ => sound_fresh⟩
  | @step history clock now state next event _ passed taken ih =>
    obtain ⟨same, sound⟩ := ih
    rw [alwaysKept_cons, meets_cons, ← same]
    cases event with
    | incr =>
      refine ⟨and_congr_right fun kept => ?_, fun ⟨kept, _⟩ => sound_incr (sound kept) passed taken⟩
      rw [kept_of_sound (sound_incr (sound kept) passed taken),
        atMost_incr_iff (sound kept) passed taken]
      exact and_iff_right kept.2.windows
    | expire =>
      refine ⟨and_congr_right fun kept => ?_,
        fun ⟨kept, _⟩ => (sound_expire (sound kept) passed taken).1⟩
      obtain ⟨after, times⟩ := sound_expire (sound kept) passed taken
      rw [kept_of_sound after, times]
      exact iff_of_true kept.2.windows trivial
    | fails =>
      constructor
      · exact and_congr_right fun kept => iff_of_false (not_kept_fails (sound kept) taken) id
      · exact fun ⟨kept, last⟩ => absurd last (not_kept_fails (sound kept) taken)

/-- In a run the limit holds all the time if and only if every step of it meets the condition. -/
theorem checkRateLimit_kept_iff (maxPerMinute : Nat) (history : List Step) (clock : Nat)
    (state : State) (run : Run maxPerMinute State.fresh 0 history clock state) :
    AlwaysKept maxPerMinute history state ↔ ∀ step ∈ history, Meets maxPerMinute step :=
  (run_invariant run).1

/-- The second call comes at the end of a counter, the third and the fourth are counted by the
next one within the same minute: at most three at any time. -/
def straddled : State where
  counter := some { value := 2, deadline := some 120000 }
  owing := none
  current := [60500, 60000]
  earlier := [59000, 0]

theorem straddled_kept :
    ∃ history, Run 3 State.fresh 0 history 60500 straddled ∧ AlwaysKept 3 history straddled ∧
      inWindow ttlMs 59000 straddled.times = 3 := by
  have first := @Run.step 3 State.fresh 0 [] 0 0 _ _ .incr .start (Nat.le_refl 0) rfl
  have dated := @Run.step 3 State.fresh 0 _ 0 0 _ _ .expire first (Nat.le_refl 0) rfl
  have second := @Run.step 3 State.fresh 0 _ 0 59000 _ _ .incr dated (by decide) rfl
  have third := @Run.step 3 State.fresh 0 _ 59000 60000 _ _ .incr second (by decide) rfl
  have renewed := @Run.step 3 State.fresh 0 _ 60000 60000 _ _ .expire third (Nat.le_refl _) rfl
  have fourth := @Run.step 3 State.fresh 0 _ 60000 60500 _ _ .incr renewed (by decide) rfl
  refine ⟨_, fourth, (checkRateLimit_kept_iff 3 _ 60500 straddled fourth).mpr ?_, by decide⟩
  simp only [List.forall_mem_cons]
  refine ⟨?_, trivial, ?_, ?_, trivial, ?_, nofun⟩
  · exact fun _ => by decide
  · exact fun _ => by decide
  · exact fun _ => by decide
  · exact fun _ => by decide

/-- A full counter that no one will give a deadline. -/
structure Stuck (maxPerMinute : Nat) (state : State) : Prop where
  settled : state.owing = none
  full : ∃ counter, state.counter = some counter ∧ counter.deadline = none ∧
    0 < counter.value ∧ maxPerMinute ≤ counter.value

private theorem step_stuck (stuck : Stuck maxPerMinute state) {event : Event}
    (taken : step maxPerMinute state now event = some next) :
    Stuck maxPerMinute next ∧ next.times = state.times := by
  obtain ⟨settled, counter, found, undated, positive, full⟩ := stuck
  have alive : counter.alive now = true := by simp [Expiring.Entry.alive, undated]
  have counted : incr state.counter now = { counter with value := counter.value + 1 } := by
    rw [incr, found, Option.filter_some, if_pos alive]
  cases event with
  | incr =>
    refine ⟨?_, ?_⟩
    · obtain rfl := Option.some.inj taken
      rw [counted]
      constructor
      · exact (if_neg (by dsimp only; omega)).trans settled
      · exact ⟨_, rfl, undated, Nat.succ_pos _, Nat.le_succ_of_le full⟩
    · rw [times_incr taken, counted, if_neg (by dsimp only; omega), List.nil_append]
  | expire | fails =>
    rw [step, settled] at taken
    cases taken

/-- Its user is refused for ever. -/
theorem run_stuck {since : Nat} {history : List Step} (stuck : Stuck maxPerMinute first)
    (run : Run maxPerMinute first since history clock state) :
    Stuck maxPerMinute state ∧ state.times = first.times := by
  induction run with
  | start => exact ⟨stuck, rfl⟩
  | step _ _ taken ih =>
    obtain ⟨after, times⟩ := step_stuck ih.1 taken
    exact ⟨after, times.trans ih.2⟩

/-- The second call comes at the end of a minute, the third and the fourth right after it: three
calls in a millisecond, where two a minute are allowed. -/
def crowded : State where
  counter := some { value := 2, deadline := some 120000 }
  owing := none
  current := [60000, 60000]
  earlier := [59999, 0]

/-- One call, whose `EXPIRE` fails. -/
def forgotten : State where
  counter := some { value := 1, deadline := none }
  owing := none
  current := []
  earlier := []

theorem minute_exceeded :
    (∃ history, Run 2 State.fresh 0 history 60000 crowded ∧
      (∀ step ∈ history, step.event ≠ .fails) ∧ inWindow ttlMs 59999 crowded.times = 3) ∧
    ∃ history, Run 1 State.fresh 0 history 0 forgotten ∧
      ∀ later clock state, Run 1 forgotten 0 later clock state → state.times = [] := by
  constructor
  · have first := @Run.step 2 State.fresh 0 [] 0 0 _ _ .incr .start (Nat.le_refl 0) rfl
    have dated := @Run.step 2 State.fresh 0 _ 0 0 _ _ .expire first (Nat.le_refl 0) rfl
    have second := @Run.step 2 State.fresh 0 _ 0 59999 _ _ .incr dated (by decide) rfl
    have third := @Run.step 2 State.fresh 0 _ 59999 60000 _ _ .incr second (by decide) rfl
    have renewed := @Run.step 2 State.fresh 0 _ 60000 60000 _ _ .expire third (Nat.le_refl _) rfl
    have fourth := @Run.step 2 State.fresh 0 _ 60000 60000 _ _ .incr renewed (Nat.le_refl _) rfl
    refine ⟨_, fourth, ?_, ?_⟩
    · simp
    · decide
  · have counted := @Run.step 1 State.fresh 0 [] 0 0 _ _ .incr .start (Nat.le_refl 0) rfl
    have failed := @Run.step 1 State.fresh 0 _ 0 0 _ _ .fails counted (Nat.le_refl 0) rfl
    refine ⟨_, failed, ?_⟩
    intro later clock state run
    have stuck : Stuck 1 forgotten := ⟨rfl, _, rfl, rfl, by decide, by decide⟩
    exact (run_stuck stuck run).2

end BrainMate.WriteRight.RateWindow
