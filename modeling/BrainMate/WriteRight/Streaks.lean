import Mathlib.Data.List.Basic
import BrainMate.Storage.DayRuns

/-! The two writers of a streak row: the trigger `fn_update_writeright_streak` and the worker's
`_update_streak_and_achievements_sync`. A day is given by its number. -/

namespace BrainMate.WriteRight.Streak

open Storage

/-- A row of `writeright_streaks`, as far as the writers read and set it. -/
structure StreakRow where
  currentStreak : Int
  longestStreak : Int
  lastActivityDate : Option Int
  deriving DecidableEq, Repr

/-- `fn_update_writeright_streak`, on the row of the user; a comparison with NULL does not hold. -/
def fnUpdateWriterightStreak (vToday : Int) : Option StreakRow → StreakRow
  | none => ⟨1, 1, some vToday⟩
  | some vRow =>
    if vRow.lastActivityDate = some vToday then vRow
    else if vRow.lastActivityDate = some (vToday - 1) then
      { currentStreak := vRow.currentStreak + 1
        longestStreak := max vRow.longestStreak (vRow.currentStreak + 1)
        lastActivityDate := some vToday }
    else { vRow with currentStreak := 1, lastActivityDate := some vToday }

/-- The streak part of `_update_streak_and_achievements_sync`. The counts are columns without
NULL, so that `or 0` changes nothing. -/
def updateStreakSync (today : Int) : Option StreakRow → StreakRow
  | none => ⟨1, 1, some today⟩
  | some streakRow =>
    let previousDate := streakRow.lastActivityDate
    let currentStreak :=
      if previousDate = some today then streakRow.currentStreak
      else if previousDate.any fun previous => today - previous = 1 then
        streakRow.currentStreak + 1
      else 1
    { currentStreak
      longestStreak := max streakRow.longestStreak currentStreak
      lastActivityDate := some today }

inductive Writer where
  | trigger
  | worker
  deriving DecidableEq, Repr

def Writer.write : Writer → Int → Option StreakRow → StreakRow
  | .trigger => fnUpdateWriterightStreak
  | .worker => updateStreakSync

/-- The rows that either writer leaves, on any day, of a row that one of them has left; a user
without a row is where an account starts and where `DELETE` leaves it. -/
inductive Reachable : Option StreakRow → Prop
  | absent : Reachable none
  | written {row : Option StreakRow} (reached : Reachable row) (writer : Writer) (day : Int) :
    Reachable (some (writer.write day row))

/-- What every row that has been written has. -/
structure Sound (row : StreakRow) : Prop where
  current_pos : 1 ≤ row.currentStreak
  current_le : row.currentStreak ≤ row.longestStreak

variable {row : Option StreakRow} {streakRow : StreakRow} {day : Int}

private theorem sync_today (last : streakRow.lastActivityDate = some day) :
    updateStreakSync day (some streakRow) =
      { streakRow with longestStreak := max streakRow.longestStreak streakRow.currentStreak } := by
  simp [updateStreakSync, last]

private theorem sync_yesterday (last : streakRow.lastActivityDate = some (day - 1)) :
    updateStreakSync day (some streakRow) =
      ⟨streakRow.currentStreak + 1, max streakRow.longestStreak (streakRow.currentStreak + 1),
        some day⟩ := by
  have today : day - 1 ≠ day := by omega
  have one : day - (day - 1) = 1 := by omega
  simp [updateStreakSync, last, today, one]

private theorem sync_broken (today : streakRow.lastActivityDate ≠ some day)
    (yesterday : streakRow.lastActivityDate ≠ some (day - 1)) :
    updateStreakSync day (some streakRow) = ⟨1, max streakRow.longestStreak 1, some day⟩ := by
  have apart : (streakRow.lastActivityDate.any fun previous => day - previous = 1) = false := by
    cases last : streakRow.lastActivityDate with
    | none => rfl
    | some previous =>
      rw [last] at yesterday
      have different : ¬ day - previous = 1 := fun one => yesterday (congrArg some (by omega))
      simpa using different
  simp [updateStreakSync, today, apart]

private theorem write_eq (sound : ∀ streakRow ∈ row, Sound streakRow) (day : Int) :
    fnUpdateWriterightStreak day row = updateStreakSync day row := by
  cases row with
  | none => rfl
  | some streakRow =>
    obtain ⟨positive, le⟩ := sound _ rfl
    rw [fnUpdateWriterightStreak]
    by_cases today : streakRow.lastActivityDate = some day
    · rw [if_pos today, sync_today today, max_eq_left le]
    · rw [if_neg today]
      by_cases yesterday : streakRow.lastActivityDate = some (day - 1)
      · rw [if_pos yesterday, sync_yesterday yesterday]
      · rw [if_neg yesterday, sync_broken today yesterday, max_eq_left (positive.trans le)]

private theorem sound_write (sound : ∀ streakRow ∈ row, Sound streakRow) (day : Int) :
    Sound (updateStreakSync day row) := by
  cases row with
  | none => exact ⟨Int.le_refl 1, Int.le_refl 1⟩
  | some streakRow =>
    have positive := (sound _ rfl).current_pos
    by_cases today : streakRow.lastActivityDate = some day
    · rw [sync_today today]
      exact ⟨positive, le_max_right _ _⟩
    · by_cases yesterday : streakRow.lastActivityDate = some (day - 1)
      · rw [sync_yesterday yesterday]
        exact ⟨by dsimp only; omega, le_max_right _ _⟩
      · rw [sync_broken today yesterday]
        exact ⟨Int.le_refl 1, le_max_right _ _⟩

theorem writer_write (sound : ∀ streakRow ∈ row, Sound streakRow) (writer : Writer) (day : Int) :
    writer.write day row = updateStreakSync day row := by
  cases writer with
  | trigger => exact write_eq sound day
  | worker => rfl

private theorem sound_of_reachable (reached : Reachable row) :
    ∀ streakRow ∈ row, Sound streakRow := by
  induction reached with
  | absent => exact fun _ none_ => nomatch none_
  | written reached writer day ih =>
    intro streakRow same
    obtain rfl := Option.mem_some_iff.mp same
    rw [writer_write ih]
    exact sound_write ih day

private theorem updateStreakSync_twice (day : Int) :
    updateStreakSync day (some (updateStreakSync day row)) = updateStreakSync day row := by
  cases row with
  | none => simp [updateStreakSync]
  | some streakRow => simp [updateStreakSync]

/-- A second writer on the same day changes nothing. -/
theorem write_twice (reached : Reachable row) (first second : Writer) (day : Int) :
    second.write day (some (first.write day row)) = first.write day row := by
  have sound := sound_of_reachable reached
  have again := sound_of_reachable (.written reached first day)
  rw [writer_write again, writer_write sound, updateStreakSync_twice]

/-- What is left of a row after activities, in order, each with the writer that counts it. -/
def afterAll (activities : List (Writer × Int)) : Option StreakRow :=
  activities.foldl (fun row activity => some (activity.1.write activity.2 row)) none

def activityDays (activities : List (Writer × Int)) : Set Int :=
  { day | day ∈ activities.map Prod.snd }

/-- A row counts the days of a set. -/
structure Counts (days : Set Int) (streakRow : StreakRow) : Prop where
  tracks : ∃ last, streakRow.lastActivityDate = some last ∧
    Tracks days last streakRow.currentStreak streakRow.longestStreak

theorem Counts.sound {days : Set Int} {streakRow : StreakRow} (counts : Counts days streakRow) :
    Sound streakRow := by
  obtain ⟨last, _, tracks⟩ := counts.tracks
  exact ⟨tracks.current_pos, tracks.current_le⟩

private theorem counts_first (writer : Writer) (day : Int) :
    Counts {day} (writer.write day none) := by
  cases writer with
  | trigger => exact ⟨day, rfl, tracks_singleton day⟩
  | worker => exact ⟨day, rfl, tracks_singleton day⟩

private theorem counts_write {days : Set Int} {streakRow : StreakRow}
    (counts : Counts days streakRow)
    (writer : Writer) {day : Int} (later : ∀ other ∈ days, other ≤ day) :
    Counts (insert day days) (writer.write day (some streakRow)) := by
  have sound : ∀ other ∈ some streakRow, Sound other := by
    intro other same
    exact Option.mem_some_iff.mp same ▸ counts.sound
  rw [writer_write sound]
  obtain ⟨last, date, tracks⟩ := counts.tracks
  have behind := later last tracks.latest.1
  by_cases today : last = day
  · subst today
    rw [sync_today date, max_eq_left tracks.current_le]
    exact ⟨last, date, tracks.same⟩
  · by_cases yesterday : last + 1 = day
    · subst yesterday
      rw [sync_yesterday (by rw [date, Int.add_sub_cancel])]
      exact ⟨last + 1, rfl, tracks.next⟩
    · have not_today : streakRow.lastActivityDate ≠ some day := by
        rw [date]
        exact fun same => today (Option.some.inj same)
      have not_yesterday : streakRow.lastActivityDate ≠ some (day - 1) := by
        rw [date]
        intro same
        have := Option.some.inj same
        omega
      rw [sync_broken not_today not_yesterday,
        max_eq_left (tracks.current_pos.trans tracks.current_le)]
      exact ⟨day, rfl, tracks.gap (by omega)⟩

/-- The row of a user whose activity days have come in order counts them. -/
theorem counts_foldl {activities : List (Writer × Int)} {days : Set Int}
    (counts : Counts days streakRow) (later : ∀ activity ∈ activities, ∀ other ∈ days,
      other ≤ activity.2) (ordered : (activities.map Prod.snd).Pairwise (· ≤ ·)) :
    ∃ after, activities.foldl (fun row activity => some (activity.1.write activity.2 row))
        (some streakRow) = some after ∧ Counts (days ∪ activityDays activities) after := by
  induction activities generalizing streakRow days with
  | nil => exact ⟨streakRow, rfl, by simpa [activityDays] using counts⟩
  | cons activity rest ih =>
    obtain ⟨first, others⟩ := List.forall_mem_cons.mp later
    rw [List.map_cons, List.pairwise_cons] at ordered
    have written := counts_write counts activity.1 first
    have still : ∀ next ∈ rest, ∀ other ∈ insert activity.2 days, other ≤ next.2 := by
      intro next member other inside
      obtain rfl | inside := Set.mem_insert_iff.mp inside
      · exact ordered.1 _ (List.mem_map_of_mem member)
      · exact others next member other inside
    obtain ⟨after, folded, counted⟩ := ih written still ordered.2
    refine ⟨after, folded, ?_⟩
    have same : insert activity.2 days ∪ activityDays rest = days ∪ activityDays (activity :: rest) := by
      ext day
      simp only [activityDays, Set.mem_union, Set.mem_insert_iff, Set.mem_ofPred_eq, List.map_cons,
        List.mem_cons]
      tauto
    rwa [← same]

private theorem counts_afterAll {activities : List (Writer × Int)} (some_ : activities ≠ [])
    (ordered : (activities.map Prod.snd).Pairwise (· ≤ ·)) :
    ∃ after, afterAll activities = some after ∧ Counts (activityDays activities) after := by
  obtain ⟨activity, rest, rfl⟩ := List.exists_cons_of_ne_nil some_
  rw [List.map_cons, List.pairwise_cons] at ordered
  have later : ∀ next ∈ rest, ∀ other ∈ ({activity.2} : Set Int), other ≤ next.2 := by
    intro next member other inside
    rw [Set.mem_singleton_iff.mp inside]
    exact ordered.1 _ (List.mem_map_of_mem member)
  obtain ⟨after, folded, counted⟩ :=
    counts_foldl (counts_first activity.1 activity.2) later ordered.2
  refine ⟨after, folded, ?_⟩
  have same : {activity.2} ∪ activityDays rest = activityDays (activity :: rest) := by
    ext day
    simp [activityDays]
  rwa [← same]

/-- Both writers do the same to every row that either can have left, a second one on the same day
changes nothing, and what they leave of activity days in order counts the days: the run that ends
at the last one and the longest. -/
structure StreaksCount : Prop where
  agree : ∀ row, Reachable row → ∀ day, fnUpdateWriterightStreak day row = updateStreakSync day row
  once : ∀ row, Reachable row → ∀ day (first second : Writer),
    second.write day (some (first.write day row)) = first.write day row
  counts : ∀ activities : List (Writer × Int), activities ≠ [] →
    (activities.map Prod.snd).Pairwise (· ≤ ·) →
    ∃ after last, afterAll activities = some after ∧ after.lastActivityDate = some last ∧
      (activities.map Prod.snd).getLast? = some last ∧
      RunEnding (activityDays activities) last after.currentStreak ∧
      LongestRun (activityDays activities) after.longestStreak ∧
      1 ≤ after.currentStreak ∧ after.currentStreak ≤ after.longestStreak

private theorem getLast_of_greatest {activities : List (Writer × Int)} {last : Int}
    (ordered : (activities.map Prod.snd).Pairwise (· ≤ ·))
    (greatest : IsGreatest (activityDays activities) last) :
    (activities.map Prod.snd).getLast? = some last := by
  have nonempty : activities.map Prod.snd ≠ [] := List.ne_nil_of_mem greatest.1
  obtain ⟨front, final, parts⟩ := (List.eq_nil_or_concat' _).resolve_left nonempty
  have final_mem : final ∈ activityDays activities := by
    change final ∈ activities.map Prod.snd
    rw [parts]
    exact List.mem_concat_self
  have above : last ≤ final := by
    have inside : last ∈ activities.map Prod.snd := greatest.1
    rw [parts] at inside ordered
    obtain member | member := List.mem_append.mp inside
    · exact (List.pairwise_append.mp ordered).2.2 last member final List.mem_cons_self
    · exact Int.le_of_eq (List.mem_singleton.mp member)
  rw [parts, List.getLast?_concat, Int.le_antisymm (greatest.2 final_mem) above]

theorem streaks_count : StreaksCount where
  agree row reached := write_eq (sound_of_reachable reached)
  once row reached day first second := write_twice reached first second day
  counts activities some_ ordered := by
    obtain ⟨after, folded, counts⟩ := counts_afterAll some_ ordered
    obtain ⟨last, date, tracks⟩ := counts.tracks
    exact ⟨after, last, folded, date, getLast_of_greatest ordered tracks.latest, tracks.current,
      tracks.longest, tracks.current_pos, tracks.current_le⟩

end BrainMate.WriteRight.Streak
