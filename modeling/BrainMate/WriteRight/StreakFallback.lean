import BrainMate.Storage.Newest
import BrainMate.WriteRight.Streaks

/-! The streaks that the analytics route works out from the dates of the heatmap, where the user has
no streak row. A date is its day number: the texts `YYYY-MM-DD` sort as the days do. -/

namespace BrainMate.WriteRight.Streak

open Storage

def dayMs : Int := 86400000

/-- The UTC date of a time, as `toISOString().split("T")[0]` has it. -/
def isoDate (time : Int) : Int := time / dayMs

/-- The days of a user's writing sessions, one session a day. -/
structure SessionDates where
  dates : List Int
  distinct : dates.Nodup

structure Heatmap where
  dates : List Int
  distinct : dates.Nodup

def heatmapCutoff (now : Int) : Int := isoDate (now - 365 * dayMs)

/-- `.gte("session_date", heatmapCutoff)` -/
def heatmapQuery (now : Int) (sessions : SessionDates) : Heatmap :=
  ⟨sessions.dates.filter fun date => heatmapCutoff now ≤ date, sessions.distinct.filter _⟩

/-- The dates from the latest on, each of which has to be the expected one. -/
def countBack (now : Int) : Int → List Int → Int
  | _, [] => 0
  | offset, date :: earlier =>
    let expected := isoDate (now - offset * dayMs)
    if date = expected then countBack now (offset + 1) earlier + 1 else 0

def currentStreak (now : Int) (streakRow : Option StreakRow) (heatmap : Heatmap) : Int :=
  match streakRow with
  | some row => row.currentStreak
  | none =>
    let sortedDates := ascending id heatmap.dates
    let today := isoDate now
    let yesterday := isoDate (now - dayMs)
    match sortedDates.getLast? with
    | none => 0
    | some last =>
      if last ≠ today ∧ last ≠ yesterday then 0 else countBack now 0 sortedDates.reverse

structure LongestScan where
  max : Int := 0
  cur : Int := 0
  prev : Option Int := none

def scanDate (scan : LongestScan) (date : Int) : LongestScan :=
  let diff :=
    match scan.prev with
    | some prev => (date * dayMs - prev * dayMs) / dayMs
    | none => 0
  let cur := if diff = 1 then scan.cur + 1 else 1
  { max := Max.max scan.max cur, cur, prev := some date }

def longestStreak (streakRow : Option StreakRow) (heatmap : Heatmap) : Int :=
  match streakRow with
  | some row => row.longestStreak
  | none => ((ascending id heatmap.dates).foldl scanDate {}).max

def activeDays (dates : List Int) : Set Int := { date | date ∈ dates }

variable {heatmap : Heatmap} {now : Int}

theorem activeDays_cons (date : Int) (rest : List Int) :
    activeDays (date :: rest) = insert date (activeDays rest) := by
  ext day
  simp [activeDays]

theorem sorted_dates (heatmap : Heatmap) : (ascending id heatmap.dates).Pairwise (· < ·) := by
  have distinct : (ascending id heatmap.dates).Nodup := ascending_perm.nodup_iff.mpr heatmap.distinct
  refine (ascending_pairwise.and distinct).imp fun ⟨le, different⟩ => ?_
  exact lt_of_le_of_ne le different

theorem activeDays_sorted (heatmap : Heatmap) :
    activeDays (ascending id heatmap.dates) = activeDays heatmap.dates := by
  ext day
  exact mem_ascending

private theorem scanDate_tracks {days : Set Int} {last date : Int} {scan : LongestScan}
    (prev : scan.prev = some last) (tracks : Tracks days last scan.cur scan.max)
    (later : last < date) :
    (scanDate scan date).prev = some date ∧
      Tracks (insert date days) date (scanDate scan date).cur (scanDate scan date).max := by
  have diff : (date * dayMs - last * dayMs) / dayMs = date - last := by
    rw [← Int.sub_mul, Int.mul_ediv_cancel _ (by decide)]
  refine ⟨rfl, ?_⟩
  simp only [scanDate, prev, diff]
  by_cases next : last + 1 = date
  · subst next
    rw [if_pos (by omega)]
    exact tracks.next
  · rw [if_neg (by omega), max_eq_left (tracks.current_pos.trans tracks.current_le)]
    exact tracks.gap (by omega)

private theorem scan_tracks {dates : List Int} {days : Set Int} {last : Int} {scan : LongestScan}
    (prev : scan.prev = some last) (tracks : Tracks days last scan.cur scan.max)
    (later : ∀ date ∈ dates, last < date) (ordered : dates.Pairwise (· < ·)) :
    ∃ final, Tracks (days ∪ activeDays dates) final (dates.foldl scanDate scan).cur
      (dates.foldl scanDate scan).max := by
  induction dates generalizing days last scan with
  | nil => exact ⟨last, by simpa [activeDays] using tracks⟩
  | cons date rest ih =>
    obtain ⟨first, _⟩ := List.forall_mem_cons.mp later
    obtain ⟨before, ordered⟩ := List.pairwise_cons.mp ordered
    obtain ⟨prev', tracks'⟩ := scanDate_tracks prev tracks first
    obtain ⟨final, whole⟩ := ih prev' tracks' before ordered
    refine ⟨final, ?_⟩
    rwa [activeDays_cons, Set.union_insert, ← Set.insert_union]

private theorem longestStreak_longest (heatmap : Heatmap) :
    LongestRun (activeDays heatmap.dates) (longestStreak none heatmap) := by
  rw [← activeDays_sorted]
  have ordered := sorted_dates heatmap
  simp only [longestStreak]
  cases dates : ascending id heatmap.dates with
  | nil =>
    have nothing : activeDays [] = ∅ := by simp [activeDays]
    rw [nothing]
    exact longestRun_empty
  | cons date rest =>
    rw [dates] at ordered
    obtain ⟨before, ordered⟩ := List.pairwise_cons.mp ordered
    obtain ⟨final, tracks⟩ := @scan_tracks rest {date} date (scanDate {} date) rfl
      (tracks_singleton date) before ordered
    rw [activeDays_cons, ← Set.singleton_union]
    exact tracks.longest

theorem isoDate_sub (now offset : Int) : isoDate (now - offset * dayMs) = isoDate now - offset := by
  simp only [isoDate, dayMs]
  omega

/-- From a day on that no date is behind, the run that ends at it is counted. -/
theorem countBack_run {dates : List Int} {offset : Int}
    (before : ∀ date ∈ dates, date ≤ isoDate now - offset) (ordered : dates.Pairwise (· > ·)) :
    RunEnding (activeDays dates) (isoDate now - offset) (countBack now offset dates) := by
  induction dates generalizing offset with
  | nil =>
    exact ⟨fun back low high => absurd high (Int.not_lt.mpr low), List.not_mem_nil, Int.le_refl 0⟩
  | cons date rest ih =>
    obtain ⟨first, others⟩ := List.forall_mem_cons.mp before
    obtain ⟨below, ordered⟩ := List.pairwise_cons.mp ordered
    rw [countBack, isoDate_sub]
    by_cases expected : date = isoDate now - offset
    · rw [if_pos expected]
      have earlier : ∀ other ∈ rest, other ≤ isoDate now - (offset + 1) := by
        intro other member
        have := below other member
        omega
      have run := ih earlier ordered
      have nonneg := run.nonneg
      rw [activeDays_cons]
      refine ⟨fun back low high => ?_, ?_, by omega⟩
      · by_cases here : back = 0
        · rw [here, Int.sub_zero, expected]
          exact Set.mem_insert _ _
        · have inside := run.run (back - 1) (by omega) (by omega)
          rw [show isoDate now - offset - back = isoDate now - (offset + 1) - (back - 1) by omega]
          exact Set.mem_insert_of_mem _ inside
      · rw [Set.mem_insert_iff, not_or]
        refine ⟨by omega, ?_⟩
        rw [show isoDate now - offset - (countBack now (offset + 1) rest + 1) =
          isoDate now - (offset + 1) - countBack now (offset + 1) rest by omega]
        exact run.stops
    · rw [if_neg expected]
      refine ⟨fun back low high => absurd high (Int.not_lt.mpr low), ?_, Int.le_refl 0⟩
      rw [Int.sub_zero, activeDays_cons, Set.mem_insert_iff, not_or]
      refine ⟨fun same => expected same.symm, fun member => ?_⟩
      have := below _ member
      omega

private theorem countBack_not_expected {date offset : Int} {earlier : List Int}
    (different : date ≠ isoDate now - offset) : countBack now offset (date :: earlier) = 0 := by
  rw [countBack, isoDate_sub, if_neg different]

theorem greatest_of_getLast {dates : List Int} {last : Int} (ordered : dates.Pairwise (· < ·))
    (final : dates.getLast? = some last) : IsGreatest (activeDays dates) last := by
  obtain ⟨front, rfl⟩ := List.getLast?_eq_some_iff.mp final
  refine ⟨List.mem_concat_self, fun date member => ?_⟩
  obtain member | member := List.mem_append.mp member
  · exact ((List.pairwise_append.mp ordered).2.2 date member last List.mem_cons_self).le
  · exact Int.le_of_eq (List.mem_singleton.mp member)

/-- The run that ends at the latest date, if that is today or yesterday, and nothing otherwise; and
the longest run. -/
structure FallbackRight (now : Int) (sessions : SessionDates) : Prop where
  recent : ∀ last, IsGreatest (activeDays sessions.dates) last →
    last = isoDate now ∨ last = isoDate (now - dayMs) →
    RunEnding (activeDays sessions.dates) last
      (currentStreak now none (heatmapQuery now sessions))
  otherwise : (∀ last, IsGreatest (activeDays sessions.dates) last →
      last ≠ isoDate now ∧ last ≠ isoDate (now - dayMs)) →
    currentStreak now none (heatmapQuery now sessions) = 0
  longest : LongestRun (activeDays sessions.dates)
    (longestStreak none (heatmapQuery now sessions))

private theorem currentStreak_eq {last : Int}
    (greatest : IsGreatest (activeDays heatmap.dates) last) :
    currentStreak now none heatmap =
      if last ≠ isoDate now ∧ last ≠ isoDate (now - dayMs) then 0
      else countBack now 0 (ascending id heatmap.dates).reverse := by
  simp only [currentStreak]
  rw [← activeDays_sorted] at greatest
  cases final : (ascending id heatmap.dates).getLast? with
  | none =>
    rw [List.getLast?_eq_none_iff] at final
    have member := greatest.1
    rw [final] at member
    exact absurd member List.not_mem_nil
  | some last' =>
    rw [greatest.unique (greatest_of_getLast (sorted_dates heatmap) final)]

/-- Where the latest date is yesterday's, the first expected date is today's, and nothing is
counted. -/
theorem currentStreak_yesterday (greatest : IsGreatest (activeDays heatmap.dates) (isoDate now - 1)) :
    currentStreak now none heatmap = 0 := by
  rw [currentStreak_eq greatest]
  split
  · rfl
  · rw [← activeDays_sorted] at greatest
    cases dates : (ascending id heatmap.dates).reverse with
    | nil => rfl
    | cons date earlier =>
      have final : (ascending id heatmap.dates).getLast? = some date := by
        rw [← List.head?_reverse, dates, List.head?_cons]
      have same := (greatest_of_getLast (sorted_dates heatmap) final).unique greatest
      exact countBack_not_expected (by omega)

/-- Where the latest date is today's, the run that ends today is counted. -/
theorem currentStreak_today (greatest : IsGreatest (activeDays heatmap.dates) (isoDate now)) :
    RunEnding (activeDays heatmap.dates) (isoDate now) (currentStreak now none heatmap) := by
  rw [currentStreak_eq greatest, if_neg fun different => different.1 rfl]
  rw [← activeDays_sorted] at greatest ⊢
  have run := @countBack_run now (ascending id heatmap.dates).reverse 0
    (fun date member => by
      rw [Int.sub_zero]
      exact greatest.2 (List.mem_reverse.mp member))
    (List.pairwise_reverse.mpr (sorted_dates heatmap))
  have same : activeDays (ascending id heatmap.dates).reverse =
      activeDays (ascending id heatmap.dates) := by
    ext day
    exact List.mem_reverse
  rwa [same, Int.sub_zero] at run

private theorem currentStreak_old (old : ∀ last, IsGreatest (activeDays heatmap.dates) last →
    last ≠ isoDate now ∧ last ≠ isoDate (now - dayMs)) : currentStreak now none heatmap = 0 := by
  simp only [currentStreak]
  cases final : (ascending id heatmap.dates).getLast? with
  | none => rfl
  | some last =>
    have greatest := greatest_of_getLast (sorted_dates heatmap) final
    rw [activeDays_sorted] at greatest
    exact if_pos (old last greatest)

section Window

variable {sessions : SessionDates} {last : Int}

theorem activeDays_heatmapQuery (now : Int) (sessions : SessionDates) :
    activeDays (heatmapQuery now sessions).dates =
      activeDays sessions.dates ∩ {day | heatmapCutoff now ≤ day} := by
  ext day
  simp [activeDays, heatmapQuery]

private theorem greatest_read (greatest : IsGreatest (activeDays sessions.dates) last)
    (late : heatmapCutoff now ≤ last) :
    IsGreatest (activeDays (heatmapQuery now sessions).dates) last := by
  rw [activeDays_heatmapQuery]
  exact ⟨⟨greatest.1, late⟩, fun date member => greatest.2 member.1⟩

private theorem greatest_of_read
    (greatest : IsGreatest (activeDays (heatmapQuery now sessions).dates) last) :
    IsGreatest (activeDays sessions.dates) last := by
  rw [activeDays_heatmapQuery] at greatest
  refine ⟨greatest.1.1, fun date member => ?_⟩
  by_cases late : heatmapCutoff now ≤ date
  · exact greatest.2 ⟨member, late⟩
  · exact (Int.not_le.mp late).le.trans greatest.1.2

end Window

theorem fallbackRight_iff (now : Int) (sessions : SessionDates) :
    FallbackRight now sessions ↔
      ¬ IsGreatest (activeDays sessions.dates) (isoDate (now - dayMs)) ∧
        RunsRecent (heatmapCutoff now) (activeDays sessions.dates) := by
  have yesterday : isoDate (now - dayMs) = isoDate now - 1 := by
    have := isoDate_sub now 1
    rwa [Int.one_mul] at this
  have cutoff : heatmapCutoff now = isoDate now - 365 := isoDate_sub now 365
  have longest := longestStreak_longest (heatmapQuery now sessions)
  rw [activeDays_heatmapQuery] at longest
  constructor
  · intro right
    refine ⟨fun greatest => ?_, (longestRun_iff_runsRecent longest).mp right.longest⟩
    have run := right.recent _ greatest (.inr rfl)
    rw [yesterday] at greatest run
    have late : heatmapCutoff now ≤ isoDate now - 1 := by omega
    rw [currentStreak_yesterday (greatest_read greatest late)] at run
    have stops := run.stops
    rw [Int.sub_zero] at stops
    exact stops greatest.1
  · rintro ⟨not_yesterday, recent⟩
    refine ⟨fun last greatest near => ?_, fun old => ?_,
      (longestRun_iff_runsRecent longest).mpr recent⟩
    · have today : last = isoDate now :=
        near.resolve_right fun same => not_yesterday (same ▸ greatest)
      subst today
      have late : heatmapCutoff now ≤ isoDate now := by omega
      have run := currentStreak_today (greatest_read greatest late)
      rw [activeDays_heatmapQuery] at run
      exact recent.ending greatest run
    · exact currentStreak_old fun last greatest => old last (greatest_of_read greatest)

/-- On the day behind three days in a row. -/
theorem threeDays_lost :
    ¬ FallbackRight (103 * dayMs + 36000000) ⟨[100, 101, 102], by decide⟩ := by
  intro right
  have greatest : IsGreatest (activeDays [100, 101, 102]) 102 :=
    greatest_of_getLast (by decide) rfl
  have run := right.recent 102 greatest (.inr (by decide))
  have stops := run.stops
  exact stops (show (102 : Int) ∈ [100, 101, 102] by decide)

end BrainMate.WriteRight.Streak
