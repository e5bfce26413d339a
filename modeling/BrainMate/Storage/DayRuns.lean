import Mathlib.Data.Set.Insert
import Mathlib.Order.Bounds.Basic

namespace BrainMate.Storage

variable {days : Set Int} {last current longest day : Int}

/-- The set has that many days in a row, the last of them included. -/
def HasRun (days : Set Int) (last count : Int) : Prop :=
  ∀ back, 0 ≤ back → back < count → last - back ∈ days

/-- The run of consecutive days that ends at a day, as long as it is. -/
structure RunEnding (days : Set Int) (last count : Int) : Prop where
  run : HasRun days last count
  stops : last - count ∉ days
  nonneg : 0 ≤ count

structure LongestRun (days : Set Int) (count : Int) : Prop where
  found : ∃ last, HasRun days last count
  bound : ∀ last other, HasRun days last other → other ≤ count

/-- The latest of the days, the run that ends at it and the longest run. -/
structure Tracks (days : Set Int) (last current longest : Int) : Prop where
  latest : IsGreatest days last
  current : RunEnding days last current
  longest : LongestRun days longest

theorem HasRun.mono {more : Set Int} {count : Int} (run : HasRun days last count)
    (subset : days ⊆ more) : HasRun more last count :=
  fun back low high => subset (run back low high)

theorem HasRun.shorter {count other : Int} (run : HasRun days last count) (le : other ≤ count) :
    HasRun days last other :=
  fun back low high => run back low (high.trans_le le)

/-- Every run has one as long among the days from the cutoff on. -/
def RunsRecent (cutoff : Int) (days : Set Int) : Prop :=
  ∀ last count, HasRun days last count → ∃ recent, HasRun (days ∩ {day | cutoff ≤ day}) recent count

theorem longestRun_iff_runsRecent {cutoff count : Int}
    (longest : LongestRun (days ∩ {day | cutoff ≤ day}) count) :
    LongestRun days count ↔ RunsRecent cutoff days := by
  constructor
  · intro whole last other run
    obtain ⟨recent, found⟩ := longest.found
    exact ⟨recent, found.shorter (whole.bound last other run)⟩
  · intro recent
    refine ⟨?_, fun last other run => ?_⟩
    · obtain ⟨last, found⟩ := longest.found
      exact ⟨last, found.mono Set.inter_subset_left⟩
    · obtain ⟨there, found⟩ := recent last other run
      exact longest.bound there other found

/-- The run at the latest day cannot reach behind the cutoff, where every run is recent. -/
theorem RunsRecent.ending {cutoff count : Int} (recent : RunsRecent cutoff days)
    (latest : IsGreatest days last) (ending : RunEnding (days ∩ {day | cutoff ≤ day}) last count) :
    RunEnding days last count := by
  have inside := ending.run.mono Set.inter_subset_left
  refine ⟨inside, fun behind => ?_, ending.nonneg⟩
  have early : last - count < cutoff := by
    by_contra late
    exact ending.stops ⟨behind, Int.not_lt.mp late⟩
  have longer : HasRun days last (count + 1) := by
    intro back low high
    by_cases final : back = count
    · rwa [final]
    · exact inside back low (by omega)
  obtain ⟨there, run⟩ := recent last (count + 1) longer
  have nonneg := ending.nonneg
  have top := run 0 (Int.le_refl 0) (by omega)
  have bottom := (run count nonneg (by omega)).2
  rw [Int.sub_zero] at top
  have before := latest.2 top.1
  rw [Set.mem_ofPred_eq] at bottom
  omega

/-- The part of a run in front of a new day. -/
theorem HasRun.before {other : Int} (run : HasRun (insert day days) day other) :
    HasRun days (day - 1) (other - 1) := by
  intro back low high
  obtain same | member := Set.mem_insert_iff.mp (run (back + 1) (by omega) (by omega))
  · omega
  · rwa [show day - 1 - back = day - (back + 1) by omega]

/-- A run that ends at a day ends with the day's own run. -/
theorem RunEnding.bound {other : Int} (ending : RunEnding days last current)
    (run : HasRun days last other) : other ≤ current := by
  by_contra longer
  exact ending.stops (run current ending.nonneg (by omega))

theorem longestRun_empty : LongestRun ∅ 0 where
  found := ⟨0, fun back low high => absurd high (Int.not_lt.mpr low)⟩
  bound last other run := by
    by_contra positive
    exact run 0 (Int.le_refl 0) (by omega)

namespace Tracks

variable (tracks : Tracks days last current longest)
include tracks

theorem current_pos : 1 ≤ current := by
  refine tracks.current.bound fun back low high => ?_
  have here : back = 0 := by omega
  rw [here, Int.sub_zero]
  exact tracks.latest.1

theorem current_le : current ≤ longest := tracks.longest.bound _ _ tracks.current.run

/-- No day behind the latest is in the set. -/
theorem not_mem_of_lt (later : last < day) : day ∉ days :=
  fun member => absurd (tracks.latest.2 member) (Int.not_le.mpr later)

theorem latest_insert (later : last ≤ day) : IsGreatest (insert day days) day := by
  refine ⟨Set.mem_insert _ _, fun other member => ?_⟩
  obtain rfl | member := Set.mem_insert_iff.mp member
  · exact Int.le_refl _
  · exact (tracks.latest.2 member).trans later

theorem same : Tracks (insert last days) last current longest := by
  rwa [Set.insert_eq_of_mem tracks.latest.1]

/-- A run in the larger set either ends at the new day or was there before. -/
theorem run_insert {other final : Int} (later : last < day)
    (run : HasRun (insert day days) final other) :
    other ≤ 0 ∨ final = day ∨ HasRun days final other := by
  by_cases none_ : other ≤ 0
  · exact .inl none_
  · have final_mem : final ∈ insert day days := by
      have := run 0 (Int.le_refl 0) (by omega)
      rwa [Int.sub_zero] at this
    obtain rfl | member := Set.mem_insert_iff.mp final_mem
    · exact .inr (.inl rfl)
    · have before := tracks.latest.2 member
      refine .inr (.inr fun back low high => ?_)
      obtain same | member := Set.mem_insert_iff.mp (run back low high)
      · omega
      · exact member

theorem next : Tracks (insert (last + 1) days) (last + 1) (current + 1) (max longest (current + 1)) where
  latest := tracks.latest_insert (by omega)
  current := {
    run := by
      intro back low high
      by_cases here : back = 0
      · subst here
        rw [Int.sub_zero]
        exact Set.mem_insert _ _
      · have before := tracks.current.run (back - 1) (by omega) (by omega)
        rw [show last + 1 - back = last - (back - 1) by omega]
        exact Set.mem_insert_of_mem _ before
    stops := by
      have positive := tracks.current_pos
      rw [show last + 1 - (current + 1) = last - current by omega, Set.mem_insert_iff, not_or]
      exact ⟨by omega, tracks.current.stops⟩
    nonneg := by have := tracks.current_pos; omega }
  longest := {
    found := by
      obtain before | before := Int.le_total (current + 1) longest
      · obtain ⟨final, run⟩ := tracks.longest.found
        rw [max_eq_left before]
        exact ⟨final, run.mono (Set.subset_insert _ _)⟩
      · refine ⟨last + 1, fun back low high => ?_⟩
        rw [max_eq_right before] at high
        by_cases here : back = 0
        · subst here
          rw [Int.sub_zero]
          exact Set.mem_insert _ _
        · have run := tracks.current.run (back - 1) (by omega) (by omega)
          rw [show last + 1 - back = last - (back - 1) by omega]
          exact Set.mem_insert_of_mem _ run
    bound := by
      intro final other run
      have positive := tracks.current_pos
      obtain none_ | rfl | old := tracks.run_insert (by omega) run
      · omega
      · have before := run.before
        rw [show last + 1 - 1 = last by omega] at before
        have := tracks.current.bound before
        omega
      · have := tracks.longest.bound _ _ old
        omega }

theorem gap (later : last + 1 < day) : Tracks (insert day days) day 1 longest where
  latest := tracks.latest_insert (by omega)
  current := {
    run := by
      intro back low high
      have here : back = 0 := by omega
      rw [here, Int.sub_zero]
      exact Set.mem_insert _ _
    stops := by
      rw [Set.mem_insert_iff, not_or]
      exact ⟨by omega, tracks.not_mem_of_lt (by omega)⟩
    nonneg := by omega }
  longest := {
    found := by
      obtain ⟨final, run⟩ := tracks.longest.found
      exact ⟨final, run.mono (Set.subset_insert _ _)⟩
    bound := by
      intro final other run
      have least := tracks.current_pos.trans tracks.current_le
      obtain none_ | rfl | old := tracks.run_insert (by omega) run
      · omega
      · have before := run.before
        by_contra longer
        have behind := before 0 (Int.le_refl 0) (by omega)
        rw [Int.sub_zero] at behind
        exact tracks.not_mem_of_lt (by omega) behind
      · exact tracks.longest.bound _ _ old }

end Tracks

theorem tracks_singleton (day : Int) : Tracks {day} day 1 1 where
  latest := isGreatest_singleton
  current := {
    run := by
      intro back low high
      have here : back = 0 := by omega
      rw [here, Int.sub_zero]
      rfl
    stops := by
      rw [Set.mem_singleton_iff]
      omega
    nonneg := by omega }
  longest := {
    found := by
      refine ⟨day, fun back low high => ?_⟩
      have here : back = 0 := by omega
      rw [here, Int.sub_zero]
      rfl
    bound := by
      intro final other run
      by_contra longer
      have first := run 0 (Int.le_refl 0) (by omega)
      have second := run 1 (by omega) (by omega)
      rw [Set.mem_singleton_iff] at first second
      omega }

end BrainMate.Storage
