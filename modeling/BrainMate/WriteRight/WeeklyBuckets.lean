import BrainMate.Storage.Displacement

/-! The weekly counts of the stats route. Times are milliseconds since the epoch. -/

namespace BrainMate.WriteRight.WeeklyBuckets

open Storage.Displacement

/-- What the local time zone says of an instant: the number of its calendar day, and the instant
that `setHours(0, 0, 0, 0)` gives. -/
structure Zone where
  localDay : Int → Int
  startOfDay : Int → Int

/-- A row of `writeright_usage`. -/
structure UsageRow where
  userId : String
  createdAt : Int
  deleted : Bool

def dayMs : Int := 86400000

/-- `new Date(Date.now() - 6 * 24 * 60 * 60 * 1000)` -/
def cutoff (now : Int) : Int := now - 6 * 24 * 60 * 60 * 1000

/-- The rows of the user that are not deleted. -/
def usage (rows : List UsageRow) (userId : String) : List UsageRow :=
  rows.filter fun row => row.userId = userId ∧ row.deleted = false

def weekUsage (now : Int) (rows : List UsageRow) (userId : String) : List UsageRow :=
  (usage rows userId).filter fun row => cutoff now ≤ row.createdAt

def dayDiff (zone : Zone) (now : Int) (row : UsageRow) : Int :=
  (zone.startOfDay now - zone.startOfDay row.createdAt) / dayMs

def addRow (zone : Zone) (now : Int) (weeklyBuckets : List Nat) (row : UsageRow) : List Nat :=
  if 0 ≤ dayDiff zone now row ∧ dayDiff zone now row < 7 then
    weeklyBuckets.modify (6 - dayDiff zone now row).toNat (· + 1)
  else weeklyBuckets

def weeklyBuckets (zone : Zone) (now : Int) (rows : List UsageRow) (userId : String) : List Nat :=
  (weekUsage now rows userId).foldl (addRow zone now) (List.replicate 7 0)

/-- So many calendar days before today. -/
def daysAgo (zone : Zone) (now : Int) (row : UsageRow) : Int :=
  zone.localDay now - zone.localDay row.createdAt

/-- The bucket of a day counts the rows of that day. -/
def BucketsRight (zone : Zone) (now : Int) (rows : List UsageRow) (userId : String) : Prop :=
  ∀ ago : Nat, ago < 7 → (weeklyBuckets zone now rows userId)[6 - ago]? =
    some ((usage rows userId).countP fun row => daysAgo zone now row = ago)

/-- A row of the last seven days is not older than 144 hours, and there are no fewer hours than 24
for each day from the start of its day to the start of today, nor 24 more; a row of another day is
older, or its day starts out of the week. -/
def InPlace (zone : Zone) (now : Int) (row : UsageRow) : Prop :=
  let days := daysAgo zone now row
  let span := zone.startOfDay now - zone.startOfDay row.createdAt
  if 0 ≤ days ∧ days < 7 then
    cutoff now ≤ row.createdAt ∧ days * dayMs ≤ span ∧ span < (days + 1) * dayMs
  else row.createdAt < cutoff now ∨ span < 0 ∨ 7 * dayMs ≤ span

/-- Days come one after the other, and together they last less than a day longer than so many times
24 hours. -/
structure Zone.Regular (zone : Zone) : Prop where
  ordered : ∀ first second, first ≤ second → zone.localDay first ≤ zone.localDay second
  same : ∀ first second, zone.localDay first = zone.localDay second →
    zone.startOfDay first = zone.startOfDay second
  later : ∀ first second, zone.localDay first < zone.localDay second →
    zone.startOfDay first < zone.startOfDay second
  lasts : ∀ first second, zone.localDay first ≤ zone.localDay second →
    zone.startOfDay second - zone.startOfDay first <
      (zone.localDay second - zone.localDay first + 1) * dayMs

variable {zone : Zone} {now : Int} {rows : List UsageRow} {userId : String}

private theorem getElem?_addRow (buckets : List Nat) (row : UsageRow) {ago : Nat}
    (inside : ago < 7) :
    (addRow zone now buckets row)[6 - ago]? =
      buckets[6 - ago]?.map (· + if dayDiff zone now row = ago then 1 else 0) := by
  rw [addRow]
  by_cases same : dayDiff zone now row = ago
  · have index : (6 - dayDiff zone now row).toNat = 6 - ago := by omega
    rw [if_pos (by omega), if_pos same, index, List.getElem?_modify_eq]
    rfl
  · rw [if_neg same]
    split
    · have apart : (6 - dayDiff zone now row).toNat ≠ 6 - ago := by omega
      rw [List.getElem?_modify_ne _ _ apart]
      simp
    · simp

private theorem getElem?_foldl_addRow (buckets : List Nat) {ago : Nat} (inside : ago < 7) :
    (rows.foldl (addRow zone now) buckets)[6 - ago]? =
      buckets[6 - ago]?.map (· + rows.countP fun row => dayDiff zone now row = ago) := by
  induction rows generalizing buckets with
  | nil => simp
  | cons row rest ih =>
    rw [List.foldl_cons, ih, getElem?_addRow buckets row inside, Option.map_map]
    congr 1
    funext count
    simp only [Function.comp_apply, List.countP_cons, decide_eq_true_eq]
    omega

/-- The rows that a bucket counts. -/
theorem weeklyBuckets_eq {ago : Nat} (inside : ago < 7) :
    (weeklyBuckets zone now rows userId)[6 - ago]? =
      some ((usage rows userId).countP fun row =>
        cutoff now ≤ row.createdAt ∧ dayDiff zone now row = ago) := by
  have start : (List.replicate 7 0)[6 - ago]? = some 0 := by
    rw [List.getElem?_replicate_of_lt (by omega)]
  rw [weeklyBuckets, getElem?_foldl_addRow _ inside, start, Option.map_some, Nat.zero_add, weekUsage,
    List.countP_filter]
  congr 2
  funext row
  rw [Bool.decide_and, Bool.and_comm]

private theorem bucketsRight_iff : BucketsRight zone now rows userId ↔ ∀ ago : Nat, ago < 7 →
    (usage rows userId).countP (fun row => cutoff now ≤ row.createdAt ∧ dayDiff zone now row = ago) =
      (usage rows userId).countP fun row => daysAgo zone now row = ago := by
  refine forall_congr' fun ago => forall_congr' fun inside => ?_
  rw [weeklyBuckets_eq inside, Option.some_inj]

private theorem dayDiff_eq_iff (row : UsageRow) (days : Int) : dayDiff zone now row = days ↔
    days * dayMs ≤ zone.startOfDay now - zone.startOfDay row.createdAt ∧
      zone.startOfDay now - zone.startOfDay row.createdAt < (days + 1) * dayMs := by
  unfold dayDiff dayMs
  omega

/-- A row is in its place when each day of the week finds it there or does not. -/
theorem inPlace_iff (row : UsageRow) : InPlace zone now row ↔ ∀ ago : Nat, ago < 7 →
    (cutoff now ≤ row.createdAt ∧ dayDiff zone now row = ago ↔ daysAgo zone now row = ago) := by
  unfold InPlace
  dsimp only
  split
  · rename_i inside
    rw [← dayDiff_eq_iff]
    constructor
    · intro ⟨fresh, found⟩ ago _
      rw [found]
      exact and_iff_right fresh
    · intro each
      have days : ((daysAgo zone now row).toNat : Int) = daysAgo zone now row := by omega
      have own := (each (daysAgo zone now row).toNat (by omega)).mpr days.symm
      rwa [days] at own
  · rename_i outside
    constructor
    · intro away ago small
      have elsewhere := @dayDiff_eq_iff zone now row ago
      unfold dayMs at away elsewhere
      omega
    · intro each
      by_contra stays
      rw [not_or, not_or, Int.not_lt, Int.not_lt, Int.not_le] at stays
      obtain ⟨fresh, low, high⟩ := stays
      have range : 0 ≤ dayDiff zone now row ∧ dayDiff zone now row < 7 := by
        unfold dayDiff dayMs at *
        omega
      have own := (each (dayDiff zone now row).toNat (by omega)).mp ⟨fresh, by omega⟩
      omega

/-- In a regular zone a row is found in front of its place at most, and the oldest are dropped. -/
theorem forward (regular : zone.Regular) (rows : List UsageRow) :
    Forward (fun row : UsageRow => cutoff now ≤ row.createdAt) (dayDiff zone now)
      (daysAgo zone now) rows := by
  constructor
  · intro row _ past
    have start : zone.startOfDay row.createdAt ≤ zone.startOfDay now := by
      by_cases today : zone.localDay row.createdAt = zone.localDay now
      · exact (regular.same _ _ today).le
      · exact (regular.later _ _ (by unfold daysAgo at past; omega)).le
    exact Int.ediv_nonneg (by omega) (by decide)
  · intro row _ past
    have span := regular.lasts row.createdAt now (by unfold daysAgo at past; omega)
    exact Int.lt_add_one_iff.mp (Int.ediv_lt_of_lt_mul (by decide) span)
  · intro row _ future
    have start := regular.later now row.createdAt (by unfold daysAgo at future; omega)
    exact Int.ediv_neg_of_neg_of_pos (by omega) (by decide)
  · intro row _ other _ dropped kept
    have older := regular.ordered row.createdAt other.createdAt (by omega)
    unfold daysAgo
    omega

/-- The buckets are right where every row is in its place; and in a regular zone only there. -/
theorem weeklyBuckets_right (zone : Zone) (now : Int) (rows : List UsageRow) (userId : String) :
    ((∀ row ∈ usage rows userId, InPlace zone now row) → BucketsRight zone now rows userId) ∧
      (zone.Regular → BucketsRight zone now rows userId →
        ∀ row ∈ usage rows userId, InPlace zone now row) := by
  constructor
  · intro placed
    rw [bucketsRight_iff]
    exact counts_of_placed fun row member => (inPlace_iff row).mp (placed row member)
  · intro regular right row member
    rw [bucketsRight_iff] at right
    rw [inPlace_iff]
    intro ago inside
    exact placed_of_counts (forward regular _) right ago inside row member

def utc : Zone where
  localDay instant := instant / dayMs
  startOfDay instant := instant / dayMs * dayMs

/-- On day 3 the clocks go from two to three. -/
def springForward : Zone where
  localDay instant := (instant + if instant < 3 * dayMs + 7200000 then 0 else 3600000) / dayMs
  startOfDay instant :=
    let day := (instant + if instant < 3 * dayMs + 7200000 then 0 else 3600000) / dayMs
    day * dayMs - if day ≤ 3 then 0 else 3600000

private theorem utc_regular : utc.Regular := by
  constructor
  all_goals
    intro first second
    simp only [utc, dayMs]
    omega

private theorem springForward_regular : springForward.Regular := by
  constructor
  all_goals
    intro first second
    simp only [springForward, dayMs]
    omega

/-- At noon a row from one o'clock in the morning six days ago, and with a short day between them a
row from noon two days ago. -/
theorem buckets_wrong :
    (utc.Regular ∧
      ¬ BucketsRight utc (6 * dayMs + 43200000) [⟨"ada", 3600000, false⟩] "ada") ∧
    springForward.Regular ∧
      ¬ BucketsRight springForward (5 * dayMs + 39600000) [⟨"ada", 3 * dayMs + 39600000, false⟩]
        "ada" := by
  refine ⟨⟨utc_regular, ?_⟩, springForward_regular, ?_⟩
  · intro right
    exact absurd (right 6 (by decide)) (by decide)
  · intro right
    exact absurd (right 2 (by decide)) (by decide)

end BrainMate.WriteRight.WeeklyBuckets
