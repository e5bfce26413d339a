import Mathlib.Algebra.Order.Field.Basic
import Mathlib.Tactic.Linarith
import Mathlib.Tactic.Ring

namespace BrainMate.Metering

structure Meter (K : Type) [Field K] [LinearOrder K] where
  capacity : K
  rate : K
  /-- How long a bucket is kept after an admission. -/
  lifetime : K
  capacity_nonneg : 0 ≤ capacity
  rate_nonneg : 0 ≤ rate
  /-- A bucket that is dropped could have been filled twice. -/
  refills : 2 * capacity ≤ rate * lifetime

structure Bucket (K : Type) where
  tokens : K
  /-- The clock of the last admission. -/
  since : K
  /-- The time at which the bucket is dropped. -/
  deadline : K
  deriving DecidableEq

structure Reading (K : Type) where
  time : K
  now : K
  deriving DecidableEq

namespace Meter

variable {K : Type} [Field K] [LinearOrder K]

/-- The bucket that is still kept. -/
def live (bucket : Option (Bucket K)) (time : K) : Option (Bucket K) :=
  bucket.filter fun bucket => decide (time < bucket.deadline)

/-- What a check finds in the bucket. -/
def level (meter : Meter K) (bucket : Option (Bucket K)) (reading : Reading K) : K :=
  match live bucket reading.time with
  | none => meter.capacity
  | some bucket =>
    min meter.capacity (bucket.tokens + max 0 (reading.now - bucket.since) * meter.rate)

/-- The bucket an admission leaves. -/
def taken (meter : Meter K) (bucket : Option (Bucket K)) (reading : Reading K) : Bucket K :=
  ⟨meter.level bucket reading - 1, reading.now, reading.time + meter.lifetime⟩

/-- The bucket after a check: one that is turned away leaves it as it is. -/
def next (meter : Meter K) (bucket : Option (Bucket K)) (reading : Reading K) :
    Option (Bucket K) :=
  if 1 ≤ meter.level bucket reading then some (meter.taken bucket reading) else bucket

/-- The checks of a run that are admitted. -/
def admitted (meter : Meter K) (bucket : Option (Bucket K)) :
    List (Reading K) → List (Reading K)
  | [] => []
  | reading :: later =>
    if 1 ≤ meter.level bucket reading then
      reading :: meter.admitted (some (meter.taken bucket reading)) later
    else meter.admitted bucket later

/-- No admission sets the clock of a bucket back. -/
def NeverBack (meter : Meter K) (bucket : Option (Bucket K)) : List (Reading K) → Prop
  | [] => True
  | reading :: later =>
    (1 ≤ meter.level bucket reading →
      ∀ kept ∈ live bucket reading.time, kept.since ≤ reading.now) ∧
    meter.NeverBack (meter.next bucket reading) later

/-- How many of the checks fall between two times. -/
def between (start finish : K) (readings : List (Reading K)) : Nat :=
  readings.countP fun reading => decide (start ≤ reading.time ∧ reading.time ≤ finish)

variable {meter : Meter K} {bucket : Option (Bucket K)} {reading : Reading K}
variable {readings : List (Reading K)} {start finish : K}

theorem mem_admitted {reading : Reading K} (member : reading ∈ meter.admitted bucket readings) :
    reading ∈ readings := by
  induction readings generalizing bucket with
  | nil => exact member
  | cons first later ih =>
    rw [admitted] at member
    split at member
    · rcases List.mem_cons.mp member with same | among
      · exact same ▸ .head _
      · exact .tail _ (ih among)
    · exact .tail _ (ih member)

omit [Field K] in
private theorem between_eq_zero (late : ∀ reading ∈ readings, finish < reading.time) :
    between start finish readings = 0 := by
  apply List.countP_eq_zero.mpr
  intro reading member inside
  exact absurd (of_decide_eq_true inside).2 (not_le.mpr (late reading member))

private theorem between_admitted (takes : 1 ≤ meter.level bucket reading) :
    between start finish (meter.admitted bucket (reading :: readings)) =
      between start finish (meter.admitted (some (meter.taken bucket reading)) readings) +
        if start ≤ reading.time ∧ reading.time ≤ finish then 1 else 0 := by
  rw [admitted, if_pos takes, between, List.countP_cons]
  simp only [decide_eq_true_eq, between]

theorem between_refused (refused : ¬ 1 ≤ meter.level bucket reading) :
    between start finish (meter.admitted bucket (reading :: readings)) =
      between start finish (meter.admitted bucket readings) := by
  rw [admitted, if_neg refused]

private theorem level_le_capacity (meter : Meter K) (bucket : Option (Bucket K))
    (reading : Reading K) :
    meter.level bucket reading ≤ meter.capacity := by
  unfold level
  split
  · exact le_rfl
  · exact min_le_left _ _

/-- A check before the window changes only the bucket the window starts with. -/
theorem between_before (before : ¬ start ≤ reading.time) :
    between start finish (meter.admitted bucket (reading :: readings)) =
      between start finish (meter.admitted (meter.next bucket reading) readings) := by
  by_cases takes : 1 ≤ meter.level bucket reading
  · rw [between_admitted takes, next, if_pos takes, if_neg fun inside => before inside.1, add_zero]
  · rw [between_refused takes, next, if_neg takes]

/-- A clock that only moves on never sets back the clock of a bucket it has set. -/
theorem neverBack_of_ordered {kept : Bucket K}
    (ordered : readings.Pairwise fun first second => first.now ≤ second.now)
    (later : ∀ reading ∈ readings, kept.since ≤ reading.now) :
    meter.NeverBack (some kept) readings := by
  induction readings generalizing kept with
  | nil => trivial
  | cons reading rest ih =>
    obtain ⟨after, ordered⟩ := List.pairwise_cons.mp ordered
    constructor
    · intro _ alive present
      rcases Option.mem_filter_iff.mp present with ⟨same, _⟩
      cases same
      exact later reading (.head _)
    · unfold next
      split
      · exact ih ordered after
      · exact ih ordered fun other member => later other (.tail _ member)

variable [IsStrictOrderedRing K]

/-- A check that is not behind the bucket finds at most what has flown in since. -/
theorem level_le_filled {kept : Bucket K} (alive : reading.time < kept.deadline)
    (forward : kept.since ≤ reading.now) :
    meter.level (some kept) reading ≤ kept.tokens + meter.rate * (reading.now - kept.since) := by
  have elapsed : max 0 (reading.now - kept.since) = reading.now - kept.since :=
    max_eq_right (sub_nonneg.mpr forward)
  rw [level, live, Option.filter_some, if_pos (decide_eq_true alive)]
  simp only [elapsed]
  exact (min_le_right _ _).trans_eq (by ring)

/-- What a check finds in a bucket that is never dropped. -/
def filled (meter : Meter K) (bucket : Bucket K) (reading : Reading K) : K :=
  min meter.capacity (bucket.tokens + max 0 (reading.now - bucket.since) * meter.rate)

/-- The bucket was last taken from by a clock that is ahead of the time by the offset. -/
structure OneClock (meter : Meter K) (offset : K) (bucket : Bucket K) : Prop where
  nonneg : 0 ≤ bucket.tokens
  since : bucket.since = bucket.deadline - meter.lifetime + offset

variable {offset : K}

theorem OneClock.taken (takes : 1 ≤ meter.level bucket reading)
    (clock : reading.now = reading.time + offset) :
    meter.OneClock offset (meter.taken bucket reading) := by
  constructor
  · exact sub_nonneg.mpr takes
  · rw [Meter.taken, clock, add_sub_cancel_right]

/-- From its deadline on the bucket is full. -/
theorem OneClock.full {kept : Bucket K} (own : meter.OneClock offset kept)
    (clock : reading.now = reading.time + offset) (late : kept.deadline ≤ reading.time) :
    meter.filled kept reading = meter.capacity := by
  have elapsed : reading.now - kept.since = meter.lifetime + (reading.time - kept.deadline) := by
    rw [own.since, clock]
    ring
  have long : meter.lifetime ≤ max 0 (reading.now - kept.since) := by
    apply le_max_of_le_right
    rw [elapsed]
    exact le_add_of_nonneg_right (sub_nonneg.mpr late)
  have flown : meter.lifetime * meter.rate ≤ max 0 (reading.now - kept.since) * meter.rate :=
    mul_le_mul_of_nonneg_right long meter.rate_nonneg
  have refills := meter.refills
  have room := meter.capacity_nonneg
  have held := own.nonneg
  exact min_eq_left (by linarith)

/-- Whether the bucket is dropped at its deadline or never makes no difference to a check. -/
theorem OneClock.level {kept : Bucket K} (own : meter.OneClock offset kept)
    (clock : reading.now = reading.time + offset) :
    meter.level (some kept) reading = meter.filled kept reading := by
  by_cases alive : reading.time < kept.deadline
  · rw [Meter.level, live, Option.filter_some, if_pos (decide_eq_true alive)]
    rfl
  · rw [own.full clock (not_lt.mp alive), Meter.level, live, Option.filter_some,
      if_neg (by simpa using alive)]

/-- What two clocks, one ahead of the other by a constant, may have taken from a bucket since
a start, and what it still holds. A slower clock that finds the bucket dropped starts it
anew, before the time of the faster one. -/
inductive Account (meter : Meter K) (offset skew start given tokens time : K) : K → Prop where
  | ahead (spent : given + tokens ≤ meter.capacity + meter.rate * (time + skew - start)) :
      meter.Account offset skew start given tokens time (time + (offset + skew))
  | behind (spent : given + tokens ≤ meter.capacity + meter.rate * (time - start)) :
      meter.Account offset skew start given tokens time (time + offset)
  | restarted (spent : given + tokens ≤ meter.rate * (time + skew - start)) :
      meter.Account offset skew start given tokens time (time + offset)

/-- The reading is that of one of the two clocks. -/
def OfClocks (offset skew : K) (reading : Reading K) : Prop :=
  reading.now = reading.time + offset ∨ reading.now = reading.time + (offset + skew)

instance [DecidableEq K] (offset skew : K) (reading : Reading K) :
    Decidable (OfClocks offset skew reading) :=
  inferInstanceAs (Decidable (_ ∨ _))

variable {offset skew given tokens time since : K}

theorem Account.bound (account : meter.Account offset skew start given tokens time since)
    (skewed : 0 ≤ skew) (nonneg : 0 ≤ tokens) (until_ : time ≤ finish) :
    given ≤ meter.capacity + meter.rate * (finish - start + skew) := by
  have flown : 0 ≤ meter.rate * (finish - time) :=
    mul_nonneg meter.rate_nonneg (sub_nonneg.mpr until_)
  have spare : 0 ≤ meter.rate * skew := mul_nonneg meter.rate_nonneg skewed
  have room := meter.capacity_nonneg
  cases account with
  | ahead spent => linarith
  | behind spent => linarith
  | restarted spent => linarith

/-- The first admission since the start. -/
theorem Account.first (meter : Meter K) (bucket : Option (Bucket K)) (skewed : 0 ≤ skew)
    (clocks : OfClocks offset skew reading) (from_ : start ≤ reading.time) :
    meter.Account offset skew start 1 (meter.taken bucket reading).tokens reading.time
      reading.now := by
  have flown : 0 ≤ meter.rate * (reading.time - start) :=
    mul_nonneg meter.rate_nonneg (sub_nonneg.mpr from_)
  have spare : 0 ≤ meter.rate * skew := mul_nonneg meter.rate_nonneg skewed
  have full := meter.level_le_capacity bucket reading
  have held : 1 + (meter.taken bucket reading).tokens = meter.level bucket reading := by
    rw [taken]
    ring
  rcases clocks with slow | fast
  · rw [slow]
    refine .behind ?_
    linarith
  · rw [fast]
    refine .ahead ?_
    linarith

/-- An admission from a bucket that is kept. -/
theorem Account.kept (account : meter.Account offset skew start given tokens time since)
    (nonneg : 0 ≤ tokens) (later : time ≤ reading.time)
    (clocks : OfClocks offset skew reading) {level : K} (full : level ≤ meter.capacity)
    (filled : level ≤ tokens + meter.rate * (reading.now - since)) :
    meter.Account offset skew start (given + 1) (level - 1) reading.time reading.now := by
  have flown : 0 ≤ meter.rate * (reading.time - time) :=
    mul_nonneg meter.rate_nonneg (sub_nonneg.mpr later)
  rcases clocks with slow | fast
  · rw [slow] at filled ⊢
    cases account with
    | ahead spent => exact .behind (by linarith)
    | behind spent => exact .behind (by linarith)
    | restarted spent => exact .restarted (by linarith)
  · rw [fast] at filled ⊢
    cases account with
    | ahead spent => exact .ahead (by linarith)
    | behind spent => exact .ahead (by linarith)
    | restarted spent => exact .ahead (by linarith)

/-- An admission after the bucket was dropped: it could have been filled twice since. -/
theorem Account.dropped (account : meter.Account offset skew start given tokens time since)
    (skewed : 0 ≤ skew) (nonneg : 0 ≤ tokens) (late : time + meter.lifetime ≤ reading.time)
    (clocks : OfClocks offset skew reading) {level : K} (full : level ≤ meter.capacity) :
    meter.Account offset skew start (given + 1) (level - 1) reading.time reading.now := by
  have flown : 0 ≤ meter.rate * (reading.time - (time + meter.lifetime)) :=
    mul_nonneg meter.rate_nonneg (sub_nonneg.mpr late)
  have spare : 0 ≤ meter.rate * skew := mul_nonneg meter.rate_nonneg skewed
  have refills := meter.refills
  have room := meter.capacity_nonneg
  rcases clocks with slow | fast
  · rw [slow]
    cases account with
    | ahead spent => exact .restarted (by linarith)
    | behind spent => exact .behind (by linarith)
    | restarted spent => exact .restarted (by linarith)
  · rw [fast]
    cases account with
    | ahead spent => exact .ahead (by linarith)
    | behind spent => exact .ahead (by linarith)
    | restarted spent => exact .ahead (by linarith)

/-- The account of a bucket that a check of one of the clocks has left. -/
structure Kept (meter : Meter K) (offset skew start finish given : K) (bucket : Bucket K) :
    Prop where
  account : meter.Account offset skew start given bucket.tokens
    (bucket.deadline - meter.lifetime) bucket.since
  nonneg : 0 ≤ bucket.tokens
  until_ : bucket.deadline - meter.lifetime ≤ finish

theorem Kept.of_taken (takes : 1 ≤ meter.level bucket reading) (until_ : reading.time ≤ finish)
    (account : meter.Account offset skew start given (meter.taken bucket reading).tokens
      reading.time reading.now) :
    meter.Kept offset skew start finish given (meter.taken bucket reading) := by
  have same : (meter.taken bucket reading).deadline - meter.lifetime = reading.time :=
    add_sub_cancel_right _ _
  refine ⟨?_, sub_nonneg.mpr takes, ?_⟩
  · rw [same]
    exact account
  · rw [same]
    exact until_

theorem Kept.take {kept : Bucket K} (holds : meter.Kept offset skew start finish given kept)
    (skewed : 0 ≤ skew) (later : kept.deadline - meter.lifetime ≤ reading.time)
    (until_ : reading.time ≤ finish) (clocks : OfClocks offset skew reading)
    (takes : 1 ≤ meter.level (some kept) reading)
    (forward : ∀ alive ∈ live (some kept) reading.time, alive.since ≤ reading.now) :
    meter.Kept offset skew start finish (given + 1) (meter.taken (some kept) reading) := by
  refine .of_taken takes until_ ?_
  have full := meter.level_le_capacity (some kept) reading
  by_cases alive : reading.time < kept.deadline
  · have present : kept ∈ live (some kept) reading.time := by
      simp [live, alive]
    exact holds.account.kept holds.nonneg later clocks full
      (level_le_filled alive (forward kept present))
  · refine holds.account.dropped skewed holds.nonneg ?_ clocks full
    rw [sub_add_cancel]
    exact not_lt.mp alive

/-- What a run adds to the account of the bucket it starts with. -/
theorem Kept.admitted {kept : Bucket K} (holds : meter.Kept offset skew start finish given kept)
    (skewed : 0 ≤ skew) (from_ : ∀ reading ∈ readings, start ≤ reading.time)
    (later : ∀ reading ∈ readings, kept.deadline - meter.lifetime ≤ reading.time)
    (ordered : readings.Pairwise fun first second => first.time ≤ second.time)
    (clocks : ∀ reading ∈ readings, OfClocks offset skew reading)
    (forward : meter.NeverBack (some kept) readings) :
    given + (between start finish (meter.admitted (some kept) readings) : K) ≤
      meter.capacity + meter.rate * (finish - start + skew) := by
  induction readings generalizing kept given with
  | nil =>
    have bound := holds.account.bound skewed holds.nonneg holds.until_
    simpa [Meter.admitted, between] using bound
  | cons reading rest ih =>
    obtain ⟨after, ordered⟩ := List.pairwise_cons.mp ordered
    obtain ⟨ahead, forward⟩ := forward
    have restClocks := fun reading member => clocks reading (.tail _ member)
    have restFrom := fun reading member => from_ reading (.tail _ member)
    by_cases takes : 1 ≤ meter.level (some kept) reading
    · rw [next, if_pos takes] at forward
      by_cases until_ : reading.time ≤ finish
      · have moved := holds.take skewed (later reading (.head _)) until_
          (clocks reading (.head _)) takes (ahead takes)
        have inside : start ≤ reading.time ∧ reading.time ≤ finish :=
          ⟨from_ reading (.head _), until_⟩
        have same : (meter.taken (some kept) reading).deadline - meter.lifetime = reading.time :=
          add_sub_cancel_right _ _
        have counted := ih moved restFrom (by rw [same]; exact after) ordered restClocks forward
        rw [between_admitted takes, if_pos inside]
        push_cast
        linarith
      · -- What comes after the end of the window is not counted.
        have beyond : ∀ reading' ∈ meter.admitted (some kept) (reading :: rest),
            finish < reading'.time := by
          intro reading' member
          rcases List.mem_cons.mp (mem_admitted member) with rfl | among
          · exact not_le.mp until_
          · exact (not_le.mp until_).trans_le (after reading' among)
        rw [between_eq_zero beyond]
        have bound := holds.account.bound skewed holds.nonneg holds.until_
        simpa using bound
    · rw [next, if_neg takes] at forward
      rw [between_refused takes]
      exact ih holds restFrom (fun reading member => later reading (.tail _ member)) ordered
        restClocks forward

/-- A run that begins with the first admission of a window. -/
theorem admitted_le_of_opening (skewed : 0 ≤ skew) (window : start ≤ finish)
    (takes : 1 ≤ meter.level bucket reading) (from_ : start ≤ reading.time)
    (ordered : (reading :: readings).Pairwise fun first second => first.time ≤ second.time)
    (clocks : ∀ other ∈ reading :: readings, OfClocks offset skew other)
    (forward : meter.NeverBack (some (meter.taken bucket reading)) readings) :
    (between start finish (meter.admitted bucket (reading :: readings)) : K) ≤
      meter.capacity + meter.rate * (finish - start + skew) := by
  obtain ⟨after, ordered⟩ := List.pairwise_cons.mp ordered
  by_cases until_ : reading.time ≤ finish
  · have kept := Kept.of_taken takes until_
      (.first meter bucket skewed (clocks reading (.head _)) from_)
    have same : (meter.taken bucket reading).deadline - meter.lifetime = reading.time :=
      add_sub_cancel_right _ _
    have counted := kept.admitted skewed (fun other member => from_.trans (after other member))
      (by rw [same]; exact after) ordered (fun other member => clocks other (.tail _ member)) forward
    rw [between_admitted takes, if_pos ⟨from_, until_⟩]
    push_cast
    linarith
  · have beyond : ∀ other ∈ meter.admitted bucket (reading :: readings), finish < other.time := by
      intro other member
      rcases List.mem_cons.mp (mem_admitted member) with rfl | among
      · exact not_le.mp until_
      · exact (not_le.mp until_).trans_le (after other among)
    have flown : 0 ≤ meter.rate * (finish - start + skew) :=
      mul_nonneg meter.rate_nonneg (add_nonneg (sub_nonneg.mpr window) skewed)
    rw [between_eq_zero beyond]
    have room := meter.capacity_nonneg
    push_cast
    linarith

/-- Two clocks: where no admission sets the clock of the bucket back, the window of time and
the skew bound what is admitted. -/
theorem admitted_le_of_neverBack (skewed : 0 ≤ skew) (window : start ≤ finish)
    (ordered : readings.Pairwise fun first second => first.time ≤ second.time)
    (clocks : ∀ reading ∈ readings, OfClocks offset skew reading)
    (forward : meter.NeverBack bucket readings) :
    (between start finish (meter.admitted bucket readings) : K) ≤
      meter.capacity + meter.rate * (finish - start + skew) := by
  induction readings generalizing bucket with
  | nil =>
    have flown : 0 ≤ meter.rate * (finish - start + skew) :=
      mul_nonneg meter.rate_nonneg (add_nonneg (sub_nonneg.mpr window) skewed)
    simpa [Meter.admitted, between] using add_nonneg meter.capacity_nonneg flown
  | cons reading rest ih =>
    have restOrdered := (List.pairwise_cons.mp ordered).2
    have restClocks := fun other member => clocks other (.tail _ member)
    by_cases from_ : start ≤ reading.time
    · by_cases takes : 1 ≤ meter.level bucket reading
      · have onward := forward.2
        rw [next, if_pos takes] at onward
        exact admitted_le_of_opening skewed window takes from_ ordered clocks onward
      · have onward := forward.2
        rw [next, if_neg takes] at onward
        rw [between_refused takes]
        exact ih restOrdered restClocks onward
    · rw [between_before from_]
      exact ih restOrdered restClocks forward.2

/-- One clock: the window bounds what is admitted, whatever the bucket held before. -/
theorem admitted_le_of_one_clock (window : start ≤ finish)
    (ordered : readings.Pairwise fun first second => first.time ≤ second.time)
    (clock : ∀ reading ∈ readings, reading.now = reading.time + offset) :
    (between start finish (meter.admitted bucket readings) : K) ≤
      meter.capacity + meter.rate * (finish - start) := by
  induction readings generalizing bucket with
  | nil =>
    have flown : 0 ≤ meter.rate * (finish - start) :=
      mul_nonneg meter.rate_nonneg (sub_nonneg.mpr window)
    simpa [Meter.admitted, between] using add_nonneg meter.capacity_nonneg flown
  | cons reading rest ih =>
    have restOrdered := (List.pairwise_cons.mp ordered).2
    have restClock := fun other member => clock other (.tail _ member)
    by_cases from_ : start ≤ reading.time
    · by_cases takes : 1 ≤ meter.level bucket reading
      · -- The clock of the window's first admission is behind all later ones.
        have readOrdered : (reading :: rest).Pairwise fun first second => first.now ≤ second.now := by
          refine ordered.imp_of_mem fun first second before => ?_
          rw [clock _ first, clock _ second]
          exact add_le_add_left before offset
        have onward : meter.NeverBack (some (meter.taken bucket reading)) rest :=
          neverBack_of_ordered (List.pairwise_cons.mp readOrdered).2
            (List.pairwise_cons.mp readOrdered).1
        have bound := admitted_le_of_opening le_rfl window takes from_ ordered
          (fun other member => .inl (clock other member)) onward
        rwa [add_zero] at bound
      · rw [between_refused takes]
        exact ih restOrdered restClock
    · rw [between_before from_]
      exact ih restOrdered restClock

end Meter

end BrainMate.Metering
