import Mathlib.Data.Rat.Floor
import BrainMate.Gateway.Records
import BrainMate.Metering.TokenBucket

/-! `rate_limiter.rs` with exact arithmetic: the script, one check, and runs of checks on the
key of one bucket. Times are seconds. -/

namespace BrainMate.Gateway

open Metering

/-- The text under the key of a bucket, as the script takes it apart: the numbers before and
after the first `|`, where they are numbers. -/
inductive BucketText where
  | parts (tokens lastRefill : Option ℚ)
  | undivided
  deriving DecidableEq

structure BucketEntry where
  text : BucketText
  /-- The time at which Redis drops the key. -/
  deadline : Option ℚ
  deriving DecidableEq

def BucketEntry.alive (entry : BucketEntry) (time : ℚ) : Bool :=
  entry.deadline.all fun deadline => decide (time < deadline)

inductive RateLimitError where
  | limited (waitSecs : Nat)
  | unavailable
  deriving DecidableEq, Repr

structure RateLimiter where
  burst : Nat
  refillPerSec : Nat
  burst_pos : 0 < burst
  refill_pos : 0 < refillPerSec

namespace RateLimiter

/-- `RateLimiter::new`; `scriptLoad` is what `script_load` answers. -/
def new (scriptLoad : Except RedisLayerError Unit) (burst refillPerSec : Nat) :
    Except ApiError RateLimiter :=
  if positive : 0 < burst ∧ 0 < refillPerSec then
    match scriptLoad with
    | .error error =>
      .error (.serviceUnavailable ("rate-limit script load failed: " ++ error.message))
    | .ok () => .ok ⟨burst, refillPerSec, positive.1, positive.2⟩
  else .error (.badRequest "rate limit burst and refill must be greater than zero")

/-- The answer of a script, and the text and the lifetime in seconds of its SET. -/
structure ScriptRun where
  admitted : Int
  waitSecs : Int
  write : Option (BucketText × Int)
  deriving DecidableEq

/-- The tokens and the last refill the script works on. -/
def bucketOf (burst now : ℚ) : Option BucketText → ℚ × ℚ
  | some (.parts tokens lastRefill) => (tokens.getD burst, lastRefill.getD now)
  | some .undivided | none => (burst, now)

/-- The tokens of a bucket refilled up to `now`. -/
def refillTo (burst refillPerSec now : ℚ) (bucket : Option BucketText) : ℚ :=
  let (tokens, lastRefill) := bucketOf burst now bucket
  let elapsed := max 0 (now - lastRefill)
  min burst (tokens + elapsed * refillPerSec)

/-- `RATE_LIMIT_SCRIPT`. -/
def rateLimitScript (burst refillPerSec now : ℚ) (bucket : Option BucketText) : ScriptRun :=
  let tokens := refillTo burst refillPerSec now bucket
  if 1 ≤ tokens then
    ⟨1, 0, some (.parts (some (tokens - 1)) (some now), ⌈burst / refillPerSec⌉ * 2)⟩
  else ⟨0, ⌈(1 - tokens) / refillPerSec⌉, none⟩

/-- What `check` makes of the answer of the script. -/
def verdict : Except RedisLayerError (List Int) → Except RateLimitError Unit
  | .error _ => .error .unavailable
  | .ok [admitted, waitSecs] =>
    if admitted = 1 then .ok () else .error (.limited (max waitSecs 1).toNat)
  | .ok _ => .ok ()

/-- What Redis has under the key at a time. -/
def found (entry : Option BucketEntry) (time : ℚ) : Option BucketText :=
  (entry.filter fun entry => entry.alive time).map BucketEntry.text

/-- `check` on a key, at a time of Redis and with what the caller's clock shows then. -/
def check (limiter : RateLimiter) (entry : Option BucketEntry) (reading : Reading ℚ) :
    Except RateLimitError Unit × Option BucketEntry :=
  let run := rateLimitScript limiter.burst limiter.refillPerSec reading.now
    (found entry reading.time)
  (verdict (.ok [run.admitted, run.waitSecs]),
    match run.write with
    | some (text, ttlSecs) => some ⟨text, some (reading.time + ttlSecs)⟩
    | none => entry)

/-- The checks of a run that return `Ok`. -/
def admitted (limiter : RateLimiter) (entry : Option BucketEntry) :
    List (Reading ℚ) → List (Reading ℚ)
  | [] => []
  | reading :: later =>
    let (answer, entry) := limiter.check entry reading
    if answer.isOk then reading :: limiter.admitted entry later
    else limiter.admitted entry later

/-- The last refill a kept bucket bears. -/
def refilledAt : Option BucketText → Option ℚ
  | some (.parts _ lastRefill) => lastRefill
  | some .undivided | none => none

/-- A check that finds a token in a kept bucket is not behind its last refill. -/
def NeverBack (limiter : RateLimiter) (entry : Option BucketEntry) :
    List (Reading ℚ) → Prop
  | [] => True
  | reading :: later =>
    (1 ≤ refillTo limiter.burst limiter.refillPerSec reading.now (found entry reading.time) →
      ∀ lastRefill ∈ refilledAt (found entry reading.time), lastRefill ≤ reading.now) ∧
    limiter.NeverBack (limiter.check entry reading).2 later

instance instDecidableNeverBack (limiter : RateLimiter) (entry : Option BucketEntry) :
    (readings : List (Reading ℚ)) → Decidable (limiter.NeverBack entry readings)
  | [] => isTrue trivial
  | reading :: later =>
    have := instDecidableNeverBack limiter (limiter.check entry reading).2 later
    inferInstanceAs (Decidable (_ ∧ _))

/-- A bucket is kept long enough to be filled twice. -/
def meter (limiter : RateLimiter) : Meter ℚ where
  capacity := limiter.burst
  rate := limiter.refillPerSec
  lifetime := (⌈(limiter.burst : ℚ) / limiter.refillPerSec⌉ * 2 : ℤ)
  capacity_nonneg := Nat.cast_nonneg _
  rate_nonneg := Nat.cast_nonneg _
  refills := by
    have positive : (0 : ℚ) < limiter.refillPerSec := Nat.cast_pos.mpr limiter.refill_pos
    have above := Int.le_ceil ((limiter.burst : ℚ) / limiter.refillPerSec)
    have filled := (div_le_iff₀ positive).mp above
    push_cast
    linarith

/-- The entry that stands for a bucket. -/
def entryOf (bucket : Bucket ℚ) : BucketEntry :=
  ⟨.parts (some bucket.tokens) (some bucket.since), some bucket.deadline⟩

variable {limiter : RateLimiter} {entry : Option BucketEntry} {reading : Reading ℚ} {bucket : Bucket ℚ}
variable {readings : List (Reading ℚ)}

private theorem refillTo_le_burst (burst refillPerSec now : ℚ) (bucket : Option BucketText) :
    refillTo burst refillPerSec now bucket ≤ burst := min_le_left _ _

/-- The entry an admission writes. -/
theorem check_admitted
    (takes : 1 ≤ refillTo limiter.burst limiter.refillPerSec reading.now
      (found entry reading.time)) :
    limiter.check entry reading =
      (.ok (), some (entryOf ⟨refillTo limiter.burst limiter.refillPerSec reading.now
        (found entry reading.time) - 1, reading.now, reading.time + limiter.meter.lifetime⟩)) := by
  rw [check, rateLimitScript, if_pos takes]
  rfl

/-- A check that is turned away writes nothing. -/
theorem check_refused
    (refused : ¬ 1 ≤ refillTo limiter.burst limiter.refillPerSec reading.now
      (found entry reading.time)) :
    ∃ error, limiter.check entry reading = (.error error, entry) := by
  rw [check, rateLimitScript, if_neg refused]
  exact ⟨_, rfl⟩

private theorem admitted_of_ok {next : Option BucketEntry}
    (takes : limiter.check entry reading = (.ok (), next)) :
    limiter.admitted entry (reading :: readings) = reading :: limiter.admitted next readings := by
  rw [admitted, takes]
  rfl

private theorem admitted_of_error {error : RateLimitError}
    (refused : limiter.check entry reading = (.error error, entry)) :
    limiter.admitted entry (reading :: readings) = limiter.admitted entry readings := by
  rw [admitted, refused]
  rfl

private theorem found_entryOf (bucket : Bucket ℚ) (time : ℚ) :
    found (some (entryOf bucket)) time =
      (Meter.live (some bucket) time).map fun kept => .parts (some kept.tokens) (some kept.since) := by
  by_cases alive : time < bucket.deadline
  · simp [found, Meter.live, entryOf, BucketEntry.alive, Option.filter_some, alive]
  · simp [found, Meter.live, entryOf, BucketEntry.alive, Option.filter_some, alive]

private theorem refillTo_entryOf (limiter : RateLimiter) (bucket : Bucket ℚ) (reading : Reading ℚ) :
    refillTo limiter.burst limiter.refillPerSec reading.now
        (found (some (entryOf bucket)) reading.time) =
      limiter.meter.level (some bucket) reading := by
  rw [found_entryOf, Meter.level]
  cases Meter.live (some bucket) reading.time with
  | none => simp [refillTo, bucketOf, meter]
  | some kept => rfl

/-- A check on a bucket is a take from it. -/
theorem admitted_entryOf (limiter : RateLimiter) (bucket : Bucket ℚ)
    (readings : List (Reading ℚ)) :
    limiter.admitted (some (entryOf bucket)) readings =
      limiter.meter.admitted (some bucket) readings := by
  induction readings generalizing bucket with
  | nil => rfl
  | cons reading later ih =>
    have level := refillTo_entryOf limiter bucket reading
    by_cases takes : 1 ≤ limiter.meter.level (some bucket) reading
    · rw [admitted_of_ok (check_admitted (level ▸ takes)), Meter.admitted, if_pos takes, level]
      exact congrArg (reading :: ·) (ih (limiter.meter.taken (some bucket) reading))
    · obtain ⟨error, refused⟩ := check_refused (level ▸ takes)
      rw [admitted_of_error refused, Meter.admitted, if_neg takes]
      exact ih bucket

private theorem neverBack_entryOf (forward : limiter.NeverBack (some (entryOf bucket)) readings) :
    limiter.meter.NeverBack (some bucket) readings := by
  induction readings generalizing bucket with
  | nil => trivial
  | cons reading later ih =>
    obtain ⟨ahead, forward⟩ := forward
    have level := refillTo_entryOf limiter bucket reading
    constructor
    · intro takes kept present
      apply ahead (level ▸ takes)
      rw [found_entryOf, Option.mem_def.mp present]
      rfl
    · unfold Meter.next
      by_cases takes : 1 ≤ limiter.meter.level (some bucket) reading
      · rw [check_admitted (level ▸ takes), level] at forward
        rw [if_pos takes]
        exact ih forward
      · obtain ⟨error, refused⟩ := check_refused (level ▸ takes)
        rw [refused] at forward
        rw [if_neg takes]
        exact ih forward

/-- A bucket in which a check finds as much as under any other entry. -/
def standIn (limiter : RateLimiter) (entry : Option BucketEntry) (reading : Reading ℚ) :
    Bucket ℚ :=
  ⟨refillTo limiter.burst limiter.refillPerSec reading.now (found entry reading.time),
    reading.now, reading.time + 1⟩

private theorem level_standIn (limiter : RateLimiter) (entry : Option BucketEntry)
    (reading : Reading ℚ) :
    limiter.meter.level (some (limiter.standIn entry reading)) reading =
      refillTo limiter.burst limiter.refillPerSec reading.now (found entry reading.time) := by
  have alive : reading.time < reading.time + 1 := lt_add_one _
  have full := refillTo_le_burst limiter.burst limiter.refillPerSec reading.now
    (found entry reading.time)
  simp only [Meter.level, Meter.live, standIn, Option.filter_some, decide_eq_true_eq, if_pos alive,
    sub_self, max_self, zero_mul, add_zero]
  exact min_eq_right full

/-- The first admission of a run makes a bucket of whatever was under the key. -/
theorem admitted_standIn
    (takes : 1 ≤ refillTo limiter.burst limiter.refillPerSec reading.now
      (found entry reading.time)) :
    limiter.admitted entry (reading :: readings) =
      limiter.meter.admitted (some (limiter.standIn entry reading)) (reading :: readings) := by
  have level := level_standIn limiter entry reading
  rw [admitted_of_ok (check_admitted takes), Meter.admitted, if_pos (level.symm ▸ takes),
    Meter.taken, level]
  exact congrArg (reading :: ·) (admitted_entryOf limiter _ readings)

/-- The bucket a check that finds a token leaves. -/
theorem taken_standIn
    (takes : 1 ≤ refillTo limiter.burst limiter.refillPerSec reading.now
      (found entry reading.time)) :
    limiter.check entry reading =
      (.ok (), some (entryOf (limiter.meter.taken (some (limiter.standIn entry reading)) reading))) := by
  rw [check_admitted takes, Meter.taken, level_standIn]

theorem mem_admitted {other : Reading ℚ} (member : other ∈ limiter.admitted entry readings) :
    other ∈ readings := by
  induction readings generalizing entry with
  | nil => exact member
  | cons reading later ih =>
    by_cases takes : 1 ≤ refillTo limiter.burst limiter.refillPerSec reading.now
        (found entry reading.time)
    · rw [admitted_of_ok (check_admitted takes)] at member
      rcases List.mem_cons.mp member with same | among
      · exact same ▸ .head _
      · exact .tail _ (ih among)
    · obtain ⟨error, refused⟩ := check_refused takes
      rw [admitted_of_error refused] at member
      exact .tail _ (ih member)

/-- The checks that are admitted while the caller's clock shows a time of the interval. -/
def admittedByClock (limiter : RateLimiter) (entry : Option BucketEntry)
    (readings : List (Reading ℚ)) (s t : ℚ) : Nat :=
  (limiter.admitted entry readings).countP fun reading => decide (s ≤ reading.now ∧ reading.now ≤ t)

/-- The checks that are admitted between two times. -/
def admittedBetween (limiter : RateLimiter) (entry : Option BucketEntry)
    (readings : List (Reading ℚ)) (start finish : ℚ) : Nat :=
  Meter.between start finish (limiter.admitted entry readings)

variable {offset skew start finish : ℚ}

private theorem admittedByClock_eq
    (clock : ∀ reading ∈ readings, reading.now = reading.time + offset)
    (s t : ℚ) :
    limiter.admittedByClock entry readings s t =
      limiter.admittedBetween entry readings (s - offset) (t - offset) := by
  refine List.countP_congr fun reading member => ?_
  have shown := clock reading (mem_admitted member)
  simp only [decide_eq_true_eq, shown, sub_le_iff_le_add, le_sub_iff_add_le]

private theorem admittedBetween_of_refused
    (refused : ¬ 1 ≤ refillTo limiter.burst limiter.refillPerSec reading.now
      (found entry reading.time)) :
    limiter.admittedBetween entry (reading :: readings) start finish =
      limiter.admittedBetween entry readings start finish := by
  obtain ⟨error, refused⟩ := check_refused refused
  rw [admittedBetween, admitted_of_error refused, admittedBetween]

private theorem admittedBetween_nil (limiter : RateLimiter) (entry : Option BucketEntry) :
    limiter.admittedBetween entry [] start finish = 0 := rfl

/-- With one clock, whatever the key holds at first. -/
theorem admittedBetween_le (window : start ≤ finish)
    (clock : ∀ reading ∈ readings, reading.now = reading.time + offset)
    (ordered : readings.Pairwise fun first second => first.time ≤ second.time) :
    (limiter.admittedBetween entry readings start finish : ℚ) ≤
      limiter.burst + limiter.refillPerSec * (finish - start) := by
  induction readings generalizing entry with
  | nil =>
    have flown := mul_nonneg limiter.meter.rate_nonneg (sub_nonneg.mpr window)
    rw [admittedBetween_nil, Nat.cast_zero]
    exact add_nonneg limiter.meter.capacity_nonneg flown
  | cons reading later ih =>
    by_cases takes : 1 ≤ refillTo limiter.burst limiter.refillPerSec reading.now
        (found entry reading.time)
    · rw [admittedBetween, admitted_standIn takes]
      exact Meter.admitted_le_of_one_clock window ordered clock
    · rw [admittedBetween_of_refused takes]
      exact ih (fun other member => clock other (.tail _ member)) (List.pairwise_cons.mp ordered).2

/-- The token-bucket bound: while the caller's clock goes with the time and never back, an
interval of it admits at most a burst and what is refilled during it. -/
theorem admitted_within_rate (limiter : RateLimiter) (entry : Option BucketEntry)
    (readings : List (Reading ℚ)) (offset : ℚ)
    (clock : ∀ reading ∈ readings, reading.now = reading.time + offset)
    (ordered : readings.Pairwise fun first second => first.now ≤ second.now) (s t : ℚ)
    (interval : s ≤ t) :
    (limiter.admittedByClock entry readings s t : ℚ) ≤
      limiter.burst + limiter.refillPerSec * (t - s) := by
  have inTime : readings.Pairwise fun first second => first.time ≤ second.time := by
    refine ordered.imp_of_mem fun first second before => ?_
    rw [clock _ first, clock _ second] at before
    exact le_of_add_le_add_right before
  have bound : (limiter.admittedBetween entry readings (s - offset) (t - offset) : ℚ) ≤
      limiter.burst + limiter.refillPerSec * (t - offset - (s - offset)) :=
    admittedBetween_le (sub_le_sub_right interval offset) clock inTime
  rw [admittedByClock_eq clock]
  rwa [sub_sub_sub_cancel_right] at bound

/-- Two gateways, the clock of one ahead of the other's by a constant: as long as no check
that finds a token is behind the last refill it finds, the skew costs what is refilled
during it. -/
theorem skewed_within_rate (limiter : RateLimiter) (entry : Option BucketEntry)
    (readings : List (Reading ℚ)) (offset skew : ℚ) (ahead : 0 < skew)
    (clocks : ∀ reading ∈ readings, Meter.OfClocks offset skew reading)
    (ordered : readings.Pairwise fun first second => first.time ≤ second.time)
    (forward : limiter.NeverBack entry readings) (start length : ℚ) (nonneg : 0 ≤ length) :
    (limiter.admittedBetween entry readings start (start + length) : ℚ) ≤
      limiter.burst + limiter.refillPerSec * (length + skew) := by
  have window : start ≤ start + length := le_add_of_nonneg_right nonneg
  have measured : start + length - start = length := add_sub_cancel_left start length
  induction readings generalizing entry with
  | nil =>
    have flown := mul_nonneg limiter.meter.rate_nonneg (add_nonneg nonneg ahead.le)
    rw [admittedBetween_nil, Nat.cast_zero]
    exact add_nonneg limiter.meter.capacity_nonneg flown
  | cons reading later ih =>
    by_cases takes : 1 ≤ refillTo limiter.burst limiter.refillPerSec reading.now
        (found entry reading.time)
    · have onward := forward.2
      rw [taken_standIn takes] at onward
      have taking : 1 ≤ limiter.meter.level (some (limiter.standIn entry reading)) reading := by
        rw [level_standIn]
        exact takes
      have metered : limiter.meter.NeverBack (some (limiter.standIn entry reading))
          (reading :: later) := by
        constructor
        · intro _ kept present
          cases (Option.mem_filter_iff.mp present).1
          exact le_rfl
        · rw [Meter.next, if_pos taking]
          exact neverBack_entryOf onward
      have bound := Meter.admitted_le_of_neverBack ahead.le window ordered clocks metered
      rw [measured] at bound
      rw [admittedBetween, admitted_standIn takes]
      exact bound
    · have onward := forward.2
      obtain ⟨error, refused⟩ := check_refused takes
      rw [refused] at onward
      rw [admittedBetween_of_refused takes]
      exact ih entry (fun other member => clocks other (.tail _ member))
        (List.pairwise_cons.mp ordered).2 onward

def sampleLimiter : RateLimiter := ⟨2, 1, by decide, by decide⟩

/-- A check every half second on one clock. -/
def sampleReadings : List (Reading ℚ) := [⟨0, 100⟩, ⟨1/2, 100 + 1/2⟩, ⟨1, 101⟩]

theorem sample_within_rate :
    (sampleLimiter.admittedByClock none sampleReadings 100 101 : ℚ) ≤ 2 + 1 * (101 - 100) :=
  admitted_within_rate sampleLimiter none sampleReadings 100 (by decide +kernel) (by decide +kernel)
    100 101 (by decide +kernel)

/-- Checks of two gateways; the clock of one is two seconds ahead. -/
def skewedReadings : List (Reading ℚ) := [⟨0, 0⟩, ⟨1, 1⟩, ⟨1, 3⟩, ⟨4, 4⟩]

theorem sample_skewed_within_rate :
    (sampleLimiter.admittedBetween none skewedReadings 0 (0 + 4) : ℚ) ≤ 2 + 1 * (4 + 2) :=
  skewed_within_rate sampleLimiter none skewedReadings 0 2 (by decide +kernel) (by decide +kernel)
    (by decide +kernel) (by decide +kernel) 0 4 (by decide +kernel)

/-- Checks of the two at one moment, by turns. -/
def alternatingReadings : List (Reading ℚ) := [⟨0, 2⟩, ⟨0, 0⟩, ⟨0, 2⟩, ⟨0, 0⟩, ⟨0, 2⟩]

/-- Each turn of the slow clock moves the last refill back, and the next of the fast one
refills what has been refilled before. -/
theorem alternating_beyond_rate :
    (∀ reading ∈ alternatingReadings, Meter.OfClocks 0 2 reading) ∧
    (alternatingReadings.Pairwise fun first second => first.time ≤ second.time) ∧
    (2 + 1 * (0 + 2) : ℚ) <
      sampleLimiter.admittedBetween none alternatingReadings 0 (0 + 0) := by
  decide +kernel

end RateLimiter

end BrainMate.Gateway
