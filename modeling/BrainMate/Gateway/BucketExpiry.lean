import BrainMate.Gateway.RequestStores

/-! The two backends of `evalsha_i64` with exact arithmetic: Redis, which drops a bucket after
its TTL, and `InMemoryRedis`, which never does, on the checks of many keys. -/

namespace BrainMate.Gateway.RateLimiter

open Metering

/-- What is under each key. -/
abbrev Buckets := String → Option BucketEntry

/-- Redis drops what is past its deadline. -/
def forget (time : ℚ) (store : Buckets) : Buckets :=
  fun key => (store key).filter fun entry => entry.alive time

/-- `evalsha_i64` of `Backend::Redis`. The arguments are numbers, as `check` writes them. -/
def evalshaRedis (key : String) (args : List ℚ) (time : ℚ) (store : Buckets) :
    Except RedisLayerError (List Int) × Buckets :=
  match args with
  | [burst, refillPerSec, now] =>
    let kept := forget time store
    let run := rateLimitScript burst refillPerSec now ((kept key).map BucketEntry.text)
    match run.write with
    | some (text, ttlSecs) =>
      (.ok [run.admitted, run.waitSecs],
        Function.update kept key (some ⟨text, some (time + ttlSecs)⟩))
    | none => (.ok [run.admitted, run.waitSecs], kept)
  | _ => (.error (.command "attempt to compare nil with number"), forget time store)

/-- `InMemoryRedis::evalsha_i64`: nothing is pruned, and what is no rate limit is admitted. -/
def evalshaI64 (available : Bool) (key : String) (args : List ℚ) (instant : ℚ) (state : Buckets) :
    Except RedisLayerError (List Int) × Buckets :=
  if available then
    match key.startsWith "rate_limit:", args with
    | true, [burst, refillPerSec, now] =>
      let (tokens, lastRefill) := bucketOf burst now ((state key).map BucketEntry.text)
      let elapsed := max (now - lastRefill) 0
      let tokens := min (tokens + elapsed * refillPerSec) burst
      if 1 ≤ tokens then
        let expiresAt := instant + (⌊burst / refillPerSec⌋₊ * 2 : Nat)
        (.ok [1, 0],
          Function.update state key (some ⟨.parts (some (tokens - 1)) (some now), some expiresAt⟩))
      else (.ok [0, ⌈(1 - tokens) / refillPerSec⌉], state)
    | _, _ => (.ok [1, 0], state)
  else (.error (.unavailable "redis is unavailable"), state)

/-- One call of `check`, at a time and with what the caller's clock shows. -/
structure RateCheck where
  scope : RateLimitScope
  id : String
  reading : Reading ℚ

section Runs

variable (limiter : RateLimiter) (sha256Hex : String → String)

def args (now : ℚ) : List ℚ := [limiter.burst, limiter.refillPerSec, now]

/-- What the script answers to the checks of a run. -/
def redisAnswers (store : Buckets) : List RateCheck → List (Except RedisLayerError (List Int))
  | [] => []
  | check :: later =>
    let (answer, store) := evalshaRedis (redisKey sha256Hex check.scope check.id).render
      (limiter.args check.reading.now) check.reading.time store
    answer :: redisAnswers store later

/-- What `InMemoryRedis` answers to them. -/
def memoryAnswers (state : Buckets) : List RateCheck → List (Except RedisLayerError (List Int))
  | [] => []
  | check :: later =>
    let (answer, state) := evalshaI64 true (redisKey sha256Hex check.scope check.id).render
      (limiter.args check.reading.now) check.reading.time state
    answer :: memoryAnswers state later

end Runs

variable {limiter : RateLimiter} {sha256Hex : String → String} {offset last : ℚ}
variable {reading : Reading ℚ} {kept remembered : Option BucketEntry} {store state : Buckets}
variable {key : String}

/-- What Redis and the map have under a key, the last check having been at a time. -/
inductive Remembers (limiter : RateLimiter) (offset last : ℚ) :
    Option BucketEntry → Option BucketEntry → Prop where
  | untouched : Remembers limiter offset last none none
  | kept (bucket : Bucket ℚ) (own : limiter.meter.OneClock offset bucket) (expiresAt : Option ℚ) :
    Remembers limiter offset last (some (entryOf bucket))
      (some ⟨.parts (some bucket.tokens) (some bucket.since), expiresAt⟩)
  | forgotten (bucket : Bucket ℚ) (own : limiter.meter.OneClock offset bucket)
    (expiresAt : Option ℚ) (late : bucket.deadline ≤ last) :
    Remembers limiter offset last none
      (some ⟨.parts (some bucket.tokens) (some bucket.since), expiresAt⟩)

/-- Time passes, and Redis drops what is past its deadline. -/
theorem Remembers.pass (remembers : Remembers limiter offset last kept remembered) {time : ℚ}
    (later : last ≤ time) :
    Remembers limiter offset time (kept.filter fun entry => entry.alive time) remembered := by
  cases remembers with
  | untouched => exact .untouched
  | kept bucket own expiresAt =>
    by_cases alive : time < bucket.deadline
    · have stays : (entryOf bucket).alive time = true := decide_eq_true alive
      rw [Option.filter_some, if_pos stays]
      exact .kept bucket own expiresAt
    · have drops : (entryOf bucket).alive time = false := decide_eq_false alive
      rw [Option.filter_some, drops]
      exact .forgotten bucket own expiresAt (not_lt.mp alive)
  | forgotten bucket own expiresAt late =>
    exact .forgotten bucket own expiresAt (late.trans later)

/-- Both find the same tokens. -/
theorem Remembers.refillTo (remembers : Remembers limiter offset reading.time kept remembered)
    (clock : reading.now = reading.time + offset) :
    refillTo limiter.burst limiter.refillPerSec reading.now (kept.map BucketEntry.text) =
      RateLimiter.refillTo limiter.burst limiter.refillPerSec reading.now
        (remembered.map BucketEntry.text) := by
  cases remembers with
  | untouched => rfl
  | kept bucket own expiresAt => rfl
  | forgotten bucket own expiresAt late =>
    have full : limiter.meter.filled bucket reading = limiter.meter.capacity := own.full clock late
    have empty : RateLimiter.refillTo limiter.burst limiter.refillPerSec reading.now none =
        limiter.burst := by
      simp [RateLimiter.refillTo, bucketOf]
    exact empty.trans full.symm

/-- What a check that finds a token leaves under the key. -/
theorem Remembers.taken (limiter : RateLimiter) {tokens : ℚ} (takes : 1 ≤ tokens)
    (clock : reading.now = reading.time + offset) (expiresAt : Option ℚ) :
    Remembers limiter offset reading.time
      (some (entryOf ⟨tokens - 1, reading.now, reading.time + limiter.meter.lifetime⟩))
      (some ⟨.parts (some (tokens - 1)) (some reading.now), expiresAt⟩) := by
  refine .kept ⟨tokens - 1, reading.now, reading.time + limiter.meter.lifetime⟩ ⟨?_, ?_⟩ expiresAt
  · exact sub_nonneg.mpr takes
  · rw [add_sub_cancel_right]
    exact clock

private theorem startsWith_render (sha256Hex : String → String) (scope : RateLimitScope)
    (id : String) :
    (redisKey sha256Hex scope id).render.startsWith "rate_limit:" = true := by
  simp [redisKey, RedisKey.render, RedisKey.tag]

/-- The script on the tokens it finds. -/
theorem evalshaRedis_eq (limiter : RateLimiter) (key : String) (reading : Reading ℚ)
    (store : Buckets) {tokens : ℚ}
    (finds : refillTo limiter.burst limiter.refillPerSec reading.now
      ((forget reading.time store key).map BucketEntry.text) = tokens) :
    evalshaRedis key (limiter.args reading.now) reading.time store =
      if 1 ≤ tokens then
        (.ok [1, 0], Function.update (forget reading.time store) key
          (some (entryOf ⟨tokens - 1, reading.now, reading.time + limiter.meter.lifetime⟩)))
      else (.ok [0, ⌈(1 - tokens) / limiter.refillPerSec⌉], forget reading.time store) := by
  by_cases takes : 1 ≤ tokens
  · delta evalshaRedis args
    simp only [rateLimitScript, finds, if_pos takes]
    rfl
  · delta evalshaRedis args
    simp only [rateLimitScript, finds, if_neg takes]

/-- `InMemoryRedis` on the tokens it finds. -/
theorem evalshaI64_eq (limiter : RateLimiter) (reading : Reading ℚ) (state : Buckets) {tokens : ℚ}
    (rated : key.startsWith "rate_limit:" = true)
    (finds : refillTo limiter.burst limiter.refillPerSec reading.now
      ((state key).map BucketEntry.text) = tokens) :
    evalshaI64 true key (limiter.args reading.now) reading.time state =
      if 1 ≤ tokens then
        (.ok [1, 0], Function.update state key
          (some ⟨.parts (some (tokens - 1)) (some reading.now),
            some (reading.time + (⌊(limiter.burst : ℚ) / limiter.refillPerSec⌋₊ * 2 : Nat))⟩))
      else (.ok [0, ⌈(1 - tokens) / limiter.refillPerSec⌉], state) := by
  have same : min ((bucketOf limiter.burst reading.now ((state key).map BucketEntry.text)).1 +
      max (reading.now - (bucketOf limiter.burst reading.now
        ((state key).map BucketEntry.text)).2) 0 * limiter.refillPerSec) limiter.burst = tokens := by
    rw [min_comm, max_comm]
    exact finds
  delta evalshaI64 args
  simp only [rated, if_true, same]

/-- Two key spaces that remember the same buckets. -/
def Agree (limiter : RateLimiter) (offset last : ℚ) (store state : Buckets) : Prop :=
  ∀ key, Remembers limiter offset last (store key) (state key)

theorem Agree.update (agree : Agree limiter offset last store state)
    (same : Remembers limiter offset last kept remembered) :
    Agree limiter offset last (Function.update store key kept)
      (Function.update state key remembered) := by
  intro other
  by_cases own : other = key
  · subst own
    rw [Function.update_self, Function.update_self]
    exact same
  · rw [Function.update_of_ne own, Function.update_of_ne own]
    exact agree other

/-- A check gets the same answer of both, and they go on in agreement. -/
theorem Agree.check (agree : Agree limiter offset last store state)
    (rated : key.startsWith "rate_limit:" = true) (later : last ≤ reading.time)
    (clock : reading.now = reading.time + offset) :
    (evalshaRedis key (limiter.args reading.now) reading.time store).1 =
        (evalshaI64 true key (limiter.args reading.now) reading.time state).1 ∧
      Agree limiter offset reading.time
        (evalshaRedis key (limiter.args reading.now) reading.time store).2
        (evalshaI64 true key (limiter.args reading.now) reading.time state).2 := by
  have passed : Agree limiter offset reading.time (forget reading.time store) state :=
    fun other => (agree other).pass later
  have finds := (passed key).refillTo clock
  rw [evalshaRedis_eq limiter key reading store finds, evalshaI64_eq limiter reading state rated rfl]
  split
  · rename_i takes
    exact ⟨rfl, passed.update (.taken limiter takes clock _)⟩
  · exact ⟨rfl, passed⟩

/-- Every run, from key spaces that agree. -/
theorem Agree.answers (agree : Agree limiter offset last store state) {checks : List RateCheck}
    (clock : ∀ check ∈ checks, check.reading.now = check.reading.time + offset)
    (after : ∀ check ∈ checks, last ≤ check.reading.time)
    (ordered : checks.Pairwise fun first second => first.reading.time ≤ second.reading.time) :
    limiter.redisAnswers sha256Hex store checks = limiter.memoryAnswers sha256Hex state checks := by
  induction checks generalizing store state last with
  | nil => rfl
  | cons check later ih =>
    obtain ⟨next, ordered⟩ := List.pairwise_cons.mp ordered
    obtain ⟨same, agree⟩ := agree.check (startsWith_render sha256Hex check.scope check.id)
      (after check (.head _)) (clock check (.head _))
    have rest := ih agree (fun other member => clock other (.tail _ member)) next ordered
    exact congrArg₂ List.cons same rest

/-- The expiry of buckets is unobservable: on checks in the order of time, Redis and the map
that never drops a bucket decide alike and ask for the same wait. -/
theorem expiry_unobservable (limiter : RateLimiter) (sha256Hex : String → String) (offset : ℚ)
    (checks : List RateCheck)
    (clock : ∀ check ∈ checks, check.reading.now = check.reading.time + offset)
    (ordered : checks.Pairwise fun first second => first.reading.time ≤ second.reading.time) :
    limiter.redisAnswers sha256Hex (fun _ => none) checks =
      limiter.memoryAnswers sha256Hex (fun _ => none) checks := by
  cases checks with
  | nil => rfl
  | cons check later =>
    have empty : Agree limiter offset check.reading.time (fun _ => none) fun _ => none :=
      fun _ => .untouched
    refine empty.answers clock ?_ ordered
    intro other member
    rcases List.mem_cons.mp member with rfl | among
    · exact le_rfl
    · exact (List.pairwise_cons.mp ordered).1 other among

/-- Two checks that use up the burst, one that is turned away, and one long after the bucket
has been dropped. -/
def sampleChecks : List RateCheck :=
  [⟨.ip, "10.0.0.1", ⟨0, 100⟩⟩, ⟨.ip, "10.0.0.1", ⟨0, 100⟩⟩, ⟨.ip, "10.0.0.1", ⟨1/4, 100 + 1/4⟩⟩,
    ⟨.ip, "10.0.0.1", ⟨9, 109⟩⟩]

theorem sample_expiry_unobservable :
    sampleLimiter.redisAnswers id (fun _ => none) sampleChecks =
      sampleLimiter.memoryAnswers id (fun _ => none) sampleChecks :=
  expiry_unobservable sampleLimiter id 100 sampleChecks (by decide +kernel) (by decide +kernel)

end BrainMate.Gateway.RateLimiter
