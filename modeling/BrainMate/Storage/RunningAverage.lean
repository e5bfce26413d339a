import Mathlib.Algebra.BigOperators.Group.List.Basic
import Mathlib.Algebra.Order.BigOperators.Group.Finset
import Mathlib.Algebra.Order.Field.Basic
import Mathlib.Algebra.Order.Interval.Finset.SuccPred
import Mathlib.Data.Nat.SuccPred
import Mathlib.Order.Interval.Finset.Nat
import Mathlib.Tactic.Linarith
import Mathlib.Tactic.LinearCombination
import Mathlib.Tactic.Ring

namespace BrainMate.Storage

variable {K : Type} [Field K] [LinearOrder K] [IsStrictOrderedRing K]

/-- The mean of `count` scores of that average and one more. -/
def nextMean (average count score : K) : K := (average * count + score) / (count + 1)

/-- The average that is kept of `count` scores and more. -/
def settle (round : K → K) : K → K → List K → K
  | average, _, [] => average
  | average, count, score :: rest =>
    settle round (round (nextMean average count score)) (count + 1) rest

/-- What all the roundings add, each with the weight of the scores it rounds the mean of. -/
def drift (round : K → K) : K → K → List K → K
  | _, _, [] => 0
  | average, count, score :: rest =>
    let exact := nextMean average count score
    (count + 1) * (round exact - exact) + drift round (round exact) (count + 1) rest

variable {round : K → K} {average count : K} {scores : List K}

theorem nextMean_mul (nonneg : 0 ≤ count) (score : K) :
    (count + 1) * nextMean average count score = average * count + score := by
  rw [nextMean, mul_div_cancel₀]
  linarith

omit [LinearOrder K] [IsStrictOrderedRing K] in
theorem settle_append (more : List K) :
    settle round average count (scores ++ more) =
      settle round (settle round average count scores) (count + scores.length) more := by
  induction scores generalizing average count with
  | nil => simp [settle]
  | cons score rest ih =>
    rw [List.cons_append, settle, ih, settle, List.length_cons, Nat.cast_succ, add_assoc,
      add_comm (1 : K)]

omit [LinearOrder K] [IsStrictOrderedRing K] in
theorem drift_append (more : List K) :
    drift round average count (scores ++ more) = drift round average count scores +
      drift round (settle round average count scores) (count + scores.length) more := by
  induction scores generalizing average count with
  | nil => simp [drift, settle]
  | cons score rest ih =>
    have later : count + 1 + (rest.length : K) = count + (score :: rest).length := by
      rw [List.length_cons, Nat.cast_succ]
      ring
    rw [List.cons_append, drift, ih, drift, settle, later, add_assoc]

theorem settle_mul (nonneg : 0 ≤ count) :
    settle round average count scores * (count + scores.length) =
      average * count + scores.sum + drift round average count scores := by
  induction scores generalizing average count with
  | nil => simp [settle, drift]
  | cons score rest ih =>
    have later := @ih (round (nextMean average count score)) (count + 1) (by linarith)
    have exact_mul := @nextMean_mul _ _ _ _ average _ nonneg score
    rw [settle, drift, List.sum_cons, List.length_cons, Nat.cast_succ,
      show count + ((rest.length : K) + 1) = count + 1 + rest.length by ring, later]
    linear_combination exact_mul

/-- The kept average is close to the mean just where the roundings do not drift. -/
theorem settle_close_iff {distance : K} (some_ : scores ≠ []) :
    |settle round average 0 scores - scores.sum / scores.length| ≤ distance ↔
      |drift round average 0 scores| ≤ distance * scores.length := by
  have positive : (0 : K) < scores.length := by exact_mod_cast List.length_pos_iff.mpr some_
  have whole := @settle_mul _ _ _ _ round average 0 scores (le_refl 0)
  rw [zero_add, mul_zero, zero_add] at whole
  have apart : settle round average 0 scores - scores.sum / scores.length =
      drift round average 0 scores / scores.length := by
    rw [eq_div_iff positive.ne', sub_mul, div_mul_cancel₀ _ positive.ne', whole]
    ring
  rw [apart, abs_div, abs_of_pos positive, div_le_iff₀ positive]

/-- While rounding leaves the means as they are, they are what is kept. -/
theorem settle_exact (exact_ : ∀ front, front <+: scores → front ≠ [] →
      round (front.sum / front.length) = front.sum / front.length) :
    settle round 0 0 scores * scores.length = scores.sum := by
  induction scores using List.reverseRecOn with
  | nil => simp
  | append_singleton scores score ih =>
    have before := ih fun front inside => exact_ front (inside.trans (List.prefix_append _ _))
    have fixed := exact_ _ (List.prefix_refl _)
      (List.append_ne_nil_of_right_ne_nil _ (List.cons_ne_nil _ _))
    have next : nextMean (settle round 0 0 scores) scores.length score =
        (scores ++ [score]).sum / (scores ++ [score]).length := by
      rw [nextMean, before]
      simp
    have positive : ((scores ++ [score]).length : K) ≠ 0 := by
      rw [List.length_append, List.length_singleton]
      exact_mod_cast Nat.succ_ne_zero scores.length
    rw [settle_append, zero_add, settle, settle, next, fixed, div_mul_cancel₀ _ positive]

/-- The drift weighs no more than what a rounding may add at each of the numbers of scores. -/
theorem abs_drift_le {weight : ℕ → K} {Kept Score : K → Prop}
    (step : ∀ (average score : K) (count : ℕ), Kept average → Score score →
      Kept (round (nextMean average count score)) ∧
        |(count + 1) * (round (nextMean average count score) - nextMean average count score)| ≤
          weight (count + 1))
    (kept : Kept average) (scored : ∀ score ∈ scores, Score score) (count : ℕ) :
    |drift round average count scores| ≤
      ∑ k ∈ Finset.Ioc count (count + scores.length), weight k := by
  induction scores generalizing average count with
  | nil => simp [drift]
  | cons score rest ih =>
    obtain ⟨first, others⟩ := List.forall_mem_cons.mp scored
    obtain ⟨keeps, here⟩ := step average score count kept first
    have later := ih keeps others (count + 1)
    have split : ∑ k ∈ Finset.Ioc count (count + (score :: rest).length), weight k =
        weight (count + 1) + ∑ k ∈ Finset.Ioc (count + 1) (count + 1 + rest.length), weight k := by
      rw [List.length_cons, show count + (rest.length + 1) = count + 1 + rest.length by omega,
        ← Finset.insert_Ioc_add_one_left_eq_Ioc (show count < count + 1 + rest.length by omega),
        Finset.sum_insert (by simp)]
    rw [drift, split]
    push_cast at later
    exact (abs_add_le _ _).trans (add_le_add here later)

omit [LinearOrder K] [IsStrictOrderedRing K] in
/-- The average stays where it is once rounding takes back each of the scores. -/
theorem settle_replicate {score : K}
    (stays : ∀ more : ℕ, round (nextMean average (count + more) score) = average) (times : ℕ) :
    settle round average count (List.replicate times score) = average := by
  induction times generalizing count with
  | zero => rfl
  | succ times ih =>
    have first := stays 0
    rw [Nat.cast_zero, add_zero] at first
    rw [List.replicate_succ, settle, first]
    refine ih fun more => ?_
    have later := stays (more + 1)
    rwa [Nat.cast_succ, add_comm (more : K), ← add_assoc] at later

end BrainMate.Storage
