import BrainMate.Storage.Numeric
import Mathlib.Algebra.BigOperators.Group.List.Basic
import Mathlib.Data.Finset.Card
import Mathlib.Data.Finset.Dedup

namespace BrainMate.WriteRight.Percentile

open Storage

/-- A row of `writeright_writing_sessions`, as far as the function reads it. -/
structure SessionRow where
  clerkUserId : String
  improvements : Int

/-- `COALESCE(SUM(improvements), 0)` over the rows of the user. -/
def totalImp (rows : List SessionRow) (userId : String) : Int :=
  ((rows.filter (·.clerkUserId = userId)).map (·.improvements)).sum

/-- The groups of `GROUP BY clerk_user_id`. -/
def users (rows : List SessionRow) : Finset String := (rows.map (·.clerkUserId)).toFinset

/-- The users of the groups with `total_imp < v_user_score`. -/
def below (rows : List SessionRow) (userScore : Int) : Finset String :=
  (users rows).filter fun userId => totalImp rows userId < userScore

/-- `LEAST(GREATEST(ROUND(v_percentile, 1), 1.0), 99.0)` -/
def clamped (percentile : ℚ) : ℚ := min (max (roundTo 1 percentile) 1) 99

/-- `v_user_score` and `v_total_users` are integer variables. -/
def getGlobalPercentile (rows : List SessionRow) (userId : String) : Except String ℚ := do
  let userScore ← int4 (totalImp rows userId)
  if userScore = 0 then
    return 1
  let totalUsers ← int4 (users rows).card
  if totalUsers ≤ 1 then
    return 99
  return clamped ((below rows userScore).card / totalUsers * 100)

def AtLeastOne (rows : List SessionRow) : Prop := ∀ row ∈ rows, 1 ≤ row.improvements

/-- The users of the table can be counted in an integer variable. -/
def Counted (rows : List SessionRow) : Prop := (users rows).card < 2 ^ 31

/-- The rows after improvements of the user came in, in new rows or in old ones, one or many: those
of the others are what they were. -/
structure Improved (userId : String) (rows after : List SessionRow) : Prop where
  others : (after.filter (·.clerkUserId ≠ userId)).Perm (rows.filter (·.clerkUserId ≠ userId))
  more : totalImp rows userId ≤ totalImp after userId

variable {rows after : List SessionRow} {userId other : String}

private theorem mem_users : userId ∈ users rows ↔ ∃ row ∈ rows, row.clerkUserId = userId := by
  simp [users]

private theorem totalImp_cons (row : SessionRow) (rows : List SessionRow) (userId : String) :
    totalImp (row :: rows) userId =
      (if row.clerkUserId = userId then row.improvements else 0) + totalImp rows userId := by
  by_cases same : row.clerkUserId = userId
  · simp [totalImp, same]
  · simp [totalImp, same]

private theorem totalImp_append (rows more : List SessionRow) (userId : String) :
    totalImp (rows ++ more) userId = totalImp rows userId + totalImp more userId := by
  simp [totalImp]

private theorem totalImp_nonneg (positive : AtLeastOne rows) (userId : String) :
    0 ≤ totalImp rows userId := by
  apply List.sum_nonneg
  intro improvements counted
  obtain ⟨row, own, rfl⟩ := List.mem_map.mp counted
  exact Int.le_trans Int.one_nonneg (positive row (List.mem_of_mem_filter own))

private theorem totalImp_eq_zero (absent : userId ∉ users rows) : totalImp rows userId = 0 := by
  have none : rows.filter (·.clerkUserId = userId) = [] := by
    apply List.filter_eq_nil_iff.mpr
    intro row stored same
    exact absent (mem_users.mpr ⟨row, stored, of_decide_eq_true same⟩)
  rw [totalImp, none, List.map_nil, List.sum_nil]

/-- A user with a total has rows. -/
theorem mem_users_of_ne_zero (scored : totalImp rows userId ≠ 0) : userId ∈ users rows :=
  Decidable.not_not.mp fun absent => scored (totalImp_eq_zero absent)

/-- A new row is one way to come by improvements. -/
theorem improved_insert (rows : List SessionRow) (userId : String) {improvements : Int}
    (nonneg : 0 ≤ improvements) : Improved userId rows (⟨userId, improvements⟩ :: rows) := by
  constructor
  · rw [List.filter_cons_of_neg (by simp)]
  · rw [totalImp_cons, if_pos rfl]
    linarith

/-- And an update of a row is another. -/
theorem improved_update (before rest : List SessionRow) (row : SessionRow) {improvements : Int}
    (nonneg : 0 ≤ improvements) :
    Improved row.clerkUserId (before ++ row :: rest)
      (before ++ { row with improvements := row.improvements + improvements } :: rest) := by
  constructor
  · rw [List.filter_append, List.filter_append, List.filter_cons_of_neg (by simp),
      List.filter_cons_of_neg (by simp)]
  · rw [totalImp_append, totalImp_append, totalImp_cons, totalImp_cons, if_pos rfl, if_pos rfl]
    dsimp only
    linarith

namespace Improved

private theorem totalImp_other (improved : Improved userId rows after) (apart : other ≠ userId) :
    totalImp after other = totalImp rows other := by
  have own : ∀ rows : List SessionRow, rows.filter (·.clerkUserId = other) =
      (rows.filter (·.clerkUserId ≠ userId)).filter (·.clerkUserId = other) := by
    intro rows
    rw [List.filter_filter]
    apply List.filter_congr
    intro row _
    by_cases same : row.clerkUserId = other
    · simp [same, apart]
    · simp [same]
  rw [totalImp, totalImp, own after, own rows]
  exact ((improved.others.filter _).map _).sum_eq

private theorem mem_users_other (improved : Improved userId rows after) (apart : other ≠ userId) :
    other ∈ users after ↔ other ∈ users rows := by
  have own : ∀ rows : List SessionRow, other ∈ users rows ↔
      ∃ row ∈ rows.filter (·.clerkUserId ≠ userId), row.clerkUserId = other := by
    intro rows
    rw [mem_users]
    constructor
    · intro ⟨row, stored, same⟩
      exact ⟨row, List.mem_filter.mpr ⟨stored, decide_eq_true (same ▸ apart)⟩, same⟩
    · intro ⟨row, kept, same⟩
      exact ⟨row, List.mem_of_mem_filter kept, same⟩
  rw [own after, own rows]
  constructor
  · intro ⟨row, kept, same⟩
    exact ⟨row, improved.others.mem_iff.mp kept, same⟩
  · intro ⟨row, kept, same⟩
    exact ⟨row, improved.others.mem_iff.mpr kept, same⟩

/-- A user who has rows before and after leaves the table with the same users. -/
theorem users_eq (improved : Improved userId rows after) (before : userId ∈ users rows)
    (still : userId ∈ users after) : users after = users rows := by
  ext other
  by_cases same : other = userId
  · rw [same]
    exact iff_of_true still before
  · exact improved.mem_users_other same

end Improved

private theorem below_mono {low high : Int} (le : low ≤ high) :
    below rows low ⊆ below rows high := by
  intro other passed
  obtain ⟨stored, less⟩ := Finset.mem_filter.mp passed
  exact Finset.mem_filter.mpr ⟨stored, less.trans_le le⟩

/-- Nobody overtakes a user by that user's own improvements. -/
theorem Improved.below_subset (improved : Improved userId rows after) :
    below rows (totalImp rows userId) ⊆ below after (totalImp after userId) := by
  intro other passed
  obtain ⟨stored, less⟩ := Finset.mem_filter.mp passed
  have apart : other ≠ userId := by
    rintro rfl
    exact lt_irrefl _ less
  refine Finset.mem_filter.mpr ⟨(improved.mem_users_other apart).mpr stored, ?_⟩
  rw [improved.totalImp_other apart]
  exact less.trans_le improved.more

private theorem clamped_mem (percentile : ℚ) :
    1 ≤ clamped percentile ∧ clamped percentile ≤ 99 := by
  constructor
  · exact le_min (le_max_right _ _) (by norm_num)
  · exact min_le_right _ _

private theorem clamped_mono {low high : ℚ} (nonneg : 0 ≤ low) (le : low ≤ high) :
    clamped low ≤ clamped high :=
  min_le_min_right _ (max_le_max_right _ (roundTo_mono 1 nonneg le))

/-- More users below, more of a percentile. -/
theorem clamped_card_mono {fewer more totalUsers : ℕ} (le : fewer ≤ more) :
    clamped (fewer / (totalUsers : Int) * 100) ≤ clamped (more / (totalUsers : Int) * 100) := by
  have count : (fewer : ℚ) ≤ more := by exact_mod_cast le
  have users : (0 : ℚ) ≤ (totalUsers : Int) := by positivity
  apply clamped_mono
  · positivity
  · exact mul_le_mul_of_nonneg_right (div_le_div_of_nonneg_right count users) (by norm_num)

/-- What the function makes of a total and of the groups. -/
def percentileOf (userScore : Int) (totalUsers below : ℕ) : ℚ :=
  if userScore = 0 then 1
  else if totalUsers ≤ 1 then 99
  else clamped (below / (totalUsers : Int) * 100)

private theorem percentileOf_mem (userScore : Int) (totalUsers below : ℕ) :
    1 ≤ percentileOf userScore totalUsers below ∧ percentileOf userScore totalUsers below ≤ 99 := by
  rw [percentileOf]
  split
  · norm_num
  · split
    · norm_num
    · exact clamped_mem _

private theorem percentileOf_mono {low high : Int} {totalUsers fewer more : ℕ}
    (scored : low ≠ 0 → high ≠ 0)
    (le : fewer ≤ more) : percentileOf low totalUsers fewer ≤ percentileOf high totalUsers more := by
  by_cases zero : low = 0
  · rw [percentileOf, if_pos zero]
    exact (percentileOf_mem high totalUsers more).1
  · rw [percentileOf, if_neg zero, percentileOf, if_neg (scored zero)]
    split
    · exact le_refl _
    · exact clamped_card_mono le

/-- The percentile of a user, where the variables can hold the numbers. -/
abbrev percentile (rows : List SessionRow) (userId : String) : ℚ :=
  percentileOf (totalImp rows userId) (users rows).card
    (below rows (totalImp rows userId)).card

private theorem int4_natCast {count : ℕ} (fits : count < 2 ^ 31) :
    int4 count = .ok (count : Int) := by
  rw [int4, if_pos]
  constructor
  · exact le_trans (by norm_num) (Int.natCast_nonneg count)
  · have cast := Int.ofNat_lt.mpr fits
    rwa [Int.natCast_pow] at cast

theorem getGlobalPercentile_eq (positive : AtLeastOne rows) (counted : Counted rows)
    (fits : totalImp rows userId < 2 ^ 31) :
    getGlobalPercentile rows userId = .ok (percentile rows userId) := by
  have nonneg := totalImp_nonneg positive userId
  have held : int4 (totalImp rows userId) = .ok (totalImp rows userId) := by
    rw [int4, if_pos ⟨by linarith, fits⟩]
  have users : int4 (users rows).card = .ok ((users rows).card : Int) := int4_natCast counted
  rw [getGlobalPercentile, held, users, percentile, percentileOf]
  by_cases zero : totalImp rows userId = 0
  · rw [if_pos zero]
    exact if_pos zero
  · rw [if_neg zero]
    refine (if_neg zero).trans ?_
    by_cases alone : (Percentile.users rows).card ≤ 1
    · rw [if_pos alone]
      exact if_pos (Nat.cast_le_one.mpr alone)
    · rw [if_neg alone]
      exact if_neg fun cast => alone (Nat.cast_le_one.mp cast)

/-- A total beyond the variable raises. -/
theorem getGlobalPercentile_raises (beyond : 2 ^ 31 ≤ totalImp rows userId) :
    getGlobalPercentile rows userId = .error "integer out of range" := by
  rw [getGlobalPercentile, int4, if_neg (by omega)]
  rfl

private theorem percentile_mono {first second : String} (positive : AtLeastOne rows)
    (le : totalImp rows first ≤ totalImp rows second) :
    percentile rows first ≤ percentile rows second := by
  apply percentileOf_mono
  · intro scored
    have nonneg := totalImp_nonneg positive first
    omega
  · exact Finset.card_le_card (below_mono le)

private theorem percentile_improved (improved : Improved userId rows after)
    (positive : AtLeastOne rows) :
    percentile rows userId ≤ percentile after userId := by
  have nonneg := totalImp_nonneg positive userId
  have more := improved.more
  by_cases zero : totalImp rows userId = 0
  · rw [percentile, zero, percentileOf, if_pos rfl]
    exact (percentileOf_mem _ _ _).1
  · have still : totalImp after userId ≠ 0 := by omega
    rw [percentile, percentile,
      improved.users_eq (mem_users_of_ne_zero zero) (mem_users_of_ne_zero still)]
    exact percentileOf_mono (fun _ => still) (Finset.card_le_card improved.below_subset)

/-- The percentile is ordered and bounded, for the totals that an integer variable holds. -/
structure Ordered (rows : List SessionRow) : Prop where
  bounded : ∀ userId, totalImp rows userId < 2 ^ 31 →
    ∃ percentile, getGlobalPercentile rows userId = .ok percentile ∧ 1 ≤ percentile ∧ percentile ≤ 99
  monotone : ∀ first second, totalImp rows second < 2 ^ 31 →
    totalImp rows first ≤ totalImp rows second →
      ∃ low high, getGlobalPercentile rows first = .ok low ∧
        getGlobalPercentile rows second = .ok high ∧ low ≤ high
  improves : ∀ userId after, Improved userId rows after → AtLeastOne after → Counted after →
    totalImp after userId < 2 ^ 31 →
      ∃ low high, getGlobalPercentile rows userId = .ok low ∧
        getGlobalPercentile after userId = .ok high ∧ low ≤ high

theorem getGlobalPercentile_ordered (positive : AtLeastOne rows) (counted : Counted rows) :
    Ordered rows := by
  constructor
  · intro userId fits
    exact ⟨_, getGlobalPercentile_eq positive counted fits, percentileOf_mem _ _ _⟩
  · intro first second fits le
    exact ⟨_, _, getGlobalPercentile_eq positive counted (le.trans_lt fits),
      getGlobalPercentile_eq positive counted fits, percentile_mono positive le⟩
  · intro userId after improved still enough fits
    exact ⟨_, _, getGlobalPercentile_eq positive counted (improved.more.trans_lt fits),
      getGlobalPercentile_eq still enough fits, percentile_improved improved positive⟩

/-- Two users, one of them with two rows. -/
def threeRows : List SessionRow := [⟨"ada", 3⟩, ⟨"bo", 1⟩, ⟨"ada", 2⟩]

theorem threeRows_ordered : Ordered threeRows :=
  getGlobalPercentile_ordered (by simp [AtLeastOne, threeRows]) (by rw [Counted]; decide)

/-- The rows are fine, one by one, but not their total. -/
def fullRows : List SessionRow := [⟨"ada", 2147483647⟩, ⟨"ada", 1⟩]

theorem fullRows_raises : AtLeastOne fullRows ∧
    ¬ ∃ percentile, getGlobalPercentile fullRows "ada" = .ok percentile := by
  constructor
  · simp [AtLeastOne, fullRows]
  · intro ⟨percentile, returned⟩
    rw [getGlobalPercentile_raises (by decide)] at returned
    cases returned

end BrainMate.WriteRight.Percentile
