import Mathlib.Algebra.BigOperators.Field
import BrainMate.Storage.Numeric
import BrainMate.Storage.RunningAverage

namespace BrainMate.WriteRight.Session

open Storage

/-- `ARRAY(SELECT DISTINCT unnest(modes))`: each mode once, in an order that is left open. -/
structure SelectDistinct where
  select : List String → List String
  nodup : ∀ modes, (select modes).Nodup
  mem_iff : ∀ modes mode, mode ∈ select modes ↔ mode ∈ modes

/-- A row of `writeright_writing_sessions`, as far as the function sets it. -/
structure SessionRow where
  improvements : Int
  totalTokens : Int
  avgClarity : ℚ
  avgToneScore : ℚ
  avgImpactScore : ℚ
  modesUsed : List String
  wordCount : Int

/-- The parameters of a call for the user, on the day. -/
structure Call where
  clarity : ℚ
  tone : ℚ
  impact : ℚ
  tokens : Int
  mode : String
  wordCount : Int

/-- `ROUND((avg * improvements + score) / (improvements + 1), 1)` -/
def roundedMean (avg : ℚ) (improvements : Int) (score : ℚ) : ℚ :=
  roundTo 1 ((avg * improvements + score) / (improvements + 1))

def insertRow (call : Call) : Except String SessionRow := do
  let totalTokens ← int4 call.tokens
  let avgClarity ← numeric 4 1 call.clarity
  let avgToneScore ← numeric 4 1 call.tone
  let avgImpactScore ← numeric 4 1 call.impact
  let wordCount ← int4 call.wordCount
  return {
    improvements := 1
    totalTokens, avgClarity, avgToneScore, avgImpactScore
    modesUsed := [call.mode]
    wordCount }

def updateRow (distinct : SelectDistinct) (row : SessionRow) (call : Call) :
    Except String SessionRow := do
  let improvements ← int4 (row.improvements + 1)
  let totalTokens ← int4 (row.totalTokens + call.tokens)
  let wordCount ← int4 (row.wordCount + call.wordCount)
  let avgClarity ← numeric 4 1 (roundedMean row.avgClarity row.improvements call.clarity)
  let avgToneScore ← numeric 4 1 (roundedMean row.avgToneScore row.improvements call.tone)
  let avgImpactScore ← numeric 4 1 (roundedMean row.avgImpactScore row.improvements call.impact)
  return {
    improvements, totalTokens, avgClarity, avgToneScore, avgImpactScore
    modesUsed := distinct.select (row.modesUsed ++ [call.mode])
    wordCount }

def upsertWritingSession (distinct : SelectDistinct) (row : Option SessionRow) (call : Call) :
    Except String SessionRow :=
  match row with
  | none => insertRow call
  | some row => updateRow distinct row call

/-- The row after the calls of a day; none of them has raised. -/
def dayOf (distinct : SelectDistinct) : Option SessionRow → List Call → Except String (Option SessionRow)
  | row, [] => .ok row
  | row, call :: rest => do
    let row ← upsertWritingSession distinct row call
    dayOf distinct (some row) rest

theorem bind_eq_ok {α β : Type} {first : Except String α} {next : α → Except String β} {result : β} :
    first >>= next = .ok result ↔ ∃ value, first = .ok value ∧ next value = .ok result := by
  cases first with
  | error message =>
    constructor
    · intro raised
      cases raised
    · intro ⟨_, raised, _⟩
      cases raised
  | ok value =>
    constructor
    · exact fun returned => ⟨value, rfl, returned⟩
    · intro ⟨_, same, returned⟩
      obtain rfl := Except.ok.inj same
      exact returned

/-- The row of a day before its first call. -/
def blank : SessionRow := ⟨0, 0, 0, 0, 0, [], 0⟩

/-- What a call makes of a row where all its values fit. -/
structure Absorbs (row : SessionRow) (call : Call) (next : SessionRow) : Prop where
  improvements : next.improvements = row.improvements + 1
  totalTokens : next.totalTokens = row.totalTokens + call.tokens
  wordCount : next.wordCount = row.wordCount + call.wordCount
  avgClarity : next.avgClarity = roundedMean row.avgClarity row.improvements call.clarity
  avgToneScore : next.avgToneScore = roundedMean row.avgToneScore row.improvements call.tone
  avgImpactScore : next.avgImpactScore = roundedMean row.avgImpactScore row.improvements call.impact
  nodup : next.modesUsed.Nodup
  modes : ∀ mode, mode ∈ next.modesUsed ↔ mode ∈ row.modesUsed ∨ mode = call.mode

/-- The counts of the row and of the call fit the integer columns. -/
structure Room (row : SessionRow) (call : Call) : Prop where
  improvements : ∃ stored, int4 (row.improvements + 1) = .ok stored
  totalTokens : ∃ stored, int4 (row.totalTokens + call.tokens) = .ok stored
  wordCount : ∃ stored, int4 (row.wordCount + call.wordCount) = .ok stored

/-- Scores from 0 to 10. -/
structure Call.InRange (call : Call) : Prop where
  clarity : 0 ≤ call.clarity ∧ call.clarity ≤ 10
  tone : 0 ≤ call.tone ∧ call.tone ≤ 10
  impact : 0 ≤ call.impact ∧ call.impact ≤ 10

structure SessionRow.InRange (row : SessionRow) : Prop where
  improvements : 0 ≤ row.improvements
  clarity : 0 ≤ row.avgClarity ∧ row.avgClarity ≤ 10
  tone : 0 ≤ row.avgToneScore ∧ row.avgToneScore ≤ 10
  impact : 0 ≤ row.avgImpactScore ∧ row.avgImpactScore ≤ 10

private theorem roundedMean_blank (score : ℚ) : roundedMean 0 0 score = roundTo 1 score := by
  simp [roundedMean]

private theorem numeric_roundedMean {avg score stored : ℚ} {improvements : Int}
    (fits : numeric 4 1 (roundedMean avg improvements score) = .ok stored) :
    stored = roundedMean avg improvements score := by
  rw [numeric_eq_ok fits, roundedMean, roundTo_roundTo]

variable {distinct : SelectDistinct} {row next : SessionRow} {call : Call}

private theorem insertRow_absorbs (inserted : insertRow call = .ok next) :
    Absorbs blank call next ∧ Room blank call := by
  obtain ⟨tokens, tokens_fit, inserted⟩ := bind_eq_ok.mp inserted
  obtain ⟨clarity, clarity_fit, inserted⟩ := bind_eq_ok.mp inserted
  obtain ⟨tone, tone_fit, inserted⟩ := bind_eq_ok.mp inserted
  obtain ⟨impact, impact_fit, inserted⟩ := bind_eq_ok.mp inserted
  obtain ⟨words, words_fit, inserted⟩ := bind_eq_ok.mp inserted
  obtain rfl := Except.ok.inj inserted
  constructor
  · exact {
      improvements := rfl
      totalTokens := (int4_eq_ok tokens_fit).trans (Int.zero_add _).symm
      wordCount := (int4_eq_ok words_fit).trans (Int.zero_add _).symm
      avgClarity := (numeric_eq_ok clarity_fit).trans (roundedMean_blank _).symm
      avgToneScore := (numeric_eq_ok tone_fit).trans (roundedMean_blank _).symm
      avgImpactScore := (numeric_eq_ok impact_fit).trans (roundedMean_blank _).symm
      nodup := List.nodup_singleton _
      modes := fun mode => by simp [blank] }
  · refine ⟨⟨1, rfl⟩, ⟨tokens, ?_⟩, ⟨words, ?_⟩⟩
    · rwa [blank, Int.zero_add]
    · rwa [blank, Int.zero_add]

private theorem updateRow_absorbs (updated : updateRow distinct row call = .ok next) :
    Absorbs row call next ∧ Room row call := by
  obtain ⟨improvements, improvements_fit, updated⟩ := bind_eq_ok.mp updated
  obtain ⟨tokens, tokens_fit, updated⟩ := bind_eq_ok.mp updated
  obtain ⟨words, words_fit, updated⟩ := bind_eq_ok.mp updated
  obtain ⟨clarity, clarity_fit, updated⟩ := bind_eq_ok.mp updated
  obtain ⟨tone, tone_fit, updated⟩ := bind_eq_ok.mp updated
  obtain ⟨impact, impact_fit, updated⟩ := bind_eq_ok.mp updated
  obtain rfl := Except.ok.inj updated
  constructor
  · exact {
      improvements := int4_eq_ok improvements_fit
      totalTokens := int4_eq_ok tokens_fit
      wordCount := int4_eq_ok words_fit
      avgClarity := numeric_roundedMean clarity_fit
      avgToneScore := numeric_roundedMean tone_fit
      avgImpactScore := numeric_roundedMean impact_fit
      nodup := distinct.nodup _
      modes := fun mode => by simp [distinct.mem_iff] }
  · exact ⟨⟨_, improvements_fit⟩, ⟨_, tokens_fit⟩, ⟨_, words_fit⟩⟩

theorem numeric_fits {value : ℚ} (range : 0 ≤ value ∧ value ≤ 10) :
    ∃ stored, numeric 4 1 value = .ok stored := by
  obtain ⟨low, high⟩ := @roundTo_mem 1 value 10 range.1 (by exact_mod_cast range.2)
  refine ⟨roundTo 1 value, ?_⟩
  rw [numeric, if_pos]
  rw [abs_of_nonneg low]
  exact lt_of_le_of_lt high (by norm_num)

/-- Averages stay among the scores. -/
theorem roundedMean_mem {avg score : ℚ} {improvements : Int} (nonneg : 0 ≤ improvements)
    (average : 0 ≤ avg ∧ avg ≤ 10) (range : 0 ≤ score ∧ score ≤ 10) :
    0 ≤ roundedMean avg improvements score ∧ roundedMean avg improvements score ≤ 10 := by
  have count : (0 : ℚ) ≤ improvements := by exact_mod_cast nonneg
  have positive : (0 : ℚ) < improvements + 1 := by linarith
  have low : 0 ≤ (avg * improvements + score) / (improvements + 1) :=
    div_nonneg (add_nonneg (mul_nonneg average.1 count) range.1) positive.le
  have high : (avg * improvements + score) / (improvements + 1) ≤ (10 : ℕ) := by
    rw [div_le_iff₀ positive]
    have weighted := mul_le_mul_of_nonneg_right average.2 count
    push_cast
    linarith [range.2]
  obtain ⟨above, below⟩ := roundTo_mem 1 low high
  exact ⟨above, below.trans (by norm_num)⟩

theorem Absorbs.inRange (absorbs : Absorbs row call next) (before : row.InRange)
    (range : call.InRange) : next.InRange where
  improvements := by
    rw [absorbs.improvements]
    exact Int.add_nonneg before.improvements (by decide)
  clarity := absorbs.avgClarity ▸ roundedMean_mem before.improvements before.clarity range.clarity
  tone := absorbs.avgToneScore ▸ roundedMean_mem before.improvements before.tone range.tone
  impact := absorbs.avgImpactScore ▸ roundedMean_mem before.improvements before.impact range.impact

private theorem blank_inRange : blank.InRange :=
  ⟨Int.le_refl 0, ⟨le_refl _, by norm_num [blank]⟩, ⟨le_refl _, by norm_num [blank]⟩,
    ⟨le_refl _, by norm_num [blank]⟩⟩

private theorem insertRow_ok (room : Room blank call) (range : call.InRange) :
    ∃ next, insertRow call = .ok next := by
  obtain ⟨⟨_, _⟩, ⟨tokens, tokens_fit⟩, ⟨words, words_fit⟩⟩ := room
  rw [blank, Int.zero_add] at tokens_fit words_fit
  obtain ⟨clarity, clarity_fit⟩ := numeric_fits range.clarity
  obtain ⟨tone, tone_fit⟩ := numeric_fits range.tone
  obtain ⟨impact, impact_fit⟩ := numeric_fits range.impact
  rw [insertRow, tokens_fit, clarity_fit, tone_fit, impact_fit, words_fit]
  exact ⟨_, rfl⟩

private theorem updateRow_ok (room : Room row call) (before : row.InRange) (range : call.InRange) :
    ∃ next, updateRow distinct row call = .ok next := by
  obtain ⟨⟨improvements, improvements_fit⟩, ⟨tokens, tokens_fit⟩, ⟨words, words_fit⟩⟩ := room
  obtain ⟨clarity, clarity_fit⟩ :=
    numeric_fits (roundedMean_mem before.improvements before.clarity range.clarity)
  obtain ⟨tone, tone_fit⟩ :=
    numeric_fits (roundedMean_mem before.improvements before.tone range.tone)
  obtain ⟨impact, impact_fit⟩ :=
    numeric_fits (roundedMean_mem before.improvements before.impact range.impact)
  rw [updateRow, improvements_fit, tokens_fit, words_fit, clarity_fit, tone_fit, impact_fit]
  exact ⟨_, rfl⟩

def total (field : Call → Int) (calls : List Call) : Int := (calls.map field).sum

/-- What the row has after the calls. -/
structure Keeps (calls : List Call) (row : SessionRow) : Prop where
  improvements : row.improvements = calls.length
  totalTokens : row.totalTokens = total Call.tokens calls
  wordCount : row.wordCount = total Call.wordCount calls
  avgClarity : row.avgClarity = settle (roundTo 1) 0 0 (calls.map Call.clarity)
  avgToneScore : row.avgToneScore = settle (roundTo 1) 0 0 (calls.map Call.tone)
  avgImpactScore : row.avgImpactScore = settle (roundTo 1) 0 0 (calls.map Call.impact)
  nodup : row.modesUsed.Nodup
  modes : ∀ mode, mode ∈ row.modesUsed ↔ mode ∈ calls.map Call.mode

theorem keeps_blank : Keeps [] blank where
  improvements := rfl
  totalTokens := rfl
  wordCount := rfl
  avgClarity := rfl
  avgToneScore := rfl
  avgImpactScore := rfl
  nodup := List.nodup_nil
  modes _ := Iff.rfl

variable {before rest calls : List Call} {row? : Option SessionRow}

theorem total_concat (field : Call → Int) (calls : List Call) (call : Call) :
    total field (calls ++ [call]) = total field calls + field call := by
  simp [total]

private theorem settle_concat (field : Call → ℚ) (calls : List Call) (call : Call) :
    settle (roundTo 1) 0 0 ((calls ++ [call]).map field) =
      roundedMean (settle (roundTo 1) 0 0 (calls.map field)) calls.length (field call) := by
  rw [List.map_append, settle_append, List.length_map, zero_add, roundedMean, Int.cast_natCast]
  rfl

theorem Keeps.absorb (keeps : Keeps calls row) (absorbs : Absorbs row call next) :
    Keeps (calls ++ [call]) next where
  improvements := by
    rw [absorbs.improvements, keeps.improvements, List.length_append, List.length_singleton,
      Nat.cast_succ]
  totalTokens := by rw [absorbs.totalTokens, keeps.totalTokens, total_concat]
  wordCount := by rw [absorbs.wordCount, keeps.wordCount, total_concat]
  avgClarity := by rw [absorbs.avgClarity, keeps.avgClarity, keeps.improvements, settle_concat]
  avgToneScore := by
    rw [absorbs.avgToneScore, keeps.avgToneScore, keeps.improvements, settle_concat]
  avgImpactScore := by
    rw [absorbs.avgImpactScore, keeps.avgImpactScore, keeps.improvements, settle_concat]
  nodup := absorbs.nodup
  modes mode := by
    rw [absorbs.modes, keeps.modes, List.map_append, List.mem_append, List.map_singleton,
      List.mem_singleton]

/-- The counts of the calls fit the integer columns. -/
structure Fit (calls : List Call) : Prop where
  improvements : ∃ stored, int4 calls.length = .ok stored
  totalTokens : ∃ stored, int4 (total Call.tokens calls) = .ok stored
  wordCount : ∃ stored, int4 (total Call.wordCount calls) = .ok stored

/-- They fit all day long. -/
def Fits (calls : List Call) : Prop := ∀ front, front <+: calls → Fit front

theorem fit_nil : Fit [] := ⟨⟨0, rfl⟩, ⟨0, rfl⟩, ⟨0, rfl⟩⟩

theorem Keeps.room_iff (keeps : Keeps calls row) (call : Call) :
    Room row call ↔ Fit (calls ++ [call]) := by
  have length : row.improvements + 1 = ((calls ++ [call]).length : Int) := by
    rw [keeps.improvements, List.length_append, List.length_singleton, Nat.cast_succ]
  have tokens : row.totalTokens + call.tokens = total Call.tokens (calls ++ [call]) := by
    rw [keeps.totalTokens, total_concat]
  have words : row.wordCount + call.wordCount = total Call.wordCount (calls ++ [call]) := by
    rw [keeps.wordCount, total_concat]
  constructor
  · intro ⟨first, second, third⟩
    exact ⟨length ▸ first, tokens ▸ second, words ▸ third⟩
  · intro ⟨first, second, third⟩
    exact ⟨length ▸ first, tokens ▸ second, words ▸ third⟩

private theorem upsert_absorbs (upserted : upsertWritingSession distinct row? call = .ok next) :
    Absorbs (row?.getD blank) call next ∧ Room (row?.getD blank) call := by
  cases row? with
  | none => exact insertRow_absorbs upserted
  | some row => exact updateRow_absorbs upserted

private theorem upsert_ok (room : Room (row?.getD blank) call) (before : (row?.getD blank).InRange)
    (range : call.InRange) : ∃ next, upsertWritingSession distinct row? call = .ok next := by
  cases row? with
  | none => exact insertRow_ok room range
  | some row => exact updateRow_ok room before range

theorem dayOf_keeps {after : Option SessionRow} (keeps : Keeps before (row?.getD blank))
    (fit : Fit before) (day : dayOf distinct row? rest = .ok after) :
    Keeps (before ++ rest) (after.getD blank) ∧
      ∀ front, front <+: rest → Fit (before ++ front) := by
  induction rest generalizing before row? with
  | nil =>
    obtain rfl := Except.ok.inj day
    rw [List.append_nil]
    refine ⟨keeps, fun front inside => ?_⟩
    rwa [List.prefix_nil.mp inside, List.append_nil]
  | cons call rest ih =>
    obtain ⟨next, upserted, day⟩ := bind_eq_ok.mp day
    obtain ⟨absorbs, room⟩ := upsert_absorbs upserted
    have fit_next := (keeps.room_iff call).mp room
    obtain ⟨kept, fits⟩ := @ih _ (some next) (keeps.absorb absorbs) fit_next day
    rw [List.append_assoc, List.singleton_append] at kept
    refine ⟨kept, fun front inside => ?_⟩
    cases front with
    | nil => rwa [List.append_nil]
    | cons first front =>
      obtain ⟨rfl, behind⟩ := List.cons_prefix_cons.mp inside
      have later := fits front behind
      rwa [List.append_assoc, List.singleton_append] at later

private theorem dayOf_ok (keeps : Keeps before (row?.getD blank))
    (inRange : (row?.getD blank).InRange)
    (range : ∀ call ∈ rest, call.InRange)
    (fits : ∀ front, front <+: rest → Fit (before ++ front)) (some_ : rest ≠ []) :
    ∃ row, dayOf distinct row? rest = .ok (some row) := by
  induction rest generalizing before row? with
  | nil => exact absurd rfl some_
  | cons call rest ih =>
    obtain ⟨first, others⟩ := List.forall_mem_cons.mp range
    have fit_next := fits [call] (List.cons_prefix_cons.mpr ⟨rfl, List.nil_prefix⟩)
    obtain ⟨next, upserted⟩ := @upsert_ok distinct _ _ ((keeps.room_iff call).mpr fit_next)
      inRange first
    obtain ⟨absorbs, _⟩ := upsert_absorbs upserted
    have one : dayOf distinct row? (call :: rest) = dayOf distinct (some next) rest := by
      rw [dayOf, upserted]
      rfl
    rw [one]
    by_cases more : rest = []
    · rw [more]
      exact ⟨next, rfl⟩
    · refine @ih _ (some next) (keeps.absorb absorbs) (absorbs.inRange inRange first) others
        (fun front inside => ?_) more
      have later := fits (call :: front) (List.cons_prefix_cons.mpr ⟨rfl, inside⟩)
      rwa [List.append_assoc, List.singleton_append]

def mean (scores : List ℚ) : ℚ := scores.sum / scores.length

/-- What the row of a day says of the calls. -/
structure DayRight (calls : List Call) (row : SessionRow) : Prop where
  improvements : row.improvements = calls.length
  totalTokens : row.totalTokens = (calls.map Call.tokens).sum
  wordCount : row.wordCount = (calls.map Call.wordCount).sum
  nodup : row.modesUsed.Nodup
  modes : ∀ mode, mode ∈ row.modesUsed ↔ mode ∈ calls.map Call.mode
  clarity : |row.avgClarity - mean (calls.map Call.clarity)| ≤ 1 / 10
  tone : |row.avgToneScore - mean (calls.map Call.tone)| ≤ 1 / 10
  impact : |row.avgImpactScore - mean (calls.map Call.impact)| ≤ 1 / 10

/-- What the roundings of a score have added, each with the weight of the calls so far, is no more
than a tenth for each call. -/
def Steady (scores : List ℚ) : Prop := |drift (roundTo 1) 0 0 scores| ≤ 1 / 10 * scores.length

theorem Keeps.right_iff (keeps : Keeps calls row) (some_ : calls ≠ []) :
    DayRight calls row ↔ Steady (calls.map Call.clarity) ∧ Steady (calls.map Call.tone) ∧
      Steady (calls.map Call.impact) := by
  have close (field : Call → ℚ) :
      |settle (roundTo 1) 0 0 (calls.map field) - mean (calls.map field)| ≤ 1 / 10 ↔
        Steady (calls.map field) :=
    settle_close_iff (List.map_eq_nil_iff.not.mpr some_)
  constructor
  · intro right
    refine ⟨(close _).mp ?_, (close _).mp ?_, (close _).mp ?_⟩
    · rw [← keeps.avgClarity]
      exact right.clarity
    · rw [← keeps.avgToneScore]
      exact right.tone
    · rw [← keeps.avgImpactScore]
      exact right.impact
  · intro ⟨clarity, tone, impact⟩
    exact {
      improvements := keeps.improvements
      totalTokens := keeps.totalTokens
      wordCount := keeps.wordCount
      nodup := keeps.nodup
      modes := keeps.modes
      clarity := keeps.avgClarity ▸ (close _).mpr clarity
      tone := keeps.avgToneScore ▸ (close _).mpr tone
      impact := keeps.avgImpactScore ▸ (close _).mpr impact }

/-- The calls leave a row that is right just where their counts fit the columns and the roundings of
no score drift. -/
theorem dayRight_iff (distinct : SelectDistinct) (calls : List Call) (some_ : calls ≠ [])
    (range : ∀ call ∈ calls, call.InRange) :
    (∃ row, dayOf distinct none calls = .ok (some row) ∧ DayRight calls row) ↔
      Fits calls ∧ Steady (calls.map Call.clarity) ∧ Steady (calls.map Call.tone) ∧
        Steady (calls.map Call.impact) := by
  constructor
  · intro ⟨row, day, right⟩
    obtain ⟨keeps, fits⟩ := @dayOf_keeps distinct [] calls none _ keeps_blank fit_nil day
    exact ⟨fits, (keeps.right_iff some_).mp right⟩
  · intro ⟨fits, steady⟩
    obtain ⟨row, day⟩ :=
      @dayOf_ok distinct [] calls none keeps_blank blank_inRange range fits some_
    obtain ⟨keeps, _⟩ := dayOf_keeps keeps_blank fit_nil day
    exact ⟨row, day, (keeps.right_iff some_).mpr steady⟩

/-- Up to some call the running means are tenths, and rounding the later ones, each with as many
tenths as half the calls so far, adds no more than a tenth for each call. Where the scores are
tenths, half of an odd number is rounded down. -/
def FewRoundings (scores : List ℚ) : Prop :=
  ∃ front back, scores = front ++ back ∧
    (∀ head, head <+: front → head ≠ [] → HasPlaces 1 (mean head)) ∧
    (∑ k ∈ Finset.Ioc front.length scores.length, (k : ℚ) / 2 ≤ scores.length ∨
      (∀ score ∈ scores, HasPlaces 1 score) ∧
        ∑ k ∈ Finset.Ioc front.length scores.length, k / 2 ≤ scores.length)

section Drift

variable {front back scores : List ℚ} {average score : ℚ} {count : ℕ}

private theorem drift_front
    (exact_ : ∀ head, head <+: front → head ≠ [] → HasPlaces 1 (mean head)) :
    drift (roundTo 1) 0 0 front = 0 := by
  have kept := settle_exact fun head inside some_ => (exact_ head inside some_).roundTo_eq
  have whole := @settle_mul _ _ _ _ (roundTo 1) 0 0 front (le_refl 0)
  rw [zero_add, kept] at whole
  linarith

private theorem settle_hasPlaces (short : HasPlaces 1 average) (count : ℚ) (scores : List ℚ) :
    HasPlaces 1 (settle (roundTo 1) average count scores) := by
  induction scores generalizing average count with
  | nil => exact short
  | cons score rest ih => exact ih (hasPlaces_roundTo 1 _) _

private theorem rounding_le (average score : ℚ) (count : ℕ) :
    |(count + 1) * (roundTo 1 (nextMean average count score) - nextMean average count score)| ≤
      ((count + 1 : ℕ) : ℚ) / 2 / 10 := by
  have near := abs_roundTo_sub_le 1 (nextMean average count score)
  have positive : (0 : ℚ) ≤ count + 1 := by positivity
  rw [abs_mul, abs_of_nonneg positive]
  have weighted := mul_le_mul_of_nonneg_left near positive
  push_cast
  linarith

private theorem rounding_le_of_tenths (kept : HasPlaces 1 average) (scored : HasPlaces 1 score)
    (count : ℕ) :
    |(count + 1) * (roundTo 1 (nextMean average count score) - nextMean average count score)| ≤
      (((count + 1) / 2 : ℕ) : ℚ) / 10 := by
  have sum : HasPlaces 1 ((count + 1 : ℕ) * nextMean average count score) := by
    obtain ⟨tenths, rfl⟩ := kept
    obtain ⟨more, rfl⟩ := scored
    refine ⟨tenths * count + more, ?_⟩
    rw [Nat.cast_succ, nextMean_mul (Nat.cast_nonneg count)]
    push_cast
    ring
  have moved := abs_mul_roundTo_sub_le sum
  rwa [Nat.cast_succ, pow_one] at moved

theorem FewRoundings.steady (few : FewRoundings scores) : Steady scores := by
  obtain ⟨front, back, rfl, exact_, added⟩ := few
  have size : (front ++ back).length = front.length + back.length := List.length_append
  have drifts : drift (roundTo 1) 0 0 (front ++ back) =
      drift (roundTo 1) (settle (roundTo 1) 0 0 front) front.length back := by
    rw [drift_append, drift_front exact_, zero_add, zero_add]
  rw [Steady, drifts, size]
  rw [size] at added
  rcases added with added | ⟨tenths, added⟩
  · have bound := @abs_drift_le _ _ _ _ (roundTo 1) (settle (roundTo 1) 0 0 front) back
      (fun k => (k : ℚ) / 2 / 10) (fun _ => True) (fun _ => True)
      (fun average score count _ _ => ⟨trivial, rounding_le average score count⟩) trivial
      (fun _ _ => trivial) front.length
    rw [← Finset.sum_div] at bound
    linarith
  · have bound := @abs_drift_le _ _ _ _ (roundTo 1) (settle (roundTo 1) 0 0 front) back
      (fun k => ((k / 2 : ℕ) : ℚ) / 10) (HasPlaces 1) (HasPlaces 1)
      (fun average score count kept scored =>
        ⟨hasPlaces_roundTo 1 _, rounding_le_of_tenths kept scored count⟩)
      (settle_hasPlaces ⟨0, by simp⟩ _ _)
      (fun score member => tenths score (List.mem_append_right _ member)) front.length
    rw [← Finset.sum_div, ← Nat.cast_sum] at bound
    have added : ((∑ k ∈ Finset.Ioc front.length (front.length + back.length), k / 2 : ℕ) : ℚ) ≤
        (front.length + back.length : ℕ) := by exact_mod_cast added
    linarith

/-- Three calls are few. -/
theorem fewRoundings_of_three (short : scores.length ≤ 3) : FewRoundings scores := by
  refine ⟨[], scores, rfl, fun head inside some_ => absurd (List.prefix_nil.mp inside) some_,
    .inl ?_⟩
  rw [List.length_nil]
  generalize scores.length = size at short
  obtain rfl | rfl | rfl | rfl : size = 0 ∨ size = 1 ∨ size = 2 ∨ size = 3 := by omega
  all_goals decide +kernel

/-- Of scores in tenths four are few. -/
theorem fewRoundings_of_four (short : scores.length ≤ 4)
    (tenths : ∀ score ∈ scores, HasPlaces 1 score) : FewRoundings scores := by
  refine ⟨[], scores, rfl, fun head inside some_ => absurd (List.prefix_nil.mp inside) some_,
    .inr ⟨tenths, ?_⟩⟩
  rw [List.length_nil]
  generalize scores.length = size at short
  obtain rfl | rfl | rfl | rfl | rfl : size = 0 ∨ size = 1 ∨ size = 2 ∨ size = 3 ∨ size = 4 := by
    omega
  all_goals decide

theorem fewRoundings_of_exact
    (exact_ : ∀ head, head <+: scores → head ≠ [] → HasPlaces 1 (mean head)) :
    FewRoundings scores := by
  refine ⟨scores, [], (List.append_nil _).symm, exact_, .inl ?_⟩
  rw [Finset.Ioc_self, Finset.sum_empty]
  exact Nat.cast_nonneg _

end Drift

/-- Where the roundings of each score are few, the calls leave a row that is right just where their
counts fit the columns. -/
theorem dayRight_iff_fits (distinct : SelectDistinct) (calls : List Call) (some_ : calls ≠ [])
    (range : ∀ call ∈ calls, call.InRange) (clarity : FewRoundings (calls.map Call.clarity))
    (tone : FewRoundings (calls.map Call.tone)) (impact : FewRoundings (calls.map Call.impact)) :
    (∃ row, dayOf distinct none calls = .ok (some row) ∧ DayRight calls row) ↔ Fits calls := by
  rw [dayRight_iff distinct calls some_ range]
  exact and_iff_left ⟨clarity.steady, tone.steady, impact.steady⟩

def ordered : SelectDistinct where
  select := List.dedup
  nodup := List.nodup_dedup
  mem_iff _ _ := List.mem_dedup

/-- A call that scores the same in all three. -/
def scored (score : ℚ) : Call := ⟨score, score, score, 100, "email", 20⟩

theorem fourCalls_right :
    ∃ row, dayOf ordered none ([7, 8, 8, 7].map scored) = .ok (some row) ∧
      DayRight ([7, 8, 8, 7].map scored) row := by
  have range : ∀ call ∈ [7, 8, 8, 7].map scored, call.InRange := by
    intro call member
    obtain rfl | rfl : call = scored 7 ∨ call = scored 8 := by
      simpa [or_comm, or_left_comm] using member
    · constructor <;> norm_num [scored]
    · constructor <;> norm_num [scored]
  have tenths : ∀ score ∈ ([7, 8, 8, 7] : List ℚ), HasPlaces 1 score := by
    intro score member
    obtain rfl | rfl : score = 7 ∨ score = 8 := by simpa [or_comm, or_left_comm] using member
    · exact ⟨70, by norm_num⟩
    · exact ⟨80, by norm_num⟩
  have few : FewRoundings [7, 8, 8, 7] := fewRoundings_of_four (by decide) tenths
  refine (dayRight_iff_fits ordered _ (List.cons_ne_nil _ _) range few few few).mpr
    fun front inside => ?_
  have listed := (List.mem_inits _ _).mpr inside
  obtain rfl | rfl | rfl | rfl | rfl : front = [] ∨ front = [scored 7] ∨
      front = [scored 7, scored 8] ∨ front = [scored 7, scored 8, scored 8] ∨
      front = [scored 7, scored 8, scored 8, scored 7] := by
    simpa using listed
  · exact fit_nil
  all_goals exact ⟨⟨_, rfl⟩, ⟨_, rfl⟩, ⟨_, rfl⟩⟩

/-- A score that rounding takes back, a tenth or more below the average, keeps a day wrong. -/
theorem far_of_stays {front : List ℚ} {average score : ℚ} (some_ : front ≠ [])
    (kept : settle (roundTo 1) 0 0 front = average)
    (stays : ∀ more : ℕ, roundTo 1 (nextMean average (front.length + more) score) = average)
    (far : front.sum + front.length / 10 < average * front.length)
    (below : score + 1 / 10 ≤ average) (times : ℕ) :
    1 / 10 < settle (roundTo 1) 0 0 (front ++ List.replicate times score) -
      mean (front ++ List.replicate times score) := by
  have positive : (0 : ℚ) < front.length + times := by
    have := List.length_pos_iff.mpr some_
    positivity
  have weighted := mul_le_mul_of_nonneg_right below (Nat.cast_nonneg (α := ℚ) times)
  rw [settle_append, kept, zero_add, settle_replicate stays, mean, List.sum_append,
    List.sum_replicate, List.length_append, List.length_replicate, nsmul_eq_mul, Nat.cast_add,
    lt_sub_iff_add_lt, ← lt_sub_iff_add_lt', div_lt_iff₀ positive]
  linarith

/-- Further scores of 0.3 do not move an average that was rounded to 0.4. -/
private theorem roundTo_nextMean_stays (more : ℕ) :
    roundTo 1 (nextMean (2 / 5) (((4 : ℕ) : ℚ) + more) (3 / 10)) = 2 / 5 := by
  have positive : (0 : ℚ) < 4 + more + 1 := by positivity
  have exact_ : nextMean (2 / 5) (((4 : ℕ) : ℚ) + more) (3 / 10) =
      2 / 5 - 1 / 10 / (4 + more + 1) := by
    rw [nextMean, Nat.cast_ofNat, div_eq_iff positive.ne', sub_mul,
      div_mul_cancel₀ _ positive.ne']
    ring
  have small : 1 / 10 / (4 + more + 1 : ℚ) ≤ 1 / 50 := by
    rw [div_le_iff₀ positive]
    have := Nat.cast_nonneg (α := ℚ) more
    linarith
  have least : 0 ≤ 1 / 10 / (4 + more + 1 : ℚ) := by positivity
  have rounded := @roundTo_eq 1 (2 / 5 - 1 / 10 / (4 + more + 1)) 4 (by linarith)
    (by push_cast; linarith) (by push_cast; linarith)
  rw [exact_, rounded]
  norm_num

/-- With scores of any kind no number of calls above three is few enough. -/
theorem longDay_wrong (count : ℕ) (long : 4 ≤ count) :
    ∃ calls : List Call, calls.length = count ∧ (∀ call ∈ calls, call.InRange) ∧
      ∀ row, dayOf ordered none calls = .ok (some row) → ¬ DayRight calls row := by
  let front : List ℚ := [1 / 20, 1 / 5, 7 / 20, 1 / 2]
  let scores := front ++ List.replicate (count - 4) (3 / 10)
  have stays (more : ℕ) :
      roundTo 1 (nextMean (2 / 5) ((front.length : ℚ) + more) (3 / 10)) = 2 / 5 :=
    roundTo_nextMean_stays more
  have far := far_of_stays (List.cons_ne_nil _ _) (by decide +kernel) stays (by decide +kernel)
    (by norm_num) (count - 4)
  have size : scores.length = count := by
    rw [List.length_append, List.length_replicate]
    exact Nat.add_sub_of_le long
  refine ⟨scores.map scored, (List.length_map _).trans size, ?_, fun row day right => ?_⟩
  · intro call member
    obtain ⟨score, listed, rfl⟩ := List.mem_map.mp member
    have low : 0 ≤ score ∧ score ≤ 10 := by
      obtain first | later := List.mem_append.mp listed
      · clear listed member
        revert score
        decide +kernel
      · rw [List.eq_of_mem_replicate later]
        norm_num
    exact ⟨low, low, low⟩
  · obtain ⟨keeps, _⟩ := @dayOf_keeps ordered [] _ none _ keeps_blank fit_nil day
    have close := right.clarity
    rw [show row.avgClarity = _ from keeps.avgClarity, List.nil_append, List.map_map] at close
    rw [show (scores.map (Call.clarity ∘ scored)) = scores from List.map_id _] at close
    exact absurd (le_of_abs_le close) (not_le.mpr far)

/-- Nine calls with a mean of five thirds, of which the row says 1.8. -/
def driftingDay : List Call := [1, 1, 1, 1, 1, 2, 1, 4, 3].map scored

theorem driftingDay_wrong :
    ¬ ∃ row, dayOf ordered none driftingDay = .ok (some row) ∧ DayRight driftingDay row := by
  intro ⟨row, day, right⟩
  obtain ⟨keeps, _⟩ := @dayOf_keeps ordered [] driftingDay none _ keeps_blank fit_nil day
  have close := right.clarity
  rw [show row.avgClarity = _ from keeps.avgClarity] at close
  revert close
  decide +kernel

end BrainMate.WriteRight.Session
