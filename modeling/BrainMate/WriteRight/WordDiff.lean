import BrainMate.Text.CommonSubsequence
import BrainMate.Text.Words
import BrainMate.WriteRight.CacheKey

namespace BrainMate.WriteRight.WordDiff

open Text

/-- A piece of `text.split(/(\s+)/)`. -/
abbrev Token := List UInt16

/-- The cells of a row behind the first: `above` is the row above from the same column on, and
`diagonal` and `left` are the neighbours of its first cell. -/
def fillRow (token : Token) : List Token → List Nat → Nat → Nat → List Nat
  | [], _, _, _ => []
  | other :: tokens, above, diagonal, left =>
    let up := above.headD 0
    let cell := if token = other then diagonal + 1 else max up left
    cell :: fillRow token tokens above.tail up cell

def nextRow (aTokens : List Token) (row : List Nat) (token : Token) : List Nat :=
  0 :: fillRow token aTokens row.tail (row.headD 0) 0

/-- `dp`, one row for each number of tokens of the first text. -/
def fillTable (bTokens aTokens : List Token) : List (List Nat) :=
  bTokens.scanl (nextRow aTokens) (List.replicate (aTokens.length + 1) 0)

def cell (dp : List (List Nat)) (i j : Nat) : Nat := (dp.getD i []).getD j 0

/-- The loop from the last cell back to the first; `result` is in the order that `reverse` gives
it. `none` when the rounds do not suffice: the loop goes on when no branch is taken. -/
def backtrack (bTokens aTokens : List Token) (dp : List (List Nat)) :
    Nat → Nat → Nat → List (Change Token) → Option (List (Change Token))
  | _, 0, 0, result => some result
  | 0, _, _, _ => none
  | rounds + 1, i, j, result =>
    let old := bTokens.getD (i - 1) []
    let new := aTokens.getD (j - 1) []
    if 0 < i ∧ 0 < j ∧ old = new then
      backtrack bTokens aTokens dp rounds (i - 1) (j - 1) (.eq old :: result)
    else if 0 < j ∧ (i = 0 ∨ cell dp i (j - 1) ≥ cell dp (i - 1) j) then
      backtrack bTokens aTokens dp rounds i (j - 1) (.ins new :: result)
    else if 0 < i ∧ (j = 0 ∨ cell dp i (j - 1) < cell dp (i - 1) j) then
      backtrack bTokens aTokens dp rounds (i - 1) j (.del old :: result)
    else backtrack bTokens aTokens dp rounds i j result

def computeWordDiff (before after : List UInt16) : Option (List (Change Token)) :=
  if before.length > 2000 ∨ after.length > 2000 then some [.ins after]
  else
    let bTokens := piecesBy isTrimmed before
    let aTokens := piecesBy isTrimmed after
    let m := bTokens.length
    let n := aTokens.length
    backtrack bTokens aTokens (fillTable bTokens aTokens) (m + n) m n []

def toggleDecision (decisions : Nat → Bool) (i : Nat) : Nat → Bool :=
  Function.update decisions i (!decisions i)

/-- Nothing is rejected at first. -/
def decisionsAfter (clicks : List Nat) : Nat → Bool := clicks.foldl toggleDecision fun _ => false

def segmentText (isRejected : Bool) : Change Token → List UInt16
  | .eq text => text
  | .del text => if isRejected then text else []
  | .ins text => if isRejected then [] else text

def finalText (decisions : Nat → Bool) (diffs : List (Change Token)) : List UInt16 :=
  (diffs.mapIdx fun i change => segmentText (decisions i) change).flatten

variable {bTokens aTokens front : List Token} {dp : List (List Nat)}

/-- The row says how long the longest common subsequence with each number of tokens is. -/
def IsRow (aTokens front : List Token) (row : List Nat) : Prop :=
  ∀ j ≤ aTokens.length, IsLongest front (aTokens.take j) (row.getD j 0)

private theorem fillRow_longest {token : Token} {tokens done : List Token} {above : List Nat}
    {diagonal left : Nat} (corner : IsLongest front done diagonal)
    (beside : IsLongest (front ++ [token]) done left)
    (upper : ∀ j < tokens.length, IsLongest front (done ++ tokens.take (j + 1)) (above.getD j 0)) :
    ∀ j < tokens.length, IsLongest (front ++ [token]) (done ++ tokens.take (j + 1))
      ((fillRow token tokens above diagonal left).getD j 0) := by
  induction tokens generalizing done above diagonal left with
  | nil => exact fun j inside => absurd inside (Nat.not_lt_zero j)
  | cons other tokens ih =>
    have up : IsLongest front (done ++ [other]) (above.headD 0) := by
      have first := upper 0 (Nat.zero_lt_succ _)
      cases above <;> exact first
    have here : IsLongest (front ++ [token]) (done ++ [other])
        (if token = other then diagonal + 1 else max (above.headD 0) left) := by
      split
      · rename_i same
        rw [same]
        exact corner.concat_same other
      · rename_i different
        exact IsLongest.concat_different different up beside
    intro j inside
    cases j with
    | zero => exact here
    | succ j =>
      have behind : ∀ k < tokens.length, IsLongest front (done ++ [other] ++ tokens.take (k + 1))
          (above.tail.getD k 0) := by
        intro k within
        have next := upper (k + 1) (Nat.succ_lt_succ within)
        rw [List.take_succ_cons, List.append_cons] at next
        cases above <;> exact next
      have later := ih up here behind j (Nat.lt_of_succ_lt_succ inside)
      rw [← List.append_cons, ← List.take_succ_cons] at later
      exact later

theorem IsRow.next {row : List Nat} (isRow : IsRow aTokens front row) (token : Token) :
    IsRow aTokens (front ++ [token]) (nextRow aTokens row token) := by
  have corner : IsLongest front [] (row.headD 0) := by
    have first := isRow 0 (Nat.zero_le _)
    cases row <;> exact first
  have upper : ∀ j < aTokens.length, IsLongest front ([] ++ aTokens.take (j + 1))
      (row.tail.getD j 0) := by
    intro j inside
    have next := isRow (j + 1) inside
    cases row <;> exact next
  intro j inside
  cases j with
  | zero => exact isLongest_nil_right _
  | succ j => exact fillRow_longest corner (isLongest_nil_right _) upper j inside

private theorem scanl_rows {row : List Nat} (isRow : IsRow aTokens front row) :
    ∀ i ≤ bTokens.length,
      IsRow aTokens (front ++ bTokens.take i) ((bTokens.scanl (nextRow aTokens) row).getD i []) := by
  induction bTokens generalizing front row with
  | nil =>
    intro i inside
    obtain rfl := Nat.le_zero.mp inside
    rw [List.take_zero, List.append_nil]
    exact isRow
  | cons token rest ih =>
    intro i inside
    rw [List.scanl_cons]
    cases i with
    | zero =>
      rw [List.take_zero, List.append_nil]
      exact isRow
    | succ i =>
      have later := ih (isRow.next token) i (Nat.le_of_succ_le_succ inside)
      rw [← List.append_cons, ← List.take_succ_cons] at later
      exact later

/-- Each cell is the length of a longest common subsequence of the tokens up to it. -/
def IsTable (bTokens aTokens : List Token) (dp : List (List Nat)) : Prop :=
  ∀ i ≤ bTokens.length, IsRow aTokens (bTokens.take i) (dp.getD i [])

private theorem fillTable_isTable (bTokens aTokens : List Token) :
    IsTable bTokens aTokens (fillTable bTokens aTokens) := by
  have first : IsRow aTokens [] (List.replicate (aTokens.length + 1) 0) := by
    intro j inside
    have zero : (List.replicate (aTokens.length + 1) 0).getD j 0 = 0 := by
      rw [List.getD_eq_getElem?_getD, List.getElem?_replicate_of_lt (Nat.lt_succ_of_le inside)]
      rfl
    rw [zero]
    exact isLongest_nil_left _
  exact scanl_rows first

theorem take_succ {tokens : List Token} {i : Nat} (inside : i < tokens.length) :
    tokens.take (i + 1) = tokens.take i ++ [tokens.getD i []] := by
  rw [List.take_succ_eq_append_getElem inside, List.getD_eq_getElem?_getD,
    List.getElem?_eq_getElem inside, Option.getD_some]

section

variable {i j rounds : Nat} (isTable : IsTable bTokens aTokens dp)

include isTable

theorem IsTable.cell_longest (inside : i ≤ bTokens.length) (inside' : j ≤ aTokens.length) :
    IsLongest (bTokens.take i) (aTokens.take j) (cell dp i j) := isTable i inside j inside'

theorem IsTable.cell_zero_left (inside : j ≤ aTokens.length) : cell dp 0 j = 0 :=
  (isTable.cell_longest (Nat.zero_le _) inside).unique (isLongest_nil_left _)

theorem IsTable.cell_zero_right (inside : i ≤ bTokens.length) : cell dp i 0 = 0 :=
  (isTable.cell_longest inside (Nat.zero_le _)).unique (isLongest_nil_right _)

theorem IsTable.cell_same (inside : i < bTokens.length) (inside' : j < aTokens.length)
    (same : bTokens.getD i [] = aTokens.getD j []) :
    cell dp (i + 1) (j + 1) = cell dp i j + 1 := by
  have whole := isTable.cell_longest inside inside'
  have corner := isTable.cell_longest (Nat.le_of_lt inside) (Nat.le_of_lt inside')
  rw [take_succ inside, take_succ inside', same] at whole
  exact whole.unique (corner.concat_same _)

theorem IsTable.cell_different (inside : i < bTokens.length) (inside' : j < aTokens.length)
    (different : bTokens.getD i [] ≠ aTokens.getD j []) :
    cell dp (i + 1) (j + 1) = max (cell dp i (j + 1)) (cell dp (i + 1) j) := by
  have whole := isTable.cell_longest inside inside'
  have upper := isTable.cell_longest (Nat.le_of_lt inside) inside'
  have beside := isTable.cell_longest inside (Nat.le_of_lt inside')
  rw [take_succ inside'] at whole upper
  rw [take_succ inside] at whole beside
  exact whole.unique (IsLongest.concat_different different upper beside)

end

/-- From this cell the loop ends, and what it adds turns the one beginning into the other and keeps
as many tokens as the cell says. -/
def GoesBack (bTokens aTokens : List Token) (dp : List (List Nat)) (rounds i j : Nat) : Prop :=
  ∀ result, ∃ changes,
    backtrack bTokens aTokens dp rounds i j result = some (changes ++ result) ∧
    Change.Leads (bTokens.take i) (aTokens.take j) changes ∧
    (changes.filterMap Change.kept?).length = cell dp i j

variable {rounds i j i' j' : Nat}

/-- A round that adds a change and goes on from the cell it is the last change of. -/
theorem GoesBack.round {change : Change Token} (back : GoesBack bTokens aTokens dp rounds i j)
    (moves : ∀ result, backtrack bTokens aTokens dp (rounds + 1) i' j' result =
      backtrack bTokens aTokens dp rounds i j (change :: result))
    (old : bTokens.take i' = bTokens.take i ++ change.old?.toList)
    (new : aTokens.take j' = aTokens.take j ++ change.new?.toList)
    (kept : cell dp i' j' = cell dp i j + change.kept?.toList.length) :
    GoesBack bTokens aTokens dp (rounds + 1) i' j' := by
  intro result
  obtain ⟨changes, ends, leads, same⟩ := back (change :: result)
  refine ⟨changes ++ [change], ?_, ?_, ?_⟩
  · rw [moves, ends, List.append_assoc, List.singleton_append]
  · rw [old, new]
    refine leads.append ⟨?_, ?_⟩
    · cases change <;> rfl
    · cases change <;> rfl
  · rw [kept, ← same, List.filterMap_append, List.length_append]
    cases change <;> rfl

theorem GoesBack.start (zero : cell dp 0 0 = 0) : GoesBack bTokens aTokens dp rounds 0 0 := by
  intro result
  have ends : backtrack bTokens aTokens dp rounds 0 0 result = some result := by
    cases rounds <;> rfl
  exact ⟨[], ends, ⟨rfl, rfl⟩, zero.symm⟩

theorem IsTable.goesBack (isTable : IsTable bTokens aTokens dp) (inside : i ≤ bTokens.length)
    (inside' : j ≤ aTokens.length) (enough : i + j ≤ rounds) :
    GoesBack bTokens aTokens dp rounds i j := by
  induction rounds generalizing i j with
  | zero =>
    obtain ⟨rfl, rfl⟩ : i = 0 ∧ j = 0 := by omega
    exact .start (isTable.cell_zero_left inside')
  | succ rounds ih =>
    cases i with
    | zero =>
      cases j with
      | zero => exact .start (isTable.cell_zero_left inside')
      | succ j =>
        have back := ih inside (Nat.le_of_succ_le inside') (by omega)
        refine @back.round _ _ _ _ _ _ _ _ (.ins (aTokens.getD j [])) ?_ ?_ (take_succ inside') ?_
        · intro result
          simp [backtrack]
        · rw [Change.old?, Option.toList_none, List.append_nil]
        · rw [isTable.cell_zero_left inside', isTable.cell_zero_left (Nat.le_of_succ_le inside')]
          rfl
    | succ i =>
      cases j with
      | zero =>
        have back := ih (Nat.le_of_succ_le inside) inside' (by omega)
        refine @back.round _ _ _ _ _ _ _ _ (.del (bTokens.getD i [])) ?_ (take_succ inside) ?_ ?_
        · intro result
          simp [backtrack]
        · rw [Change.new?, Option.toList_none, List.append_nil]
        · rw [isTable.cell_zero_right inside, isTable.cell_zero_right (Nat.le_of_succ_le inside)]
          rfl
      | succ j =>
        by_cases same : bTokens.getD i [] = aTokens.getD j []
        · have back := ih (Nat.le_of_succ_le inside) (Nat.le_of_succ_le inside') (by omega)
          refine @back.round _ _ _ _ _ _ _ _ (.eq (bTokens.getD i [])) ?_ (take_succ inside) ?_ ?_
          · intro result
            simp [backtrack, -List.getD_eq_getElem?_getD, same]
          · rw [same]
            exact take_succ inside'
          · exact isTable.cell_same inside inside' same
        · have larger := isTable.cell_different inside inside' same
          by_cases left : cell dp i (j + 1) ≤ cell dp (i + 1) j
          · have back := ih inside (Nat.le_of_succ_le inside') (by omega)
            refine @back.round _ _ _ _ _ _ _ _ (.ins (aTokens.getD j [])) ?_ ?_ (take_succ inside') ?_
            · intro result
              simp [backtrack, -List.getD_eq_getElem?_getD, same, left]
            · rw [Change.old?, Option.toList_none, List.append_nil]
            · rw [larger, Nat.max_eq_right left]
              rfl
          · have back := ih (Nat.le_of_succ_le inside) inside' (by omega)
            refine @back.round _ _ _ _ _ _ _ _ (.del (bTokens.getD i [])) ?_ (take_succ inside) ?_ ?_
            · intro result
              simp [backtrack, -List.getD_eq_getElem?_getD, same, left, Nat.lt_of_not_le left]
            · rw [Change.new?, Option.toList_none, List.append_nil]
            · rw [larger, Nat.max_eq_left (Nat.le_of_not_le left)]
              rfl

/-- Within the limit the changes lead from the tokens of the one text to those of the other, and keep
a longest common subsequence. -/
theorem computeWordDiff_leads {before after : List UInt16} (short : before.length ≤ 2000)
    (short' : after.length ≤ 2000) : ∃ diffs, computeWordDiff before after = some diffs ∧
      Change.Leads (piecesBy isTrimmed before) (piecesBy isTrimmed after) diffs ∧
      IsLongest (piecesBy isTrimmed before) (piecesBy isTrimmed after)
        (diffs.filterMap Change.kept?).length := by
  have isTable := fillTable_isTable (piecesBy isTrimmed before) (piecesBy isTrimmed after)
  have whole := isTable.cell_longest (Nat.le_refl _) (Nat.le_refl _)
  obtain ⟨diffs, ends, leads, kept⟩ :=
    isTable.goesBack (Nat.le_refl _) (Nat.le_refl _) (Nat.le_refl _) []
  rw [List.append_nil] at ends
  rw [List.take_length, List.take_length] at leads whole
  rw [← kept] at whole
  have within : ¬ (before.length > 2000 ∨ after.length > 2000) := by omega
  refine ⟨diffs, ?_, leads, whole⟩
  rw [computeWordDiff, if_neg within]
  exact ends

private theorem foldl_toggleDecision (clicks : List Nat) (start : Nat → Bool) (i : Nat) :
    clicks.foldl toggleDecision start i = (start i ^^ (clicks.count i % 2 == 1)) := by
  induction clicks generalizing start with
  | nil => simp
  | cons click rest ih =>
    rw [List.foldl_cons, ih, toggleDecision, List.count_cons]
    obtain even | odd := Nat.mod_two_eq_zero_or_one (rest.count i)
    · by_cases here : i = click
      · subst here
        have next : (rest.count i + 1) % 2 = 1 := by omega
        simp [next, even]
      · simp [here, Ne.symm here]
    · by_cases here : i = click
      · subst here
        have next : (rest.count i + 1) % 2 = 0 := by omega
        simp [next, odd]
      · simp [here, Ne.symm here]

private theorem decisionsAfter_apply (clicks : List Nat) (i : Nat) :
    decisionsAfter clicks i = (clicks.count i % 2 == 1) := by
  rw [decisionsAfter, foldl_toggleDecision, Bool.false_xor]

/-- Every deleted and every inserted segment was clicked an odd number of times, or every one an even
number of times. -/
def Clicked (odd : Bool) (diffs : List (Change Token)) (clicks : List Nat) : Prop :=
  ∀ i change, diffs[i]? = some change → change.isKept = false → (clicks.count i % 2 == 1) = odd

private theorem segmentText_kept {change : Change Token} (kept : change.isKept = true)
    (rejected : Bool) :
    segmentText rejected change = segmentText false change := by
  cases change with
  | eq text => rfl
  | del text => cases kept
  | ins text => cases kept

private theorem finalText_of_same {decisions : Nat → Bool} {rejected : Bool}
    {diffs : List (Change Token)}
    (same : ∀ i change, diffs[i]? = some change → change.isKept = false → decisions i = rejected) :
    finalText decisions diffs = (diffs.map (segmentText rejected)).flatten := by
  induction diffs generalizing decisions with
  | nil => rfl
  | cons change rest ih =>
    have behind : finalText (fun i => decisions (i + 1)) rest =
        (rest.map (segmentText rejected)).flatten := ih fun i => same (i + 1)
    have here : segmentText (decisions 0) change = segmentText rejected change := by
      cases kept : change.isKept with
      | true => rw [segmentText_kept kept, segmentText_kept kept rejected]
      | false => rw [same 0 change rfl kept]
    rw [finalText] at behind ⊢
    rw [List.mapIdx_cons, List.flatten_cons, List.map_cons, List.flatten_cons, behind, here]

private theorem map_segmentText_true (diffs : List (Change Token)) :
    (diffs.map (segmentText true)).flatten = (diffs.filterMap Change.old?).flatten := by
  induction diffs with
  | nil => rfl
  | cons change rest ih =>
    rw [List.map_cons, List.flatten_cons, ih]
    cases change <;> rfl

private theorem map_segmentText_false (diffs : List (Change Token)) :
    (diffs.map (segmentText false)).flatten = (diffs.filterMap Change.new?).flatten := by
  induction diffs with
  | nil => rfl
  | cons change rest ih =>
    rw [List.map_cons, List.flatten_cons, ih]
    cases change <;> rfl

private theorem finalText_of_clicked {odd : Bool} {diffs : List (Change Token)} {clicks : List Nat}
    (clicked : Clicked odd diffs clicks) :
    finalText (decisionsAfter clicks) diffs = (diffs.map (segmentText odd)).flatten := by
  apply finalText_of_same
  intro i change found changed
  rw [decisionsAfter_apply]
  exact clicked i change found changed

/-- A diff is always there. Whoever takes no segment back, however often they change their mind, is
left with the improved text; within the limit whoever takes every segment back is left with their
own. -/
theorem diff_reversible (before after : List UInt16) : ∃ diffs,
    computeWordDiff before after = some diffs ∧
    (∀ clicks, Clicked false diffs clicks → finalText (decisionsAfter clicks) diffs = after) ∧
    (before.length ≤ 2000 → after.length ≤ 2000 →
      ∀ clicks, Clicked true diffs clicks → finalText (decisionsAfter clicks) diffs = before) := by
  by_cases within : before.length ≤ 2000 ∧ after.length ≤ 2000
  · obtain ⟨diffs, ends, leads, -⟩ := computeWordDiff_leads within.1 within.2
    refine ⟨diffs, ends, fun clicks clicked => ?_, fun _ _ clicks clicked => ?_⟩
    · rw [finalText_of_clicked clicked, map_segmentText_false, leads.new, flatten_piecesBy]
    · rw [finalText_of_clicked clicked, map_segmentText_true, leads.old, flatten_piecesBy]
  · have beyond : before.length > 2000 ∨ after.length > 2000 := by omega
    refine ⟨[.ins after], if_pos beyond, fun clicks clicked => ?_, fun short short' => ?_⟩
    · rw [finalText_of_clicked clicked]
      exact List.append_nil after
    · exact absurd ⟨short, short'⟩ within

/-- No other way from the one text to the other has fewer segments to decide on. -/
theorem diff_fewest {before after : List UInt16} (short : before.length ≤ 2000)
    (short' : after.length ≤ 2000) : ∃ diffs, computeWordDiff before after = some diffs ∧
      Change.Leads (piecesBy isTrimmed before) (piecesBy isTrimmed after) diffs ∧
      ∀ others, Change.Leads (piecesBy isTrimmed before) (piecesBy isTrimmed after) others →
        diffs.countP (fun change => !change.isKept) ≤ others.countP fun change => !change.isKept := by
  obtain ⟨diffs, ends, leads, longest⟩ := computeWordDiff_leads short short'
  exact ⟨diffs, ends, leads, fun others leads' => leads.fewest longest leads'⟩

/-- Two words, of which the second is replaced. -/
theorem two_words_fewest : ∃ diffs,
    computeWordDiff [0x61, 0x20, 0x62] [0x61, 0x20, 0x63] = some diffs ∧
    Change.Leads ([[0x61], [0x20], [0x62]] : List Token) [[0x61], [0x20], [0x63]] diffs ∧
    ∀ others, Change.Leads ([[0x61], [0x20], [0x62]] : List Token) [[0x61], [0x20], [0x63]] others →
      diffs.countP (fun change => !change.isKept) ≤ others.countP fun change => !change.isKept :=
  @diff_fewest [0x61, 0x20, 0x62] [0x61, 0x20, 0x63] (by decide) (by decide)

example : computeWordDiff [0x61, 0x20, 0x62] [0x61, 0x20, 0x63] =
    some [.eq [0x61], .eq [0x20], .del [0x62], .ins [0x63]] := by decide

end BrainMate.WriteRight.WordDiff
