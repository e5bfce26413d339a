import BrainMate.Text.Matches

namespace BrainMate.Text

/-- A regular expression under the flag `g`. -/
structure GlobalRegExp (Symbol : Type) where
  pattern : Pattern Symbol
  lastIndex : Nat := 0

variable {Symbol : Type}

/-- The place of a text behind so many symbols. -/
def placeAt (text : List Symbol) (index : Nat) : Place Symbol :=
  { before := (text.take index).getLast?, rest := text.drop index }

theorem placeAt_append (seen rest : List Symbol) :
    placeAt (seen ++ rest) seen.length = { before := seen.getLast?, rest } := by
  rw [placeAt, List.take_left, List.drop_left]

namespace Pattern

/-- The match that begins at an index. -/
def matchFrom? (pattern : Pattern Symbol) (text : List Symbol) (index : Nat) :
    Option (Match Symbol) :=
  (pattern.ends (placeAt text index)).head?.map fun stop =>
    { index, start := placeAt text index, stop }

/-- The first match that begins at an index or behind it. -/
def firstFrom? (pattern : Pattern Symbol) (text : List Symbol) (index : Nat) :
    Option (Match Symbol) :=
  (List.range' index (text.length + 1 - index)).findSome? (pattern.matchFrom? text)

variable {pattern : Pattern Symbol} {text : List Symbol} {index : Nat} {found : Match Symbol}

private theorem of_matchFrom? (within : index ≤ text.length)
    (hit : pattern.matchFrom? text index = some found) :
    found.index = index ∧ found.Of pattern text := by
  obtain ⟨stop, first, rfl⟩ := Option.map_eq_some_iff.mp hit
  exact ⟨rfl, within, rfl, rfl, List.mem_of_mem_head? first⟩

private theorem of_firstFrom? (first : pattern.firstFrom? text index = some found) :
    index ≤ found.index ∧ found.Of pattern text := by
  obtain ⟨start, member, hit⟩ := List.exists_of_findSome?_eq_some first
  obtain ⟨behind, within⟩ := List.mem_range'_1.mp member
  obtain ⟨same, of⟩ := of_matchFrom? (by omega) hit
  exact ⟨same ▸ behind, of⟩

private theorem firstFrom?_of_hit (within : index ≤ text.length)
    (hit : pattern.matchFrom? text index = some found) :
    pattern.firstFrom? text index = some found := by
  have more : text.length + 1 - index = (text.length - index) + 1 := by omega
  rw [firstFrom?, more, List.range'_succ, List.findSome?_cons, hit]

private theorem firstFrom?_of_miss (miss : pattern.matchFrom? text index = none) :
    pattern.firstFrom? text index = pattern.firstFrom? text (index + 1) := by
  rcases Nat.lt_or_ge text.length index with beyond | within
  · have nothing : text.length + 1 - index = 0 := by omega
    have nothing' : text.length + 1 - (index + 1) = 0 := by omega
    rw [firstFrom?, firstFrom?, nothing, nothing', List.range'_zero, List.range'_zero]
  · have more : text.length + 1 - index = (text.length + 1 - (index + 1)) + 1 := by omega
    rw [firstFrom?, more, List.range'_succ, List.findSome?_cons, miss, firstFrom?]

/-- A pattern that takes something does not match behind the text. -/
theorem matchFrom?_of_end (solid : pattern.solid = true) (ended : text.length ≤ index) :
    pattern.matchFrom? text index = none := by
  have nothing : (placeAt text index).rest = [] := List.drop_eq_nil_of_le ended
  rw [matchFrom?, Option.map_eq_none_iff, List.head?_eq_none_iff]
  refine List.eq_nil_iff_forall_not_mem.mpr fun stop reached => ?_
  obtain ⟨taken, leads, took⟩ := takes_of_ends pattern _ stop reached
  have parts := leads.rest
  rw [nothing] at parts
  exact takes_solid took solid (List.append_eq_nil_iff.mp parts.symm).1

private theorem firstFrom?_of_end (solid : pattern.solid = true) (ended : text.length ≤ index) :
    pattern.firstFrom? text index = none := by
  refine List.findSome?_eq_none_iff.mpr fun start member => ?_
  exact matchFrom?_of_end solid (Nat.le_trans ended (List.mem_range'_1.mp member).1)

end Pattern

namespace GlobalRegExp

/-- With the `lastIndex` it has before its first search. -/
def reset (regex : GlobalRegExp Symbol) : GlobalRegExp Symbol := { regex with lastIndex := 0 }

/-- `regex.exec(text)` -/
def exec (regex : GlobalRegExp Symbol) (text : List Symbol) :
    Option (Match Symbol) × GlobalRegExp Symbol :=
  match regex.pattern.firstFrom? text regex.lastIndex with
  | some found => (some found, { regex with lastIndex := found.index + found.taken.length })
  | none => (none, { regex with lastIndex := 0 })

/-- `regex.test(text)` -/
def test (regex : GlobalRegExp Symbol) (text : List Symbol) : Bool × GlobalRegExp Symbol :=
  let (found, regex) := regex.exec text
  (found.isSome, regex)

/-- Repeated `exec` calls until one fails, as long as the fuel lasts. Behind an empty match the
search goes on with the next symbol. -/
def collect (text : List Symbol) :
    Nat → GlobalRegExp Symbol → List (Match Symbol) × GlobalRegExp Symbol
  | 0, regex => ([], regex)
  | fuel + 1, regex =>
    match regex.exec text with
    | (none, regex) => ([], regex)
    | (some found, regex) =>
      let next := if found.taken = [] then { regex with lastIndex := regex.lastIndex + 1 } else regex
      let (others, regex) := collect text fuel next
      (found :: others, regex)

/-- `text.match(regex)` -/
def matchIn (regex : GlobalRegExp Symbol) (text : List Symbol) :
    Option (List (Match Symbol)) × GlobalRegExp Symbol :=
  let (found, regex) := collect text (text.length + 2) regex.reset
  (if found.isEmpty then none else some found, regex)

variable {regex : GlobalRegExp Symbol} {text : List Symbol} {found : Match Symbol} {fuel : Nat}

@[simp] theorem reset_reset : regex.reset.reset = regex.reset := rfl

/-- A search that fails leaves the regular expression as it was at first. -/
theorem exec_none (failed : (regex.exec text).1 = none) : regex.exec text = (none, regex.reset) := by
  rw [exec] at failed ⊢
  split at failed
  · cases failed
  · rfl

theorem exec_some (hit : (regex.exec text).1 = some found) :
    regex.exec text = (some found, { regex with lastIndex := found.index + found.taken.length }) ∧
      regex.lastIndex ≤ found.index ∧ found.Of regex.pattern text := by
  rw [exec] at hit ⊢
  split at hit
  · rename_i first
    cases hit
    exact ⟨rfl, Pattern.of_firstFrom? first⟩
  · cases hit

/-- All matches have been found when the last of the calls fails. -/
theorem collect_snd (within : regex.lastIndex ≤ text.length + 1)
    (enough : text.length + 2 ≤ fuel + regex.lastIndex) :
    (collect text fuel regex).2 = regex.reset := by
  induction fuel generalizing regex with
  | zero => omega
  | succ fuel ih =>
    rw [collect]
    cases result : (regex.exec text).1 with
    | none => rw [exec_none result]
    | some found =>
      obtain ⟨executed, behind, of⟩ := exec_some result
      have ends := of.length
      rw [executed]
      dsimp only
      split
      · rename_i nothing
        rw [nothing, List.length_nil] at ends ⊢
        exact ih (by dsimp only; omega) (by dsimp only; omega)
      · rename_i something
        have longer := List.length_pos_iff.mpr something
        exact ih (by dsimp only; omega) (by dsimp only; omega)

/-- `match` leaves nothing behind. -/
theorem matchIn_snd : (regex.matchIn text).2 = regex.reset := by
  have collected : (collect text (text.length + 2) regex.reset).2 = regex.reset.reset :=
    collect_snd (Nat.zero_le _) (Nat.le_refl _)
  rw [matchIn, collected, reset_reset]

theorem matchIn_reset : regex.reset.matchIn text = regex.matchIn text := rfl

theorem reset_test : (regex.test text).2.reset = regex.reset := by
  rw [test, exec]
  cases regex.pattern.firstFrom? text regex.lastIndex <;> rfl

theorem test_false (failed : (regex.test text).1 = false) : (regex.test text).2 = regex.reset := by
  rw [test] at failed ⊢
  cases result : (regex.exec text).1 with
  | none => rw [exec_none result]
  | some found =>
    rw [(exec_some result).1] at failed
    cases failed

/-- Two tests of one text in a row need not agree. -/
example : let regex : GlobalRegExp Nat := { pattern := .symbol fun symbol => symbol = 7 }
    (regex.test [7]).1 = true ∧ ((regex.test [7]).2.test [7]).1 = false := by decide

private theorem exec_of_hit {index : Nat} (within : index ≤ text.length)
    (hit : regex.pattern.matchFrom? text index = some found) :
    exec { regex with lastIndex := index } text =
      (some found, { regex with lastIndex := found.index + found.taken.length }) := by
  rw [exec, Pattern.firstFrom?_of_hit within hit]

private theorem collect_of_miss {index : Nat} (miss : regex.pattern.matchFrom? text index = none) :
    collect text (fuel + 1) { regex with lastIndex := index } =
      collect text (fuel + 1) { regex with lastIndex := index + 1 } := by
  rw [collect, collect, exec, exec, Pattern.firstFrom?_of_miss miss]

/-- For a pattern that takes something, the calls find its matches one after the other. -/
theorem collect_eq_matchesFrom (solid : regex.pattern.solid = true) {seen rest : List Symbol}
    (enough : rest.length < fuel) :
    (collect (seen ++ rest) fuel { regex with lastIndex := seen.length }).1 =
      regex.pattern.matchesFrom 0 seen.length seen.getLast? rest := by
  induction length : rest.length using Nat.strongRecOn generalizing seen rest fuel with
  | ind size ih =>
    subst length
    obtain ⟨fuel, rfl⟩ : ∃ more, fuel = more + 1 := ⟨fuel - 1, by omega⟩
    cases rest with
    | nil =>
      have ended : (seen ++ []).length ≤ seen.length := Nat.le_of_eq (by rw [List.append_nil])
      rw [collect, exec, Pattern.firstFrom?_of_end solid ended, Pattern.matchesFrom]
    | cons head rest =>
      have within : seen.length ≤ (seen ++ head :: rest).length := by
        rw [List.length_append]
        omega
      rw [Pattern.matchesFrom]
      cases first : (regex.pattern.ends { before := seen.getLast?, rest := head :: rest }).head? with
      | none =>
        have miss : regex.pattern.matchFrom? (seen ++ head :: rest) seen.length = none := by
          rw [Pattern.matchFrom?, placeAt_append, first, Option.map_none]
        have others := @ih rest.length (Nat.lt_succ_self _) (fuel + 1) (seen ++ [head]) rest
          (Nat.lt_of_succ_lt enough) rfl
        rw [List.append_assoc, List.singleton_append, List.length_append, List.length_singleton,
          List.getLast?_concat] at others
        rw [collect_of_miss miss]
        exact others
      | some stop =>
        have hit : regex.pattern.matchFrom? (seen ++ head :: rest) seen.length = some
            ⟨seen.length, { before := seen.getLast?, rest := head :: rest }, stop⟩ := by
          rw [Pattern.matchFrom?, placeAt_append, first, Option.map_some]
        obtain ⟨taken, leads, took⟩ := Pattern.takes_of_ends _ _ stop (List.mem_of_mem_head? first)
        rw [collect, exec_of_hit within hit]
        simp only [Match.taken, leads.upTo]
        rw [if_neg (Pattern.takes_solid took solid)]
        cases taken with
        | nil => exact absurd rfl (Pattern.takes_solid took solid)
        | cons symbol taken =>
          obtain ⟨same, tail⟩ := List.cons.inj leads.rest
          have tail : rest = taken ++ stop.rest := tail
          subst same tail
          have shorter : stop.rest.length < (head :: (taken ++ stop.rest)).length := by
            rw [List.length_cons, List.length_append]
            omega
          have others := @ih stop.rest.length shorter fuel (seen ++ head :: taken) stop.rest
            (by omega) rfl
          have ended : seen.length + (taken.length + 1) = (seen ++ head :: taken).length := by
            rw [List.length_append, List.length_cons]
          rw [List.length_cons, Nat.add_sub_cancel, Pattern.matchesFrom_behind, ended, ← others,
            List.append_assoc, List.cons_append]

/-- `match` finds the matches of the pattern. -/
theorem matchIn_eq_allMatches (solid : regex.pattern.solid = true) :
    (regex.matchIn text).1 =
      if (regex.pattern.allMatches text).isEmpty then none else some (regex.pattern.allMatches text) := by
  have found := @collect_eq_matchesFrom _ regex (text.length + 2) solid [] text (by omega)
  have found : (collect text (text.length + 2) regex.reset).1 = regex.pattern.allMatches text := found
  rw [matchIn, ← found]

theorem length_matchIn (solid : regex.pattern.solid = true) :
    (regex.matchIn text).1.elim 0 List.length = (regex.pattern.allMatches text).length := by
  rw [matchIn_eq_allMatches solid]
  cases regex.pattern.allMatches text <;> rfl

theorem head?_matchIn (solid : regex.pattern.solid = true) :
    (regex.matchIn text).1.bind List.head? = (regex.pattern.allMatches text).head? := by
  rw [matchIn_eq_allMatches solid]
  cases regex.pattern.allMatches text <;> rfl

/-- After a reset `test` tells whether there is a match. -/
theorem test_reset (solid : regex.pattern.solid = true) :
    (regex.reset.test text).1 = (regex.pattern.allMatches text).head?.isSome := by
  rw [← head?_matchIn solid, test, matchIn, collect]
  cases result : (regex.reset.exec text).1 with
  | none => rw [exec_none result]; rfl
  | some found => rw [(exec_some result).1]; rfl

end GlobalRegExp

end BrainMate.Text
