import BrainMate.WriteRight.GrammarChecker

namespace BrainMate.WriteRight.Grammar

open Text

variable {text : List UInt16} {issue : GrammarIssue} {issues : List GrammarIssue}
  {found sentence : Match UInt16}

/-- An issue points at the text it quotes. -/
structure Aligned (text : List UInt16) (issue : GrammarIssue) : Prop where
  start_lt : issue.start < issue.stop
  stop_le : issue.stop ≤ text.length
  quotes : slice text issue.start issue.stop = issue.original

def range (issue : GrammarIssue) : Nat × Nat := (issue.start, issue.stop)

private theorem any_range : (issues.any fun existing => existing.start = issue.start &&
    existing.stop = issue.stop) = true ↔ range issue ∈ issues.map range := by
  simp [range, List.any_eq_true]

private theorem mem_addIssue {other : GrammarIssue} (member : other ∈ addIssue issues issue) :
    other ∈ issues ∨ other = issue := by
  rw [addIssue] at member
  split at member
  · exact .inl member
  · simpa using member

private theorem range_addIssue {place : Nat × Nat} :
    place ∈ (addIssue issues issue).map range ↔ place ∈ issues.map range ∨ place = range issue := by
  rw [addIssue]
  split
  · rename_i duplicate
    have known := any_range.mp duplicate
    constructor
    · exact .inl
    · rintro (member | rfl)
      · exact member
      · exact known
  · rw [List.map_append, List.mem_append, List.map_singleton, List.mem_singleton]

private theorem mem_addIssues {others : List GrammarIssue}
    (member : issue ∈ others.foldl addIssue issues) :
    issue ∈ issues ∨ issue ∈ others := by
  induction others generalizing issues with
  | nil => exact .inl member
  | cons first others ih =>
    obtain member | member := ih member
    · obtain known | rfl := mem_addIssue member
      · exact .inl known
      · exact .inr List.mem_cons_self
    · exact .inr (List.mem_cons_of_mem _ member)

private theorem range_addIssues {others : List GrammarIssue} {place : Nat × Nat} :
    place ∈ (others.foldl addIssue issues).map range ↔
      place ∈ issues.map range ∨ place ∈ others.map range := by
  induction others generalizing issues with
  | nil => simp
  | cons first others ih =>
    rw [List.foldl_cons, ih, range_addIssue, List.map_cons, List.mem_cons, or_assoc]

theorem checkGrammar_subset (member : issue ∈ checkGrammar text) : issue ∈ candidates text := by
  rw [checkGrammar] at member
  split at member
  · exact absurd member List.not_mem_nil
  · exact (mem_addIssues (Storage.mem_ascending.mp member)).resolve_left List.not_mem_nil

/-- A range that a rule finds is a range of the result, though perhaps another rule's. -/
theorem checkGrammar_covers (written : trim text ≠ []) (member : issue ∈ candidates text) :
    ∃ other ∈ checkGrammar text, range other = range issue := by
  have covered : range issue ∈ ((candidates text).foldl addIssue []).map range :=
    range_addIssues.mpr (.inr (List.mem_map_of_mem member))
  obtain ⟨other, found, same⟩ := List.mem_map.mp covered
  rw [checkGrammar, if_neg fun nothing => written (List.eq_nil_of_length_eq_zero nothing)]
  exact ⟨other, Storage.mem_ascending.mpr found, same⟩

theorem checkGrammar_sorted (text : List UInt16) :
    (checkGrammar text).Pairwise fun issue later => issue.start ≤ later.start := by
  rw [checkGrammar]
  split
  · exact .nil
  · exact Storage.ascending_pairwise

/-- An issue comes from a rule about words, from a lowercase letter behind a sentence, from a long
sentence or from two sentences that start with "I". -/
theorem mem_candidates : issue ∈ candidates text ↔
    (∃ rule ∈ earlyRules ++ lateRules, issue ∈ rule.issues text) ∨
      (∃ found ∈ lowercaseAfterPeriod.allMatches text, lowercaseIssue found = issue) ∨
      (∃ sentence ∈ sentencesList text, isLong sentence = true ∧ longIssue sentence = issue) ∨
      ∃ pair ∈ neighbours text, bothStartWithI pair = true ∧ consecutiveIssue pair = issue := by
  simp only [candidates, List.mem_append, List.mem_flatMap, List.mem_map, List.mem_filter,
    or_and_right, exists_or, and_assoc]
  grind

private theorem rules_solid : ∀ rule ∈ earlyRules ++ lateRules, rule.pattern.solid = true := by
  decide +kernel

private theorem aligned_of_wordRule {rule : WordRule} (solid : rule.pattern.solid = true)
    (member : issue ∈ rule.issues text) : Aligned text issue := by
  obtain ⟨found, matched, rfl⟩ := List.mem_map.mp member
  have of := Pattern.of_mem_allMatches solid matched
  have taken := List.length_pos_iff.mpr (Pattern.takes_solid of.leads.2 solid)
  have within := of.length
  exact {
    start_lt := by simp only [WordRule.issue]; omega
    stop_le := by simp only [WordRule.issue]; omega
    quotes := of.slice_taken }

private theorem lowercase_parts (reached : found.stop ∈ lowercaseAfterPeriod.ends found.start) :
    ∃ mark blanks letter, found.taken = [mark] ++ (blanks ++ ([letter] ++ [])) ∧
      found.stop.captured 1 = [mark] ∧ found.stop.captured 2 = [letter] ∧ isLower letter = true := by
  obtain ⟨marked, began, reached⟩ := List.mem_flatMap.mp reached
  obtain ⟨spaced, middle, reached⟩ := List.mem_flatMap.mp reached
  obtain ⟨ended, last, reached⟩ := List.mem_flatMap.mp reached
  have stop : found.stop = ended := List.mem_singleton.mp reached
  obtain ⟨first, mark_reached, rfl⟩ := List.mem_map.mp began
  obtain ⟨second, letter_reached, rfl⟩ := List.mem_map.mp last
  obtain ⟨front, mark_leads, mark_took⟩ := Pattern.takes_of_ends _ _ _ mark_reached
  obtain ⟨blanks, blanks_lead, _⟩ := Pattern.takes_of_ends _ _ _ middle
  obtain ⟨back, letter_leads, letter_took⟩ := Pattern.takes_of_ends _ _ _ letter_reached
  have groups := Pattern.groups_of_groupless rfl _ _ middle
  have groups' := Pattern.groups_of_groupless rfl _ _ letter_reached
  have mark_up := mark_leads.upTo
  have letter_up := letter_leads.upTo
  cases mark_took with
  | @symbol _ mark _ =>
    cases letter_took with
    | @symbol _ letter lower =>
      have whole := ((mark_leads.regroup _).trans blanks_lead).trans (letter_leads.regroup
        ((2, spaced.upTo second) :: second.groups))
      refine ⟨mark, blanks, letter, ?_, ?_, ?_, lower⟩
      · rw [Match.taken, stop, whole.upTo]
        simp
      · rw [stop, Place.captured, groups', groups, mark_up]
        rfl
      · rw [stop, Place.captured, letter_up]
        rfl

private theorem aligned_of_lowercase (matched : found ∈ lowercaseAfterPeriod.allMatches text) :
    Aligned text (lowercaseIssue found) := by
  have of := Pattern.of_mem_allMatches rfl matched
  obtain ⟨mark, blanks, letter, taken, first, second, _⟩ := lowercase_parts of.reached
  have within := of.length
  have points := @Match.Of.slice_part _ _ _ _ of ([mark] ++ blanks) [letter] []
    (by rw [taken, List.append_assoc])
  have offset : found.index + (found.stop.captured 1).length +
      (found.taken.length - (found.stop.captured 1).length - 1) =
        found.index + ([mark] ++ blanks).length := by
    simp only [first, taken, List.length_append, List.length_cons, List.length_nil]
    omega
  simp only [taken, List.length_append, List.length_cons, List.length_nil] at within
  refine ⟨?_, ?_, ?_⟩
  · exact Nat.lt_succ_self _
  · simp only [lowercaseIssue, offset, List.length_append, List.length_cons, List.length_nil]
    omega
  · simp only [lowercaseIssue, offset, second]
    exact points

private theorem not_terminator_of_blank {unit : UInt16} (blank : isTrimmed unit = true) :
    isTerminator unit = false := by
  by_contra terminator
  simp only [isTerminator, Bool.not_eq_false, Bool.or_eq_true, decide_eq_true_eq, or_assoc] at terminator
  obtain rfl | rfl | rfl := terminator <;> exact absurd blank (by decide)

private theorem not_blank_of_word {unit : UInt16} (word : isWord unit = true) :
    isTrimmed unit = false := by
  simp only [isWord, Bool.or_eq_true, Bool.and_eq_true, decide_eq_true_eq] at word
  simp only [isTrimmed, Bool.or_eq_false_iff, Bool.and_eq_false_iff, decide_eq_false_iff_not]
  omega

private theorem not_blank_of_lower {unit : UInt16} (lower : isLower unit = true) :
    isTrimmed unit = false := by
  simp only [isLower, Bool.and_eq_true, decide_eq_true_eq] at lower
  exact not_blank_of_word (by simp [isWord, lower])

private theorem not_word_of_terminator {unit : UInt16} (terminator : isTerminator unit = true) :
    isWord unit = false := by
  simp only [isTerminator, Bool.or_eq_true, decide_eq_true_eq, or_assoc] at terminator
  obtain rfl | rfl | rfl := terminator <;> decide

/-- A sentence begins wherever there is something else than a terminator. -/
theorem sentence_begins {place : Place UInt16} {head : UInt16} {rest : List UInt16}
    (starts : place.rest = head :: rest) (letter : isTerminator head = false) :
    sentenceBoundaryRegex.ends place ≠ [] := by
  let run := place.rest.takeWhile fun unit => !isTerminator unit
  have run_takes : (Pattern.oneOrMore (.symbol fun unit => !isTerminator unit)).Takes run := by
    refine Pattern.takes_oneOrMore_symbol.mpr ⟨?_, fun unit => List.mem_takeWhile_imp⟩
    simp [run, starts, letter]
  obtain ⟨middle, reached, middle_rest⟩ := Pattern.ends_of_takes (by decide) place run
    (place.rest.dropWhile fun unit => !isTerminator unit) run_takes
    List.takeWhile_append_dropWhile.symm
  have closes : (Pattern.alt (.oneOrMore (.symbol isTerminator)) .atEnd).ends middle ≠ [] := by
    cases behind : middle.rest with
    | nil =>
      have ended : middle ∈ Pattern.atEnd.ends middle := Pattern.mem_ends_atEnd.mpr ⟨rfl, behind⟩
      exact List.ne_nil_of_mem (List.mem_append_right _ ended)
    | cons mark others =>
      have terminator : isTerminator mark = true := by
        have first := List.head?_dropWhile_not (fun unit => !isTerminator unit) place.rest
        rw [← middle_rest, behind] at first
        simpa using first
      have mark_takes : (Pattern.oneOrMore (.symbol isTerminator)).Takes [mark] :=
        Pattern.takes_oneOrMore_symbol.mpr ⟨List.cons_ne_nil _ _, by simpa using terminator⟩
      obtain ⟨later, ended, _⟩ := Pattern.ends_of_takes (by decide) middle [mark] others mark_takes
        behind
      exact List.ne_nil_of_mem (List.mem_append_left _ ended)
  obtain ⟨later, ended⟩ := List.exists_mem_of_ne_nil _ closes
  have grouped : _ ∈ (Pattern.group 2 _).ends middle := List.mem_map_of_mem ended
  exact List.ne_nil_of_mem (List.mem_map_of_mem (List.mem_flatMap.mpr ⟨middle, reached, grouped⟩))

/-- A sentence ends behind a terminator or at the end of the text. -/
theorem sentence_ends {place later : Place UInt16} (reached : later ∈ sentenceBoundaryRegex.ends place) :
    later.rest = [] ∨ later.before.any isTerminator = true := by
  obtain ⟨inside, sequence, rfl⟩ := List.mem_map.mp reached
  obtain ⟨middle, _, second⟩ := List.mem_flatMap.mp sequence
  obtain ⟨closed, closing, rfl⟩ := List.mem_map.mp second
  obtain reached | reached := List.mem_append.mp closing
  · right
    obtain ⟨taken, leads, took⟩ := Pattern.takes_of_ends _ _ _ reached
    obtain ⟨nonempty, terminators⟩ := Pattern.takes_oneOrMore_symbol.mp took
    obtain ⟨front, last, rfl⟩ := (List.eq_nil_or_concat' taken).resolve_left nonempty
    have closes := terminators last List.mem_concat_self
    have before := leads.before
    rw [List.getLast?_concat] at before
    simp [before, closes]
  · left
    obtain ⟨rfl, nothing⟩ := Pattern.mem_ends_atEnd.mp reached
    exact nothing

/-- A sentence stands behind the end of another, and it is closed unless the text is over. -/
structure Sentence (text : List UInt16) (sentence : Match UInt16) : Prop where
  of : sentence.Of sentenceBoundaryRegex text
  opened : sentence.start.before.all isTerminator = true
  closed : sentence.stop.rest = [] ∨ sentence.taken.getLast?.any isTerminator = true

private theorem sentence_nonempty (of : sentence.Of sentenceBoundaryRegex text) :
    sentence.taken ≠ [] :=
  Pattern.takes_solid of.leads.2 rfl

theorem sentence_of_mem (member : sentence ∈ sentencesList text) : Sentence text sentence := by
  have solid : sentenceBoundaryRegex.solid = true := rfl
  obtain ⟨of, opened⟩ := @Pattern.of_mem_matchesFrom _ _ text solid
    (fun before rest => rest = [] ∨ before.all isTerminator = true)
    (fun place later reached _ => (sentence_ends reached).imp_right fun closes => by
      cases behind : later.before with
      | none => rfl
      | some last => simpa [behind] using closes)
    (fun before head rest missed _ => by
      right
      by_contra letter
      exact sentence_begins rfl (Bool.eq_false_of_not_eq_true letter) missed)
    [] (.inr rfl) sentence member
  have nonempty := sentence_nonempty of
  refine ⟨of, ?_, ?_⟩
  · refine opened.resolve_left fun nothing => nonempty ?_
    have rest := of.leads.1.rest
    rw [nothing] at rest
    exact (List.append_eq_nil_iff.mp rest.symm).1
  · refine (sentence_ends of.reached).imp_right fun closes => ?_
    obtain ⟨front, last, taken⟩ := (List.eq_nil_or_concat' _).resolve_left nonempty
    rw [of.leads.1.before] at closes
    simpa [taken] using closes

private theorem aligned_of_long (member : sentence ∈ sentencesList text)
    (trimmed : Trimmed isTrimmed sentence.taken) : Aligned text (longIssue sentence) := by
  have of := (sentence_of_mem member).of
  have taken := List.length_pos_iff.mpr (sentence_nonempty of)
  have within := of.length
  exact {
    start_lt := by simp only [longIssue]; omega
    stop_le := by simp only [longIssue]; omega
    quotes := of.slice_taken.trans (trimBy_of_trimmed trimmed).symm }

private theorem firstWord_eq (text : List UInt16) :
    firstWord text = text.takeWhile fun unit => !isTrimmed unit := by
  rw [firstWord, splitSpaces, List.headD_eq_head?_getD, head_splitOnP, Option.getD_some]
  exact takeWhile_squeeze text rfl

private theorem blank_of_mem_firstWord {unit : UInt16} (member : unit ∈ firstWord text) :
    isTrimmed unit = false := by
  rw [firstWord_eq] at member
  simpa using List.mem_takeWhile_imp member

private theorem firstWord_ne_nil (starts : startsWithI text = true) : firstWord text ≠ [] := by
  rw [startsWithI, Pattern.matchAt?, Option.isSome_map, List.isSome_head?] at starts
  obtain ⟨later, reached⟩ := List.exists_mem_of_ne_nil _ (by simpa using starts)
  obtain ⟨middle, began, _⟩ := List.mem_flatMap.mp reached
  obtain ⟨first, rest, parts, letter, _⟩ := Pattern.mem_ends_symbol.mp began
  have parts : text = first :: rest := parts
  have solid : isTrimmed first = false := by
    simp only [Bool.or_eq_true, decide_eq_true_eq] at letter
    obtain rfl | rfl := letter <;> decide
  rw [firstWord_eq, parts, List.takeWhile_cons_of_pos (by simp [solid])]
  exact List.cons_ne_nil _ _

private theorem aligned_of_consecutive {pair : Match UInt16 × Match UInt16}
    (member : pair.2 ∈ sentencesList text) (both : bothStartWithI pair = true)
    (begins : pair.2.taken.head?.any isTrimmed = false) : Aligned text (consecutiveIssue pair) := by
  have of := (sentence_of_mem member).of
  have positive := List.length_pos_iff.mpr (firstWord_ne_nil (Bool.and_eq_true _ _ ▸ both).2)
  have word_prefix : firstWord (trim pair.2.taken) <+: pair.2.taken := by
    rw [firstWord_eq]
    exact (List.takeWhile_prefix _).trans (trimBy_begins begins)
  obtain ⟨back, parts⟩ := word_prefix
  have within := of.length
  have lengths := congrArg List.length parts
  rw [List.length_append] at lengths
  exact {
    start_lt := by simp only [consecutiveIssue]; omega
    stop_le := by simp only [consecutiveIssue]; omega
    quotes := @Match.Of.slice_part _ _ _ _ of [] _ back parts.symm }

private theorem before_of_index {pattern other : Pattern UInt16} (of : found.Of pattern text)
    (of' : sentence.Of other text) (same : found.index = sentence.index) :
    found.start.before = sentence.start.before := by
  rw [of.before, of'.before, same]

private theorem original_begins (member : issue ∈ candidates text)
    (sentences : Sentence text sentence)
    (same : issue.start = sentence.index) : issue.original.head?.any isTrimmed = false := by
  obtain ⟨rule, listed, member⟩ | ⟨found, matched, rfl⟩ | ⟨other, _, _, rfl⟩ | ⟨pair, _, _, rfl⟩ :=
    mem_candidates.mp member
  · have solid := rules_solid rule listed
    obtain ⟨found, matched, rfl⟩ := List.mem_map.mp member
    have of := Pattern.of_mem_allMatches solid matched
    obtain ⟨_, opens, _⟩ := Pattern.mem_ends_wholeWords.mp of.reached
    have outside : found.start.before.any isWord = false := by
      have opened := sentences.opened
      rw [← before_of_index of sentences.of same] at opened
      cases before : found.start.before with
      | none => rfl
      | some last =>
        rw [before] at opened
        exact not_word_of_terminator opened
    rw [outside, of.leads.1.rest] at opens
    obtain ⟨first, rest, taken⟩ :=
      List.exists_cons_of_ne_nil (Pattern.takes_solid of.leads.2 solid)
    simp only [taken, List.cons_append, List.head?_cons, Option.any_some] at opens
    simp only [WordRule.issue, taken, List.head?_cons, Option.any_some]
    exact not_blank_of_word (by simpa using opens.symm)
  · obtain ⟨_, _, letter, _, _, second, lower⟩ :=
      lowercase_parts (Pattern.of_mem_allMatches rfl matched).reached
    simpa [lowercaseIssue, second] using not_blank_of_lower lower
  · exact (trimmed_trimBy other.taken).1
  · cases word : firstWord (trim pair.2.taken) with
    | nil => simp [consecutiveIssue, word]
    | cons first rest =>
      have solid := blank_of_mem_firstWord (word ▸ List.mem_cons_self)
      simpa [consecutiveIssue, word] using solid

private theorem original_ends (member : issue ∈ candidates text) (last : issue.stop = text.length) :
    issue.original.getLast?.any isTrimmed = false := by
  obtain ⟨rule, listed, member⟩ | ⟨found, matched, rfl⟩ | ⟨other, _, _, rfl⟩ | ⟨pair, _, _, rfl⟩ :=
    mem_candidates.mp member
  · have solid := rules_solid rule listed
    obtain ⟨found, matched, rfl⟩ := List.mem_map.mp member
    have of := Pattern.of_mem_allMatches solid matched
    obtain ⟨_, _, closes⟩ := Pattern.mem_ends_wholeWords.mp of.reached
    have nothing : found.stop.rest = [] := by
      have within := of.length
      simp only [WordRule.issue] at last
      exact List.eq_nil_of_length_eq_zero (by omega)
    obtain ⟨front, final, taken⟩ :=
      (List.eq_nil_or_concat' _).resolve_left (Pattern.takes_solid of.leads.2 solid)
    rw [nothing, of.leads.1.before] at closes
    simp only [taken, List.getLast?_concat] at closes
    simp only [WordRule.issue, taken, List.getLast?_concat, Option.any_some]
    exact not_blank_of_word (by simpa using closes)
  · obtain ⟨_, _, letter, _, _, second, lower⟩ :=
      lowercase_parts (Pattern.of_mem_allMatches rfl matched).reached
    simpa [lowercaseIssue, second] using not_blank_of_lower lower
  · exact (trimmed_trimBy other.taken).2
  · cases final : (firstWord (trim pair.2.taken)).getLast? with
    | none => simp [consecutiveIssue, final]
    | some unit =>
      have solid := blank_of_mem_firstWord (List.mem_of_getLast? final)
      simpa [consecutiveIssue, final] using solid

/-- No long sentence has white space at an end, and no sentence that starts with "I" behind another
begins with white space. -/
structure NeatSentences (text : List UInt16) : Prop where
  long : ∀ sentence ∈ sentencesList text, isLong sentence = true →
    Trimmed isTrimmed sentence.taken
  consecutive : ∀ pair ∈ neighbours text, bothStartWithI pair = true →
    pair.2.taken.head?.any isTrimmed = false

private theorem sentence_of_neighbours {pair : Match UInt16 × Match UInt16}
    (member : pair ∈ neighbours text) :
    pair.2 ∈ sentencesList text :=
  List.mem_of_mem_tail (List.of_mem_zip member).2

theorem aligned_of_neat (neat : NeatSentences text) (member : issue ∈ checkGrammar text) :
    Aligned text issue := by
  obtain ⟨rule, listed, member⟩ | ⟨found, matched, rfl⟩ | ⟨sentence, listed, long, rfl⟩ |
    ⟨pair, listed, both, rfl⟩ := mem_candidates.mp (checkGrammar_subset member)
  · exact aligned_of_wordRule (rules_solid rule listed) member
  · exact aligned_of_lowercase matched
  · exact aligned_of_long listed (neat.long sentence listed long)
  · exact aligned_of_consecutive (sentence_of_neighbours listed) both
      (neat.consecutive pair listed both)

private theorem trim_blank_part (of : sentence.Of sentenceBoundaryRegex text)
    (blank : trim text = []) :
    trim sentence.taken = [] := by
  have everywhere : ∀ unit ∈ text, isTrimmed unit = true := trimBy_eq_nil.mp blank
  refine trimBy_eq_nil.mpr fun unit member => everywhere unit ?_
  rw [of.whole]
  exact List.mem_append_right _ (List.mem_append_left _ member)

/-- An issue with the range of another quotes what that range begins with. -/
theorem quoted_of_range {other : GrammarIssue} (aligned : Aligned text other)
    (same : range other = range issue) : other.original = slice text issue.start issue.stop := by
  obtain ⟨start, stop⟩ := Prod.mk.inj same
  rw [← aligned.quotes, start, stop]

theorem neat_of_aligned (aligned : ∀ issue ∈ checkGrammar text, Aligned text issue) :
    NeatSentences text := by
  constructor
  · intro sentence listed long
    have sentences := sentence_of_mem listed
    have written : trim text ≠ [] := by
      intro blank
      rw [isLong, trim_blank_part sentences.of blank] at long
      exact absurd long (by decide)
    obtain ⟨other, member, same⟩ := checkGrammar_covers written
      (mem_candidates.mpr (.inr (.inr (.inl ⟨sentence, listed, long, rfl⟩))))
    have quoted : other.original = sentence.taken :=
      (quoted_of_range (aligned other member) same).trans sentences.of.slice_taken
    obtain ⟨start, stop⟩ := Prod.mk.inj same
    constructor
    · rw [← quoted]
      exact original_begins (checkGrammar_subset member) sentences start
    · obtain last | closed := sentences.closed
      · rw [← quoted]
        refine original_ends (checkGrammar_subset member) (stop.trans ?_)
        have within := sentences.of.length
        rw [last, List.length_nil] at within
        exact within
      · cases final : sentence.taken.getLast? with
        | none => rfl
        | some unit =>
          rw [final, Option.any_some] at closed
          by_contra blank
          rw [Option.any_some, Bool.not_eq_false] at blank
          exact Bool.false_ne_true ((not_terminator_of_blank blank).symm.trans closed)
  · intro pair listed both
    have sentences := sentence_of_mem (sentence_of_neighbours listed)
    have starts : startsWithI (trim pair.2.taken) = true := (Bool.and_eq_true _ _ ▸ both).2
    have written : trim text ≠ [] := by
      intro blank
      rw [trim_blank_part sentences.of blank] at starts
      exact absurd starts (by decide)
    obtain ⟨other, member, same⟩ := checkGrammar_covers written
      (mem_candidates.mpr (.inr (.inr (.inr ⟨pair, listed, both, rfl⟩))))
    have begins := original_begins (checkGrammar_subset member) sentences (Prod.mk.inj same).1
    have positive := List.length_pos_iff.mpr (firstWord_ne_nil starts)
    have quoted : other.original = (pair.2.taken ++ pair.2.stop.rest).take
        (firstWord (trim pair.2.taken)).length := by
      rw [quoted_of_range (aligned other member) same, ← sentences.of.leads.1.rest,
        sentences.of.rest, List.take_drop]
      rfl
    obtain ⟨first, rest, taken⟩ := List.exists_cons_of_ne_nil (sentence_nonempty sentences.of)
    obtain ⟨count, length⟩ := Nat.exists_eq_succ_of_ne_zero positive.ne'
    rw [quoted, length, taken] at begins
    simpa [taken] using begins

end BrainMate.WriteRight.Grammar
