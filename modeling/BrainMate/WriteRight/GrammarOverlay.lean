import BrainMate.Text.Html
import BrainMate.WriteRight.GrammarOffsets

namespace BrainMate.WriteRight.Grammar

open Text Html

/-- `text.replace(/c/g, new)` for a single unit. -/
def replaceUnit (unit : UInt16) (new : String) (text : List UInt16) : List UInt16 :=
  text.flatMap fun other => if other = unit then units new else [other]

def escapeHtml (text : List UInt16) : List UInt16 :=
  replaceUnit 0x27 "&#039;" (replaceUnit 0x22 "&quot;" (replaceUnit 0x3e "&gt;"
    (replaceUnit 0x3c "&lt;" (replaceUnit 0x26 "&amp;" text))))

def IssueType.name : IssueType → String
  | .grammar => "grammar"
  | .style => "style"
  | .indian_english => "indian_english"
  | .passive => "passive"
  | .wordy => "wordy"

/-- What stands between the angle brackets of the tag that opens a mark. -/
def markTag (issue : GrammarIssue) (index : Nat) : List UInt16 :=
  units "mark class=\"wr-grammar-" ++ units issue.type.name ++ units "\" data-issue-index=\"" ++
    units (toString index) ++ units "\""

def mark (issue : GrammarIssue) (index : Nat) : List UInt16 :=
  0x3c :: (markTag issue index ++ [0x3e]) ++ escapeHtml issue.original ++ units "</mark>"

structure Highlight where
  html : List UInt16 := []
  lastIndex : Nat := 0

def highlight (text : List UInt16) (state : Highlight) (indexed : GrammarIssue × Nat) : Highlight :=
  let issue := indexed.1
  if issue.start < state.lastIndex then state
  else
    { html := state.html ++ escapeHtml (slice text state.lastIndex issue.start) ++
        mark issue indexed.2
      lastIndex := issue.stop }

def getHighlightedHtml (text : List UInt16) (issues : List GrammarIssue) : List UInt16 :=
  let sorted := Storage.ascending GrammarIssue.start issues
  let state := sorted.zipIdx.foldl (highlight text) {}
  state.html ++ escapeHtml (text.drop state.lastIndex)

def issueKey (issue : GrammarIssue) : List UInt16 :=
  units (toString issue.start) ++ units "-" ++ units (toString issue.stop) ++ units "-" ++
    issue.original

/-- The issues of the text that are not ignored. -/
def activeIssues (ignoredKeys : List (List UInt16)) (text : List UInt16) : List GrammarIssue :=
  (checkGrammar text).filter fun issue => !ignoredKeys.contains (issueKey issue)

def handleApply (text : List UInt16) (issue : GrammarIssue) : List UInt16 :=
  text.take issue.start ++ issue.suggestion ++ text.drop issue.stop

private theorem replaceUnit_append (unit : UInt16) (new : String) (text more : List UInt16) :
    replaceUnit unit new (text ++ more) = replaceUnit unit new text ++ replaceUnit unit new more :=
  List.flatMap_append

theorem replaceUnit_other {unit other : UInt16} (different : other ≠ unit) (new : String) :
    replaceUnit unit new [other] = [other] := by
  rw [replaceUnit, List.flatMap_singleton, if_neg different]

private theorem escapeHtml_append (text more : List UInt16) :
    escapeHtml (text ++ more) = escapeHtml text ++ escapeHtml more := by
  simp only [escapeHtml, replaceUnit_append]

private theorem shows_escaped_unit (unit : UInt16) : Shows (escapeHtml [unit]) [unit] := by
  by_cases special : ∃ entity ∈ entities, entity.2 = unit
  · obtain ⟨entity, listed, rfl⟩ := special
    have escaped : ∀ entity ∈ entities, escapeHtml [entity.2] = entity.1 := by decide
    rw [escaped entity listed]
    exact shows_entity entity listed
  · have plain : ∀ entity ∈ entities, unit ≠ entity.2 :=
      fun entity listed same => special ⟨entity, listed, same.symm⟩
    simp only [entities, List.forall_mem_cons] at plain
    obtain ⟨ampersand, opening, closing, quote, apostrophe, _⟩ := plain
    have escaped : escapeHtml [unit] = [unit] := by
      rw [escapeHtml, replaceUnit_other ampersand, replaceUnit_other opening,
        replaceUnit_other closing, replaceUnit_other quote, replaceUnit_other apostrophe]
    rw [escaped]
    exact shows_unit opening ampersand

private theorem shows_escapeHtml (text : List UInt16) : Shows (escapeHtml text) text := by
  induction text with
  | nil => exact shows_nil
  | cons unit rest ih =>
    rw [← List.singleton_append, escapeHtml_append]
    exact shows_append (shows_escaped_unit unit) ih

private theorem unitsOf_digit {char : Char} (digit : char.isDigit = true) :
    0x3e ∉ unitsOf char := by
  have low : 0x30 ≤ char.toNat ∧ char.toNat ≤ 0x39 := by
    rw [Char.isDigit, Bool.and_eq_true, decide_eq_true_eq, decide_eq_true_eq] at digit
    exact ⟨UInt32.le_iff_toNat_le.mp digit.1, UInt32.le_iff_toNat_le.mp digit.2⟩
  rw [unitsOf, if_pos (by omega), List.mem_singleton]
  intro same
  have code := congrArg UInt16.toNat same
  rw [UInt16.toNat_ofNat', Nat.mod_eq_of_lt (by omega)] at code
  change 0x3e = char.toNat at code
  omega

private theorem markTag_closed (issue : GrammarIssue) (index : Nat) :
    0x3e ∉ markTag issue index := by
  have digits : 0x3e ∉ units (toString index) := by
    rw [units, List.mem_flatMap]
    intro ⟨char, member, inside⟩
    rw [show toString index = Nat.repr index from rfl, Nat.toList_repr] at member
    exact unitsOf_digit (Nat.isDigit_of_mem_toDigits (by decide) (by decide) member) inside
  have name : ∀ type : IssueType, 0x3e ∉ units type.name := by
    intro type
    cases type <;> decide
  simp only [markTag, List.mem_append, not_or]
  exact ⟨⟨⟨⟨by decide, name _⟩, by decide⟩, digits⟩, by decide⟩

private theorem shows_mark (issue : GrammarIssue) (index : Nat) :
    Shows (mark issue index) issue.original := by
  have opens := shows_tag (markTag_closed issue index)
  have closes : Shows (units "</mark>") [] := @shows_tag (units "/mark") (by decide)
  have whole := shows_append (shows_append opens (shows_escapeHtml issue.original)) closes
  rwa [List.nil_append, List.append_nil] at whole

variable {text : List UInt16} {issues : List GrammarIssue}

private theorem take_append_slice {start stop : Nat} (ordered : start ≤ stop) :
    text.take start ++ slice text start stop = text.take stop := by
  have front : (text.take stop).take start = text.take start := by
    rw [List.take_take, Nat.min_eq_left ordered]
  rw [slice, ← front, List.take_append_drop]

/-- What is highlighted shows the text up to the end of the last mark. -/
theorem shows_highlight {state : Highlight} {indexed : GrammarIssue × Nat}
    (shows : Shows state.html (text.take state.lastIndex)) (aligned : Aligned text indexed.1) :
    Shows (highlight text state indexed).html
      (text.take (highlight text state indexed).lastIndex) := by
  rw [highlight]
  split
  · exact shows
  · rename_i later
    have between := shows_append shows
      (shows_escapeHtml (slice text state.lastIndex indexed.1.start))
    rw [take_append_slice (Nat.le_of_not_lt later)] at between
    have marked := shows_append between (shows_mark indexed.1 indexed.2)
    rwa [← aligned.quotes, take_append_slice aligned.start_lt.le] at marked

private theorem shows_foldl_highlight {state : Highlight} {indexed : List (GrammarIssue × Nat)}
    (shows : Shows state.html (text.take state.lastIndex))
    (aligned : ∀ one ∈ indexed, Aligned text one.1) :
    Shows (indexed.foldl (highlight text) state).html
      (text.take (indexed.foldl (highlight text) state).lastIndex) := by
  induction indexed generalizing state with
  | nil => exact shows
  | cons first others ih =>
    obtain ⟨first_aligned, others_aligned⟩ := List.forall_mem_cons.mp aligned
    exact ih (shows_highlight shows first_aligned) others_aligned

private theorem textContent_highlighted (aligned : ∀ issue ∈ issues, Aligned text issue) :
    textContent 0 false (getHighlightedHtml text issues) = text := by
  have aligned' : ∀ one ∈ (Storage.ascending GrammarIssue.start issues).zipIdx,
      Aligned text one.1 := by
    intro one member
    exact aligned one.1 (Storage.mem_ascending.mp (List.fst_mem_of_mem_zipIdx member))
  have marked := @shows_foldl_highlight text {} _ shows_nil aligned'
  rw [getHighlightedHtml]
  generalize (Storage.ascending GrammarIssue.start issues).zipIdx.foldl (highlight text) {} = state
    at marked
  have whole := shows_append marked (shows_escapeHtml (text.drop state.lastIndex))
  rw [List.take_append_drop] at whole
  exact textContent_of_shows whole

/-- A suggestion that quotes the text puts back what it replaces. -/
theorem handleApply_of_aligned {issue : GrammarIssue} (aligned : Aligned text issue)
    (same : issue.suggestion = issue.original) : handleApply text issue = text := by
  rw [handleApply, same, ← aligned.quotes, take_append_slice aligned.start_lt.le,
    List.take_append_drop]

/-- Every issue points at the text it quotes, in order; so the overlay shows the text, whatever is
ignored, and an issue that suggests what it quotes changes nothing. -/
structure Trustworthy (text : List UInt16) : Prop where
  aligned : ∀ issue ∈ checkGrammar text, Aligned text issue
  sorted : (checkGrammar text).Pairwise fun issue later => issue.start ≤ later.start
  shows : ∀ ignoredKeys,
    textContent 0 false (getHighlightedHtml text (activeIssues ignoredKeys text)) = text
  applies : ∀ issue ∈ checkGrammar text, issue.suggestion = issue.original →
    handleApply text issue = text

private theorem trustworthy_of_aligned (aligned : ∀ issue ∈ checkGrammar text, Aligned text issue) :
    Trustworthy text where
  aligned := aligned
  sorted := checkGrammar_sorted text
  shows _ := textContent_highlighted fun issue member =>
    aligned issue (List.mem_filter.mp member).1
  applies issue member := handleApply_of_aligned (aligned issue member)

/-- The issues of a text can be trusted just where its sentences are neat. -/
theorem trustworthy_iff (text : List UInt16) : Trustworthy text ↔ NeatSentences text := by
  constructor
  · intro trustworthy
    exact neat_of_aligned trustworthy.aligned
  · intro neat
    exact trustworthy_of_aligned fun issue member => aligned_of_neat neat member

/-- The second sentence begins with the space behind the first. -/
theorem spacedSentences_misquoted : ¬ Trustworthy (units "I am here. I am there.") := by
  intro trustworthy
  have misquoted : ∃ issue ∈ checkGrammar (units "I am here. I am there."),
      slice (units "I am here. I am there.") issue.start issue.stop ≠ issue.original := by
    decide +kernel
  obtain ⟨issue, member, different⟩ := misquoted
  exact different (trustworthy.aligned issue member).quotes

end BrainMate.WriteRight.Grammar
