import BrainMate.Storage.Newest
import BrainMate.Text.Blanks
import BrainMate.Text.Matches
import BrainMate.WriteRight.CacheKey

/-! `checkGrammar` of `grammar-checker.ts`: nine families of rules, each with its own way to the
offsets of what it quotes. -/

namespace BrainMate.WriteRight.Grammar

open Text

inductive IssueType where
  | grammar
  | style
  | indian_english
  | passive
  | wordy
  deriving DecidableEq, Repr

/-- `GrammarIssue`; `stop` is its `end`. -/
structure GrammarIssue where
  start : Nat
  stop : Nat
  type : IssueType
  original : List UInt16
  suggestion : List UInt16
  explanation : List UInt16
  deriving DecidableEq, Repr

/-- Only an exact duplicate of a range is left out. -/
def addIssue (issues : List GrammarIssue) (issue : GrammarIssue) : List GrammarIssue :=
  if issues.any fun existing => existing.start = issue.start && existing.stop = issue.stop then
    issues
  else issues ++ [issue]

/-- `\w`, and what `\b` goes by. -/
def isWord (unit : UInt16) : Bool :=
  let code := unit.toNat
  (0x61 ≤ code && code ≤ 0x7a) || (0x41 ≤ code && code ≤ 0x5a) || (0x30 ≤ code && code ≤ 0x39) ||
    code = 0x5f

/-- `[a-z]` -/
def isLower (unit : UInt16) : Bool := 0x61 ≤ unit.toNat && unit.toNat ≤ 0x7a

/-- `[.!?]` -/
def isTerminator (unit : UInt16) : Bool := unit = 0x2e || unit = 0x21 || unit = 0x3f

/-- `\s+` -/
def spaces : Pattern UInt16 := .oneOrMore (.symbol isTrimmed)

/-- `[a-z]+` under the flag `i`; without the flag `u` only ASCII letters fold. -/
def letters : Pattern UInt16 := .oneOrMore (.symbol fun unit => isLower (lowercase unit))

def phrase (text : String) : Pattern UInt16 := .word lowercase (units text)

def anyPhrase (texts : List String) : Pattern UInt16 := .oneOf (texts.map phrase)

/-- `text.split(/\s+/)` -/
def splitSpaces (text : List UInt16) : List (List UInt16) :=
  (squeeze isTrimmed 0x20 false text).splitOnP isTrimmed

/-- A rule `/\b…\b/gi` that quotes all that it matches. -/
structure WordRule where
  body : Pattern UInt16
  type : IssueType
  suggestion : Match UInt16 → List UInt16
  explanation : Match UInt16 → List UInt16

def WordRule.pattern (rule : WordRule) : Pattern UInt16 := .wholeWords isWord rule.body

def WordRule.issue (rule : WordRule) (found : Match UInt16) : GrammarIssue where
  start := found.index
  stop := found.index + found.taken.length
  type := rule.type
  original := found.taken
  suggestion := rule.suggestion found
  explanation := rule.explanation found

def WordRule.issues (rule : WordRule) (text : List UInt16) : List GrammarIssue :=
  (rule.pattern.allMatches text).map rule.issue

def doubleWordRegex : WordRule where
  body := .chain [.group 1 letters, spaces,
    .again 1 fun unit other => lowercase unit = lowercase other]
  type := .grammar
  suggestion found := found.stop.captured 1
  explanation found :=
    units "Repeated word \"" ++ found.stop.captured 1 ++ units "\". Remove the duplicate."

def aBeforeVowel : WordRule where
  body := .chain [.group 1 (phrase "a"), spaces, .group 2 (anyPhrase ["apple", "orange", "egg",
    "email", "hour", "idea", "option", "issue", "event", "item", "user-experience", "invite"])]
  type := .grammar
  suggestion found := units "an " ++ found.stop.captured 2
  explanation _ := units "Use \"an\" before words starting with a vowel sound."

def anBeforeConsonant : WordRule where
  body := .chain [.group 1 (phrase "an"), spaces, .group 2 (anyPhrase ["hotel", "chat", "message",
    "user", "template", "paragraph", "voice", "draft", "page", "file", "key", "code", "link",
    "button", "tab", "row"])]
  type := .grammar
  suggestion found := units "a " ++ found.stop.captured 2
  explanation _ := units "Use \"a\" before words starting with a consonant sound."

def lessFewerRegex : WordRule where
  body := .chain [phrase "less", spaces, .group 1 (anyPhrase ["books", "people", "emails",
    "templates", "comments", "messages", "users", "items", "friends", "days", "hours", "minutes",
    "seconds"])]
  type := .grammar
  suggestion found := units "fewer " ++ (splitSpaces found.taken).getD 1 (units "undefined")
  explanation _ := units "Use \"fewer\" instead of \"less\" for countable nouns."

def passiveVerbRegex : WordRule where
  body := .chain [.group 1 (anyPhrase ["is", "am", "are", "was", "were", "be", "been", "being"]),
    spaces, .group 2 (.oneOf ([.chain [letters, phrase "ed"], .chain [letters, phrase "en"]] ++
      ["done", "written", "taken", "seen", "known", "made", "given", "chosen", "sent", "kept",
        "spent", "broken", "built", "bought", "brought", "caught", "fought", "taught"].map phrase))]
  type := .passive
  suggestion found := found.taken
  explanation _ := units "Passive voice detected. Try rewriting using active verbs."

def iePattern (pattern suggestion explanation : String) : WordRule where
  body := phrase pattern
  type := .indian_english
  suggestion _ := units suggestion
  explanation _ := units explanation

def iePatterns : List WordRule :=
  [ iePattern "do the needful" "do what is required"
      "Replace colonial phrase \"do the needful\" with standard English.",
    iePattern "please revert" "please reply"
      "Use \"reply\" or \"respond\" instead of \"revert\".",
    iePattern "revert back" "reply"
      "\"Revert back\" is redundant. Use \"reply\" or \"respond\".",
    iePattern "prepone" "bring forward / reschedule earlier"
      "\"Prepone\" is Indian English. Use \"reschedule earlier\".",
    iePattern "passed out" "graduated"
      "Use \"graduated\" to indicate finishing school/college.",
    iePattern "out of station" "out of town"
      "Use \"out of town\" or \"away\" instead of \"out of station\".",
    iePattern "discuss about" "discuss"
      "Avoid \"discuss about\". Just use \"discuss\".",
    iePattern "order for" "order"
      "Avoid \"order for\" when ordering items. Just use \"order\".",
    iePattern "today morning" "this morning"
      "Use \"this morning\" instead of \"today morning\".",
    iePattern "yesterday night" "last night"
      "Use \"last night\" instead of \"yesterday night\".",
    iePattern "coping up with" "coping with"
      "Use \"coping with\" instead of \"coping up with\".",
    iePattern "have a doubt" "have a question"
      "Use \"question\" instead of \"doubt\" when asking for clarification.",
    iePattern "doubt regarding" "question regarding"
      "Use \"question\" instead of \"doubt\"." ]

def fillerPhrase (pattern suggestion : String) : WordRule where
  body := phrase pattern
  type := .wordy
  suggestion _ := units suggestion
  explanation _ := units "Filler phrase. Simplify to \"" ++ units suggestion ++ units "\"."

def fillerPhrases : List WordRule :=
  [ fillerPhrase "in order to" "to",
    fillerPhrase "due to the fact that" "because",
    fillerPhrase "so as to" "to",
    fillerPhrase "at the end of the day" "ultimately",
    fillerPhrase "as a matter of fact" "actually",
    fillerPhrase "needless to say" "obviously",
    fillerPhrase "at this point in time" "now",
    fillerPhrase "for the purpose of" "for",
    fillerPhrase "with reference to" "about",
    fillerPhrase "in the event that" "if" ]

/-- The rules that run before the sentences are read, and those that run behind. -/
def earlyRules : List WordRule := [doubleWordRegex, aBeforeVowel, anBeforeConsonant, lessFewerRegex]

def lateRules : List WordRule := passiveVerbRegex :: iePatterns ++ fillerPhrases

/-- `/([\.!\?])\s+([a-z])/g` -/
def lowercaseAfterPeriod : Pattern UInt16 :=
  .chain [.group 1 (.symbol isTerminator), spaces, .group 2 (.symbol isLower)]

def uppercase (unit : UInt16) : UInt16 := if isLower unit then unit - 0x20 else unit

def lowercaseIssue (found : Match UInt16) : GrammarIssue :=
  let punctuation := found.stop.captured 1
  let letter := found.stop.captured 2
  let startOffset :=
    found.index + punctuation.length + (found.taken.length - punctuation.length - 1)
  { start := startOffset
    stop := startOffset + 1
    type := .grammar
    original := letter
    suggestion := letter.map uppercase
    explanation := units "Capitalize the first letter of a sentence." }

/-- `/([^.!?]+([.!?]+|$))/g` -/
def sentenceBoundaryRegex : Pattern UInt16 :=
  .group 1 (.seq (.oneOrMore (.symbol fun unit => !isTerminator unit))
    (.group 2 (.alt (.oneOrMore (.symbol isTerminator)) .atEnd)))

def sentencesList (text : List UInt16) : List (Match UInt16) :=
  sentenceBoundaryRegex.allMatches text

def isLong (sentence : Match UInt16) : Bool := 35 < (splitSpaces (trim sentence.taken)).length

def longIssue (sentence : Match UInt16) : GrammarIssue where
  start := sentence.index
  stop := sentence.index + sentence.taken.length
  type := .style
  original := trim sentence.taken
  suggestion := trim sentence.taken
  explanation := units
    "This sentence has more than 35 words. Consider splitting it into shorter sentences."

/-- `/^[iI]\b/.test(text)` -/
def startsWithI (text : List UInt16) : Bool :=
  ((Pattern.seq (.symbol fun unit => unit = 0x69 || unit = 0x49) (.boundary isWord)).matchAt?
    none text).isSome

/-- The sentences with the one behind each. -/
def neighbours (text : List UInt16) : List (Match UInt16 × Match UInt16) :=
  (sentencesList text).zip (sentencesList text).tail

def bothStartWithI (pair : Match UInt16 × Match UInt16) : Bool :=
  startsWithI (trim pair.1.taken) && startsWithI (trim pair.2.taken)

def firstWord (text : List UInt16) : List UInt16 := (splitSpaces text).headD []

def consecutiveIssue (pair : Match UInt16 × Match UInt16) : GrammarIssue :=
  let word := firstWord (trim pair.2.taken)
  { start := pair.2.index
    stop := pair.2.index + word.length
    type := .style
    original := word
    suggestion := word
    explanation := units
      "Consecutive sentences start with \"I\". Vary sentence openers to improve style." }

/-- The issues that are handed to `addIssue`, in the order of the rules. -/
def candidates (text : List UInt16) : List GrammarIssue :=
  earlyRules.flatMap (·.issues text) ++
    (lowercaseAfterPeriod.allMatches text).map lowercaseIssue ++
    ((sentencesList text).filter isLong).map longIssue ++
    lateRules.flatMap (·.issues text) ++
    ((neighbours text).filter bothStartWithI).map consecutiveIssue

def checkGrammar (text : List UInt16) : List GrammarIssue :=
  if (trim text).length = 0 then []
  else Storage.ascending GrammarIssue.start ((candidates text).foldl addIssue [])

end BrainMate.WriteRight.Grammar
