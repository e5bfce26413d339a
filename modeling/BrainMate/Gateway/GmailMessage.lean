import Mathlib.Data.List.Basic
import BrainMate.Gateway.TokenEncryption
import BrainMate.Gateway.Records
import BrainMate.Text.Base64Url

/-! A message of the Gmail API and what `parse_message` makes of it. Its body is searched in the
tree of MIME parts, first as plain text and then as HTML. -/

namespace BrainMate.Gateway.GmailMessage

open Text

structure ApiHeader where
  name : String
  value : String
  deriving DecidableEq, Repr

structure ApiBody where
  data : Option String
  deriving DecidableEq, Repr

inductive ApiPart where
  | mk (mimeType : Option String) (body : Option ApiBody) (parts : Option (List ApiPart))

structure ApiPayload where
  headers : Option (List ApiHeader)
  mimeType : Option String
  body : Option ApiBody
  parts : Option (List ApiPart)

structure ApiMsg where
  id : String
  threadId : String
  snippet : Option String
  labelIds : Option (List String)
  payload : Option ApiPayload
  internalDate : Option String

structure GmailEmail where
  id : String
  threadId : String
  subject : String
  senderEmail : String
  senderName : String
  snippet : String
  bodyPlain : String
  bodyPreview : String
  timestamp : String
  isUnread : Bool
  labels : List String
  wordCount : Nat
  deriving DecidableEq, Repr

/-- What other libraries do for a message. -/
structure Libraries where
  /-- `ammonia` without any tag. -/
  clean : String → String
  /-- `DateTime::from_timestamp` of so many seconds, as `to_rfc3339` writes it. -/
  rfc3339 : Int → Option String

def splitWhitespace (text : String) : List (List Char) :=
  (text.toList.splitOnP isRustWhitespace).filter fun word => !word.isEmpty

def b64urlToString (enc : String) : Option String :=
  (Base64Url.decode enc.toList).bind Aead.fromUtf8

/-- The text of a body, where there is one that can be decoded. -/
def decoded (body : Option ApiBody) : Option String :=
  (body.bind ApiBody.data).bind b64urlToString

def sanitizeHtmlToText (libraries : Libraries) (html : String) : String :=
  String.ofList ([' '].intercalate (splitWhitespace (libraries.clean html)))

/-- `str::parse::<i64>`. -/
def parseI64 (text : String) : Option Int :=
  let value (digits : List Char) : Option Nat :=
    if digits.isEmpty ∨ !digits.all Char.isDigit then none
    else some (digits.foldl (fun value digit => value * 10 + (digit.toNat - '0'.toNat)) 0)
  let number : Option Int :=
    match text.toList with
    | '-' :: digits => (value digits).map fun value => -(value : Int)
    | '+' :: digits => (value digits).map fun value => (value : Int)
    | digits => (value digits).map fun value => (value : Int)
  number.filter fun value => -2 ^ 63 ≤ value && value < 2 ^ 63

/-- The last place of a character, `str::rfind`. -/
def rfind (c : Char) (chars : List Char) : Option Nat :=
  (chars.reverse.findIdx? (· == c)).map fun behind => chars.length - 1 - behind

def trimMatches (c : Char) (chars : List Char) : List Char :=
  ((chars.dropWhile (· == c)).reverse.dropWhile (· == c)).reverse

/-- The address between the angle brackets and the name before them. -/
def parseFromHeader (raw : String) : String × String :=
  let chars := raw.toList
  let bracketed : Option (String × String) :=
    match rfind '<' chars, rfind '>' chars with
    | some s, some e =>
      if s < e then
        let email := String.ofList (trim (String.ofList ((chars.drop (s + 1)).take (e - (s + 1)))))
        let name := String.ofList (trimMatches '"' (trim (String.ofList (chars.take s))))
        some (email, if name.isEmpty then email else name)
      else none
    | _, _ => none
  bracketed.getD (String.ofList (trim raw), String.ofList (trim raw))

section Search

variable (text : Option String → Option ApiBody → Option String)

mutual

/-- The search of `extract_plain` and of `extract_html_as_text`. -/
def extract : List ApiPart → String
  | [] => ""
  | p :: rest =>
    match extractPart p with
    | some s => s
    | none => extract rest

/-- What the loop returns at a part: its text, even an empty one, or what is found below. -/
def extractPart : ApiPart → Option String
  | .mk mimeType body parts =>
    match text mimeType body with
    | some s => some s
    | none => extractSub parts

def extractSub : Option (List ApiPart) → Option String
  | none => none
  | some sub =>
    let r := extract sub
    if !r.isEmpty then some r else none

end

end Search

def plainText (mimeType : Option String) (body : Option ApiBody) : Option String :=
  if mimeType = some "text/plain" then decoded body else none

def htmlText (libraries : Libraries) (mimeType : Option String) (body : Option ApiBody) :
    Option String :=
  if mimeType = some "text/html" then (decoded body).map (sanitizeHtmlToText libraries) else none

def extractPlain (parts : List ApiPart) : String := extract plainText parts

def extractHtmlAsText (libraries : Libraries) (parts : List ApiPart) : String :=
  extract (htmlText libraries) parts

def bodyPlain (libraries : Libraries) (payload : ApiPayload) : String :=
  let parts := payload.parts.getD []
  let fromParts := extractPlain parts
  if !fromParts.isEmpty then fromParts
  else if payload.mimeType = some "text/plain" then (decoded payload.body).getD ""
  else extractHtmlAsText libraries parts

/-- `get` of `parse_message`: the value of the first header of the name, in any case. -/
def header (payload : Option ApiPayload) (name : String) : String :=
  let headers := (payload.bind ApiPayload.headers).getD []
  ((headers.find? fun header => header.name.map Char.toLower == name.map Char.toLower).map
    ApiHeader.value).getD ""

/-- `now` is `Utc::now().to_rfc3339()`. -/
def parseMessage (libraries : Libraries) (now : String) (msg : ApiMsg) : GmailEmail :=
  let get := header msg.payload
  let subject := if (get "Subject").isEmpty then "(no subject)" else get "Subject"
  let (senderEmail, senderName) := parseFromHeader (get "From")
  let body := (msg.payload.map (bodyPlain libraries)).getD ""
  let labels := msg.labelIds.getD []
  let timestamp :=
    if !(get "Date").isEmpty then get "Date"
    else
      (((msg.internalDate.bind parseI64).map fun ms => ms.tdiv 1000).bind
        libraries.rfc3339).getD now
  { id := msg.id
    threadId := msg.threadId
    subject := subject
    senderEmail := senderEmail
    senderName := senderName
    snippet := msg.snippet.getD ""
    bodyPlain := body
    bodyPreview := String.ofList (body.toList.take 500)
    timestamp := timestamp
    isUnread := labels.contains "UNREAD"
    labels := labels
    wordCount := (splitWhitespace body).length }

section Texts

variable (text : Option String → Option ApiBody → Option String)

mutual

/-- The texts of all parts, depth first. -/
def texts : List ApiPart → List String
  | [] => []
  | p :: rest => partTexts p ++ texts rest

def partTexts : ApiPart → List String
  | .mk mimeType body parts => (text mimeType body).toList ++ subTexts parts

def subTexts : Option (List ApiPart) → List String
  | none => []
  | some sub => texts sub

end

def ownText : ApiPart → Option String
  | .mk mimeType body _ => text mimeType body

mutual

/-- The texts that hide behind no other. A part with a text hides the parts next to it that come
later, and its own parts. -/
def inSight : List ApiPart → List String
  | [] => []
  | p :: rest => partInSight p ++ if (ownText text p).isSome then [] else inSight rest

def partInSight : ApiPart → List String
  | .mk mimeType body parts =>
    match text mimeType body with
    | some s => [s]
    | none => subInSight parts

def subInSight : Option (List ApiPart) → List String
  | none => []
  | some sub => inSight sub

end

end Texts

/-- The first text that is not empty. -/
def firstText (texts : List String) : Option String := texts.find? fun text => !text.isEmpty

theorem firstText_append (before behind : List String) :
    firstText (before ++ behind) = (firstText before).or (firstText behind) := List.find?_append

private theorem firstText_filled {texts : List String} {found : String}
    (first : firstText texts = some found) : found.isEmpty = false := by
  simpa using List.find?_some first

private theorem firstText_toList (own : Option String) :
    (firstText own.toList).getD "" = own.getD "" := by
  cases own with
  | none => rfl
  | some s =>
    by_cases blank : s = ""
    · simp [firstText, blank]
    · simp [firstText, blank]

section Searching

variable (text : Option String → Option ApiBody → Option String)

mutual

/-- The search finds the first text in sight. -/
theorem extract_eq : ∀ parts : List ApiPart,
    extract text parts = (firstText (inSight text parts)).getD ""
  | [] => rfl
  | p :: rest => by
    have part := extractPart_eq p
    have later := extract_eq rest
    rw [extract, inSight, part, firstText_append]
    cases own : ownText text p with
    | some s =>
      have alone : partInSight text p = [s] := by
        cases p with
        | mk mimeType body parts => rw [partInSight, show text mimeType body = some s from own]
      have single := firstText_toList (some s)
      rw [Option.toList_some] at single
      simpa [alone, firstText] using single.symm
    | none =>
      cases first : firstText (partInSight text p) with
      | none => simpa using later
      | some s => simp

private theorem extractPart_eq : ∀ p : ApiPart,
    extractPart text p = (ownText text p).or (firstText (partInSight text p))
  | .mk mimeType body parts => by
    rw [extractPart, ownText, partInSight]
    cases text mimeType body with
    | some s => rfl
    | none => exact extractSub_eq parts

private theorem extractSub_eq : ∀ parts : Option (List ApiPart),
    extractSub text parts = firstText (subInSight text parts)
  | none => rfl
  | some sub => by
    rw [extractSub, subInSight, extract_eq sub]
    cases first : firstText (inSight text sub) with
    | none => rfl
    | some s => simp [firstText_filled first]

end

mutual

/-- What is in sight is among the texts. -/
theorem mem_texts : ∀ {parts : List ApiPart} {s : String}, s ∈ inSight text parts →
    s ∈ texts text parts
  | [], _, member => member
  | p :: rest, s, member => by
    rw [inSight] at member
    rw [texts, List.mem_append]
    rcases List.mem_append.mp member with here | later
    · exact .inl (mem_partTexts here)
    · split at later
      · cases later
      · exact .inr (mem_texts later)

private theorem mem_partTexts :
    ∀ {p : ApiPart} {s : String}, s ∈ partInSight text p → s ∈ partTexts text p
  | .mk mimeType body parts, s, member => by
    rw [partInSight] at member
    rw [partTexts, List.mem_append]
    cases own : text mimeType body with
    | some _ =>
      rw [own] at member
      exact .inl member
    | none =>
      rw [own] at member
      exact .inr (mem_subTexts member)

private theorem mem_subTexts :
    ∀ {parts : Option (List ApiPart)} {s : String}, s ∈ subInSight text parts →
    s ∈ subTexts text parts
  | none, _, member => member
  | some _, _, member => mem_texts member

end

mutual

/-- Where no text is empty, none that hides matters. -/
theorem firstText_inSight : ∀ {parts : List ApiPart},
    (∀ s ∈ texts text parts, s.isEmpty = false) →
    firstText (inSight text parts) = firstText (texts text parts)
  | [], _ => rfl
  | p :: rest, filled => by
    rw [texts] at filled
    have here := firstText_partInSight fun s member => filled s (List.mem_append_left _ member)
    have later := firstText_inSight fun s member => filled s (List.mem_append_right _ member)
    rw [inSight, texts, firstText_append, firstText_append, here]
    cases own : ownText text p with
    | none => rw [Option.isSome_none, if_neg Bool.false_ne_true, later]
    | some s =>
      obtain ⟨mimeType, body, parts⟩ := p
      have text : partTexts text (.mk mimeType body parts) = s :: subTexts text parts := by
        rw [partTexts, show text mimeType body = some s from own, Option.toList_some,
          List.singleton_append]
      have full : s.isEmpty = false := filled s (by simp [text])
      simp [text, firstText, full]

private theorem firstText_partInSight : ∀ {p : ApiPart},
    (∀ s ∈ partTexts text p, s.isEmpty = false) →
    firstText (partInSight text p) = firstText (partTexts text p)
  | .mk mimeType body parts, filled => by
    rw [partTexts] at filled
    rw [partInSight, partTexts]
    cases own : text mimeType body with
    | some s =>
      rw [own] at filled
      simp [firstText, filled s (by simp)]
    | none =>
      exact firstText_subInSight fun s member => filled s (List.mem_append_right _ member)

private theorem firstText_subInSight : ∀ {parts : Option (List ApiPart)},
    (∀ s ∈ subTexts text parts, s.isEmpty = false) →
    firstText (subInSight text parts) = firstText (subTexts text parts)
  | none, _ => rfl
  | some _, filled => firstText_inSight filled

end

end Searching

/-- The payload as the root of the tree. -/
def ApiPayload.root (payload : ApiPayload) : ApiPart :=
  .mk payload.mimeType payload.body payload.parts

section Body

variable (libraries : Libraries) (payload : ApiPayload)

/-- The first plain text in the tree that is not empty, or else the first text of HTML. -/
def firstBody : String :=
  let plain := firstText (texts plainText [payload.root])
  let html := firstText (texts (htmlText libraries) [payload.root])
  (plain.or html).getD ""

/-- The texts in their order, and those that the search can see: at the root it sees a plain text
only, and that only where the parts have none; below a plain root it sees no HTML. -/
def allTexts : List String :=
  texts plainText [payload.root] ++ texts (htmlText libraries) [payload.root]

def textsInSight : List String :=
  inSight plainText (payload.parts.getD []) ++
    if payload.mimeType = some "text/plain" then (decoded payload.body).toList
    else inSight (htmlText libraries) (payload.parts.getD [])

/-- The first text there is, is the first in sight. -/
def BodyInSight : Prop :=
  ∀ s, firstText (allTexts libraries payload) = some s →
    firstText (textsInSight libraries payload) = some s

variable {libraries payload}

private theorem firstBody_eq : firstBody libraries payload =
    (firstText (allTexts libraries payload)).getD "" := by
  rw [firstBody, allTexts, firstText_append]

private theorem bodyPlain_eq : bodyPlain libraries payload =
    (firstText (textsInSight libraries payload)).getD "" := by
  rw [bodyPlain, extractPlain, extractHtmlAsText, extract_eq, extract_eq, textsInSight,
    firstText_append]
  cases first : firstText (inSight plainText (payload.parts.getD [])) with
  | some s => simp [firstText_filled first]
  | none =>
    dsimp only [Option.getD_none, Option.none_or]
    split
    · rename_i blank
      cases blank
    · split
      · exact (firstText_toList _).symm
      · rfl

private theorem mem_texts_root {text : Option String → Option ApiBody → Option String} {s : String}
    (member : s ∈ texts text (payload.parts.getD [])) : s ∈ texts text [payload.root] := by
  have below : subTexts text payload.parts = texts text (payload.parts.getD []) := by
    cases payload.parts with
    | none => rfl
    | some sub => rfl
  simp [texts, ApiPayload.root, partTexts, below, member]

private theorem mem_allTexts {s : String} (member : s ∈ textsInSight libraries payload) :
    s ∈ allTexts libraries payload := by
  rw [allTexts, List.mem_append]
  rcases List.mem_append.mp member with plain | other
  · exact .inl (mem_texts_root (mem_texts plainText plain))
  · split at other
    · rename_i kind
      left
      simp [texts, ApiPayload.root, partTexts, plainText, kind, Option.mem_toList.mp other]
    · exact .inr (mem_texts_root (mem_texts (htmlText libraries) other))

private theorem bodyPlain_eq_firstBody_iff :
    bodyPlain libraries payload = firstBody libraries payload ↔ BodyInSight libraries payload := by
  rw [bodyPlain_eq, firstBody_eq]
  constructor
  · intro same s first
    rw [first, Option.getD_some] at same
    cases seen : firstText (textsInSight libraries payload) with
    | none =>
      rw [seen, Option.getD_none] at same
      have filled := firstText_filled first
      rw [← same] at filled
      cases filled
    | some found =>
      rw [seen, Option.getD_some] at same
      rw [same]
  · intro sight
    cases first : firstText (allTexts libraries payload) with
    | some s => rw [sight s first]
    | none =>
      have blind : firstText (textsInSight libraries payload) = none := by
        rw [firstText, List.find?_eq_none] at first ⊢
        exact fun s member => first s (mem_allTexts member)
      rw [blind]

/-- A message of several parts, none of which has an empty text, is read right. -/
theorem bodyInSight_of_filled (container : payload.mimeType ≠ some "text/plain")
    (container' : payload.mimeType ≠ some "text/html")
    (filled : ∀ s ∈ allTexts libraries payload, s.isEmpty = false) :
    BodyInSight libraries payload := by
  have root {text : Option String → Option ApiBody → Option String}
      (none_ : text payload.mimeType payload.body = none) :
      texts text [payload.root] = texts text (payload.parts.getD []) := by
    cases parts : payload.parts with
    | none => simp [texts, ApiPayload.root, partTexts, subTexts, none_, parts]
    | some sub => simp [texts, ApiPayload.root, partTexts, subTexts, none_, parts]
  have plain := @root plainText (if_neg container)
  have html := @root (htmlText libraries) (if_neg container')
  rw [allTexts, plain, html] at filled
  intro s first
  rw [allTexts, plain, html, firstText_append] at first
  rw [textsInSight, if_neg container, firstText_append,
    firstText_inSight plainText fun s member => filled s (List.mem_append_left _ member),
    firstText_inSight (htmlText libraries) fun s member => filled s (List.mem_append_right _ member),
    first]

/-- The body of a message is the first text there is exactly where that one is in sight. -/
theorem parseMessage_body_iff (libraries : Libraries) (now : String) (msg : ApiMsg)
    (payload : ApiPayload) :
    (parseMessage libraries now { msg with payload := some payload }).bodyPlain =
      firstBody libraries payload ↔ BodyInSight libraries payload :=
  bodyPlain_eq_firstBody_iff

end Body

/-- An empty plain text, with another one next to it. -/
def samplePayload : ApiPayload where
  headers := none
  mimeType := some "multipart/mixed"
  body := none
  parts := some [.mk (some "text/plain") (some ⟨some ""⟩) none,
    .mk (some "text/plain") (some ⟨some "aGk"⟩) none]

def sampleMessage : ApiMsg where
  id := "m"
  threadId := "t"
  snippet := none
  labelIds := none
  payload := some samplePayload
  internalDate := none

def sampleLibraries : Libraries where
  clean := id
  rfc3339 := fun _ => none

theorem empty_part_hides_body :
    (parseMessage sampleLibraries "" sampleMessage).bodyPlain = "" ∧
      firstBody sampleLibraries samplePayload = "hi" := by
  decide +kernel

end BrainMate.Gateway.GmailMessage
