import BrainMate.Text.JsonString
import BrainMate.WriteRight.QueueConsumer

/-! The key of the shared response cache, as both sides compute it: `computeInputHash` of
`writeright-queue.ts` from the code units of a request, `_input_hash_for_cache` of
`queue_consumer.py` from the code points of the job that request has put in the queue. -/

namespace BrainMate.WriteRight

open Text

/-- A JSON body whose fields have the types of `MessageSchema`. -/
structure MessageBody where
  chatId : String
  text : List UInt16
  tone : String
  mode : String
  outputLanguage : Option String
  intensity : Option Int
  quick : Option Bool
  deriving DecidableEq, Repr

structure MessageInput where
  chatId : String
  text : List UInt16
  tone : String
  mode : String
  outputLanguage : String
  intensity : Int
  quick : Bool
  deriving DecidableEq, Repr

/-- What the platform does with texts: `normalize("NFC")`, and zod's check of a UUID. -/
structure TextPlatform where
  normalizeNfc : List UInt16 → List UInt16
  isUuid : String → Bool

def tones : List String := ["Professional", "Friendly", "Concise", "Academic", "Assertive"]

def modes : List String := ["email", "paragraph", "linkedin", "whatsapp"]

def outputLanguages : List String := ["en", "hindi", "tamil", "marathi", "bengali", "telugu"]

/-- `MessageSchema.safeParse`, with the defaults it fills in. -/
def messageSchema (platform : TextPlatform) (body : MessageBody) : Option MessageInput :=
  let outputLanguage := body.outputLanguage.getD "en"
  let intensity := body.intensity.getD 3
  if platform.isUuid body.chatId ∧ 1 ≤ body.text.length ∧ body.text.length ≤ 10000 ∧
      body.tone ∈ tones ∧ body.mode ∈ modes ∧ outputLanguage ∈ outputLanguages ∧
      1 ≤ intensity ∧ intensity ≤ 5 then
    some {
      chatId := body.chatId
      text := body.text
      tone := body.tone
      mode := body.mode
      outputLanguage := outputLanguage
      intensity := intensity
      quick := body.quick.getD false }
  else none

/-- The control characters that `sanitizeInput` takes out; tab and line ends stay. -/
def isStripped (unit : UInt16) : Bool :=
  let code := unit.toNat
  code ≤ 0x08 || code = 0x0b || code = 0x0c || (0x0e ≤ code && code ≤ 0x1f) || code = 0x7f

/-- `sanitizeInput`. -/
def sanitizeInput (platform : TextPlatform) (text : List UInt16) : List UInt16 :=
  platform.normalizeNfc ((text.take 10000).filter fun unit => !isStripped unit)

/-- What `trim` takes away. -/
def isTrimmed (unit : UInt16) : Bool :=
  let code := unit.toNat
  (0x09 ≤ code && code ≤ 0x0d) || code = 0x20 || code = 0xa0 || code = 0x1680 ||
    (0x2000 ≤ code && code ≤ 0x200a) || code = 0x2028 || code = 0x2029 || code = 0x202f ||
    code = 0x205f || code = 0x3000 || code = 0xfeff

def trim (text : List UInt16) : List UInt16 :=
  ((text.dropWhile isTrimmed).reverse.dropWhile isTrimmed).reverse

/-- Steps 3 and 4 of the route: the input with its sanitized text, or the error's message. -/
def acceptMessage (platform : TextPlatform) (body : MessageBody) : Except String MessageInput :=
  match messageSchema platform body with
  | none => .error "Invalid input"
  | some input =>
    let text := sanitizeInput platform input.text
    if (trim text).length = 0 then .error "Text is empty after sanitization"
    else .ok { input with text := text }

structure GmailEmail where
  senderName : List UInt16
  senderEmail : List UInt16
  subject : List UInt16
  timestamp : List UInt16
  snippet : List UInt16
  bodyPreview : List UInt16
  deriving DecidableEq, Repr

/-- What the gateway answers: whether there is a connection, and the recent emails. -/
structure GmailState where
  connected : Except String Bool
  recent : Except String (List GmailEmail)

def lowercase (unit : UInt16) : UInt16 :=
  if 0x41 ≤ unit.toNat && unit.toNat ≤ 0x5a then unit + 0x20 else unit

def contains (word : String) (text : List UInt16) : Bool :=
  text.tails.any fun tail => (units word).isPrefixOf tail

/-- `/gmail|email|mail|inbox/i.test(text)`; without the `u` flag only ASCII letters fold. -/
def hasGmailRef (text : List UInt16) : Bool :=
  ["gmail", "email", "mail", "inbox"].any fun word => contains word (text.map lowercase)

def formatEmail (index : Nat) (email : GmailEmail) : List UInt16 :=
  units ("Email " ++ toString (index + 1) ++ ":\nSender: ") ++ email.senderName ++ units " <" ++
    email.senderEmail ++ units ">\nSubject: " ++ email.subject ++ units "\nDate: " ++
    email.timestamp ++ units "\nSnippet: " ++ email.snippet ++ units "\nContent: " ++
    email.bodyPreview ++ units "\n---"

def formatEmails (emails : List GmailEmail) : List UInt16 :=
  (units "\n").intercalate (emails.mapIdx formatEmail)

/-- The emails that are put before the text; whatever fails on the way leaves none. -/
def gmailContext (gmail : GmailState) (text : List UInt16) : List GmailEmail :=
  if hasGmailRef text then
    match gmail.connected, gmail.recent with
    | .ok true, .ok emails => emails
    | _, _ => []
  else []

def enqueuedContent (gmail : GmailState) (text : List UInt16) : List UInt16 :=
  match gmailContext gmail text with
  | [] => text
  | emails =>
    units "User's Recent Gmail Emails (for reference context):\n" ++ formatEmails emails ++
      units "\n\n" ++ text

/-- The fields of the payload that the key is made of, as `JSON.stringify` is given them. -/
structure EnqueuedJob where
  content : List UInt16
  tone : List UInt16
  mode : List UInt16
  outputLanguage : Option (List UInt16)
  intensity : Option Int
  deriving DecidableEq, Repr

def jobPayload (gmail : GmailState) (input : MessageInput) : EnqueuedJob where
  content := enqueuedContent gmail input.text
  tone := units input.tone
  mode := units input.mode
  outputLanguage := some (units input.outputLanguage)
  intensity := some input.intensity

/-- The same fields of the `WritingJob`. -/
structure ParsedJob where
  content : List Nat
  tone : List Nat
  mode : List Nat
  outputLanguage : List Nat
  intensity : Int
  deriving DecidableEq, Repr

/-- The code points of a text of Python. -/
def pyText (text : String) : List Nat := text.toList.map Char.toNat

/-- `WritingJob(**json.loads(member))`. -/
def EnqueuedJob.parse (job : EnqueuedJob) : Option ParsedJob := do
  let content ← loadString (quote job.content)
  let tone ← loadString (quote job.tone)
  let mode ← loadString (quote job.mode)
  let outputLanguage ← match job.outputLanguage with
    | some language => loadString (quote language)
    | none => some (pyText "en")
  return {
    content := content
    tone := tone
    mode := mode
    outputLanguage := outputLanguage
    intensity := job.intensity.getD 3 }

/-- The text that `_input_hash_for_cache` hashes. -/
def ParsedJob.cacheMaterial (job : ParsedJob) : List Nat :=
  let language := if job.outputLanguage = [] then pyText "en" else job.outputLanguage
  job.content ++ pyText ":" ++ job.tone ++ pyText ":" ++ job.mode ++ pyText ":" ++ language ++
    pyText ":" ++ pyText (toString job.intensity)

/-- `str.encode("utf-8")`, which raises on a surrogate. -/
def pyEncode (text : List Nat) : Option (List UInt8) :=
  if text.all fun point => !isSurrogate point then some (text.flatMap utf8) else none

/-- `_input_hash_for_cache`; where it raises, nothing is cached. -/
def inputHashForCache (sha256 : List UInt8 → String) (job : ParsedJob) : Option String :=
  (pyEncode job.cacheMaterial).map sha256

/-- What `createHash(..).update(text)` is given for a text: a lone surrogate becomes U+FFFD. -/
def jsEncode (text : List UInt16) : List UInt8 :=
  (points text).flatMap fun point => utf8 (if isSurrogate point then 0xfffd else point)

def computeInputHash (sha256 : List UInt8 → String) (text : List UInt16)
    (tone mode outputLanguage : String) (intensity : Int) : String :=
  sha256 (jsEncode (text ++ units (":" ++ tone ++ ":" ++ mode ++ ":" ++ outputLanguage ++ ":" ++
    toString intensity)))

/-- The key under which the worker caches the result of the job of a request. -/
def workerCacheKey (sha256 : List UInt8 → String) (gmail : GmailState) (input : MessageInput) :
    Option String :=
  (jobPayload gmail input).parse.bind (inputHashForCache sha256)

/-- The key that the route looks up. -/
def routeCacheKey (sha256 : List UInt8 → String) (input : MessageInput) : String :=
  computeInputHash sha256 input.text input.tone input.mode input.outputLanguage input.intensity

variable {platform : TextPlatform} {body : MessageBody} {input : MessageInput} {gmail : GmailState}

/-- What follows the text in the hashed text. -/
def keySuffix (input : MessageInput) : String :=
  ":" ++ input.tone ++ ":" ++ input.mode ++ ":" ++ input.outputLanguage ++ ":" ++
    toString input.intensity

def routeBytes (input : MessageInput) : List UInt8 := jsEncode (input.text ++ units (keySuffix input))

def workerBytes (gmail : GmailState) (input : MessageInput) : Option (List UInt8) :=
  pyEncode (points (enqueuedContent gmail input.text) ++ pyText (keySuffix input))

private theorem routeCacheKey_eq (sha256 : List UInt8 → String) (input : MessageInput) :
    routeCacheKey sha256 input = sha256 (routeBytes input) := rfl

private theorem language_of_accepted (accepted : acceptMessage platform body = .ok input) :
    input.outputLanguage ∈ outputLanguages := by
  unfold acceptMessage messageSchema at accepted
  dsimp only at accepted
  split at accepted
  · cases accepted
  · rename_i parsed schema
    split at schema
    · rename_i valid
      cases schema
      split at accepted
      · cases accepted
      · cases accepted
        exact valid.2.2.2.2.2.1
    · cases schema

private theorem pyText_append (first second : String) :
    pyText (first ++ second) = pyText first ++ pyText second := by
  simp [pyText]

private theorem workerCacheKey_eq (sha256 : List UInt8 → String)
    (language : input.outputLanguage ≠ "") :
    workerCacheKey sha256 gmail input = (workerBytes gmail input).map sha256 := by
  have nonempty : pyText input.outputLanguage ≠ [] := by
    simpa [pyText] using language
  have parsed : (jobPayload gmail input).parse = some {
      content := points (enqueuedContent gmail input.text)
      tone := pyText input.tone
      mode := pyText input.mode
      outputLanguage := pyText input.outputLanguage
      intensity := input.intensity } := by
    simp [EnqueuedJob.parse, jobPayload, loadString_quote, points_units, pyText]
  rw [workerCacheKey, parsed, Option.bind_some, inputHashForCache, workerBytes]
  congr 2
  simp only [ParsedJob.cacheMaterial, if_neg nonempty, keySuffix, pyText_append, List.append_assoc]

private theorem pyText_scalar (text : String) :
    (pyText text).all (fun point => !isSurrogate point) = true := by
  simp [pyText, not_surrogate]

private theorem pyEncode_append (text : List Nat) (suffix : String) :
    pyEncode (text ++ pyText suffix) =
      if text.all (fun point => !isSurrogate point) then
        some (text.flatMap utf8 ++ (pyText suffix).flatMap utf8)
      else none := by
  simp only [pyEncode, List.all_append, pyText_scalar, Bool.and_true, List.flatMap_append]

/-- What JavaScript encodes of a text without lone surrogates is what Python does. -/
theorem routeBytes_eq (scalar : wellFormed input.text = true) :
    routeBytes input =
      (points input.text).flatMap utf8 ++ (pyText (keySuffix input)).flatMap utf8 := by
  have same (text : List Nat) (scalar : text.all (fun point => !isSurrogate point) = true) :
      text.flatMap (fun point => utf8 (if isSurrogate point then 0xfffd else point)) =
        text.flatMap utf8 := by
    refine List.flatMap_congr fun point member => ?_
    have free := List.all_eq_true.mp scalar point member
    rw [Bool.not_eq_true'] at free
    simp [free]
  rw [routeBytes, jsEncode, points_append_units, List.flatMap_append, same _ scalar]
  exact congrArg _ (same _ (pyText_scalar _))

/-- A text with a context in front is decoded after it. -/
theorem points_enqueuedContent (gmail : GmailState) (text : List UInt16) :
    ∃ context, points (enqueuedContent gmail text) = context ++ points text ∧
      (context = [] ↔ gmailContext gmail text = []) := by
  unfold enqueuedContent
  split
  · rename_i none_
    exact ⟨[], rfl, by simp [none_]⟩
  · rename_i some_
    have border : ∀ last ∈ (units "User's Recent Gmail Emails (for reference context):\n" ++
        formatEmails (gmailContext gmail text) ++ units "\n\n").getLast?,
        ∀ unit ∈ text.head?, (isHighSurrogate last.toNat && isLowSurrogate unit.toNat) = false := by
      intro last found unit _
      have newline : units "\n\n" = [10, 10] := by decide
      rw [newline, List.getLast?_append] at found
      cases found
      rfl
    refine ⟨_, points_append _ _ border, ?_⟩
    have start : units "User's Recent Gmail Emails (for reference context):\n" =
        85 :: 115 :: units "er's Recent Gmail Emails (for reference context):\n" := by decide
    constructor
    · intro empty
      rw [start] at empty
      simp [points, isHighSurrogate] at empty
    · intro empty
      exact absurd empty some_

/-- The bytes agree exactly when nothing was put before a text without lone surrogates. -/
theorem workerBytes_eq_iff :
    workerBytes gmail input = some (routeBytes input) ↔
      wellFormed input.text = true ∧ gmailContext gmail input.text = [] := by
  obtain ⟨context, decoded, none_⟩ := points_enqueuedContent gmail input.text
  rw [workerBytes, pyEncode_append, decoded, ← none_]
  constructor
  · intro same
    split at same
    · rename_i scalar
      have textScalar : wellFormed input.text = true := by
        rw [List.all_append, Bool.and_eq_true] at scalar
        exact scalar.2
      rw [routeBytes_eq textScalar] at same
      have bytes := List.append_cancel_right (Option.some.inj same)
      rw [List.flatMap_append, List.append_left_eq_self, List.flatMap_eq_nil_iff] at bytes
      refine ⟨textScalar, List.eq_nil_iff_forall_not_mem.mpr fun point member => ?_⟩
      exact utf8_ne_nil point (bytes point member)
    · cases same
  · rintro ⟨scalar, rfl⟩
    rw [List.nil_append, routeBytes_eq scalar]
    exact if_pos scalar

/-- The worker caches the result of a request under the key that the route looks up, whatever
hash function is used, exactly when the text has no lone surrogate and no Gmail context was
put before it. Otherwise the keys agree on a collision of the hash function only. -/
theorem cache_keys_agree_iff (platform : TextPlatform) (body : MessageBody) (input : MessageInput)
    (accepted : acceptMessage platform body = .ok input) (gmail : GmailState) :
    ((∀ sha256, workerCacheKey sha256 gmail input = some (routeCacheKey sha256 input)) ↔
      wellFormed input.text = true ∧ gmailContext gmail input.text = []) ∧
    ∀ sha256, workerCacheKey sha256 gmail input = some (routeCacheKey sha256 input) →
      (wellFormed input.text = true ∧ gmailContext gmail input.text = []) ∨
        ∃ first second, first ≠ second ∧ sha256 first = sha256 second := by
  have language : input.outputLanguage ≠ "" := by
    intro empty
    have listed := language_of_accepted accepted
    rw [empty] at listed
    exact absurd listed (by decide)
  have collides (sha256 : List UInt8 → String)
      (same : workerCacheKey sha256 gmail input = some (routeCacheKey sha256 input)) :
      workerBytes gmail input = some (routeBytes input) ∨
        ∃ bytes, bytes ≠ routeBytes input ∧ sha256 bytes = sha256 (routeBytes input) := by
    rw [workerCacheKey_eq sha256 language, routeCacheKey_eq] at same
    obtain ⟨bytes, written, digest⟩ := Option.map_eq_some_iff.mp same
    by_cases equal : bytes = routeBytes input
    · exact .inl (written.trans (congrArg some equal))
    · exact .inr ⟨bytes, equal, digest⟩
  refine ⟨⟨fun always => ?_, fun agrees sha256 => ?_⟩, fun sha256 same => ?_⟩
  · -- a function that tells the route's text from every other one
    obtain bytes | ⟨bytes, other, digest⟩ :=
      collides (fun bytes => if bytes = routeBytes input then "route" else "other") (always _)
    · exact workerBytes_eq_iff.mp bytes
    · simp [other] at digest
  · rw [workerCacheKey_eq sha256 language, workerBytes_eq_iff.mpr agrees]
    rfl
  · obtain bytes | ⟨bytes, other, digest⟩ := collides sha256 same
    · exact .inl (workerBytes_eq_iff.mp bytes)
    · exact .inr ⟨bytes, routeBytes input, other, digest⟩

def WritingJobPayload.enqueuedJob (payload : WritingJobPayload) : EnqueuedJob where
  content := units payload.content
  tone := units payload.tone
  mode := units payload.mode
  outputLanguage := payload.outputLanguage.map units
  intensity := payload.intensity

/-- Over such texts the material is the one the queue consumer hashes. -/
theorem cacheMaterial_of_payload (payload : WritingJobPayload) :
    payload.enqueuedJob.parse.map ParsedJob.cacheMaterial =
      (Member.enqueued payload).job?.map fun job => pyText (cacheMaterial job) := by
  have empty (text : String) : pyText text = [] ↔ text = "" := by simp [pyText]
  have parsed : payload.enqueuedJob.parse = some {
      content := pyText payload.content
      tone := pyText payload.tone
      mode := pyText payload.mode
      outputLanguage := pyText (payload.outputLanguage.getD "en")
      intensity := payload.intensity.getD 3 } := by
    cases given : payload.outputLanguage <;>
      simp [EnqueuedJob.parse, WritingJobPayload.enqueuedJob, loadString_quote, points_units, pyText,
        given]
  rw [parsed]
  simp only [Option.map_some, Member.job?, ParsedJob.cacheMaterial, cacheMaterial, empty,
    pyText_append, List.append_assoc]
  split <;> simp_all

def samplePlatform : TextPlatform := ⟨id, fun _ => true⟩

def sampleBody (text : List UInt16) : MessageBody where
  chatId := "0a0a0a0a-0000-4000-8000-000000000001"
  text := text
  tone := "Friendly"
  mode := "email"
  outputLanguage := none
  intensity := none
  quick := none

def sampleInput (text : List UInt16) : MessageInput where
  chatId := "0a0a0a0a-0000-4000-8000-000000000001"
  text := text
  tone := "Friendly"
  mode := "email"
  outputLanguage := "en"
  intensity := 3
  quick := false

/-- One recent email. -/
def sampleGmail : GmailState where
  connected := .ok true
  recent := .ok [⟨units "A", units "a@b.c", units "Hi", units "now", units "Hi", units "Hi"⟩]

theorem plain_text_keys_agree :
    acceptMessage samplePlatform (sampleBody (units "please reply")) =
      .ok (sampleInput (units "please reply")) ∧
    ∀ sha256, workerCacheKey sha256 sampleGmail (sampleInput (units "please reply")) =
      some (routeCacheKey sha256 (sampleInput (units "please reply"))) := by
  have accepted : acceptMessage samplePlatform (sampleBody (units "please reply")) =
      .ok (sampleInput (units "please reply")) := by decide +kernel
  exact ⟨accepted, (cache_keys_agree_iff samplePlatform _ _ accepted sampleGmail).1.mpr
    ⟨wellFormed_units _, by decide +kernel⟩⟩

/-- A text that mentions mail is cached under another key than the one looked up, and a text
with a lone surrogate under none. -/
theorem mail_text_keys_differ :
    (acceptMessage samplePlatform (sampleBody (units "check my mail")) =
        .ok (sampleInput (units "check my mail")) ∧
      ∃ sha256, workerCacheKey sha256 sampleGmail (sampleInput (units "check my mail")) ≠
        some (routeCacheKey sha256 (sampleInput (units "check my mail")))) ∧
    acceptMessage samplePlatform (sampleBody [0xd800]) = .ok (sampleInput [0xd800]) ∧
      ∀ sha256, workerCacheKey sha256 sampleGmail (sampleInput [0xd800]) = none := by
  have unencodable : workerBytes sampleGmail (sampleInput [0xd800]) = none := by decide +kernel
  refine ⟨⟨by decide +kernel, fun bytes => toString bytes.length, by decide +kernel⟩,
    by decide +kernel, fun sha256 => ?_⟩
  rw [workerCacheKey_eq sha256 (by decide), unencodable]
  rfl

end BrainMate.WriteRight
