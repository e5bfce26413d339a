import BrainMate.Text.Json
import BrainMate.WriteRight.CacheKey

/-! The members of `writeright:jobs` as texts. `JSON.stringify` names the fields as the
TypeScript payload does and leaves out what is undefined; `json.dumps` writes every field of
the `WritingJob` under its own name. A `WritingJob` is made of either. -/

namespace BrainMate.WriteRight

open Text

def field (name : String) (value : Json) : List Nat × Json := (pyText name, value)

def jsString (text : String) : Json := .str (points (units text))

/-- A property that may be undefined. -/
def given (name : String) (value : Option Json) : List (List Nat × Json) :=
  value.toList.map (field name)

def HistoryMessage.json (message : HistoryMessage) : Json :=
  .obj [field "role" (jsString message.role), field "content" (jsString message.content)]

def WritingJobPayload.json (payload : WritingJobPayload) : Json :=
  .obj (
    [field "id" (jsString payload.id),
      field "chatId" (jsString payload.chatId),
      field "userId" (jsString payload.userId),
      field "messageId" (jsString payload.messageId),
      field "content" (jsString payload.content),
      field "tone" (jsString payload.tone),
      field "mode" (jsString payload.mode)] ++
    given "output_language" (payload.outputLanguage.map jsString) ++
    given "history" (payload.history.map fun history => .arr (history.map HistoryMessage.json)) ++
    given "intensity" (payload.intensity.map .int) ++
    given "quick" (payload.quick.map .bool) ++
    [field "attempt" (.int payload.attempt)] ++
    given "traceparent" (payload.traceparent.map jsString))

def pyString (text : String) : Json := .str (pyText text)

def HistoryMessage.dict (message : HistoryMessage) : Json :=
  .obj [field "role" (pyString message.role), field "content" (pyString message.content)]

/-- `None` is written as `null`. -/
def orNull (value : Option Json) : Json := value.getD .null

def WritingJob.modelDump (job : WritingJob) : Json :=
  .obj [field "id" (pyString job.id),
    field "chat_id" (pyString job.chatId),
    field "user_id" (pyString job.userId),
    field "message_id" (pyString job.messageId),
    field "content" (pyString job.content),
    field "tone" (pyString job.tone),
    field "mode" (pyString job.mode),
    field "output_language" (pyString job.outputLanguage),
    field "input_language" (pyString job.inputLanguage),
    field "intensity" (.int job.intensity),
    field "quick" (.bool job.quick),
    field "attempt" (.int job.attempt),
    field "status" (pyString job.status),
    field "max_retries" (.int job.maxRetries),
    field "traceparent" (orNull (job.traceparent.map pyString)),
    field "history" (orNull (job.history.map fun history =>
      .arr (history.map HistoryMessage.dict)))]

def Member.text : Member → List Nat
  | .enqueued payload => stringify.text payload.json
  | .requeued job => dumps.text job.modelDump
  | .malformed text => pyText text

/-- What pydantic makes of a value that has not the type of its field. -/
structure Coercions where
  toInt : Json → Option Int
  toBool : Json → Option Bool

/-- The value of a `dict` under a key: the last one that was given counts. -/
def lookup (data : List (List Nat × Json)) (name : String) : Option Json :=
  (data.reverse.find? fun member => member.1 = pyText name).map Prod.snd

/-- A field that may be given by its alias or, with `populate_by_name`, by its name. -/
def lookupField (data : List (List Nat × Json)) (otherName name : String) : Option Json :=
  (lookup data otherName).or (lookup data name)

/-- A `str` has to be well-formed. -/
def str? : Json → Option String
  | .str points =>
    if points.all isScalar then some (String.ofList (points.map Char.ofNat)) else none
  | _ => none

def Coercions.int? (coercions : Coercions) : Json → Option Int
  | .int value => some value
  | other => coercions.toInt other

def Coercions.bool? (coercions : Coercions) : Json → Option Bool
  | .bool value => some value
  | other => coercions.toBool other

/-- A field with a default. -/
def orDefault {α : Type} (value : Option Json) (read : Json → Option α) (default : α) : Option α :=
  match value with
  | some value => read value
  | none => some default

/-- `T | None`. -/
def nullable {α : Type} (read : Json → Option α) : Json → Option (Option α)
  | .null => some none
  | value => (read value).map some

/-- `dict[str, str]` with the keys of a `HistoryMessage`, which are the only ones enqueued. -/
def historyMessage? : Json → Option HistoryMessage
  | .obj data => do
    let role ← (lookup data "role").bind str?
    let content ← (lookup data "content").bind str?
    if data.length = 2 then some ⟨role, content⟩ else none
  | _ => none

def history? : Json → Option (List HistoryMessage)
  | .arr items => items.mapM historyMessage?
  | _ => none

def writingJob? (coercions : Coercions) : Json → Option WritingJob
  | .obj data => do
    let id ← (lookupField data "id" "id").bind str?
    let chatId ← (lookupField data "chatId" "chat_id").bind str?
    let userId ← (lookupField data "userId" "user_id").bind str?
    let messageId ← (lookupField data "messageId" "message_id").bind str?
    let content ← (lookupField data "content" "content").bind str?
    let tone ← (lookup data "tone").bind str?
    let mode ← (lookup data "mode").bind str?
    let outputLanguage ← orDefault (lookup data "output_language") str? "en"
    let inputLanguage ← orDefault (lookup data "input_language") str? "auto"
    let intensity ← orDefault (lookup data "intensity") coercions.int? 3
    let quick ← orDefault (lookup data "quick") coercions.bool? false
    let attempt ← orDefault (lookup data "attempt") coercions.int? 0
    let status ← orDefault (lookup data "status") str? "pending"
    let maxRetries ← orDefault (lookup data "max_retries") coercions.int? 3
    let traceparent ← orDefault (lookup data "traceparent") (nullable str?) none
    let history ← orDefault (lookup data "history") (nullable history?) none
    return {
      id := id
      chatId := chatId
      userId := userId
      messageId := messageId
      content := content
      tone := tone
      mode := mode
      outputLanguage := outputLanguage
      inputLanguage := inputLanguage
      intensity := intensity
      quick := quick
      attempt := attempt
      status := status
      maxRetries := maxRetries
      traceparent := traceparent
      history := history }
  | _ => none

/-- What `consume_jobs` makes of a member. -/
def parseJob (coercions : Coercions) (member : List Nat) : Option WritingJob :=
  (loads member).bind (writingJob? coercions)

private theorem pyText_inj {first second : String} :
    pyText first = pyText second ↔ first = second := by
  constructor
  · intro same
    exact String.toList_injective (List.map_injective_iff.mpr (fun _ _ => Char.toNat_inj.mp) same)
  · exact congrArg pyText

theorem isScalar_pyText (text : String) : (pyText text).all isScalar = true := by
  rw [List.all_eq_true]
  intro point member
  obtain ⟨char, _, rfl⟩ := List.mem_map.mp member
  have valid := char_scalar char
  simp only [isScalar, not_surrogate, Bool.not_false, Bool.and_true, decide_eq_true_eq]
  omega

theorem ofNat_pyText (text : String) : (pyText text).map Char.ofNat = text.toList := by
  rw [pyText, List.map_map]
  exact List.map_id'' (fun char => Char.ofNat_toNat char) _

theorem str?_pyString (text : String) : str? (pyString text) = some text := by
  rw [pyString, str?, if_pos (isScalar_pyText text), ofNat_pyText, String.ofList_toList]

/-- Either side writes a string by its code points. -/
theorem jsString_eq (text : String) : jsString text = pyString text := by
  rw [jsString, points_units]
  rfl

section Lookup

variable {data more : List (List Nat × Json)} {name other : String} {value : Json}

private theorem lookup_nil : lookup [] name = none := rfl

private theorem lookup_append :
    lookup (data ++ more) name = (lookup more name).or (lookup data name) := by
  simp only [lookup, List.reverse_append, List.find?_append]
  cases more.reverse.find? fun member => decide (member.1 = pyText name) <;> rfl

private theorem lookup_field :
    lookup [field other value] name = if other = name then some value else none := by
  by_cases same : other = name
  · simp [lookup, field, same]
  · simp [lookup, field, same, pyText_inj]

theorem lookup_cons :
    lookup (field other value :: more) name =
      (lookup more name).or (if other = name then some value else none) := by
  rw [← List.singleton_append, lookup_append, lookup_field]

private theorem lookup_given {value : Option Json} :
    lookup (given other value) name = if other = name then value else none := by
  cases value with
  | none => simp [given, lookup_nil]
  | some value => exact lookup_field

end Lookup

private theorem historyMessage?_dict (message : HistoryMessage) :
    historyMessage? message.dict = some message := by
  simp [HistoryMessage.dict, historyMessage?, lookup_cons, lookup_nil, str?_pyString]

private theorem history_json_eq (message : HistoryMessage) : message.json = message.dict := by
  simp only [HistoryMessage.json, HistoryMessage.dict, jsString_eq]

private theorem history?_dicts (history : List HistoryMessage) :
    history? (.arr (history.map HistoryMessage.dict)) = some history := by
  induction history with
  | nil => rfl
  | cons message rest ih =>
    rw [history?] at ih ⊢
    rw [List.map_cons, List.mapM_cons, historyMessage?_dict, ih]
    rfl

private theorem nullable_orNull {α : Type} {read : Json → Option α} {write : α → Json}
    (back : ∀ value, nullable read (write value) = some (some value)) (value : Option α) :
    nullable read (orNull (value.map write)) = some value := by
  cases value with
  | none => rfl
  | some value => exact back value

private theorem orDefault_map {α : Type} (read : Json → Option α) (write : α → Json)
    (back : ∀ value, read (write value) = some value) (value : Option α) (default : α) :
    orDefault (value.map write) read default = some (value.getD default) := by
  cases value with
  | none => rfl
  | some value => exact back value

private theorem orDefault_nullable {α : Type} {read : Json → Option α} {write : α → Json}
    (back : ∀ value, nullable read (write value) = some (some value)) (value : Option α) :
    orDefault (value.map write) (nullable read) none = some value := by
  cases value with
  | none => rfl
  | some value => exact back value

private theorem nullable_pyString (text : String) :
    nullable str? (pyString text) = some (some text) :=
  congrArg (Option.map some) (str?_pyString text)

private theorem nullable_dicts (history : List HistoryMessage) :
    nullable history? (.arr (history.map HistoryMessage.dict)) = some (some history) :=
  congrArg (Option.map some) (history?_dicts history)

section Jobs

variable (coercions : Coercions)

private theorem writingJob?_modelDump (job : WritingJob) :
    writingJob? coercions job.modelDump = some job := by
  simp [WritingJob.modelDump, writingJob?, lookupField, lookup_cons, lookup_nil, orDefault,
    str?_pyString, Coercions.int?, Coercions.bool?, nullable_orNull nullable_pyString,
    nullable_orNull nullable_dicts]

private theorem writingJob?_json (payload : WritingJobPayload) :
    writingJob? coercions payload.json = (Member.enqueued payload).job? := by
  have language := orDefault_map str? pyString str?_pyString payload.outputLanguage "en"
  have intensity := orDefault_map coercions.int? .int (fun _ => rfl)
    payload.intensity 3
  have quick := orDefault_map coercions.bool? .bool (fun _ => rfl)
    payload.quick false
  have attempt : orDefault (some (.int payload.attempt)) coercions.int? 0 = some payload.attempt := rfl
  have traceparent := orDefault_nullable nullable_pyString payload.traceparent
  have history := orDefault_nullable nullable_dicts payload.history
  have absent {α : Type} (read : Json → Option α) (default : α) :
      orDefault none read default = some default := rfl
  have strings : jsString = pyString := funext jsString_eq
  have messages : HistoryMessage.json = HistoryMessage.dict := funext history_json_eq
  simp [WritingJobPayload.json, writingJob?, lookupField, lookup_append, lookup_cons,
    lookup_given, strings, messages, str?_pyString, language, intensity, quick, attempt, traceparent,
    history, absent, Member.job?]

theorem plain_pyString (text : String) : (pyString text).plain = true := by
  rw [pyString, Json.plain, isScalar_pyText]

private theorem plainMembers_nil : Json.plainMembers [] = true := rfl

private theorem plainMembers_append (data more : List (List Nat × Json)) :
    Json.plainMembers (data ++ more) = (Json.plainMembers data && Json.plainMembers more) := by
  induction data with
  | nil => rfl
  | cons member rest ih =>
    obtain ⟨key, value⟩ := member
    rw [List.cons_append, Json.plainMembers, Json.plainMembers, ih, Bool.and_assoc _ _ (_ && _),
      Bool.and_assoc, Bool.and_assoc]

theorem plainMembers_field (name : String) (value : Json) (more : List (List Nat × Json)) :
    Json.plainMembers (field name value :: more) = (value.plain && Json.plainMembers more) := by
  rw [field, Json.plainMembers, isScalar_pyText, Bool.true_and]

theorem plainMembers_given {α : Type} (write : α → Json) (plain : ∀ value, (write value).plain = true)
    (name : String) (value : Option α) :
    Json.plainMembers (given name (value.map write)) = true := by
  cases value with
  | none => rfl
  | some value =>
    rw [given, Option.map_some, Option.toList_some, List.map_singleton, plainMembers_field, plain]
    rfl

private theorem plain_orNull {α : Type} {write : α → Json}
    (plain : ∀ value, (write value).plain = true)
    (value : Option α) : (orNull (value.map write)).plain = true := by
  cases value with
  | none => rfl
  | some value => exact plain value

private theorem plain_dicts (history : List HistoryMessage) :
    (Json.arr (history.map HistoryMessage.dict)).plain = true := by
  rw [Json.plain]
  induction history with
  | nil => rfl
  | cons message rest ih =>
    rw [List.map_cons, Json.plainItems, ih, HistoryMessage.dict, Json.plain, plainMembers_field,
      plainMembers_field, plain_pyString, plain_pyString]
    rfl

private theorem plain_json (payload : WritingJobPayload) : payload.json.plain = true := by
  have strings : jsString = pyString := funext jsString_eq
  have messages : HistoryMessage.json = HistoryMessage.dict := funext history_json_eq
  have language := plainMembers_given pyString plain_pyString "output_language" payload.outputLanguage
  have history := plainMembers_given _ plain_dicts "history" payload.history
  have intensity := plainMembers_given .int (fun _ => rfl) "intensity" payload.intensity
  have quick := plainMembers_given .bool (fun _ => rfl) "quick" payload.quick
  have traceparent := plainMembers_given pyString plain_pyString "traceparent" payload.traceparent
  simp [WritingJobPayload.json, Json.plain, plainMembers_append, plainMembers_field, strings,
    messages, plain_pyString, language, history, intensity, quick, traceparent]

private theorem plain_modelDump (job : WritingJob) : job.modelDump.plain = true := by
  have int (value : Int) : (Json.int value).plain = true := rfl
  have bool (value : Bool) : (Json.bool value).plain = true := rfl
  rw [WritingJob.modelDump, Json.plain]
  simp only [plainMembers_field, plainMembers_nil, plain_pyString, int, bool,
    plain_orNull plain_pyString, plain_orNull plain_dicts, Bool.and_self]

/-- A member is parsed as the job it stands for. -/
theorem parseJob_text {member : Member} {job : WritingJob} (stands : member.job? = some job) :
    parseJob coercions member.text = some job := by
  cases member with
  | malformed text => cases stands
  | enqueued payload =>
    rw [parseJob, Member.text, loads_text stringify (plain_json payload), ← stands]
    exact writingJob?_json coercions payload
  | requeued other =>
    rw [parseJob, Member.text, loads_text dumps (plain_modelDump other), ← stands]
    exact writingJob?_modelDump coercions other

end Jobs

end BrainMate.WriteRight
