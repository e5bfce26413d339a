import BrainMate.Interleaving.Program
import BrainMate.WriteRight.JobStream
import BrainMate.WriteRight.Routes
import BrainMate.WriteRight.Workspace

/-! The routes over a user's chats, messages, projects, artifacts, templates and preferences. -/

namespace BrainMate.WriteRight.Workspace

open Interleaving Program

open BrainMate.Text (Json)

open EmailChain (text)

open JobStream (property)

abbrev Procedure := Program Command Reply

def selectWhere (relation : Relation) (condition : relation.Row → Bool) :
    Procedure (Option (List relation.Row)) :=
  request (Command.select relation condition)

def insertRow (relation : Relation) (userId : UserId) (row : Uuid → Nat → relation.Row) :
    Procedure (Option relation.Row) :=
  request (Command.insert relation userId row)

def updateWhere (relation : Relation) (condition : relation.Row → Bool)
    (assign : Nat → relation.Row → relation.Row) : Procedure (Option (List relation.Row)) :=
  request (Command.update relation condition assign)

def deleteWhere (relation : Relation) (condition : relation.Row → Bool) :
    Procedure (Option Nat) :=
  request (Command.delete relation condition)

def selectChats (condition : Chat → Bool) : Procedure (Option (List (Chat × Nat))) :=
  request (Command.selectChats condition)

inductive ErrorCode where
  | unauthorized
  | validationError
  | invalidBody
  | notFound
  | dbError
  | internalError
  deriving DecidableEq, Repr

/-- `USER_MESSAGES`, which takes the place of what a route says. -/
def userMessage : ErrorCode → String
  | .unauthorized => "Session expired. Please refresh."
  | .validationError => "Invalid input. Please check your data."
  | .invalidBody => "Invalid request format."
  | .notFound => "The requested resource was not found."
  | .dbError => "Something went wrong saving your data."
  | .internalError => "Something went wrong. We've been notified."

structure ApiError where
  code : ErrorCode
  message : String
  status : Nat
  deriving DecidableEq, Repr

def createApiError (code : ErrorCode) (status : Nat) : ApiError := ⟨code, userMessage code, status⟩

structure MessageView where
  message : Message
  metadata : Json
  /-- Left out where it is `undefined`. -/
  scores : Option Json

inductive Answer where
  | refused (error : ApiError)
  | ok
  | chatCreated (chat : Chat)
  | chats (chats : List (Chat × Nat)) (page limit : Nat)
  | chat (chat : Chat) (messageCount : Nat)
  | chatRenamed (chat : Chat)
  | messages (messages : List MessageView)
  | projects (projects : List Project)
  | project (project : Project)
  | artifacts (artifacts : List Artifact)
  | artifact (artifact : Artifact)
  | templates (templates : List Template)
  | template (template : Template)
  | templateCreated (template : Template)
  | preferences (preferences : Json)

def unauthorized : Answer := .refused (createApiError .unauthorized 401)

def validationError : Answer := .refused (createApiError .validationError 400)

def notFound : Answer := .refused (createApiError .notFound 404)

def dbError : Answer := .refused (createApiError .dbError 500)

/-- A `TypeError` of the route. -/
def internalError : Answer := .refused (createApiError .internalError 500)

/-- What `.single()` makes of the rows: `PGRST116` unless there is just one. -/
inductive Single (Row : Type) where
  | row (found : Row)
  | pgrst116
  | failed

def single {Row : Type} : Option (List Row) → Single Row
  | some [row] => .row row
  | some _ => .pgrst116
  | none => .failed

/-- `if (error || !data)`, with a 404 for `PGRST116`. -/
def Single.answer {Row : Type} (found : Single Row) (shown : Row → Answer) : Answer :=
  match found with
  | .row own => shown own
  | .pgrst116 => notFound
  | .failed => dbError

def authenticated (userId : Option UserId) (handler : UserId → Procedure Answer) :
    Procedure Answer :=
  match userId with
  | none => return unauthorized
  | some userId => handler userId

def withUuid (id : String) (handler : Uuid → Procedure Answer) : Procedure Answer :=
  if isUuid id then handler id.toLower else return validationError

/-- `length`, in UTF-16 units. -/
def jsLength (string : Text) : Nat := (string.map fun point => if point < 0x10000 then 1 else 2).sum

/-- `slice(0, count)`, which may leave half of a pair. -/
def sliceTo : Nat → Text → Text
  | _, [] => []
  | 0, _ => []
  | 1, point :: _ => if point < 0x10000 then [point] else [0xd800 + (point - 0x10000) / 0x400]
  | count + 2, point :: rest =>
    point :: sliceTo (if point < 0x10000 then count + 1 else count) rest

/-- What the platform makes of a text as a number, if that is an integer. -/
structure Platform where
  number : Text → Option Int
  /-- `new Date().toLocaleDateString()` -/
  localeDate : Nat → Text

namespace Schema

def string : Option Json → Option Text
  | some (.str points) => some points
  | _ => none

def length (least most : Nat) (string : Text) : Option Text :=
  if least ≤ jsLength string ∧ jsLength string ≤ most then some string else none

def optional {α : Type} (check : Option Json → Option α) (value : Option Json) :
    Option (Option α) :=
  if value.isNone then some none else (check value).map some

def nullable {α : Type} (check : Option Json → Option α) : Option Json → Option (Option α)
  | some .null => some none
  | value => (check value).map some

def default {α : Type} (otherwise : α) (check : Option Json → Option α) (value : Option Json) :
    Option α :=
  if value.isNone then some otherwise else check value

def enum (names : List String) (value : Option Json) : Option Text :=
  (string value).filter fun points => (names.map text).contains points

def boolean : Option Json → Option Bool
  | some (.bool value) => some value
  | _ => none

def isObject : Json → Bool
  | .obj _ => true
  | _ => false

end Schema

open Schema

def writingModes : List String := ["email", "paragraph", "linkedin", "whatsapp"]

def toneOptions : List String := ["Professional", "Friendly", "Concise", "Academic", "Assertive"]

structure CreateChat where
  title : Text
  mode : Text

def createChatSchema (body : Json) : Option CreateChat :=
  if isObject body then do
    let title ← default (text "Untitled Chat") (fun value => string value >>= length 0 200)
      (property "title" body)
    let mode ← default (text "email") (enum writingModes) (property "mode" body)
    return ⟨title, mode⟩
  else none

def createChat (userId : Option UserId) (body : Option Json) : Procedure Answer :=
  authenticated userId fun userId =>
    match body with
    | none => return .refused (createApiError .invalidBody 400)
    | some body =>
      match createChatSchema body with
      | none => return validationError
      | some parsed => do
        let title := if (EmailChain.trim parsed.title).isEmpty then text "Untitled Chat"
          else sliceTo 200 (EmailChain.trim parsed.title)
        let chat ← insertRow .chats userId fun id now =>
          ⟨id, userId, title, parsed.mode, .obj [], now, now, none⟩
        match chat with
        | none => return dbError
        | some chat => return .chatCreated chat

/-- `z.coerce.number().int().min(least)` of a query parameter. -/
def Platform.coerced (platform : Platform) (least most : Int) (otherwise : Nat)
    (parameter : Option Text) : Option Nat :=
  match parameter with
  | none => some otherwise
  | some parameter =>
    ((platform.number parameter).filter fun value => least ≤ value ∧ value ≤ most).map Int.toNat

def maxSafeInteger : Int := 9007199254740991

/-- `order(column, { ascending: false })` -/
def descending {Row : Type} (column : Row → Int) (rows : List Row) : List Row :=
  rows.mergeSort fun one other => column other ≤ column one

def listChats (platform : Platform) (userId : Option UserId) (page limit : Option Text) :
    Procedure Answer :=
  authenticated userId fun userId =>
    match platform.coerced 0 maxSafeInteger 0 page, platform.coerced 1 100 20 limit with
    | some page, some limit => do
      let chats ← selectChats fun chat => chat.userId == userId && chat.deletedAt.isNone
      match chats with
      | none => return dbError
      | some chats =>
        let ordered := descending (fun entry : Chat × Nat => entry.1.updatedAt) chats
        return .chats ((ordered.drop (page * limit)).take limit) page limit
    | _, _ => return validationError

/-- The condition of every statement on one chat of a user. -/
def liveChat (userId : UserId) (chatId : Uuid) (chat : Chat) : Bool :=
  chat.id == chatId && chat.userId == userId && chat.deletedAt.isNone

def getChat (userId : Option UserId) (id : String) : Procedure Answer :=
  authenticated userId fun userId => withUuid id fun chatId => do
    let chat ← selectChats (liveChat userId chatId)
    return (single chat).answer fun entry => .chat entry.1 entry.2

def deleteChat (userId : Option UserId) (id : String) : Procedure Answer :=
  authenticated userId fun userId => withUuid id fun chatId => do
    let deleted ← updateWhere .chats (liveChat userId chatId) fun now chat =>
      { chat with deletedAt := some now, updatedAt := now }
    match deleted with
    | none => return dbError
    | some [] => return notFound
    | some _ => return .ok

/-- `TemplateRenameSchema`, of which the route takes the name. -/
def renameSchema (body : Json) : Option Text :=
  if isObject body then do
    let name ← string (property "name" body)
    length 1 200 (EmailChain.trim name)
  else none

def renameChat (userId : Option UserId) (id : String) (body : Option Json) : Procedure Answer :=
  authenticated userId fun userId => withUuid id fun chatId =>
    match body with
    | none => return .refused (createApiError .invalidBody 400)
    | some body =>
      match renameSchema body with
      | none => return validationError
      | some name => do
        let title := sliceTo 200 (EmailChain.trim name)
        let chat ← updateWhere .chats (liveChat userId chatId) fun now chat =>
          { chat with title := title, updatedAt := now }
        return (single chat).answer .chatRenamed

def jobIdOf (metadata : Json) : Option Text := string (property "job_id" metadata)

/-- The jobs that are looked up: `filter(Boolean)` drops empty ids too. -/
def assistantJobIds (messages : List Message) : List Text :=
  messages.filterMap fun message =>
    (jobIdOf message.metadata).filter fun id => id != text "cached" && !id.isEmpty

def stringOrNull (value : Option Json) : Json :=
  match string value with
  | some points => .str points
  | none => .null

/-- `{ ...metadata, input_hash, original_text }` -/
def normalizedMetadata (metadata : Json) : Json :=
  let others := match metadata with
    | .obj members => members.filter fun entry =>
      entry.1 != text "input_hash" && entry.1 != text "original_text"
    | _ => []
  .obj (others ++ [(text "input_hash", stringOrNull (property "input_hash" metadata)),
    (text "original_text", stringOrNull (property "original_text" metadata))])

/-- The scores of a message, where they are asked for. -/
def scoresOf (jobs : List AiJob) (includeCompare : Bool) (metadata : Json) : Option Json :=
  match (jobIdOf metadata).filter fun id => includeCompare && !id.isEmpty with
  | none => none
  | some jobId =>
    let job := jobs.find? fun job => text job.id == jobId
    some (JobStream.orElse ((job.map AiJob.output).bind (property "scores")) .null)

def viewOf (jobs : List AiJob) (includeCompare : Bool) (message : Message) : MessageView :=
  ⟨message, normalizedMetadata message.metadata, scoresOf jobs includeCompare message.metadata⟩

def ascendingByCreation (messages : List Message) : List Message :=
  messages.mergeSort fun one other => one.createdAt ≤ other.createdAt

def listMessages (userId : Option UserId) (id : String) (includeCompare : Bool) :
    Procedure Answer :=
  authenticated userId fun userId => withUuid id fun chatId => do
    let chat ← selectWhere .chats (liveChat userId chatId)
    match single chat with
    | .row _ =>
      let messages ← selectWhere .messages fun message : Message =>
        message.chatId == chatId && message.userId == userId && message.deletedAt.isNone
      match messages with
      | none => return dbError
      | some messages => do
        let rows := ascendingByCreation messages
        let ids := assistantJobIds rows
        if includeCompare && !ids.isEmpty then do
          let jobs ← selectWhere .aiJobs fun job : AiJob =>
            job.userId == userId && ids.contains (text job.id)
          match jobs with
          | none => return dbError
          | some jobs => return .messages (rows.map (viewOf jobs includeCompare))
        else return .messages (rows.map (viewOf [] includeCompare))
    | _ => return notFound

def liveProject (userId : UserId) (projectId : Uuid) (project : Project) : Bool :=
  project.id == projectId && project.userId == userId && project.deletedAt.isNone

def listProjects (userId : Option UserId) : Procedure Answer :=
  authenticated userId fun userId => do
    let projects ← selectWhere .projects fun project : Project =>
      project.userId == userId && project.deletedAt.isNone
    match projects with
    | none => return dbError
    | some projects => return .projects (descending (fun project => project.updatedAt) projects)

structure CreateProject where
  name : Text
  description : Option Text
  icon : Text

def projectSchema (body : Json) : Option CreateProject :=
  if isObject body then do
    let name ← string (property "name" body) >>= length 1 100
    let description ← Schema.optional (fun value => string value >>= length 0 500)
      (property "description" body)
    let icon ← default (text "Folder") string (property "icon" body)
    return ⟨name, description, icon⟩
  else none

/-- `req.json().catch(() => ({}))` -/
def bodyOrEmpty (body : Option Json) : Json := body.getD (.obj [])

def createProject (userId : Option UserId) (body : Option Json) : Procedure Answer :=
  authenticated userId fun userId =>
    match projectSchema (bodyOrEmpty body) with
    | none => return validationError
    | some parsed => do
      let project ← insertRow .projects userId fun id now =>
        ⟨id, userId, parsed.name, parsed.description, parsed.icon, text "active", now, now, none⟩
      match project with
      | none => return dbError
      | some project => return .project project

def getProject (userId : Option UserId) (id : String) : Procedure Answer :=
  authenticated userId fun userId => withUuid id fun projectId => do
    let project ← selectWhere .projects (liveProject userId projectId)
    return (single project).answer .project

structure UpdateProject where
  name : Option Text
  description : Option (Option Text)
  icon : Option Text

def projectUpdateSchema (body : Json) : Option UpdateProject :=
  if isObject body then do
    let name ← Schema.optional (fun value => string value >>= length 1 100) (property "name" body)
    let description ← Schema.optional (Schema.nullable fun value => string value >>= length 0 500)
      (property "description" body)
    let icon ← Schema.optional string (property "icon" body)
    return ⟨name, description, icon⟩
  else none

def UpdateProject.isEmpty (update : UpdateProject) : Bool :=
  update.name.isNone && update.description.isNone && update.icon.isNone

def UpdateProject.assign (update : UpdateProject) (now : Nat) (project : Project) : Project :=
  { project with
    name := update.name.getD project.name
    description := update.description.getD project.description
    icon := update.icon.getD project.icon
    updatedAt := now }

def updateProject (userId : Option UserId) (id : String) (body : Option Json) :
    Procedure Answer :=
  authenticated userId fun userId => withUuid id fun projectId =>
    match projectUpdateSchema (bodyOrEmpty body) with
    | none => return validationError
    | some parsed =>
      if parsed.isEmpty then return .ok
      else do
        let project ← updateWhere .projects (liveProject userId projectId) parsed.assign
        return (single project).answer .project

def deleteProject (userId : Option UserId) (id : String) : Procedure Answer :=
  authenticated userId fun userId => withUuid id fun projectId => do
    let deleted ← updateWhere .projects (liveProject userId projectId) fun now project =>
      { project with deletedAt := some now, updatedAt := now }
    match deleted with
    | none => return dbError
    | some [] => return notFound
    | some _ => return .ok

/-- The check of the owner in front of both artifact routes, whose errors are all a 404. -/
def withProject (userId : UserId) (projectId : Uuid) (next : Procedure Answer) :
    Procedure Answer := do
  let project ← selectWhere .projects (liveProject userId projectId)
  match single project with
  | .row _ => next
  | _ => return notFound

def listArtifacts (userId : Option UserId) (id : String) : Procedure Answer :=
  authenticated userId fun userId => withUuid id fun projectId =>
    withProject userId projectId do
      let artifacts ← selectWhere .artifacts fun artifact : Artifact =>
        artifact.projectId == projectId && artifact.userId == userId && artifact.deletedAt.isNone
      match artifacts with
      | none => return dbError
      | some artifacts =>
        return .artifacts (descending (fun artifact => artifact.updatedAt) artifacts)

structure CreateArtifact where
  title : Text
  content : Text
  type : Text
  metadata : Json

def artifactSchema (body : Json) : Option CreateArtifact :=
  if isObject body then do
    let title ← default (text "Untitled") (fun value => string value >>= length 1 200)
      (property "title" body)
    let content ← string (property "content" body) >>= length 1 100000
    let type ← default (text "draft") (enum ["draft", "paragraph", "template"])
      (property "type" body)
    let metadata ← default (.obj []) (Option.filter isObject) (property "metadata" body)
    return ⟨title, content, type, metadata⟩
  else none

def createArtifact (userId : Option UserId) (id : String) (body : Option Json) :
    Procedure Answer :=
  authenticated userId fun userId => withUuid id fun projectId =>
    match artifactSchema (bodyOrEmpty body) with
    | none => return validationError
    | some parsed =>
      withProject userId projectId do
        let artifact ← insertRow .artifacts userId fun id now =>
          ⟨id, projectId, userId, parsed.title, parsed.content, parsed.type, parsed.metadata, now,
            now, none⟩
        match artifact with
        | none => return dbError
        | some artifact => return .artifact artifact

def listTemplates (userId : Option UserId) : Procedure Answer :=
  authenticated userId fun userId => do
    let templates ← selectWhere .templates fun template : Template =>
      template.userId == userId && template.deletedAt.isNone
    match templates with
    | none => return dbError
    | some templates => return .templates (descending Template.useCount templates)

/-- `value?.trim() ?? ""`, which throws where the value has no `trim`. -/
def trimmed (value : Option Json) : Option Text :=
  match value with
  | none | some .null => some []
  | some (.str points) => some (EmailChain.trim points)
  | some _ => none

/-- A column of a row to be inserted. -/
inductive Column where
  | undefined
  | null
  | value (value : Text)

/-- `VALID.includes(value ?? otherwise) ? value : otherwise`, so a value that is not given stays
`undefined` or `null`. -/
def validOr (names : List String) (otherwise : String) (value : Option Json) : Column :=
  match value with
  | none => .undefined
  | some .null => .null
  | some value => .value ((enum names (some value)).getD (text otherwise))

/-- What is stored: the default for `undefined`, and nothing in place of `null`. -/
def Column.stored (column : Column) (default : String) : Option Text :=
  match column with
  | undefined => some (text default)
  | null => none
  | value given => some given

def Column.given : Column → Option Text
  | undefined | null => none
  | value given => some given

/-- In a template string. -/
def Column.shown : Column → Text
  | undefined => text "undefined"
  | null => text "null"
  | value given => given

def generateTemplateName (content : Text) (mode : Column) : Procedure (Option Text) := do
  let name ← request (Command.generateName (sliceTo 500 content) mode.given)
  return (name.filter fun name => !(EmailChain.trim name).isEmpty).map fun name =>
    sliceTo 60 (EmailChain.trim name)

/-- The three names, of which the first that is not empty counts. -/
def templateName (platform : Platform) (provided : Text) (generated : Option Text)
    (mode : Column) (now : Nat) : Text :=
  sliceTo 120 (if !provided.isEmpty then provided
    else generated.getD
      (mode.shown ++ text " template " ++ platform.localeDate now))

def createTemplate (platform : Platform) (userId : Option UserId) (body : Option Json) :
    Procedure Answer :=
  authenticated userId fun userId =>
    match body with
    | none => return validationError
    | some .null => return internalError
    | some body =>
      match trimmed (property "content" body) with
      | none => return internalError
      | some content =>
        if content.isEmpty then return validationError
        else do
          let mode := validOr writingModes "email" (property "mode" body)
          let tone := validOr toneOptions "Professional" (property "tone" body)
          let provided := EmailChain.trim ((string (property "name" body)).getD [])
          let generated ← if provided.isEmpty then generateTemplateName content mode else pure none
          match mode.stored "email", tone.stored "Professional" with
          | some storedMode, some storedTone =>
            let template ← insertRow .templates userId fun id now =>
              ⟨id, userId, templateName platform provided generated mode now,
                sliceTo 10000 content, storedMode, storedTone, 0,
                JobStream.orElse (property "metadata" body) (.obj []), now, now, none⟩
            match template with
            | none => return dbError
            | some template => return .templateCreated template
          -- the columns are `NOT NULL`
          | _, _ => return dbError

/-- These statements do not ask whether the template has been deleted. -/
def ownTemplate (userId : UserId) (templateId : Uuid) (template : Template) : Bool :=
  template.id == templateId && template.userId == userId

def renameTemplate (userId : Option UserId) (id : String) (body : Option Json) :
    Procedure Answer :=
  authenticated userId fun userId => withUuid id fun templateId =>
    match body with
    | none => return validationError
    | some .null => return internalError
    | some body =>
      match trimmed (property "name" body) with
      | none => return internalError
      | some name =>
        if name.isEmpty then return validationError
        else do
          let template ← updateWhere .templates (ownTemplate userId templateId)
            fun now template => { template with name := sliceTo 120 name, updatedAt := now }
          return (single template).answer .template

def deleteTemplate (userId : Option UserId) (id : String) : Procedure Answer :=
  authenticated userId fun userId => withUuid id fun templateId => do
    let count ← deleteWhere .templates (ownTemplate userId templateId)
    match count with
    | none => return dbError
    | some 0 => return notFound
    | some _ => return .ok

def useTemplate (userId : Option UserId) (id : String) : Procedure Answer :=
  authenticated userId fun userId => withUuid id fun templateId => do
    let existing ← selectWhere .templates (ownTemplate userId templateId)
    match single existing with
    | .pgrst116 => return notFound
    | .failed => return dbError
    | .row existing =>
      let nextUseCount := max 0 (existing.useCount + 1)
      let template ← updateWhere .templates (ownTemplate userId templateId)
        fun now template => { template with useCount := nextUseCount, updatedAt := now }
      match single template with
      | .row template => return .template template
      | _ => return dbError

def uiPreferenceNames : List String :=
  ["sidebarOpen", "analyticsOpen", "coachBarEnabled", "splitViewDefault", "focusModeEnabled",
    "grammarScanEnabled"]

/-- `.strict()`: no other members. -/
def uiPreferencesSchema : Option Json → Option Json
  | some (.obj members) =>
    if members.all fun entry => (uiPreferenceNames.map text).contains entry.1 &&
        (boolean (some entry.2)).isSome
    then some (.obj members) else none
  | _ => none

def Platform.intensity (platform : Platform) (value : Option Json) : Option Json :=
  let number := match value with
    | some (.int number) => some number
    | some (.float literal) => platform.number literal
    | _ => none
  (number.filter fun number => 1 ≤ number ∧ number ≤ 5).map .int

def chipsSchema : Option Json → Option Json
  | some (.arr chips) =>
    if chips.length ≤ 10 ∧ chips.all fun chip =>
        ((string (some chip)).bind (length 0 200)).isSome
    then some (.arr chips) else none
  | _ => none

/-- The members that a body may have, with their checks. -/
def Platform.preferenceSchemas (platform : Platform) :
    List (String × (Option Json → Option Json)) :=
  [("preferredTone", fun value => (enum toneOptions value).map .str),
    ("preferredMode", fun value => (enum writingModes value).map .str),
    ("preferredIntensity", platform.intensity),
    ("preferredOutputLang", fun value => (string value >>= length 0 20).map .str),
    ("favouriteChips", chipsSchema),
    ("uiPreferences", uiPreferencesSchema)]

/-- What is kept of a body: the known members, if each that is given is in order. -/
def Platform.preferencesSchema (platform : Platform) (body : Json) : Option Json :=
  if isObject body then do
    let members ← platform.preferenceSchemas.mapM fun entry =>
      (Schema.optional entry.2 (property entry.1 body)).map fun value =>
        value.map fun value => (text entry.1, value)
    return .obj (members.filterMap id)
  else none

def defaultPreferences : Json :=
  .obj [(text "preferredTone", .str (text "Professional")),
    (text "preferredMode", .str (text "email")), (text "preferredIntensity", .int 1),
    (text "preferredOutputLang", .str (text "en")), (text "favouriteChips", .arr []),
    (text "uiPreferences", .obj [(text "sidebarOpen", .bool true),
      (text "analyticsOpen", .bool false), (text "coachBarEnabled", .bool true),
      (text "splitViewDefault", .bool false)])]

/-- `preferences && Object.keys(preferences).length > 0` -/
def hasKeys : Json → Bool
  | .obj members => !members.isEmpty
  | .arr items => !items.isEmpty
  | .str points => !points.isEmpty
  | _ => false

def getPreferences (userId : Option UserId) : Procedure Answer :=
  authenticated userId fun userId => do
    let settings ← selectWhere .userSettings fun settings : UserSettings =>
      settings.userId == userId
    match settings with
    | some [] => return .preferences defaultPreferences
    | some [settings] =>
      return .preferences
        (if hasKeys settings.preferences then settings.preferences else defaultPreferences)
    | _ => return dbError

def putPreferences (platform : Platform) (userId : Option UserId) (body : Option Json) :
    Procedure Answer :=
  authenticated userId fun userId =>
    match body with
    | none => return .refused (createApiError .invalidBody 400)
    | some body =>
      match platform.preferencesSchema body with
      | none => return validationError
      | some preferences => do
        let stored ← request (Command.upsertSettings userId preferences)
        match stored with
        | none => return dbError
        | some _ => return .ok

inductive Request where
  | createChat (body : Option Json)
  | listChats (page limit : Option Text)
  | getChat (id : String)
  | deleteChat (id : String)
  | renameChat (id : String) (body : Option Json)
  | listMessages (id : String) (includeCompare : Bool)
  | listProjects
  | createProject (body : Option Json)
  | getProject (id : String)
  | updateProject (id : String) (body : Option Json)
  | deleteProject (id : String)
  | listArtifacts (id : String)
  | createArtifact (id : String) (body : Option Json)
  | listTemplates
  | createTemplate (body : Option Json)
  | renameTemplate (id : String) (body : Option Json)
  | deleteTemplate (id : String)
  | useTemplate (id : String)
  | getPreferences
  | putPreferences (body : Option Json)

def handle (platform : Platform) (userId : Option UserId) : Request → Procedure Answer
  | .createChat body => createChat userId body
  | .listChats page limit => listChats platform userId page limit
  | .getChat id => getChat userId id
  | .deleteChat id => deleteChat userId id
  | .renameChat id body => renameChat userId id body
  | .listMessages id includeCompare => listMessages userId id includeCompare
  | .listProjects => listProjects userId
  | .createProject body => createProject userId body
  | .getProject id => getProject userId id
  | .updateProject id body => updateProject userId id body
  | .deleteProject id => deleteProject userId id
  | .listArtifacts id => listArtifacts userId id
  | .createArtifact id body => createArtifact userId id body
  | .listTemplates => listTemplates userId
  | .createTemplate body => createTemplate platform userId body
  | .renameTemplate id body => renameTemplate userId id body
  | .deleteTemplate id => deleteTemplate userId id
  | .useTemplate id => useTemplate userId id
  | .getPreferences => getPreferences userId
  | .putPreferences body => putPreferences platform userId body

/-- Who asks (nobody, where the session is not valid), and for what. -/
structure Call where
  userId : Option UserId
  request : Request

/-- The database draws ids that do not collide. -/
structure Site where
  platform : Platform
  draw : UserId → Nat → Uuid
  fresh : ∀ user count other count', draw user count = draw other count' →
    user = other ∧ count = count'

def Site.system (site : Site) : System Command Reply where
  World := World
  Outcome := Outcome
  Event := Event
  Call := Call
  Result _ := Answer
  exec := exec site.draw
  environment := occur
  program call := handle site.platform call.userId call.request

end BrainMate.WriteRight.Workspace
