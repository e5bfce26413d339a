import BrainMate.Interleaving.System
import BrainMate.Storage.Ownership
import BrainMate.Text.Json

/-! The tables in which WriteRight keeps what its users write, and the statements that its routes
make of them. Every statement is one step; statements of several requests come in any order. -/

namespace BrainMate.WriteRight.Workspace

open Storage

/-- A string, as its code points. -/
abbrev Text := List Nat

abbrev UserId := String

abbrev Uuid := String

structure Chat where
  id : Uuid
  userId : UserId
  title : Text
  mode : Text
  metadata : Text.Json
  createdAt : Nat
  updatedAt : Nat
  deletedAt : Option Nat

structure Message where
  id : Uuid
  chatId : Uuid
  userId : UserId
  role : Text
  content : Text
  metadata : Text.Json
  createdAt : Nat
  deletedAt : Option Nat

structure AiJob where
  id : Uuid
  userId : UserId
  output : Text.Json

structure Project where
  id : Uuid
  userId : UserId
  name : Text
  description : Option Text
  icon : Text
  status : Text
  createdAt : Nat
  updatedAt : Nat
  deletedAt : Option Nat

structure Artifact where
  id : Uuid
  projectId : Uuid
  userId : UserId
  title : Text
  content : Text
  type : Text
  metadata : Text.Json
  createdAt : Nat
  updatedAt : Nat
  deletedAt : Option Nat

structure Template where
  id : Uuid
  userId : UserId
  name : Text
  content : Text
  mode : Text
  tone : Text
  useCount : Int
  metadata : Text.Json
  createdAt : Nat
  updatedAt : Nat
  deletedAt : Option Nat

structure UserSettings where
  userId : UserId
  preferences : Text.Json
  updatedAt : Nat

inductive Relation where
  | chats
  | messages
  | aiJobs
  | projects
  | artifacts
  | templates
  | userSettings
  deriving DecidableEq, Repr

namespace Relation

abbrev Row : Relation → Type
  | chats => Chat
  | messages => Message
  | aiJobs => AiJob
  | projects => Project
  | artifacts => Artifact
  | templates => Template
  | userSettings => UserSettings

def owner : (relation : Relation) → relation.Row → UserId
  | chats => Chat.userId
  | messages => Message.userId
  | aiJobs => AiJob.userId
  | projects => Project.userId
  | artifacts => Artifact.userId
  | templates => Template.userId
  | userSettings => UserSettings.userId

end Relation

inductive Command where
  | select (relation : Relation) (condition : relation.Row → Bool)
  /-- A selection of chats with `writeright_messages(count)`. -/
  | selectChats (condition : Chat → Bool)
  /-- The row is made of the id that the database draws and of `now()`. -/
  | insert (relation : Relation) (userId : UserId) (row : Uuid → Nat → relation.Row)
  /-- The assignment is made at `now()`. -/
  | update (relation : Relation) (condition : relation.Row → Bool)
      (assign : Nat → relation.Row → relation.Row)
  | delete (relation : Relation) (condition : relation.Row → Bool)
  | upsertSettings (userId : UserId) (preferences : Text.Json)
  /-- `POST /generate-name` of the worker. -/
  | generateName (content : Text) (mode : Option Text)

/-- What a statement answers; `none` is an error. -/
abbrev Reply : Command → Type
  | .select relation _ => Option (List relation.Row)
  | .selectChats _ => Option (List (Chat × Nat))
  | .insert relation _ _ => Option relation.Row
  | .update relation _ _ => Option (List relation.Row)
  | .delete _ _ => Option Nat
  | .upsertSettings _ _ => Option Unit
  | .generateName _ _ => Option Text

structure World where
  clock : Nat
  rows : (relation : Relation) → List relation.Row
  /-- How many ids have been drawn for the rows of a user. -/
  drawn : UserId → Nat

def World.put (world : World) (relation : Relation) (rows : List relation.Row) : World :=
  { world with rows := Function.update world.rows relation rows }

@[simp] theorem rows_put_self (world : World) (relation : Relation) (rows : List relation.Row) :
    (world.put relation rows).rows relation = rows := Function.update_self ..

@[simp] theorem rows_put_other {relation other : Relation} (world : World)
    (rows : List relation.Row) (apart : other ≠ relation) :
    (world.put relation rows).rows other = world.rows other := Function.update_of_ne apart ..

def World.countMessages (world : World) (chat : Chat) : Nat :=
  (world.rows .messages).countP fun message => message.chatId == chat.id

/-- The statement is carried out and answered, is refused, or is carried out while the answer is
lost; `name` is what the worker would answer. -/
inductive Outcome where
  | success (name : Option Text)
  | refused
  | lost

/-- What else happens: time passes, a message arrives by another route, a job is written, or the
worker gives the chat of a user's job its title. -/
inductive Event where
  | tick
  | message (message : Message)
  | aiJob (job : AiJob)
  | title (chatId : Uuid) (userId : UserId) (title : Text)

def UserSettings.conflicts (settings other : UserSettings) : Bool := other.userId == settings.userId

def UserSettings.replace (settings other : UserSettings) : UserSettings :=
  { other with preferences := settings.preferences, updatedAt := settings.updatedAt }

/-- `INSERT ... ON CONFLICT (user_id) DO UPDATE` -/
def upsertRows (settings : UserSettings) (rows : List UserSettings) : List UserSettings :=
  if rows.any settings.conflicts then updateRows settings.conflicts settings.replace rows
  else rows ++ [settings]

section Exec

-- `gen_random_uuid()`: the id that is drawn for the next row of a user
variable (draw : UserId → Nat → Uuid)

def change (command : Command) (world : World) : Reply command × World :=
  match command with
  | .select relation condition => (some ((world.rows relation).filter condition), world)
  | .selectChats condition =>
    (some (((world.rows .chats).filter condition).map fun chat => (chat, world.countMessages chat)),
      world)
  | .insert relation userId row =>
    let row := row (draw userId (world.drawn userId)) world.clock
    (some row,
      { world.put relation (world.rows relation ++ [row]) with
        drawn := Function.update world.drawn userId (world.drawn userId + 1) })
  | .update relation condition assign =>
    (some (((world.rows relation).filter condition).map (assign world.clock)),
      world.put relation (updateRows condition (assign world.clock) (world.rows relation)))
  | .delete relation condition =>
    (some ((world.rows relation).countP condition),
      world.put relation (deleteRows condition (world.rows relation)))
  | .upsertSettings userId preferences =>
    (some (), world.put .userSettings
      (upsertRows ⟨userId, preferences, world.clock⟩ (world.rows .userSettings)))
  | .generateName _ _ => (none, world)

def failure : (command : Command) → Reply command
  | .select _ _ | .selectChats _ | .insert _ _ _ | .update _ _ _ | .delete _ _
  | .upsertSettings _ _ | .generateName _ _ => none

def exec (outcome : Outcome) (command : Command) (world : World) : Reply command × World :=
  match outcome, command with
  | .success name, .generateName _ _ => (name, world)
  | .success _, command => change draw command world
  | .refused, command => (failure command, world)
  | .lost, command => (failure command, (change draw command world).2)

theorem exec_world (outcome : Outcome) (command : Command) :
    (∀ world, (exec draw outcome command world).2 = world) ∨
      ∀ world, (exec draw outcome command world).2 = (change draw command world).2 := by
  cases outcome with
  | refused => exact .inl fun _ => rfl
  | lost => exact .inr fun _ => rfl
  | success name =>
    cases command with
    | generateName content mode => exact .inl fun _ => rfl
    | _ => exact .inr fun _ => rfl

def holdsMessage (message : Message) (chat : Chat) : Bool :=
  chat.id == message.chatId && chat.userId == message.userId

def ownChat (chatId : Uuid) (userId : UserId) (chat : Chat) : Bool :=
  chat.id == chatId && chat.userId == userId

/-- What `_update_chat_title_sync` makes of a chat. -/
def titled (title : Text) (now : Nat) (chat : Chat) : Chat := { chat with title, updatedAt := now }

/-- A message is only stored in a chat of its user, which POST /message looks for first; it has the
job of a message done in that chat. -/
def occur (event : Event) (world : World) : World :=
  match event with
  | .tick => { world with clock := world.clock + 1 }
  | .message message =>
    if (world.rows .chats).any (holdsMessage message) then
      world.put .messages (world.rows .messages ++ [message])
    else world
  | .aiJob job =>
    world.put .aiJobs (job :: (world.rows .aiJobs).filter fun other =>
      !(other.id == job.id && other.userId == job.userId))
  | .title chatId userId title =>
    -- by id alone, whether the chat has been deleted or not
    if (world.rows .chats).any (ownChat chatId userId) then
      world.put .chats (updateRows (fun chat => chat.id == chatId) (titled title world.clock)
        (world.rows .chats))
    else world

end Exec

end BrainMate.WriteRight.Workspace
