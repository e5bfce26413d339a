import BrainMate.WriteRight.WorkspaceRoutes

namespace BrainMate.WriteRight.Workspace

open Interleaving Storage

open Program (Every request)

open BrainMate.Text (Json)

/-- The chats and projects, whose rows stay when they are deleted. -/
def Relation.isSoft : Relation → Bool
  | .chats | .projects => true
  | _ => false

/-- What a statement never changes of a row: its user, and the chat or project that it is or belongs
to. -/
def identity : (relation : Relation) → relation.Row → UserId × Option Uuid
  | .chats, chat => (chat.userId, some chat.id)
  | .messages, message => (message.userId, some message.chatId)
  | .projects, project => (project.userId, some project.id)
  | relation, row => (relation.owner row, none)

def isDeleted : (relation : Relation) → relation.Row → Bool
  | .chats, chat => chat.deletedAt.isSome
  | .projects, project => project.deletedAt.isSome
  | _, _ => false

/-- A new row is its user's, and a new chat or project has the id that was drawn. -/
def Makes (user : UserId) (relation : Relation) (row : Uuid → Nat → relation.Row) : Prop :=
  ∀ id now, identity relation (row id now) = (user, if relation.isSoft then some id else none)

/-- The statement is about rows of this user only, and leaves what has been deleted as it is. -/
def Owned (user : UserId) : Command → Prop
  | .select relation condition => Within relation.owner user condition
  | .selectChats condition => Within Chat.userId user condition
  | .insert relation userId row => userId = user ∧ Makes user relation row
  | .update relation condition assign => Within relation.owner user condition ∧
      (∀ now row, identity relation (assign now row) = identity relation row) ∧
      ∀ row, condition row = true → isDeleted relation row = false
  | .delete relation condition => Within relation.owner user condition ∧ relation.isSoft = false
  | .upsertSettings userId _ => userId = user
  | .generateName _ _ => True

theorem identity_fst {relation : Relation} (row : relation.Row) :
    (identity relation row).1 = relation.owner row := by
  cases relation <;> rfl

theorem owner_of_identity {relation : Relation} {one other : relation.Row}
    (same : identity relation one = identity relation other) :
    relation.owner one = relation.owner other := by
  rw [← identity_fst, ← identity_fst, same]

theorem owner_of_makes {user : UserId} {relation : Relation} {row : Uuid → Nat → relation.Row}
    (makes : Makes user relation row) (id : Uuid) (now : Nat) :
    relation.owner (row id now) = user := by
  rw [← identity_fst, makes id now]

section Handle

variable {userId : UserId} {handler : Uuid → Procedure Answer} {id : String}
variable {relation : Relation} {condition : relation.Row → Bool}

theorem withUuid_every {property : Command → Prop} (every : ∀ uuid, (handler uuid).Every property) :
    (withUuid id handler).Every property := by
  unfold withUuid
  split
  · exact every _
  · trivial

theorem liveChat_iff {chatId : Uuid} {chat : Chat} : liveChat userId chatId chat = true ↔
    chat.id = chatId ∧ chat.userId = userId ∧ chat.deletedAt = none := by
  simp only [liveChat, Bool.and_eq_true, beq_iff_eq, Option.isNone_iff_eq_none, and_assoc]

theorem liveProject_iff {projectId : Uuid} {project : Project} :
    liveProject userId projectId project = true ↔
      project.id = projectId ∧ project.userId = userId ∧ project.deletedAt = none := by
  simp only [liveProject, Bool.and_eq_true, beq_iff_eq, Option.isNone_iff_eq_none, and_assoc]

private theorem within_liveChat {chatId : Uuid} :
    Within Chat.userId userId (liveChat userId chatId) :=
  fun _ met => (liveChat_iff.mp met).2.1

private theorem within_liveProject {projectId : Uuid} :
    Within Project.userId userId (liveProject userId projectId) :=
  fun _ met => (liveProject_iff.mp met).2.1

theorem within_ownTemplate {templateId : Uuid} :
    Within Template.userId userId (ownTemplate userId templateId) := by
  intro template met
  simp only [ownTemplate, Bool.and_eq_true, beq_iff_eq] at met
  exact met.2

/-- An update of one live chat that changes neither its id nor its user. -/
theorem updateChat_owned {chatId : Uuid} {assign : Nat → Chat → Chat}
    (keeps : ∀ now chat, identity .chats (assign now chat) = identity .chats chat) :
    Owned userId (.update .chats (liveChat userId chatId) assign) :=
  ⟨within_liveChat, keeps, fun _ met => congrArg Option.isSome (liveChat_iff.mp met).2.2⟩

theorem changeProject_owned {projectId : Uuid} {assign : Nat → Project → Project}
    (keeps : ∀ now project, identity .projects (assign now project) = identity .projects project) :
    Owned userId (.update .projects (liveProject userId projectId) assign) :=
  ⟨within_liveProject, keeps, fun _ met => congrArg Option.isSome (liveProject_iff.mp met).2.2⟩

theorem issue_every {property : Command → Prop} {command : Command}
    {next : Reply command → Procedure Answer} (has : property command)
    (rest : ∀ reply, (next reply).Every property) :
    (request command >>= next : Procedure Answer).Every property := ⟨has, rest⟩

@[simp] theorem authenticated_some (handler : UserId → Procedure Answer) :
    authenticated (some userId) handler = handler userId := rfl

private theorem createChat_owned (body : Option Json) :
    (createChat (some userId) body).Every (Owned userId) := by
  rw [createChat, authenticated_some]
  split
  · trivial
  · split
    · trivial
    · apply issue_every
      · exact ⟨rfl, fun id now => rfl⟩
      · rintro (_ | chat) <;> trivial

private theorem listChats_owned (platform : Platform) (page limit : Option Text) :
    (listChats platform (some userId) page limit).Every (Owned userId) := by
  rw [listChats, authenticated_some]
  split
  · apply issue_every
    · exact fun chat met => beq_iff_eq.mp (Bool.and_eq_true_iff.mp met).1
    · rintro (_ | chats) <;> trivial
  · trivial

private theorem getChat_owned : (getChat (some userId) id).Every (Owned userId) := by
  rw [getChat, authenticated_some]
  apply withUuid_every
  intro chatId
  apply issue_every within_liveChat
  intro reply
  trivial

private theorem deleteChat_owned : (deleteChat (some userId) id).Every (Owned userId) := by
  rw [deleteChat, authenticated_some]
  apply withUuid_every
  intro chatId
  apply issue_every
  · exact updateChat_owned fun now chat => rfl
  · rintro (_ | _ | _) <;> trivial

private theorem renameChat_owned (body : Option Json) :
    (renameChat (some userId) id body).Every (Owned userId) := by
  rw [renameChat, authenticated_some]
  apply withUuid_every
  intro chatId
  split
  · trivial
  · split
    · trivial
    · apply issue_every
      · exact updateChat_owned fun now chat => rfl
      · intro reply
        trivial

private theorem listMessages_owned (includeCompare : Bool) :
    (listMessages (some userId) id includeCompare).Every (Owned userId) := by
  rw [listMessages, authenticated_some]
  apply withUuid_every
  intro chatId
  apply issue_every within_liveChat
  intro found
  split
  · apply issue_every
    · intro message met
      simp only [Bool.and_eq_true, beq_iff_eq] at met
      exact met.1.2
    · rintro (_ | messages)
      · trivial
      · dsimp only
        split
        · apply issue_every
          · exact fun job met => beq_iff_eq.mp (Bool.and_eq_true_iff.mp met).1
          · rintro (_ | jobs) <;> trivial
        · trivial
  · trivial

private theorem listProjects_owned : (listProjects (some userId)).Every (Owned userId) := by
  rw [listProjects, authenticated_some]
  apply issue_every
  · exact fun project met => beq_iff_eq.mp (Bool.and_eq_true_iff.mp met).1
  · rintro (_ | projects) <;> trivial

private theorem createProject_owned (body : Option Json) :
    (createProject (some userId) body).Every (Owned userId) := by
  rw [createProject, authenticated_some]
  split
  · trivial
  · apply issue_every
    · exact ⟨rfl, fun id now => rfl⟩
    · rintro (_ | project) <;> trivial

private theorem getProject_owned : (getProject (some userId) id).Every (Owned userId) := by
  rw [getProject, authenticated_some]
  apply withUuid_every
  intro projectId
  apply issue_every within_liveProject
  intro reply
  trivial

private theorem updateProject_owned (body : Option Json) :
    (updateProject (some userId) id body).Every (Owned userId) := by
  rw [updateProject, authenticated_some]
  apply withUuid_every
  intro projectId
  split
  · trivial
  · split
    · trivial
    · apply issue_every
      · exact changeProject_owned fun now project => rfl
      · intro reply
        trivial

private theorem deleteProject_owned : (deleteProject (some userId) id).Every (Owned userId) := by
  rw [deleteProject, authenticated_some]
  apply withUuid_every
  intro projectId
  apply issue_every
  · exact changeProject_owned fun now project => rfl
  · rintro (_ | _ | _) <;> trivial

private theorem withProject_owned {projectId : Uuid} {next : Procedure Answer}
    (every : next.Every (Owned userId)) :
    (withProject userId projectId next).Every (Owned userId) := by
  apply issue_every within_liveProject
  intro found
  split
  · exact every
  · trivial

private theorem listArtifacts_owned : (listArtifacts (some userId) id).Every (Owned userId) := by
  rw [listArtifacts, authenticated_some]
  apply withUuid_every
  intro projectId
  apply withProject_owned
  apply issue_every
  · intro artifact met
    simp only [Bool.and_eq_true, beq_iff_eq] at met
    exact met.1.2
  · rintro (_ | artifacts) <;> trivial

private theorem createArtifact_owned (body : Option Json) :
    (createArtifact (some userId) id body).Every (Owned userId) := by
  rw [createArtifact, authenticated_some]
  apply withUuid_every
  intro projectId
  split
  · trivial
  · apply withProject_owned
    apply issue_every
    · exact ⟨rfl, fun id now => rfl⟩
    · rintro (_ | artifact) <;> trivial

private theorem listTemplates_owned : (listTemplates (some userId)).Every (Owned userId) := by
  rw [listTemplates, authenticated_some]
  apply issue_every
  · exact fun template met => beq_iff_eq.mp (Bool.and_eq_true_iff.mp met).1
  · rintro (_ | templates) <;> trivial

private theorem generateTemplateName_owned (content : Text) (mode : Column) :
    (generateTemplateName content mode).Every (Owned userId) := ⟨trivial, fun _ => trivial⟩

private theorem createTemplate_owned (platform : Platform) (body : Option Json) :
    (createTemplate platform (some userId) body).Every (Owned userId) := by
  rw [createTemplate, authenticated_some]
  split
  · trivial
  · trivial
  · split
    · trivial
    · split
      · trivial
      · extract_lets mode tone provided insert
        have inserts (generated : Option Text) : (insert generated).Every (Owned userId) := by
          dsimp only [insert]
          split
          · apply issue_every
            · exact ⟨rfl, fun id now => rfl⟩
            · rintro (_ | template) <;> trivial
          · trivial
        split
        · exact (generateTemplateName_owned _ _).bind inserts
        · exact inserts none

private theorem renameTemplate_owned (body : Option Json) :
    (renameTemplate (some userId) id body).Every (Owned userId) := by
  rw [renameTemplate, authenticated_some]
  apply withUuid_every
  intro templateId
  split
  · trivial
  · trivial
  · split
    · trivial
    · split
      · trivial
      · apply issue_every
        · exact ⟨within_ownTemplate, fun now template => rfl, fun template met => rfl⟩
        · intro reply
          trivial

private theorem deleteTemplate_owned : (deleteTemplate (some userId) id).Every (Owned userId) := by
  rw [deleteTemplate, authenticated_some]
  apply withUuid_every
  intro templateId
  apply issue_every
  · exact ⟨within_ownTemplate, rfl⟩
  · rintro (_ | _ | _) <;> trivial

private theorem useTemplate_owned : (useTemplate (some userId) id).Every (Owned userId) := by
  rw [useTemplate, authenticated_some]
  apply withUuid_every
  intro templateId
  apply issue_every within_ownTemplate
  intro existing
  split
  · trivial
  · trivial
  · apply issue_every
    · exact ⟨within_ownTemplate, fun now template => rfl, fun template met => rfl⟩
    · intro reply
      split <;> trivial

private theorem getPreferences_owned : (getPreferences (some userId)).Every (Owned userId) := by
  rw [getPreferences, authenticated_some]
  apply issue_every
  · exact fun settings met => beq_iff_eq.mp met
  · rintro (_ | _ | ⟨_, _ | _⟩) <;> trivial

private theorem putPreferences_owned (platform : Platform) (body : Option Json) :
    (putPreferences platform (some userId) body).Every (Owned userId) := by
  rw [putPreferences, authenticated_some]
  split
  · trivial
  · split
    · trivial
    · apply issue_every
      · rfl
      · rintro (_ | _) <;> trivial

theorem handle_owned (platform : Platform) (request : Request) :
    (handle platform (some userId) request).Every (Owned userId) := by
  cases request with
  | createChat body => exact createChat_owned body
  | listChats page limit => exact listChats_owned platform page limit
  | getChat id => exact getChat_owned
  | deleteChat id => exact deleteChat_owned
  | renameChat id body => exact renameChat_owned body
  | listMessages id includeCompare => exact listMessages_owned includeCompare
  | listProjects => exact listProjects_owned
  | createProject body => exact createProject_owned body
  | getProject id => exact getProject_owned
  | updateProject id body => exact updateProject_owned body
  | deleteProject id => exact deleteProject_owned
  | listArtifacts id => exact listArtifacts_owned
  | createArtifact id body => exact createArtifact_owned body
  | listTemplates => exact listTemplates_owned
  | createTemplate body => exact createTemplate_owned platform body
  | renameTemplate id body => exact renameTemplate_owned body
  | deleteTemplate id => exact deleteTemplate_owned
  | useTemplate id => exact useTemplate_owned
  | getPreferences => exact getPreferences_owned
  | putPreferences body => exact putPreferences_owned platform body

/-- Without a session nothing is read or written. -/
theorem handle_none (platform : Platform) (request : Request) :
    handle platform none request = .done unauthorized := by
  cases request <;> rfl

end Handle

section Sample

def countedId (user : UserId) (count : Nat) : Uuid :=
  String.ofList (List.replicate count '0' ++ '/' :: user.toList)

private theorem countedId_inj {user other : UserId} {count count' : Nat}
    (same : countedId user count = countedId other count') : user = other ∧ count = count' := by
  have lists := String.ofList_injective same
  clear same
  induction count generalizing count' with
  | zero =>
    cases count' with
    | zero => simpa [String.toList_inj] using lists
    | succ count' => simp [List.replicate_succ] at lists
  | succ count ih =>
    cases count' with
    | zero => simp [List.replicate_succ] at lists
    | succ count' =>
      simp only [List.replicate_succ, List.cons_append, List.cons.injEq, true_and] at lists
      obtain ⟨users, counts⟩ := ih lists
      exact ⟨users, congrArg _ counts⟩

def sampleUuid : Uuid := "aaaaaaaa-aaaa-4aaa-8aaa-aaaaaaaaaaaa"

private theorem countedId_ne_sampleUuid (user : UserId) (count : Nat) :
    countedId user count ≠ sampleUuid := by
  intro same
  have lists := congrArg String.toList same
  rw [countedId, String.toList_ofList] at lists
  cases count with
  | zero => simp [sampleUuid] at lists
  | succ count => simp [sampleUuid, List.replicate_succ] at lists

/-- The first id of one user is a UUID. -/
def sampleDraw (user : UserId) (count : Nat) : Uuid :=
  if user = "alice" ∧ count = 0 then sampleUuid else countedId user count

private theorem sampleDraw_fresh (user : UserId) (count : Nat) (other : UserId) (count' : Nat)
    (same : sampleDraw user count = sampleDraw other count') : user = other ∧ count = count' := by
  unfold sampleDraw at same
  split at same
  · rename_i first
    split at same
    · rename_i second
      exact ⟨first.1.trans second.1.symm, first.2.trans second.2.symm⟩
    · exact absurd same.symm (countedId_ne_sampleUuid _ _)
  · split at same
    · exact absurd same (countedId_ne_sampleUuid _ _)
    · exact countedId_inj same

def sampleSite : Site where
  platform := ⟨fun _ => none, fun _ => []⟩
  draw := sampleDraw
  fresh := sampleDraw_fresh

def World.empty : World := ⟨0, fun _ => [], fun _ => 0⟩

end Sample

end BrainMate.WriteRight.Workspace
