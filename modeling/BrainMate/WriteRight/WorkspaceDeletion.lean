import BrainMate.Interleaving.Issuing
import BrainMate.Storage.AtRest
import BrainMate.WriteRight.WorkspaceOwnership

namespace BrainMate.WriteRight.Workspace

open Interleaving System Storage

open BrainMate.Text (Json)

def label (relation : Relation) (row : relation.Row) : Option Uuid := (identity relation row).2

section Fixed

variable (site : Site)

/-- The row has its id for itself, and the id has been drawn. -/
structure Fixed (relation : Relation) (row : relation.Row) (world : World) : Prop where
  settled : AtRest (label relation) row (world.rows relation)
  drawn : ∃ count < world.drawn (relation.owner row),
    label relation row = some (site.draw (relation.owner row) count)

def Numbered (world : World) : Prop :=
  ∀ relation : Relation, relation.isSoft = true → ∀ row ∈ world.rows relation,
    Fixed site relation row world

variable {site} {world : World} {relation : Relation} {row : relation.Row} {user : UserId}
variable {command : Command}

private theorem drawn_le_change (draw : UserId → Nat → Uuid) (user : UserId) :
    world.drawn user ≤ (change draw command world).2.drawn user := by
  cases command with
  | insert relation userId row =>
    by_cases same : user = userId
    · subst same
      simp only [change, Function.update_self]
      exact Nat.le_succ _
    · simp only [change, Function.update_of_ne same]
      exact le_refl _
  | _ => exact le_refl _

/-- The id that is drawn next is no row's. -/
theorem Fixed.fresh (fixed : Fixed site relation row world) (user : UserId) :
    some (site.draw user (world.drawn user)) ≠ label relation row := by
  obtain ⟨count, before, named⟩ := fixed.drawn
  rw [named]
  intro same
  obtain ⟨rfl, rfl⟩ := site.fresh _ _ _ _ (Option.some.inj same)
  exact lt_irrefl _ before

private theorem label_of_makes {made : Uuid → Nat → relation.Row} (makes : Makes user relation made)
    (soft : relation.isSoft = true) (id : Uuid) (now : Nat) :
    label relation (made id now) = some id := by
  rw [label, makes id now, if_pos soft]

theorem Fixed.grows {next : World} (fixed : Fixed site relation row world)
    (settled : AtRest (label relation) row (next.rows relation))
    (grows : world.drawn (relation.owner row) ≤ next.drawn (relation.owner row)) :
    Fixed site relation row next := by
  obtain ⟨count, before, named⟩ := fixed.drawn
  exact ⟨settled, count, lt_of_lt_of_le before grows, named⟩

private theorem label_of_identity {assign : Nat → relation.Row → relation.Row}
    (keeps : ∀ now row, identity relation (assign now row) = identity relation row) (now : Nat)
    (row : relation.Row) : label relation (assign now row) = label relation row := by
  rw [label, label, keeps]

/-- A row that is changed keeps its id. -/
theorem Fixed.assigned {condition : relation.Row → Bool} {assign : relation.Row → relation.Row}
    (fixed : Fixed site relation row world)
    (keeps : ∀ row, identity relation (assign row) = identity relation row) :
    Fixed site relation (if condition row then assign row else row)
      (world.put relation (updateRows condition assign (world.rows relation))) := by
  have labels (row : relation.Row) : label relation (assign row) = label relation row :=
    congrArg Prod.snd (keeps row)
  split
  · rename_i met
    refine ⟨?_, ?_⟩
    · rw [rows_put_self]
      exact fixed.settled.updated met labels
    · rw [labels, owner_of_identity (keeps row)]
      exact fixed.drawn
  · rename_i unmet
    refine ⟨?_, fixed.drawn⟩
    rw [rows_put_self]
    exact fixed.settled.updateRows (Bool.eq_false_iff.mpr unmet) labels

theorem Fixed.updated {condition : relation.Row → Bool} {assign : Nat → relation.Row → relation.Row}
    (fixed : Fixed site relation row world) (owned : Owned user (.update relation condition assign))
    (met : condition row = true) : Fixed site relation (assign world.clock row)
      (change site.draw (.update relation condition assign) world).2 := by
  have changed := @Fixed.assigned _ _ _ row condition _ fixed (owned.2.1 world.clock)
  rwa [if_pos met] at changed

/-- A row stays as it is where no statement that it meets the condition of changes it. -/
theorem Fixed.spared (fixed : Fixed site relation row world) (soft : relation.isSoft = true)
    (owned : Owned user command) (spared : ∀ condition assign,
      command = .update relation condition assign → condition row = false) :
    Fixed site relation row (change site.draw command world).2 := by
  have grows := @drawn_le_change world command site.draw (relation.owner row)
  have put {other : Relation} {rows : List other.Row}
      (settled : ∀ same : other = relation, AtRest (label relation) row (same ▸ rows)) :
      AtRest (label relation) row ((world.put other rows).rows relation) := by
    by_cases here : relation = other
    · subst here
      rw [rows_put_self]
      exact settled rfl
    · rw [rows_put_other _ _ here]
      exact fixed.settled
  cases command with
  | select other condition => exact fixed
  | selectChats condition => exact fixed
  | generateName content mode => exact fixed
  | upsertSettings userId preferences =>
    refine fixed.grows (put ?_) grows
    rintro rfl
    cases soft
  | delete other condition =>
    refine fixed.grows (put ?_) grows
    rintro rfl
    exact absurd soft (by rw [owned.2]; decide)
  | insert other userId made =>
    refine fixed.grows (put ?_) grows
    rintro rfl
    refine fixed.settled.append ?_
    rw [label_of_makes owned.2 soft]
    exact fixed.fresh userId
  | update other condition assign =>
    refine fixed.grows (put ?_) grows
    rintro rfl
    exact fixed.settled.updateRows (spared condition assign rfl) (label_of_identity owned.2.1 _)

/-- The row is another only in the title of a chat, and in the time that comes with it. -/
def SameButTitle : (relation : Relation) → relation.Row → relation.Row → Prop
  | .chats, chat, other => other = titled other.title other.updatedAt chat
  | _, row, other => other = row

theorem SameButTitle.refl (relation : Relation) (row : relation.Row) :
    SameButTitle relation row row := by
  cases relation <;> rfl

theorem SameButTitle.trans {one other : relation.Row} (first : SameButTitle relation row one)
    (second : SameButTitle relation one other) : SameButTitle relation row other := by
  cases relation with
  | chats =>
    rw [SameButTitle] at first second ⊢
    rw [second, first]
    rfl
  | messages | aiJobs | projects | artifacts | templates | userSettings => exact second.trans first

theorem SameButTitle.identity {other : relation.Row} (same : SameButTitle relation row other) :
    identity relation other = identity relation row := by
  cases relation with
  | chats =>
    rw [SameButTitle] at same
    rw [same]
    rfl
  | messages | aiJobs | projects | artifacts | templates | userSettings =>
    rw [show other = row from same]

theorem SameButTitle.isDeleted {other : relation.Row} (same : SameButTitle relation row other) :
    isDeleted relation other = isDeleted relation row := by
  cases relation with
  | chats =>
    rw [SameButTitle] at same
    rw [same]
    rfl
  | messages | aiJobs | projects | artifacts | templates | userSettings =>
    rw [show other = row from same]

/-- A chat may be given another title. -/
theorem Fixed.occur (fixed : Fixed site relation row world) (soft : relation.isSoft = true)
    (event : Event) : ∃ current, SameButTitle relation row current ∧
      Fixed site relation current (occur event world) := by
  have still (fixed : Fixed site relation row (Workspace.occur event world)) :
      ∃ current, SameButTitle relation row current ∧
        Fixed site relation current (Workspace.occur event world) :=
    ⟨row, .refl relation row, fixed⟩
  have other {third : Relation} {rows : List third.Row} (hard : third.isSoft = false) :
      Fixed site relation row (world.put third rows) := by
    refine fixed.grows ?_ (le_refl _)
    rw [rows_put_other]
    · exact fixed.settled
    · rintro rfl
      rw [soft] at hard
      cases hard
  cases event with
  | tick => exact still ⟨fixed.settled, fixed.drawn⟩
  | aiJob job => exact still (other rfl)
  | message message =>
    refine still ?_
    simp only [Workspace.occur]
    split
    · exact other rfl
    · exact fixed
  | title chatId userId title =>
    simp only [Workspace.occur]
    split
    · by_cases here : relation = .chats
      · subst here
        refine ⟨_, ?_, fixed.assigned fun chat => rfl⟩
        split
        · rfl
        · exact .refl .chats row
      · refine ⟨row, .refl relation row, fixed.grows ?_ (le_refl _)⟩
        rw [rows_put_other _ _ here]
        exact fixed.settled
    · exact ⟨row, .refl relation row, fixed⟩

theorem Numbered.change (numbered : Numbered site world) (owned : Owned user command) :
    Numbered site (change site.draw command world).2 := by
  intro relation soft row member
  -- a row that was there before and is not changed now
  have still (there : row ∈ world.rows relation) (spared : ∀ condition assign,
      command = .update relation condition assign → condition row = false) :=
    (numbered relation soft row there).spared soft owned spared
  cases command with
  | select | selectChats | generateName => exact numbered relation soft row member
  | upsertSettings userId preferences =>
    refine still ?_ fun _ _ same => by cases same
    rwa [Workspace.change, rows_put_other] at member
    rintro rfl
    cases soft
  | delete other condition =>
    refine still ?_ fun _ _ same => by cases same
    rwa [Workspace.change, rows_put_other] at member
    rintro rfl
    exact absurd soft (by rw [owned.2]; decide)
  | insert other userId made =>
    by_cases here : relation = other
    · subst here
      simp only [Workspace.change, rows_put_self] at member
      obtain before | new := List.mem_append.mp member
      · exact still before fun _ _ same => by cases same
      · obtain rfl := List.mem_singleton.mp new
        have named := label_of_makes owned.2 soft (site.draw userId (world.drawn userId)) world.clock
        refine ⟨⟨?_, fun other there same => ?_⟩, world.drawn userId, ?_, ?_⟩
        · simp only [Workspace.change, rows_put_self]
          exact member
        · simp only [Workspace.change, rows_put_self] at there
          obtain before | here := List.mem_append.mp there
          · rw [named] at same
            exact absurd same.symm ((numbered relation soft other before).fresh userId)
          · exact List.mem_singleton.mp here
        · rw [owner_of_makes owned.2, owned.1]
          simp only [Workspace.change, Function.update_self]
          exact Nat.lt_succ_self _
        · rw [named, owner_of_makes owned.2, owned.1]
    · refine still ?_ fun _ _ same => by cases same
      simpa only [Workspace.change, rows_put_other _ _ here] using member
  | update other condition assign =>
    by_cases here : relation = other
    · subst here
      simp only [Workspace.change, rows_put_self] at member
      obtain ⟨before, there, rfl⟩ := List.mem_map.mp member
      have fixed := numbered relation soft before there
      split
      · rename_i met
        exact fixed.updated owned met
      · rename_i unmet
        refine fixed.spared soft owned fun _ _ same => ?_
        cases same
        exact Bool.eq_false_iff.mpr unmet
    · refine still ?_ fun _ _ same => ?_
      · simpa only [Workspace.change, rows_put_other _ _ here] using member
      · cases same
        exact absurd rfl here

theorem Numbered.occur (numbered : Numbered site world) (event : Event) :
    Numbered site (occur event world) := by
  intro relation soft row member
  have still {rows : List relation.Row} (same : rows = world.rows relation)
      (there : row ∈ rows) : Fixed site relation row world :=
    numbered relation soft row (same ▸ there)
  have moved {other : Relation} {rows : List other.Row} (apart : relation ≠ other)
      (there : row ∈ (world.put other rows).rows relation) :
      Fixed site relation row (world.put other rows) := by
    have same := rows_put_other world rows apart
    refine (still same there).grows ?_ (le_refl _)
    rw [same]
    exact (still same there).settled
  cases event with
  | tick => exact ⟨(still rfl member).settled, (still rfl member).drawn⟩
  | aiJob job => exact moved (by rintro rfl; cases soft) member
  | message message =>
    simp only [Workspace.occur] at member ⊢
    split at member
    · rename_i found
      rw [if_pos found]
      exact moved (by rintro rfl; cases soft) member
    · rename_i missing
      rw [if_neg missing]
      exact still rfl member
  | title chatId userId title =>
    simp only [Workspace.occur] at member ⊢
    split at member
    · rename_i found
      rw [if_pos found]
      by_cases here : relation = .chats
      · subst here
        rw [rows_put_self] at member
        obtain ⟨before, there, rfl⟩ := List.mem_map.mp member
        have keeps (chat : Chat) : identity .chats (titled title world.clock chat) =
            identity .chats chat := rfl
        exact @Fixed.assigned _ _ .chats before (fun chat => chat.id == chatId) _
          (numbered .chats soft before there) keeps
      · exact moved here member
    · rename_i missing
      rw [if_neg missing]
      exact still rfl member

theorem Numbered.exec (numbered : Numbered site world) (owned : Owned user command)
    (outcome : Outcome) : Numbered site (exec site.draw outcome command world).2 := by
  obtain still | moves := exec_world site.draw outcome command
  · rwa [still]
  · rw [moves]
    exact numbered.change owned

end Fixed

section Retired

variable (site : Site)

structure Retired (relation : Relation) (row : relation.Row) (world : World) : Prop where
  fixed : Fixed site relation row world
  soft : relation.isSoft = true
  deleted : isDeleted relation row = true

/-- What replies can say while the chat or project is deleted: a row of that id is the deleted one. -/
def Told (relation : Relation) (uuid : Uuid) : (command : Command) → Reply command → Prop
  | .select other condition, reply => ∀ rows, reply = some rows → ∀ row ∈ rows,
      condition row = true ∧
        (other = relation → label other row = some uuid → isDeleted other row = true)
  | .selectChats condition, reply => ∀ rows, reply = some rows → ∀ entry ∈ rows,
      condition entry.1 = true ∧
        (.chats = relation → entry.1.id = uuid → entry.1.deletedAt.isSome = true)
  | .insert _ _ made, reply => ∀ row, reply = some row →
      ∃ id now, row = made id now ∧ id ≠ uuid
  | .update other condition assign, reply => ∀ rows, reply = some rows → ∀ row ∈ rows,
      ∃ now before, row = assign now before ∧ condition before = true ∧
        (other = relation → label other before = some uuid → isDeleted other before = true)
  | .delete _ _, _ | .upsertSettings _ _, _ | .generateName _ _, _ => True

variable {site} {world : World} {relation : Relation} {row : relation.Row} {user : UserId}
variable {command : Command} {uuid : Uuid}

theorem Retired.exec (retired : Retired site relation row world) (owned : Owned user command)
    (outcome : Outcome) : Retired site relation row (exec site.draw outcome command world).2 := by
  obtain still | moves := exec_world site.draw outcome command
  · rwa [still]
  · rw [moves]
    refine ⟨retired.fixed.spared retired.soft owned ?_, retired.soft, retired.deleted⟩
    rintro condition assign rfl
    rw [Bool.eq_false_iff]
    intro met
    have live := owned.2.2 row met
    rw [retired.deleted] at live
    cases live

theorem Retired.of_label (retired : Retired site relation row world)
    (named : label relation row = some uuid) {other : Relation} {found : other.Row}
    (member : found ∈ world.rows other) (same : other = relation)
    (asked : label other found = some uuid) : isDeleted other found = true := by
  subst same
  rw [retired.fixed.settled.only found member (asked.trans named.symm)]
  exact retired.deleted

theorem Retired.told_change (retired : Retired site relation row world)
    (named : label relation row = some uuid) :
    Told relation uuid command (change site.draw command world).1 := by
  cases command with
  | select =>
    rintro rows same found member
    cases Option.some.inj same
    obtain ⟨there, met⟩ := List.mem_filter.mp member
    exact ⟨met, retired.of_label named there⟩
  | selectChats condition =>
    rintro rows same entry member
    cases Option.some.inj same
    obtain ⟨chat, there, rfl⟩ := List.mem_map.mp member
    obtain ⟨there, met⟩ := List.mem_filter.mp there
    exact ⟨met, fun here asked => retired.of_label named there here (congrArg some asked)⟩
  | insert other userId made =>
    rintro found same
    refine ⟨_, _, (Option.some.inj same).symm, fun drawn => ?_⟩
    exact retired.fixed.fresh userId (by rw [named, drawn])
  | update other condition assign =>
    rintro rows same found member
    cases Option.some.inj same
    obtain ⟨before, there, rfl⟩ := List.mem_map.mp member
    obtain ⟨there, met⟩ := List.mem_filter.mp there
    exact ⟨_, before, rfl, met, retired.of_label named there⟩
  | delete | upsertSettings | generateName => trivial

private theorem told_failure : Told relation uuid command (failure command) := by
  cases command with
  | select | selectChats | update => exact fun rows failed => by cases failed
  | insert => exact fun row failed => by cases failed
  | delete | upsertSettings | generateName => trivial

theorem Retired.told (retired : Retired site relation row world)
    (named : label relation row = some uuid) (outcome : Outcome) :
    Told relation uuid command (Workspace.exec site.draw outcome command world).1 := by
  cases outcome with
  | refused | lost => exact told_failure
  | success name =>
    cases command with
    | generateName content mode => trivial
    | _ => exact retired.told_change named

end Retired

/-- The answer shows the chat or project, or something in it. -/
def Shows (relation : Relation) (uuid : Uuid) : Answer → Prop
  | .chatCreated own | .chat own _ | .chatRenamed own => relation = .chats ∧ own.id = uuid
  | .chats chats _ _ => relation = .chats ∧ ∃ entry ∈ chats, entry.1.id = uuid
  | .messages views => relation = .chats ∧ ∃ view ∈ views, view.message.chatId = uuid
  | .projects projects => relation = .projects ∧ ∃ project ∈ projects, project.id = uuid
  | .project own => relation = .projects ∧ own.id = uuid
  | .artifacts artifacts => relation = .projects ∧ ∃ artifact ∈ artifacts, artifact.projectId = uuid
  | .artifact own => relation = .projects ∧ own.projectId = uuid
  | .refused _ | .ok | .templates _ | .template _ | .templateCreated _ | .preferences _ => False

def Answer.isRefused : Answer → Bool
  | .refused _ => true
  | _ => false

/-- The chat or project that a request is about. A PATCH without any change is about none. -/
def Request.about : Request → Option (Relation × String)
  | .getChat id | .deleteChat id | .renameChat id _ | .listMessages id _ => some (.chats, id)
  | .getProject id | .deleteProject id | .listArtifacts id | .createArtifact id _ =>
    some (.projects, id)
  | .updateProject id body =>
    if (projectUpdateSchema (bodyOrEmpty body)).any UpdateProject.isEmpty then none
    else some (.projects, id)
  | _ => none

/-- The answer shows nothing of it, and is an error where the request is about it. -/
def Hides (relation : Relation) (uuid : Uuid) (about : Option (Relation × String))
    (answer : Answer) : Prop :=
  ¬ Shows relation uuid answer ∧
    ∀ id, about = some (relation, id) → id.toLower = uuid → answer.isRefused = true

section Answers

variable {relation : Relation} {uuid : Uuid} {about : Option (Relation × String)}
variable {userId : UserId} {id : String}

theorem hides_refused (error : ApiError) : Hides relation uuid about (.refused error) :=
  ⟨fun shows => shows, fun _ _ _ => rfl⟩

theorem given_issue {fact : (command : Command) → Reply command → Prop} {ends : Answer → Prop}
    {command : Command} {next : Reply command → Procedure Answer}
    (rest : ∀ reply, fact command reply → (next reply).EndsGiven fact ends) :
    (Program.request command >>= next : Procedure Answer).EndsGiven fact ends := ⟨trivial, rest⟩

theorem given_withUuid {fact : (command : Command) → Reply command → Prop}
    {handler : Uuid → Procedure Answer}
    (given : (handler id.toLower).EndsGiven fact (Hides relation uuid about)) :
    (withUuid id handler).EndsGiven fact (Hides relation uuid about) := by
  unfold withUuid
  split
  · exact given
  · exact hides_refused _

private theorem single_row {Row : Type} {reply : Option (List Row)} {row : Row}
    (found : single reply = .row row) : ∃ rows, reply = some rows ∧ row ∈ rows := by
  unfold single at found
  split at found
  · cases found
    exact ⟨_, rfl, List.mem_singleton_self _⟩
  · cases found
  · cases found

/-- A row that is shown is one of those found. -/
theorem hides_single {Row : Type} {reply : Option (List Row)} {shown : Row → Answer}
    (hides : ∀ rows, reply = some rows → ∀ row ∈ rows, Hides relation uuid about (shown row)) :
    Hides relation uuid about ((single reply).answer shown) := by
  unfold single
  split
  · exact hides _ rfl _ (List.mem_singleton_self _)
  · exact hides_refused _
  · exact hides_refused _

/-- What is found alive is not what has been deleted. -/
theorem chat_apart {chatId : Uuid} {chat : Chat} (met : liveChat userId chatId chat = true)
    (deleted : .chats = relation → chat.id = uuid → chat.deletedAt.isSome = true)
    (here : relation = .chats) : chatId ≠ uuid := by
  obtain ⟨named, -, live⟩ := liveChat_iff.mp met
  rintro rfl
  have gone := deleted here.symm named
  rw [live] at gone
  cases gone

theorem project_apart {projectId : Uuid} {project : Project}
    (met : liveProject userId projectId project = true)
    (deleted : .projects = relation → label .projects project = some uuid →
      isDeleted .projects project = true)
    (here : relation = .projects) : projectId ≠ uuid := by
  obtain ⟨named, -, live⟩ := liveProject_iff.mp met
  rintro rfl
  have gone := deleted here.symm (congrArg some named)
  rw [isDeleted, live] at gone
  cases gone

/-- An answer that is given about another chat or project. -/
theorem hides_apart {asked : Relation} {answer : Answer}
    (apart : relation = asked → id.toLower ≠ uuid)
    (shows : Shows relation uuid answer → relation = asked ∧ id.toLower = uuid) :
    Hides relation uuid (some (asked, id)) answer := by
  refine ⟨fun shown => apart (shows shown).1 (shows shown).2, fun other same here => ?_⟩
  cases same
  exact absurd here (apart rfl)

/-- Nothing of a chat or project is in the answer. -/
theorem hides_none {answer : Answer} (shows : ¬ Shows relation uuid answer) :
    Hides relation uuid none answer := ⟨shows, fun _ same => by cases same⟩

private theorem createChat_hides (body : Option Json) : (createChat (some userId) body).EndsGiven
    (Told relation uuid) (Hides relation uuid none) := by
  rw [createChat, authenticated_some]
  split
  · exact hides_refused _
  · split
    · exact hides_refused _
    · apply given_issue
      rintro (_ | chat) told
      · exact hides_refused _
      · obtain ⟨drawn, now, rfl, apart⟩ := told chat rfl
        exact hides_none fun shows => apart shows.2

private theorem listChats_hides (platform : Platform) (page limit : Option Text) :
    (listChats platform (some userId) page limit).EndsGiven (Told relation uuid)
      (Hides relation uuid none) := by
  rw [listChats, authenticated_some]
  split
  · apply given_issue
    rintro (_ | chats) told
    · exact hides_refused _
    · refine hides_none ?_
      rintro ⟨rfl, entry, shown, here⟩
      have member := List.mem_mergeSort.mp (List.mem_of_mem_drop (List.mem_of_mem_take shown))
      obtain ⟨met, deleted⟩ := told chats rfl entry member
      have live := (Bool.and_eq_true_iff.mp met).2
      rw [Option.isNone_iff_eq_none] at live
      have gone := deleted rfl here
      rw [live] at gone
      cases gone
  · exact hides_refused _

private theorem getChat_hides : (getChat (some userId) id).EndsGiven (Told relation uuid)
    (Hides relation uuid (some (.chats, id))) := by
  rw [getChat, authenticated_some]
  apply given_withUuid
  apply given_issue
  intro reply told
  refine hides_single fun rows same entry member => ?_
  obtain ⟨met, deleted⟩ := told rows same entry member
  refine hides_apart (chat_apart met deleted) fun shows => ⟨shows.1, ?_⟩
  exact (liveChat_iff.mp met).1.symm.trans shows.2

private theorem renameChat_hides (body : Option Json) : (renameChat (some userId) id body).EndsGiven
    (Told relation uuid) (Hides relation uuid (some (.chats, id))) := by
  rw [renameChat, authenticated_some]
  apply given_withUuid
  split
  · exact hides_refused _
  · split
    · exact hides_refused _
    · apply given_issue
      intro reply told
      refine hides_single fun rows same chat member => ?_
      obtain ⟨now, before, rfl, met, deleted⟩ := told rows same chat member
      refine hides_apart (chat_apart met fun here asked => ?_) fun shows => ⟨shows.1, ?_⟩
      · exact deleted here (congrArg some asked)
      · exact (liveChat_iff.mp met).1.symm.trans shows.2

private theorem deleteChat_hides : (deleteChat (some userId) id).EndsGiven (Told relation uuid)
    (Hides relation uuid (some (.chats, id))) := by
  rw [deleteChat, authenticated_some]
  apply given_withUuid
  apply given_issue
  rintro (_ | _ | ⟨chat, others⟩) told
  · exact hides_refused _
  · exact hides_refused _
  · obtain ⟨now, before, -, met, deleted⟩ := told _ rfl chat (.head _)
    refine hides_apart (chat_apart met fun here asked => ?_) fun shows => shows.elim
    exact deleted here (congrArg some asked)

private theorem listMessages_hides (includeCompare : Bool) :
    (listMessages (some userId) id includeCompare).EndsGiven (Told relation uuid)
      (Hides relation uuid (some (.chats, id))) := by
  rw [listMessages, authenticated_some]
  apply given_withUuid
  apply given_issue
  intro reply told
  split
  · rename_i chat found
    obtain ⟨rows, rfl, member⟩ := single_row found
    obtain ⟨met, deleted⟩ := told rows rfl chat member
    have apart : relation = .chats → id.toLower ≠ uuid :=
      chat_apart met fun here asked => deleted here (congrArg some asked)
    apply given_issue
    rintro (_ | messages) told
    · exact hides_refused _
    · have hides (jobs : List AiJob) : Hides relation uuid (some (.chats, id))
          (.messages ((ascendingByCreation messages).map (viewOf jobs includeCompare))) := by
        refine hides_apart apart ?_
        rintro ⟨here, view, shown, asked⟩
        obtain ⟨message, listed, rfl⟩ := List.mem_map.mp shown
        obtain ⟨own, -⟩ := told messages rfl message (List.mem_mergeSort.mp listed)
        simp only [Bool.and_eq_true, beq_iff_eq] at own
        exact ⟨here, own.1.1.symm.trans asked⟩
      dsimp only
      split
      · apply given_issue
        rintro (_ | jobs) _
        · exact hides_refused _
        · exact hides jobs
      · exact hides []
  · exact hides_refused _

private theorem listProjects_hides : (listProjects (some userId)).EndsGiven (Told relation uuid)
    (Hides relation uuid none) := by
  rw [listProjects, authenticated_some]
  apply given_issue
  rintro (_ | projects) told
  · exact hides_refused _
  · refine hides_none ?_
    rintro ⟨rfl, project, shown, here⟩
    obtain ⟨met, deleted⟩ := told projects rfl project (List.mem_mergeSort.mp shown)
    have live := (Bool.and_eq_true_iff.mp met).2
    rw [Option.isNone_iff_eq_none] at live
    have gone := deleted rfl (congrArg some here)
    rw [isDeleted, live] at gone
    cases gone

private theorem createProject_hides (body : Option Json) :
    (createProject (some userId) body).EndsGiven
    (Told relation uuid) (Hides relation uuid none) := by
  rw [createProject, authenticated_some]
  split
  · exact hides_refused _
  · apply given_issue
    rintro (_ | project) told
    · exact hides_refused _
    · obtain ⟨drawn, now, rfl, apart⟩ := told project rfl
      exact hides_none fun shows => apart shows.2

private theorem getProject_hides : (getProject (some userId) id).EndsGiven (Told relation uuid)
    (Hides relation uuid (some (.projects, id))) := by
  rw [getProject, authenticated_some]
  apply given_withUuid
  apply given_issue
  intro reply told
  refine hides_single fun rows same project member => ?_
  obtain ⟨met, deleted⟩ := told rows same project member
  refine hides_apart (project_apart met deleted) fun shows => ⟨shows.1, ?_⟩
  exact (liveProject_iff.mp met).1.symm.trans shows.2

private theorem updateProject_hides (body : Option Json) :
    (updateProject (some userId) id body).EndsGiven
    (Told relation uuid) (Hides relation uuid (Request.updateProject id body).about) := by
  rw [updateProject, authenticated_some]
  apply given_withUuid
  split
  · exact hides_refused _
  · rename_i parsed found
    simp only [Request.about, found, Option.any_some]
    split
    · exact hides_none fun shows => shows
    · apply given_issue
      intro reply told
      refine hides_single fun rows same project member => ?_
      obtain ⟨now, before, rfl, met, deleted⟩ := told rows same project member
      refine hides_apart (project_apart met deleted) fun shows => ⟨shows.1, ?_⟩
      exact (liveProject_iff.mp met).1.symm.trans shows.2

private theorem deleteProject_hides :
    (deleteProject (some userId) id).EndsGiven (Told relation uuid)
    (Hides relation uuid (some (.projects, id))) := by
  rw [deleteProject, authenticated_some]
  apply given_withUuid
  apply given_issue
  rintro (_ | _ | ⟨project, others⟩) told
  · exact hides_refused _
  · exact hides_refused _
  · obtain ⟨now, before, -, met, deleted⟩ := told _ rfl project (.head _)
    exact hides_apart (project_apart met deleted) fun shows => shows.elim

/-- Behind the check of the project nothing is said about a deleted one. -/
theorem given_withProject {projectId : Uuid} {next : Procedure Answer}
    (given : (relation = .projects → projectId ≠ uuid) →
      next.EndsGiven (Told relation uuid) (Hides relation uuid about)) :
    (withProject userId projectId next).EndsGiven (Told relation uuid)
      (Hides relation uuid about) := by
  apply given_issue
  intro reply told
  split
  · rename_i project found
    obtain ⟨rows, rfl, member⟩ := single_row found
    obtain ⟨met, deleted⟩ := told rows rfl project member
    exact given (project_apart met deleted)
  · exact hides_refused _

private theorem listArtifacts_hides :
    (listArtifacts (some userId) id).EndsGiven (Told relation uuid)
    (Hides relation uuid (some (.projects, id))) := by
  rw [listArtifacts, authenticated_some]
  apply given_withUuid
  apply given_withProject
  intro apart
  apply given_issue
  rintro (_ | artifacts) told
  · exact hides_refused _
  · refine hides_apart apart ?_
    rintro ⟨here, artifact, shown, asked⟩
    obtain ⟨own, -⟩ := told artifacts rfl artifact (List.mem_mergeSort.mp shown)
    simp only [Bool.and_eq_true, beq_iff_eq] at own
    exact ⟨here, own.1.1.symm.trans asked⟩

private theorem createArtifact_hides (body : Option Json) :
    (createArtifact (some userId) id body).EndsGiven
    (Told relation uuid) (Hides relation uuid (some (.projects, id))) := by
  rw [createArtifact, authenticated_some]
  apply given_withUuid
  split
  · exact hides_refused _
  · apply given_withProject
    intro apart
    apply given_issue
    rintro (_ | artifact) told
    · exact hides_refused _
    · obtain ⟨drawn, now, rfl, -⟩ := told artifact rfl
      exact hides_apart apart fun shows => shows

/-! Nothing in a template or in the preferences is a chat or a project. -/

private theorem listTemplates_hides : (listTemplates (some userId)).EndsGiven (Told relation uuid)
    (Hides relation uuid none) := by
  rw [listTemplates, authenticated_some]
  apply given_issue
  rintro (_ | templates) _
  · exact hides_refused _
  · exact hides_none fun shows => shows

private theorem createTemplate_hides (platform : Platform) (body : Option Json) :
    (createTemplate platform (some userId) body).EndsGiven (Told relation uuid)
      (Hides relation uuid none) := by
  rw [createTemplate, authenticated_some]
  split
  · exact hides_refused _
  · exact hides_refused _
  · split
    · exact hides_refused _
    · split
      · exact hides_refused _
      · extract_lets mode tone provided insert
        have inserts (generated : Option Text) : (insert generated).EndsGiven (Told relation uuid)
            (Hides relation uuid none) := by
          dsimp only [insert]
          split
          · apply given_issue
            rintro (_ | template) _
            · exact hides_refused _
            · exact hides_none fun shows => shows
          · exact hides_refused _
        split
        · apply Program.Obeys.bind (.of_every (Program.every_of_forall (fun _ => trivial) _)
            fun _ => trivial)
          exact fun generated _ => inserts generated
        · exact inserts none

private theorem renameTemplate_hides (body : Option Json) :
    (renameTemplate (some userId) id body).EndsGiven
    (Told relation uuid) (Hides relation uuid none) := by
  rw [renameTemplate, authenticated_some]
  apply given_withUuid
  split
  · exact hides_refused _
  · exact hides_refused _
  · split
    · exact hides_refused _
    · split
      · exact hides_refused _
      · apply given_issue
        intro reply _
        exact hides_single fun rows same template member => hides_none fun shows => shows

private theorem deleteTemplate_hides :
    (deleteTemplate (some userId) id).EndsGiven (Told relation uuid)
    (Hides relation uuid none) := by
  rw [deleteTemplate, authenticated_some]
  apply given_withUuid
  apply given_issue
  rintro (_ | _ | count) _
  · exact hides_refused _
  · exact hides_refused _
  · exact hides_none fun shows => shows

private theorem useTemplate_hides : (useTemplate (some userId) id).EndsGiven (Told relation uuid)
    (Hides relation uuid none) := by
  rw [useTemplate, authenticated_some]
  apply given_withUuid
  apply given_issue
  intro reply _
  split
  · exact hides_refused _
  · exact hides_refused _
  · apply given_issue
    intro reply _
    split
    · exact hides_none fun shows => shows
    · exact hides_refused _

private theorem getPreferences_hides : (getPreferences (some userId)).EndsGiven (Told relation uuid)
    (Hides relation uuid none) := by
  rw [getPreferences, authenticated_some]
  apply given_issue
  intro reply _
  split
  · exact hides_none fun shows => shows
  · exact hides_none fun shows => shows
  · exact hides_refused _

private theorem putPreferences_hides (platform : Platform) (body : Option Json) :
    (putPreferences platform (some userId) body).EndsGiven (Told relation uuid)
      (Hides relation uuid none) := by
  rw [putPreferences, authenticated_some]
  split
  · exact hides_refused _
  · split
    · exact hides_refused _
    · apply given_issue
      rintro (_ | _) _
      · exact hides_refused _
      · exact hides_none fun shows => shows

/-- While a chat or project is deleted, no request is shown it. -/
theorem handle_hides (platform : Platform) (asking : Option UserId) (request : Request) :
    (handle platform asking request).EndsGiven (Told relation uuid)
      (Hides relation uuid request.about) := by
  cases asking with
  | none =>
    rw [handle_none]
    exact hides_refused _
  | some userId =>
    cases request with
    | createChat body => exact createChat_hides body
    | listChats page limit => exact listChats_hides platform page limit
    | getChat id => exact getChat_hides
    | deleteChat id => exact deleteChat_hides
    | renameChat id body => exact renameChat_hides body
    | listMessages id includeCompare => exact listMessages_hides includeCompare
    | listProjects => exact listProjects_hides
    | createProject body => exact createProject_hides body
    | getProject id => exact getProject_hides
    | updateProject id body => exact updateProject_hides body
    | deleteProject id => exact deleteProject_hides
    | listArtifacts id => exact listArtifacts_hides
    | createArtifact id body => exact createArtifact_hides body
    | listTemplates => exact listTemplates_hides
    | createTemplate body => exact createTemplate_hides platform body
    | renameTemplate id body => exact renameTemplate_hides body
    | deleteTemplate id => exact deleteTemplate_hides
    | useTemplate id => exact useTemplate_hides
    | getPreferences => exact getPreferences_hides
    | putPreferences body => exact putPreferences_hides platform body

end Answers

section Deletion

variable {site : Site} {relation : Relation} {user : UserId} {uuid : Uuid} {id : String}

def Issued (command : Command) : Prop := ∃ user, Owned user command

private theorem every_issued (call : Call) : (site.system.program call).Every Issued := by
  obtain ⟨_ | user, request⟩ := call
  · change (handle site.platform none request).Every Issued
    rw [handle_none]
    trivial
  · exact (handle_owned site.platform request).imp fun command owned => ⟨user, owned⟩

private theorem stable_numbered : (issuing site.system Issued).Stable (Numbered site) :=
  stable_issuing (fun outcome ⟨_, owned⟩ numbered => numbered.exec owned outcome)
    fun event numbered => numbered.occur event

/-- The row is deleted, whatever its title is by now. -/
def Kept (site : Site) (relation : Relation) (row : relation.Row) (world : World) : Prop :=
  ∃ current, SameButTitle relation row current ∧ Retired site relation current world

theorem stable_kept {row : relation.Row} :
    (issuing site.system Issued).Stable (Kept site relation row) := by
  refine stable_issuing (fun outcome issued kept => ?_) fun event kept => ?_
  · obtain ⟨user, owned⟩ := issued
    obtain ⟨current, same, retired⟩ := kept
    exact ⟨current, same, retired.exec owned outcome⟩
  · obtain ⟨current, same, retired⟩ := kept
    obtain ⟨next, changed, fixed⟩ := retired.fixed.occur retired.soft event
    exact ⟨next, same.trans changed, fixed, retired.soft, changed.isDeleted.trans retired.deleted⟩

/-- There is such a row, and it is deleted. -/
def IsGone (site : Site) (relation : Relation) (user : UserId) (uuid : Uuid) (world : World) : Prop :=
  ∃ row, identity relation row = (user, some uuid) ∧ Retired site relation row world

private theorem stable_isGone :
    (issuing site.system Issued).Stable (IsGone site relation user uuid) := by
  have stays {row : relation.Row} {next : World} (named : identity relation row = (user, some uuid))
      (kept : Kept site relation row next) : IsGone site relation user uuid next := by
    obtain ⟨current, same, retired⟩ := kept
    exact ⟨current, same.identity.trans named, retired⟩
  refine stable_issuing (fun outcome issued gone => ?_) fun event gone => ?_
  · obtain ⟨row, named, retired⟩ := gone
    exact stays named
      (stable_kept.command _ _ outcome issued trivial ⟨row, .refl relation row, retired⟩)
  · obtain ⟨row, named, retired⟩ := gone
    exact stays named (stable_kept.event _ event trivial ⟨row, .refl relation row, retired⟩)

/-- An update that marks what it finds as deleted, when it has found something. -/
theorem gone_of_updated {condition : relation.Row → Bool} {assign : Nat → relation.Row → relation.Row}
    {world : World} {outcome : Outcome} {rows : List relation.Row} (numbered : Numbered site world)
    (soft : relation.isSoft = true) (owned : Owned user (.update relation condition assign))
    (names : ∀ row, condition row = true → label relation row = some uuid)
    (marks : ∀ now row, isDeleted relation (assign now row) = true)
    (replied : (exec site.draw outcome (.update relation condition assign) world).1 = some rows)
    (found : rows ≠ []) :
    IsGone site relation user uuid
      (exec site.draw outcome (.update relation condition assign) world).2 := by
  cases outcome with
  | refused | lost => cases replied
  | success name =>
    cases Option.some.inj replied
    obtain ⟨_, shown⟩ := List.exists_mem_of_ne_nil _ found
    obtain ⟨row, there, -⟩ := List.mem_map.mp shown
    obtain ⟨member, met⟩ := List.mem_filter.mp there
    refine ⟨assign world.clock row, ?_, ⟨?_, soft, marks _ _⟩⟩
    · rw [owned.2.1]
      exact Prod.ext ((identity_fst row).trans (owned.1 row met)) (names row met)
    · exact (numbered relation soft row member).updated owned met

/-- Where `ok` is the answer to rows that have been found and marked, they are deleted. -/
theorem deleting_outline {condition : relation.Row → Bool}
    {assign : Nat → relation.Row → relation.Row}
    {next : Option (List relation.Row) → Procedure Answer} (soft : relation.isSoft = true)
    (owned : Owned user (.update relation condition assign))
    (names : ∀ row, condition row = true → label relation row = some uuid)
    (marks : ∀ now row, isDeleted relation (assign now row) = true)
    (answers : ∀ reply, ∃ answer, next reply = .done answer ∧
      (answer = .ok → ∃ rows, reply = some rows ∧ rows ≠ [])) :
    (issuing site.system Issued).Outline (Numbered site)
      (fun answer world => answer = .ok → IsGone site relation user uuid world)
      (updateWhere relation condition assign >>= next) := by
  refine ⟨fun reply world => (∃ rows, reply = some rows ∧ rows ≠ []) →
    IsGone site relation user uuid world, fun reply => .imp fun _ => stable_isGone, ?_, ?_⟩
  · refine fun world outcome numbered issued => ⟨trivial, ?_⟩
    rintro ⟨rows, replied, found⟩
    exact gone_of_updated numbered soft owned names marks replied found
  · intro reply
    obtain ⟨answer, done, found⟩ := answers reply
    change (issuing site.system Issued).Outline _ _ (next reply)
    rw [done]
    exact fun world gone answered => gone (found answered)

def Request.deletes : Request → Option (Relation × String)
  | .deleteChat id => some (.chats, id)
  | .deleteProject id => some (.projects, id)
  | _ => none

private theorem withUuid_outline {handler : Uuid → Procedure Answer} {pre : World → Prop}
    {gone : World → Prop}
    (outline : (issuing site.system Issued).Outline pre (fun answer world => answer = .ok → gone world)
      (handler id.toLower)) :
    (issuing site.system Issued).Outline pre (fun answer world => answer = .ok → gone world)
      (withUuid id handler) := by
  unfold withUuid
  split
  · exact outline
  · intro world holds answered
    cases answered

private theorem deletes_outline {request : Request}
    (deletes : request.deletes = some (relation, id)) :
    (issuing site.system Issued).Outline (Numbered site)
      (fun answer world => answer = .ok → IsGone site relation user id.toLower world)
      (handle site.platform (some user) request) := by
  cases request with
  | deleteChat id =>
    cases deletes
    rw [handle, deleteChat, authenticated_some]
    apply withUuid_outline
    apply deleting_outline
    · rfl
    · exact updateChat_owned fun now chat => rfl
    · exact fun chat met => congrArg some (liveChat_iff.mp met).1
    · exact fun now chat => rfl
    · rintro (_ | _ | ⟨chat, others⟩)
      · exact ⟨_, rfl, fun same => by cases same⟩
      · exact ⟨_, rfl, fun same => by cases same⟩
      · exact ⟨_, rfl, fun _ => ⟨chat :: others, rfl, List.cons_ne_nil _ _⟩⟩
  | deleteProject id =>
    cases deletes
    rw [handle, deleteProject, authenticated_some]
    apply withUuid_outline
    apply deleting_outline
    · rfl
    · exact changeProject_owned fun now project => rfl
    · exact fun project met => congrArg some (liveProject_iff.mp met).1
    · exact fun now project => rfl
    · rintro (_ | _ | ⟨project, others⟩)
      · exact ⟨_, rfl, fun same => by cases same⟩
      · exact ⟨_, rfl, fun same => by cases same⟩
      · exact ⟨_, rfl, fun _ => ⟨project :: others, rfl, List.cons_ne_nil _ _⟩⟩
  | _ => cases deletes

/-- Once the deletion of a chat or project has been answered, its row is deleted for good, nothing
else of it is changed but the title of a chat, and whatever is asked from then on, by whomever, shows
nothing of it. -/
theorem deletion_final {world : World} {config : site.system.Config} {deleter : Nat}
    {request : Request} {actions : List site.system.Action} (numbered : Numbered site world)
    (before : Run (fun _ _ => True) (.initial world) actions config)
    (deletes : request.deletes = some (relation, id))
    (deleted : config.threads deleter = .returned ⟨some user, request⟩ Answer.ok) :
    ∃ row, identity relation row = (user, some id.toLower) ∧ isDeleted relation row = true ∧
      ∀ later last, Run (fun _ _ => True) config later last →
        (∃ kept ∈ last.world.rows relation, SameButTitle relation row kept) ∧
        ∀ client call answer, config.threads client = .idle →
          last.threads client = .returned call answer →
            Hides relation id.toLower call.request.about answer := by
  have idle (client : Nat) : ((Config.initial world : site.system.Config).threads client).Every
      Issued := trivial
  have first := before.issues every_issued idle
  have outlined : (issuing site.system Issued).Outline (Numbered site)
      (fun answer world => answer = Answer.ok → IsGone site relation user id.toLower world)
      (site.system.program ⟨some user, request⟩) := deletes_outline deletes
  obtain ⟨row, named, retired⟩ := first.outline _ (fun _ _ permits => permits) (fun _ _ _ => trivial)
    outlined stable_numbered (fun _ => .imp fun _ => stable_isGone) rfl numbered deleted rfl
  refine ⟨row, named, retired.deleted, fun later last run => ?_⟩
  have second := run.issues every_issued (before.every every_issued idle)
  have kept : Kept site relation row config.world := ⟨row, .refl relation row, retired⟩
  obtain ⟨current, same, stays⟩ := second.stable (fun _ _ permits => permits)
    (fun _ _ _ => trivial) stable_kept kept
  refine ⟨⟨current, stays.fixed.settled.member, same⟩, fun client call answer free returned => ?_⟩
  exact second.outline (fun answer _ => Hides relation id.toLower call.request.about answer)
    (fun _ _ permits => permits) (fun _ _ _ => trivial)
    (Rules.Outline.obeys stable_kept
      (fun _ _ outcome ⟨_, same, retired⟩ _ _ =>
        ⟨trivial, retired.told (congrArg Prod.snd (same.identity.trans named)) outcome⟩)
      (handle_hides site.platform call.userId call.request))
    stable_kept (fun answer => .pure _) free kept returned

def sampleDeletion : List sampleSite.system.Action :=
  [.start 0 ⟨some "alice", .createChat (some (.obj []))⟩, .step 0 (.success none),
    .start 1 ⟨some "alice", .deleteChat sampleUuid.toUpper⟩, .step 1 (.success none)]

def answeredOk : sampleSite.system.Thread → Bool
  | .returned ⟨some user, .deleteChat id⟩ .ok => user == "alice" && id == sampleUuid.toUpper
  | _ => false

private theorem eq_of_answeredOk {thread : sampleSite.system.Thread}
    (answered : answeredOk thread = true) :
    thread = .returned ⟨some "alice", .deleteChat sampleUuid.toUpper⟩ Answer.ok := by
  unfold answeredOk at answered
  split at answered
  · rw [Bool.and_eq_true, beq_iff_eq, beq_iff_eq] at answered
    obtain ⟨rfl, rfl⟩ := answered
    rfl
  · cases answered

theorem sample_deletion_final : ∃ config, Run (fun _ _ => True) (.initial World.empty) sampleDeletion
      config ∧
    ∀ later last, Run (fun _ _ => True) config later last →
      ∃ chat ∈ last.world.rows .chats, chat.id = sampleUuid ∧ chat.deletedAt.isSome = true := by
  have reached : ∃ config, Run (fun _ _ => True) (.initial World.empty) sampleDeletion config ∧
      answeredOk (config.threads 1) = true := by
    apply Run.of_runsTo
    decide +kernel
  obtain ⟨config, run, answered⟩ := reached
  have numbered : Numbered sampleSite World.empty := by
    intro relation soft row member
    cases member
  obtain ⟨chat, named, deleted, stays⟩ :=
    @deletion_final _ .chats _ _ _ _ _ _ _ numbered run rfl (eq_of_answeredOk answered)
  refine ⟨config, run, fun later last rest => ?_⟩
  obtain ⟨kept, member, same⟩ := (stays later last rest).1
  have id : some kept.id = some sampleUuid.toUpper.toLower :=
    congrArg Prod.snd (same.identity.trans named)
  refine ⟨kept, member, (Option.some.inj id).trans (by decide +kernel), ?_⟩
  exact same.isDeleted.trans deleted

end Deletion

end BrainMate.WriteRight.Workspace
