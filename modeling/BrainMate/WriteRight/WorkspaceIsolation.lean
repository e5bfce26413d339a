import BrainMate.Interleaving.Partition
import BrainMate.WriteRight.WorkspaceOwnership

namespace BrainMate.WriteRight.Workspace

open Interleaving System Storage

open BrainMate.Text (Json)

section Sound

variable (site : Site)

def Named (relation : Relation) (row : relation.Row) : Prop :=
  ∀ uuid, (identity relation row).2 = some uuid →
    ∃ count, uuid = site.draw (relation.owner row) count

def Sound (world : World) : Prop :=
  ∀ relation, ∀ row ∈ world.rows relation, Named site relation row

variable {site} {world : World} {user : UserId}

theorem Named.congr {relation : Relation} {one other : relation.Row} (named : Named site relation one)
    (same : identity relation other = identity relation one) : Named site relation other := by
  intro uuid own
  rw [owner_of_identity same]
  exact named uuid (same ▸ own)

theorem Sound.put {relation : Relation} {rows : List relation.Row} (sound : Sound site world)
    (named : ∀ row ∈ rows, Named site relation row) : Sound site (world.put relation rows) := by
  intro other row member
  by_cases same : other = relation
  · subst same
    rw [rows_put_self] at member
    exact named row member
  · rw [rows_put_other world rows same] at member
    exact sound other row member

theorem Sound.change {command : Command} (sound : Sound site world) (owned : Owned user command) :
    Sound site (change site.draw command world).2 := by
  cases command with
  | select relation condition => exact sound
  | selectChats condition => exact sound
  | generateName content mode => exact sound
  | insert relation userId row =>
    refine @Sound.put site world relation _ sound ?_
    intro made member
    obtain before | new := List.mem_append.mp member
    · exact sound relation made before
    · obtain rfl := List.mem_singleton.mp new
      intro uuid own
      rw [owned.2] at own
      rw [owner_of_makes owned.2]
      split at own
      · exact ⟨world.drawn userId, by rw [← Option.some.inj own, owned.1]⟩
      · cases own
  | update relation condition assign =>
    refine sound.put fun row member => ?_
    obtain ⟨before, there, rfl⟩ := List.mem_map.mp member
    split
    · exact (sound relation before there).congr (owned.2.1 _ _)
    · exact sound relation before there
  | delete relation condition =>
    exact sound.put fun row member => sound relation row (List.mem_filter.mp member).1
  | upsertSettings userId preferences => exact sound.put fun row member uuid own => by cases own

theorem Sound.occur {event : Event} (sound : Sound site world) : Sound site (occur event world) := by
  cases event with
  | tick => exact sound
  | message message =>
    simp only [Workspace.occur]
    split
    · rename_i found
      refine sound.put fun row member => ?_
      obtain before | new := List.mem_append.mp member
      · exact sound .messages row before
      · obtain rfl := List.mem_singleton.mp new
        obtain ⟨chat, there, same⟩ := List.any_eq_true.mp found
        rw [holdsMessage, Bool.and_eq_true, beq_iff_eq, beq_iff_eq] at same
        intro uuid own
        obtain ⟨count, named⟩ := sound .chats chat there chat.id rfl
        refine ⟨count, ?_⟩
        have chatId : row.chatId = uuid := Option.some.inj own
        have owner : Relation.owner .messages row = Relation.owner .chats chat := same.2.symm
        rw [owner, ← chatId, ← same.1, named]
    · exact sound
  | aiJob job => exact sound.put fun row member uuid own => by cases own
  | title chatId userId title =>
    simp only [Workspace.occur]
    split
    · refine sound.put fun row member => ?_
      obtain ⟨before, there, rfl⟩ := List.mem_map.mp member
      have named := sound .chats before there
      split
      · exact named.congr rfl
      · exact named
    · exact sound

/-- A chat's id is no other user's. -/
theorem Sound.owner_of_id {chatId : Uuid} {userId : UserId} (sound : Sound site world)
    (found : (world.rows .chats).any (ownChat chatId userId) = true) {chat : Chat}
    (there : chat ∈ world.rows .chats) (same : chat.id = chatId) : chat.userId = userId := by
  obtain ⟨own, member, met⟩ := List.any_eq_true.mp found
  rw [ownChat, Bool.and_eq_true, beq_iff_eq, beq_iff_eq] at met
  obtain ⟨count, named⟩ := sound .chats chat there chat.id rfl
  obtain ⟨count', named'⟩ := sound .chats own member own.id rfl
  have drawn := named.symm.trans (same.trans (met.1.symm.trans named'))
  exact (site.fresh _ _ _ _ drawn).1.trans met.2

end Sound

section Part

variable (site : Site) (user : UserId)

/-- Two worlds do not differ in what is the user's. -/
structure Same (first second : World) : Prop where
  clock : first.clock = second.clock
  drawn : first.drawn user = second.drawn user
  rows : ∀ relation, ownedBy relation.owner user (first.rows relation) =
    ownedBy relation.owner user (second.rows relation)
  left : Sound site first
  right : Sound site second

variable {site} {user} {first second : World} {command : Command}

theorem Same.filter (same : Same site user first second) {relation : Relation}
    {condition : relation.Row → Bool} (within : Within relation.owner user condition) :
    (first.rows relation).filter condition = (second.rows relation).filter condition := by
  rw [← filter_ownedBy within, same.rows, filter_ownedBy within]

/-- The messages of a chat are its user's. -/
theorem countMessages_owned {world : World} (sound : Sound site world) {chat : Chat} {count : Nat}
    (named : chat.id = site.draw user count) : world.countMessages chat =
      (ownedBy Message.userId user (world.rows .messages)).countP
        fun message => message.chatId == chat.id := by
  rw [World.countMessages, ownedBy, List.countP_filter]
  refine List.countP_congr fun message member => ?_
  rw [Bool.and_eq_true]
  refine ⟨fun inside => ⟨inside, ?_⟩, And.left⟩
  obtain ⟨count', own⟩ := sound .messages message member message.chatId rfl
  rw [beq_iff_eq, named, own] at inside
  exact decide_eq_true (site.fresh _ _ _ _ inside).1

theorem Same.countMessages (same : Same site user first second) {chat : Chat}
    (there : chat ∈ first.rows .chats) (mine : chat.userId = user) :
    first.countMessages chat = second.countMessages chat := by
  obtain ⟨count, named⟩ := same.left .chats chat there chat.id rfl
  have own : chat.id = site.draw user count := mine ▸ named
  rw [countMessages_owned same.left own, countMessages_owned same.right own]
  exact congrArg _ (same.rows .messages)

theorem Same.answered (same : Same site user first second) (owned : Owned user command) :
    (change site.draw command first).1 = (change site.draw command second).1 := by
  cases command with
  | select relation condition => exact congrArg some (same.filter owned)
  | selectChats condition =>
    have rows := @Same.filter _ _ _ _ same .chats condition owned
    refine congrArg some ?_
    rw [← rows]
    refine List.map_congr_left fun chat member => ?_
    obtain ⟨there, met⟩ := List.mem_filter.mp member
    rw [same.countMessages there (owned chat met)]
  | insert relation userId row =>
    obtain ⟨rfl, -⟩ := owned
    simp only [change, same.clock, same.drawn]
  | update relation condition assign =>
    simp only [change, same.clock, same.filter owned.1]
  | delete relation condition =>
    simp only [change, List.countP_eq_length_filter, same.filter owned.1]
  | upsertSettings userId preferences => rfl
  | generateName content mode => rfl

theorem Same.put (same : Same site user first second) {relation : Relation}
    {rows rows' : List relation.Row}
    (own : ownedBy relation.owner user rows = ownedBy relation.owner user rows')
    (left : Sound site (first.put relation rows)) (right : Sound site (second.put relation rows')) :
    Same site user (first.put relation rows) (second.put relation rows') := by
  refine ⟨same.clock, same.drawn, fun other => ?_, left, right⟩
  by_cases here : other = relation
  · subst here
    rw [rows_put_self, rows_put_self, own]
  · rw [rows_put_other _ _ here, rows_put_other _ _ here, same.rows]

private theorem within_settings {settings : UserSettings} :
    Within UserSettings.userId settings.userId settings.conflicts :=
  fun _ met => beq_iff_eq.mp met

private theorem userId_replace (settings other : UserSettings) :
    (settings.replace other).userId = other.userId := rfl

private theorem ownedBy_upsertRows {settings : UserSettings} (rows : List UserSettings) :
    ownedBy UserSettings.userId settings.userId (upsertRows settings rows) =
      upsertRows settings (ownedBy UserSettings.userId settings.userId rows) := by
  unfold upsertRows
  rw [any_ownedBy within_settings]
  split
  · exact ownedBy_updateRows (userId_replace settings) rows
  · rw [ownedBy_append, ownedBy_single_self rfl]

private theorem ownedBy_upsertRows_other {settings : UserSettings} (apart : settings.userId ≠ user)
    (rows : List UserSettings) : ownedBy UserSettings.userId user (upsertRows settings rows) =
      ownedBy UserSettings.userId user rows := by
  unfold upsertRows
  split
  · exact ownedBy_updateRows_other within_settings apart (userId_replace settings) rows
  · rw [ownedBy_append, ownedBy_single_other apart, List.append_nil]

theorem Same.advanced (same : Same site user first second) (owned : Owned user command) :
    Same site user (change site.draw command first).2 (change site.draw command second).2 := by
  have left := same.left.change owned
  have right := same.right.change owned
  cases command with
  | select relation condition => exact same
  | selectChats condition => exact same
  | generateName content mode => exact same
  | insert relation userId row =>
    obtain ⟨rfl, -⟩ := owned
    refine ⟨same.clock, ?_, fun other => ?_, left, right⟩
    · simp only [change, Function.update_self, same.drawn]
    · by_cases here : other = relation
      · subst here
        simp only [change, rows_put_self, ownedBy_append, same.rows, same.drawn, same.clock]
      · simp only [change, rows_put_other _ _ here, same.rows]
  | update relation condition assign =>
    refine same.put ?_ left right
    have keeps (now : Nat) (row : relation.Row) :
        relation.owner (assign now row) = relation.owner row := owner_of_identity (owned.2.1 now row)
    rw [ownedBy_updateRows (keeps _), ownedBy_updateRows (keeps _), same.rows, same.clock]
  | delete relation condition =>
    refine same.put ?_ left right
    rw [ownedBy_deleteRows, ownedBy_deleteRows, same.rows]
  | upsertSettings userId preferences =>
    obtain rfl := owned
    refine same.put ?_ left right
    have rows : ownedBy UserSettings.userId userId (first.rows .userSettings) =
        ownedBy UserSettings.userId userId (second.rows .userSettings) := same.rows .userSettings
    rw [same.clock]
    have own := @ownedBy_upsertRows ⟨userId, preferences, second.clock⟩
    exact (own _).trans ((congrArg _ rows).trans (own _).symm)

/-- What another user's statement does is not seen. -/
theorem Same.spared {other : UserId} (same : Same site user first second)
    (owned : Owned other command) (apart : other ≠ user) :
    Same site user (change site.draw command first).2 second := by
  have left := same.left.change owned
  have put {relation : Relation} {rows : List relation.Row}
      (own : ownedBy relation.owner user rows = ownedBy relation.owner user (first.rows relation))
      (left : Sound site (first.put relation rows)) :
      Same site user (first.put relation rows) second := by
    refine ⟨same.clock, same.drawn, fun other => ?_, left, same.right⟩
    by_cases here : other = relation
    · subst here
      rw [rows_put_self, own, same.rows]
    · rw [rows_put_other _ _ here, same.rows]
  cases command with
  | select relation condition => exact same
  | selectChats condition => exact same
  | generateName content mode => exact same
  | insert relation userId row =>
    obtain ⟨rfl, makes⟩ := owned
    refine ⟨same.clock, ?_, fun other => ?_, left, same.right⟩
    · simp only [change, Function.update_of_ne apart.symm, same.drawn]
    · by_cases here : other = relation
      · subst here
        have foreign : other.owner (row (site.draw userId (first.drawn userId)) first.clock) ≠ user := by
          rw [owner_of_makes makes]
          exact apart
        simp only [change, rows_put_self, ownedBy_append, ownedBy_single_other foreign,
          List.append_nil, same.rows]
      · simp only [change, rows_put_other _ _ here, same.rows]
  | update relation condition assign =>
    exact put (ownedBy_updateRows_other owned.1 apart
      (fun row => owner_of_identity (owned.2.1 _ row)) _) left
  | delete relation condition => exact put (ownedBy_deleteRows_other owned.1 apart _) left
  | upsertSettings userId preferences =>
    obtain rfl := owned
    exact put (ownedBy_upsertRows_other apart _) left

private theorem ownedBy_jobs (job : AiJob) (rows : List AiJob) :
    ownedBy AiJob.userId user (job :: rows.filter fun other =>
        !(other.id == job.id && other.userId == job.userId)) =
      if job.userId = user then
        job :: (ownedBy AiJob.userId user rows).filter fun other => other.id != job.id
      else ownedBy AiJob.userId user rows := by
  rw [← List.singleton_append, ownedBy_append, ownedBy, ownedBy, List.filter_filter]
  split
  · rename_i mine
    rw [List.filter_cons_of_pos (by simp [mine]), List.filter_nil, List.singleton_append, ownedBy,
      List.filter_filter]
    refine congrArg (job :: ·) (List.filter_congr fun other _ => ?_)
    by_cases own : other.userId = user
    · simp [own, mine, bne]
    · simp [own]
  · rename_i foreign
    rw [List.filter_cons_of_neg (by simp [foreign]), List.filter_nil, List.nil_append, ownedBy]
    refine List.filter_congr fun other _ => ?_
    by_cases own : other.userId = user
    · simp [own, Ne.symm foreign]
    · simp [own]

/-- Whether an event is about the user, or about everybody. -/
def felt (user : UserId) : Event → Bool
  | .tick => true
  | .message message => message.userId == user
  | .aiJob job => job.userId == user
  | .title _ userId _ => userId == user

/-- What happens to others leaves the user's rows as they are. -/
theorem ownedBy_occur {event : Event} (foreign : felt user event = false) {world : World}
    (sound : Sound site world) (relation : Relation) :
    ownedBy relation.owner user ((occur event world).rows relation) =
      ownedBy relation.owner user (world.rows relation) := by
  cases event with
  | tick => cases foreign
  | message message =>
    have apart : message.userId ≠ user := by simpa [felt] using foreign
    have none : ownedBy (Relation.owner .messages) user [message] = [] := ownedBy_single_other apart
    simp only [occur]
    split
    · by_cases here : relation = .messages
      · subst here
        rw [rows_put_self, ownedBy_append, none, List.append_nil]
      · rw [rows_put_other _ _ here]
    · rfl
  | aiJob job =>
    have apart : job.userId ≠ user := by simpa [felt] using foreign
    by_cases here : relation = .aiJobs
    · subst here
      rw [occur, rows_put_self]
      exact (ownedBy_jobs job _).trans (if_neg apart)
    · rw [occur, rows_put_other _ _ here]
  | title chatId userId title =>
    have apart : userId ≠ user := by simpa [felt] using foreign
    simp only [occur]
    split
    · rename_i found
      by_cases here : relation = .chats
      · subst here
        rw [rows_put_self]
        have keeps := @ownedBy_updateRows _ _ _ Chat.userId user (fun chat => chat.id == chatId)
          (titled title world.clock) (fun _ => rfl) (world.rows .chats)
        refine keeps.trans (.trans (List.map_congr_left fun chat member => if_neg fun met => ?_)
          (List.map_id _))
        obtain ⟨there, mine⟩ := List.mem_filter.mp member
        have owner := sound.owner_of_id found there (beq_iff_eq.mp met)
        exact apart (owner.symm.trans (of_decide_eq_true mine))
      · rw [rows_put_other _ _ here]
    · rfl

theorem Same.ignored {event : Event} (same : Same site user first second)
    (foreign : felt user event = false) : Same site user (occur event first) second := by
  have still : (occur event first).clock = first.clock ∧
      (occur event first).drawn = first.drawn := by
    cases event with
    | tick => cases foreign
    | message message =>
      simp only [occur]
      split <;> exact ⟨rfl, rfl⟩
    | aiJob job => exact ⟨rfl, rfl⟩
    | title chatId userId title =>
      simp only [occur]
      split <;> exact ⟨rfl, rfl⟩
  refine ⟨still.1 ▸ same.clock, still.2 ▸ same.drawn, fun relation => ?_, same.left.occur, same.right⟩
  rw [ownedBy_occur foreign same.left, same.rows]

theorem Same.symm (same : Same site user first second) : Same site user second first :=
  ⟨same.clock.symm, same.drawn.symm, fun relation => (same.rows relation).symm, same.right, same.left⟩

/-- Both worlds have a chat of the user's that meets a condition, or neither has. -/
theorem Same.any_chats (same : Same site user first second) {condition : Chat → Bool}
    (within : Within Chat.userId user condition) :
    (first.rows .chats).any condition = (second.rows .chats).any condition := by
  have rows : ownedBy Chat.userId user (first.rows .chats) =
      ownedBy Chat.userId user (second.rows .chats) := same.rows .chats
  rw [← any_ownedBy within, rows, any_ownedBy within]

theorem Same.occur (same : Same site user first second) (event : Event) :
    Same site user (occur event first) (occur event second) := by
  cases concerns : felt user event with
  | false => exact ((same.ignored concerns).symm.ignored concerns).symm
  | true =>
    have left := @Sound.occur _ _ event same.left
    have right := @Sound.occur _ _ event same.right
    cases event with
    | tick => exact ⟨congrArg (· + 1) same.clock, same.drawn, same.rows, left, right⟩
    | aiJob job =>
      refine same.put ?_ left right
      have rows : ownedBy AiJob.userId user (first.rows .aiJobs) =
          ownedBy AiJob.userId user (second.rows .aiJobs) := same.rows .aiJobs
      refine (ownedBy_jobs job _).trans (.trans ?_ (ownedBy_jobs job _).symm)
      rw [rows]
    | message message =>
      have mine : message.userId = user := beq_iff_eq.mp concerns
      have within : Within Chat.userId user (holdsMessage message) := by
        intro chat met
        rw [holdsMessage, Bool.and_eq_true, beq_iff_eq, beq_iff_eq] at met
        exact met.2.trans mine
      simp only [Workspace.occur] at left right ⊢
      rw [same.any_chats within] at left ⊢
      split
      · rename_i found
        rw [if_pos found] at left right
        refine same.put ?_ left right
        rw [ownedBy_append, ownedBy_append, same.rows]
      · exact same
    | title chatId userId title =>
      have mine : userId = user := beq_iff_eq.mp concerns
      have within : Within Chat.userId user (ownChat chatId userId) := by
        intro chat met
        rw [ownChat, Bool.and_eq_true, beq_iff_eq, beq_iff_eq] at met
        exact met.2.trans mine
      have rows : ownedBy Chat.userId user (first.rows .chats) =
          ownedBy Chat.userId user (second.rows .chats) := same.rows .chats
      simp only [Workspace.occur] at left right ⊢
      rw [same.any_chats within] at left ⊢
      split
      · rename_i found
        rw [if_pos found] at left right
        refine same.put ?_ left right
        have keeps (now : Nat) (rows : List Chat) :=
          @ownedBy_updateRows _ _ _ Chat.userId user (fun chat => chat.id == chatId)
            (titled title now) (fun _ => rfl) rows
        refine (keeps _ _).trans (.trans ?_ (keeps _ _).symm)
        rw [rows, same.clock]
      · exact same

theorem Same.replied (same : Same site user first second) (owned : Owned user command)
    (outcome : Outcome) :
    (exec site.draw outcome command first).1 = (exec site.draw outcome command second).1 := by
  cases outcome with
  | refused | lost => rfl
  | success name =>
    cases command with
    | generateName content mode => rfl
    | _ => exact same.answered owned

/-- The part of the world that is a user's own. -/
def userPart (site : Site) (user : UserId) : site.system.Part where
  agree := Same site user
  own := Owned user
  foreign command := ∃ other, other ≠ user ∧ Owned other command
  answered owned same outcome := Same.replied same owned outcome
  advanced {command first second} owned same outcome := by
    obtain still | moves := exec_world site.draw outcome command
    · exact (still first).symm ▸ (still second).symm ▸ same
    · exact (moves first).symm ▸ (moves second).symm ▸ Same.advanced same owned
  spared {command first second} foreign same outcome := by
    obtain ⟨other, apart, owned⟩ := foreign
    obtain still | moves := exec_world site.draw outcome command
    · exact (still first).symm ▸ same
    · exact (moves first).symm ▸ Same.spared same owned apart
  elapsed same event := Same.occur same event

end Part

section Runs

variable (site : Site) (actor : Nat → Option UserId)

/-- Each client asks in the name of one user, or of nobody. -/
def ActsFor (_ : site.system.Config) : site.system.Action → Prop
  | .start client call => call.userId = actor client
  | .step _ _ | .environment _ => True

instance (config : site.system.Config) :
    (action : site.system.Action) → Decidable (ActsFor site actor config action)
  | .start client call => inferInstanceAs (Decidable (call.userId = actor client))
  | .step _ _ | .environment _ => isTrue trivial

/-- What is done for the user, by the user's clients or to the user's rows. -/
def ofUser (user : UserId) : site.system.Action → Bool :=
  Action.ofGroup (fun client => decide (actor client = some user)) (felt user)

/-- The world in which there is nobody but the user. -/
def World.only (user : UserId) (world : World) : World where
  clock := world.clock
  rows relation := ownedBy relation.owner user (world.rows relation)
  drawn other := if other = user then world.drawn user else 0

variable {site} {actor} {user : UserId} {world : World}

theorem Same.only (sound : Sound site world) : Same site user world (world.only user) where
  clock := rfl
  drawn := (if_pos rfl).symm
  rows relation := by
    simp only [World.only, ownedBy, List.filter_filter, Bool.and_self]
  left := sound
  right relation row member := sound relation row (List.mem_filter.mp member).1

theorem Same.only_eq {first second : World} (same : Same site user first second) :
    first.only user = second.only user := by
  rw [World.only, World.only, same.clock, same.drawn]
  congr 1
  exact funext same.rows

private theorem apart_of_actsFor {config : site.system.Config} {action : site.system.Action}
    (acts : ActsFor site actor config action) :
    GroupApart (userPart site user) (fun client => decide (actor client = some user)) config
      action := by
  cases action with
  | step client outcome => trivial
  | environment event => trivial
  | start client call =>
    obtain ⟨userId, request⟩ := call
    have same : userId = actor client := acts
    change (handle site.platform userId request).Every _
    cases userId with
    | none =>
      rw [handle_none]
      trivial
    | some asking =>
      split
      · rename_i own
        obtain rfl : user = asking := Option.some.inj ((of_decide_eq_true own).symm.trans same.symm)
        exact handle_owned site.platform request
      · rename_i foreign
        refine (handle_owned site.platform request).imp fun command owned => ⟨asking, ?_, owned⟩
        rintro rfl
        exact foreign (decide_eq_true same.symm)

/-- Whatever others do, and in whatever order, the user's requests are answered as in the run in
which there is nobody else, and the same is stored for the user. -/
theorem requests_isolated {actions : List site.system.Action} {last : site.system.Config}
    (sound : Sound site world) (run : Run (ActsFor site actor) (.initial world) actions last) :
    ∃ alone, Run (ActsFor site actor) (.initial (world.only user))
        (actions.filter (ofUser site actor user)) alone ∧
      (∀ client, actor client = some user → last.threads client = alone.threads client) ∧
      last.world.only user = alone.world.only user := by
  obtain ⟨alone, runs, matched⟩ := (run.mono fun _ _ => apart_of_actsFor).eraseOthers
    (fun event foreign same => Same.ignored same foreign) (.initial (Same.only sound))
  refine ⟨alone, runs.permit fun action member config => ?_, fun client mine => ?_, ?_⟩
  · obtain ⟨before, acts⟩ := run.permitted_of_mem (List.mem_filter.mp member).1
    cases action with
    | start client call => exact acts
    | step client outcome => trivial
    | environment event => trivial
  · exact matched.threads client (decide_eq_true mine)
  · exact matched.agree.only_eq

def sampleActor : Nat → Option UserId
  | 0 => some "alice"
  | 1 => some "bob"
  | _ => none

def sampleActions : List sampleSite.system.Action :=
  [.start 1 ⟨some "bob", .getPreferences⟩,
    .start 0 ⟨some "alice", .putPreferences (some (.obj [(EmailChain.text "preferredTone",
      .str (EmailChain.text "Concise"))]))⟩,
    .step 0 (.success none), .step 1 (.success none)]

theorem bob_isolated : ∃ last alone,
    Run (ActsFor sampleSite sampleActor) (.initial World.empty) sampleActions last ∧
    (last.world.rows .userSettings).length = 1 ∧
    Run (ActsFor sampleSite sampleActor) (.initial (World.empty.only "bob"))
      (sampleActions.filter (ofUser sampleSite sampleActor "bob")) alone ∧
    last.threads 1 = alone.threads 1 := by
  have reached : ∃ last, Run (ActsFor sampleSite sampleActor) (.initial World.empty) sampleActions
      last ∧ decide ((last.world.rows .userSettings).length = 1) = true := by
    apply Run.of_runsTo
    decide +kernel
  obtain ⟨last, run, stored⟩ := reached
  have sound : Sound sampleSite World.empty := by
    intro relation row member
    cases member
  obtain ⟨alone, runs, threads, -⟩ := @requests_isolated _ _ "bob" _ _ _ sound run
  exact ⟨last, alone, run, of_decide_eq_true stored, runs, threads 1 rfl⟩

end Runs

end BrainMate.WriteRight.Workspace
