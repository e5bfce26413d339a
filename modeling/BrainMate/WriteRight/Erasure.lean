import BrainMate.Storage.ForeignKeys

/-! The tables of WriteRight with their foreign keys, as the migrations leave them, and
`fn_erase_writeright_user_data` of migration 0016. A row keeps its primary key, its
references and the user it carries; no other column bears on a DELETE. -/

namespace BrainMate.WriteRight

open Storage

inductive DbTable where
  | chats
  | messages
  | aiJobs
  | usage
  | shares
  | templates
  | streaks
  | achievements
  | writingProfiles
  | feedback
  | userSettings
  | quota
  | dailyUsage
  | collabDrafts
  | brandVoice
  | chatDrafts
  | dailyChallenges
  | challengeCompletions
  | collabComments
  | smartSuggestions
  | writingSessions
  | projects
  | artifacts
  deriving DecidableEq, Repr

/-- The columns that refer to another table. -/
inductive DbReference where
  | messageChat
  | jobChat
  | jobMessage
  | usageChat
  | usageJob
  | shareChat
  | shareJob
  | feedbackChat
  | feedbackJob
  | chatDraftChat
  | completionChallenge
  | completionJob
  | suggestionChat
  | artifactProject
  deriving DecidableEq, Repr

/-- Migrations 0002 to 0034. The two keys of migration 0022 have no ON DELETE. -/
def dbSchema : Schema DbTable DbReference where
  keys := [.messageChat, .jobChat, .jobMessage, .usageChat, .usageJob, .shareChat, .shareJob,
    .feedbackChat, .feedbackJob, .chatDraftChat, .completionChallenge, .completionJob,
    .suggestionChat, .artifactProject]
  complete key := by cases key <;> decide
  source
    | .messageChat => .messages
    | .jobChat | .jobMessage => .aiJobs
    | .usageChat | .usageJob => .usage
    | .shareChat | .shareJob => .shares
    | .feedbackChat | .feedbackJob => .feedback
    | .chatDraftChat => .chatDrafts
    | .completionChallenge | .completionJob => .challengeCompletions
    | .suggestionChat => .smartSuggestions
    | .artifactProject => .artifacts
  target
    | .messageChat | .jobChat | .usageChat | .shareChat | .feedbackChat | .chatDraftChat
    | .suggestionChat => .chats
    | .jobMessage => .messages
    | .usageJob | .shareJob | .feedbackJob | .completionJob => .aiJobs
    | .completionChallenge => .dailyChallenges
    | .artifactProject => .projects
  onDelete
    | .completionChallenge | .completionJob => .noAction
    | .messageChat | .jobChat | .jobMessage | .usageChat | .usageJob | .shareChat | .shareJob
    | .feedbackChat | .feedbackJob | .chatDraftChat | .suggestionChat | .artifactProject => .cascade
  rank
    | .messages | .artifacts => 1
    | .aiJobs => 2
    | .usage | .shares | .feedback | .chatDrafts | .challengeCompletions | .smartSuggestions => 3
    | .chats | .templates | .streaks | .achievements | .writingProfiles | .userSettings | .quota
    | .dailyUsage | .collabDrafts | .brandVoice | .dailyChallenges | .collabComments
    | .writingSessions | .projects => 0
  descends key := by cases key <;> decide

/-- The columns that may be NULL. -/
def DbReference.nullable : DbReference → Bool
  | .completionJob | .suggestionChat => true
  | .messageChat | .jobChat | .jobMessage | .usageChat | .usageJob | .shareChat | .shareJob
  | .feedbackChat | .feedbackJob | .chatDraftChat | .completionChallenge | .artifactProject => false

/-- The table has a column `user_id` or `clerk_user_id`. -/
def DbTable.owned : DbTable → Bool
  | .chatDrafts | .dailyChallenges | .collabComments => false
  | .chats | .messages | .aiJobs | .usage | .shares | .templates | .streaks | .achievements
  | .writingProfiles | .feedback | .userSettings | .quota | .dailyUsage | .collabDrafts
  | .brandVoice | .challengeCompletions | .smartSuggestions | .writingSessions | .projects
  | .artifacts => true

/-- The value of `user_id` or `clerk_user_id`. -/
structure Owner where
  user? : Option String
  deriving DecidableEq, Repr

abbrev DbRow : Type := Record DbReference String Owner

abbrev Db : Type := Database DbTable DbReference String Owner

/-- What the constraints of the migrations say of these columns. -/
structure WellFormed (db : Db) : Prop where
  integrity : dbSchema.Integrity db
  notNull : ∀ key, key.nullable = false → ∀ row ∈ db (dbSchema.source key), (row.ref key).isSome
  owned : ∀ table, ∀ row ∈ db table, row.data.user?.isSome = table.owned

/-- The row carries the user. -/
def carries (userId : String) (row : DbRow) : Bool := decide (row.data.user? = some userId)

/-- The tables of the DELETE statements, in their order. -/
def erasedTables : List DbTable :=
  [.achievements, .usage, .feedback, .streaks, .writingProfiles, .quota, .userSettings, .shares,
    .templates, .chats]

/-- The statements run in one transaction: a violation undoes all of them. -/
def eraseWriterightUserData (userId : String) (db : Db) : Option Db :=
  erasedTables.foldlM (fun db table => dbSchema.deleteWhere db table (carries userId)) db

/-- The erasure succeeds, leaves nothing of the user, and nothing else is changed. -/
def Erases (userId : String) (db : Db) : Prop :=
  ∃ after, eraseWriterightUserData userId db = some after ∧
    (∀ table, ∀ row ∈ after table, carries userId row = false) ∧
    ∀ table other, other ≠ userId →
      (after table).filter (carries other) = (db table).filter (carries other)

/-- The row is a chat of the user, or goes with one. -/
abbrev UnderChats (userId : String) (db : Db) : DbTable → DbRow → Prop :=
  dbSchema.Hangs db (Schema.rootsOf .chats (carries userId))

/-- The tables that no statement names and no cascade from a chat reaches. -/
def unreachedTables : List DbTable :=
  [.dailyUsage, .collabDrafts, .brandVoice, .challengeCompletions, .writingSessions, .projects,
    .artifacts]

/-- The tables a cascade from a chat reaches and no statement names. -/
def cascadedTables : List DbTable := [.messages, .aiJobs, .smartSuggestions]

structure Erasable (userId : String) (db : Db) : Prop where
  /-- No table that is not reached holds anything of the user. -/
  reached : ∀ table ∈ unreachedTables, ∀ row ∈ db table, carries userId row = false
  /-- What the user wrote, was written in a chat of the user. -/
  inOwnChats : ∀ table ∈ cascadedTables, ∀ row ∈ db table, carries userId row = true →
    UnderChats userId db table row
  /-- No other user has a row in a chat of the user. -/
  alone : ∀ table row other, UnderChats userId db table row → carries other row = true →
    other = userId
  /-- No challenge was completed with a job in a chat of the user. -/
  unused : ∀ row ∈ db .challengeCompletions, ∀ job ∈ db .aiJobs,
    row.ref .completionJob = some job.id → ¬ UnderChats userId db .aiJobs job

variable {userId : String} {db after : Db} {table : DbTable} {row : DbRow}

/-- The nine tables that are cleared before the chats. -/
def clearedTables : List DbTable :=
  [.achievements, .usage, .feedback, .streaks, .writingProfiles, .quota, .userSettings, .shares,
    .templates]

/-- The database at the last statement, which deletes the chats. -/
def cleared (userId : String) (db : Db) : Db := fun table =>
  if table ∈ clearedTables then (db table).filter fun row => !carries userId row else db table

private theorem erase_eq :
    eraseWriterightUserData userId db =
      dbSchema.deleteWhere (cleared userId db) .chats (carries userId) := by
  have leaves : ∀ table ∈ clearedTables, ∀ key, dbSchema.target key ≠ table := by
    intro table member key
    cases key <;> (intro same; subst same; revert member; decide)
  have split : erasedTables = clearedTables ++ [.chats] := rfl
  rw [eraseWriterightUserData, split, List.foldlM_append,
    Schema.deleteEach_leaves dbSchema (carries userId) clearedTables leaves]
  exact Option.bind_fun_some (dbSchema.deleteWhere (cleared userId db) .chats (carries userId))

theorem mem_cleared :
    row ∈ cleared userId db table ↔
      row ∈ db table ∧ (table ∈ clearedTables → carries userId row = false) := by
  unfold cleared
  split
  · rename_i clear
    simp [clear]
  · rename_i kept
    simp [kept]

/-- The cleared tables have no say in what goes with a chat. -/
theorem hangs_cleared :
    UnderChats userId (cleared userId db) table row ↔
      row ∈ cleared userId db table ∧ UnderChats userId db table row := by
  refine Schema.hangs_restricted (fun table row member => (mem_cleared.mp member).1) fun key => ?_
  have kept : dbSchema.target key ∉ clearedTables := by cases key <;> decide
  simp [cleared, kept]

/-- The tables that no cascade from a chat reaches. -/
theorem reached_of_underChats (hangs : UnderChats userId db table row) :
    table ∉ DbTable.dailyChallenges :: unreachedTables := by
  induction hangs with
  | root member isRoot =>
    simp only [Schema.rootsOf, Bool.and_eq_true, decide_eq_true_eq] at isRoot
    rw [isRoot.1]
    decide
  | along key cascades member refers above ih =>
    revert ih cascades
    cases key <;> decide

/-- The last statement goes through unless a completed challenge refers to a job that goes. -/
theorem not_blocked_iff :
    dbSchema.blocked (cleared userId db) (Schema.rootsOf .chats (carries userId)) = false ↔
      ∀ row ∈ db .challengeCompletions, ∀ job ∈ db .aiJobs,
        row.ref .completionJob = some job.id → ¬ UnderChats userId db .aiJobs job := by
  have completions : cleared userId db .challengeCompletions = db .challengeCompletions := rfl
  have jobs : cleared userId db .aiJobs = db .aiJobs := rfl
  rw [Schema.blocked_eq_false_iff]
  constructor
  · intro free row member job above refers hangs
    have stays := free .completionJob rfl row (completions ▸ member) job (jobs ▸ above) refers
      (hangs_cleared.mpr ⟨jobs ▸ above, hangs⟩)
    exact absurd (by decide) (reached_of_underChats stays)
  · intro unused key restricts row member parent above refers hangs
    cases key with
    | completionJob =>
      exact absurd (hangs_cleared.mp hangs).2 (unused row (completions ▸ member) parent
        (jobs ▸ above) refers)
    | completionChallenge =>
      have reached : DbTable.dailyChallenges ∉ DbTable.dailyChallenges :: unreachedTables :=
        reached_of_underChats hangs
      exact absurd (by decide) reached
    | _ => cases restricts

/-- What the erasure leaves, where it succeeds. -/
def remains (userId : String) (db : Db) : Db := fun table =>
  (cleared userId db table).filter fun row =>
    !dbSchema.gone (cleared userId db) (Schema.rootsOf .chats (carries userId)) table row

theorem mem_remains :
    row ∈ remains userId db table ↔
      row ∈ cleared userId db table ∧ ¬ UnderChats userId db table row := by
  rw [remains, List.mem_filter, Bool.not_eq_true', ← Bool.not_eq_true]
  constructor
  · rintro ⟨member, stays⟩
    exact ⟨member, fun hangs => stays ((Schema.gone_iff member).mpr
      (hangs_cleared.mpr ⟨member, hangs⟩))⟩
  · rintro ⟨member, free⟩
    exact ⟨member, fun goes => free (hangs_cleared.mp ((Schema.gone_iff member).mp goes)).2⟩

private theorem erase_eq_some_iff :
    eraseWriterightUserData userId db = some after ↔
      (∀ row ∈ db .challengeCompletions, ∀ job ∈ db .aiJobs,
        row.ref .completionJob = some job.id → ¬ UnderChats userId db .aiJobs job) ∧
      after = remains userId db := by
  rw [erase_eq, Schema.deleteWhere, ← not_blocked_iff]
  split
  · rename_i blocked
    simp [blocked]
  · rename_i free
    rw [Bool.not_eq_true] at free
    simp only [free, true_and, Option.some.injEq]
    exact eq_comm

/-- Each table is named by a statement, reached by a cascade, not reached, or of no user. -/
theorem table_cases (table : DbTable) :
    table ∈ clearedTables ∨ table = .chats ∨ table ∈ cascadedTables ∨ table ∈ unreachedTables ∨
      table.owned = false := by
  cases table <;> decide

private theorem not_cleared (table : DbTable)
    (other : table ∈ cascadedTables ∨ table ∈ unreachedTables) :
    table ∉ clearedTables := by
  revert other
  cases table <;> decide

/-- Every row of the user goes. -/
theorem nothing_remains_iff (wellFormed : WellFormed db) :
    (∀ table, ∀ row ∈ remains userId db table, carries userId row = false) ↔
      (∀ table ∈ unreachedTables, ∀ row ∈ db table, carries userId row = false) ∧
      ∀ table ∈ cascadedTables, ∀ row ∈ db table, carries userId row = true →
        UnderChats userId db table row := by
  constructor
  · intro nothing
    constructor
    · intro table unreached row member
      have kept : row ∈ cleared userId db table :=
        mem_cleared.mpr ⟨member, fun clear => absurd clear (not_cleared table (.inr unreached))⟩
      exact nothing table row (mem_remains.mpr ⟨kept, fun hangs =>
        reached_of_underChats hangs (.tail _ unreached)⟩)
    · intro table cascaded row member own
      have kept : row ∈ cleared userId db table :=
        mem_cleared.mpr ⟨member, fun clear => absurd clear (not_cleared table (.inl cascaded))⟩
      by_contra free
      have other := nothing table row (mem_remains.mpr ⟨kept, free⟩)
      exact Bool.false_ne_true (other.symm.trans own)
  · rintro ⟨reached, inOwnChats⟩ table row member
    obtain ⟨kept, free⟩ := mem_remains.mp member
    obtain ⟨stored, clear⟩ := mem_cleared.mp kept
    rcases table_cases table with named | rfl | cascaded | unreached | unowned
    · exact clear named
    · rw [← Bool.not_eq_true]
      intro own
      exact free (.root stored (by simp [Schema.rootsOf, own]))
    · rw [← Bool.not_eq_true]
      intro own
      exact free (inOwnChats table cascaded row stored own)
    · exact reached table unreached row stored
    · have noUser : row.data.user? = none := by
        have same := wellFormed.owned table row stored
        rw [unowned] at same
        exact Option.not_isSome_iff_eq_none.mp (by simp [same])
      simp [carries, noUser]

private theorem remains_eq_filter (userId : String) (db : Db) (table : DbTable) :
    ∃ keep, remains userId db table = (db table).filter keep := by
  unfold remains cleared
  split
  · exact ⟨_, List.filter_filter⟩
  · exact ⟨_, rfl⟩

/-- The rows of the others stay. -/
theorem others_remain_iff :
    (∀ table other, other ≠ userId →
      (remains userId db table).filter (carries other) = (db table).filter (carries other)) ↔
      ∀ table row other, UnderChats userId db table row → carries other row = true →
        other = userId := by
  constructor
  · intro same table row other hangs own
    by_contra different
    have stored : row ∈ (db table).filter (carries other) :=
      List.mem_filter.mpr ⟨hangs.member, own⟩
    rw [← same table other different] at stored
    exact (mem_remains.mp (List.mem_filter.mp stored).1).2 hangs
  · intro alone table other different
    have kept (row : DbRow) (member : row ∈ db table) (own : carries other row = true) :
        row ∈ remains userId db table := by
      refine mem_remains.mpr ⟨mem_cleared.mpr ⟨member, fun _ => ?_⟩,
        fun hangs => different (alone table row other hangs own)⟩
      simp only [carries, decide_eq_true_eq] at own
      simpa [carries, own] using different
    obtain ⟨keep, filtered⟩ := remains_eq_filter userId db table
    rw [filtered, List.filter_filter]
    refine List.filter_congr fun row member => ?_
    cases own : carries other row with
    | false => rfl
    | true =>
      have stays := kept row member own
      rw [filtered] at stays
      exact (List.mem_filter.mp stays).2

/-- The erasure succeeds, leaves nothing of the user and nothing else changed, exactly when
the user has no row in the tables it does not reach, wrote in no chat of another user, has
no row of another user in an own chat, and no completed challenge refers to a job in one. -/
theorem erases_iff (userId : String) (db : Db) (wellFormed : WellFormed db) :
    Erases userId db ↔ Erasable userId db := by
  constructor
  · rintro ⟨after, erased, nothing, others⟩
    obtain ⟨unused, rfl⟩ := erase_eq_some_iff.mp erased
    obtain ⟨reached, inOwnChats⟩ := (nothing_remains_iff wellFormed).mp nothing
    exact ⟨reached, inOwnChats, others_remain_iff.mp others, unused⟩
  · rintro ⟨reached, inOwnChats, alone, unused⟩
    exact ⟨_, erase_eq_some_iff.mpr ⟨unused, rfl⟩,
      (nothing_remains_iff wellFormed).mpr ⟨reached, inOwnChats⟩, others_remain_iff.mpr alone⟩

def sampleRow (id userId : String) (refs : List (DbReference × String)) : DbRow where
  id := id
  ref key := (refs.find? fun entry => entry.1 = key).map Prod.snd
  data := ⟨some userId⟩

/-- What `upsert_writing_session` leaves of a user who has deleted every chat. -/
def sessionDb : Db
  | .writingSessions => [sampleRow "session" "user" []]
  | _ => []

/-- A challenge completed with a job in a chat of the user. -/
def challengeDb : Db
  | .chats => [sampleRow "chat" "user" []]
  | .messages => [sampleRow "message" "user" [(.messageChat, "chat")]]
  | .aiJobs => [sampleRow "job" "user" [(.jobChat, "chat"), (.jobMessage, "message")]]
  | .dailyChallenges => [⟨"challenge", fun _ => none, ⟨none⟩⟩]
  | .challengeCompletions =>
    [sampleRow "completion" "user" [(.completionChallenge, "challenge"), (.completionJob, "job")]]
  | _ => []

/-- Two users: the first has a chat with all that hangs on it, the second a session. -/
def chatDb : Db
  | .chats => [sampleRow "chat" "user" []]
  | .messages => [sampleRow "message" "user" [(.messageChat, "chat")]]
  | .aiJobs => [sampleRow "job" "user" [(.jobChat, "chat"), (.jobMessage, "message")]]
  | .usage => [sampleRow "usage" "user" [(.usageChat, "chat"), (.usageJob, "job")]]
  | .writingSessions => [sampleRow "session" "other" []]
  | _ => []

/-- The constraints, as a check of the rows of each table. -/
theorem WellFormed.of_check (db : Db)
    (unique : ∀ table, ((db table).map Record.id).Nodup)
    (references : ∀ key, (db (dbSchema.source key)).all (fun row =>
      (key.nullable || (row.ref key).isSome) &&
        (row.ref key).all fun id => (db (dbSchema.target key)).any fun parent =>
          decide (parent.id = id)) = true)
    (owned : ∀ table, (db table).all (fun row => row.data.user?.isSome == table.owned) = true) :
    WellFormed db := by
  simp only [List.all_eq_true, Bool.and_eq_true, Bool.or_eq_true, Option.all_eq_true,
    List.any_eq_true, decide_eq_true_eq, beq_iff_eq] at references owned
  refine ⟨⟨unique, fun key row member => (references key row member).2⟩, ?_, owned⟩
  intro key required row member
  simpa [required] using (references key row member).1

theorem chat_erased : WellFormed chatDb ∧ Erases "user" chatDb := by
  have wellFormed : WellFormed chatDb := by
    refine .of_check chatDb ?_ ?_ ?_
    · intro table
      cases table <;> decide
    · intro key
      cases key <;> decide
    · intro table
      cases table <;> decide
  refine ⟨wellFormed, (erases_iff "user" chatDb wellFormed).mpr ⟨?_, ?_, ?_, ?_⟩⟩
  · decide
  · intro table cascaded row member own
    refine (Schema.gone_iff member).mp ?_
    revert row cascaded
    cases table <;> decide
  · intro table row other hangs own
    have member := hangs.member
    have goes := (Schema.gone_iff member).mpr hangs
    have users : row.data.user? = some "user" := by
      clear hangs own
      revert goes
      revert row
      cases table <;> decide
    simpa [carries, users, eq_comm] using own
  · intro row member
    cases member

/-- The writing session of the user is left; the completed challenge makes the erasure fail. -/
theorem erasure_incomplete :
    (WellFormed sessionDb ∧ ¬ Erases "user" sessionDb) ∧
    WellFormed challengeDb ∧ eraseWriterightUserData "user" challengeDb = none := by
  refine ⟨⟨.of_check sessionDb ?_ ?_ ?_, ?_⟩, .of_check challengeDb ?_ ?_ ?_, ?_⟩
  · intro table
    cases table <;> decide
  · intro key
    cases key <;> decide
  · intro table
    cases table <;> decide
  · rintro ⟨after, erased, nothing, _⟩
    have left : (eraseWriterightUserData "user" sessionDb).all fun after =>
        (after .writingSessions).any (carries "user") := by decide
    rw [erased, Option.all_some, List.any_eq_true] at left
    obtain ⟨row, member, own⟩ := left
    exact Bool.false_ne_true ((nothing _ row member).symm.trans own)
  · intro table
    cases table <;> decide
  · intro key
    cases key <;> decide
  · intro table
    cases table <;> decide
  · rfl

end BrainMate.WriteRight
