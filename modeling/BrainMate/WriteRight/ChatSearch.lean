import BrainMate.Storage.Newest
import BrainMate.Storage.Table
import BrainMate.Text.Blanks
import BrainMate.Text.LikePattern
import BrainMate.WriteRight.CacheKey

/-! GET /api/writeright/search, and which queries it finds literally. -/

namespace BrainMate.WriteRight.Search

open Storage Text

abbrev Uuid := BitVec 128

inductive Role where
  | user
  | assistant
  deriving DecidableEq, Repr

structure ChatRow where
  id : Uuid
  userId : String
  title : List Char
  mode : String
  /-- In microseconds. -/
  updatedAt : Nat
  deleted : Bool := false
  deriving DecidableEq, Repr

structure MessageRow where
  chatId : Uuid
  userId : String
  role : Role
  content : List Char
  createdAt : Nat
  deleted : Bool := false
  deriving DecidableEq, Repr

/-- The two tables; a message is stored for the owner of its chat only. -/
structure SearchDb where
  chats : Table ChatRow Uuid ChatRow.id
  messages : List MessageRow
  owned : ∀ message ∈ messages, ∀ chat ∈ chats.rows,
    message.chatId = chat.id → message.userId = chat.userId

/-- ASCII characters that are no letters have no other case. -/
def isSign (char : Char) : Bool := char.toNat < 0x80 && !char.isAlpha

/-- What the database and the platform do with texts. -/
structure SearchPlatform where
  /-- The case folding of `ILIKE`. -/
  fold : Char → Char
  fold_sign : ∀ {char other : Char}, isSign char = true → fold char = fold other → char = other
  /-- The REST layer reads `*` as `%`. -/
  aliased : Bool
  toLowerCase : List UInt16 → List UInt16

/-- `\s`. -/
def isBlank (char : Char) : Bool := (unitsOf char).any isTrimmed

def apostrophe : Char := Char.ofNat 0x27

def doubled (char : Char) : List Char := if char = apostrophe then [char, char] else [char]

def isOperator (char : Char) : Bool := ['|', '&', '!', '(', ')'].contains char

def withoutOperator (char : Char) : Char := if isOperator char then ' ' else char

def sanitizeSearchQuery (query : List Char) : List Char :=
  trimBy isBlank (squeeze isBlank ' ' false ((query.flatMap doubled).map withoutOperator))

def SearchPlatform.wire (platform : SearchPlatform) (char : Char) : Char :=
  if platform.aliased && char == '*' then '%' else char

/-- `.ilike(column, "%" + query + "%")`. -/
def SearchPlatform.ilike (platform : SearchPlatform) (query text : List Char) : Bool :=
  Like.accepts platform.fold (Like.read ('%' :: (query.map platform.wire ++ ['%']))) text

def searchLimit : Nat := 30

/-- What the counter of `checkSearchRateLimit` says; an error of the check is logged only. -/
inductive RateCheck where
  | circuitOpen
  | counted (count : Nat)
  | failed
  deriving DecidableEq, Repr

def RateCheck.allowed : RateCheck → Bool
  | circuitOpen => true
  | counted count => count ≤ 60
  | failed => true

inductive SearchFailure where
  | unauthorized
  | rateLimited
  | invalidQuery
  | queryTooShort
  | searchFailed
  deriving DecidableEq, Repr

/-- The code, the message and the status of the answer. -/
def SearchFailure.response : SearchFailure → String × String × Nat
  | unauthorized => ("UNAUTHORIZED", "Not authenticated", 401)
  | rateLimited => ("RATE_LIMITED", "Search rate limit exceeded", 429)
  | invalidQuery => ("VALIDATION_ERROR", "Invalid query", 400)
  | queryTooShort => ("VALIDATION_ERROR", "Query too short", 400)
  | searchFailed => ("DB_ERROR", "Search failed", 500)

structure SearchResult where
  chatId : Uuid
  chatTitle : List Char
  messageSnippet : List UInt16
  mode : String
  updatedAt : Nat
  deriving DecidableEq, Repr

def indexOf? (part text : List UInt16) : Option Nat :=
  text.tails.findIdx? fun tail => part.isPrefixOf tail

def SearchPlatform.snippetForQuery (platform : SearchPlatform) (content query : List UInt16) :
    List UInt16 :=
  let normalized := trimBy isTrimmed (squeeze isTrimmed 0x20 false content)
  let q := platform.toLowerCase query
  match indexOf? q (platform.toLowerCase normalized) with
  | none => normalized.take 180
  | some idx =>
    let start := idx - 40
    let end_ := min normalized.length (idx + q.length + 90)
    (if 0 < start then units "…" else []) ++ (normalized.take end_).drop start ++
      if end_ < normalized.length then units "…" else []

section

variable (platform : SearchPlatform) (db : SearchDb) (userId : String) (query : List Char)

/-- The chats that the first query matches. -/
def titleRows : List ChatRow :=
  db.chats.rows.filter fun row =>
    row.userId == userId && !row.deleted && platform.ilike query row.title

/-- The messages that the second query matches. -/
def messageRows : List MessageRow :=
  db.messages.filter fun row =>
    row.userId == userId && row.role == .user && !row.deleted && platform.ilike query row.content

def titleMatches : List ChatRow :=
  (descending ChatRow.updatedAt (titleRows platform db userId query)).take searchLimit

def messageMatches : List MessageRow :=
  (descending MessageRow.createdAt (messageRows platform db userId query)).take searchLimit

/-- The chats of the messages found. -/
def supplementalChats : List ChatRow :=
  db.chats.rows.filter fun row =>
    row.userId == userId && !row.deleted &&
      ((messageMatches platform db userId query).map MessageRow.chatId).contains row.id

/-- What `chatMeta` holds; the last row of a chat counts. -/
def chatMeta? (chatId : Uuid) : Option ChatRow :=
  (titleMatches platform db userId query ++ supplementalChats platform db userId query).reverse.find?
    fun row => row.id == chatId

def hasResult (results : List SearchResult) (chatId : Uuid) : Bool :=
  results.any fun result => result.chatId == chatId

def addMessage (results : List SearchResult) (row : MessageRow) : List SearchResult :=
  if hasResult results row.chatId then results
  else
    match chatMeta? platform db userId query row.chatId with
    | none => results
    | some found =>
      results ++ [{
        chatId := row.chatId
        chatTitle := found.title
        messageSnippet :=
          platform.snippetForQuery (row.content.flatMap unitsOf) (query.flatMap unitsOf)
        mode := found.mode
        updatedAt := found.updatedAt }]

def addTitle (results : List SearchResult) (row : ChatRow) : List SearchResult :=
  if hasResult results row.id then results
  else
    results ++ [{
      chatId := row.id
      chatTitle := row.title
      messageSnippet := units "Title matches \"" ++ query.flatMap unitsOf ++ units "\""
      mode := row.mode
      updatedAt := row.updatedAt }]

/-- `resultsByChatId`. -/
def resultsByChatId : List SearchResult :=
  (titleMatches platform db userId query).foldl (addTitle query)
    ((messageMatches platform db userId query).foldl (addMessage platform db userId query) [])

/-- The results, sorted by the milliseconds of a `Date`. -/
def search : List SearchResult :=
  (descending (fun result => result.updatedAt / 1000)
    (resultsByChatId platform db userId query)).take searchLimit

end

/-- `GET`; a text of the database has no character with code zero. -/
def get (platform : SearchPlatform) (db : SearchDb) (userId : Option String) (rate : RateCheck)
    (q : Option (List Char)) : Except SearchFailure (List SearchResult) :=
  match userId with
  | none => .error .unauthorized
  | some userId =>
    if !rate.allowed then .error .rateLimited
    else
      let query := trimBy isBlank (q.getD [])
      if query.isEmpty then .ok []
      else if 100 < (query.flatMap unitsOf).length then .error .invalidQuery
      else
        let displayQuery := sanitizeSearchQuery query
        if displayQuery.isEmpty then .error .queryTooShort
        else if displayQuery.contains (Char.ofNat 0) then .error .searchFailed
        else .ok (search platform db userId displayQuery)

/-- A step gives the chat of a row a result where the row is taken and the chat has none yet. -/
structure AddsOnce {Row : Type} (add : List SearchResult → Row → List SearchResult)
    (chat : Row → Uuid) (taken : Row → Prop) : Prop where
  mem : ∀ results row chatId, chatId ∈ (add results row).map SearchResult.chatId ↔
    chatId ∈ results.map SearchResult.chatId ∨ chatId = chat row ∧ taken row
  nodup : ∀ results row, (results.map SearchResult.chatId).Nodup →
    ((add results row).map SearchResult.chatId).Nodup
  length : ∀ results row, (add results row).length ≤ results.length + 1

namespace AddsOnce

variable {Row : Type} {add : List SearchResult → Row → List SearchResult} {chat : Row → Uuid}
  {taken : Row → Prop} (adds : AddsOnce add chat taken)

include adds

private theorem mem_foldl (rows : List Row) (results : List SearchResult) (chatId : Uuid) :
    chatId ∈ (rows.foldl add results).map SearchResult.chatId ↔
      chatId ∈ results.map SearchResult.chatId ∨ ∃ row ∈ rows, chatId = chat row ∧ taken row := by
  induction rows generalizing results with
  | nil => simp
  | cons row rest ih =>
    rw [List.foldl_cons, ih, adds.mem, or_assoc]
    simp only [List.mem_cons, exists_eq_or_imp]

private theorem nodup_foldl (rows : List Row) {results : List SearchResult}
    (nodup : (results.map SearchResult.chatId).Nodup) :
    ((rows.foldl add results).map SearchResult.chatId).Nodup := by
  induction rows generalizing results with
  | nil => exact nodup
  | cons row rest ih => exact ih (adds.nodup results row nodup)

private theorem length_foldl (rows : List Row) (results : List SearchResult) :
    (rows.foldl add results).length ≤ results.length + rows.length := by
  induction rows generalizing results with
  | nil => exact Nat.le_refl _
  | cons row rest ih =>
    rw [List.foldl_cons, List.length_cons]
    have := ih (add results row)
    have := adds.length results row
    omega

end AddsOnce

private theorem hasResult_iff {results : List SearchResult} {chatId : Uuid} :
    hasResult results chatId = true ↔ chatId ∈ results.map SearchResult.chatId := by
  simp [hasResult]

/-- A result that is added where there is none of its chat. -/
theorem adds_result {results : List SearchResult} {result : SearchResult}
    (absent : ¬hasResult results result.chatId = true) (chatId : Uuid) :
    (chatId ∈ (results ++ [result]).map SearchResult.chatId ↔
      chatId ∈ results.map SearchResult.chatId ∨ chatId = result.chatId) ∧
    ((results.map SearchResult.chatId).Nodup →
      ((results ++ [result]).map SearchResult.chatId).Nodup) := by
  rw [hasResult_iff] at absent
  rw [List.map_append, List.map_singleton]
  refine ⟨by simp, fun nodup => ?_⟩
  exact nodup.append (List.nodup_singleton _) (List.disjoint_singleton.mpr absent)

private theorem addTitle_addsOnce (query : List Char) :
    AddsOnce (addTitle query) ChatRow.id fun _ => True where
  mem results row chatId := by
    rw [addTitle]
    split
    · rename_i present
      rw [hasResult_iff] at present
      constructor
      · exact .inl
      · rintro (before | ⟨rfl, -⟩)
        · exact before
        · exact present
    · rename_i absent
      rw [and_true]
      exact (adds_result absent chatId).1
  nodup results row nodup := by
    rw [addTitle]
    split
    · exact nodup
    · rename_i absent
      exact (adds_result absent row.id).2 nodup
  length results row := by
    rw [addTitle]
    split
    · exact Nat.le_succ _
    · rw [List.length_append, List.length_singleton]

private theorem addMessage_addsOnce (platform : SearchPlatform) (db : SearchDb) (userId : String)
    (query : List Char) : AddsOnce (addMessage platform db userId query) MessageRow.chatId
    fun row => (chatMeta? platform db userId query row.chatId).isSome where
  mem results row chatId := by
    rw [addMessage]
    split
    · rename_i present
      rw [hasResult_iff] at present
      constructor
      · exact .inl
      · rintro (before | ⟨rfl, -⟩)
        · exact before
        · exact present
    · rename_i absent
      split
      · rename_i missing
        simp [missing]
      · rename_i found
        rw [found, Option.isSome_some, and_iff_left rfl]
        exact (adds_result absent chatId).1
  nodup results row nodup := by
    rw [addMessage]
    split
    · exact nodup
    · rename_i absent
      split
      · exact nodup
      · exact (adds_result absent row.chatId).2 nodup
  length results row := by
    rw [addMessage]
    split
    · exact Nat.le_succ _
    · split
      · exact Nat.le_succ _
      · rw [List.length_append, List.length_singleton]

section

variable {platform : SearchPlatform} {db : SearchDb} {userId : String} {query : List Char}

/-- Fewer rows match than either query may return. -/
def FewMatch (platform : SearchPlatform) (db : SearchDb) (userId : String) (query : List Char) :
    Prop :=
  (titleRows platform db userId query).length + (messageRows platform db userId query).length <
    searchLimit

private theorem mem_titleMatches (few : FewMatch platform db userId query) {row : ChatRow} :
    row ∈ titleMatches platform db userId query ↔ row ∈ titleRows platform db userId query := by
  rw [titleMatches, List.take_of_length_le, descending_perm.mem_iff]
  rw [descending_perm.length_eq]
  exact (Nat.le_add_right _ _).trans few.le

private theorem mem_messageMatches (few : FewMatch platform db userId query) {row : MessageRow} :
    row ∈ messageMatches platform db userId query ↔ row ∈ messageRows platform db userId query := by
  rw [messageMatches, List.take_of_length_le, descending_perm.mem_iff]
  rw [descending_perm.length_eq]
  exact (Nat.le_add_left _ _).trans few.le

private theorem chatMeta_isSome {chatId : Uuid} :
    (chatMeta? platform db userId query chatId).isSome ↔
    ∃ row, (row ∈ titleMatches platform db userId query ∨
      row ∈ supplementalChats platform db userId query) ∧ row.id = chatId := by
  simp only [chatMeta?, List.find?_isSome, List.mem_reverse, List.mem_append, beq_iff_eq]

/-- The user has a chat there of which the title or a message of the user is such a text. -/
def HasText (holds : List Char → Prop) (db : SearchDb) (userId : String) (chatId : Uuid) : Prop :=
  ∃ chat ∈ db.chats.rows, chat.id = chatId ∧ chat.userId = userId ∧ chat.deleted = false ∧
    (holds chat.title ∨ ∃ message ∈ db.messages, message.chatId = chatId ∧ message.role = .user ∧
      message.deleted = false ∧ holds message.content)

private theorem mem_titleRows {row : ChatRow} : row ∈ titleRows platform db userId query ↔
    row ∈ db.chats.rows ∧ row.userId = userId ∧ row.deleted = false ∧
      platform.ilike query row.title = true := by
  simp [titleRows, and_assoc]

private theorem mem_messageRows {row : MessageRow} : row ∈ messageRows platform db userId query ↔
    row ∈ db.messages ∧ row.userId = userId ∧ row.role = .user ∧ row.deleted = false ∧
      platform.ilike query row.content = true := by
  simp [messageRows, and_assoc]

private theorem mem_supplementalChats {row : ChatRow} :
    row ∈ supplementalChats platform db userId query ↔
      row ∈ db.chats.rows ∧ row.userId = userId ∧ row.deleted = false ∧
        ∃ message ∈ messageMatches platform db userId query, message.chatId = row.id := by
  simp [supplementalChats, and_assoc]

private theorem mem_resultsByChatId (few : FewMatch platform db userId query) {chatId : Uuid} :
    chatId ∈ (resultsByChatId platform db userId query).map SearchResult.chatId ↔
      HasText (fun text => platform.ilike query text = true) db userId chatId := by
  rw [resultsByChatId, (addTitle_addsOnce query).mem_foldl,
    (addMessage_addsOnce platform db userId query).mem_foldl]
  constructor
  · rintro ((none_ | ⟨message, member, rfl, known⟩) | ⟨chat, member, rfl, -⟩)
    · simp at none_
    · obtain ⟨matched, -, user, kept, accepted⟩ :=
        mem_messageRows.mp ((mem_messageMatches few).mp member)
      have asked : HasText (fun text => platform.ilike query text = true) db userId message.chatId ↔
          ∃ chat ∈ db.chats.rows, chat.id = message.chatId ∧ chat.userId = userId ∧
            chat.deleted = false := by
        constructor
        · rintro ⟨chat, stored, same, owner, there, -⟩
          exact ⟨chat, stored, same, owner, there⟩
        · rintro ⟨chat, stored, same, owner, there⟩
          exact ⟨chat, stored, same, owner, there, .inr ⟨message, matched, rfl, user, kept, accepted⟩⟩
      rw [asked]
      obtain ⟨chat, found | found, same⟩ := chatMeta_isSome.mp known
      · obtain ⟨stored, owner, there, -⟩ := mem_titleRows.mp ((mem_titleMatches few).mp found)
        exact ⟨chat, stored, same, owner, there⟩
      · obtain ⟨stored, owner, there, -⟩ := mem_supplementalChats.mp found
        exact ⟨chat, stored, same, owner, there⟩
    · obtain ⟨stored, owner, there, accepted⟩ := mem_titleRows.mp ((mem_titleMatches few).mp member)
      exact ⟨chat, stored, rfl, owner, there, .inl accepted⟩
  · rintro ⟨chat, stored, rfl, owner, there, accepted | ⟨message, sent, same, user, kept, accepted⟩⟩
    · right
      have matched := mem_titleRows.mpr ⟨stored, owner, there, accepted⟩
      exact ⟨chat, (mem_titleMatches few).mpr matched, rfl, trivial⟩
    · left
      right
      have author := (db.owned message sent chat stored same).trans owner
      have matched := (mem_messageMatches few).mpr
        (mem_messageRows.mpr ⟨sent, author, user, kept, accepted⟩)
      refine ⟨message, matched, same.symm, chatMeta_isSome.mpr ⟨chat, .inr ?_, same.symm⟩⟩
      exact mem_supplementalChats.mpr ⟨stored, owner, there, message, matched, same⟩

private theorem length_resultsByChatId (few : FewMatch platform db userId query) :
    (resultsByChatId platform db userId query).length < searchLimit := by
  have titles := (addTitle_addsOnce query).length_foldl
    (titleMatches platform db userId query)
    ((messageMatches platform db userId query).foldl (addMessage platform db userId query) [])
  have messages := (addMessage_addsOnce platform db userId query).length_foldl
    (messageMatches platform db userId query) []
  have titles_le : (titleMatches platform db userId query).length ≤
      (titleRows platform db userId query).length :=
    (List.length_take_le' _ _).trans descending_perm.length_eq.le
  have messages_le : (messageMatches platform db userId query).length ≤
      (messageRows platform db userId query).length :=
    (List.length_take_le' _ _).trans descending_perm.length_eq.le
  rw [FewMatch] at few
  rw [resultsByChatId]
  exact titles.trans_lt (by simp only [List.length_nil] at messages; omega)

private theorem search_perm (few : FewMatch platform db userId query) :
    (search platform db userId query).Perm (resultsByChatId platform db userId query) := by
  rw [search, List.take_of_length_le]
  · exact descending_perm
  · rw [descending_perm.length_eq]
    exact (length_resultsByChatId few).le

private theorem mem_search (few : FewMatch platform db userId query) {chatId : Uuid} :
    chatId ∈ (search platform db userId query).map SearchResult.chatId ↔
      HasText (fun text => platform.ilike query text = true) db userId chatId :=
  ((search_perm few).map _).mem_iff.trans (mem_resultsByChatId few)

private theorem nodup_search (few : FewMatch platform db userId query) :
    ((search platform db userId query).map SearchResult.chatId).Nodup := by
  rw [((search_perm few).map _).nodup_iff]
  exact (addTitle_addsOnce query).nodup_foldl _
    ((addMessage_addsOnce platform db userId query).nodup_foldl _ List.nodup_nil)

end

/-- A query that the route looks up. -/
structure SearchQuery where
  text : List Char
  trimmed : trimBy isBlank text = text
  nonempty : text ≠ []
  short : (text.flatMap unitsOf).length ≤ 100
  kept : sanitizeSearchQuery text ≠ []

/-- The text contains the query, but for the case of its letters. -/
def SearchPlatform.Contains (platform : SearchPlatform) (query text : List Char) : Prop :=
  query.map platform.fold <:+: text.map platform.fold

/-- The route returns the chats that contain the query, each once. -/
def FindsExactly (platform : SearchPlatform) (query : SearchQuery) : Prop :=
  ∀ (db : SearchDb) (userId : String) (rate : RateCheck), rate.allowed = true →
    FewMatch platform db userId (sanitizeSearchQuery query.text) →
    ∃ results, get platform db userId rate query.text = .ok results ∧
      (results.map SearchResult.chatId).Nodup ∧
      ∀ chatId, chatId ∈ results.map SearchResult.chatId ↔
        HasText (platform.Contains query.text) db userId chatId

/-- A character that reaches the database as it is and stands for itself there. -/
def SearchPlatform.isPlain (platform : SearchPlatform) (char : Char) : Bool :=
  char != apostrophe && !isOperator char && !Like.isWild char &&
    !(platform.aliased && char == '*') && char != Char.ofNat 0 && (!isBlank char || char == ' ')

def SearchPlatform.isPlainQuery (platform : SearchPlatform) (query : List Char) : Bool :=
  query.all platform.isPlain && singleBlanks isBlank false query

section

variable {platform : SearchPlatform} {query : SearchQuery}

private theorem get_eq {db : SearchDb} {userId : String} {rate : RateCheck}
    (allowed : rate.allowed = true) :
    get platform db userId rate query.text =
      if (sanitizeSearchQuery query.text).contains (Char.ofNat 0) then .error .searchFailed
      else .ok (search platform db userId (sanitizeSearchQuery query.text)) := by
  have nonempty : (query.text.isEmpty) = false := List.isEmpty_eq_false_iff.mpr query.nonempty
  have kept : (sanitizeSearchQuery query.text).isEmpty = false :=
    List.isEmpty_eq_false_iff.mpr query.kept
  simp only [get, allowed, Option.getD_some, query.trimmed, nonempty, kept,
    if_neg (Nat.not_lt.mpr query.short), Bool.not_true, Bool.false_eq_true, if_false]

/-- Where the query reaches the database, the route is right just if its pattern is. -/
theorem findsExactly_of_contains
    (readable : (sanitizeSearchQuery query.text).contains (Char.ofNat 0) = false)
    (agrees : ∀ text, platform.ilike (sanitizeSearchQuery query.text) text = true ↔
      platform.Contains query.text text) : FindsExactly platform query := by
  intro db userId rate allowed few
  refine ⟨_, (get_eq allowed).trans (by rw [readable]; rfl), nodup_search few, fun chatId => ?_⟩
  rw [mem_search few]
  simp only [agrees]

/-- A database of one chat without messages. -/
def oneChat (title : List Char) : SearchDb where
  chats := ⟨[{ id := 0, userId := "user", title := title, mode := "email", updatedAt := 0 }],
    List.nodup_singleton _⟩
  messages := []
  owned := fun _ sent => by cases sent

private theorem hasText_oneChat (holds : List Char → Prop) {title : List Char} :
    HasText holds (oneChat title) "user" 0 ↔ holds title := by
  simp [HasText, oneChat]

private theorem agrees_of_findsExactly (exact_ : FindsExactly platform query) :
    (sanitizeSearchQuery query.text).contains (Char.ofNat 0) = false ∧
      ∀ text, platform.ilike (sanitizeSearchQuery query.text) text = true ↔
        platform.Contains query.text text := by
  have few (text : List Char) :
      FewMatch platform (oneChat text) "user" (sanitizeSearchQuery query.text) := by
    have titles := List.length_filter_le (fun row : ChatRow => row.userId == "user" && !row.deleted &&
      platform.ilike (sanitizeSearchQuery query.text) row.title) (oneChat text).chats.rows
    exact Nat.lt_of_le_of_lt titles (by decide : 1 < searchLimit)
  have readable : (sanitizeSearchQuery query.text).contains (Char.ofNat 0) = false := by
    obtain ⟨results, answered, -⟩ := exact_ (oneChat []) "user" .circuitOpen rfl (few [])
    rw [get_eq rfl] at answered
    split at answered
    · cases answered
    · rename_i readable
      exact Bool.eq_false_of_not_eq_true readable
  refine ⟨readable, fun text => ?_⟩
  obtain ⟨results, answered, -, found⟩ := exact_ (oneChat text) "user" .circuitOpen rfl (few text)
  rw [get_eq rfl, readable] at answered
  cases answered
  rw [← hasText_oneChat (platform.Contains query.text), ← found 0, mem_search (few text),
    hasText_oneChat]

def isApostrophe (char : Char) : Bool := char == apostrophe

private theorem isBlank_dark (char : Char) (blank : isBlank char = true) :
    isApostrophe char = false := by
  by_contra other
  obtain rfl : char = apostrophe := by simpa [isApostrophe] using other
  exact absurd blank (by decide)

private theorem isOperator_dark (char : Char) (operator : isOperator char = true) :
    isApostrophe char = false := by
  by_contra other
  obtain rfl : char = apostrophe := by simpa [isApostrophe] using other
  exact absurd operator (by decide)

private theorem isWild_dark (char : Char) (wild : Like.isWild char = true) :
    isApostrophe char = false := by
  by_contra other
  obtain rfl : char = apostrophe := by simpa [isApostrophe] using other
  exact absurd wild (by decide)

private theorem isApostrophe_withoutOperator (char : Char) :
    isApostrophe (withoutOperator char) = isApostrophe char := by
  rw [withoutOperator]
  split
  · rename_i operator
    rw [isOperator_dark char operator]
    decide
  · rfl

private theorem isApostrophe_wire (char : Char) :
    isApostrophe (platform.wire char) = isApostrophe char := by
  rw [SearchPlatform.wire]
  split
  · rename_i star
    simp only [Bool.and_eq_true, beq_iff_eq] at star
    rw [star.2]
    decide
  · rfl

private theorem countP_doubled (text : List Char) :
    (text.flatMap doubled).countP isApostrophe = 2 * text.countP isApostrophe := by
  induction text with
  | nil => rfl
  | cons char rest ih =>
    rw [List.flatMap_cons, List.countP_append, ih, List.countP_cons, doubled]
    by_cases same : char = apostrophe
    · subst same
      rw [if_pos rfl, if_pos (by decide)]
      change 2 + _ = _
      omega
    · have other : isApostrophe char = false := by simpa [isApostrophe] using same
      simp [same, other]

/-- Every apostrophe is looked for twice. -/
theorem countP_sanitize (text : List Char) :
    (sanitizeSearchQuery text).countP isApostrophe = 2 * text.countP isApostrophe := by
  rw [sanitizeSearchQuery, countP_trimBy isBlank_dark, countP_squeeze isBlank_dark (by decide),
    List.countP_map, ← countP_doubled]
  congr 1
  funext char
  exact isApostrophe_withoutOperator char

private theorem flatMap_doubled {text : List Char}
    (none_ : ∀ char ∈ text, isApostrophe char = false) :
    text.flatMap doubled = text := by
  induction text with
  | nil => rfl
  | cons char rest ih =>
    have other : char ≠ apostrophe := by simpa [isApostrophe] using none_ char List.mem_cons_self
    rw [List.flatMap_cons, doubled, if_neg other,
      ih fun char member => none_ char (List.mem_cons_of_mem _ member)]
    rfl

/-- What a character is in the sanitized query. -/
def cleaned (char : Char) : Char :=
  if isBlank (withoutOperator char) then ' ' else withoutOperator char

private theorem length_sanitize_le {text : List Char}
    (none_ : ∀ char ∈ text, isApostrophe char = false) :
    (sanitizeSearchQuery text).length ≤ text.length := by
  rw [sanitizeSearchQuery, flatMap_doubled none_]
  refine (trimBy_sublist _).length_le.trans ((length_squeeze_le _ _).trans ?_)
  rw [List.length_map]

/-- Where nothing is lost, each character becomes one. -/
theorem sanitize_full {text : List Char} (none_ : ∀ char ∈ text, isApostrophe char = false)
    (full : text.length ≤ (sanitizeSearchQuery text).length) :
    singleBlanks isBlank false (text.map withoutOperator) = true ∧
      sanitizeSearchQuery text = text.map cleaned := by
  rw [sanitizeSearchQuery, flatMap_doubled none_] at full ⊢
  have squeezed_le : (squeeze isBlank ' ' false (text.map withoutOperator)).length ≤ text.length :=
    (length_squeeze_le false _).trans_eq (List.length_map _)
  have single : singleBlanks isBlank false (text.map withoutOperator) = true := by
    apply singleBlanks_of_length
    rw [List.length_map]
    exact full.trans (trimBy_sublist _).length_le
  refine ⟨single, ?_⟩
  rw [(trimBy_sublist _).eq_of_length_le (squeezed_le.trans full), squeeze_of_single single,
    List.map_map]
  rfl

private theorem withoutOperator_plain {char : Char} (plain : platform.isPlain char = true) :
    withoutOperator char = char := by
  simp only [SearchPlatform.isPlain, Bool.and_eq_true, Bool.not_eq_true'] at plain
  rw [withoutOperator, if_neg (by simp [plain.1.1.1.1.2])]

private theorem cleaned_plain {char : Char} (plain : platform.isPlain char = true) :
    cleaned char = char := by
  rw [cleaned, withoutOperator_plain plain]
  simp only [SearchPlatform.isPlain, Bool.and_eq_true, Bool.or_eq_true, Bool.not_eq_true',
    beq_iff_eq] at plain
  split
  · rename_i blank
    exact (plain.2.resolve_left (by simp [blank])).symm
  · rfl

private theorem wire_plain {char : Char} (plain : platform.isPlain char = true) :
    platform.wire char = char := by
  simp only [SearchPlatform.isPlain, Bool.and_eq_true, Bool.not_eq_true'] at plain
  rw [SearchPlatform.wire, if_neg (by simp [plain.1.1.2])]

private theorem sanitize_plain {text : List Char} (plain : platform.isPlainQuery text = true)
    (trimmed : trimBy isBlank text = text) : sanitizeSearchQuery text = text := by
  simp only [SearchPlatform.isPlainQuery, Bool.and_eq_true, List.all_eq_true] at plain
  have none_ (char : Char) (member : char ∈ text) : isApostrophe char = false := by
    have each := plain.1 char member
    simp only [SearchPlatform.isPlain, Bool.and_eq_true, bne_iff_ne] at each
    simpa [isApostrophe] using each.1.1.1.1.1
  have same : text.map withoutOperator = text :=
    (List.map_congr_left fun char member => withoutOperator_plain (plain.1 char member)).trans
      (List.map_id' text)
  have same' : text.map cleaned = text :=
    (List.map_congr_left fun char member => cleaned_plain (plain.1 char member)).trans
      (List.map_id' text)
  rw [sanitizeSearchQuery, flatMap_doubled none_, squeeze_of_single (same.symm ▸ plain.2),
    List.map_map]
  change trimBy isBlank (text.map cleaned) = text
  rw [same', trimmed]

/-- A plain query is looked for as it is. -/
theorem ilike_plain {text : List Char} (plain : platform.isPlainQuery text = true)
    (trimmed : trimBy isBlank text = text) (other : List Char) :
    platform.ilike (sanitizeSearchQuery text) other = true ↔ platform.Contains text other := by
  rw [sanitize_plain plain trimmed]
  simp only [SearchPlatform.isPlainQuery, Bool.and_eq_true, List.all_eq_true] at plain
  have same : text.map platform.wire = text :=
    (List.map_congr_left fun char member => wire_plain (plain.1 char member)).trans
      (List.map_id' text)
  have ordinary (char : Char) (member : char ∈ text) : Like.isWild char = false := by
    have each := plain.1 char member
    simp only [SearchPlatform.isPlain, Bool.and_eq_true, Bool.not_eq_true'] at each
    exact each.1.1.1.2
  have middle : Like.read (text ++ ['%']) = text.map .exactly ++ Like.read ['%'] :=
    Like.read_ordinary ordinary
  rw [SearchPlatform.ilike, same]
  change Like.accepts platform.fold (.any :: Like.read (text ++ ['%'])) other = true ↔ _
  rw [middle]
  exact Like.accepts_between

private theorem cleaned_cases (char : Char) : cleaned char = ' ' ∨
    cleaned char = char ∧ isOperator char = false ∧ isBlank char = false := by
  rw [cleaned]
  cases operator : isOperator char with
  | true =>
    have becomes : withoutOperator char = ' ' := if_pos operator
    left
    rw [becomes, ite_self]
  | false =>
    have stays : withoutOperator char = char := if_neg (by simp [operator])
    rw [stays]
    cases blank : isBlank char with
    | true => exact .inl (if_pos rfl)
    | false => exact .inr ⟨if_neg Bool.false_ne_true, rfl, rfl⟩

/-- What reappears in the shortest match is plain. -/
theorem isPlain_of_shown {char other : Char} (notApostrophe : isApostrophe char = false)
    (readable : cleaned char ≠ Char.ofNat 0)
    (shown : Like.shown 'x' (platform.wire (cleaned char)) other)
    (same : platform.fold char = platform.fold other) : platform.isPlain char = true := by
  obtain blank | ⟨kept, notOperator, notBlank⟩ := cleaned_cases char
  · have wired : platform.wire ' ' = ' ' := by simp [SearchPlatform.wire]
    rw [blank, wired] at shown
    obtain ⟨-, rfl⟩ | ⟨wrong, -⟩ | ⟨wrong, -⟩ := shown
    · obtain rfl := platform.fold_sign (by decide) same.symm
      cases star : platform.aliased <;> simp [SearchPlatform.isPlain, star] <;> decide
    · exact absurd wrong (by decide)
    · exact absurd wrong (by decide)
  · rw [kept] at shown readable
    cases star : platform.aliased && char == '*' with
    | true =>
      rw [SearchPlatform.wire, if_pos star] at shown
      obtain ⟨wrong, -⟩ | ⟨wrong, -⟩ | ⟨wrong, -⟩ := shown
      all_goals exact absurd wrong (by decide)
    | false =>
      rw [SearchPlatform.wire, if_neg (by simp [star])] at shown
      obtain ⟨notWild, -⟩ | ⟨rfl, rfl⟩ | ⟨rfl, rfl⟩ := shown
      · have unquoted : char ≠ apostrophe := by simpa [isApostrophe] using notApostrophe
        simp [SearchPlatform.isPlain, unquoted, notOperator, notWild, star, readable, notBlank]
      · exact absurd (platform.fold_sign (by decide) same) (by decide)
      · exact absurd (platform.fold_sign (by decide) same) (by decide)

private theorem isApostrophe_of_fold (char other : Char)
    (same : platform.fold char = platform.fold other) :
    isApostrophe char = isApostrophe other := by
  by_cases here : char = apostrophe
  · rw [platform.fold_sign (here ▸ by decide) same]
  · by_cases there : other = apostrophe
    · rw [platform.fold_sign (there ▸ by decide) same.symm]
    · simp [isApostrophe, here, there]

private theorem partner {related : Char → Char → Prop} {fold : Char → Char}
    {text others : List Char}
    (pairs : List.Forall₂ related text others) (same : text.map fold = others.map fold) {char : Char}
    (member : char ∈ text) : ∃ other, related char other ∧ fold char = fold other := by
  induction pairs with
  | nil => cases member
  | @cons first second text others head tail ih =>
    simp only [List.map_cons, List.cons.injEq] at same
    obtain rfl | later := List.mem_cons.mp member
    · exact ⟨second, head, same.1⟩
    · exact ih same.2 later

/-- The query itself has only half the apostrophes that are looked for. -/
theorem none_of_found {text : List Char}
    (found : platform.ilike (sanitizeSearchQuery text) text = true) :
    ∀ char ∈ text, isApostrophe char = false := by
  have few := Like.spelled_le_countP isApostrophe_of_fold found
  have many := Like.spelled_read isWild_dark ((sanitizeSearchQuery text).map platform.wire)
  have wired : ((sanitizeSearchQuery text).map platform.wire).countP isApostrophe =
      2 * text.countP isApostrophe := by
    rw [List.countP_map, ← countP_sanitize]
    congr 1
    funext char
    exact isApostrophe_wire char
  rw [wired] at many
  have total : text.countP isApostrophe = 0 := by
    have both := many.trans few
    omega
  intro char member
  exact Bool.eq_false_of_not_eq_true (List.countP_eq_zero.mp total char member)

private theorem isPlainQuery_of_agrees
    (readable : (sanitizeSearchQuery query.text).contains (Char.ofNat 0) = false)
    (agrees : ∀ text, platform.ilike (sanitizeSearchQuery query.text) text = true ↔
      platform.Contains query.text text) : platform.isPlainQuery query.text = true := by
  have none_ := none_of_found ((agrees query.text).mpr (List.infix_refl _))
  have contained := (agrees _).mp (Like.accepts_shortest 'x'
    (Like.read ('%' :: ((sanitizeSearchQuery query.text).map platform.wire ++ ['%']))))
  generalize wired_eq : (sanitizeSearchQuery query.text).map platform.wire = wired at contained
  have wired_length : wired.length = (sanitizeSearchQuery query.text).length := by
    rw [← wired_eq, List.length_map]
  have bounds := Like.shortest_read 'x' wired
  change platform.Contains query.text (Like.shortest 'x' (Like.read (wired ++ ['%']))) at contained
  generalize Like.shortest 'x' (Like.read (wired ++ ['%'])) = shortest at contained bounds
  obtain ⟨shortest_le, shown⟩ := bounds
  -- the query fits into no text that is shorter than itself, so nothing of it is lost
  have query_le : query.text.length ≤ shortest.length := by
    simpa using contained.length_le
  have sanitized_le := length_sanitize_le none_
  obtain ⟨single, sanitized⟩ := sanitize_full none_ (by omega)
  have same : query.text.map platform.fold = shortest.map platform.fold :=
    contained.eq_of_length_le (by rw [List.length_map, List.length_map]; omega)
  have pairs := shown (by omega)
  rw [← wired_eq, sanitized, List.map_map, List.forall₂_map_left_iff] at pairs
  have plain : ∀ char ∈ query.text, platform.isPlain char = true := by
    intro char member
    obtain ⟨other, shown, folded⟩ := partner pairs same member
    have written : cleaned char ≠ Char.ofNat 0 := by
      intro zero
      have there : Char.ofNat 0 ∈ sanitizeSearchQuery query.text := by
        rw [sanitized]
        exact List.mem_map.mpr ⟨char, member, zero⟩
      simp [there] at readable
    exact isPlain_of_shown (none_ char member) written shown folded
  rw [SearchPlatform.isPlainQuery, Bool.and_eq_true, List.all_eq_true]
  refine ⟨plain, ?_⟩
  rwa [(List.map_congr_left fun char member => withoutOperator_plain (plain char member)).trans
    (List.map_id' query.text)] at single

/-- The route finds what contains the query just where each character of it is plain and no white
space stands behind another. -/
theorem findsExactly_iff (platform : SearchPlatform) (query : SearchQuery) :
    FindsExactly platform query ↔ platform.isPlainQuery query.text = true := by
  constructor
  · intro exact_
    obtain ⟨readable, agrees⟩ := agrees_of_findsExactly exact_
    exact isPlainQuery_of_agrees readable agrees
  · intro plain
    refine findsExactly_of_contains ?_ (ilike_plain plain query.trimmed)
    rw [sanitize_plain plain query.trimmed]
    simp only [SearchPlatform.isPlainQuery, Bool.and_eq_true, List.all_eq_true] at plain
    by_contra there
    rw [Bool.not_eq_false, List.contains_iff_mem] at there
    exact absurd (plain.1 _ there) (by simp [SearchPlatform.isPlain])

end

private theorem toLower_sign {char other : Char} (sign : isSign char = true)
    (same : char.toLower = other.toLower) : char = other := by
  have notLetter : char.isAlpha = false := by
    simp only [isSign, Bool.and_eq_true, Bool.not_eq_true'] at sign
    exact sign.2
  delta Char.isAlpha at notLetter
  rw [Bool.or_eq_false_iff] at notLetter
  have stays : char.toLower = char := by
    delta Char.toLower
    rw [dif_neg]
    intro upper
    delta Char.isUpper at notLetter
    rw [decide_eq_false_iff_not] at notLetter
    exact notLetter.1 upper
  rw [stays] at same
  delta Char.toLower at same
  split at same
  · rename_i upper
    have lower : char.isLower = true := by
      rw [same]
      simp only [ge_iff_le, UInt32.le_iff_toNat_le] at upper
      delta Char.isLower
      simp only [Bool.and_eq_true, decide_eq_true_eq, ge_iff_le, UInt32.le_iff_toNat_le,
        UInt32.toNat_add]
      have a : ('a'.val - 'A'.val).toNat = 32 := by decide
      have b : 'A'.val.toNat = 65 := by decide
      have c : 'Z'.val.toNat = 90 := by decide
      have d : 'a'.val.toNat = 97 := by decide
      have e : 'z'.val.toNat = 122 := by decide
      omega
    rw [lower] at notLetter
    cases notLetter.2
  · exact same

/-- A database that folds ASCII letters, behind a REST layer that leaves `*` alone. -/
def asciiPlatform : SearchPlatform where
  fold := Char.toLower
  fold_sign := toLower_sign
  aliased := false
  toLowerCase := List.map lowercase

def apostropheQuery : SearchQuery where
  text := ['i', 't', apostrophe, 's']
  trimmed := by decide
  nonempty := by decide
  short := by decide
  kept := by decide

/-- A chat is not found by its whole title. -/
theorem apostropheQuery_missed : ¬FindsExactly asciiPlatform apostropheQuery := by
  intro exact_
  obtain ⟨results, answered, -, found⟩ :=
    exact_ (oneChat apostropheQuery.text) "user" (.counted 1) rfl (by rw [FewMatch]; decide)
  have none_ : get asciiPlatform (oneChat apostropheQuery.text) "user" (.counted 1)
      apostropheQuery.text = .ok [] := by decide
  rw [none_] at answered
  cases answered
  have contained := (found 0).mpr
    ((hasText_oneChat _).mpr (List.infix_refl (apostropheQuery.text.map asciiPlatform.fold)))
  cases contained

end BrainMate.WriteRight.Search
