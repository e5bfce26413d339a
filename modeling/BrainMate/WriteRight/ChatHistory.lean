import BrainMate.Storage.Newest
import BrainMate.Storage.Table
import BrainMate.WriteRight.PromptBuilder

/-! The history a worker shows the model, against the one the route selects from the same rows. -/

namespace BrainMate.WriteRight.Prompt

open Storage ModelResponse

/-- A row of `writeright_messages`; `deleted` where `deleted_at` is set. -/
structure StoredMessage where
  id : String
  chatId : String
  role : PyStr
  content : PyStr
  createdAt : Nat
  deleted : Bool := false
  deriving DecidableEq, Repr

abbrev MessageTable := Table StoredMessage String StoredMessage.id

variable (messages : MessageTable)

def chatRows (chatId : String) : List StoredMessage :=
  messages.rows.filter fun row => row.chatId = chatId

/-- `_fetch_history_sync`. -/
def fetchHistorySync (chatId : String) (limit : Nat) : List StoredMessage :=
  (ascending StoredMessage.createdAt (chatRows messages chatId)).take limit

/-- What `process_job` passes on to `build_messages`. -/
def processJobHistory (chatId : String) : List HistoryRow :=
  (fetchHistorySync messages chatId 20).map fun row => { role := row.role, content := row.content }

/-- Neither deleted nor the message the job is about. -/
def isEarlier (currentMessageId : String) (row : StoredMessage) : Bool :=
  row.id != currentMessageId && !row.deleted

/-- The rows that `fetchChatHistory` selects, in the order it returns them. -/
def selectHistory (chatId currentMessageId : String) (limit : Nat) : List StoredMessage :=
  ((descending StoredMessage.createdAt
    ((chatRows messages chatId).filter (isEarlier currentMessageId))).take limit).reverse

variable {messages} {chatId currentMessageId : String}

private theorem recent_eq_rtake {Row : Type} (rows : List Row) {count : Nat}
    (positive : 0 < count) :
    recent rows count = rows.rtake count := by
  rw [recent, sliceFrom, List.rtake]
  split
  · rw [if_neg (by omega)]
    congr 2
    omega
  · rw [Nat.sub_eq_zero_of_le (by omega), List.drop_zero]

private theorem recent_map {Row Other : Type} (show_ : Row → Other) (rows : List Row)
    (count : Int) :
    recent (rows.map show_) count = (recent rows count).map show_ := by
  simp only [recent, sliceFrom, List.length_map, List.map_drop, apply_ite (List.map show_)]

/-- The cut goes through the rows as it does through what is passed on of them. -/
theorem recent_processJobHistory (count : Int) :
    recent (processJobHistory messages chatId) count =
      (recent (fetchHistorySync messages chatId 20) count).map fun row =>
        { role := row.role, content := row.content } := recent_map _ _ count

/-- The route selects the last of the messages that are left, oldest first. -/
theorem selectHistory_eq (distinct : ((chatRows messages chatId).map StoredMessage.createdAt).Nodup)
    (limit : Nat) :
    selectHistory messages chatId currentMessageId limit =
      ((ascending StoredMessage.createdAt (chatRows messages chatId)).filter
        (isEarlier currentMessageId)).rtake limit := by
  have distinct' : (((chatRows messages chatId).filter (isEarlier currentMessageId)).map
      StoredMessage.createdAt).Nodup := distinct.sublist (List.filter_sublist.map _)
  rw [filter_ascending _ distinct, List.rtake_eq_reverse_take_reverse,
    ← reverse_descending distinct', List.reverse_reverse]
  rfl

/-- The worker shows what the route selects just where the last ten of the first twenty messages are
earlier ones that are there, and no such message comes after the twentieth. -/
theorem workerHistory_newest_iff
    (distinct : ((chatRows messages chatId).map StoredMessage.createdAt).Nodup) :
    recent (fetchHistorySync messages chatId 20) 10 =
        selectHistory messages chatId currentMessageId 10 ↔
      (∀ row ∈ ((ascending StoredMessage.createdAt (chatRows messages chatId)).take 20).rtake 10,
        isEarlier currentMessageId row = true) ∧
      ∀ row ∈ (ascending StoredMessage.createdAt (chatRows messages chatId)).drop 20,
        isEarlier currentMessageId row = false := by
  have cut : recent (fetchHistorySync messages chatId 20) 10 =
      (fetchHistorySync messages chatId 20).rtake 10 := recent_eq_rtake _ (by decide)
  have nodup : (ascending StoredMessage.createdAt (chatRows messages chatId)).Nodup :=
    ascending_perm.nodup_iff.mpr (List.Nodup.of_map _ distinct)
  rw [cut, fetchHistorySync, selectHistory_eq distinct]
  generalize ascending StoredMessage.createdAt (chatRows messages chatId) = rows at nodup
  have parts := rows.take_append_drop 20
  have whole := @rtake_eq_rtake_filter_iff _ (rows.take 20) (rows.drop 20) 10
    (isEarlier currentMessageId) (parts.symm ▸ nodup) (by decide)
  rwa [parts] at whole

/-- Messages that were sent one after the other; the last is the one the job is about. -/
def sentMessages (count : Nat) : List StoredMessage :=
  (List.range count).map fun index =>
    { id := toString index, chatId := "chat", role := pyText "user", content := [index]
      createdAt := index }

def longChat : MessageTable := ⟨sentMessages 22, by decide +kernel⟩

/-- Of twenty-two messages the worker shows the eleventh to the twentieth, and the route selects
the twelfth to the twenty-first. -/
theorem workerHistory_stale :
    ((chatRows longChat "chat").map StoredMessage.createdAt).Nodup ∧
      recent (processJobHistory longChat "chat") 10 ≠
        (selectHistory longChat "chat" "21" 10).map fun row =>
          { role := row.role, content := row.content } := by
  decide +kernel

theorem longChat_not_newest :
    recent (fetchHistorySync longChat "chat" 20) 10 ≠ selectHistory longChat "chat" "21" 10 := by
  have distinct : ((chatRows longChat "chat").map StoredMessage.createdAt).Nodup := by decide +kernel
  intro same
  have none_later := ((workerHistory_newest_iff distinct).mp same).2
  exact absurd none_later (by decide +kernel)

end BrainMate.WriteRight.Prompt
