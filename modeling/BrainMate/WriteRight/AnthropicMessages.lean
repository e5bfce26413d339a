import BrainMate.Storage.Runs
import BrainMate.WriteRight.ModelResponse

/-! `_route_anthropic` of `model_router.py`, as far as it says what messages the fallback provider
is sent. Messages of one role that stand next to each other become one. -/

namespace BrainMate.WriteRight.ModelRouter

open Storage ModelResponse

/-- A message of type `dict[str, str]`; these are the fields that the router reads. -/
structure Message where
  role : PyStr
  content : PyStr
  deriving DecidableEq, Repr

/-- The body of the loop of `_normalize_messages_for_anthropic`. -/
def mergeMessage (normalized : List Message) (msg : Message) : List Message :=
  match normalized.getLast? with
  | some last =>
    if last.role = msg.role then
      -- Merge with the previous message of the same role
      normalized.dropLast ++
        [{ role := msg.role, content := last.content ++ pyText "\n\n" ++ msg.content }]
    else normalized ++ [{ role := msg.role, content := msg.content }]
  | none => normalized ++ [{ role := msg.role, content := msg.content }]

def normalizeMessagesForAnthropic (messages : List Message) : List Message :=
  messages.foldl mergeMessage []

def isSystem (msg : Message) : Bool := msg.role = pyText "system"

/-- The last of the system messages counts. -/
def systemContent (messages : List Message) : PyStr :=
  messages.foldl (fun content msg => if isSystem msg then msg.content else content) []

/-- The fields `messages` and `system` of the payload. -/
structure Payload where
  messages : List Message
  /-- Left out where it is empty. -/
  system : Option PyStr
  deriving DecidableEq, Repr

def anthropicPayload (messages : List Message) : Payload where
  messages := normalizeMessagesForAnthropic (messages.filter fun msg => !isSystem msg)
  system := if (systemContent messages).isEmpty then none else some (systemContent messages)

def merging : Merging Message PyStr where
  key := Message.role
  merge first second := ⟨second.role, first.content ++ pyText "\n\n" ++ second.content⟩
  key_merge _ _ same := same.symm

private theorem mergeMessage_eq (normalized : List Message) (msg : Message) :
    mergeMessage normalized msg = merging.absorb normalized msg := by
  rw [mergeMessage, Merging.absorb]
  cases normalized.getLast? with
  | none => rfl
  | some last => rfl

theorem normalize_eq (messages : List Message) :
    normalizeMessagesForAnthropic messages = merging.mergeRuns messages :=
  List.foldl_ext _ _ [] fun normalized msg _ => mergeMessage_eq normalized msg

def sameRole (first second : Message) : Bool := first.role = second.role

/-- The contents of a run, a blank line between each two. -/
def runContent (run : List Message) : PyStr :=
  (pyText "\n\n").intercalate (run.map Message.content)

private theorem content_merged (first : Message) (rest : List Message) :
    (rest.foldl merging.merge first).content = runContent (first :: rest) := by
  induction rest generalizing first with
  | nil => simp [runContent]
  | cons next rest ih =>
    rw [List.foldl_cons, ih]
    cases rest with
    | nil => simp [runContent, merging, List.append_assoc]
    | cons other rest => simp [runContent, merging, List.append_assoc]

private theorem contents_ofRun {runs : List (List Message)} (nonempty : [] ∉ runs) :
    (runs.filterMap merging.ofRun).map Message.content = runs.map runContent := by
  induction runs with
  | nil => rfl
  | cons run runs ih =>
    rw [List.mem_cons, not_or] at nonempty
    obtain ⟨first, rest, rfl⟩ := List.exists_cons_of_ne_nil (Ne.symm nonempty.1)
    have left : merging.ofRun (first :: rest) = some (rest.foldl merging.merge first) := rfl
    rw [List.filterMap_cons_some left, List.map_cons, List.map_cons, ih nonempty.2,
      content_merged]

/-- One message is left of each run of messages of one role, with all that they say. -/
theorem contents_normalized (messages : List Message) :
    (normalizeMessagesForAnthropic messages).map Message.content =
      (messages.splitBy sameRole).map runContent := by
  have runs : messages.splitBy merging.same = messages.splitBy sameRole := rfl
  rw [normalize_eq, merging.mergeRuns_eq, runs, contents_ofRun (List.nil_notMem_splitBy _ _)]

private theorem roles_normalized (messages : List Message) :
    (normalizeMessagesForAnthropic messages).map Message.role =
      (messages.map Message.role).destutter (· ≠ ·) := by
  rw [normalize_eq]
  exact merging.keys_mergeRuns messages

private theorem alternates_normalized (messages : List Message) :
    (normalizeMessagesForAnthropic messages).IsChain fun first second =>
      first.role ≠ second.role := by
  rw [normalize_eq]
  exact merging.alternates_mergeRuns messages

private theorem role_given {messages : List Message} {msg : Message}
    (sent : msg ∈ normalizeMessagesForAnthropic messages) : ∃ given ∈ messages, given.role = msg.role := by
  have roles := roles_normalized messages
  have kept : msg.role ∈ (messages.map Message.role).destutter (· ≠ ·) := by
    rw [← roles]
    exact List.mem_map_of_mem sent
  exact List.mem_map.mp ((List.destutter_sublist _ _).subset kept)

/-- The provider is sent turns that alternate, and the system message apart from them. -/
theorem payload_alternates (messages : List Message) :
    (anthropicPayload messages).messages.IsChain (fun first second => first.role ≠ second.role) ∧
      ∀ msg ∈ (anthropicPayload messages).messages, isSystem msg = false := by
  refine ⟨alternates_normalized _, fun msg sent => ?_⟩
  obtain ⟨given, member, same⟩ := role_given sent
  have apart := (List.mem_filter.mp member).2
  rw [isSystem, same, ← isSystem] at apart
  simpa using apart

/-- The roles alternate and are the given ones without repetitions, the contents are those of the
runs, and a second pass changes nothing. -/
theorem messages_normalized (messages : List Message) :
    ((normalizeMessagesForAnthropic messages).IsChain fun first second =>
        first.role ≠ second.role) ∧
      (normalizeMessagesForAnthropic messages).map Message.role =
        (messages.map Message.role).destutter (· ≠ ·) ∧
      (normalizeMessagesForAnthropic messages).map Message.content =
        (messages.splitBy sameRole).map runContent ∧
      normalizeMessagesForAnthropic (normalizeMessagesForAnthropic messages) =
        normalizeMessagesForAnthropic messages := by
  refine ⟨alternates_normalized messages, roles_normalized messages,
    contents_normalized messages, ?_⟩
  rw [normalize_eq, normalize_eq]
  exact merging.mergeRuns_mergeRuns messages

example : normalizeMessagesForAnthropic
    [⟨pyText "user", pyText "a"⟩, ⟨pyText "user", pyText "b"⟩, ⟨pyText "assistant", pyText "c"⟩] =
      [⟨pyText "user", pyText "a\n\nb"⟩, ⟨pyText "assistant", pyText "c"⟩] := by decide

end BrainMate.WriteRight.ModelRouter
