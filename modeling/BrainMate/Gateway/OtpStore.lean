import Mathlib.Logic.Equiv.Basic
import BrainMate.Gateway.Effects
import BrainMate.Interleaving.History

/-! `otp_store.rs`: one-time passwords, and the history of its calls. A password that is
accepted was the last thing stored for its user, and nobody has guessed since. -/

namespace BrainMate.Gateway

open Interleaving System

/-- A store has a pepper. -/
structure OtpStore where
  pepper : String
  set : (trim pepper).isEmpty = false

namespace OtpStore

def otpTtlSecs : Nat := 5 * 60

def new (pepper : String) : Except ApiError OtpStore :=
  if blank : (trim pepper).isEmpty then .error (.badRequest "OTP_PEPPER must be set")
  else .ok ⟨pepper, by simpa using blank⟩

def key (userId : String) : RedisKey := .otp userId

def validateUserId (userId : String) : Except ApiError Unit :=
  if (trim userId).isEmpty || 128 < userId.utf8ByteSize then
    .error (.badRequest "invalid user id")
  -- Only allow alphanumeric + _ and - (same policy as session IDs)
  else if !(userId.toList.all fun c => c.isAlphanum || c == '_' || c == '-') then
    .error (.badRequest "invalid user id format")
  else .ok ()

def validateOtp (otp : String) : Except ApiError Unit :=
  if otp.utf8ByteSize < 4 || 16 < otp.utf8ByteSize || !(otp.toList.all Char.isAlphanum) then
    .error (.badRequest "invalid otp format")
  else .ok ()

section Hashing

variable (sha256Hex : String → String)

def hashOtpWithPepper (otp pepper : String) : String := sha256Hex (pepper ++ ":" ++ otp)

/-- `constant_time_eq` compares digests. -/
def constantTimeEq (left right : String) : Bool := sha256Hex left == sha256Hex right

/-- What `upsert_otp` makes of the answer to its SETEX. -/
def written : Except RedisLayerError Unit → Except ApiError Unit
  | .error error => .error (.serviceUnavailable ("otp write failed: " ++ error.message))
  | .ok () => .ok ()

def upsertOtp (store : OtpStore) (userId otp : String) : Procedure (Except ApiError Unit) :=
  match validateUserId userId with
  | .error error => return .error error
  | .ok () =>
    match validateOtp otp with
    | .error error => return .error error
    | .ok () => do
      let hash := hashOtpWithPepper sha256Hex otp store.pepper
      return written (← redis (.setEx (key userId) (.text hash) otpTtlSecs))

/-- The comparison with what GETDEL found. -/
def consumed (candidateHash : String) :
    Except RedisLayerError (Option RedisValue) → Except ApiError Bool
  | .error error => .error (.serviceUnavailable ("otp verify failed: " ++ error.message))
  | .ok (some (.text expectedHash)) => .ok (constantTimeEq sha256Hex candidateHash expectedHash)
  -- Nothing there, or a document, which is nobody's digest.
  | .ok _ => .ok false

def verifyAndConsume (store : OtpStore) (userId otp : String) :
    Procedure (Except ApiError Bool) :=
  match validateUserId userId with
  | .error error => return .error error
  | .ok () =>
    match validateOtp otp with
    | .error error => return .error error
    | .ok () => do
      let candidateHash := hashOtpWithPepper sha256Hex otp store.pepper
      return consumed sha256Hex candidateHash (← redis (.getDel (key userId)))

end Hashing

inductive Call where
  | upsert (userId otp : String)
  | verify (userId otp : String)
  deriving DecidableEq, Repr

namespace Call

@[reducible] def Result : Call → Type
  | .upsert _ _ => Except ApiError Unit
  | .verify _ _ => Except ApiError Bool

def userId : Call → String
  | .upsert userId _ | .verify userId _ => userId

end Call

@[reducible] def clients (sha256Hex : String → String) (store : OtpStore) :
    System Command Command.Reply where
  World := World
  Outcome := Outcome
  Event := Event
  Call := Call
  Result := Call.Result
  exec := Command.exec
  environment := environment
  program
    | .upsert userId otp => store.upsertOtp sha256Hex userId otp
    | .verify userId otp => store.verifyAndConsume sha256Hex userId otp

/-- A call that has returned. -/
structure Returned where
  call : Call
  value : call.Result
  /-- Redis carried out the command of the call. -/
  executed : Bool

variable (sha256Hex : String → String) (store : OtpStore)

/-- The call that returns with a command, which Redis may refuse or never see. -/
def returnedBy (call : Call) (rest : Procedure call.Result) (executed : Bool) : Option Returned :=
  match rest with
  | .done value => some ⟨call, value, executed⟩
  | .call _ _ => none

def executes (outcome : Outcome) (world : World) : Command → Bool
  | .redis command => outcome.takesEffect && (command.answer world).isOk
  | .now | .db _ | .http => outcome.takesEffect

/-- The call that returns with a step. -/
def returned (config : (clients sha256Hex store).Config) :
    (clients sha256Hex store).Action → Option Returned
  | .start _ call => returnedBy call ((clients sha256Hex store).program call) false
  | .step client outcome =>
    match config.threads client with
    | .running call (.call command next) =>
      returnedBy call (next (Command.exec outcome command config.world).1)
        (executes outcome config.world command)
    | _ => none
  | .environment _ => none

/-- An executed call about the user. -/
def Returned.touches (entry : Returned) (userId : String) : Prop :=
  entry.executed = true ∧ entry.call.userId = userId

/-- The password was stored at one index and accepted at the other, with nothing stored or
guessed for the user between. -/
structure Matched (log : List Returned) (userId otp : String) (issue guess : Nat) : Prop where
  earlier : issue < guess
  issued : ∃ value, log[issue]? = some ⟨.upsert userId otp, value, true⟩
  accepted : log[guess]? = some ⟨.verify userId otp, .ok true, true⟩
  untouched : ∀ index, issue < index → index < guess → ∀ entry ∈ log[index]?,
    ¬ entry.touches userId

variable {sha256Hex store} {log : List Returned} {userId otp : String}

/-- The command of a call that passes validation. -/
def request (sha256Hex : String → String) (store : OtpStore) : Call → RedisCommand
  | .upsert userId otp =>
    .setEx (key userId) (.text (hashOtpWithPepper sha256Hex otp store.pepper)) otpTtlSecs
  | .verify userId _ => .getDel (key userId)

def finish (sha256Hex : String → String) (store : OtpStore) :
    (call : Call) → Except RedisLayerError (request sha256Hex store call).Reply → call.Result
  | .upsert _ _, reply => written reply
  | .verify _ otp, reply =>
    consumed sha256Hex (hashOtpWithPepper sha256Hex otp store.pepper) reply

/-- The call was turned away. -/
def Call.Fails : (call : Call) → call.Result → Prop
  | .upsert _ _, value | .verify _ _, value => ∃ error, value = .error error

/-- A call fails at once or is one command. -/
theorem program_cases (call : Call) :
    (∃ value, call.Fails value ∧ (clients sha256Hex store).program call = .done value) ∨
    (clients sha256Hex store).program call =
      .call (.redis (request sha256Hex store call)) fun reply =>
        .done (finish sha256Hex store call reply) := by
  cases call with
  | upsert userId otp =>
    simp only [upsertOtp]
    cases validateUserId userId with
    | error error => exact .inl ⟨_, ⟨error, rfl⟩, rfl⟩
    | ok =>
      cases validateOtp otp with
      | error error => exact .inl ⟨_, ⟨error, rfl⟩, rfl⟩
      | ok => exact .inr rfl
  | verify userId otp =>
    simp only [verifyAndConsume]
    cases validateUserId userId with
    | error error => exact .inl ⟨_, ⟨error, rfl⟩, rfl⟩
    | ok =>
      cases validateOtp otp with
      | error error => exact .inl ⟨_, ⟨error, rfl⟩, rfl⟩
      | ok => exact .inr rfl

variable {config next : (clients sha256Hex store).Config}
variable {action : (clients sha256Hex store).Action}

/-- Who is running has issued no command. -/
def Waiting (config : (clients sha256Hex store).Config) : Prop :=
  ∀ client call rest, config.threads client = .running call rest →
    rest = .call (.redis (request sha256Hex store call)) fun reply =>
      .done (finish sha256Hex store call reply)

theorem Waiting.update (waiting : Waiting config) {client : Nat}
    {thread : (clients sha256Hex store).Thread}
    (own : ∀ call rest, thread = .running call rest →
      rest = .call (.redis (request sha256Hex store call)) fun reply =>
        .done (finish sha256Hex store call reply)) (world : World) :
    @Waiting sha256Hex store ⟨world, Function.update config.threads client thread⟩ := by
  intro other call rest running
  dsimp only at running
  by_cases same : other = client
  · subst same
    rw [Function.update_self] at running
    exact own call rest running
  · rw [Function.update_of_ne same] at running
    exact waiting other call rest running

/-- The shapes of a step: a call returns without a command, or starts to wait, or has its
command carried out, or the environment acts. -/
theorem returned_cases (waiting : Waiting config) (moves : config.step? action = some next) :
    Waiting next ∧
    ((next.world = config.world ∧ ∀ entry ∈ returned sha256Hex store config action,
        entry.executed = false ∧ entry.call.Fails entry.value) ∨
      (∃ call outcome, next.world =
          (Command.exec outcome (.redis (request sha256Hex store call)) config.world).2 ∧
        returned sha256Hex store config action = some ⟨call,
          finish sha256Hex store call
            (Command.exec outcome (.redis (request sha256Hex store call)) config.world).1,
          executes outcome config.world (.redis (request sha256Hex store call))⟩) ∨
      (∃ event, next.world = environment event config.world ∧
        returned sha256Hex store config action = none)) := by
  obtain ⟨client, call, rfl, idle, rfl⟩ | ⟨client, outcome, call, command, rest, rfl, running, rfl⟩ |
    ⟨event, rfl, rfl⟩ := step?_cases moves
  · obtain ⟨value, fails, program⟩ | program := @program_cases sha256Hex
      store call
    · rw [program]
      refine ⟨waiting.update (fun _ _ done => by cases done) _, .inl ⟨rfl, ?_⟩⟩
      intro entry noted
      rw [returned, program] at noted
      cases noted
      exact ⟨rfl, fails⟩
    · rw [program]
      refine ⟨waiting.update (fun _ _ running => ?_) _, .inl ⟨rfl, ?_⟩⟩
      · cases running
        rfl
      · intro entry noted
        rw [returned, program] at noted
        cases noted
  · cases waiting client call _ running
    refine ⟨waiting.update (fun _ _ done => by cases done) _, .inr (.inl ⟨call, outcome, rfl, ?_⟩)⟩
    rw [returned, running]
    rfl
  · exact ⟨waiting, .inr (.inr ⟨event, rfl, rfl⟩)⟩

/-- The last thing executed for the user stored the password. -/
def Pending (log : List Returned) (userId otp : String) : Prop :=
  ∃ before value between, log = before ++ ⟨.upsert userId otp, value, true⟩ :: between ∧
    ∀ entry ∈ between, ¬ entry.touches userId

/-- A password is accepted only while it is pending, and consumed. -/
def Accounted (before : List Returned) (entry : Returned) : Prop :=
  ∀ userId otp executed, entry = ⟨.verify userId otp, .ok true, executed⟩ →
    executed = true ∧ Pending before userId otp

theorem Pending.snoc (pending : Pending log userId otp) {entry : Returned}
    (elsewhere : ¬ entry.touches userId) : Pending (log ++ [entry]) userId otp := by
  obtain ⟨before, value, between, rfl, untouched⟩ := pending
  refine ⟨before, value, between ++ [entry], by simp, ?_⟩
  intro other member
  rcases List.mem_append.mp member with among | last
  · exact untouched other among
  · rw [List.mem_singleton.mp last]
    exact elsewhere

/-- Redis holds nothing for a user but the password that is pending. -/
def Holds (sha256Hex : String → String) (store : OtpStore) (log : List Returned)
    (world : World) : Prop :=
  ∀ userId entry, world.redis (key userId) = some entry →
    ∃ otp, entry.value = .text (hashOtpWithPepper sha256Hex otp store.pepper) ∧
      Pending log userId otp

variable {world : World} {outcome : Outcome} {entry : Returned}

theorem Holds.anti (holds : Holds sha256Hex store log world) {later : World}
    (fewer : ∀ userId, later.redis (key userId) = world.redis (key userId) ∨
      later.redis (key userId) = none) : Holds sha256Hex store log later := by
  intro userId entry stored
  rcases fewer userId with same | gone
  · exact holds userId entry (same ▸ stored)
  · rw [gone] at stored
    cases stored

/-- A call that had nothing executed. -/
theorem Holds.unexecuted (holds : Holds sha256Hex store log world)
    (idle : entry.executed = false) : Holds sha256Hex store (log ++ [entry]) world := by
  intro userId stored present
  obtain ⟨otp, same, pending⟩ := holds userId stored present
  refine ⟨otp, same, pending.snoc ?_⟩
  rintro ⟨executed, _⟩
  rw [idle] at executed
  cases executed

theorem Holds.of_event (holds : Holds sha256Hex store log world) (event : Event) :
    Holds sha256Hex store log (environment event world) := by
  apply holds.anti
  intro userId
  cases event with
  | tick milliseconds => exact .inl rfl
  | evict evicted =>
    by_cases own : key userId = evicted
    · exact .inr (by simp [environment, World.remove, own])
    · exact .inl (Function.update_of_ne own _ _)

private theorem key_injective {first second : String} (same : key first = key second) :
    first = second :=
  RedisKey.otp.inj same

/-- A refused command changes nothing. -/
theorem effect_of_refused (call : Call)
    (refused : ((request sha256Hex store call).answer world).isOk = false) :
    (request sha256Hex store call).effect world = world := by
  cases call with
  | verify userId otp => cases refused
  | upsert userId otp =>
    simp only [request, RedisCommand.answer] at refused
    simp only [request, RedisCommand.effect]
    split at refused
    · cases refused
    · rename_i unacceptable
      rw [if_neg unacceptable]

private theorem exec_of_unexecuted (call : Call)
    (idle : executes outcome world (.redis (request sha256Hex store call)) = false) :
    (Command.exec outcome (.redis (request sha256Hex store call)) world).2 = world := by
  cases outcome with
  | lost detail => rfl
  | success => exact effect_of_refused call idle
  | applied detail => exact effect_of_refused call idle

private theorem exec_of_executed (call : Call)
    (executed : executes outcome world (.redis (request sha256Hex store call)) = true) :
    (Command.exec outcome (.redis (request sha256Hex store call)) world).2 =
      (request sha256Hex store call).effect world := by
  cases outcome with
  | lost detail => cases executed
  | success => rfl
  | applied detail => rfl

theorem Holds.of_upsert (holds : Holds sha256Hex store log world) {value : Except ApiError Unit}
    (accepted : acceptsTtl world.clock otpTtlSecs = true) :
    Holds sha256Hex store (log ++ [⟨.upsert userId otp, value, true⟩])
      ((request sha256Hex store (.upsert userId otp)).effect world) := by
  intro other entry stored
  simp only [request, RedisCommand.effect, accepted, if_true, World.store] at stored
  by_cases own : other = userId
  · subst own
    rw [Function.update_self] at stored
    cases stored
    exact ⟨otp, rfl, log, value, [], rfl, by simp⟩
  · rw [Function.update_of_ne (fun same => own (key_injective same))] at stored
    obtain ⟨kept, same, pending⟩ := holds other entry stored
    exact ⟨kept, same, pending.snoc fun touched => own touched.2.symm⟩

theorem Holds.of_verify (holds : Holds sha256Hex store log world) {value : Except ApiError Bool} :
    Holds sha256Hex store (log ++ [⟨.verify userId otp, value, true⟩])
      ((request sha256Hex store (.verify userId otp)).effect world) := by
  intro other entry stored
  simp only [request, RedisCommand.effect, World.remove] at stored
  by_cases own : other = userId
  · subst own
    rw [Function.update_self] at stored
    cases stored
  · rw [Function.update_of_ne (fun same => own (key_injective same))] at stored
    obtain ⟨kept, same, pending⟩ := holds other entry stored
    exact ⟨kept, same, pending.snoc fun touched => own touched.2.symm⟩

/-- A call and its command, executed or not. -/
theorem Holds.of_call (holds : Holds sha256Hex store log world) (call : Call)
    (outcome : Outcome) (value : call.Result) :
    Holds sha256Hex store
      (log ++ [⟨call, value, executes outcome world (.redis (request sha256Hex store call))⟩])
      (Command.exec outcome (.redis (request sha256Hex store call)) world).2 := by
  cases executed : executes outcome world (.redis (request sha256Hex store call)) with
  | false =>
    rw [exec_of_unexecuted call executed]
    exact holds.unexecuted rfl
  | true =>
    rw [exec_of_executed call executed]
    cases call with
    | verify userId otp => exact holds.of_verify
    | upsert userId otp =>
      apply holds.of_upsert
      have answered := (Bool.and_eq_true_iff.mp executed).2
      simp only [request, RedisCommand.answer] at answered
      split at answered
      · rename_i accepted
        exact accepted
      · cases answered

/-- An accepted password is the one Redis held. -/
theorem consumed_found (outcome : Outcome)
    (accepted : finish sha256Hex store (.verify userId otp)
      (Command.exec outcome (.redis (request sha256Hex store (.verify userId otp))) world).1 =
        .ok true) :
    executes outcome world (.redis (request sha256Hex store (.verify userId otp))) = true ∧
    ∃ entry expectedHash, world.redis (key userId) = some entry ∧
      entry.value = .text expectedHash ∧
      sha256Hex (hashOtpWithPepper sha256Hex otp store.pepper) = sha256Hex expectedHash := by
  cases outcome with
  | lost detail => cases accepted
  | applied detail => cases accepted
  | success =>
    simp only [finish, Command.exec, Command.answer, request, RedisCommand.answer] at accepted
    cases stored : world.redis (key userId) with
    | none =>
      rw [World.lookup, stored] at accepted
      cases accepted
    | some entry =>
      by_cases alive : entry.alive world.clock = true
      · rw [World.lookup_alive stored alive] at accepted
        cases value : entry.value with
        | text expectedHash =>
          rw [value] at accepted
          have same := Except.ok.inj accepted
          exact ⟨rfl, entry, expectedHash, rfl, value, by simpa [constantTimeEq] using same⟩
        | _ =>
          rw [value] at accepted
          cases accepted
      · rw [World.lookup_dead stored alive] at accepted
        cases accepted

variable (collisionFree : Function.Injective sha256Hex)

include collisionFree in
theorem Holds.accounted (holds : Holds sha256Hex store log world) (call : Call)
    (outcome : Outcome) :
    Accounted log ⟨call, finish sha256Hex store call
      (Command.exec outcome (.redis (request sha256Hex store call)) world).1,
      executes outcome world (.redis (request sha256Hex store call))⟩ := by
  intro userId otp flag same
  cases call with
  | upsert => cases same
  | verify =>
    simp only [Returned.mk.injEq, Call.verify.injEq] at same
    obtain ⟨⟨rfl, rfl⟩, accepted, rfl⟩ := same
    obtain ⟨carried, entry, expectedHash, stored, value, digests⟩ :=
      consumed_found outcome (eq_of_heq accepted)
    obtain ⟨kept, hash, pending⟩ := holds _ entry stored
    rw [value] at hash
    have hashes := collisionFree digests
    rw [RedisValue.text.inj hash] at hashes
    have texts := collisionFree hashes
    rw [(String.append_right_inj _).mp texts]
    exact ⟨carried, pending⟩

/-- Nothing is under the keys of the store. -/
def Unused (world : World) : Prop := ∀ userId, world.redis (key userId) = none

/-- What a run keeps of its history. -/
structure Kept (log : List Returned) (config : (clients sha256Hex store).Config) : Prop where
  waiting : Waiting config
  holds : Holds sha256Hex store log config.world
  justified : Justified Accounted log

include collisionFree in
theorem Kept.step (kept : Kept log config) (moves : config.step? action = some next) :
    Kept (log ++ (returned sha256Hex store config action).toList) next := by
  obtain ⟨waiting, ⟨same, idle⟩ | ⟨call, outcome, world, noted⟩ | ⟨event, world, noted⟩⟩ :=
    returned_cases kept.waiting moves
  · refine ⟨waiting, ?_, kept.justified.append_toList ?_⟩
    · rw [same]
      cases noted : returned sha256Hex store config action with
      | none => simpa using kept.holds
      | some entry => exact kept.holds.unexecuted (idle entry noted).1
    · intro entry noted userId otp executed accepted
      obtain ⟨_, fails⟩ := idle entry noted
      subst accepted
      obtain ⟨error, failed⟩ := fails
      cases failed
  · rw [noted]
    refine ⟨waiting, ?_, kept.justified.snoc (kept.holds.accounted collisionFree call outcome)⟩
    rw [world]
    exact kept.holds.of_call call outcome _
  · rw [noted, Option.toList_none, List.append_nil]
    refine ⟨waiting, ?_, kept.justified⟩
    rw [world]
    exact kept.holds.of_event event

theorem Pending.matched {guess : Nat} (pending : Pending (log.take guess) userId otp)
    (present : log[guess]? = some ⟨.verify userId otp, .ok true, true⟩) :
    ∃ issue, Matched log userId otp issue guess := by
  obtain ⟨before, value, between, split, untouched⟩ := pending
  have within := List.getElem?_eq_some_iff.mp present |>.1
  have length : before.length + (between.length + 1) = guess := by
    have same := congrArg List.length split
    rw [List.length_take, min_eq_left within.le, List.length_append, List.length_cons] at same
    exact same.symm
  have early {index : Nat} (lower : index < guess) :
      log[index]? = (before ++ ⟨.upsert userId otp, value, true⟩ :: between)[index]? := by
    rw [← split, List.getElem?_take_of_lt lower]
  refine ⟨before.length, by omega, ⟨value, ?_⟩, present, ?_⟩
  · rw [early (by omega)]
    simp
  · intro index later lower entry stored
    obtain ⟨offset, placed⟩ := Nat.exists_eq_add_of_lt later
    rw [early lower, List.getElem?_append_right later.le,
      show index - before.length = offset + 1 by omega, List.getElem?_cons_succ] at stored
    exact untouched entry (List.mem_of_getElem? stored)

/-- One stored password is accepted once. -/
theorem Matched.guess_unique {first second issue : Nat} {otherId other : String}
    (one : Matched log userId otp issue first) (two : Matched log otherId other issue second) :
    first = second := by
  obtain ⟨_, stored⟩ := one.issued
  obtain ⟨_, again⟩ := two.issued
  rw [stored] at again
  cases again
  rcases lt_trichotomy first second with before | same | after
  · exact absurd ⟨rfl, rfl⟩ (two.untouched first one.earlier before _ one.accepted)
  · exact same
  · exact absurd ⟨rfl, rfl⟩ (one.untouched second two.earlier after _ two.accepted)

/-- One-time passwords are one-time: in every run on a fresh store, each accepted password
has an execution of its own that stored it, and between the two nothing was stored or
guessed for the user. -/
theorem verified_once (sha256Hex : String → String) (collisionFree : Function.Injective sha256Hex)
    (store : OtpStore) (world : World) (unused : Unused world)
    (actions : List (clients sha256Hex store).Action) (last : (clients sha256Hex store).Config)
    (run : Run (fun _ _ => True) (.initial world) actions last) :
    let log := (Config.initial world).history (returned sha256Hex store) actions
    ∃ issue : Nat → Nat,
      (∀ guess userId otp executed,
        log[guess]? = some ⟨.verify userId otp, .ok true, executed⟩ →
          Matched log userId otp (issue guess) guess) ∧
      Set.InjOn issue {guess | ∃ userId otp executed,
        log[guess]? = some ⟨.verify userId otp, .ok true, executed⟩} := by
  intro log
  have kept : Kept ([] ++ log) last := by
    refine run.history_invariant Kept ?_ ⟨?_, ?_, .nil⟩
    · exact fun _ _ _ _ _ moves kept => kept.step collisionFree moves
    · intro client call rest running
      cases running
    · intro userId entry stored
      exact absurd (stored.symm.trans (unused userId)) (Option.some_ne_none entry)
  have found (guess : Nat) : ∃ issue, ∀ userId otp executed,
      log[guess]? = some ⟨.verify userId otp, .ok true, executed⟩ →
        Matched log userId otp issue guess := by
    by_cases accepted : ∃ userId otp executed,
        log[guess]? = some ⟨.verify userId otp, .ok true, executed⟩
    · obtain ⟨userId, otp, executed, present⟩ := accepted
      obtain ⟨rfl, pending⟩ := kept.justified.at_index present userId otp executed rfl
      obtain ⟨issue, matched⟩ := pending.matched present
      refine ⟨issue, fun otherId other flag again => ?_⟩
      rw [present] at again
      cases again
      exact matched
    · exact ⟨0, fun userId otp executed present => absurd ⟨userId, otp, executed, present⟩ accepted⟩
  choose issue matched using found
  refine ⟨issue, matched, ?_⟩
  rintro first ⟨userId, otp, executed, one⟩ second ⟨otherId, other, flag, two⟩ same
  have earlier := matched first userId otp executed one
  rw [same] at earlier
  exact earlier.guess_unique (matched second otherId other flag two)

def sampleStore : OtpStore := ⟨"pepper", by decide⟩

/-- SHA-256 on the texts of the sequence. -/
def sampleHash : String ≃ String :=
  let digest := "d43b9d2f19f4a547a1dad252343d8425266257ad007eff9e4e1be095c1190010"
  let digestOfDigest := "f97ad64119e661781175c3107b31a938f145a087237bd9920a8ef79b89a8117f"
  (Equiv.swap digest digestOfDigest).trans (Equiv.swap "pepper:123456" digest)

def sampleActions : List (clients sampleHash sampleStore).Action :=
  [.start 0 (.upsert "user_1" "123456"), .step 0 .success,
    .start 1 (.verify "user_1" "123456"), .step 1 .success,
    .start 2 (.verify "user_1" "123456"), .step 2 .success]

def sampleLog : List Returned :=
  (Config.initial (World.empty 1000)).history (returned sampleHash sampleStore) sampleActions

/-- The first verification has its password from the upsert before it. -/
theorem sample_verified_once : Matched sampleLog "user_1" "123456" 0 1 := by
  have reached : ∃ last, Run (fun _ _ => True) (.initial (World.empty 1000)) sampleActions last ∧
      true = true := by
    apply Run.of_runsTo
    rfl
  obtain ⟨last, run, _⟩ := reached
  obtain ⟨issue, matched, _⟩ := verified_once sampleHash sampleHash.injective
    sampleStore (World.empty 1000) (fun _ => rfl) sampleActions last run
  have accepted : sampleLog[1]? = some ⟨.verify "user_1" "123456", .ok true, true⟩ := by rfl
  have found := matched 1 "user_1" "123456" true accepted
  have first : issue 1 = 0 := Nat.lt_one_iff.mp found.earlier
  rw [← first]
  exact found

end OtpStore

end BrainMate.Gateway
