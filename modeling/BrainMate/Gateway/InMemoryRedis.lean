import BrainMate.Gateway.World
import BrainMate.Storage.Expiring
import BrainMate.Text.Integer

/-! The two backends of `redis_client.rs` on strings: the commands it sends to Redis, and
`InMemoryRedis`, which the tests run on. -/

namespace BrainMate.Gateway

open Storage Text.Integer

inductive StringCommand where
  | getString (key : String)
  | setStringEx (key value : String) (ttlSecs : Nat)
  | setStringNxEx (key value : String) (ttlSecs : Nat)
  | exists_ (key : String)
  | delete (key : String)
  | getdelAtomic (key : String)
  | atomicIncrEx (key : String) (ttlSecs : Nat)
  | atomicDecr (key : String)
  deriving DecidableEq, Repr

inductive StringReply where
  | text (value : Option String)
  | done
  | flag (value : Bool)
  | count (value : Nat)
  | integer (value : Int)
  deriving DecidableEq, Repr

abbrev StringStore := Expiring String String

namespace StringCommand

def invalidExpire : RedisLayerError := .command "invalid expire time"

/-- INCR and DECR: the number under the key is one Redis would have written. -/
def incrBy (step : Int) (clock : Nat) (key : String) (store : StringStore) :
    Except RedisLayerError Int × StringStore :=
  match store.live clock key with
  | none => (.ok step, store.put key ⟨toString step, none⟩)
  | some entry =>
    match readStrict entry.value with
    | none => (.error (.command "value is not an integer or out of range"), store)
    | some value =>
      if fitsI64 (value + step) then
        (.ok (value + step), store.put key ⟨toString (value + step), entry.deadline⟩)
      else (.error (.command "increment or decrement would overflow"), store)

/-- EXPIRE on a key that is there. -/
def expireKey (clock : Nat) (key : String) (ttlSecs : Nat) (store : StringStore) :
    Except RedisLayerError Unit × StringStore :=
  match store.live clock key with
  | none => (.ok (), store)
  | some entry =>
    if ttlSecs = 0 then (.ok (), store.drop key)
    else if acceptsTtl clock ttlSecs then
      (.ok (), store.put key ⟨entry.value, some (clock + ttlSecs * 1000)⟩)
    else (.error invalidExpire, store)

/-- The commands and scripts `redis_client.rs` sends, as Redis carries them out. -/
def onRedis (clock : Nat) (store : StringStore) :
    StringCommand → Except RedisLayerError StringReply × StringStore
  | .getString key => (.ok (.text ((store.live clock key).map (·.value))), store)
  | .setStringEx key value ttlSecs =>
    if acceptsTtl clock ttlSecs then
      (.ok .done, store.put key ⟨value, some (clock + ttlSecs * 1000)⟩)
    else (.error invalidExpire, store)
  | .setStringNxEx key value ttlSecs =>
    if acceptsTtl clock ttlSecs then
      if (store.live clock key).isSome then (.ok (.flag false), store)
      else (.ok (.flag true), store.put key ⟨value, some (clock + ttlSecs * 1000)⟩)
    else (.error invalidExpire, store)
  | .exists_ key => (.ok (.flag (store.live clock key).isSome), store)
  | .delete key => (.ok (.count (if (store.live clock key).isSome then 1 else 0)), store.drop key)
  -- GET, and DEL when there is a value.
  | .getdelAtomic key => (.ok (.text ((store.live clock key).map (·.value))), store.drop key)
  -- INCR, then EXPIRE; the number is read as a `u64`.
  | .atomicIncrEx key ttlSecs =>
    match incrBy 1 clock key store with
    | (.error error, store) => (.error error, store)
    | (.ok value, store) =>
      match expireKey clock key ttlSecs store with
      | (.error error, store) => (.error error, store)
      | (.ok (), store) => (.ok (.count (asU64 value)), store)
  | .atomicDecr key =>
    match incrBy (-1) clock key store with
    | (.error error, store) => (.error error, store)
    | (.ok value, store) => (.ok (.integer value), store)

end StringCommand

/-- The answer of a call, `none` for one that panics. -/
abbrev Attempt (α : Type) := Option (Except RedisLayerError α)

structure InMemoryRedis where
  available : Bool
  state : StringStore

namespace InMemoryRedis

def new (available : Bool) : InMemoryRedis := ⟨available, Expiring.empty⟩

/-- `ensure_available`, and then the rest of a method on the locked map. -/
def guarded (memory : InMemoryRedis) (body : StringStore → Attempt StringReply × StringStore) :
    Attempt StringReply × InMemoryRedis :=
  if memory.available then
    let (answer, state) := body memory.state
    (answer, { memory with state })
  else (some (.error (.unavailable "redis is unavailable")), memory)

/-- `Instant::now() + Duration::from_secs(ttl_secs)`: an instant has 63 bits of seconds, and
the addition panics beyond. -/
def instantAfter (clock ttlSecs : Nat) : Option Nat :=
  if clock / 1000 + ttlSecs < 2 ^ 63 then some (clock + ttlSecs * 1000) else none

/-- `i64` addition; `checked` says whether the build checks for overflow, as tests do. -/
def add (checked : Bool) (left right : Int) : Option Int :=
  if checked && !fitsI64 (left + right) then none else some (addI64 left right)

def getString (clock : Nat) (key : String) (state : StringStore) :
    Attempt StringReply × StringStore :=
  let state := state.prune clock key
  (some (.ok (.text ((state key).map (·.value)))), state)

def getdel (clock : Nat) (key : String) (state : StringStore) :
    Attempt StringReply × StringStore :=
  let state := state.prune clock key
  (some (.ok (.text ((state key).map (·.value)))), state.drop key)

def setStringEx (clock : Nat) (key value : String) (ttlSecs : Nat) (state : StringStore) :
    Attempt StringReply × StringStore :=
  match instantAfter clock ttlSecs with
  | none => (none, state)
  | some deadline => (some (.ok .done), state.put key ⟨value, some deadline⟩)

def atomicIncrEx (checked : Bool) (clock : Nat) (key : String) (ttlSecs : Nat)
    (state : StringStore) : Attempt StringReply × StringStore :=
  let state := state.prune clock key
  match instantAfter clock ttlSecs with
  | none => (none, state)
  | some deadline =>
    let entry := (state key).getD ⟨"0", some deadline⟩
    let current := (readLenient entry.value).getD 0
    match add checked current 1 with
    | none => (none, state.put key entry)
    | some next =>
      (some (.ok (.count (asU64 next))), state.put key ⟨toString next, some deadline⟩)

def atomicDecr (checked : Bool) (clock : Nat) (key : String) (state : StringStore) :
    Attempt StringReply × StringStore :=
  let state := state.prune clock key
  let entry := (state key).getD ⟨"0", none⟩
  let current := (readLenient entry.value).getD 0
  match add checked current (-1) with
  | none => (none, state.put key entry)
  | some less =>
    let next := max less 0
    (some (.ok (.integer next)), state.put key ⟨toString next, entry.deadline⟩)

def setStringNxEx (clock : Nat) (key value : String) (ttlSecs : Nat) (state : StringStore) :
    Attempt StringReply × StringStore :=
  let state := state.prune clock key
  if (state key).isSome then (some (.ok (.flag false)), state)
  else
    match instantAfter clock ttlSecs with
    | none => (none, state)
    | some deadline => (some (.ok (.flag true)), state.put key ⟨value, some deadline⟩)

def exists_ (clock : Nat) (key : String) (state : StringStore) :
    Attempt StringReply × StringStore :=
  let state := state.prune clock key
  (some (.ok (.flag (state key).isSome)), state)

/-- The one method that does not prune. -/
def delete (key : String) (state : StringStore) : Attempt StringReply × StringStore :=
  (some (.ok (.count (if (state key).isSome then 1 else 0))), state.drop key)

def onMap (checked : Bool) (clock : Nat) : StringCommand → StringStore →
    Attempt StringReply × StringStore
  | .getString key => getString clock key
  | .setStringEx key value ttlSecs => setStringEx clock key value ttlSecs
  | .setStringNxEx key value ttlSecs => setStringNxEx clock key value ttlSecs
  | .exists_ key => exists_ clock key
  | .delete key => delete key
  | .getdelAtomic key => getdel clock key
  | .atomicIncrEx key ttlSecs => atomicIncrEx checked clock key ttlSecs
  | .atomicDecr key => atomicDecr checked clock key

def exec (checked : Bool) (clock : Nat) (memory : InMemoryRedis) (command : StringCommand) :
    Attempt StringReply × InMemoryRedis :=
  memory.guarded (onMap checked clock command)

/-- The step is one the map gets right: Redis takes the TTL, a deleted entry is not past its
deadline, INCR finds nothing or a number of Redis' form that can grow, and DECR finds such a
number above zero. -/
def Faithful (clock : Nat) (state : StringStore) : StringCommand → Prop
  | .getString _ | .exists_ _ | .getdelAtomic _ => True
  | .setStringEx _ _ ttlSecs | .setStringNxEx _ _ ttlSecs => acceptsTtl clock ttlSecs = true
  | .delete key => ∀ entry ∈ state key, entry.alive clock = true
  | .atomicIncrEx key ttlSecs => acceptsTtl clock ttlSecs = true ∧
      ∀ entry ∈ state.live clock key, ∃ value, readStrict entry.value = some value ∧
        fitsI64 (value + 1) = true
  | .atomicDecr key => ∃ entry ∈ state.live clock key, ∃ value,
      readStrict entry.value = some value ∧ 0 < value

/-- The command's TTL, if it has one, is positive. -/
def Timed : StringCommand → Prop
  | .setStringEx _ _ ttlSecs | .setStringNxEx _ _ ttlSecs | .atomicIncrEx _ ttlSecs => 0 < ttlSecs
  | .getString _ | .exists_ _ | .delete _ | .getdelAtomic _ | .atomicDecr _ => True

variable {checked : Bool} {clock ttlSecs : Nat} {key value : String}
variable {state store : StringStore}

/-- Answers and stores of a step correspond. -/
def Matches (clock : Nat) (memory : Attempt StringReply × StringStore)
    (redis : Except RedisLayerError StringReply × StringStore) : Prop :=
  memory.1 = some redis.1 ∧ Expiring.Agree clock memory.2 redis.2

private theorem instantAfter_of_accepts (accepts : acceptsTtl clock ttlSecs = true) :
    instantAfter clock ttlSecs = some (clock + ttlSecs * 1000) := by
  have bounds := (Bool.and_eq_true_iff.mp accepts).2
  rw [instantAfter, if_pos]
  have small : clock + ttlSecs * 1000 < 2 ^ 63 := of_decide_eq_true bounds
  omega

theorem fitsI64_iff (value : Int) : fitsI64 value = true ↔ -2 ^ 63 ≤ value ∧ value < 2 ^ 63 := by
  rw [fitsI64, Bool.and_eq_true_iff, decide_eq_true_eq, decide_eq_true_eq]

private theorem add_of_fits {left right : Int} (fits : fitsI64 (left + right) = true) :
    add checked left right = some (left + right) := by
  obtain ⟨low, high⟩ := (fitsI64_iff _).mp fits
  rw [add, fits, addI64_of_lt low high]
  simp

private theorem readStrict_fits {value : Int} {text : String}
    (read : readStrict text = some value) :
    fitsI64 value = true := (Option.filter_eq_some_iff.mp read).2

variable (agree : Expiring.Agree clock state store)

include agree in
private theorem getString_matches :
    Matches clock (getString clock key state) (StringCommand.onRedis clock store (.getString key)) := by
  constructor
  · simp only [getString, StringCommand.onRedis, Expiring.prune_same, agree key]
  · exact agree.prune key

include agree in
private theorem getdel_matches :
    Matches clock (getdel clock key state) (StringCommand.onRedis clock store (.getdelAtomic key)) := by
  constructor
  · simp only [getdel, StringCommand.onRedis, Expiring.prune_same, agree key]
  · exact (agree.prune key).drop key

include agree in
private theorem exists_matches :
    Matches clock (exists_ clock key state) (StringCommand.onRedis clock store (.exists_ key)) := by
  constructor
  · simp only [exists_, StringCommand.onRedis, Expiring.prune_same, agree key]
  · exact agree.prune key

include agree in
private theorem setStringEx_matches (accepts : acceptsTtl clock ttlSecs = true) :
    Matches clock (setStringEx clock key value ttlSecs state)
      (StringCommand.onRedis clock store (.setStringEx key value ttlSecs)) := by
  simp only [setStringEx, StringCommand.onRedis, instantAfter_of_accepts accepts, accepts, if_true]
  exact ⟨rfl, agree.put key _⟩

include agree in
private theorem setStringNxEx_matches (accepts : acceptsTtl clock ttlSecs = true) :
    Matches clock (setStringNxEx clock key value ttlSecs state)
      (StringCommand.onRedis clock store (.setStringNxEx key value ttlSecs)) := by
  simp only [setStringNxEx, StringCommand.onRedis, instantAfter_of_accepts accepts, accepts, if_true,
    Expiring.prune_same, agree key]
  split
  · exact ⟨rfl, agree.prune key⟩
  · exact ⟨rfl, (agree.prune key).put key _⟩

include agree in
/-- A deleted entry counts for the map even when Redis has forgotten it. -/
theorem delete_matches (kept : ∀ entry ∈ state key, entry.alive clock = true) :
    Matches clock (delete key state) (StringCommand.onRedis clock store (.delete key)) := by
  have live : state.live clock key = state key := by
    cases stored : state key with
    | none => simp [Expiring.live, stored]
    | some entry => simp [Expiring.live, stored, Option.filter_some, kept entry stored]
  constructor
  · simp only [delete, StringCommand.onRedis, ← agree key, live]
  · exact agree.drop key

private theorem expireKey_put {entry : Expiring.Entry String} (alive : entry.alive clock = true)
    (accepts : acceptsTtl clock ttlSecs = true) :
    StringCommand.expireKey clock key ttlSecs (store.put key entry) =
      (.ok (), (store.put key entry).put key ⟨entry.value, some (clock + ttlSecs * 1000)⟩) := by
  have positive : ttlSecs ≠ 0 := by
    have bounds : 0 < ttlSecs := of_decide_eq_true (Bool.and_eq_true_iff.mp accepts).1
    exact bounds.ne'
  simp only [StringCommand.expireKey, Expiring.live_put_same alive, if_neg positive, accepts, if_true]

include agree in
private theorem atomicIncrEx_matches (accepts : acceptsTtl clock ttlSecs = true)
    (counts : ∀ entry ∈ state.live clock key, ∃ value, readStrict entry.value = some value ∧
      fitsI64 (value + 1) = true) :
    Matches clock (atomicIncrEx checked clock key ttlSecs state)
      (StringCommand.onRedis clock store (.atomicIncrEx key ttlSecs)) := by
  simp only [atomicIncrEx, StringCommand.onRedis, instantAfter_of_accepts accepts,
    Expiring.prune_same, StringCommand.incrBy, ← agree key]
  cases found : state.live clock key with
  | none =>
    have zero : readLenient (toString (0 : Int)) = some 0 :=
      readLenient_of_readStrict (readStrict_toString ((fitsI64_iff 0).mpr ⟨by omega, by omega⟩))
    have shown : toString (0 : Int) = "0" := rfl
    rw [shown] at zero
    have small : fitsI64 (0 + 1) = true := (fitsI64_iff _).mpr ⟨by omega, by omega⟩
    have one : add checked 0 1 = some 1 := add_of_fits small
    have fresh : (⟨toString (1 : Int), none⟩ : Expiring.Entry String).alive clock = true := rfl
    simp only [Option.getD_none, zero, Option.getD_some, one, expireKey_put fresh accepts,
      Expiring.put_put]
    exact ⟨rfl, (agree.prune key).put key _⟩
  | some entry =>
    obtain ⟨value, read, grows⟩ := counts entry found
    have alive : entry.alive clock = true := (Option.filter_eq_some_iff.mp found).2
    have kept : (⟨toString (value + 1), entry.deadline⟩ : Expiring.Entry String).alive clock = true :=
      alive
    simp only [Option.getD_some, readLenient_of_readStrict read, read, grows, if_true,
      add_of_fits grows, expireKey_put kept accepts, Expiring.put_put]
    exact ⟨rfl, (agree.prune key).put key _⟩

include agree in
private theorem atomicDecr_matches {entry : Expiring.Entry String} {value : Int}
    (found : state.live clock key = some entry) (read : readStrict entry.value = some value)
    (positive : 0 < value) :
    Matches clock (atomicDecr checked clock key state)
      (StringCommand.onRedis clock store (.atomicDecr key)) := by
  obtain ⟨_, high⟩ := (fitsI64_iff _).mp (readStrict_fits read)
  have shrinks : fitsI64 (value + -1) = true := (fitsI64_iff _).mpr ⟨by omega, by omega⟩
  have unclamped : max (value + -1) 0 = value + -1 := max_eq_left (by omega)
  simp only [atomicDecr, StringCommand.onRedis, Expiring.prune_same, StringCommand.incrBy,
    ← agree key, found, Option.getD_some, readLenient_of_readStrict read, read, shrinks, if_true,
    add_of_fits shrinks, unclamped]
  exact ⟨rfl, (agree.prune key).put key _⟩

include agree in
/-- What a step gets right keeps the two in agreement. -/
theorem matches_of_faithful {command : StringCommand} (faithful : Faithful clock state command) :
    Matches clock (onMap checked clock command state) (command.onRedis clock store) := by
  cases command with
  | getString key => exact getString_matches agree
  | setStringEx key value ttlSecs => exact setStringEx_matches agree faithful
  | setStringNxEx key value ttlSecs => exact setStringNxEx_matches agree faithful
  | exists_ key => exact exists_matches agree
  | delete key => exact delete_matches agree faithful
  | getdelAtomic key => exact getdel_matches agree
  | atomicIncrEx key ttlSecs => exact atomicIncrEx_matches agree faithful.1 faithful.2
  | atomicDecr key =>
    obtain ⟨entry, found, value, read, positive⟩ := faithful
    exact atomicDecr_matches agree found read positive

/-- Redis refuses a TTL; the map has no error to answer with. -/
theorem onMap_no_error (checked : Bool) (clock : Nat) (command : StringCommand)
    (state : StringStore) (error : RedisLayerError) :
    (onMap checked clock command state).1 ≠ some (.error error) := by
  cases command with
  | getString key => simp [onMap, getString]
  | setStringEx key value ttlSecs =>
    simp only [onMap, setStringEx]
    cases instantAfter clock ttlSecs <;> simp
  | setStringNxEx key value ttlSecs =>
    simp only [onMap, setStringNxEx]
    split
    · simp
    · cases instantAfter clock ttlSecs <;> simp
  | exists_ key => simp [onMap, exists_]
  | delete key => simp [onMap, delete]
  | getdelAtomic key => simp [onMap, getdel]
  | atomicIncrEx key ttlSecs =>
    simp only [onMap, atomicIncrEx]
    cases instantAfter clock ttlSecs with
    | none => simp
    | some deadline =>
      dsimp only
      split <;> simp
  | atomicDecr key =>
    simp only [onMap, atomicDecr]
    split <;> simp

theorem differs_of_error {command : StringCommand} (error : RedisLayerError)
    (refused : (command.onRedis clock store).1 = .error error) :
    (onMap checked clock command state).1 ≠ some (command.onRedis clock store).1 := by
  rw [refused]
  exact onMap_no_error checked clock command state error

private theorem incrBy_live {step value : Int} {later : StringStore}
    (counted : StringCommand.incrBy step clock key store = (.ok value, later)) :
    ∃ entry, later.live clock key = some entry := by
  rw [StringCommand.incrBy] at counted
  cases found : store.live clock key with
  | none =>
    rw [found] at counted
    cases counted
    exact ⟨_, Expiring.live_put_same rfl⟩
  | some entry =>
    rw [found] at counted
    dsimp only at counted
    have alive : entry.alive clock = true := (Option.filter_eq_some_iff.mp found).2
    split at counted
    · cases counted
    · split at counted
      · cases counted
        exact ⟨_, Expiring.live_put_same alive⟩
      · cases counted

/-- A text that is no number, or one that cannot change, is refused. -/
theorem incrBy_error {step : Int} {entry : Expiring.Entry String}
    (found : store.live clock key = some entry)
    (stuck : ∀ value, readStrict entry.value = some value → fitsI64 (value + step) = false) :
    ∃ error, StringCommand.incrBy step clock key store = (.error error, store) := by
  rw [StringCommand.incrBy, found]
  dsimp only
  cases read : readStrict entry.value with
  | none => exact ⟨_, rfl⟩
  | some value =>
    dsimp only
    rw [stuck value read]
    exact ⟨_, rfl⟩

include agree in
private theorem atomicIncrEx_differs (positive : 0 < ttlSecs)
    (unfaithful : ¬ Faithful clock state (.atomicIncrEx key ttlSecs)) :
    (onMap checked clock (.atomicIncrEx key ttlSecs) state).1 ≠
      some (StringCommand.onRedis clock store (.atomicIncrEx key ttlSecs)).1 := by
  by_cases accepts : acceptsTtl clock ttlSecs = true
  · -- The TTL is fine, so the number is not.
    have stuck : ∃ entry, store.live clock key = some entry ∧
        ∀ value, readStrict entry.value = some value → fitsI64 (value + 1) = false := by
      by_contra none_
      apply unfaithful
      refine ⟨accepts, fun entry found => ?_⟩
      by_contra no
      refine none_ ⟨entry, (agree key).symm.trans found, fun value read => ?_⟩
      by_contra grows
      exact no ⟨value, read, by simpa using grows⟩
    obtain ⟨entry, found, stuck⟩ := stuck
    obtain ⟨error, refused⟩ := incrBy_error found stuck
    apply differs_of_error error
    rw [StringCommand.onRedis, refused]
  · have rejected (later : StringStore) (entry : Expiring.Entry String)
        (found : later.live clock key = some entry) :
        StringCommand.expireKey clock key ttlSecs later =
          (.error StringCommand.invalidExpire, later) := by
      rw [StringCommand.expireKey, found]
      dsimp only
      rw [if_neg positive.ne', if_neg accepts]
    cases counted : StringCommand.incrBy 1 clock key store with
    | mk answer later =>
      cases answer with
      | error error =>
        apply differs_of_error error
        rw [StringCommand.onRedis, counted]
      | ok value =>
        apply differs_of_error StringCommand.invalidExpire
        obtain ⟨entry, found⟩ := incrBy_live counted
        rw [StringCommand.onRedis, counted]
        dsimp only
        rw [rejected later entry found]

/-- The map never goes below zero. -/
theorem atomicDecr_nonneg {value : Int}
    (answered : (atomicDecr checked clock key state).1 = some (.ok (.integer value))) :
    0 ≤ value := by
  simp only [atomicDecr] at answered
  split at answered
  · cases answered
  · cases answered
    exact le_max_right _ _

include agree in
private theorem atomicDecr_differs (unfaithful : ¬ Faithful clock state (.atomicDecr key)) :
    (onMap checked clock (.atomicDecr key) state).1 ≠
      some (StringCommand.onRedis clock store (.atomicDecr key)).1 := by
  have below {value : Int} {later : StringStore} (negative : value < 0)
      (counted : StringCommand.incrBy (-1) clock key store = (.ok value, later)) :
      (onMap checked clock (.atomicDecr key) state).1 ≠
        some (StringCommand.onRedis clock store (.atomicDecr key)).1 := by
    intro same
    rw [StringCommand.onRedis, counted] at same
    exact absurd (atomicDecr_nonneg same) (not_le.mpr negative)
  have refusing {error : RedisLayerError} {later : StringStore}
      (counted : StringCommand.incrBy (-1) clock key store = (.error error, later)) :
      (onMap checked clock (.atomicDecr key) state).1 ≠
        some (StringCommand.onRedis clock store (.atomicDecr key)).1 := by
    apply differs_of_error error
    rw [StringCommand.onRedis, counted]
  cases found : store.live clock key with
  | none =>
    have missing : (-1 : Int) < 0 := by decide
    exact below missing (by rw [StringCommand.incrBy, found])
  | some entry =>
    cases read : readStrict entry.value with
    | none =>
      have stuck : ∀ other, readStrict entry.value = some other →
          fitsI64 (other + -1) = false := by simp [read]
      obtain ⟨error, refused⟩ := incrBy_error found stuck
      exact refusing refused
    | some value =>
      have low : value ≤ 0 := by
        by_contra positive
        exact unfaithful ⟨entry, (agree key).trans found, value, read, not_le.mp positive⟩
      cases fits : fitsI64 (value + -1) with
      | false =>
        have stuck : ∀ other, readStrict entry.value = some other →
            fitsI64 (other + -1) = false := by
          intro other again
          rw [read] at again
          cases again
          exact fits
        obtain ⟨error, refused⟩ := incrBy_error found stuck
        exact refusing refused
      | true =>
        have lower : value + -1 < 0 := by omega
        apply below lower
        rw [StringCommand.incrBy, found]
        dsimp only
        rw [read]
        dsimp only
        rw [if_pos fits]

include agree in
private theorem delete_differs (unfaithful : ¬ Faithful clock state (.delete key)) :
    (onMap checked clock (.delete key) state).1 ≠
      some (StringCommand.onRedis clock store (.delete key)).1 := by
  cases stored : state key with
  | none => exact absurd (fun entry present => by rw [stored] at present; cases present) unfaithful
  | some entry =>
    have dead : ¬ entry.alive clock = true := by
      intro alive
      apply unfaithful
      intro other present
      rw [stored] at present
      cases present
      exact alive
    have gone : store.live clock key = none := by
      rw [← agree key, Expiring.live, stored, Option.filter_some, if_neg dead]
    simp [onMap, delete, StringCommand.onRedis, stored, gone]

include agree in
/-- A step is answered alike exactly when it is one the map gets right. -/
theorem answers_alike_iff {command : StringCommand} (timed : Timed command) :
    (onMap checked clock command state).1 = some (command.onRedis clock store).1 ↔
      Faithful clock state command := by
  constructor
  · intro alike
    by_contra unfaithful
    cases command with
    | getString key => exact unfaithful trivial
    | exists_ key => exact unfaithful trivial
    | getdelAtomic key => exact unfaithful trivial
    | setStringEx key value ttlSecs =>
      have rejected : ¬ acceptsTtl clock ttlSecs = true := unfaithful
      refine differs_of_error StringCommand.invalidExpire ?_ alike
      rw [StringCommand.onRedis, if_neg rejected]
    | setStringNxEx key value ttlSecs =>
      have rejected : ¬ acceptsTtl clock ttlSecs = true := unfaithful
      refine differs_of_error StringCommand.invalidExpire ?_ alike
      rw [StringCommand.onRedis, if_neg rejected]
    | delete key => exact delete_differs agree unfaithful alike
    | atomicIncrEx key ttlSecs => exact atomicIncrEx_differs agree timed unfaithful alike
    | atomicDecr key => exact atomicDecr_differs agree unfaithful alike
  · exact fun faithful => (matches_of_faithful agree faithful).1

/-- A command and the time it is carried out. -/
abbrev Timeline := List (Nat × StringCommand)

def answers (checked : Bool) : InMemoryRedis → Timeline → List (Attempt StringReply)
  | _, [] => []
  | memory, (clock, command) :: later =>
    let (answer, memory) := memory.exec checked clock command
    answer :: answers checked memory later

def redisAnswers : StringStore → Timeline → List (Except RedisLayerError StringReply)
  | _, [] => []
  | store, (clock, command) :: later =>
    let (answer, store) := command.onRedis clock store
    answer :: redisAnswers store later

/-- Every step is one the map gets right in the state before it. -/
def FaithfulRun (checked : Bool) : InMemoryRedis → Timeline → Prop
  | _, [] => True
  | memory, (clock, command) :: later =>
    Faithful clock memory.state command ∧
      FaithfulRun checked (memory.exec checked clock command).2 later

private theorem exec_available (state : StringStore) (command : StringCommand) :
    exec checked clock ⟨true, state⟩ command =
      ((onMap checked clock command state).1, ⟨true, (onMap checked clock command state).2⟩) := rfl

private theorem answers_iff {commands : Timeline} {start : Nat}
    (agree : Expiring.Agree start state store)
    (after : ∀ step ∈ commands, start ≤ step.1)
    (ordered : commands.Pairwise fun first second => first.1 ≤ second.1)
    (timed : ∀ step ∈ commands, Timed step.2) :
    answers checked ⟨true, state⟩ commands = (redisAnswers store commands).map some ↔
      FaithfulRun checked ⟨true, state⟩ commands := by
  induction commands generalizing state store start with
  | nil => exact ⟨fun _ => trivial, fun _ => rfl⟩
  | cons step later ih =>
    obtain ⟨clock, command⟩ := step
    obtain ⟨next, ordered⟩ := List.pairwise_cons.mp ordered
    have now := agree.pass (after _ (.head _))
    have alike := @answers_alike_iff checked _ _ _ now _ (timed _ (.head _))
    have rest (faithful : Faithful clock state command) :=
      ih (@matches_of_faithful checked _ _ _ now _ faithful).2 next ordered fun step member =>
        timed step (.tail _ member)
    rw [answers, redisAnswers, FaithfulRun, exec_available, List.map_cons, List.cons.injEq]
    constructor
    · rintro ⟨same, others⟩
      have faithful := alike.mp same
      exact ⟨faithful, (rest faithful).mp others⟩
    · rintro ⟨faithful, others⟩
      exact ⟨alike.mpr faithful, (rest faithful).mpr others⟩

/-- On the same sequence of commands the map answers as Redis does exactly when every step
is one it gets right. -/
theorem answers_eq_redis_iff (checked : Bool) (commands : Timeline)
    (ordered : commands.Pairwise fun first second => first.1 ≤ second.1)
    (timed : ∀ step ∈ commands, Timed step.2) :
    answers checked (new true) commands = (redisAnswers Expiring.empty commands).map some ↔
      FaithfulRun checked (new true) commands :=
  answers_iff (Expiring.Agree.refl 0 Expiring.empty) (fun _ _ => Nat.zero_le _) ordered timed

instance : (command : StringCommand) → Decidable (Timed command)
  | .setStringEx _ _ ttlSecs | .setStringNxEx _ _ ttlSecs | .atomicIncrEx _ ttlSecs =>
    inferInstanceAs (Decidable (0 < ttlSecs))
  | .getString _ | .exists_ _ | .delete _ | .getdelAtomic _ | .atomicDecr _ => isTrue trivial

/-- A session is counted, its counter read and taken back to nothing. -/
def sampleCommands : Timeline :=
  [(0, .atomicIncrEx "session_count:1" 60), (1000, .atomicIncrEx "session_count:1" 60),
    (2000, .getString "session_count:1"), (3000, .atomicDecr "session_count:1"),
    (70000, .exists_ "session_count:1")]

theorem sample_answers_eq_redis : FaithfulRun true (new true) sampleCommands :=
  (answers_eq_redis_iff true sampleCommands (by decide) (by decide)).mp (by decide +kernel)

/-- The decrement of a counter that is not there, and the deletion of an entry that is past
its deadline. -/
theorem missing_counter_differs :
    answers true (new true) [(0, .atomicDecr "session_count:1")] ≠
        (redisAnswers Expiring.empty [(0, .atomicDecr "session_count:1")]).map some ∧
      answers true (new true) [(0, .setStringEx "session:1" "{}" 1), (2000, .delete "session:1")] ≠
        (redisAnswers Expiring.empty
          [(0, .setStringEx "session:1" "{}" 1), (2000, .delete "session:1")]).map some := by
  decide +kernel

end InMemoryRedis

end BrainMate.Gateway
