import Mathlib.Data.Set.Card
import BrainMate.Interleaving.Protocol
import BrainMate.Interleaving.Turns
import BrainMate.Gateway.Serving
import BrainMate.Gateway.Footprint

/-! The session limit without a database. A counter with a TTL of its own stands
for the live session entries of a user. It is an upper bound for their number as
long as it outlives them: every increment overwrites its TTL, also with a shorter
one, and an expired counter starts again at zero. -/

namespace BrainMate.Gateway.SessionLimitRedis

open Interleaving System

/-- The session has a live entry whose record names this user. -/
def LiveFor (userId : String) (world : World) (sessionId : String) : Prop :=
  ∃ raw record, world.lookup (.session sessionId) = some raw ∧ raw.asSession = .ok record ∧
    record.userId = userId

def isLimited (maxSessions : Nat) : Call → Bool
  | .createSession _ _ _ _ ttlSecs maxSessionsPerUser =>
    decide (1 ≤ ttlSecs) && maxSessionsPerUser == maxSessions
  | .revokeSession _ => true
  | _ => false

def isTick : Event → Bool
  | .tick _ => true
  | .evict _ => false

/-- Every command succeeds, and nothing happens between them but the passing of time. -/
def upRules (site : Deployment) : site.system.Rules where
  admits world command outcome :=
    outcome = .success ∧ acknowledged command (command.answer world) = true
  occurs _ event := isTick event = true

instance (site : Deployment) (world : World) (command : Command) (outcome : Outcome) :
    Decidable ((upRules site).admits world command outcome) :=
  inferInstanceAs (Decidable
    (outcome = .success ∧ acknowledged command (command.answer world) = true))

instance (site : Deployment) (world : World) (event : Event) :
    Decidable ((upRules site).occurs world event) :=
  inferInstanceAs (Decidable (isTick event = true))

/-- Creations with one limit and revocations, one after another. -/
def turnTraffic (site : Deployment) (maxSessions : Nat) (config : site.system.Config)
    (action : site.system.Action) : Prop :=
  Starts (isLimited maxSessions) config action ∧ InTurn config action ∧
    (upRules site).permits config action

instance (site : Deployment) (maxSessions : Nat) (config : site.system.Config)
    (action : site.system.Action) : Decidable (turnTraffic site maxSessions config action) :=
  inferInstanceAs (Decidable (Starts (isLimited maxSessions) config action ∧
    InTurn config action ∧ (upRules site).permits config action))

/-- Between two operations no user has more live sessions than the limit. -/
def WithinLimit (site : Deployment) (maxSessions : Nat)
    (permitted : site.system.Config → site.system.Action → Prop) : Prop :=
  ∀ (clock : Nat) (actions : List site.system.Action) (last : site.system.Config),
    Run permitted (.initial (World.empty clock)) actions last → Quiescent last →
    ∀ userId, Set.encard {sessionId | LiveFor userId last.world sessionId} ≤ maxSessions

/-- A live session entry that a counter stands for. -/
structure Counted (sha256Hex : String → String) (userHash : String) (world : World)
    (sessionId : String) (entry : RedisEntry) : Prop where
  stored : world.redis (.session sessionId) = some entry
  alive : entry.alive world.clock = true
  named : ∃ record, entry.value.asSession = .ok record ∧ sha256Hex record.userId = userHash

/-- An increment gives the counter a deadline that is not before that of an entry it
stands for. -/
def Outlasts (sha256Hex : String → String) (world : World) : Command → Prop
  | .redis (.incrEx (.sessionCount userHash) ttlSecs) => ∀ sessionId entry,
      Counted sha256Hex userHash world sessionId entry →
      ∃ deadline, entry.deadline = some deadline ∧ deadline ≤ world.clock + ttlSecs * 1000
  | _ => True

/-- A decrement finds the counter alive. -/
def findsCounter (world : World) : Command → Bool
  | .redis (.decr key) => (world.lookup key).isSome
  | _ => true

def steadyRules (site : Deployment) : site.system.Rules where
  admits world command _ := Outlasts site.sha256Hex world command ∧ findsCounter world command = true
  occurs _ _ := True

def steadyTraffic (site : Deployment) (maxSessions : Nat) (config : site.system.Config)
    (action : site.system.Action) : Prop :=
  turnTraffic site maxSessions config action ∧ (steadyRules site).permits config action

/-- The set has at most this many elements. -/
def AtMost (ids : Set String) (bound : Int) : Prop :=
  ∃ names : Finset String, (∀ id ∈ ids, id ∈ names) ∧ (names.card : Int) ≤ bound

section

variable {ids fewer : Set String} {id : String} {bound more : Int}

theorem AtMost.mono (atMost : AtMost ids bound) (subset : ∀ id ∈ fewer, id ∈ ids)
    (larger : bound ≤ more) : AtMost fewer more := by
  obtain ⟨names, listed, few⟩ := atMost
  exact ⟨names, fun id member => listed id (subset id member), few.trans larger⟩

private theorem atMost_empty (none : ∀ id, id ∉ ids) : AtMost ids 0 :=
  ⟨∅, fun id member => absurd member (none id), by simp⟩

theorem AtMost.grow (atMost : AtMost ids bound) (id : String) :
    AtMost (insert id ids) (bound + 1) := by
  obtain ⟨names, listed, few⟩ := atMost
  refine ⟨insert id names, ?_, ?_⟩
  · rintro other (rfl | member)
    · exact Finset.mem_insert_self _ _
    · exact Finset.mem_insert_of_mem (listed other member)
  · have grows := Finset.card_insert_le id names
    omega

theorem AtMost.erase (atMost : AtMost (insert id ids) bound) : AtMost (ids \ {id}) (bound - 1) := by
  obtain ⟨names, listed, few⟩ := atMost
  refine ⟨names.erase id, ?_, ?_⟩
  · rintro other ⟨member, different⟩
    exact Finset.mem_erase.mpr ⟨different, listed other (.inr member)⟩
  · have present : id ∈ names := listed id (.inl rfl)
    have shrinks := Finset.card_erase_add_one present
    omega

theorem AtMost.nonneg (atMost : AtMost ids bound) : 0 ≤ bound := by
  obtain ⟨names, _, few⟩ := atMost
  exact (Int.natCast_nonneg _).trans few

theorem AtMost.encard_le {limit : Nat} (atMost : AtMost ids limit) : ids.encard ≤ limit := by
  obtain ⟨names, listed, few⟩ := atMost
  calc ids.encard ≤ (names : Set String).encard := Set.encard_le_encard fun id => listed id
    _ = names.card := Set.encard_coe_eq_coe_finsetCard names
    _ ≤ limit := by exact_mod_cast few

end

/-- The sessions a counter stands for. -/
def liveSessions (sha256Hex : String → String) (userHash : String) (world : World) : Set String :=
  {sessionId | ∃ entry, Counted sha256Hex userHash world sessionId entry}

/-- What a counter shows; a missing one counts from zero. -/
def counterValue (userHash : String) (world : World) : Int :=
  match world.lookup (.sessionCount userHash) with
  | some (.counter value) => value
  | _ => 0

/-- What is still to be done for a counter by the operation under way. -/
inductive Due where
  | nothing
  /-- The entry is stored and not yet counted. -/
  | increment (sessionId : String)
  /-- The count is over the limit; the entry goes, then the counter. -/
  | removal (sessionId : String)
  | decrement

/-- The balance of a counter and its entries. -/
def Balanced (maxSessions : Nat) (live : Set String) (value : Int) (alive : Bool) : Due → Prop
  | .nothing => AtMost live value ∧ value ≤ maxSessions
  | .increment sessionId => AtMost (insert sessionId live) (value + 1) ∧ value ≤ maxSessions
  | .removal sessionId =>
    alive = true → AtMost (insert sessionId live) value ∧ value ≤ maxSessions + 1
  | .decrement => alive = true → AtMost live (value - 1) ∧ value ≤ maxSessions + 1

/-- A counter that lives as long as the entries it stands for, the one that is
about to be counted apart, and balances them. -/
structure Account (sha256Hex : String → String) (maxSessions : Nat) (userHash : String)
    (world : World) (due : Due) : Prop where
  typed : ∀ value, world.lookup (.sessionCount userHash) = some value →
    ∃ count, value = .counter count
  outlives : ∀ sessionId entry, Counted sha256Hex userHash world sessionId entry →
    due ≠ .increment sessionId → ∃ counter, world.redis (.sessionCount userHash) = some counter ∧
      ∀ clock, entry.alive clock = true → counter.alive clock = true
  balanced : Balanced maxSessions (liveSessions sha256Hex userHash world)
    (counterValue userHash world) (world.lookup (.sessionCount userHash)).isSome due

section

variable {sha256Hex : String → String} {maxSessions : Nat} {userHash : String}
variable {world after : World} {due : Due} {sessionId : String}

theorem Balanced.shrink {live fewer : Set String} {value : Int} {alive : Bool}
    (balanced : Balanced maxSessions live value alive due) (subset : ∀ id ∈ fewer, id ∈ live) :
    Balanced maxSessions fewer value alive due := by
  have inserted (sessionId : String) : ∀ id ∈ insert sessionId fewer, id ∈ insert sessionId live :=
    fun _ member => member.imp (fun same => same) (subset _)
  cases due with
  | nothing => exact ⟨balanced.1.mono subset (Int.le_refl _), balanced.2⟩
  | increment sessionId => exact ⟨balanced.1.mono (inserted _) (Int.le_refl _), balanced.2⟩
  | removal sessionId =>
    intro counts
    exact ⟨(balanced counts).1.mono (inserted _) (Int.le_refl _), (balanced counts).2⟩
  | decrement =>
    intro counts
    exact ⟨(balanced counts).1.mono subset (Int.le_refl _), (balanced counts).2⟩

/-- An entry that nobody touched is as before or has expired. -/
theorem lookup_later (key : RedisKey) (clock : world.clock ≤ after.clock)
    (same : after.redis key = world.redis key) :
    after.lookup key = world.lookup key ∨ after.lookup key = none := by
  obtain ⟨milliseconds, passed⟩ := Nat.exists_eq_add_of_le clock
  cases stored : world.redis key with
  | none =>
    rw [stored] at same
    exact .inr (by rw [World.lookup, same]; rfl)
  | some entry =>
    rw [stored] at same
    by_cases alive : entry.alive after.clock = true
    · rw [World.lookup_alive same alive]
      rw [passed] at alive
      exact .inl (World.lookup_alive stored (entry.alive_earlier alive)).symm
    · exact .inr (World.lookup_dead same alive)

/-- The counter is untouched and stands for no more entries than before; it may have
expired, but then its entries have, too. -/
theorem Account.shrink (account : Account sha256Hex maxSessions userHash world due)
    (clock : world.clock ≤ after.clock)
    (counter : after.redis (.sessionCount userHash) = world.redis (.sessionCount userHash))
    (entries : ∀ sessionId entry, Counted sha256Hex userHash after sessionId entry →
      Counted sha256Hex userHash world sessionId entry) :
    Account sha256Hex maxSessions userHash after due := by
  have outlives : ∀ sessionId entry, Counted sha256Hex userHash after sessionId entry →
      due ≠ .increment sessionId → ∃ counter, after.redis (.sessionCount userHash) = some counter ∧
        ∀ clock, entry.alive clock = true → counter.alive clock = true := by
    rw [counter]
    exact fun sessionId entry counted => account.outlives sessionId entry (entries _ _ counted)
  have subset : ∀ id ∈ liveSessions sha256Hex userHash after, id ∈ liveSessions sha256Hex userHash world :=
    fun id ⟨entry, counted⟩ => ⟨entry, entries id entry counted⟩
  rcases lookup_later (.sessionCount userHash) clock counter with same | gone
  · refine ⟨same ▸ account.typed, outlives, ?_⟩
    have value : counterValue userHash after = counterValue userHash world := by
      simp only [counterValue, same]
    rw [value, same]
    exact account.balanced.shrink subset
  · -- No entry that the counter stands for is left.
    have expired : ∀ id ∈ liveSessions sha256Hex userHash after, due = .increment id := by
      rintro id ⟨entry, counted⟩
      by_contra other
      obtain ⟨stored, found, lives⟩ := outlives id entry counted other
      have present := World.lookup_alive found (lives _ counted.alive)
      rw [gone] at present
      cases present
    have value : counterValue userHash after = 0 := by simp only [counterValue, gone]
    refine ⟨by simp [gone], outlives, ?_⟩
    rw [value, gone]
    cases due with
    | nothing =>
      refine ⟨atMost_empty fun id member => ?_, by omega⟩
      cases expired id member
    | increment sessionId =>
      refine ⟨?_, by omega⟩
      have alone : AtMost (insert sessionId (∅ : Set String)) (0 + 1) :=
        (atMost_empty fun _ => id).grow sessionId
      refine alone.mono ?_ (Int.le_refl _)
      rintro id (rfl | member)
      · exact .inl rfl
      · cases expired id member
        exact .inl rfl
    | removal sessionId => exact nofun
    | decrement => exact nofun

/-- Storing a session entry adds it and hides what was under its key. -/
theorem Counted.of_store {stored entry : RedisEntry} {id : String}
    (counted : Counted sha256Hex userHash (world.store (.session sessionId) stored) id entry) :
    (id = sessionId ∧ entry = stored) ∨ Counted sha256Hex userHash world id entry := by
  obtain ⟨found, alive, named⟩ := counted
  by_cases same : id = sessionId
  · subst id
    exact .inl ⟨rfl, by simpa [World.store] using found.symm⟩
  · exact .inr ⟨by simpa [World.store, same] using found, alive, named⟩

theorem Counted.of_remove {entry : RedisEntry} {id : String}
    (counted : Counted sha256Hex userHash (world.remove (.session sessionId)) id entry) :
    id ≠ sessionId ∧ Counted sha256Hex userHash world id entry := by
  obtain ⟨found, alive, named⟩ := counted
  by_cases same : id = sessionId
  · subst id
    simp [World.remove] at found
  · exact ⟨same, by simpa [World.remove, same] using found, alive, named⟩

theorem Counted.of_other_key {key : RedisKey} {stored entry : RedisEntry} {id : String}
    (elsewhere : ∀ id, key ≠ .session id)
    (counted : Counted sha256Hex userHash (world.store key stored) id entry) :
    Counted sha256Hex userHash world id entry := by
  obtain ⟨found, alive, named⟩ := counted
  have untouched := Function.update_of_ne (elsewhere id).symm (some stored) world.redis
  exact ⟨untouched.symm.trans found, alive, named⟩

/-- A counter of another user is none of this one's business. -/
theorem Account.other_counter (account : Account sha256Hex maxSessions userHash world due)
    {otherHash : String} {stored : RedisEntry} (different : userHash ≠ otherHash) :
    Account sha256Hex maxSessions userHash (world.store (.sessionCount otherHash) stored) due :=
  account.shrink (Nat.le_refl _) (by simp [World.store, different])
    (fun _ _ => Counted.of_other_key (by simp))

theorem Account.remove (account : Account sha256Hex maxSessions userHash world due)
    (sessionId : String) :
    Account sha256Hex maxSessions userHash (world.remove (.session sessionId)) due :=
  account.shrink (Nat.le_refl _) (by simp [World.remove]) (fun _ _ counted => counted.of_remove.2)

/-- An entry was stored for a user of this counter. -/
theorem Account.register {record : SessionRecord} {deadline : Option Nat}
    (account : Account sha256Hex maxSessions userHash world .nothing) :
    Account sha256Hex maxSessions userHash
      (world.store (.session sessionId) ⟨.session record, deadline⟩) (.increment sessionId) := by
  have counter : (world.store (.session sessionId) ⟨.session record, deadline⟩).lookup
      (.sessionCount userHash) = world.lookup (.sessionCount userHash) :=
    World.lookup_store_other _ _ _ _ (by simp)
  refine ⟨counter ▸ account.typed, ?_, ?_⟩
  · intro id entry counted other
    obtain ⟨rfl, _⟩ | before := counted.of_store
    · exact absurd rfl other
    · simpa [World.store] using account.outlives id entry before (by simp)
  · simp only [counterValue, counter]
    refine ⟨(account.balanced.1.grow sessionId).mono ?_ (Int.le_refl _), account.balanced.2⟩
    rintro id (rfl | ⟨entry, counted⟩)
    · exact .inl rfl
    · obtain ⟨rfl, _⟩ | before := counted.of_store
      · exact .inl rfl
      · exact .inr ⟨entry, before⟩

/-- An entry was stored for a user of another counter. -/
theorem Account.other_session {record : SessionRecord} {deadline : Option Nat}
    (account : Account sha256Hex maxSessions userHash world due)
    (different : sha256Hex record.userId ≠ userHash) :
    Account sha256Hex maxSessions userHash
      (world.store (.session sessionId) ⟨.session record, deadline⟩) due := by
  refine account.shrink (Nat.le_refl _) (by simp [World.store]) ?_
  intro id entry counted
  obtain ⟨_, rfl⟩ | before := counted.of_store
  · obtain ⟨named, parsed, hash⟩ := counted.named
    cases parsed
    exact absurd hash different
  · exact before

/-- The counter was given a new value and a deadline that its entries do not pass. -/
theorem Account.recount {count : Int} {deadline : Option Nat} {due' : Due}
    (alive : RedisEntry.alive ⟨.counter count, deadline⟩ world.clock = true)
    (lasts : ∀ sessionId entry, Counted sha256Hex userHash world sessionId entry →
      ∀ clock, entry.alive clock = true → RedisEntry.alive ⟨.counter count, deadline⟩ clock = true)
    (balanced : Balanced maxSessions (liveSessions sha256Hex userHash world) count true due') :
    Account sha256Hex maxSessions userHash
      (world.store (.sessionCount userHash) ⟨.counter count, deadline⟩) due' := by
  have found : (world.store (.sessionCount userHash) ⟨.counter count, deadline⟩).lookup
      (.sessionCount userHash) = some (.counter count) := by
    rw [World.lookup_store_same, Option.filter_some, if_pos alive]
    rfl
  refine ⟨?_, ?_, ?_⟩
  · intro value same
    rw [found] at same
    exact ⟨count, (Option.some.inj same).symm⟩
  · intro id entry counted _
    exact ⟨_, Function.update_self _ _ _, lasts id entry (counted.of_other_key (by simp))⟩
  · simp only [counterValue, found]
    refine balanced.shrink ?_
    rintro id ⟨entry, counted⟩
    exact ⟨entry, counted.of_other_key (by simp)⟩

/-- An entry is alive no longer than until its deadline. -/
theorem alive_until {entry : RedisEntry} {value : RedisValue} {early late clock : Nat}
    (deadline : entry.deadline = some early) (ordered : early ≤ late)
    (alive : entry.alive clock = true) : RedisEntry.alive ⟨value, some late⟩ clock = true := by
  simp only [RedisEntry.alive, deadline, decide_eq_true_eq] at alive ⊢
  omega

/-- The entry that was just stored is counted. -/
theorem Account.count {ttlSecs : Nat}
    (account : Account sha256Hex maxSessions userHash world (.increment sessionId))
    (accepted : acceptsTtl world.clock ttlSecs = true)
    (steady : ∀ sessionId entry, Counted sha256Hex userHash world sessionId entry →
      ∃ deadline, entry.deadline = some deadline ∧ deadline ≤ world.clock + ttlSecs * 1000) :
    Account sha256Hex maxSessions userHash
      (world.store (.sessionCount userHash)
        ⟨.counter (counterValue userHash world + 1), some (world.clock + ttlSecs * 1000)⟩)
      (if counterValue userHash world + 1 ≤ maxSessions then .nothing else .removal sessionId) := by
  have positive : 0 < ttlSecs := by
    simp only [acceptsTtl, Bool.and_eq_true, decide_eq_true_eq] at accepted
    exact accepted.1
  obtain ⟨covered, bounded⟩ := account.balanced
  refine .recount (by simp [RedisEntry.alive, positive]) ?_ ?_
  · intro id entry counted clock alive
    obtain ⟨deadline, due, ordered⟩ := steady id entry counted
    exact alive_until due ordered alive
  · split
    · rename_i room
      exact ⟨covered.mono (fun _ => .inr) (Int.le_refl _), room⟩
    · intro _
      exact ⟨covered, by omega⟩

/-- The entry over the limit is deleted. -/
theorem Account.delete
    (account : Account sha256Hex maxSessions userHash world (.removal sessionId)) :
    Account sha256Hex maxSessions userHash (world.remove (.session sessionId)) .decrement := by
  have counter : (world.remove (.session sessionId)).lookup (.sessionCount userHash) =
      world.lookup (.sessionCount userHash) := World.lookup_remove_other _ _ _ (by simp)
  refine ⟨counter ▸ account.typed, ?_, ?_⟩
  · intro id entry counted _
    simpa [World.remove] using account.outlives id entry counted.of_remove.2 (by simp)
  · simp only [counterValue, counter]
    intro alive
    obtain ⟨covered, bounded⟩ := account.balanced alive
    refine ⟨covered.erase.mono ?_ (Int.le_refl _), bounded⟩
    rintro id ⟨entry, counted⟩
    exact ⟨⟨entry, counted.of_remove.2⟩, counted.of_remove.1⟩

/-- A live entry of the counter counts as one that is over the limit. -/
theorem Account.removal_of_live
    (account : Account sha256Hex maxSessions userHash world .nothing)
    (live : sessionId ∈ liveSessions sha256Hex userHash world) :
    Account sha256Hex maxSessions userHash world (.removal sessionId) := by
  obtain ⟨covered, bounded⟩ := account.balanced
  refine ⟨account.typed, fun id entry counted _ => account.outlives id entry counted (by simp), ?_⟩
  intro _
  refine ⟨covered.mono ?_ (Int.le_refl _), by omega⟩
  rintro id (rfl | member)
  · exact live
  · exact member

/-- The counter of a deleted entry goes down. -/
theorem Account.uncount {counter : RedisEntry}
    (account : Account sha256Hex maxSessions userHash world .decrement)
    (stored : world.redis (.sessionCount userHash) = some counter)
    (alive : counter.alive world.clock = true) :
    Account sha256Hex maxSessions userHash
      (world.store (.sessionCount userHash)
        ⟨.counter (counterValue userHash world - 1), counter.deadline⟩) .nothing := by
  have present : (world.lookup (.sessionCount userHash)).isSome = true := by
    rw [World.lookup_alive stored alive]
    rfl
  obtain ⟨covered, bounded⟩ := account.balanced present
  refine .recount alive ?_ ⟨covered, by omega⟩
  intro id entry counted clock lives
  obtain ⟨other, same, outlives⟩ := account.outlives id entry counted (by simp)
  rw [stored] at same
  cases same
  exact outlives clock lives

end

inductive Phase where
  | resting
  | registered (sessionId userHash : String)
  | rejecting (sessionId userHash : String)
  | dropped (userHash : String)

namespace Phase

/-- What the client still owes a counter. -/
def due (userHash : String) : Phase → Due
  | .resting => .nothing
  | .registered sessionId own => if own = userHash then .increment sessionId else .nothing
  | .rejecting sessionId own => if own = userHash then .removal sessionId else .nothing
  | .dropped own => if own = userHash then .decrement else .nothing

end Phase

inductive Moves (sha256Hex : String → String) (maxSessions : Nat) :
    Phase → (command : Command) → command.Reply → Phase → Prop where
  | register (record : SessionRecord) (ttlSecs : Nat) :
      Moves sha256Hex maxSessions .resting
        (.redis (.setNxEx (.session sessionId) (.session record) ttlSecs)) (.ok true)
        (.registered sessionId (sha256Hex record.userId))
  | refuse (value : RedisValue) (ttlSecs : Nat) :
      Moves sha256Hex maxSessions .resting (.redis (.setNxEx key value ttlSecs)) (.ok false) .resting
  | read (reply) : Moves sha256Hex maxSessions .resting (.redis (.get key)) reply .resting
  | count (positive : 0 < ttlSecs) (room : newCount ≤ maxSessions) :
      Moves sha256Hex maxSessions (.registered sessionId userHash)
        (.redis (.incrEx (.sessionCount userHash) ttlSecs)) (.ok newCount) .resting
  | exceed (positive : 0 < ttlSecs) (above : maxSessions < newCount) :
      Moves sha256Hex maxSessions (.registered sessionId userHash)
        (.redis (.incrEx (.sessionCount userHash) ttlSecs)) (.ok newCount)
        (.rejecting sessionId userHash)
  | delete (reply) : Moves sha256Hex maxSessions (.rejecting sessionId userHash)
      (.redis (.delete (.session sessionId))) reply (.dropped userHash)
  | take (parsed : raw.asSession = .ok record) :
      Moves sha256Hex maxSessions .resting (.redis (.getDel (.session sessionId))) (.ok (some raw))
        (.dropped (sha256Hex record.userId))
  | miss (reply) (nothing : ∀ raw record, reply = .ok (some raw) → raw.asSession ≠ .ok record) :
      Moves sha256Hex maxSessions .resting (.redis (.getDel (.session sessionId))) reply .resting
  | uncount (reply) : Moves sha256Hex maxSessions (.dropped userHash)
      (.redis (.decr (.sessionCount userHash))) reply .resting
  | fail (command : Command) (reply : command.Reply)
      (unanswered : acknowledged command reply = false) :
      Moves sha256Hex maxSessions phase command reply .resting

@[reducible] def counting (sha256Hex : String → String) (maxSessions : Nat) :
    Protocol Command Command.Reply :=
  ⟨Phase, .resting, Moves sha256Hex maxSessions⟩

section

variable (sha256Hex : String → String) (maxSessions : Nat)

private theorem createSessionRedis_conforms (sessionId userId : String) (issuedAt : Option Nat)
    (deviceInfo : Option String) {ttlSecs : Nat} (positive : 0 < ttlSecs) :
    (counting sha256Hex maxSessions).Conforms .resting
      (SessionStore.createSessionRedis sha256Hex sessionId userId issuedAt deviceInfo ttlSecs
        maxSessions) := by
  simp only [SessionStore.createSessionRedis, SessionStore.getSessionJson,
    SessionStore.incrementUserSessionCount, SessionStore.decrementUserSessionCount,
    SessionStore.userSessionCountKey, redis_eq, Program.call_bind, Program.done_bind]
  rintro (error | _ | _)
  · exact ⟨.resting, .fail _ _ rfl, rfl⟩
  · refine ⟨.resting, .refuse _ _, ?_⟩
    rintro (error | _ | raw)
    · exact ⟨.resting, .read _, rfl⟩
    · exact ⟨.resting, .read _, rfl⟩
    · refine ⟨.resting, .read _, ?_⟩
      dsimp only
      cases raw.asSession with
      | error error => rfl
      | ok existing =>
        simp only [Except.map, Program.pure_eq, Program.done_bind]
        split <;> rfl
  · refine ⟨.registered sessionId (sha256Hex userId), .register ⟨userId, issuedAt, deviceInfo⟩ _, ?_⟩
    rintro (error | newCount)
    · exact ⟨.resting, .fail _ _ rfl, rfl⟩
    · simp only [Program.pure_eq, Program.done_bind]
      by_cases above : maxSessions < newCount
      · refine ⟨.rejecting sessionId (sha256Hex userId), .exceed positive above, ?_⟩
        simp only [above, ↓reduceIte]
        intro deleted
        refine ⟨.dropped (sha256Hex userId), .delete deleted, ?_⟩
        rintro (error | _)
        · exact ⟨.resting, .uncount _, rfl⟩
        · exact ⟨.resting, .uncount _, rfl⟩
      · refine ⟨.resting, .count positive (Nat.le_of_not_lt above), ?_⟩
        simp only [above, ↓reduceIte]
        rfl

private theorem dropCachedSession_conforms (sessionId : String) :
    (counting sha256Hex maxSessions).Conforms .resting
      (SessionStore.dropCachedSession sha256Hex false sessionId) := by
  simp only [SessionStore.dropCachedSession, SessionStore.decrementUserSessionCount,
    SessionStore.userSessionCountKey, redis_eq, Program.call_bind, Program.done_bind]
  rintro (error | _ | raw)
  · exact ⟨.resting, .fail _ _ rfl, rfl⟩
  · exact ⟨.resting, .miss _ (by simp), rfl⟩
  · dsimp only
    cases parsed : raw.asSession with
    | error error =>
      refine ⟨.resting, .miss _ ?_, rfl⟩
      rintro _ record ⟨⟩
      simp [parsed]
    | ok record =>
      refine ⟨.dropped (sha256Hex record.userId), .take parsed, ?_⟩
      rintro (error | _)
      · exact ⟨.resting, .uncount _, rfl⟩
      · exact ⟨.resting, .uncount _, rfl⟩

/-- The calls of the traffic follow the protocol. -/
theorem limited_conforms (site : Deployment) {call : Call}
    (kind : isLimited maxSessions call = true) :
    (counting site.sha256Hex maxSessions).Conforms .resting
      (({ site with db := false } : Deployment).program call) := by
  cases call <;> simp only [isLimited, Bool.false_eq_true, Bool.and_eq_true, beq_iff_eq] at kind
  case createSession =>
    obtain ⟨positive, rfl⟩ := kind
    simp only [Deployment.program, SessionStore.createSession]
    split
    · rfl
    split
    · rfl
    exact createSessionRedis_conforms _ _ _ _ _ _ (of_decide_eq_true positive)
  case revokeSession =>
    simp only [Deployment.program, SessionStore.revokeSession]
    split
    · rfl
    exact dropCachedSession_conforms _ _ _

end

section

variable {world : World} {key : RedisKey} {value : RedisValue} {ttlSecs : Nat}

private theorem setNxEx_stored
    (answered : (RedisCommand.setNxEx key value ttlSecs).answer world = .ok true) :
    world.lookup key = none ∧ (RedisCommand.setNxEx key value ttlSecs).effect world =
      world.store key ⟨value, some (world.clock + ttlSecs * 1000)⟩ := by
  simp only [RedisCommand.answer] at answered
  split at answered
  · rename_i accepted
    have missing : world.lookup key = none := by simpa using Except.ok.inj answered
    exact ⟨missing, by simp [RedisCommand.effect, accepted, missing]⟩
  · cases answered

private theorem setNxEx_refused
    (answered : (RedisCommand.setNxEx key value ttlSecs).answer world = .ok false) :
    (RedisCommand.setNxEx key value ttlSecs).effect world = world := by
  simp only [RedisCommand.answer] at answered
  split at answered
  · have present : (world.lookup key).isNone = false := Except.ok.inj answered
    simp [RedisCommand.effect, present]
  · cases answered

variable {userHash : String} {newCount : Nat}

/-- An increment that was answered shows the new value and stores it with its TTL. -/
theorem incrEx_answered (positive : 0 < ttlSecs)
    (typed : ∀ value, world.lookup (.sessionCount userHash) = some value →
      ∃ count, value = .counter count)
    (answered : (RedisCommand.incrEx (.sessionCount userHash) ttlSecs).answer world = .ok newCount) :
    acceptsTtl world.clock ttlSecs = true ∧ newCount = asU64 (counterValue userHash world + 1) ∧
      (RedisCommand.incrEx (.sessionCount userHash) ttlSecs).effect world =
        world.store (.sessionCount userHash)
          ⟨.counter (counterValue userHash world + 1), some (world.clock + ttlSecs * 1000)⟩ := by
  have nonzero : ttlSecs ≠ 0 := Nat.ne_of_gt positive
  cases found : world.lookup (.sessionCount userHash) with
  | none =>
    simp only [RedisCommand.answer, found, nonzero, false_or] at answered
    split at answered
    · rename_i accepted
      refine ⟨accepted, ?_, ?_⟩
      · simp only [counterValue, found]
        exact (Except.ok.inj answered).symm
      · simp [RedisCommand.effect, counterValue, found, nonzero, accepted]
    · cases answered
  | some stored =>
    obtain ⟨count, rfl⟩ := typed stored found
    simp only [RedisCommand.answer, found, nonzero, false_or] at answered
    split at answered
    · rename_i accepted
      refine ⟨accepted, ?_, ?_⟩
      · simp only [counterValue, found]
        exact (Except.ok.inj answered).symm
      · simp [RedisCommand.effect, counterValue, found, nonzero, accepted]
    · cases answered

/-- A decrement of a live counter keeps its deadline. -/
theorem decr_effect
    (typed : ∀ value, world.lookup (.sessionCount userHash) = some value →
      ∃ count, value = .counter count)
    (present : (world.lookup (.sessionCount userHash)).isSome = true) :
    ∃ counter, world.redis (.sessionCount userHash) = some counter ∧
      counter.alive world.clock = true ∧
      (RedisCommand.decr (.sessionCount userHash)).effect world =
        world.store (.sessionCount userHash)
          ⟨.counter (counterValue userHash world - 1), counter.deadline⟩ := by
  obtain ⟨value, found⟩ := Option.isSome_iff_exists.mp present
  obtain ⟨count, rfl⟩ := typed value found
  obtain ⟨counter, kept, _⟩ := Option.map_eq_some_iff.mp found
  obtain ⟨stored, alive⟩ := Option.filter_eq_some_iff.mp kept
  refine ⟨counter, stored, alive, ?_⟩
  simp [RedisCommand.effect, counterValue, found, stored]

end

/-- All accounts are in order, up to what the one client that is at work still owes. -/
def InOrder (sha256Hex : String → String) (maxSessions : Nat) (phases : Nat → Phase)
    (world : World) : Prop :=
  ∀ client, (∀ other, other ≠ client → phases other = .resting) →
    ∀ userHash, Account sha256Hex maxSessions userHash world ((phases client).due userHash)

section

variable {site : Deployment} {maxSessions : Nat} {world : World}

/-- A session that GETDEL found and parsed was live. -/
theorem live_of_lookup {sha256Hex : String → String} {sessionId : String} {raw : RedisValue}
    {record : SessionRecord} (found : world.lookup (.session sessionId) = some raw)
    (parsed : raw.asSession = .ok record) :
    sessionId ∈ liveSessions sha256Hex (sha256Hex record.userId) world := by
  obtain ⟨entry, kept, rfl⟩ := Option.map_eq_some_iff.mp found
  obtain ⟨stored, alive⟩ := Option.filter_eq_some_iff.mp kept
  exact ⟨entry, stored, alive, record, parsed, rfl⟩

/-- The increment settles the account of its counter, or finds it over the limit. -/
theorem accounts_count {sessionId own : String} {ttlSecs newCount : Nat}
    (small : maxSessions < 2 ^ 32) (positive : 0 < ttlSecs)
    (answered : (RedisCommand.incrEx (.sessionCount own) ttlSecs).answer world = .ok newCount)
    (steady : (steadyRules site).admits world (.redis (.incrEx (.sessionCount own) ttlSecs)) .success)
    (accounts : ∀ userHash, Account site.sha256Hex maxSessions userHash world
      ((Phase.registered sessionId own).due userHash)) (userHash : String) :
    Account site.sha256Hex maxSessions userHash
      ((RedisCommand.incrEx (.sessionCount own) ttlSecs).effect world)
      ((if newCount ≤ maxSessions then Phase.resting else .rejecting sessionId own).due
        userHash) := by
  obtain ⟨accepted, shown, stores⟩ := incrEx_answered positive (accounts own).typed answered
  rw [stores]
  by_cases same : own = userHash
  · subst same
    have account : Account site.sha256Hex maxSessions own world (.increment sessionId) := by
      simpa only [Phase.due, ↓reduceIte] using accounts own
    obtain ⟨covered, bounded⟩ := account.balanced
    have exact_ : (newCount : Int) = counterValue own world + 1 := by
      rw [shown]
      exact asU64_of_nonneg covered.nonneg (by omega)
    have settled := account.count accepted steady.1
    by_cases room : newCount ≤ maxSessions
    · rw [if_pos (by omega)] at settled
      rw [if_pos room]
      exact settled
    · rw [if_neg (by omega)] at settled
      rw [if_neg room]
      simpa only [Phase.due, ↓reduceIte] using settled
  · have account : Account site.sha256Hex maxSessions userHash world .nothing := by
      simpa only [Phase.due, same, ↓reduceIte] using accounts userHash
    have nothing : (if newCount ≤ maxSessions then Phase.resting
        else .rejecting sessionId own).due userHash = .nothing := by
      split <;> simp [Phase.due, same]
    rw [nothing]
    exact account.other_counter (Ne.symm same)

/-- A move of the protocol, made when the rules allow it, keeps every account. -/
theorem accounts_move {phase moved : Phase} {command : Command} {reply : command.Reply}
    (small : maxSessions < 2 ^ 32) (moves : Moves site.sha256Hex maxSessions phase command reply moved)
    (answered : command.answer world = reply) (acknowledges : acknowledged command reply = true)
    (steady : (steadyRules site).admits world command .success)
    (accounts : ∀ userHash,
      Account site.sha256Hex maxSessions userHash world (phase.due userHash)) (userHash : String) :
    Account site.sha256Hex maxSessions userHash (command.effect world) (moved.due userHash) := by
  have account := accounts userHash
  cases moves with
  | @register sessionId record ttlSecs =>
    obtain ⟨_, stores⟩ := setNxEx_stored answered
    simp only [Command.effect, stores, Phase.due]
    split
    · exact account.register
    · rename_i different
      exact account.other_session different
  | refuse value ttlSecs =>
    simp only [Command.effect, setNxEx_refused answered]
    exact account
  | read => exact account
  | @count ttlSecs newCount sessionId own positive room =>
    have settled := accounts_count small positive answered steady accounts userHash
    rw [if_pos room] at settled
    exact settled
  | @exceed ttlSecs newCount sessionId own positive above =>
    have settled := accounts_count small positive answered steady accounts userHash
    rw [if_neg (Nat.not_le.mpr above)] at settled
    exact settled
  | @delete sessionId own =>
    simp only [Phase.due] at account ⊢
    split
    · rename_i same
      rw [if_pos same] at account
      exact account.delete
    · rename_i different
      rw [if_neg different] at account
      exact account.remove sessionId
  | @take sessionId raw record parsed =>
    simp only [Phase.due]
    split
    · rename_i same
      subst same
      have found : world.lookup (.session sessionId) = some raw := Except.ok.inj answered
      exact (account.removal_of_live (live_of_lookup found parsed)).delete
    · exact account.remove sessionId
  | miss reply nothing => exact account.remove _
  | @uncount own =>
    obtain ⟨counter, stored, alive, stores⟩ := decr_effect (accounts own).typed steady.2
    simp only [Command.effect, stores, Phase.due]
    by_cases same : own = userHash
    · subst same
      simp only [Phase.due, ↓reduceIte] at account
      exact account.uncount stored alive
    · simp only [Phase.due, same, ↓reduceIte] at account
      exact account.other_counter (Ne.symm same)
  | fail command reply unanswered =>
    rw [unanswered] at acknowledges
    cases acknowledges

/-- A client that is not running owes nothing. -/
theorem resting_of_not_running {config : site.system.Config} {phases : Nat → Phase} {client : Nat}
    (stands : (counting site.sha256Hex maxSessions).Stands config phases)
    (idle : (config.threads client).isRunning = false) : phases client = .resting := by
  have own := stands client
  cases state : config.threads client with
  | idle =>
    rw [state] at own
    exact own
  | running call rest =>
    rw [state] at idle
    cases idle
  | returned call value =>
    rw [state] at own
    exact own

private theorem inOrder_kept (site : Deployment) {maxSessions : Nat}
    (small : maxSessions < 2 ^ 32) :
    (counting site.sha256Hex maxSessions).Keeps
      (fun (config : { site with db := false }.system.Config) action =>
        steadyTraffic { site with db := false } maxSessions config action ∧
          ∃ turn, TurnOf config turn)
      (InOrder site.sha256Hex maxSessions) where
  start config client call permitted := limited_conforms maxSessions site permitted.1.1.1
  event config phases event permitted _ inOrder client alone userHash := by
    obtain ⟨milliseconds, rfl⟩ : ∃ milliseconds, event = .tick milliseconds := by
      have ticks : isTick event = true := permitted.1.1.2.2
      cases event with
      | tick milliseconds => exact ⟨milliseconds, rfl⟩
      | evict key => cases ticks
    refine (inOrder client alone userHash).shrink (Nat.le_add_right _ _) rfl ?_
    rintro sessionId entry ⟨stored, alive, named⟩
    exact ⟨stored, entry.alive_earlier alive, named⟩
  command config phases client outcome call command rest moved permitted stands state moves
      inOrder := by
    obtain ⟨⟨⟨_, _, up⟩, steady⟩, turn, turns⟩ := permitted
    obtain ⟨rfl, acknowledges⟩ := Rules.permits_command up state
    have allowed := Rules.permits_command steady state
    -- It is this client's turn, so nobody else owes anything.
    have own : client = turn := turns.running (by rw [state]; rfl)
    have alone : ∀ other, other ≠ client → phases other = .resting := by
      intro other different
      apply resting_of_not_running stands
      cases running : (config.threads other).isRunning with
      | false => rfl
      | true => exact absurd ((turns.running running).trans own.symm) different
    have settled := accounts_move small moves rfl acknowledges allowed (inOrder client alone)
    intro other others userHash
    by_cases same : other = client
    · subst other
      rw [Function.update_self]
      exact settled userHash
    · -- Then this client rests, and so does the other one.
      have rests : moved = .resting := by simpa using others client (Ne.symm same)
      rw [Function.update_of_ne same, alone other same, ← rests]
      exact settled userHash

end

/-- Whoever has a live session under this user's name is on the user's account. -/
theorem liveFor_counted {sha256Hex : String → String} {userId sessionId : String} {world : World}
    (live : LiveFor userId world sessionId) :
    sessionId ∈ liveSessions sha256Hex (sha256Hex userId) world := by
  obtain ⟨raw, record, found, parsed, rfl⟩ := live
  exact live_of_lookup found parsed

private theorem account_empty (sha256Hex : String → String) (maxSessions clock : Nat)
    (userHash : String) :
    Account sha256Hex maxSessions userHash (World.empty clock) .nothing := by
  refine ⟨nofun, ?_, atMost_empty ?_, ?_⟩
  · intro sessionId entry counted
    cases counted.stored
  · rintro id ⟨entry, counted⟩
    cases counted.stored
  · exact Int.natCast_nonneg _

/-- The limit holds in every run in which the counters outlive what they count. -/
theorem within_limit_of_steady (site : Deployment) (maxSessions : Nat)
    (small : maxSessions < 2 ^ 32) :
    WithinLimit { site with db := false } maxSessions
      (steadyTraffic { site with db := false } maxSessions) := by
  intro clock actions last run quiescent userId
  have turns := run.turns fun _ _ permitted => permitted.1.2.1
  obtain ⟨phases, stands, inOrder⟩ := (inOrder_kept site small).run turns
    (fun _ _ userHash => account_empty site.sha256Hex maxSessions clock userHash)
  have resting (client : Nat) : phases client = .resting :=
    resting_of_not_running stands (quiescent client)
  have account := inOrder 0 (fun other _ => resting other) (site.sha256Hex userId)
  rw [resting 0] at account
  obtain ⟨covered, bounded⟩ := account.balanced
  exact (covered.mono (fun _ => liveFor_counted) bounded).encard_le

def hasTtl (ttlSecs : Nat) : Call → Bool
  | .createSession _ _ _ _ given _ => given == ttlSecs
  | _ => true

def counterRules (site : Deployment) : site.system.Rules where
  admits world command _ := findsCounter world command = true
  occurs _ _ := True

instance (site : Deployment) (world : World) (command : Command) (outcome : Outcome) :
    Decidable ((counterRules site).admits world command outcome) :=
  inferInstanceAs (Decidable (findsCounter world command = true))

instance (site : Deployment) (world : World) (event : Event) :
    Decidable ((counterRules site).occurs world event) :=
  inferInstanceAs (Decidable True)

/-- Runs in which all sessions are created with the same TTL and no operation takes
so long that the counter it is to decrement expires. -/
def evenTraffic (site : Deployment) (maxSessions ttlSecs : Nat) (config : site.system.Config)
    (action : site.system.Action) : Prop :=
  turnTraffic site maxSessions config action ∧ Starts (hasTtl ttlSecs) config action ∧
    (counterRules site).permits config action

instance (site : Deployment) (maxSessions ttlSecs : Nat) (config : site.system.Config)
    (action : site.system.Action) : Decidable (evenTraffic site maxSessions ttlSecs config action) :=
  inferInstanceAs (Decidable (turnTraffic site maxSessions config action ∧
    Starts (hasTtl ttlSecs) config action ∧ (counterRules site).permits config action))

/-- A session entry is stored, and a counter incremented, with this TTL only. -/
structure EvenCommand (ttlSecs : Nat) (command : Command) : Prop where
  stores : ∀ sessionId, command.WritesKey (.session sessionId) →
    ∃ value, command = .redis (.setNxEx (.session sessionId) value ttlSecs)
  counts : ∀ key given, command = .redis (.incrEx key given) → given = ttlSecs

/-- The protocol without phases: each client issues even commands only. -/
@[reducible] def evenHanded (ttlSecs : Nat) : Protocol Command Command.Reply :=
  ⟨Unit, (), fun _ command _ _ => EvenCommand ttlSecs command⟩

/-- No session entry lasts longer than the TTL from now on. -/
def NoneLasts (ttlSecs : Nat) (world : World) : Prop :=
  ∀ sessionId entry, world.redis (.session sessionId) = some entry →
    ∃ deadline, entry.deadline = some deadline ∧ deadline ≤ world.clock + ttlSecs * 1000

section

variable {ttlSecs : Nat} {world : World}

theorem NoneLasts.exec {command : Command} (bounded : NoneLasts ttlSecs world)
    (even : EvenCommand ttlSecs command) (outcome : Outcome) :
    NoneLasts ttlSecs (Command.exec outcome command world).2 := by
  rcases Command.exec_world outcome command world with same | same <;> rw [same]
  · exact bounded
  cases command with
  | now => exact bounded
  | http => exact bounded
  | db command => exact bounded
  | redis command =>
    intro sessionId entry stored
    simp only [Command.effect, RedisCommand.effect_clock] at stored ⊢
    by_cases own : command.key = .session sessionId
    · rcases command.effect_cases world with unchanged | removed | ⟨writes, _, _⟩
      · exact bounded sessionId entry (unchanged ▸ stored)
      · rw [removed, own] at stored
        simp [World.remove] at stored
      · obtain ⟨value, issued⟩ := even.stores sessionId ⟨writes, own⟩
        cases issued
        simp only [RedisCommand.effect] at stored
        split at stored
        · simp only [World.store, Function.update_self] at stored
          cases stored
          exact ⟨_, rfl, Nat.le_refl _⟩
        · exact bounded sessionId entry stored
    · have untouched : (command.effect world).redis (.session sessionId) =
          world.redis (.session sessionId) := by
        rcases command.effect_cases world with same | same | ⟨_, _, same⟩ <;> rw [same]
        · exact Function.update_of_ne (Ne.symm own) _ _
        · exact Function.update_of_ne (Ne.symm own) _ _
      exact bounded sessionId entry (untouched ▸ stored)

private theorem even_conforms (site : Deployment) {maxSessions : Nat} {call : Call}
    (kind : isLimited maxSessions call = true) (same : hasTtl ttlSecs call = true) :
    (evenHanded ttlSecs).Conforms () (({ site with db := false } : Deployment).program call) := by
  have rests : ∀ (command : Command) (reply : command.Reply), EvenCommand ttlSecs command →
      (evenHanded ttlSecs).moves () command reply () := fun _ _ even => even
  cases call <;> simp only [isLimited, Bool.false_eq_true] at kind
  case createSession sessionId userId issuedAt deviceInfo given maxSessionsPerUser =>
    have ttl : given = ttlSecs := by simpa [hasTtl] using same
    subst ttl
    simp only [Deployment.program, SessionStore.createSession]
    split
    · rfl
    split
    · rfl
    apply Protocol.conforms_of_every rests
    refine (SessionStore.createSessionRedis_footprint site.sha256Hex sessionId userId issuedAt
      deviceInfo given maxSessionsPerUser).imp ?_
    rintro _ (⟨record, _⟩ | _ | _ | _ | _) <;>
      constructor <;>
      simp [Command.WritesKey, RedisCommand.writes, RedisCommand.key,
        SessionStore.userSessionCountKey]
  case revokeSession sessionId =>
    simp only [Deployment.program]
    apply Protocol.conforms_of_every rests
    refine (SessionStore.revokeSession_footprint site.sha256Hex false sessionId).imp ?_
    rintro _ (_ | _ | userId) <;>
      constructor <;>
      simp [Command.WritesKey, RedisCommand.writes, RedisCommand.key,
        SessionStore.userSessionCountKey]

private theorem noneLasts_kept (site : Deployment) (maxSessions ttlSecs : Nat) :
    (evenHanded ttlSecs).Keeps
      (evenTraffic { site with db := false } maxSessions ttlSecs)
      (fun _ => NoneLasts ttlSecs) where
  start config client call permitted := even_conforms site permitted.1.1 permitted.2.1
  command config phases client outcome call command rest moved _ _ _ even bounded :=
    bounded.exec even outcome
  event config phases event _ _ bounded sessionId entry stored := by
    cases event with
    | tick milliseconds =>
      obtain ⟨deadline, due, ordered⟩ := bounded sessionId entry stored
      exact ⟨deadline, due, ordered.trans (by simp only [environment]; omega)⟩
    | evict key =>
      refine bounded sessionId entry ?_
      by_cases same : key = .session sessionId
      · simp [environment, World.remove, same] at stored
      · simpa [environment, World.remove, Function.update_of_ne (Ne.symm same)] using stored

/-- With one TTL for all sessions the counters outlive what they count. -/
theorem steady_of_even (site : Deployment) {maxSessions ttlSecs clock : Nat}
    {actions : List { site with db := false }.system.Action}
    {last : { site with db := false }.system.Config}
    (run : Run (evenTraffic { site with db := false } maxSessions ttlSecs)
      (.initial (World.empty clock)) actions last) :
    Run (steadyTraffic { site with db := false } maxSessions) (.initial (World.empty clock)) actions
      last := by
  have keeps := noneLasts_kept site maxSessions ttlSecs
  have relying := run.relying
    (fun config => ∃ phases, (evenHanded ttlSecs).Stands config phases ∧
      NoneLasts ttlSecs config.world)
    (fun config action next allowed moves ⟨phases, stands, bounded⟩ =>
      keeps.step allowed moves stands bounded)
    ⟨_, Protocol.stands_initial _, fun _ _ impossible => by cases impossible⟩
  refine relying.mono ?_
  rintro config action ⟨⟨turn, _, counters⟩, phases, stands, bounded⟩
  refine ⟨turn, ?_⟩
  cases action with
  | start client call => trivial
  | environment event => trivial
  | step client outcome =>
    simp only [Rules.permits] at counters ⊢
    split
    · rename_i call command rest state
      rw [state] at counters
      refine ⟨?_, counters⟩
      have own := stands client
      rw [state] at own
      obtain ⟨_, even, _⟩ := own (command.failure "" config.world)
      unfold Outlasts
      split
      · intro sessionId entry counted
        cases even.counts _ _ rfl
        exact bounded sessionId entry counted.stored
      · trivial
    · trivial

end

/-- The second of two sessions of an hour is turned away, and revoking the first
makes room again. -/
theorem limit_kept_after_rejection :
    ∃ actions last, Run (steadyTraffic (Sample.site false) 1) (.initial (World.empty 1000000)) actions
        last ∧ Quiescent last ∧ LiveFor "user_1" last.world "sid_3" ∧
      Set.encard {sessionId | LiveFor "user_1" last.world sessionId} ≤ 1 := by
  have evaluated : Config.runsTo (evenTraffic (Sample.site false) 1 3600)
      (.initial (World.empty 1000000))
      ((Sample.site false).serve 0 (.createSession "sid_1" "user_1" none none 3600 1) 2 ++
        (Sample.site false).serve 1 (.createSession "sid_2" "user_1" none none 3600 1) 4 ++
        .environment (.tick 2000) ::
        (Sample.site false).serve 2 (.revokeSession "sid_1") 2 ++
        (Sample.site false).serve 3 (.createSession "sid_3" "user_1" none none 3600 1) 2)
      (fun last => (last.threads 3).isReturned && (last.threads 4).isIdle &&
        decide (last.world.lookup (.session "sid_3") = some (.session ⟨"user_1", none, none⟩))) =
        true := by
    decide +kernel
  obtain ⟨last, run, facts⟩ := Run.of_runsTo evaluated
  simp only [Bool.and_eq_true, decide_eq_true_eq] at facts
  obtain ⟨⟨returned, idle⟩, third⟩ := facts
  have steady := steady_of_even (Sample.site false) run
  obtain ⟨turn, turns⟩ := steady.turnOf_last fun _ _ permitted => permitted.1.2.1
  have quiescent := turns.quiescent_between returned (Thread.eq_idle idle)
  exact ⟨_, last, steady, quiescent, ⟨_, _, third, rfl, rfl⟩,
    within_limit_of_steady (Sample.site false) 1 (by decide) 1000000 _ last steady quiescent
      "user_1"⟩

/-- A session of an hour takes the only place; a second one, asked for with a TTL of
a second, is turned away but leaves the counter with its TTL; two seconds later the
counter is gone and a third one is let in. -/
theorem shorter_ttl_resets_counter :
    ¬ WithinLimit (Sample.site false) 1 (turnTraffic (Sample.site false) 1) := by
  intro limited
  have evaluated : Config.runsTo (turnTraffic (Sample.site false) 1)
      (.initial (World.empty 1000000))
      ((Sample.site false).serve 0 (.createSession "sid_1" "user_1" none none 3600 1) 2 ++
        (Sample.site false).serve 1 (.createSession "sid_2" "user_1" none none 1 1) 4 ++
        .environment (.tick 2000) ::
        (Sample.site false).serve 2 (.createSession "sid_3" "user_1" none none 3600 1) 2)
      (fun last => (last.threads 2).isReturned && (last.threads 3).isIdle &&
        decide (last.world.lookup (.session "sid_1") = some (.session ⟨"user_1", none, none⟩)) &&
        decide (last.world.lookup (.session "sid_3") = some (.session ⟨"user_1", none, none⟩))) =
        true := by
    decide +kernel
  obtain ⟨last, run, facts⟩ := Run.of_runsTo evaluated
  simp only [Bool.and_eq_true, decide_eq_true_eq] at facts
  obtain ⟨⟨⟨returned, idle⟩, first⟩, third⟩ := facts
  have quiescent : Quiescent last := by
    obtain ⟨turn, turns⟩ := run.turnOf_last fun _ _ permitted => permitted.2.1
    exact turns.quiescent_between returned (Thread.eq_idle idle)
  have few := limited 1000000 _ last run quiescent "user_1"
  rw [Nat.cast_one, Set.encard_le_one_iff] at few
  have same := few "sid_1" "sid_3" ⟨_, _, first, rfl, rfl⟩ ⟨_, _, third, rfl, rfl⟩
  exact absurd same (by decide)

end BrainMate.Gateway.SessionLimitRedis
