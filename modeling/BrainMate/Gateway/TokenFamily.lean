import BrainMate.Gateway.Effects
import BrainMate.Storage.Chain

namespace BrainMate.Gateway.TokenFamily

open Interleaving System Relation

def isTableCall : Call → Bool
  | .issue _ _ _ _ | .validate _ | .rotate _ _ _ | .revoke _ | .cleanup => true
  | _ => false

/-- Runs of the token operations and of the cleanup job. -/
def tokenTraffic (site : Deployment) : site.system.Config → site.system.Action → Prop :=
  Starts isTableCall

instance (site : Deployment) (config : site.system.Config) (action : site.system.Action) :
    Decidable (tokenTraffic site config action) :=
  inferInstanceAs (Decidable (Starts isTableCall config action))

/-- The token hash a call brings into use. -/
def introduces (site : Deployment) : site.system.Action → Option String
  | .start _ (.issue rawTokenId _ _ _) => some (site.sha256Hex rawTokenId)
  | .start _ (.rotate _ newRawTokenId _) => some (site.sha256Hex newRawTokenId)
  | _ => none

/-- No call introduces a token hash that an earlier one did. -/
def FreshIds (site : Deployment) (actions : List site.system.Action) : Prop :=
  (actions.filterMap (introduces site)).Nodup

section

variable (site : Deployment) (actions : List site.system.Action)

/-- A started rotation replaces one hash by the other. -/
def Succeeds (oldHash newHash : String) : Prop :=
  ∃ client old new expiresAt, .start client (.rotate old new expiresAt) ∈ actions ∧
    site.sha256Hex old = oldHash ∧ site.sha256Hex new = newHash

/-- The identity of a hash and its distance from the token that was issued. -/
inductive Lineage : String → String × String → Nat → Prop where
  | issued {client : Nat} {token userId deviceId : String} {expiresAt : Nat}
      (started : .start client (.issue token userId deviceId expiresAt) ∈ actions) :
      Lineage (site.sha256Hex token) (userId, deviceId) 0
  | rotated {client : Nat} {old new : String} {expiresAt : Nat} {identity : String × String}
      {generation : Nat} (started : .start client (.rotate old new expiresAt) ∈ actions)
      (parent : Lineage (site.sha256Hex old) identity generation) :
      Lineage (site.sha256Hex new) identity (generation + 1)

/-- The hash belongs to this user and device. -/
def Owned (tokenHash userId deviceId : String) : Prop :=
  ∃ generation, Lineage site actions tokenHash (userId, deviceId) generation

end

variable {site : Deployment} {actions : List site.system.Action}

/-- Two actions that introduce one hash are the same action. -/
theorem FreshIds.unique (fresh : FreshIds site actions) {first second : site.system.Action}
    {tokenHash : String} (member : first ∈ actions) (member' : second ∈ actions)
    (introduced : introduces site first = some tokenHash)
    (introduced' : introduces site second = some tokenHash) : first = second := by
  induction actions with
  | nil => cases member
  | cons action rest ih =>
    have listed {other : site.system.Action} (later : other ∈ rest)
        (known : introduces site other = some tokenHash) :
        tokenHash ∈ rest.filterMap (introduces site) :=
      List.mem_filterMap.mpr ⟨other, later, known⟩
    have tail : FreshIds site rest := by
      refine List.Nodup.sublist ?_ fresh
      exact (List.sublist_cons_self action rest).filterMap _
    have head (known : introduces site action = some tokenHash) :
        tokenHash ∉ rest.filterMap (introduces site) := by
      unfold FreshIds at fresh
      rw [List.filterMap_cons_some known] at fresh
      exact (List.nodup_cons.mp fresh).1
    rcases List.mem_cons.mp member with rfl | later <;>
      rcases List.mem_cons.mp member' with rfl | later'
    · rfl
    · exact absurd (listed later' introduced') (head introduced)
    · exact absurd (listed later introduced) (head introduced')
    · exact ih tail later later'

/-- The origin of a hash is unique, so are its identity and generation. -/
theorem Lineage.functional (fresh : FreshIds site actions) {tokenHash : String}
    {identity identity' : String × String} {generation generation' : Nat}
    (first : Lineage site actions tokenHash identity generation)
    (second : Lineage site actions tokenHash identity' generation') :
    identity = identity' ∧ generation = generation' := by
  induction first generalizing identity' generation' with
  | @issued client token userId deviceId expiresAt started =>
    generalize same : site.sha256Hex token = tokenHash at second
    cases second with
    | issued started' =>
      cases fresh.unique started started' (congrArg some same) rfl
      exact ⟨rfl, rfl⟩
    | rotated started' parent =>
      cases fresh.unique started started' (congrArg some same) rfl
  | @rotated client old new expiresAt identity generation started parent ih =>
    generalize same : site.sha256Hex new = tokenHash at second
    cases second with
    | issued started' =>
      cases fresh.unique started started' (congrArg some same) rfl
    | rotated started' parent' =>
      cases fresh.unique started started' (congrArg some same) rfl
      obtain ⟨rfl, rfl⟩ := ih parent'
      exact ⟨rfl, rfl⟩

theorem Owned.successor {oldHash newHash userId deviceId : String}
    (owned : Owned site actions oldHash userId deviceId)
    (succeeds : Succeeds site actions oldHash newHash) :
    Owned site actions newHash userId deviceId := by
  obtain ⟨generation, lineage⟩ := owned
  obtain ⟨client, old, new, expiresAt, started, rfl, rfl⟩ := succeeds
  exact ⟨generation + 1, .rotated started lineage⟩

/-- A row or a record is written only with the identity of its hash. -/
def Legitimate (site : Deployment) (actions : List site.system.Action) : Command → Prop
  | .db (.insertRefreshToken record) =>
    Owned site actions record.tokenHash record.userId record.deviceId
  | .db (.rotateRefreshTokenTx oldHash newHash userId deviceId _ _) =>
    Succeeds site actions oldHash newHash ∧ Owned site actions oldHash userId deviceId
  | command => ∀ tokenHash record ttlSecs, command.cachesToken tokenHash = some (record, ttlSecs) →
    Owned site actions tokenHash record.userId record.deviceId

def familyRules (site : Deployment) (actions : List site.system.Action) : site.system.Rules where
  admits _ _ _ := True
  occurs _ _ := True
  ensures _ command _ := Legitimate site actions command

/-- Rows and cached records carry the identity of their hash, and a row points only
to the hash of a rotation that consumed it. -/
structure Familial (site : Deployment) (actions : List site.system.Action) (world : World) :
    Prop where
  row : ∀ tokenHash row, world.db.refreshTokens.find? tokenHash = some row →
    Owned site actions tokenHash row.userId row.deviceId
  pointer : ∀ tokenHash row target, world.db.refreshTokens.find? tokenHash = some row →
    row.rotatedTo = some target → row.revoked = true ∧ Succeeds site actions tokenHash target
  cached : ∀ tokenHash record, world.lookup (.refresh tokenHash) = some (.refresh record) →
    Owned site actions tokenHash record.userId record.deviceId

/-- What holds of one row of the table. -/
def RowFamilial (site : Deployment) (actions : List site.system.Action) (tokenHash : String)
    (row : DbRefreshToken) : Prop :=
  Owned site actions tokenHash row.userId row.deviceId ∧
    ∀ target, row.rotatedTo = some target →
      row.revoked = true ∧ Succeeds site actions tokenHash target

theorem Familial.familial_row {world : World} (familial : Familial site actions world)
    {tokenHash : String} {row : DbRefreshToken}
    (found : world.db.refreshTokens.find? tokenHash = some row) :
    RowFamilial site actions tokenHash row :=
  ⟨familial.row tokenHash row found, fun target => familial.pointer tokenHash row target found⟩

theorem Familial.effect_row {world : World} (familial : Familial site actions world)
    {command : DbCommand} (legitimate : Legitimate site actions (.db command))
    {tokenHash : String} {row : DbRefreshToken}
    (stored : (command.effect world).refreshTokens.find? tokenHash = some row) :
    RowFamilial site actions tokenHash row := by
  cases found : world.db.refreshTokens.find? tokenHash with
  | none =>
    obtain ⟨record, rfl, rfl, rfl⟩ | ⟨oldHash, userId, deviceId, expiresAt, nowSecs, rfl, rfl⟩ :=
      command.effect_token_new world found stored
    · exact ⟨legitimate, fun target impossible => by cases impossible⟩
    · exact ⟨legitimate.2.successor legitimate.1, fun target impossible => by cases impossible⟩
  | some before =>
    obtain ⟨owned, pointer⟩ := familial.familial_row found
    by_cases cleanup : command = .cleanupExpiredAuth
    · subst command
      rw [cleanup_token, found, Option.filter_eq_some_iff] at stored
      cases stored.1
      exact ⟨owned, pointer⟩
    · obtain ⟨after, kept, change⟩ := command.effect_token world cleanup found
      rw [stored] at kept
      cases kept
      obtain rfl | rfl | ⟨newHash, userId, deviceId, expiresAt, nowSecs, rfl, _, rfl⟩ := change
      · exact ⟨owned, pointer⟩
      · exact ⟨owned, fun target known => ⟨rfl, (pointer target known).2⟩⟩
      · refine ⟨owned, fun target known => ⟨rfl, ?_⟩⟩
        cases Option.some.inj known
        exact legitimate.1

theorem Familial.effect {world : World} (familial : Familial site actions world)
    {command : Command} (legitimate : Legitimate site actions command) :
    Familial site actions (command.effect world) := by
  have rows (tokenHash : String) (row : DbRefreshToken)
      (stored : (command.effect world).db.refreshTokens.find? tokenHash = some row) :
      RowFamilial site actions tokenHash row := by
    cases command with
    | now => exact familial.familial_row stored
    | http => exact familial.familial_row stored
    | redis command =>
      simp only [Command.effect, RedisCommand.effect_db] at stored
      exact familial.familial_row stored
    | db command => exact familial.effect_row legitimate stored
  refine ⟨fun tokenHash row stored => (rows tokenHash row stored).1,
    fun tokenHash row target stored => (rows tokenHash row stored).2 target, ?_⟩
  intro tokenHash record cached
  rcases command.effect_cached world cached with before | ⟨ttlSecs, writes, _⟩
  · exact familial.cached tokenHash record before
  · cases command with
    | redis command => exact legitimate tokenHash record ttlSecs writes
    | now => cases writes
    | http => cases writes
    | db command => cases writes

theorem familial_stable : (familyRules site actions).Stable (Familial site actions) where
  command world command outcome _ legitimate familial := by
    rcases Command.exec_world outcome command world with same | same <;> simp only [same]
    · exact familial
    · exact familial.effect legitimate
  event world event _ familial := by
    refine ⟨?_, ?_, fun tokenHash record cached =>
      familial.cached tokenHash record (environment_cached cached)⟩
    · simpa using familial.row
    · simpa using familial.pointer

/-- A command that writes neither a row nor a record needs no justification. -/
theorem skip_silent {α : Type} {post : α → World → Prop} {command : Command}
    {next : command.Reply → Procedure α}
    (silent : Legitimate site actions command)
    (continues : ∀ reply,
      (familyRules site actions).Outline (Familial site actions) post (next reply)) :
    (familyRules site actions).Outline (Familial site actions) post (.call command next) :=
  .skip familial_stable (fun _ _ _ _ => silent) continues

theorem legitimate_record {tokenHash : String} {record : RefreshTokenRecord} (ttlSecs : Nat)
    (owned : Owned site actions tokenHash record.userId record.deviceId) :
    Legitimate site actions (.redis (.setEx (.refresh tokenHash) (.refresh record) ttlSecs)) := by
  intro stored other ttl writes
  simp only [Command.cachesToken] at writes
  split at writes
  · rename_i same
    subst stored
    cases Option.some.inj writes
    exact owned
  · cases writes

/-- The record found under a key has the identity of the key's hash. -/
theorem getRefreshJson_outline (tokenHash : String) :
    (familyRules site actions).Outline (Familial site actions)
      (fun reply world => (∀ record, reply = .ok (some record) →
        Owned site actions tokenHash record.userId record.deviceId) ∧ Familial site actions world)
      (RefreshStore.getRefreshJson (.refresh tokenHash)) := by
  simp only [RefreshStore.getRefreshJson, redis_eq, Program.call_bind, Program.done_bind]
  refine .learn (fun reply => ∀ record, reply = .ok (some (.refresh record)) →
    Owned site actions tokenHash record.userId record.deviceId) familial_stable ?_ ?_
  · intro world outcome familial _
    refine ⟨fun _ _ _ impossible => (by cases impossible), fun record answered => ?_⟩
    cases outcome with
    | lost => cases answered
    | applied => cases answered
    | success => exact familial.cached tokenHash record (Except.ok.inj answered)
  · intro reply known
    rcases reply with error | _ | raw
    · exact fun _ familial => ⟨fun _ impossible => (by cases impossible), familial⟩
    · exact fun _ familial => ⟨fun _ impossible => (by cases impossible), familial⟩
    · refine fun _ familial => ⟨fun record answered => ?_, familial⟩
      cases raw <;> simp [RedisValue.asRefresh, Except.map] at answered
      subst answered
      exact known _ rfl

/-- The row read by its key has the identity of the key. -/
theorem learn_row {α : Type} {post : α → World → Prop} {tokenHash : String}
    {next : Except DbError (Option DbRefreshToken) → Procedure α}
    (continues : ∀ reply, (∀ row, reply = .ok (some row) →
        Owned site actions tokenHash row.userId row.deviceId) →
      (familyRules site actions).Outline (Familial site actions) post (next reply)) :
    (familyRules site actions).Outline (Familial site actions) post
      (.call (.db (.getRefreshToken tokenHash)) next) := by
  refine .learn _ familial_stable ?_ continues
  intro world outcome familial _
  refine ⟨fun _ _ _ impossible => (by cases impossible), fun row answered => ?_⟩
  cases outcome with
  | lost => cases answered
  | applied => cases answered
  | success => exact familial.row tokenHash row (Except.ok.inj answered)

private theorem ttlFromExpiresAt_outline (expiresAt : Nat) :
    (familyRules site actions).Outline (Familial site actions) (fun _ => Familial site actions)
      (RefreshStore.ttlFromExpiresAt expiresAt) := by
  simp only [RefreshStore.ttlFromExpiresAt, nowUnixSecs_eq, Program.call_bind, Program.done_bind]
  refine skip_silent (fun _ _ _ impossible => by cases impossible) fun millis => ?_
  split <;> exact fun _ familial => familial

private theorem validateRecord_outline (record : RefreshTokenRecord) :
    (familyRules site actions).Outline (Familial site actions)
      (fun _ => Familial site actions) (RefreshStore.validateRecord record) := by
  simp only [RefreshStore.validateRecord, nowUnixSecs_eq, Program.call_bind, Program.done_bind]
  split
  · exact fun _ familial => familial
  · refine skip_silent (fun _ _ _ impossible => by cases impossible) fun millis => ?_
    split <;> exact fun _ familial => familial

private theorem isSpent_outline (record : RefreshTokenRecord) :
    (familyRules site actions).Outline (Familial site actions) (fun _ => Familial site actions)
      (RefreshStore.isSpent record) := by
  simp only [RefreshStore.isSpent, nowUnixSecs_eq, Program.call_bind, Program.done_bind]
  split
  · exact fun _ familial => familial
  · exact skip_silent (fun _ _ _ impossible => by cases impossible) fun _ _ familial => familial

private theorem revokeDeviceFamily_outline (userId : String) :
    (familyRules site actions).Outline (Familial site actions) (fun _ => Familial site actions)
      (RefreshStore.revokeDeviceFamily userId) := by
  simp only [RefreshStore.revokeDeviceFamily, database_eq, Program.call_bind, Program.done_bind]
  split
  · exact fun _ familial => familial
  · refine skip_silent (fun _ _ _ impossible => by cases impossible) fun reply => ?_
    cases reply <;> exact fun _ familial => familial

section

variable {db : Bool} {token userId deviceId : String} {expiresAt client : Nat}

private theorem cacheIssued_outline (ttlSecs : Nat)
    (owned : Owned site actions (site.sha256Hex token) userId deviceId) :
    (familyRules site actions).Outline (Familial site actions) (fun _ _ => True)
      (RefreshStore.cacheIssued site.sha256Hex db token userId deviceId expiresAt ttlSecs) := by
  simp only [RefreshStore.cacheIssued, RefreshStore.key, redis_eq, Program.call_bind,
    Program.done_bind]
  refine skip_silent (legitimate_record ttlSecs owned) fun reply => ?_
  cases reply <;> cases db <;> exact fun _ _ => trivial

private theorem issue_outline
    (started : .start client (.issue token userId deviceId expiresAt) ∈ actions) :
    (familyRules site actions).Outline (Familial site actions) (fun _ _ => True)
      (RefreshStore.issue site.sha256Hex db token userId deviceId expiresAt) := by
  have owned : Owned site actions (site.sha256Hex token) userId deviceId := ⟨0, .issued started⟩
  unfold RefreshStore.issue
  split
  · exact fun _ _ => trivial
  · split
    · exact fun _ _ => trivial
    · refine (ttlFromExpiresAt_outline expiresAt).bind fun reply => ?_
      cases reply with
      | error error => exact fun _ _ => trivial
      | ok ttlSecs =>
        cases db with
        | false => exact cacheIssued_outline ttlSecs owned
        | true =>
          simp only [↓reduceIte, database_eq, Program.call_bind, Program.done_bind]
          refine skip_silent owned fun reply => ?_
          cases reply with
          | error error => exact fun _ _ => trivial
          | ok value => exact cacheIssued_outline ttlSecs owned

theorem validateDb_outline :
    (familyRules site actions).Outline (Familial site actions) (fun _ _ => True)
      (RefreshStore.validateDb site.sha256Hex token) := by
  simp only [RefreshStore.validateDb, database_eq, Program.call_bind, Program.done_bind]
  refine learn_row fun reply owned => ?_
  rcases reply with error | _ | row
  · exact fun _ _ => trivial
  · exact fun _ _ => trivial
  · refine (validateRecord_outline (RefreshStore.recordOfRow row)).bind fun validated => ?_
    cases validated with
    | error error => exact fun _ _ => trivial
    | ok record =>
      simp only [RefreshStore.key, nowUnixSecs_eq, redis_eq, Program.call_bind, Program.done_bind]
      refine skip_silent (fun _ _ _ impossible => by cases impossible) fun millis => ?_
      split
      · refine skip_silent (legitimate_record _ ?_) fun _ _ _ => trivial
        exact owned row rfl
      · exact fun _ _ => trivial

theorem validate_outline :
    (familyRules site actions).Outline (Familial site actions) (fun _ _ => True)
      (RefreshStore.validate site.sha256Hex db token) := by
  unfold RefreshStore.validate
  split
  · exact fun _ _ => trivial
  · refine (getRefreshJson_outline (site.sha256Hex token)).bind fun reply => ?_
    rcases reply with error | _ | record
    · cases db with
      | false => exact fun _ _ => trivial
      | true => exact validateDb_outline.strengthen fun _ holds => holds.2
    · cases db with
      | false => exact fun _ _ => trivial
      | true => exact validateDb_outline.strengthen fun _ holds => holds.2
    · exact ((validateRecord_outline record).weaken fun _ _ _ => trivial).strengthen
        fun _ holds => holds.2

theorem markRevoked_outline :
    (familyRules site actions).Outline (Familial site actions) (fun _ _ => True)
      (RefreshStore.markRevoked site.sha256Hex db token) := by
  refine (getRefreshJson_outline (site.sha256Hex token)).bind fun reply => ?_
  rcases reply with error | _ | record
  · exact fun _ _ => trivial
  · exact fun _ _ => trivial
  · by_cases owned : Owned site actions (site.sha256Hex token) record.userId record.deviceId
    · refine ((ttlFromExpiresAt_outline record.expiresAt).bind fun remaining => ?_).strengthen
        fun _ holds => holds.2
      simp only [RefreshStore.key, redis_eq, Program.call_bind, Program.done_bind]
      refine skip_silent (legitimate_record _ owned) fun reply => ?_
      cases reply <;> cases db <;> exact fun _ _ => trivial
    · exact .absurd (fun _ holds => owned (holds.1 record rfl)) _

theorem revoke_outline :
    (familyRules site actions).Outline (Familial site actions) (fun _ _ => True)
      (RefreshStore.revoke site.sha256Hex db token) := by
  unfold RefreshStore.revoke
  split
  · exact fun _ _ => trivial
  · cases db with
    | false => exact markRevoked_outline
    | true =>
      simp only [↓reduceIte, database_eq, Program.call_bind, Program.done_bind]
      refine skip_silent (fun _ _ _ impossible => by cases impossible) fun reply => ?_
      cases reply with
      | error error => exact fun _ _ => trivial
      | ok value => exact markRevoked_outline

end

section

variable {old new : String} {newExpiresAt client : Nat}

private theorem readOldRow_outline :
    (familyRules site actions).Outline (Familial site actions)
      (fun reply world => (∀ record, reply = .ok (some record) →
          Owned site actions (site.sha256Hex old) record.userId record.deviceId) ∧
        Familial site actions world)
      (RefreshStore.readOldRow site.sha256Hex old) := by
  simp only [RefreshStore.readOldRow, database_eq, Program.call_bind, Program.done_bind]
  refine learn_row fun reply owned => ?_
  rcases reply with error | _ | row
  · exact fun _ familial => ⟨fun _ impossible => (by cases impossible), familial⟩
  · exact fun _ familial => ⟨fun _ impossible => (by cases impossible), familial⟩
  · refine fun _ familial => ⟨fun record same => ?_, familial⟩
    cases same
    exact owned row rfl

private theorem readOldRecord_outline :
    (familyRules site actions).Outline (Familial site actions)
      (fun reply world => (∀ record, reply = .ok (some record) →
          Owned site actions (site.sha256Hex old) record.userId record.deviceId) ∧
        Familial site actions world)
      (RefreshStore.readOldRecord site.sha256Hex old) := by
  refine (getRefreshJson_outline (site.sha256Hex old)).bind fun reply => ?_
  rcases reply with error | _ | record
  · exact readOldRow_outline.strengthen fun _ holds => holds.2
  · exact readOldRow_outline.strengthen fun _ holds => holds.2
  · refine fun _ holds => ⟨fun other same => ?_, holds.2⟩
    cases same
    exact holds.1 record rfl

theorem cacheRotation_outline {oldRecord : RefreshTokenRecord} {newRecord : DbRefreshToken}
    (newTtl : Nat)
    (owned : Owned site actions (site.sha256Hex old) oldRecord.userId oldRecord.deviceId)
    (inherited : Owned site actions (site.sha256Hex new) newRecord.userId newRecord.deviceId) :
    (familyRules site actions).Outline (Familial site actions) (fun _ => Familial site actions)
      (RefreshStore.cacheRotation site.sha256Hex old new oldRecord newRecord newTtl) := by
  simp only [RefreshStore.cacheRotation, RefreshStore.key, nowUnixSecs_eq, redis_eq,
    Program.call_bind, Program.done_bind]
  refine skip_silent (fun _ _ _ impossible => by cases impossible) fun millis => ?_
  refine skip_silent (legitimate_record _ owned) fun _ => ?_
  exact skip_silent (legitimate_record _ inherited) fun _ _ familial => familial

theorem rotateRecordDb_outline
    (started : .start client (.rotate old new newExpiresAt) ∈ actions) (newTtl : Nat)
    {oldRecord : RefreshTokenRecord}
    (owned : Owned site actions (site.sha256Hex old) oldRecord.userId oldRecord.deviceId) :
    (familyRules site actions).Outline (Familial site actions) (fun _ => Familial site actions)
      (RefreshStore.rotateRecordDb site.sha256Hex old new newExpiresAt newTtl oldRecord) := by
  have succeeds : Succeeds site actions (site.sha256Hex old) (site.sha256Hex new) :=
    ⟨client, old, new, newExpiresAt, started, rfl, rfl⟩
  simp only [RefreshStore.rotateRecordDb, RefreshStore.rotateRefreshTokenTx, nowUnixSecs_eq,
    database_eq, Program.call_bind, Program.done_bind]
  refine skip_silent (fun _ _ _ impossible => by cases impossible) fun millis => ?_
  refine .learn (fun reply => ∀ row, reply = .ok (some row) →
    row.userId = oldRecord.userId ∧ row.deviceId = oldRecord.deviceId) familial_stable ?_ ?_
  · intro world outcome familial _
    refine ⟨⟨succeeds, owned⟩, fun row answered => ?_⟩
    obtain ⟨_, _, rfl⟩ := rotateTx_answered answered
    exact ⟨rfl, rfl⟩
  · intro reply same
    rcases reply with error | _ | row
    · exact fun _ familial => familial
    · exact (revokeDeviceFamily_outline oldRecord.userId).bind fun _ _ familial => familial
    · obtain ⟨sameUser, sameDevice⟩ := same row rfl
      refine cacheRotation_outline newTtl owned ?_
      rw [sameUser, sameDevice]
      exact owned.successor succeeds

theorem doRotateDb_outline
    (started : .start client (.rotate old new newExpiresAt) ∈ actions) (newTtl : Nat) :
    (familyRules site actions).Outline (Familial site actions) (fun _ => Familial site actions)
      (RefreshStore.doRotateDb site.sha256Hex old new newExpiresAt newTtl) := by
  refine readOldRecord_outline.bind fun reply => ?_
  rcases reply with error | _ | record
  · exact fun _ holds => holds.2
  · exact fun _ holds => holds.2
  · by_cases owned : Owned site actions (site.sha256Hex old) record.userId record.deviceId
    · refine ((isSpent_outline record).bind fun spent => ?_).strengthen fun _ holds => holds.2
      cases spent with
      | true => exact fun _ familial => familial
      | false => exact rotateRecordDb_outline started newTtl owned
    · exact .absurd (fun _ holds => owned (holds.1 record rfl)) _

theorem rotate_outline (started : .start client (.rotate old new newExpiresAt) ∈ actions) :
    (familyRules site actions).Outline (Familial site actions) (fun _ _ => True)
      (RefreshStore.rotate site.sha256Hex true old new newExpiresAt) := by
  unfold RefreshStore.rotate
  split
  · exact fun _ _ => trivial
  · split
    · exact fun _ _ => trivial
    · refine (ttlFromExpiresAt_outline newExpiresAt).bind fun reply => ?_
      cases reply with
      | error error => exact fun _ _ => trivial
      | ok newTtl =>
        simp only [RefreshStore.rotateLocked, redis_eq, Program.call_bind, Program.done_bind]
        refine skip_silent (fun _ _ _ impossible => by cases impossible) fun locked => ?_
        rcases locked with error | _ | _
        · exact fun _ _ => trivial
        · exact fun _ _ => trivial
        · refine (doRotateDb_outline started newTtl).bind fun result => ?_
          simp only [RefreshStore.releaseLock, redis_eq, Program.call_bind, Program.done_bind]
          exact skip_silent (fun _ _ _ impossible => by cases impossible) fun _ _ _ => trivial

end

/-- The row of one hash points to another hash. -/
def Points (tokens : Storage.Table DbRefreshToken String DbRefreshToken.tokenHash)
    (source target : String) : Prop :=
  ∃ row, tokens.find? source = some row ∧ row.rotatedTo = some target

/-- The refresh token table as a set of families, each a chain of rotations. -/
structure Families (tokens : Storage.Table DbRefreshToken String DbRefreshToken.tokenHash) :
    Prop where
  rotated_revoked : ∀ row ∈ tokens.rows, row.rotatedTo.isSome = true → row.revoked = true
  one_source : ∀ first ∈ tokens.rows, ∀ second ∈ tokens.rows, ∀ target,
    first.rotatedTo = some target → second.rotatedTo = some target → first = second
  same_identity : ∀ row ∈ tokens.rows, ∀ next ∈ tokens.rows,
    row.rotatedTo = some next.tokenHash →
      next.userId = row.userId ∧ next.deviceId = row.deviceId
  acyclic : ∀ tokenHash, ¬ TransGen (Points tokens) tokenHash tokenHash
  one_live : ∀ root, ∀ first ∈ tokens.rows, ∀ second ∈ tokens.rows,
    ReflTransGen (Points tokens) root first.tokenHash →
    ReflTransGen (Points tokens) root second.tokenHash →
    first.revoked = false → second.revoked = false → first = second
  live_last : ∀ row ∈ tokens.rows, row.revoked = false → row.rotatedTo = none

section

variable {world : World}

theorem Familial.points_climb (familial : Familial site actions world) {source target : String}
    (points : Points world.db.refreshTokens source target) :
    ∃ generation, (∃ identity, Lineage site actions source identity generation) ∧
      ∃ identity, Lineage site actions target identity (generation + 1) := by
  obtain ⟨row, found, pointer⟩ := points
  obtain ⟨generation, lineage⟩ := familial.row source row found
  obtain ⟨_, _, _, _, _, started, rfl, rfl⟩ := familial.pointer source row target found pointer
  exact ⟨generation, ⟨_, lineage⟩, _, .rotated started lineage⟩

private theorem points_rightUnique : Relator.RightUnique (Points world.db.refreshTokens) := by
  rintro source first second ⟨row, found, pointer⟩ ⟨row', found', pointer'⟩
  rw [found] at found'
  cases found'
  rw [pointer] at pointer'
  exact Option.some.inj pointer'

/-- Two rotations to one hash are the same rotation. -/
theorem Succeeds.unique (fresh : FreshIds site actions) {first second newHash : String}
    (succeeds : Succeeds site actions first newHash)
    (succeeds' : Succeeds site actions second newHash) : first = second := by
  obtain ⟨_, _, _, _, started, rfl, same⟩ := succeeds
  obtain ⟨_, _, _, _, started', rfl, same'⟩ := succeeds'
  cases fresh.unique started started' (congrArg some same) (congrArg some same')
  rfl

theorem Familial.families (fresh : FreshIds site actions)
    (familial : Familial site actions world) : Families world.db.refreshTokens := by
  have stored {row : DbRefreshToken} (member : row ∈ world.db.refreshTokens.rows) :
      world.db.refreshTokens.find? row.tokenHash = some row :=
    world.db.refreshTokens.find?_eq_some_iff.mpr ⟨member, rfl⟩
  have live_last (row : DbRefreshToken) (member : row ∈ world.db.refreshTokens.rows)
      (live : row.revoked = false) : row.rotatedTo = none := by
    cases pointer : row.rotatedTo with
    | none => rfl
    | some target =>
      have marked := (familial.pointer _ row target (stored member) pointer).1
      rw [live] at marked
      cases marked
  have ends (row : DbRefreshToken) (member : row ∈ world.db.refreshTokens.rows)
      (live : row.revoked = false) (next : String) :
      ¬ Points world.db.refreshTokens row.tokenHash next := by
    rintro ⟨other, found, pointer⟩
    rw [stored member] at found
    cases found
    rw [live_last row member live] at pointer
    cases pointer
  constructor
  case rotated_revoked =>
    intro row member rotated
    obtain ⟨target, pointer⟩ := Option.isSome_iff_exists.mp rotated
    exact (familial.pointer _ row target (stored member) pointer).1
  case one_source =>
    intro first member second member' target pointer pointer'
    have same : first.tokenHash = second.tokenHash :=
      (familial.pointer _ first target (stored member) pointer).2.unique fresh
        (familial.pointer _ second target (stored member') pointer').2
    have found := stored member
    rw [same, stored member'] at found
    exact (Option.some.inj found).symm
  case same_identity =>
    intro row member next member' pointer
    obtain ⟨_, inherited⟩ := (familial.row _ row (stored member)).successor
      (familial.pointer _ row _ (stored member) pointer).2
    obtain ⟨_, own⟩ := familial.row _ next (stored member')
    obtain ⟨same, _⟩ := own.functional fresh inherited
    exact ⟨congrArg Prod.fst same, congrArg Prod.snd same⟩
  case acyclic =>
    refine Storage.chain_acyclic
      (fun tokenHash generation => ∃ identity, Lineage site actions tokenHash identity generation) ?_
      (fun _ _ points => familial.points_climb points)
    rintro tokenHash generation generation' ⟨_, lineage⟩ ⟨_, lineage'⟩
    exact (lineage.functional fresh lineage').2
  case one_live =>
    intro root first member second member' toFirst toSecond live live'
    have same := Storage.chain_end_unique points_rightUnique toFirst toSecond
      (ends first member live) (ends second member' live')
    have found := stored member
    rw [same, stored member'] at found
    exact (Option.some.inj found).symm
  case live_last => exact live_last

end

private theorem familial_empty (clock : Nat) : Familial site actions (World.empty clock) where
  row _ _ found := by cases found
  pointer _ _ _ found := by cases found
  cached _ _ found := by cases found

/-- Each operation of the traffic writes legitimately. -/
theorem program_outline {config : { site with db := true }.system.Config}
    {actions : List { site with db := true }.system.Action} {client : Nat} {call : Call}
    (started : .start client call ∈ actions)
    (allowed : tokenTraffic { site with db := true } config (.start client call)) :
    (familyRules { site with db := true } actions).Outline
      (Familial { site with db := true } actions) (fun _ _ => True)
      ({ site with db := true }.program call) := by
  cases call with
  | issue => exact issue_outline started
  | validate => exact validate_outline
  | rotate => exact rotate_outline started
  | revoke => exact revoke_outline
  | cleanup =>
    simp only [Deployment.program, database_eq]
    exact skip_silent (fun _ _ _ impossible => by cases impossible) fun _ _ _ => trivial
  | _ => exact absurd allowed Bool.false_ne_true

/-- In every reachable state the table consists of families with one live token. -/
theorem token_families (site : Deployment) (clock : Nat)
    {actions : List { site with db := true }.system.Action}
    {last : { site with db := true }.system.Config}
    (run : Run (tokenTraffic { site with db := true }) (.initial (World.empty clock)) actions last)
    (fresh : FreshIds { site with db := true } actions) :
    Families last.world.db.refreshTokens := by
  have governs : (familyRules { site with db := true } actions).Governs
      (tokenTraffic { site with db := true }) := by
    intro config action _
    unfold Rules.permits
    split
    · trivial
    · split <;> trivial
    · trivial
  have familial : Familial { site with db := true } actions last.world := by
    refine run.ensured governs familial_stable ?_ ?_ (familial_empty clock)
    · intro client call started
      obtain ⟨config, allowed⟩ := run.permitted_of_mem started
      exact program_outline started allowed
    · intro client call rest running
      cases running
  exact familial.families fresh

theorem rotated_family :
    ∃ last, Run (tokenTraffic (Sample.site true)) (.initial (World.empty 1000000))
        ((Sample.site true).serve 0 (.issue Sample.oldToken "user_1" "device_1" Sample.expiry) 3 ++
          (Sample.site true).serve 1
            (.rotate Sample.oldToken Sample.newToken Sample.expiry) 10) last ∧
      TokenRevoked (Sample.sha256Hex Sample.oldToken) last.world ∧
      TokenPresent (Sample.sha256Hex Sample.newToken) last.world ∧
      Families last.world.db.refreshTokens := by
  have evaluated : Config.runsTo (tokenTraffic (Sample.site true)) (.initial (World.empty 1000000))
      ((Sample.site true).serve 0 (.issue Sample.oldToken "user_1" "device_1" Sample.expiry) 3 ++
        (Sample.site true).serve 1 (.rotate Sample.oldToken Sample.newToken Sample.expiry) 10)
      (fun last => decide (TokenRevoked (Sample.sha256Hex Sample.oldToken) last.world) &&
        decide (TokenPresent (Sample.sha256Hex Sample.newToken) last.world)) = true := by
    decide +kernel
  obtain ⟨last, run, facts⟩ := Run.of_runsTo evaluated
  simp only [Bool.and_eq_true, decide_eq_true_eq] at facts
  refine ⟨last, run, facts.1, facts.2, token_families (Sample.site true) 1000000 run ?_⟩
  unfold FreshIds
  decide +kernel

end BrainMate.Gateway.TokenFamily
