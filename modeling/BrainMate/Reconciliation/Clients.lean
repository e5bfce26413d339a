import BrainMate.Interleaving.Watched
import BrainMate.Gateway.Footprint
import BrainMate.Gateway.Queue
import BrainMate.Nextjs.ReconciliationWorker

namespace BrainMate.Reconciliation

open Interleaving Gateway

inductive Call where
  | enqueue (op : ReconciliationOp)
  | processBatch (worker : Gateway.Reconciliation.Worker)
  | enqueueReconciliation (admitted : Bool) (traceparent tracestate : Option String)
      (op : Nextjs.Operation)
  | processPendingOperations (server : Nextjs.Server) (admitted : Bool)

@[reducible] def Call.Result : Call → Type
  | .enqueue _ | .enqueueReconciliation _ _ _ _ => Unit
  | .processBatch _ => Except String Unit
  | .processPendingOperations _ _ => Nat

def Call.program : (call : Call) → Procedure call.Result
  | .enqueue op => Gateway.Reconciliation.enqueue op
  | .processBatch worker => worker.processBatch
  | .enqueueReconciliation admitted traceparent tracestate op =>
    Nextjs.enqueueReconciliation admitted traceparent tracestate op
  | .processPendingOperations server admitted => server.processPendingOperations admitted

/-- The call is one of the gateway's. -/
def Call.ofGateway : Call → Bool
  | .enqueue _ | .processBatch _ => true
  | .enqueueReconciliation _ _ _ _ | .processPendingOperations _ _ => false

/-- The two sorted sets of the protocol. -/
def isQueue (key : RedisKey) : Bool := key == .reconciliationPending || key == .reconciliationDlq

/-- Besides time and eviction, whatever else the two services do to their stores. -/
inductive Event where
  | gateway (event : Gateway.Event)
  | elsewhere (command : Command)

def touchesQueue : Command → Bool
  | .redis command => isQueue command.key
  | .now | .db _ | .http => false

def environment : Event → World → World
  | .gateway event, world => Gateway.environment event world
  | .elsewhere command, world => if touchesQueue command then world else command.effect world

@[reducible] def queue : System Command Command.Reply where
  World := World
  Outcome := Outcome
  Event := Event
  Call := Call
  Result := Call.Result
  exec := Command.exec
  environment := environment
  program := Call.program

/-- What stays the same of an entry from attempt to attempt. -/
structure Origin where
  id : String
  op : ReconciliationOp
  maxAttempts : Nat
  createdAt : Nat
  deriving DecidableEq, Repr

def origin (entry : QueueEntry) : Origin := ⟨entry.id, entry.op, entry.maxAttempts, entry.createdAt⟩

/-- The key is none of the protocol's own. -/
def Outside (key : RedisKey) : Prop :=
  isQueue key = false ∧ (∀ id, key ≠ .reconciliationIdem id) ∧ ∀ id, key ≠ .reconciliationLock id

private theorem outside_of_session (key : RedisKey) (own : SessionStore.ownKey key) :
    Outside key := by
  rcases own with ⟨sessionId, rfl⟩ | ⟨userHash, rfl⟩ <;> exact ⟨rfl, nofun, nofun⟩

private theorem outside_of_blacklist (jti : String) (key : RedisKey) (own : key = .blacklist jti) :
    Outside key := by
  subst own
  exact ⟨rfl, nofun, nofun⟩

section

variable (worker : Gateway.Reconciliation.Worker)

private theorem revoke_outside (db : Bool) (jti : String) (ttlSecs : Nat) :
    (TokenBlacklist.revoke db jti ttlSecs).Every (Within Outside) :=
  (TokenBlacklist.revoke_within db jti ttlSecs).imp (Within.imp (outside_of_blacklist jti))

private theorem revokeSession_outside (sha256Hex : String → String) (db : Bool)
    (sessionId : String) :
    (SessionStore.revokeSession sha256Hex db sessionId).Every (Within Outside) :=
  (SessionStore.revokeSession_within sha256Hex db sessionId).imp (Within.imp outside_of_session)

private theorem syncSession_outside (sessionId userId : String) (expiresAt : Nat) :
    (worker.syncSession sessionId userId expiresAt).Every (Within Outside) := by
  unfold Gateway.Reconciliation.Worker.syncSession
  refine Program.Every.bind ⟨trivial, fun _ => trivial⟩ fun now => ?_
  dsimp only
  split
  · trivial
  · refine Program.Every.bind ?_ fun _ => trivial
    exact (SessionStore.createSession_within ..).imp (Within.imp outside_of_session)

private theorem revokeToken_outside (jti : Option String) (tokenExp : Option Nat) :
    (worker.revokeToken jti tokenExp).Every (Within Outside) := by
  unfold Gateway.Reconciliation.Worker.revokeToken
  split
  · refine Program.Every.bind ⟨trivial, fun _ => trivial⟩ fun now => ?_
    dsimp only
    split
    · exact Program.Every.bind (revoke_outside _ _ _) fun _ => trivial
    · trivial
  · trivial

private theorem currentSessionVersion_outside (sessionId : String) :
    (Gateway.Reconciliation.currentSessionVersion sessionId).Every (Within Outside) := by
  refine ⟨⟨rfl, nofun, nofun⟩, ?_⟩
  rintro (error | raw) <;> trivial

theorem execute_outside (op : ReconciliationOp) : (worker.execute op).Every (Within Outside) := by
  unfold Gateway.Reconciliation.Worker.execute
  split
  · exact Program.Every.bind (revoke_outside _ _ _) fun _ => trivial
  · exact syncSession_outside worker _ _ _
  · refine Program.Every.bind (currentSessionVersion_outside _) ?_
    rintro (error | currentVersion)
    · trivial
    · dsimp only
      split
      · trivial
      · exact syncSession_outside worker _ _ _
  · refine Program.Every.bind (revokeSession_outside _ _ _) ?_
    rintro (error | _)
    · trivial
    · exact revokeToken_outside worker _ _
  · split
    · refine ⟨trivial, ?_⟩
      rintro (error | _) <;> trivial
    · trivial

end

section

variable (server : Nextjs.Server)

private theorem postSession_outside (payload : Auth.CreateSessionRequest) :
    (server.postSession payload).Every (Within Outside) := by
  refine Program.Every.bind ?_ fun _ => trivial
  unfold Auth.createSession
  split
  · trivial
  · refine Program.Every.bind ⟨trivial, fun _ => trivial⟩ fun remaining => ?_
    split
    · trivial
    · exact (SessionStore.createSession_within ..).imp (Within.imp outside_of_session)

private theorem deleteSession_outside (sessionId : String) (jti : Option String)
    (tokenExp : Option Nat) :
    (server.deleteSession sessionId jti tokenExp).Every (Within Outside) := by
  unfold Nextjs.Server.deleteSession
  split
  · trivial
  · refine Program.Every.bind (Program.Every.bind (revokeSession_outside _ _ _) ?_) fun _ => trivial
    rintro (error | _)
    · trivial
    · rcases jti with _ | jti
      · trivial
      rcases tokenExp with _ | tokenExp
      · trivial
      · refine Program.Every.bind ⟨trivial, fun _ => trivial⟩ fun ttl => ?_
        split
        · exact revoke_outside _ _ _
        · trivial

private theorem fetch_outside {handler : Procedure Nat} (outside : handler.Every (Within Outside)) :
    (Nextjs.fetch handler).Every (Within Outside) := by
  refine Program.Every.bind ⟨trivial, fun _ => trivial⟩ ?_
  rintro (error | _)
  · trivial
  · refine Program.Every.bind outside fun status => ⟨trivial, ?_⟩
    rintro (error | _) <;> trivial

/-- Trying one token after the other repeats what the handler does. -/
theorem fetchWithTokenFallback_outside (internalApiTokens : List String) {handler : Procedure Nat}
    (outside : handler.Every (Within Outside)) (lastUnauthorized : Option Nat)
    (tokens : List String) :
    (Nextjs.fetchWithTokenFallback internalApiTokens handler lastUnauthorized tokens).Every
      (Within Outside) := by
  induction tokens generalizing lastUnauthorized with
  | nil => cases lastUnauthorized <;> trivial
  | cons token rest ih =>
    simp only [Nextjs.fetchWithTokenFallback]
    refine Program.Every.bind (fetch_outside ?_) ?_
    · unfold Nextjs.requireInternalApiAccess
      split
      · exact outside
      · trivial
    · rintro (error | status)
      · trivial
      · dsimp only
        split
        · exact ih (some status)
        · trivial

private theorem call_outside {handler : Procedure Nat} (outside : handler.Every (Within Outside)) :
    (server.call handler).Every (Within Outside) :=
  fetchWithTokenFallback_outside _ outside none _

private theorem getSessionVersion_outside (sessionId : String) :
    (Nextjs.getSessionVersion sessionId).Every (Within Outside) := by
  refine ⟨⟨rfl, nofun, nofun⟩, ?_⟩
  rintro (error | raw) <;> trivial

private theorem setSessionVersion_outside (sessionId : String) (version : Nat) :
    (Nextjs.setSessionVersion sessionId version).Every (Within Outside) := by
  refine Program.Every.bind (getSessionVersion_outside sessionId) ?_
  rintro (error | current)
  · trivial
  · dsimp only
    split
    · refine ⟨⟨rfl, nofun, nofun⟩, ?_⟩
      rintro (error | _) <;> trivial
    · trivial

theorem ensureSessionVersion_outside (op : Nextjs.Operation) :
    (Nextjs.ensureSessionVersion op).Every (Within Outside) := by
  unfold Nextjs.ensureSessionVersion
  split
  · trivial
  · trivial
  · exact setSessionVersion_outside _ _
  · exact setSessionVersion_outside _ _

private theorem server_syncSession_outside (sessionId userId : String) (expiresAt : Nat) :
    (server.syncSession sessionId userId expiresAt).Every (Within Outside) := by
  refine Program.Every.bind ⟨trivial, fun _ => trivial⟩ fun millis => ?_
  refine Program.Every.bind (call_outside server (postSession_outside server _)) ?_
  rintro (error | status)
  · trivial
  · dsimp only
    split <;> trivial

private theorem server_revokeSession_outside (sessionId : String) (jti : Option String)
    (tokenExp : Option Nat) :
    (server.revokeSession sessionId jti tokenExp).Every (Within Outside) := by
  refine Program.Every.bind (call_outside server (deleteSession_outside server _ _ _)) ?_
  rintro (error | status)
  · trivial
  · dsimp only
    split <;> trivial

private theorem recordVersion_outside (sessionId : String) (targetVersion : Nat) :
    (Nextjs.Server.recordVersion sessionId targetVersion).Every (Within Outside) := by
  refine Program.Every.bind (getSessionVersion_outside sessionId) ?_
  rintro (error | version)
  · trivial
  · dsimp only
    split
    · exact setSessionVersion_outside _ _
    · trivial

theorem executeOperation_outside (op : ReconciliationOp) :
    (server.executeOperation op).Every (Within Outside) := by
  unfold Nextjs.Server.executeOperation
  split
  · trivial
  unfold Nextjs.Server.dispatch
  split
  · split
    · trivial
    · refine ⟨⟨rfl, nofun, nofun⟩, ?_⟩
      rintro (error | _) <;> trivial
  · refine Program.Every.bind (getSessionVersion_outside _) ?_
    rintro (error | version)
    · trivial
    · dsimp only
      split
      · trivial
      · exact server_syncSession_outside server _ _ _
  · exact server_revokeSession_outside server _ _ _
  · refine Program.Every.bind (recordVersion_outside _ _) ?_
    rintro (error | _)
    · trivial
    · exact server_revokeSession_outside server _ _ _
  · trivial

end

end BrainMate.Reconciliation
