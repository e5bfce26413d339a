import BrainMate.Gateway.Worker

/-! `lib/reconciliation-worker.ts`: the Next.js side of the reconciliation queue. It
writes some keys itself and reaches the others through the gateway's internal routes.
Whether the process lets a call through (its rate limit and its circuit breakers) is
an argument of the call. -/

namespace BrainMate.Nextjs

open Gateway

/-- `ReconciliationOp` of the TypeScript side: it knows no `db_cleanup`, and its
`session_sync` always carries a version. -/
inductive Operation where
  | tokenRevocation (jti : String) (ttlSecs : Nat)
  | sessionSync (sessionId userId : String) (expiresAt expectedVersion : Nat)
  | sessionRevoke (sessionId : String) (jti : Option String) (tokenExp targetVersion : Option Nat)
  deriving DecidableEq, Repr

/-- What the JSON text of the operation says. -/
def Operation.toOp : Operation → ReconciliationOp
  | .tokenRevocation jti ttlSecs => .tokenRevocation jti ttlSecs
  | .sessionSync sessionId userId expiresAt expectedVersion =>
    .sessionSync sessionId userId expiresAt (some expectedVersion)
  | .sessionRevoke sessionId jti tokenExp targetVersion =>
    .sessionRevoke sessionId jti tokenExp targetVersion

def maxAttempts : Nat := 5

def maxQueueSize : Nat := 5000

def baseDelayMs : Nat := 1000

def batchSize : Nat := 10

def idemTtlSecs : Nat := 86400

def workerLockTtlSecs : Nat := 15

def dlqEntryTtlMs : Nat := 7 * 24 * 60 * 60 * 1000

/-- The settings of the process and of the gateway behind it. -/
structure Server where
  sha256Hex : String → String
  /-- The gateway has a database. -/
  db : Bool
  maxSessionTtlSecs : Nat
  maxSessionsPerUser : Nat
  /-- The tokens the gateway accepts. -/
  internalApiTokens : List String
  /-- `getInternalApiTokenCandidates()`. -/
  internalTokens : List String
  workerOwner : String

/-- `Number.parseInt` of a stored number; what is no number counts as zero. -/
def parseVersion : Option RedisValue → Int
  | some (.counter value) => value
  | _ => 0

def getSessionVersion (sessionId : String) : Procedure (Except String Int) := do
  match ← redis (.get (.sessionVersion sessionId)) with
  | .error error => return .error error.message
  | .ok raw => return .ok (parseVersion raw)

/-- An INCR and an EXPIRE; zero stands for a failure of either. -/
def bumpSessionVersion (sessionId : String) : Procedure Int := do
  match ← redis (.incr (.sessionVersion sessionId)) with
  | .error _ => return 0
  | .ok next =>
    match ← redis (.expire (.sessionVersion sessionId) idemTtlSecs) with
    | .error _ => return 0
    | .ok _ => return next

def setSessionVersion (sessionId : String) (version : Nat) : Procedure (Except String Unit) := do
  match ← getSessionVersion sessionId with
  | .error error => return .error error
  | .ok current =>
    if current < version then
      match ← redis (.setEx (.sessionVersion sessionId) (.counter version) idemTtlSecs) with
      | .error error => return .error error.message
      | .ok () => return .ok ()
    else return .ok ()

def ensureSessionVersion : Operation → Procedure (Except String Unit)
  | .tokenRevocation _ _ | .sessionRevoke _ _ _ none => return .ok ()
  | .sessionSync sessionId _ _ expectedVersion => setSessionVersion sessionId expectedVersion
  | .sessionRevoke sessionId _ _ (some targetVersion) => setSessionVersion sessionId targetVersion

def generateOperationId : Operation → String
  | .tokenRevocation jti _ => "revoke:" ++ jti
  | .sessionSync sessionId _ _ expectedVersion =>
    "sync:" ++ sessionId ++ ":v" ++ toString expectedVersion
  | .sessionRevoke sessionId _ _ (some targetVersion) =>
    "logout:" ++ sessionId ++ ":v" ++ toString targetVersion
  | .sessionRevoke sessionId _ _ none => "logout:" ++ sessionId

/-- From the idempotency check on. -/
def addPending (entry : QueueEntry) (encoding : Encoding) : Procedure Unit := do
  match ← redis (.existsKey (.reconciliationIdem entry.id)) with
  | .error _ | .ok true => return ()
  | .ok false =>
    match ← redis (.setEx (.reconciliationIdem entry.id) (.text "1") idemTtlSecs) with
    | .error _ => return ()
    | .ok () =>
      let score ← nowMs
      let _ ← redis (.zadd .reconciliationPending score (.entry entry encoding))
      return ()

def enqueueReconciliation (admitted : Bool) (traceparent tracestate : Option String)
    (op : Operation) : Procedure Unit :=
  if !admitted then return ()
  else do
    let createdAt ← nowMs
    let entry : QueueEntry :=
      ⟨generateOperationId op, op.toOp, 0, maxAttempts, createdAt, none⟩
    match ← redis (.zcard .reconciliationPending) with
    | .error _ => return ()
    | .ok pendingCount =>
      match ← redis (.zcard .reconciliationDlq) with
      | .error _ => return ()
      | .ok _ =>
        if maxQueueSize ≤ pendingCount then return ()
        else
          match ← ensureSessionVersion op with
          | .error _ => return ()
          | .ok () => addPending entry (.stringify traceparent tracestate)

/-- A request and its response; either may be lost on the way. -/
def fetch (handler : Procedure Nat) : Procedure (Except String Nat) := do
  match ← http with
  | .error error => return .error error
  | .ok () =>
    let status ← handler
    match ← http with
    | .error error => return .error error
    | .ok () => return .ok status

/-- `require_internal_api_access` in front of a handler. -/
def requireInternalApiAccess (internalApiTokens : List String) (token : String)
    (handler : Procedure Nat) : Procedure Nat :=
  if internalApiTokens.contains token then handler else return 401

def fetchWithTokenFallback (internalApiTokens : List String) (handler : Procedure Nat) :
    Option Nat → List String → Procedure (Except String Nat)
  | some lastUnauthorized, [] => return .ok lastUnauthorized
  | none, [] => return .error "No internal API token candidates available"
  | _, token :: rest => do
    match ← fetch (requireInternalApiAccess internalApiTokens token handler) with
    | .error error => return .error error
    | .ok status =>
      if status = 401 ∨ status = 403 then
        fetchWithTokenFallback internalApiTokens handler (some status) rest
      else return .ok status

/-- The status of a handler's response. -/
def respond (success : Nat) : Except ApiError Unit → Nat
  | .ok () => success
  | .error error => error.status

/-- The path segment is empty, or the URL parser removes it. -/
def vanishes (segment : String) : Bool := segment == "" || segment == "." || segment == ".."

namespace Server

variable (server : Server)

/-- `POST /v1/auth/session`. -/
def postSession (payload : Auth.CreateSessionRequest) : Procedure Nat := do
  let answer ← Auth.createSession server.sha256Hex server.db server.maxSessionTtlSecs
    server.maxSessionsPerUser payload
  return respond 201 answer

/-- `DELETE /v1/auth/session/{sid}`; without a segment no route matches. -/
def deleteSession (sessionId : String) (jti : Option String) (tokenExp : Option Nat) :
    Procedure Nat := do
  if vanishes sessionId then return 404
  else
    let answer ← Auth.revokeSession server.sha256Hex server.db sessionId jti tokenExp
    return respond 204 answer

def call (handler : Procedure Nat) : Procedure (Except String Nat) :=
  fetchWithTokenFallback server.internalApiTokens handler none server.internalTokens

def syncSession (sessionId userId : String) (expiresAt : Nat) :
    Procedure (Except String Unit) := do
  let millis ← nowMs
  match ← server.call (server.postSession ⟨sessionId, userId, some (millis / 1000), none, expiresAt⟩) with
  | .error error => return .error error
  | .ok status =>
    if 200 ≤ status ∧ status < 300 then return .ok ()
    else return .error ("Session sync failed: " ++ toString status)

/-- `if (op.jti) params.set(...)`: an empty string and a zero are left out. -/
def revokeSession (sessionId : String) (jti : Option String) (tokenExp : Option Nat) :
    Procedure (Except String Unit) := do
  let handler := server.deleteSession sessionId (jti.filter (· ≠ "")) (tokenExp.filter (· ≠ 0))
  match ← server.call handler with
  | .error error => return .error error
  | .ok status =>
    if (200 ≤ status ∧ status < 300) ∨ status = 404 then return .ok ()
    else return .error ("Session revoke failed: " ++ toString status)

/-- The version of a `session_revoke` is recorded first. -/
def recordVersion (sessionId : String) (targetVersion : Nat) : Procedure (Except String Unit) := do
  match ← getSessionVersion sessionId with
  | .error error => return .error error
  | .ok version =>
    if version < targetVersion then setSessionVersion sessionId targetVersion else return .ok ()

/-- The switch of `executeOperation`; it has no case for `db_cleanup`. -/
def dispatch : ReconciliationOp → Procedure (Except String Unit)
  | .tokenRevocation jti ttlSecs =>
    if ttlSecs = 0 then return .ok ()
    else do
      match ← redis (.setEx (.blacklist jti) (.text "1") ttlSecs) with
      | .error error => return .error error.message
      | .ok () => return .ok ()
  | .sessionSync sessionId userId expiresAt expectedVersion => do
    match ← getSessionVersion sessionId with
    | .error error => return .error error
    | .ok version =>
      -- A version that is `null` equals no number.
      if expectedVersion.map Int.ofNat ≠ some version then return .ok ()
      else server.syncSession sessionId userId expiresAt
  | .sessionRevoke sessionId jti tokenExp none => server.revokeSession sessionId jti tokenExp
  | .sessionRevoke sessionId jti tokenExp (some targetVersion) => do
    match ← recordVersion sessionId targetVersion with
    | .error error => return .error error
    | .ok () => server.revokeSession sessionId jti tokenExp
  | .dbCleanup => return .ok ()

def executeOperation (op : ReconciliationOp) : Procedure (Except String Unit) :=
  if server.internalTokens.isEmpty then return .error "Internal API token is not configured"
  else server.dispatch op

/-- `await redis.del(key)`. -/
def delete (key : RedisKey) : Procedure (Except String Unit) := do
  match ← redis (.delete key) with
  | .error error => return .error error.message
  | .ok _ => return .ok ()

/-- The body of the `try` after an entry was claimed. -/
def perform (entry : QueueEntry) : Procedure (Except String Unit) := do
  match ← server.executeOperation entry.op with
  | .error error => return .error error
  | .ok () =>
    match ← delete (.reconciliationIdem entry.id) with
    | .error error => return .error error
    | .ok () => delete (.reconciliationLock entry.id)

def moveToDlq (now : Nat) (entry : QueueEntry) (encoding : Encoding) :
    Procedure (Except String Unit) := do
  match ← redis (.zadd .reconciliationDlq now (.entry entry encoding)) with
  | .error error => return .error error.message
  | .ok _ =>
    let millis ← nowMs
    match ← redis (.zremrangeByScore .reconciliationDlq (millis - dlqEntryTtlMs)) with
    | .error error => return .error error.message
    | .ok _ =>
      match ← delete (.reconciliationIdem entry.id) with
      | .error error => return .error error
      | .ok () => delete (.reconciliationLock entry.id)

def retry (entry : QueueEntry) (encoding : Encoding) : Procedure (Except String Unit) := do
  let delay := baseDelayMs * 2 ^ (entry.attempt - 1)
  let millis ← nowMs
  match ← redis (.zadd .reconciliationPending (millis + delay) (.entry entry encoding)) with
  | .error error => return .error error.message
  | .ok _ => delete (.reconciliationLock entry.id)

/-- An entry this worker removed from the queue. Answers whether it was processed; an
error is one that the loop throws. -/
def attempt (now : Nat) (entry : QueueEntry) (encoding : Encoding) :
    Procedure (Except String Bool) := do
  let counted := { entry with attempt := entry.attempt + 1 }
  match ← server.perform counted with
  | .ok () => return .ok true
  | .error error =>
    let failed := { counted with lastError := some error }
    let settled ← if counted.maxAttempts ≤ counted.attempt then moveToDlq now failed encoding
      else retry failed encoding
    return settled.map fun () => false

/-- A text that is no JSON goes to the dead letters. -/
def discard (now : Nat) (member : QueueMember) : Procedure (Except String Bool) := do
  match ← redis (.zrem .reconciliationPending member) with
  | .error error => return .error error.message
  | .ok _ =>
    match ← redis (.zadd .reconciliationDlq now member) with
    | .error error => return .error error.message
    | .ok _ => return .ok false

def processEntry (now : Nat) : QueueMember → Procedure (Except String Bool)
  | .malformed text => discard now (.malformed text)
  | .entry entry encoding => do
    let millis ← nowMs
    let lockValue := server.workerOwner ++ ":" ++ toString millis
    match ← redis (.setNxEx (.reconciliationLock entry.id) (.text lockValue) workerLockTtlSecs) with
    | .error error => return .error error.message
    | .ok false => return .ok false
    | .ok true =>
      match ← redis (.zrem .reconciliationPending (.entry entry encoding)) with
      | .error error => return .error error.message
      | .ok 0 =>
        let released ← delete (.reconciliationLock entry.id)
        return released.map fun () => false
      | .ok (_ + 1) => server.attempt now entry encoding

/-- The loop ends early when something in it throws. -/
def processEntries (now : Nat) : Nat → List QueueMember → Procedure Nat
  | processed, [] => return processed
  | processed, member :: rest => do
    match ← server.processEntry now member with
    | .error _ => return processed
    | .ok true => processEntries now (processed + 1) rest
    | .ok false => processEntries now processed rest

def processPendingOperations (admitted : Bool) : Procedure Nat :=
  if !admitted then return 0
  else do
    let now ← nowMs
    match ← redis (.zrangeByScore .reconciliationPending now batchSize) with
    | .error _ => return 0
    | .ok entries => server.processEntries now 0 entries

end Server

end BrainMate.Nextjs
