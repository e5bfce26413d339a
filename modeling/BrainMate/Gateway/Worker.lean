import BrainMate.Gateway.Auth

/-! The worker of `reconciliation.rs`: it takes due entries from
`reconciliation:pending`, executes them, and puts back or sets aside those that
failed. -/

namespace BrainMate.Gateway.Reconciliation

def lockTtlSecs : Nat := 15

def baseDelayMs : Nat := 1000

def batchSize : Nat := 10

def dlqEntryTtlMs : Nat := 7 * 24 * 60 * 60 * 1000

/-- The settings of a `ReconciliationWorker`. -/
structure Worker where
  sha256Hex : String → String
  /-- A database is configured, for the stores and for the cleanup. -/
  db : Bool
  maxSessionTtlSecs : Nat
  maxSessionsPerUser : Nat
  workerId : String

/-- `serde_json::from_str::<QueueEntry>`: trace fields are not known and ignored. -/
def parse : QueueMember → Option QueueEntry
  | .entry entry _ => some entry
  | .malformed _ => none

def currentSessionVersion (sessionId : String) : Procedure (Except String Nat) := do
  match ← redis (.get (.sessionVersion sessionId)) with
  | .error error => return .error error.message
  | .ok raw => return .ok ((raw.bind RedisValue.asNumber).getD 0)

namespace Worker

variable (worker : Worker)

def syncSession (sessionId userId : String) (expiresAt : Nat) :
    Procedure (Except String Unit) := do
  let now ← nowUnixSecs
  let ttl := min (expiresAt - now) worker.maxSessionTtlSecs
  if ttl = 0 then return .ok ()
  else
    let created ← SessionStore.createSession worker.sha256Hex worker.db sessionId userId none none
      ttl worker.maxSessionsPerUser
    return created.mapError fun error => "session sync failed: " ++ error.message

/-- The blacklist half of a `session_revoke`. -/
def revokeToken (jti : Option String) (tokenExp : Option Nat) : Procedure (Except String Unit) :=
  match jti, tokenExp with
  | some jti, some exp => do
    let now ← nowUnixSecs
    let ttl := exp - now
    if 0 < ttl then
      let revoked ← TokenBlacklist.revoke worker.db jti ttl
      return revoked.mapError fun error => "token blacklist failed: " ++ error.message
    else return .ok ()
  | _, _ => return .ok ()

def execute : ReconciliationOp → Procedure (Except String Unit)
  | .tokenRevocation jti ttlSecs => do
    let revoked ← TokenBlacklist.revoke worker.db jti ttlSecs
    return revoked.mapError fun error => "token revocation failed: " ++ error.message
  | .sessionSync sessionId userId expiresAt none => worker.syncSession sessionId userId expiresAt
  | .sessionSync sessionId userId expiresAt (some expectedVersion) => do
    match ← currentSessionVersion sessionId with
    | .error error => return .error ("session version lookup failed: " ++ error)
    | .ok currentVersion =>
      if currentVersion ≠ expectedVersion then return .ok ()
      else worker.syncSession sessionId userId expiresAt
  | .sessionRevoke sessionId jti tokenExp _ => do
    match ← SessionStore.revokeSession worker.sha256Hex worker.db sessionId with
    | .error error => return .error ("session revoke failed: " ++ error.message)
    | .ok () => worker.revokeToken jti tokenExp
  | .dbCleanup =>
    if worker.db then do
      match ← database .cleanupExpiredAuth with
      | .error error => return .error ("db cleanup failed: " ++ error.message)
      | .ok () => return .ok ()
    else return .ok ()

/-- The end of an attempt: the results of these commands are ignored. -/
def release (entry : QueueEntry) : Procedure Unit := do
  let _ ← redis (.delete (.reconciliationLock entry.id))

def forget (entry : QueueEntry) : Procedure Unit := do
  let _ ← redis (.delete (.reconciliationIdem entry.id))
  release entry

/-- The entry has used up its attempts. -/
def moveToDlq (entry : QueueEntry) : Procedure Unit := do
  let dlqScore ← nowMs
  let _ ← redis (.zadd .reconciliationDlq dlqScore (.entry entry .serde))
  let now ← nowMs
  let _ ← redis (.zremrangeByScore .reconciliationDlq (now - dlqEntryTtlMs))
  forget entry

def retry (entry : QueueEntry) : Procedure Unit := do
  let delayMs := baseDelayMs * 2 ^ (entry.attempt - 1)
  let now ← nowMs
  let _ ← redis (.zadd .reconciliationPending (now + delayMs) (.entry entry .serde))
  release entry

/-- What follows an attempt; `entry` counts it already. -/
def settle (entry : QueueEntry) : Except String Unit → Procedure Unit
  | .ok () => forget entry
  | .error error =>
    let failed := { entry with lastError := some error }
    if entry.maxAttempts ≤ entry.attempt then moveToDlq failed else retry failed

/-- The member was removed from the queue by this worker. -/
def attempt (entry : QueueEntry) : Procedure Unit := do
  let counted := { entry with attempt := entry.attempt + 1 }
  let result ← worker.execute counted.op
  settle counted result

def processEntry (member : QueueMember) : Procedure Unit :=
  match parse member with
  | none => do
    let _ ← redis (.zrem .reconciliationPending member)
    return ()
  | some entry => do
    let millis ← nowMs
    let lockValue := worker.workerId ++ ":" ++ toString millis
    match ← redis (.setNxEx (.reconciliationLock entry.id) (.text lockValue) lockTtlSecs) with
    | .error _ | .ok false => return ()
    | .ok true =>
      match ← redis (.zrem .reconciliationPending member) with
      | .error _ | .ok 0 => release entry
      | .ok (_ + 1) => worker.attempt entry

def processEntries : List QueueMember → Procedure Unit
  | [] => return ()
  | member :: rest => do
    worker.processEntry member
    processEntries rest

def processBatch : Procedure (Except String Unit) := do
  let now ← nowMs
  match ← redis (.zrangeByScore .reconciliationPending now batchSize) with
  | .error error => return .error error.message
  | .ok entries =>
    worker.processEntries entries
    return .ok ()

end Worker

end BrainMate.Gateway.Reconciliation
