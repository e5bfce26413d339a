import BrainMate.Gateway.RefreshStore
import BrainMate.Gateway.Auth

/-! The gateway as one system: any number of requests and background jobs,
each running one of the procedures, interleaved command by command. -/

namespace BrainMate.Gateway

open Interleaving

inductive Call where
  | createSession (sessionId userId : String) (issuedAt : Option Nat) (deviceInfo : Option String)
      (ttlSecs maxSessionsPerUser : Nat)
  | validateSession (sessionId expectedUserId : String)
  | revokeSession (sessionId : String)
  /-- `DbClient::create_session_guarded`, on its own. -/
  | createSessionGuarded (record : DbSession) (maxSessions : Int)
  /-- `DbClient::revoke_session`, on its own. -/
  | revokeSessionRow (sessionId : String)
  | issue (rawTokenId userId deviceId : String) (expiresAt : Nat)
  | validate (rawTokenId : String)
  | rotate (oldRawTokenId newRawTokenId : String) (newExpiresAt : Nat)
  | revoke (rawTokenId : String)
  | blacklist (jti : String) (ttlSecs : Nat)
  | isBlacklisted (jti : String)
  | logout (context : Auth.UserContext)
  | revokeSessionRequest (sessionId : String) (jti : Option String) (tokenExp : Option Nat)
  | getOrValidateClaims (token : String)
  /-- The cleanup job: `DbClient::run_cleanup`. -/
  | cleanup
  deriving DecidableEq

@[reducible] def Call.Result : Call → Type
  | .createSession _ _ _ _ _ _ | .revokeSession _ | .issue _ _ _ _ | .revoke _ |
    .blacklist _ _ | .logout _ | .revokeSessionRequest _ _ _ => Except ApiError Unit
  | .validateSession _ _ => Except ApiError SessionRecord
  | .validate _ => Except ApiError RefreshTokenRecord
  | .rotate _ _ _ => Except ApiError RotationStatus
  | .isBlacklisted _ => Except ApiError Bool
  | .getOrValidateClaims _ => Except ApiError (ClerkClaims × Auth.Verifier.ClaimsSource)
  | .createSessionGuarded _ _ => Except DbError Bool
  | .revokeSessionRow _ | .cleanup => Except DbError Unit

/-- How one gateway is deployed. -/
structure Deployment where
  sha256Hex : String → String
  verifier : Auth.Verifier
  /-- A database is configured. -/
  db : Bool
  /-- A reconciliation worker is configured. -/
  reconciliation : Bool

def Deployment.program (site : Deployment) : (call : Call) → Procedure call.Result
  | .createSession sessionId userId issuedAt deviceInfo ttlSecs maxSessionsPerUser =>
    SessionStore.createSession site.sha256Hex site.db sessionId userId issuedAt deviceInfo ttlSecs
      maxSessionsPerUser
  | .validateSession sessionId expectedUserId =>
    SessionStore.validateSession site.db sessionId expectedUserId
  | .revokeSession sessionId => SessionStore.revokeSession site.sha256Hex site.db sessionId
  | .createSessionGuarded record maxSessions =>
    SessionStore.createSessionGuarded record maxSessions
  | .revokeSessionRow sessionId => database (.revokeSession sessionId)
  | .issue rawTokenId userId deviceId expiresAt =>
    RefreshStore.issue site.sha256Hex site.db rawTokenId userId deviceId expiresAt
  | .validate rawTokenId => RefreshStore.validate site.sha256Hex site.db rawTokenId
  | .rotate oldRawTokenId newRawTokenId newExpiresAt =>
    RefreshStore.rotate site.sha256Hex site.db oldRawTokenId newRawTokenId newExpiresAt
  | .revoke rawTokenId => RefreshStore.revoke site.sha256Hex site.db rawTokenId
  | .blacklist jti ttlSecs => TokenBlacklist.revoke site.db jti ttlSecs
  | .isBlacklisted jti => TokenBlacklist.isBlacklisted site.db jti
  | .logout context => Auth.logout site.sha256Hex site.db site.reconciliation context
  | .revokeSessionRequest sessionId jti tokenExp =>
    Auth.revokeSession site.sha256Hex site.db sessionId jti tokenExp
  | .getOrValidateClaims token => site.verifier.getOrValidateClaims site.sha256Hex token
  | .cleanup => database .cleanupExpiredAuth

/-- The deployed gateway with all its clients. -/
@[reducible] def Deployment.system (site : Deployment) : System Command Command.Reply where
  World := World
  Outcome := Outcome
  Event := Event
  Call := Call
  Result := Call.Result
  exec := Command.exec
  environment := environment
  program := site.program

/-- One client makes a call and issues its next commands, all of which succeed,
while no other client moves. -/
def Deployment.serve (site : Deployment) (client : Nat) (call : Call) (commands : Nat) :
    List site.system.Action :=
  .start client call :: List.replicate commands (.step client Outcome.success)

namespace Sample

def oldToken : String := "old-token-0123456789012345678901"

def newToken : String := "new-token-0123456789012345678901"

def newerToken : String := "newer-token-01234567890123456789"

def bearerToken : String := "bearer_1"

/-- SHA-256 on the identifiers of the concrete runs. -/
def sha256Hex (text : String) : String :=
  if text = oldToken then
    "5c79b6b11d94d90f3c5985a7803138ba0884234c7776ff189b9da504a62c60ca"
  else if text = newToken then
    "35575f3487161ef26444642248e96afda214fc6638258190f5c43c9a83cf7808"
  else if text = newerToken then
    "275f155a813a49010934ebb7996dae885e75ebfdb7deae315a373efc8c5d7a33"
  else if text = bearerToken then
    "27c6cdf14129345dcc40134302e6a73b4f4685948647d4b66ac30e382d121f1f"
  else if text = "user_1" then
    "79b0aa0042b3c05617c378046a6553ec2cd81e9995959a6012f9b497a18ec82b"
  else text

/-- 2100-01-01 UTC. -/
def expiry : Nat := 4102444800

def claims : ClerkClaims :=
  ⟨"user_1", "sid_1", "jti_1", "https://clerk.example.com", some 1000, 2000, none, none, none⟩

/-- A verifier for one signed token, checking its times as `jsonwebtoken` does. -/
def verifier : Auth.Verifier where
  DecodingKey := Unit
  decodeHeader token := if token = bearerToken then some ⟨true, some "kid_1"⟩ else none
  signingKey kid :=
    if kid = "kid_1" then .ok () else .error (.unauthorized "Unknown signing key")
  forceRefresh := .ok ()
  decode validation _ token now :=
    if token = bearerToken ∧ now ≤ claims.exp + validation.leeway then some claims else none
  clerkIssuer := "https://clerk.example.com"
  clerkAudience := none
  clerkAuthorizedParty := none
  authCacheTtlSecs := 45

def site (db : Bool) : Deployment := ⟨sha256Hex, verifier, db, true⟩

end Sample

end BrainMate.Gateway
