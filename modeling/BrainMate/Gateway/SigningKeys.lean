import BrainMate.Gateway.Auth
import BrainMate.Interleaving.Outline

/-! `jwks_cache.rs`, and the check of a token in `auth.rs` with the keys from there. The keys and
the claims of tokens that have been checked are kept in Redis for a time, while the issuer of the
tokens may take back a key whenever it likes. -/

namespace BrainMate.Gateway.SigningKeys

open Interleaving System

structure Jwk where
  kid : String
  kty : String
  useType : Option String
  alg : Option String
  n : String
  e : String
  deriving DecidableEq, Repr

abbrev JwkSet := List Jwk

structure CachedJwks where
  fetchedAt : Nat
  set : JwkSet
  deriving DecidableEq, Repr

/-- What the endpoint of the issuer answers. -/
inductive JwksResponse where
  | nonSuccess
  | invalidPayload
  | keys (set : JwkSet)
  deriving DecidableEq, Repr

inductive Command where
  | getJwks
  | setJwks (payload : CachedJwks) (ttlSecs : Nat)
  /-- The reply comes with the second in which it has been read to its end: nothing is awaited
  between there and `now_unix_secs()`. -/
  | fetchJwks
  | getClaims (tokenHash : String)
  | putClaims (tokenHash : String) (claims : ClerkClaims) (ttlSecs : Nat)
  | nowUnixSecs
  deriving DecidableEq, Repr

@[reducible] def Command.Reply : Command → Type
  | getJwks => Except RedisLayerError (Option CachedJwks)
  | setJwks _ _ | putClaims _ _ _ => Except RedisLayerError Unit
  | fetchJwks => Option JwksResponse × Nat
  | getClaims _ => Except RedisLayerError (Option ClerkClaims)
  | nowUnixSecs => Nat

/-- The command is carried out, fails, or is carried out while its reply is lost. The endpoint
answers with what it served `lag` milliseconds before. -/
inductive Outcome where
  | done
  | failed (error : RedisLayerError)
  | lost (error : RedisLayerError)
  | answered (lag : Nat) (response : JwksResponse)

/-- Time passes, and entries go away: Redis drops one, or a logout does. -/
inductive Event where
  | tick
  | dropJwks
  | dropClaims (tokenHash : String)

structure World where
  /-- Milliseconds since the epoch. -/
  clock : Nat
  /-- The entry of `jwks:cache`, with its deadline. -/
  jwks : Option (CachedJwks × Nat)
  /-- The entries `auth:{token_hash}`, with their deadlines. -/
  claims : String → Option (ClerkClaims × Nat)

def World.empty (clock : Nat) : World := ⟨clock, none, fun _ => none⟩

/-- What Redis answers for an entry with a deadline. -/
def alive {Value : Type} (clock : Nat) (entry : Option (Value × Nat)) : Option Value :=
  (entry.filter fun stored => clock < stored.2).map Prod.fst

/-- What the gateway takes from `jsonwebtoken`, its configuration, and the answers that the
endpoint gives at each moment. In place of the verifier's `signingKey` and `forceRefresh` stands
the cache below. -/
structure Issuer where
  verifier : Auth.Verifier
  fromRsaComponents : String → String → Option verifier.DecodingKey
  sha256Hex : String → String
  hardTtlSecs : Nat
  requestTimeoutSecs : Nat
  serves : Nat → JwksResponse → Bool

namespace Issuer

variable (issuer : Issuer)

/-- The client gives up on an answer that takes longer than the timeout. -/
def endpoint (outcome : Outcome) (clock : Nat) : Option JwksResponse :=
  match outcome with
  | .answered lag response =>
    if lag ≤ issuer.requestTimeoutSecs * 1000 ∧ lag ≤ clock ∧
        issuer.serves (clock - lag) response = true then
      some response
    else none
  | _ => none

def perform (command : Command) (world : World) (outcome : Outcome) : command.Reply × World :=
  match command with
  | .getJwks => (.ok (alive world.clock world.jwks), world)
  | .setJwks payload ttlSecs =>
    (.ok (), { world with jwks := some (payload, world.clock + ttlSecs * 1000) })
  | .fetchJwks => ((issuer.endpoint outcome world.clock, world.clock / 1000), world)
  | .getClaims tokenHash => (.ok (alive world.clock (world.claims tokenHash)), world)
  | .putClaims tokenHash claims ttlSecs =>
    (.ok (), { world with
      claims := Function.update world.claims tokenHash
        (some (claims, world.clock + ttlSecs * 1000)) })
  | .nowUnixSecs => (world.clock / 1000, world)

def failure (error : RedisLayerError) (command : Command) (world : World) : command.Reply :=
  match command with
  | .getJwks | .getClaims _ | .setJwks _ _ | .putClaims _ _ _ => .error error
  | .fetchJwks => (none, world.clock / 1000)
  | .nowUnixSecs => world.clock / 1000

def execute (outcome : Outcome) (command : Command) (world : World) : command.Reply × World :=
  match outcome with
  | .done | .answered _ _ => issuer.perform command world outcome
  | .failed error => (failure error command world, world)
  | .lost error => (failure error command world, (issuer.perform command world outcome).2)

end Issuer

def occur (event : Event) (world : World) : World :=
  match event with
  | .tick => { world with clock := world.clock + 1 }
  | .dropJwks => { world with jwks := none }
  | .dropClaims tokenHash => { world with claims := Function.update world.claims tokenHash none }

abbrev Procedure := Program Command Command.Reply

def ask (command : Command) : Procedure command.Reply := Program.request command

namespace Issuer

variable (issuer : Issuer)

def isSigningKey (kid : String) (jwk : Jwk) : Bool :=
  jwk.kid == kid && jwk.kty == "RSA" && jwk.useType == some "sig" && jwk.alg == some "RS256"

def decodeKeyFromSet (set : JwkSet) (kid : String) : Option issuer.verifier.DecodingKey :=
  (set.find? (isSigningKey kid)).bind fun jwk => issuer.fromRsaComponents jwk.n jwk.e

def refreshAndCache : Procedure (Except ApiError JwkSet) := do
  let (response, arrived) ← ask .fetchJwks
  match response with
  | none => return .error (.serviceUnavailable "Failed to fetch Clerk JWKS")
  | some .nonSuccess => return .error (.serviceUnavailable "Clerk JWKS endpoint returned non-success")
  | some .invalidPayload => return .error (.serviceUnavailable "Invalid JWKS response payload")
  | some (.keys set) =>
    if set.isEmpty then return .error (.serviceUnavailable "JWKS payload contains no keys")
    else
      match ← ask (.setJwks ⟨arrived, set⟩ issuer.hardTtlSecs) with
      | .error error =>
        return .error (.serviceUnavailable ("jwks cache write failed: " ++ error.message))
      | .ok () => return .ok set

/-- The refresh that is spawned for a set beyond its soft TTL is a call of its own. -/
def lookupCachedKey (kid : String) :
    Procedure (Except ApiError (Option issuer.verifier.DecodingKey)) := do
  match ← ask .getJwks with
  | .error error =>
    return .error (.serviceUnavailable ("jwks cache lookup failed: " ++ error.message))
  | .ok none => return .ok none
  | .ok (some cached) =>
    let now ← ask .nowUnixSecs
    if issuer.hardTtlSecs < now - cached.fetchedAt then return .ok none
    else return .ok (issuer.decodeKeyFromSet cached.set kid)

/-- `refresh_lock` only takes away orders in which refreshes come between each other. -/
def getDecodingKey (kid : String) : Procedure (Except ApiError issuer.verifier.DecodingKey) :=
  if (trim kid).isEmpty then return .error (.unauthorized "Token key id (kid) is missing")
  else do
    match ← issuer.lookupCachedKey kid with
    | .error error => return .error error
    | .ok (some key) => return .ok key
    | .ok none =>
      match ← issuer.lookupCachedKey kid with
      | .error error => return .error error
      | .ok (some key) => return .ok key
      | .ok none =>
        match ← issuer.refreshAndCache with
        | .error error => return .error error
        | .ok fetched =>
          match issuer.decodeKeyFromSet fetched kid with
          | some key => return .ok key
          | none => return .error (.unauthorized "Signing key not found in JWKS")

/-- `warmup` and `force_refresh`. -/
def forceRefresh : Procedure (Except ApiError Unit) := do
  match ← issuer.refreshAndCache with
  | .error error => return .error error
  | .ok _ => return .ok ()

def putClaims (tokenHash : String) (claims : ClerkClaims) : Procedure (Except ApiError Unit) :=
  match AuthCache.validateTokenHash tokenHash with
  | .error error => return .error error
  | .ok () => do
    match ← ask (.putClaims tokenHash claims issuer.verifier.authCacheTtlSecs) with
    | .error error =>
      return .error (.serviceUnavailable ("auth cache write failed: " ++ error.message))
    | .ok () => return .ok ()

def getClaims (tokenHash : String) : Procedure (Except ApiError (Option ClerkClaims)) :=
  match AuthCache.validateTokenHash tokenHash with
  | .error error => return .error error
  | .ok () => do
    match ← ask (.getClaims tokenHash) with
    | .error error =>
      return .error (.serviceUnavailable ("auth cache lookup failed: " ++ error.message))
    | .ok cached => return .ok cached

/-- The check of `auth.rs`, with the keys from here. -/
def services : Auth.Services issuer.verifier Procedure where
  getCached := getClaims
  putCached := issuer.putClaims
  getDecodingKey := issuer.getDecodingKey
  forceRefresh := issuer.forceRefresh
  nowUnixSecs := ask .nowUnixSecs

def getOrValidateClaims (token : String) :
    Procedure (Except ApiError (ClerkClaims × Auth.Verifier.ClaimsSource)) :=
  issuer.services.getOrValidateClaims (issuer.sha256Hex token) token

end Issuer

/-- The commands of a request, which is dropped when its time is up, and of a task without a limit. -/
inductive Timed where
  | arrive
  | within (deadline : Option Nat) (command : Command)

@[reducible] def Timed.Reply : Timed → Type
  | arrive => Nat
  | within _ command => Option command.Reply

/-- What is dropped ends without a value. -/
def limited {α : Type} (deadline : Option Nat) :
    Procedure α → Program Timed Timed.Reply (Option α)
  | .done value => .done (some value)
  | .call command next => .call (.within deadline command) fun reply =>
    match reply with
    | none => .done none
    | some reply => limited deadline (next reply)

inductive Call where
  | validate (token : String)
  | refresh

@[reducible] def Call.Result : Call → Type
  | validate _ => Option (Except ApiError (ClerkClaims × Auth.Verifier.ClaimsSource))
  | refresh => Option (Except ApiError Unit)

namespace Issuer

variable (issuer : Issuer)

/-- A request has the `TimeoutLayer` around it; a refresh in the background has not. -/
def program : (call : Call) → Program Timed Timed.Reply call.Result
  | .validate token => Program.request Timed.arrive >>= fun arrived =>
    limited (some (arrived + issuer.requestTimeoutSecs * 1000)) (issuer.getOrValidateClaims token)
  | .refresh => limited none issuer.forceRefresh

def exec (outcome : Outcome) (timed : Timed) (world : World) : timed.Reply × World :=
  match timed with
  | .arrive => (world.clock, world)
  | .within deadline command =>
    if deadline.any (· < world.clock) then (none, world)
    else
      let (reply, world) := issuer.execute outcome command world
      (some reply, world)

def system : System Timed Timed.Reply where
  World := World
  Outcome := Outcome
  Event := Event
  Call := Call
  Result := Call.Result
  exec := issuer.exec
  environment := occur
  program := issuer.program

end Issuer

end BrainMate.Gateway.SigningKeys
