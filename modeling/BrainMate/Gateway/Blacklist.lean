import BrainMate.Gateway.World

/-! `blacklist.rs`: database-backed token blacklist with a Redis cache. -/

namespace BrainMate.Gateway.TokenBlacklist

def validateTokenId (jti : String) : Except ApiError Unit :=
  if jti.utf8ByteSize == 0 || 256 < jti.utf8ByteSize then
    .error (.unauthorized "Token id claim is invalid")
  else if !(jti.toList.all fun c => c.isAlphanum || c == '_' || c == '-' || c == '.') then
    .error (.unauthorized "Token id claim is invalid")
  else .ok ()

/-- The Redis write of `revoke`: warn-only with a database. -/
def cacheRevocation (db : Bool) (jti : String) (ttlSecs : Nat) :
    Procedure (Except ApiError Unit) := do
  match ← redis (.setEx (.blacklist jti) (.text "1") ttlSecs) with
  | .ok () => return .ok ()
  | .error error =>
    if db then return .ok ()
    else return .error (.serviceUnavailable ("blacklist write failed: " ++ error.message))

def revoke (db : Bool) (jti : String) (ttlSecs : Nat) : Procedure (Except ApiError Unit) :=
  match validateTokenId jti with
  | .error error => return .error error
  | .ok () =>
    if db then do
      let now ← nowUnixSecs
      let expiresAt := addI64 (asI64 now) (asI64 ttlSecs)
      match ← database (.addToBlacklist jti expiresAt) with
      | .error error =>
        return .error (.serviceUnavailable ("blacklist db write failed: " ++ error.message))
      | .ok () => cacheRevocation db jti ttlSecs
    else cacheRevocation db jti ttlSecs

/-- `DbClient::check_blacklist`. -/
def checkBlacklist (jti : String) : Procedure (Except DbError BlacklistEntry) := do
  let nowSecs := asI64 (← nowUnixSecs)
  database (.checkBlacklist jti nowSecs)

/-- The database half of `is_blacklisted`, with the rehydration of Redis. -/
def isBlacklistedDb (jti : String) : Procedure (Except ApiError Bool) := do
  match ← checkBlacklist jti with
  | .error error =>
    return .error (.serviceUnavailable
      ("blacklist check failed (both stores unavailable): " ++ error.message))
  | .ok ⟨true, some expiresAt⟩ =>
    let now := asI64 (← nowUnixSecs)
    let remaining := asU64 (max (expiresAt - now) 1)
    let _ ← redis (.setEx (.blacklist jti) (.text "1") remaining)
    return .ok true
  | .ok entry => return .ok entry.present

def isBlacklisted (db : Bool) (jti : String) : Procedure (Except ApiError Bool) :=
  match validateTokenId jti with
  | .error error => return .error error
  | .ok () => do
    match ← redis (.existsKey (.blacklist jti)) with
    | .ok true => return .ok true
    | .ok false => if db then isBlacklistedDb jti else return .ok false
    | .error error =>
      if db then isBlacklistedDb jti
      else return .error (.serviceUnavailable ("blacklist lookup failed: " ++ error.message))

end BrainMate.Gateway.TokenBlacklist
