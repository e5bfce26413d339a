import BrainMate.Gateway.OtpStore
import BrainMate.Gateway.RefreshStore
import BrainMate.Gateway.RequestStores
import BrainMate.Gateway.SessionStore
import BrainMate.Gateway.Worker

/-! The keys that the stores of the gateway build, as the strings Redis gets. Two of them are
one string only where one store builds both from one id. -/

namespace BrainMate.Gateway

/-- A key builder with what it is given. -/
inductive StoreKey where
  | session (sessionId : String)
  | sessionCount (userId : String)
  | blacklist (jti : String)
  | refresh (rawTokenId : String)
  | refreshLock (rawTokenId : String)
  | auth (tokenHash : String)
  | otp (userId : String)
  | nonce (regionId requestId : String)
  | rateLimit (scope : RateLimitScope) (id : String)
  | riskContext (userId : String)
  | wafBlock (ip : String)
  | wafAudit (requestId : String)
  | reconciliationIdem (op : ReconciliationOp)
  | reconciliationLock (entryId : String)
  | reconciliationPending
  | reconciliationDlq
  | sessionVersion (sessionId : String)
  deriving DecidableEq, Repr

namespace StoreKey

/-- The validators let the ids pass. -/
def Accepted : StoreKey → Prop
  | .session sessionId => SessionStore.validateSessionId sessionId = .ok ()
  | .blacklist jti => TokenBlacklist.validateTokenId jti = .ok ()
  | .refresh rawTokenId | .refreshLock rawTokenId =>
    RefreshStore.validateRefreshTokenId rawTokenId = .ok ()
  | .auth tokenHash => AuthCache.validateTokenHash tokenHash = .ok ()
  | .otp userId => OtpStore.validateUserId userId = .ok ()
  | .nonce regionId requestId => NonceStore.validateRegionId regionId = .ok () ∧
      NonceStore.validateRequestId requestId = .ok ()
  | .sessionCount _ | .rateLimit _ _ | .riskContext _ | .wafBlock _ | .wafAudit _
  | .reconciliationIdem _ | .reconciliationLock _ | .reconciliationPending | .reconciliationDlq
  | .sessionVersion _ => True

variable (sha256Hex : String → String)

def redisKey : StoreKey → RedisKey
  | .session sessionId => .session sessionId
  | .sessionCount userId => SessionStore.userSessionCountKey sha256Hex userId
  | .blacklist jti => .blacklist jti
  | .refresh rawTokenId => RefreshStore.key sha256Hex rawTokenId
  | .refreshLock rawTokenId => RefreshStore.lockKey sha256Hex rawTokenId
  | .auth tokenHash => .auth tokenHash
  | .otp userId => OtpStore.key userId
  | .nonce regionId requestId => NonceStore.key regionId requestId
  | .rateLimit scope id => RateLimiter.redisKey sha256Hex scope id
  | .riskContext userId => .riskContext (sha256Hex userId)
  | .wafBlock ip => WafFeedback.blockKey ip
  | .wafAudit requestId => WafFeedback.auditKey requestId
  | .reconciliationIdem op => .reconciliationIdem (Reconciliation.operationId op)
  | .reconciliationLock entryId => .reconciliationLock entryId
  | .reconciliationPending => .reconciliationPending
  | .reconciliationDlq => .reconciliationDlq
  | .sessionVersion sessionId => .sessionVersion sessionId

/-- The string Redis gets. -/
def text (key : StoreKey) : String := (key.redisKey sha256Hex).render

/-- The builder with what is left of its ids: the digest where it hashes one, the id of the
entry where it is given an operation. -/
inductive Identity where
  | session (sessionId : String)
  | sessionCount (userHash : String)
  | blacklist (jti : String)
  | refresh (tokenHash : String)
  | refreshLock (tokenHash : String)
  | auth (tokenHash : String)
  | otp (userId : String)
  | nonce (regionId requestId : String)
  | rateLimit (scope : RateLimitScope) (stableId : String)
  | riskContext (userHash : String)
  | wafBlock (ip : String)
  | wafAudit (requestId : String)
  | reconciliationIdem (entryId : String)
  | reconciliationLock (entryId : String)
  | reconciliationPending
  | reconciliationDlq
  | sessionVersion (sessionId : String)
  deriving DecidableEq, Repr

def identity : StoreKey → Identity
  | .session sessionId => .session sessionId
  | .sessionCount userId => .sessionCount (sha256Hex userId)
  | .blacklist jti => .blacklist jti
  | .refresh rawTokenId => .refresh (sha256Hex rawTokenId)
  | .refreshLock rawTokenId => .refreshLock (sha256Hex rawTokenId)
  | .auth tokenHash => .auth tokenHash
  | .otp userId => .otp userId
  | .nonce regionId requestId => .nonce regionId requestId
  | .rateLimit scope id => .rateLimit scope (sha256Hex id)
  | .riskContext userId => .riskContext (sha256Hex userId)
  | .wafBlock ip => .wafBlock ip
  | .wafAudit requestId => .wafAudit requestId
  | .reconciliationIdem op => .reconciliationIdem (Reconciliation.operationId op)
  | .reconciliationLock entryId => .reconciliationLock entryId
  | .reconciliationPending => .reconciliationPending
  | .reconciliationDlq => .reconciliationDlq
  | .sessionVersion sessionId => .sessionVersion sessionId

end StoreKey

/-- A list is told from what follows a separator that it has not. -/
theorem separated {α : Type} {mark : α} {first second rest other : List α} (one : mark ∉ first)
    (two : mark ∉ second) (same : first ++ mark :: rest = second ++ mark :: other) :
    first = second ∧ rest = other := by
  induction first generalizing second with
  | nil =>
    cases second with
    | nil => exact ⟨rfl, (List.cons.inj same).2⟩
    | cons head tail =>
      have own : mark = head := (List.cons.inj same).1
      exact absurd (own ▸ .head _) two
  | cons head tail ih =>
    cases second with
    | nil =>
      have own : head = mark := (List.cons.inj same).1
      exact absurd (own ▸ .head _) one
    | cons head' tail' =>
      obtain ⟨heads, tails⟩ := List.cons.inj same
      obtain ⟨rfl, ends⟩ := ih (fun member => one (.tail _ member)) (fun member => two (.tail _ member))
        tails
      exact ⟨by rw [heads], ends⟩

/-- Two names joined by a colon, of which the first has none. -/
theorem colon_joined {first second rest other : String} (one : ':' ∉ first.toList)
    (two : ':' ∉ second.toList) (same : first ++ ":" ++ rest = second ++ ":" ++ other) :
    first = second ∧ rest = other := by
  have chars : first.toList ++ ':' :: rest.toList = second.toList ++ ':' :: other.toList := by
    simpa using congrArg String.toList same
  obtain ⟨names, ends⟩ := separated one two chars
  exact ⟨String.toList_inj.mp names, String.toList_inj.mp ends⟩

theorem RateLimitScope.asStr_injective : Function.Injective RateLimitScope.asStr := by
  intro first second same
  cases first <;> cases second <;> first | rfl | exact absurd same (by decide)

theorem RateLimitScope.colon_not_mem (scope : RateLimitScope) : ':' ∉ scope.asStr.toList := by
  cases scope <;> decide

namespace StoreKey

variable {sha256Hex : String → String}

/-- Equal keys come from one builder and from ids that it does not tell apart. -/
theorem identity_of_redisKey {first second : StoreKey} (one : first.Accepted) (two : second.Accepted)
    (same : first.redisKey sha256Hex = second.redisKey sha256Hex) :
    first.identity sha256Hex = second.identity sha256Hex := by
  cases first with
  | nonce regionId requestId =>
    cases second with
    | nonce otherRegion otherRequest =>
      have names : regionId ++ ":" ++ requestId = otherRegion ++ ":" ++ otherRequest :=
        RedisKey.nonce.inj same
      obtain ⟨rfl, rfl⟩ := colon_joined (NonceStore.colon_not_mem one.1)
        (NonceStore.colon_not_mem two.1) names
      rfl
    | _ => cases same
  | rateLimit scope id =>
    cases second with
    | rateLimit otherScope otherId =>
      have names : scope.asStr ++ ":" ++ sha256Hex id = otherScope.asStr ++ ":" ++ sha256Hex otherId :=
        RedisKey.rateLimit.inj same
      obtain ⟨scopes, digests⟩ := colon_joined scope.colon_not_mem otherScope.colon_not_mem names
      rw [identity, identity, RateLimitScope.asStr_injective scopes, digests]
    | _ => cases same
  | _ =>
    cases second <;> first
      | (cases same; done)
      | rfl
      | simpa [redisKey, identity, SessionStore.userSessionCountKey, RefreshStore.key,
          RefreshStore.lockKey, OtpStore.key, WafFeedback.blockKey, WafFeedback.auditKey] using same

theorem identity_of_text {first second : StoreKey} (one : first.Accepted) (two : second.Accepted)
    (same : first.text sha256Hex = second.text sha256Hex) :
    first.identity sha256Hex = second.identity sha256Hex :=
  identity_of_redisKey one two (RedisKey.render_injective same)

end StoreKey

end BrainMate.Gateway
