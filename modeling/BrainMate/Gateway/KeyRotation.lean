import BrainMate.Gateway.KeyRevocation
import BrainMate.Interleaving.Completion

namespace BrainMate.Gateway.SigningKeys

open Interleaving System Program

namespace Issuer

section Rotation

variable {issuer : Issuer} {world last : World} {set : JwkSet} {kid token : String}
variable {key : issuer.verifier.DecodingKey} {claims : ClerkClaims}

variable (issuer) in
/-- All commands succeed, and the endpoint answers at once with the set. -/
abbrev Goes {α : Type} (set : JwkSet) (procedure : Procedure α) (world : World) (value : α)
    (last : World) : Prop :=
  procedure.Completes (issuer.execute (.answered 0 (.keys set))) (fun _ _ => true) world value last

variable (issuer) in
/-- The key that the cache has, if the set in it is not too old. -/
def cachedKey (world : World) (kid : String) : Option issuer.verifier.DecodingKey :=
  match alive world.clock world.jwks with
  | none => none
  | some cached =>
    if issuer.hardTtlSecs < world.clock / 1000 - cached.fetchedAt then none
    else issuer.decodeKeyFromSet cached.set kid

variable (issuer) in
/-- The world after a refresh. -/
def refreshed (set : JwkSet) (world : World) : World :=
  { world with
    jwks := some (⟨world.clock / 1000, set⟩, world.clock + issuer.hardTtlSecs * 1000) }

private theorem goes_ask {α : Type} {command : Command} {next : command.Reply → Procedure α}
    {value : α}
    (rest : issuer.Goes set (next (issuer.perform command world (.answered 0 (.keys set))).1)
      (issuer.perform command world (.answered 0 (.keys set))).2 value last) :
    issuer.Goes set (ask command >>= next) world value last := ⟨rfl, rest⟩

theorem goes_now {α : Type} {next : Nat → Procedure α} {value : α}
    (rest : issuer.Goes set (next (world.clock / 1000)) world value last) :
    issuer.Goes set (ask .nowUnixSecs >>= next) world value last := ⟨rfl, rest⟩

private theorem goes_lookup (set : JwkSet) (world : World) (kid : String) :
    issuer.Goes set (issuer.lookupCachedKey kid) world (.ok (issuer.cachedKey world kid)) world := by
  unfold lookupCachedKey cachedKey
  apply goes_ask
  simp only [perform]
  cases alive world.clock world.jwks with
  | none => exact ⟨rfl, rfl⟩
  | some cached =>
    apply goes_now
    by_cases old : issuer.hardTtlSecs < world.clock / 1000 - cached.fetchedAt
    · rw [if_pos old]
      exact ⟨congrArg Except.ok (if_pos old), rfl⟩
    · rw [if_neg old]
      exact ⟨congrArg Except.ok (if_neg old), rfl⟩

private theorem goes_refresh (serves : issuer.serves world.clock (.keys set) = true)
    (some_ : set ≠ []) :
    issuer.Goes set issuer.refreshAndCache world (.ok set) (issuer.refreshed set world) := by
  have answers : issuer.endpoint (.answered 0 (.keys set)) world.clock = some (.keys set) := by
    simp [endpoint, serves]
  have filled : ¬ set.isEmpty = true := by simpa using some_
  apply goes_ask
  simp only [perform, answers]
  rw [if_neg filled]
  exact ⟨rfl, rfl, rfl⟩

private theorem alive_of_lt {Value : Type} {clock deadline : Nat} {value : Value}
    (before : clock < deadline) : alive clock (some (value, deadline)) = some value :=
  Option.map_eq_some_iff.mpr ⟨(value, deadline),
    Option.filter_eq_some_iff.mpr ⟨rfl, decide_eq_true before⟩, rfl⟩

private theorem cachedKey_refreshed (ttl : 0 < issuer.hardTtlSecs) :
    issuer.cachedKey (issuer.refreshed set world) kid = issuer.decodeKeyFromSet set kid := by
  have kept : alive (issuer.refreshed set world).clock (issuer.refreshed set world).jwks =
      some ⟨world.clock / 1000, set⟩ := alive_of_lt (by simp only [refreshed]; omega)
  have young : ¬ issuer.hardTtlSecs < (issuer.refreshed set world).clock / 1000 - world.clock / 1000 := by
    simp only [refreshed]
    omega
  rw [cachedKey, kept]
  exact if_neg young

private theorem goes_cachedKey (named : (trim kid).isEmpty = false)
    (cached : issuer.cachedKey world kid = some key) :
    issuer.Goes set (issuer.getDecodingKey kid) world (.ok key) world := by
  have looked := @goes_lookup issuer set world kid
  rw [cached] at looked
  rw [getDecodingKey, if_neg (by simp [named])]
  exact completes_bind.mpr ⟨_, _, looked, rfl, rfl⟩

/-- Where the cache has no such key, the sets are fetched. -/
theorem goes_servedKey (serves : issuer.serves world.clock (.keys set) = true)
    (named : (trim kid).isEmpty = false) (found : issuer.decodeKeyFromSet set kid = some key)
    (cached : issuer.cachedKey world kid = none) :
    issuer.Goes set (issuer.getDecodingKey kid) world (.ok key) (issuer.refreshed set world) := by
  have filled : set ≠ [] := by
    rintro rfl
    cases found
  have looked := @goes_lookup issuer set world kid
  rw [cached] at looked
  rw [getDecodingKey, if_neg (by simp [named])]
  refine completes_bind.mpr ⟨_, _, looked, completes_bind.mpr ⟨_, _, looked,
    completes_bind.mpr ⟨_, _, goes_refresh serves filled, ?_⟩⟩⟩
  dsimp only
  rw [found]
  exact ⟨rfl, rfl⟩

/-- A token that the key in the cache does not verify gets another try with the served one. -/
theorem goes_retryDecode (ttl : 0 < issuer.hardTtlSecs)
    (serves : issuer.serves world.clock (.keys set) = true) (named : (trim kid).isEmpty = false)
    (found : issuer.decodeKeyFromSet set kid = some key)
    (decodes : issuer.verifier.decode issuer.verifier.validation key token (world.clock / 1000) =
      some claims) (accepted : issuer.verifier.acceptClaims claims = .ok claims) :
    issuer.Goes set (issuer.services.retryDecode kid token) world (.ok claims) (issuer.refreshed set world) := by
  have filled : set ≠ [] := by
    rintro rfl
    cases found
  have forced : issuer.Goes set issuer.forceRefresh world (.ok ()) (issuer.refreshed set world) :=
    completes_bind.mpr ⟨_, _, goes_refresh serves filled, rfl, rfl⟩
  have second := @goes_cachedKey _ (issuer.refreshed set world) set _ _ named
    ((cachedKey_refreshed ttl).trans found)
  refine completes_bind.mpr ⟨_, _, forced, completes_bind.mpr ⟨_, _, second, ?_⟩⟩
  apply goes_now
  have checked : issuer.verifier.decode issuer.verifier.validation key token
      ((issuer.refreshed set world).clock / 1000) = some claims := decodes
  rw [checked]
  exact ⟨accepted.symm, rfl⟩

/-- What the check of a token needs in order to accept it under the served key. -/
structure Good (issuer : Issuer) (set : JwkSet) (world : World) (token : String)
    (claims : ClerkClaims) : Prop where
  ttl : 0 < issuer.hardTtlSecs
  serves : issuer.serves world.clock (.keys set) = true
  hash : AuthCache.validateTokenHash (issuer.sha256Hex token) = .ok ()
  /-- The claims stand in the token, whatever key it is checked with. -/
  claimed : ∀ key other, issuer.verifier.decode issuer.verifier.validation key token
    (world.clock / 1000) = some other → other = claims
  signed : ∃ header kid key, issuer.verifier.decodeHeader token = some header ∧
    header.isRs256 = true ∧ header.kid = some kid ∧ (trim kid).isEmpty = false ∧
    issuer.decodeKeyFromSet set kid = some key ∧
    issuer.verifier.decode issuer.verifier.validation key token (world.clock / 1000) = some claims
  accepted : issuer.verifier.acceptClaims claims = .ok claims

/-- With the key from the cache, or after one more refresh with the one that is served. -/
theorem Good.goes_validateToken (good : Good issuer set world token claims) :
    ∃ last, last.clock = world.clock ∧
      issuer.Goes set (issuer.services.validateToken token) world (.ok claims) last := by
  obtain ⟨header, kid, key, decoded, rs256, named, visible, found, decodes⟩ := good.signed
  rw [Auth.Services.validateToken, decoded]
  dsimp only
  rw [if_neg (by simp [rs256]), named]
  cases cached : issuer.cachedKey world kid with
  | none =>
    have first := goes_servedKey good.serves visible found cached
    refine ⟨issuer.refreshed set world, rfl, completes_bind.mpr ⟨_, _, first, ?_⟩⟩
    apply goes_now
    have checked : issuer.verifier.decode issuer.verifier.validation key token
        ((issuer.refreshed set world).clock / 1000) = some claims := decodes
    rw [checked]
    exact ⟨good.accepted.symm, rfl⟩
  | some other =>
    have first := @goes_cachedKey _ _ set _ _ visible cached
    cases checked : issuer.verifier.decode issuer.verifier.validation other token
        (world.clock / 1000) with
    | some others =>
      obtain rfl := good.claimed other others checked
      refine ⟨world, rfl, completes_bind.mpr ⟨_, _, first, ?_⟩⟩
      apply goes_now
      rw [checked]
      exact ⟨good.accepted.symm, rfl⟩
    | none =>
      have retried := goes_retryDecode good.ttl good.serves visible found decodes good.accepted
      refine ⟨issuer.refreshed set world, rfl, completes_bind.mpr ⟨_, _, first, ?_⟩⟩
      apply goes_now
      rw [checked]
      exact retried

theorem Good.goes_validateAndCache (good : Good issuer set world token claims) :
    ∃ last, issuer.Goes set (issuer.services.validateAndCache (issuer.sha256Hex token) token) world (.ok (claims, .jwks)) last := by
  obtain ⟨between, -, checked⟩ := good.goes_validateToken
  have stored : ∃ last, issuer.Goes set (issuer.putClaims (issuer.sha256Hex token) claims) between
      (.ok ()) last := by
    rw [putClaims, good.hash]
    exact ⟨_, rfl, rfl, rfl⟩
  obtain ⟨last, stored⟩ := stored
  exact ⟨last, completes_bind.mpr ⟨_, _, checked, completes_bind.mpr ⟨_, _, stored, rfl, rfl⟩⟩⟩

/-- A token with a key that is served by now is accepted, whatever the caches hold: with its own
claims, or with those that are stored for it and still valid. -/
theorem served_key_accepted (good : Good issuer set world token claims) :
    ∃ accepted source last,
      issuer.Goes set (issuer.getOrValidateClaims token) world (.ok (accepted, source)) last ∧
      (source = .jwks → accepted = claims) ∧
      (source = .cache → alive world.clock (world.claims (issuer.sha256Hex token)) = some accepted ∧
        world.clock / 1000 < accepted.exp) := by
  have looked : issuer.Goes set (getClaims (issuer.sha256Hex token)) world
      (.ok (alive world.clock (world.claims (issuer.sha256Hex token)))) world := by
    rw [getClaims, good.hash]
    exact ⟨rfl, rfl, rfl⟩
  obtain ⟨last, validated⟩ := good.goes_validateAndCache
  cases stored : alive world.clock (world.claims (issuer.sha256Hex token)) with
  | none =>
    rw [stored] at looked
    exact ⟨claims, .jwks, last, completes_bind.mpr ⟨_, _, looked, validated⟩, fun _ => rfl,
      fun same => by cases same⟩
  | some cached =>
    rw [stored] at looked
    by_cases valid : world.clock / 1000 < cached.exp
    · refine ⟨cached, .cache, world, completes_bind.mpr ⟨_, _, looked, ?_⟩,
        (fun same => by cases same), fun _ => ⟨rfl, valid⟩⟩
      apply goes_now
      rw [if_pos valid]
      exact ⟨rfl, rfl⟩
    · refine ⟨claims, .jwks, last, completes_bind.mpr ⟨_, _, looked, ?_⟩, fun _ => rfl,
        fun same => by cases same⟩
      apply goes_now
      rw [if_neg valid]
      exact validated

/-- An issuer whose keys tell the tokens apart: a key is its modulus, and the token is signed with
the one that is served now. -/
def rotatedIssuer : Issuer where
  verifier := { Sample.verifier with
    DecodingKey := String
    signingKey kid :=
      if kid = "kid_1" then .ok "n_1" else .error (.unauthorized "Unknown signing key")
    decode validation key token now :=
      if key = "n_1" then Sample.verifier.decode validation () token now else none }
  fromRsaComponents n _ := some n
  sha256Hex := Sample.sha256Hex
  hardTtlSecs := 300
  requestTimeoutSecs := 10
  serves time response := decide (time < 7000 ∧ response = .keys [sampleJwk])

/-- The cache still has the key of this id from before the rotation. -/
def rotatedWorld : World :=
  { World.empty 5000 with jwks := some (⟨5, [{ sampleJwk with n := "n_0" }]⟩, 300000) }

/-- The token is not verified by the key from the cache, and is accepted after the refresh. -/
theorem rotated_key_accepted :
    rotatedIssuer.cachedKey rotatedWorld "kid_1" = some "n_0" ∧
      rotatedIssuer.verifier.decode rotatedIssuer.verifier.validation "n_0" Sample.bearerToken 5 =
        none ∧
      ∃ last, rotatedIssuer.Goes [sampleJwk] (rotatedIssuer.getOrValidateClaims Sample.bearerToken)
        rotatedWorld (.ok (Sample.claims, .jwks)) last := by
  have good : Good rotatedIssuer [sampleJwk] rotatedWorld Sample.bearerToken Sample.claims := by
    refine ⟨by decide, by decide, by decide +kernel, fun (key : String) other decoded => ?_,
      ⟨⟨true, some "kid_1"⟩, "kid_1", "n_1", rfl, rfl, rfl, rfl, rfl, by decide +kernel⟩, rfl⟩
    change (if key = "n_1" then if Sample.bearerToken = Sample.bearerToken ∧
      5000 / 1000 ≤ Sample.claims.exp + 10 then some Sample.claims else none else none) =
        some other at decoded
    split at decoded
    · split at decoded
      · exact (Option.some.inj decoded).symm
      · cases decoded
    · cases decoded
  refine ⟨rfl, rfl, ?_⟩
  obtain ⟨accepted, source, last, goes, validated, cached⟩ := served_key_accepted good
  cases source with
  | jwks => exact ⟨last, validated rfl ▸ goes⟩
  | cache => cases (cached rfl).1

end Rotation

end Issuer

end BrainMate.Gateway.SigningKeys
