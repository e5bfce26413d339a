import BrainMate.Gateway.Clients
import BrainMate.Gateway.SigningKeys
import BrainMate.Interleaving.Issuing

namespace BrainMate.Gateway.SigningKeys

open Interleaving System

namespace Issuer

variable (issuer : Issuer)

/-- The claims are those of the token under a key for signatures that was served at this moment. -/
structure Vouches (token : String) (claims : ClerkClaims) (served : Nat) : Prop where
  evidence : ∃ set jwk kid header key now, issuer.serves served (.keys set) = true ∧ jwk ∈ set ∧
    isSigningKey kid jwk = true ∧ issuer.fromRsaComponents jwk.n jwk.e = some key ∧
    issuer.verifier.decodeHeader token = some header ∧ header.isRs256 = true ∧
    header.kid = some kid ∧
    issuer.verifier.decode issuer.verifier.validation key token now = some claims
  accepted : issuer.verifier.acceptClaims claims = .ok claims

/-- How long a key may live on in the caches, in seconds. -/
def keySecs : Nat := issuer.requestTimeoutSecs + issuer.hardTtlSecs + 1

def claimsSecs : Nat := issuer.keySecs + issuer.requestTimeoutSecs + issuer.verifier.authCacheTtlSecs

/-- The stamp is at most the timeout behind the moment at which the set was served. -/
def Stamped (payload : CachedJwks) : Prop :=
  ∃ served, issuer.serves served (.keys payload.set) = true ∧
    payload.fetchedAt * 1000 ≤ served + issuer.requestTimeoutSecs * 1000

/-- Claims of this hash may be used before the moment. -/
def Cacheable (tokenHash : String) (claims : ClerkClaims) (before : Nat) : Prop :=
  ∃ token served, issuer.sha256Hex token = tokenHash ∧ issuer.Vouches token claims served ∧
    before ≤ served + issuer.claimsSecs * 1000

structure Sound (world : World) : Prop where
  jwks : ∀ payload deadline, world.jwks = some (payload, deadline) → issuer.Stamped payload
  claims : ∀ tokenHash claims deadline, world.claims tokenHash = some (claims, deadline) →
    issuer.Cacheable tokenHash claims deadline

/-- What is stored in the caches is what may be stored there. -/
def Proper : Timed → Prop
  | .within _ (.setJwks payload _) => issuer.Stamped payload
  | .within deadline (.putClaims tokenHash claims ttlSecs) =>
    ∃ limit, deadline = some limit ∧ issuer.Cacheable tokenHash claims (limit + ttlSecs * 1000)
  | _ => True

/-- What replies say to a request that arrived at `start`. -/
def Told (start : Nat) : (command : Command) → command.Reply → Prop
  | .getJwks, reply => ∀ payload, reply = .ok (some payload) → issuer.Stamped payload
  | .fetchJwks, reply => start / 1000 ≤ reply.2 ∧
      ∀ set, reply.1 = some (.keys set) → issuer.Stamped ⟨reply.2, set⟩
  | .getClaims tokenHash, reply => ∀ claims, reply = .ok (some claims) →
      issuer.Cacheable tokenHash claims (start + 1)
  | .nowUnixSecs, reply => start / 1000 ≤ reply
  | .setJwks _ _, _ | .putClaims _ _ _, _ => True

def ToldTimed (start : Nat) : (timed : Timed) → timed.Reply → Prop
  | .arrive, _ => True
  | .within _ command, reply => ∀ answer, reply = some answer → issuer.Told start command answer

variable {issuer} {world : World}

private theorem of_alive {Value : Type} {clock : Nat} {entry : Option (Value × Nat)} {value : Value}
    (found : alive clock entry = some value) :
    ∃ deadline, entry = some (value, deadline) ∧ clock < deadline := by
  obtain ⟨⟨stored, deadline⟩, kept, rfl⟩ := Option.map_eq_some_iff.mp found
  obtain ⟨rfl, before⟩ := Option.filter_eq_some_iff.mp kept
  exact ⟨deadline, rfl, of_decide_eq_true before⟩

theorem Sound.put_jwks {payload : CachedJwks} {deadline : Nat} (sound : issuer.Sound world)
    (stamped : issuer.Stamped payload) :
    issuer.Sound { world with jwks := some (payload, deadline) } := by
  refine ⟨fun stored _ same => ?_, sound.claims⟩
  cases same
  exact stamped

theorem Sound.put_claims {tokenHash : String} {claims : ClerkClaims} {deadline : Nat}
    (sound : issuer.Sound world) (cacheable : issuer.Cacheable tokenHash claims deadline) :
    issuer.Sound { world with
      claims := Function.update world.claims tokenHash (some (claims, deadline)) } := by
  refine ⟨sound.jwks, fun other stored until_ same => ?_⟩
  by_cases here : other = tokenHash
  · subst here
    simp only [Function.update_self] at same
    cases same
    exact cacheable
  · simp only [Function.update_of_ne here] at same
    exact sound.claims other stored until_ same

theorem Cacheable.earlier {tokenHash : String} {claims : ClerkClaims} {before sooner : Nat}
    (cacheable : issuer.Cacheable tokenHash claims before) (le : sooner ≤ before) :
    issuer.Cacheable tokenHash claims sooner := by
  obtain ⟨token, served, hashes, vouches, bound⟩ := cacheable
  exact ⟨token, served, hashes, vouches, le.trans bound⟩

theorem Sound.perform {command : Command} {outcome : Outcome} {deadline : Option Nat}
    (sound : issuer.Sound world) (proper : issuer.Proper (.within deadline command))
    (inTime : ∀ limit, deadline = some limit → world.clock ≤ limit) :
    issuer.Sound (issuer.perform command world outcome).2 := by
  cases command with
  | setJwks payload ttlSecs => exact sound.put_jwks proper
  | putClaims tokenHash claims ttlSecs =>
    obtain ⟨limit, rfl, cacheable⟩ := proper
    exact sound.put_claims (cacheable.earlier (Nat.add_le_add_right (inTime limit rfl) _))
  | getJwks | fetchJwks | getClaims | nowUnixSecs => exact sound

theorem Sound.exec {timed : Timed} (outcome : Outcome) (sound : issuer.Sound world)
    (proper : issuer.Proper timed) : issuer.Sound (issuer.exec outcome timed world).2 := by
  cases timed with
  | arrive => exact sound
  | within deadline command =>
    simp only [Issuer.exec]
    split
    · exact sound
    · rename_i late
      have inTime (limit : Nat) (same : deadline = some limit) : world.clock ≤ limit := by
        subst same
        simpa using late
      cases outcome with
      | done => exact sound.perform proper inTime
      | answered lag response => exact sound.perform proper inTime
      | failed error => exact sound
      | lost error => exact sound.perform proper inTime

theorem Sound.occur (event : Event) (sound : issuer.Sound world) :
    issuer.Sound (occur event world) := by
  cases event with
  | tick => exact ⟨sound.jwks, sound.claims⟩
  | dropJwks => exact ⟨fun _ _ same => (by cases same), sound.claims⟩
  | dropClaims tokenHash =>
    refine ⟨sound.jwks, fun other stored deadline same => ?_⟩
    by_cases here : other = tokenHash
    · subst here
      simp only [SigningKeys.occur, Function.update_self] at same
      cases same
    · simp only [SigningKeys.occur, Function.update_of_ne here] at same
      exact sound.claims other stored deadline same

private theorem stamped_of_endpoint {outcome : Outcome} {clock : Nat} {set : JwkSet}
    (answered : issuer.endpoint outcome clock = some (.keys set)) :
    issuer.Stamped ⟨clock / 1000, set⟩ := by
  cases outcome with
  | answered lag response =>
    simp only [endpoint] at answered
    split at answered
    · rename_i served
      obtain ⟨inTime, past, serves⟩ := served
      cases Option.some.inj answered
      refine ⟨clock - lag, serves, ?_⟩
      simp only
      omega
    · cases answered
  | done | failed | lost => cases answered

theorem Sound.told {start : Nat} {command : Command} (outcome : Outcome)
    (sound : issuer.Sound world) (started : start ≤ world.clock) :
    issuer.Told start command (issuer.execute outcome command world).1 := by
  have told : issuer.Told start command (issuer.perform command world outcome).1 := by
    cases command with
    | getJwks =>
      intro payload same
      obtain ⟨deadline, stored, -⟩ := of_alive (Except.ok.inj same)
      exact sound.jwks payload deadline stored
    | fetchJwks => exact ⟨Nat.div_le_div_right started, fun set same => stamped_of_endpoint same⟩
    | getClaims tokenHash =>
      intro claims same
      obtain ⟨deadline, stored, before⟩ := of_alive (Except.ok.inj same)
      exact (sound.claims tokenHash claims deadline stored).earlier (by omega)
    | nowUnixSecs => exact Nat.div_le_div_right started
    | setJwks | putClaims => trivial
  have failing (error : RedisLayerError) :
      issuer.Told start command (failure error command world) := by
    cases command with
    | getJwks => exact fun payload same => by cases same
    | fetchJwks => exact ⟨Nat.div_le_div_right started, fun set same => by cases same⟩
    | getClaims tokenHash => exact fun claims same => by cases same
    | nowUnixSecs => exact Nat.div_le_div_right started
    | setJwks | putClaims => trivial
  cases outcome with
  | done => exact told
  | answered lag response => exact told
  | failed error => exact failing error
  | lost error => exact failing error

theorem Sound.toldTimed {start : Nat} {timed : Timed} (outcome : Outcome)
    (sound : issuer.Sound world) (started : start ≤ world.clock) :
    issuer.ToldTimed start timed (issuer.exec outcome timed world).1 := by
  cases timed with
  | arrive => trivial
  | within deadline command =>
    simp only [Issuer.exec]
    split
    · exact fun answer same => by cases same
    · exact fun answer same => Option.some.inj same ▸ sound.told outcome started

section Procedures

variable {start : Nat} {deadline : Option Nat} {kid token : String}

variable (issuer) in
/-- A procedure of a request that arrived at `start` keeps the caches sound, and ends like that. -/
abbrev Obeys {α : Type} (start : Nat) (deadline : Option Nat) (ends : α → Prop)
    (procedure : Procedure α) : Prop :=
  procedure.Obeys (fun command => issuer.Proper (.within deadline command)) (issuer.Told start) ends

variable (issuer) in
/-- The key was served not too long before `start`. -/
def Usable (start : Nat) (kid : String) (key : issuer.verifier.DecodingKey) : Prop :=
  ∃ served set jwk, issuer.serves served (.keys set) = true ∧ jwk ∈ set ∧
    isSigningKey kid jwk = true ∧ issuer.fromRsaComponents jwk.n jwk.e = some key ∧
    start < served + issuer.keySecs * 1000

variable (issuer) in
/-- The token has such claims under a usable key. -/
def Verified (start : Nat) (token : String) (claims : ClerkClaims) : Prop :=
  ∃ served, issuer.Vouches token claims served ∧ start < served + issuer.keySecs * 1000

theorem obeys_ask {α : Type} {ends : α → Prop} {command : Command}
    {next : command.Reply → Procedure α} (proper : issuer.Proper (.within deadline command))
    (rest : ∀ reply, issuer.Told start command reply → issuer.Obeys start deadline ends (next reply)) :
    issuer.Obeys start deadline ends (ask command >>= next) := ⟨proper, rest⟩

theorem Stamped.usable {payload : CachedJwks} {key : issuer.verifier.DecodingKey}
    (stamped : issuer.Stamped payload) (found : issuer.decodeKeyFromSet payload.set kid = some key)
    (young : start / 1000 ≤ payload.fetchedAt + issuer.hardTtlSecs) : issuer.Usable start kid key := by
  obtain ⟨served, serves, bound⟩ := stamped
  obtain ⟨jwk, first, decodes⟩ := Option.bind_eq_some_iff.mp found
  refine ⟨served, payload.set, jwk, serves, List.mem_of_find?_eq_some first,
    List.find?_some first, decodes, ?_⟩
  unfold keySecs
  omega

private theorem refreshAndCache_obeys : issuer.Obeys start deadline
    (fun answer => ∀ set, answer = .ok set → ∃ stamp, start / 1000 ≤ stamp ∧ issuer.Stamped ⟨stamp, set⟩)
    issuer.refreshAndCache := by
  apply obeys_ask
  · trivial
  rintro ⟨response, arrived⟩ ⟨started, told⟩
  dsimp only
  split
  · exact fun set same => by cases same
  · exact fun set same => by cases same
  · exact fun set same => by cases same
  · rename_i set
    have stamped := told set rfl
    split
    · exact fun set same => by cases same
    · apply obeys_ask
      · exact stamped
      · rintro (error | _) _
        · exact fun set same => by cases same
        · intro other same
          cases same
          exact ⟨arrived, started, stamped⟩

private theorem lookupCachedKey_obeys : issuer.Obeys start deadline
    (fun answer => ∀ key, answer = .ok (some key) → issuer.Usable start kid key)
    (issuer.lookupCachedKey kid) := by
  apply obeys_ask
  · trivial
  rintro (error | _ | cached) told
  · exact fun key same => by cases same
  · exact fun key same => by cases same
  · apply obeys_ask
    · trivial
    intro (now : Nat) started
    have arrived : start / 1000 ≤ now := started
    split
    · exact fun key same => by cases same
    · rename_i young
      intro key same
      exact (told cached rfl).usable (Except.ok.inj same) (by omega)

private theorem getDecodingKey_obeys : issuer.Obeys start deadline
    (fun answer => ∀ key, answer = .ok key → issuer.Usable start kid key)
    (issuer.getDecodingKey kid) := by
  unfold getDecodingKey
  split
  · exact fun key same => by cases same
  · apply lookupCachedKey_obeys.bind
    rintro (error | _ | key) first
    · exact fun key same => by cases same
    · apply lookupCachedKey_obeys.bind
      rintro (error | _ | key) second
      · exact fun key same => by cases same
      · apply refreshAndCache_obeys.bind
        rintro (error | fetched) refreshed
        · exact fun key same => by cases same
        · obtain ⟨stamp, started, stamped⟩ := refreshed fetched rfl
          dsimp only
          split
          · rename_i key found
            intro other same
            cases same
            exact stamped.usable found (Nat.le_add_right_of_le started)
          · exact fun key same => by cases same
      · intro other same
        cases same
        exact second key rfl
    · intro other same
      cases same
      exact first key rfl

private theorem forceRefresh_obeys :
    issuer.Obeys start deadline (fun _ => True) issuer.forceRefresh := by
  apply refreshAndCache_obeys.bind
  rintro (error | fetched) _ <;> trivial

/-- What is decoded with a usable key and accepted is verified. -/
theorem Usable.verified {key : issuer.verifier.DecodingKey} {header : Auth.JwtHeader} {now : Nat}
    {claims : ClerkClaims} (usable : issuer.Usable start kid key)
    (decoded : issuer.verifier.decodeHeader token = some header) (rs256 : header.isRs256 = true)
    (named : header.kid = some kid)
    (decodes : issuer.verifier.decode issuer.verifier.validation key token now = some claims)
    (accepted : issuer.verifier.acceptClaims claims = .ok claims) :
    issuer.Verified start token claims := by
  obtain ⟨served, set, jwk, serves, member, signs, made, recent⟩ := usable
  exact ⟨served, ⟨⟨set, jwk, kid, header, key, now, serves, member, signs, made, decoded, rs256, named,
    decodes⟩, accepted⟩, recent⟩

/-- The checks hand on the claims that they are given. -/
theorem acceptClaims_ok {claims accepted : ClerkClaims}
    (passes : issuer.verifier.acceptClaims claims = .ok accepted) : accepted = claims := by
  unfold Auth.Verifier.acceptClaims at passes
  split at passes
  · cases passes
  · split at passes
    · cases passes
    · split at passes
      · cases passes
      · exact (Except.ok.inj passes).symm

private theorem verified_of_decode {key : issuer.verifier.DecodingKey} {header : Auth.JwtHeader}
    {now : Nat}
    {claims : ClerkClaims} (usable : issuer.Usable start kid key)
    (decoded : issuer.verifier.decodeHeader token = some header) (rs256 : header.isRs256 = true)
    (named : header.kid = some kid)
    (decodes : issuer.verifier.decode issuer.verifier.validation key token now = some claims) :
    ∀ accepted, issuer.verifier.acceptClaims claims = .ok accepted →
      issuer.Verified start token accepted := by
  intro accepted passes
  obtain rfl := acceptClaims_ok passes
  exact usable.verified decoded rs256 named decodes passes

private theorem retryDecode_obeys {header : Auth.JwtHeader}
    (decoded : issuer.verifier.decodeHeader token = some header) (rs256 : header.isRs256 = true)
    (named : header.kid = some kid) : issuer.Obeys start deadline
      (fun answer => ∀ claims, answer = .ok claims → issuer.Verified start token claims)
      (issuer.services.retryDecode kid token) := by
  apply forceRefresh_obeys.bind
  rintro (error | _) _
  · exact fun claims same => by cases same
  · apply getDecodingKey_obeys.bind
    rintro (error | key) usable
    · exact fun claims same => by cases same
    · apply obeys_ask
      · trivial
      intro now _
      split
      · exact fun claims same => by cases same
      · rename_i claims decodes
        exact verified_of_decode (usable key rfl) decoded rs256 named decodes

private theorem validateToken_obeys : issuer.Obeys start deadline
    (fun answer => ∀ claims, answer = .ok claims → issuer.Verified start token claims)
    (issuer.services.validateToken token) := by
  unfold Auth.Services.validateToken
  split
  · exact fun claims same => by cases same
  · rename_i header decoded
    split
    · exact fun claims same => by cases same
    · rename_i unsupported
      have rs256 : header.isRs256 = true := by simpa using unsupported
      split
      · exact fun claims same => by cases same
      · rename_i kid named
        apply getDecodingKey_obeys.bind
        rintro (error | key) usable
        · exact fun claims same => by cases same
        · apply obeys_ask
          · trivial
          intro now _
          split
          · rename_i claims decodes
            exact verified_of_decode (usable key rfl) decoded rs256 named decodes
          · exact retryDecode_obeys decoded rs256 named

theorem Verified.cacheable {claims : ClerkClaims} (verified : issuer.Verified start token claims) :
    issuer.Cacheable (issuer.sha256Hex token) claims
      (start + issuer.requestTimeoutSecs * 1000 + issuer.verifier.authCacheTtlSecs * 1000) := by
  obtain ⟨served, vouches, recent⟩ := verified
  refine ⟨token, served, rfl, vouches, ?_⟩
  unfold claimsSecs
  omega

private theorem getClaims_obeys {tokenHash : String} : issuer.Obeys start deadline
    (fun answer => ∀ claims, answer = .ok (some claims) →
      issuer.Cacheable tokenHash claims (start + 1)) (getClaims tokenHash) := by
  unfold getClaims
  split
  · exact fun claims same => by cases same
  · apply obeys_ask
    · trivial
    rintro (error | cached) told
    · exact fun claims same => by cases same
    · exact fun claims same => told claims (congrArg Except.ok (Except.ok.inj same))

private theorem putClaims_obeys {claims : ClerkClaims}
    (verified : issuer.Verified start token claims) :
    issuer.Obeys start (some (start + issuer.requestTimeoutSecs * 1000)) (fun _ => True)
      (issuer.putClaims (issuer.sha256Hex token) claims) := by
  unfold putClaims
  split
  · trivial
  · apply obeys_ask
    · exact ⟨_, rfl, verified.cacheable⟩
    rintro (error | _) _ <;> trivial

variable (issuer) in
/-- What stands behind claims that are given to a request. -/
def Accepted (start : Nat) (token : String) (claims : ClerkClaims) :
    Auth.Verifier.ClaimsSource → Prop
  | .jwks => issuer.Verified start token claims
  | .cache => issuer.Cacheable (issuer.sha256Hex token) claims (start + 1) ∧ start / 1000 < claims.exp

private theorem validateAndCache_obeys :
    issuer.Obeys start (some (start + issuer.requestTimeoutSecs * 1000))
      (fun answer => ∀ claims source, answer = .ok (claims, source) →
        issuer.Accepted start token claims source) 
      (issuer.services.validateAndCache (issuer.sha256Hex token) token) := by
  apply validateToken_obeys.bind
  rintro (error | claims) verified
  · exact fun claims source same => by cases same
  · apply (putClaims_obeys (verified claims rfl)).bind
    rintro (error | _) _
    · exact fun claims source same => by cases same
    · intro other source same
      cases same
      exact verified claims rfl

private theorem getOrValidateClaims_obeys :
    issuer.Obeys start (some (start + issuer.requestTimeoutSecs * 1000))
      (fun answer => ∀ claims source, answer = .ok (claims, source) →
        issuer.Accepted start token claims source) (issuer.getOrValidateClaims token) := by
  apply getClaims_obeys.bind
  rintro (error | _ | cached) cacheable
  · exact fun claims source same => by cases same
  · exact validateAndCache_obeys
  · apply obeys_ask
    · trivial
    intro (now : Nat) started
    have arrived : start / 1000 ≤ now := started
    split
    · rename_i valid
      intro claims source same
      cases same
      exact ⟨cacheable cached rfl, lt_of_le_of_lt arrived valid⟩
    · exact validateAndCache_obeys

/-- A procedure that is dropped in between has done nothing else until then. -/
theorem obeys_limited {α : Type} {ends : α → Prop} {procedure : Procedure α}
    (obeys : issuer.Obeys start deadline ends procedure) :
    (limited deadline procedure).Obeys issuer.Proper (issuer.ToldTimed start)
      (fun answer => ∀ value, answer = some value → ends value) := by
  induction procedure with
  | done value => exact fun other same => Option.some.inj same ▸ obeys
  | call command next ih =>
    rw [limited, Program.Obeys]
    refine ⟨obeys.1, ?_⟩
    rintro (_ | reply) told
    · exact fun value same => by cases same
    · exact ih reply (obeys.2 reply (told reply rfl))

end Procedures

section Runs

variable (issuer) in
def rules : issuer.system.Rules where
  admits _ _ _ := True
  occurs _ _ := True
  ensures _ timed _ := issuer.Proper timed

variable (issuer) in
/-- The caches are sound, and it is not earlier than this. -/
def SoundSince (start : Nat) (world : World) : Prop := start ≤ world.clock ∧ issuer.Sound world

private theorem clock_exec (outcome : Outcome) (timed : Timed) (world : World) :
    (issuer.exec outcome timed world).2.clock = world.clock := by
  cases timed with
  | arrive => rfl
  | within deadline command =>
    simp only [Issuer.exec]
    split
    · rfl
    · cases outcome <;> cases command <;> rfl

private theorem clock_occur (event : Event) (world : World) :
    world.clock ≤ (occur event world).clock := by
  cases event with
  | tick => exact Nat.le_succ _
  | dropJwks | dropClaims => exact le_refl _

theorem stable_soundSince (start : Nat) : issuer.rules.Stable (issuer.SoundSince start) := by
  refine ⟨fun world timed outcome _ proper holds => ?_, fun world event _ holds => ?_⟩
  · exact ⟨holds.1.trans_eq (clock_exec outcome timed world).symm, holds.2.exec outcome proper⟩
  · exact ⟨holds.1.trans (clock_occur event world), holds.2.occur event⟩

/-- The commands of a request or task, under its own start. -/
theorem outline_of_obeys {α : Type} {ends : α → Prop} {start : Nat}
    {program : Program Timed Timed.Reply α}
    (obeys : program.Obeys issuer.Proper (issuer.ToldTimed start) ends) :
    issuer.rules.Outline (issuer.SoundSince start) (fun value _ => ends value) program :=
  .obeys (stable_soundSince start)
    (fun _ _ outcome holds _ proper => ⟨proper, holds.2.toldTimed outcome holds.1⟩) obeys

/-- What a request is given once it has arrived. -/
def Given (issuer : Issuer) (start : Nat) (token : String) :
    Option (Except ApiError (ClerkClaims × Auth.Verifier.ClaimsSource)) → Prop :=
  fun answer => ∀ claims source, answer = some (.ok (claims, source)) →
    ∃ arrived, start ≤ arrived ∧ issuer.Accepted arrived token claims source

theorem validate_outline (start : Nat) (token : String) :
    issuer.rules.Outline (issuer.SoundSince start) (fun answer _ => Given issuer start token answer)
      (issuer.program (.validate token)) := by
  -- the moment of the arrival is one that has been reached
  refine ⟨fun arrived world => start ≤ arrived ∧ issuer.SoundSince arrived world,
    fun arrived => (Rules.Stable.pure _).and (stable_soundSince arrived), ?_, fun arrived => ?_⟩
  · exact fun world outcome holds _ => ⟨trivial, holds.1, le_refl _, holds.2⟩
  · by_cases later : start ≤ arrived
    · refine ((outline_of_obeys (obeys_limited getOrValidateClaims_obeys)).strengthen
        fun world holds => holds.2).weaken fun answer world given claims source same => ?_
      exact ⟨arrived, later, given _ same claims source rfl⟩
    · exact .absurd (fun world holds => later holds.1) _

private theorem outline_program (start : Nat) (call : Call) :
    issuer.rules.Outline (issuer.SoundSince start) (fun _ _ => True) (issuer.program call) := by
  cases call with
  | validate token => exact (validate_outline start token).weaken fun _ _ _ => trivial
  | refresh =>
    exact (outline_of_obeys (obeys_limited forceRefresh_obeys)).weaken fun _ _ _ => trivial

private theorem sound_empty (clock : Nat) : issuer.Sound (World.empty clock) :=
  ⟨fun _ _ stored => (by cases stored), fun _ _ _ stored => (by cases stored)⟩

/-- A request that is given claims arrives before the last key that vouches for them has run out:
the timeout, the hard TTL and the second of the stamps after that key was served, and where the
claims come from the cache, another timeout and its TTL later. -/
theorem keys_run_out {clock client : Nat} {before after : List issuer.system.Action}
    {config last : issuer.system.Config} {token : String} {claims : ClerkClaims}
    {source : Auth.Verifier.ClaimsSource}
    (earlier : Run (fun _ _ => True) (.initial (World.empty clock)) before config)
    (run : Run (fun _ _ => True) config after last) (idle : config.threads client = .idle)
    (answered : last.threads client = .returned (.validate token)
      (some (Except.ok (claims, source)))) :
    ∃ signed served, issuer.sha256Hex signed = issuer.sha256Hex token ∧
      issuer.Vouches signed claims served ∧
      config.world.clock < served + issuer.claimsSecs * 1000 ∧
      (source = .jwks → signed = token ∧ config.world.clock < served + issuer.keySecs * 1000) ∧
      (source = .cache → config.world.clock / 1000 < claims.exp) := by
  have governs : issuer.rules.Governs fun _ _ => True := by
    intro config action _
    cases action with
    | start => trivial
    | environment => trivial
    | step client outcome =>
      simp only [Rules.permits]
      split <;> trivial
  have annotated : Annotated issuer.rules (.initial (World.empty clock)) :=
    fun _ _ _ running => by cases running
  obtain ⟨sound, between⟩ := earlier.annotated governs (stable_soundSince 0) (outline_program 0)
    annotated ⟨Nat.zero_le _, sound_empty clock⟩
  have given : Given issuer config.world.clock token (some (Except.ok (claims, source))) :=
    run.ensured_outline (fun answer _ => Given issuer config.world.clock token answer) governs
      (stable_soundSince config.world.clock) (fun _ call _ => outline_program _ call) between
      ⟨le_refl _, sound.2⟩ (validate_outline _ token) (fun _ => .pure _) idle answered
  obtain ⟨arrived, later, accepted⟩ := given claims source rfl
  cases source with
  | jwks =>
    obtain ⟨served, vouches, recent⟩ := accepted
    refine ⟨token, served, rfl, vouches, ?_, fun _ => ⟨rfl, by omega⟩, fun same => by cases same⟩
    unfold claimsSecs
    omega
  | cache =>
    obtain ⟨⟨signed, served, hashes, vouches, recent⟩, valid⟩ := accepted
    refine ⟨signed, served, hashes, vouches, by omega, (fun same => by cases same), fun _ => ?_⟩
    exact lt_of_le_of_lt (Nat.div_le_div_right later) valid

end Runs

def sampleJwk : Jwk := ⟨"kid_1", "RSA", some "sig", some "RS256", "n_1", "AQAB"⟩

/-- The key is served for seven seconds. -/
def sampleIssuer : Issuer where
  verifier := Sample.verifier
  fromRsaComponents n e := if n = "n_1" ∧ e = "AQAB" then some () else none
  sha256Hex := Sample.sha256Hex
  hardTtlSecs := 300
  requestTimeoutSecs := 10
  serves time response := decide (time < 7000 ∧ response = .keys [sampleJwk])

def sampleRun : List sampleIssuer.system.Action :=
  [.start 0 (.validate Sample.bearerToken), .step 0 .done, .step 0 .done, .step 0 .done, .step 0 .done,
    .step 0 (.answered 1500 (.keys [sampleJwk])), .step 0 .done, .step 0 .done, .step 0 .done]

def answersWithClaims : sampleIssuer.system.Thread → Bool
  | .returned (.validate token) (some (.ok (claims, .jwks))) =>
    token == Sample.bearerToken && claims == Sample.claims
  | _ => false

private theorem eq_of_answersWithClaims {thread : sampleIssuer.system.Thread}
    (answers : answersWithClaims thread = true) : thread = .returned (.validate Sample.bearerToken)
      (some (Except.ok (Sample.claims, Auth.Verifier.ClaimsSource.jwks))) := by
  unfold answersWithClaims at answers
  split at answers
  · rw [Bool.and_eq_true, beq_iff_eq, beq_iff_eq] at answers
    obtain ⟨rfl, rfl⟩ := answers
    rfl
  · cases answers

theorem sample_keys_run_out : ∃ last signed served,
    Run (fun _ _ => True) (.initial (World.empty 8000)) sampleRun last ∧
    answersWithClaims (last.threads 0) = true ∧ sampleIssuer.Vouches signed Sample.claims served ∧
    8000 < served + 366 * 1000 := by
  have reached : ∃ last, Run (fun _ _ => True) (.initial (World.empty 8000)) sampleRun last ∧
      answersWithClaims (last.threads 0) = true := by
    apply Run.of_runsTo
    decide +kernel
  obtain ⟨last, run, answers⟩ := reached
  obtain ⟨signed, served, -, vouches, recent, -⟩ :=
    keys_run_out .refl run rfl (eq_of_answersWithClaims answers)
  exact ⟨last, signed, served, run, answers, vouches, recent⟩

end Issuer

end BrainMate.Gateway.SigningKeys
