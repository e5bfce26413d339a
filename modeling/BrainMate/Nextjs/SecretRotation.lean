import Mathlib.Data.List.Nodup
import Mathlib.Logic.Function.Basic

/-! `lib/secrets.ts`: secrets that are cached and refreshed from a cloud provider, and the check
that reports which of them were rotated. -/

namespace BrainMate.Nextjs.SecretRotation

inductive SecretProvider where
  | env
  | awsSm
  | gcpSm
  deriving DecidableEq

structure CachedSecret where
  value : String
  fetchedAt : Int

/-- 5 minutes. -/
def cacheTtlMs : Int := 5 * 60 * 1000

/-- The keys of `SECRET_MAPPING`. -/
def secretMapping : List String :=
  ["INTERNAL_API_TOKEN", "OTP_PEPPER", "CLERK_SECRET_KEY", "REDIS_URL"]

structure Config where
  provider : SecretProvider
  /-- `process.env` -/
  env : String → Option String

/-- One use of the provider: the time when the cache is asked, what comes back, null where it
failed, and the time when that is stored. -/
structure Fetch where
  askedAt : Int
  result : Option String
  storedAt : Int

structure State where
  secretCache : String → Option CachedSecret
  /-- What the provider itself has last returned. The code keeps no such record. -/
  returned : String → Option String

def State.empty : State where
  secretCache _ := none
  returned _ := none

/-- An empty value counts as none. -/
def usable (value : Option String) : Option String := value.filter fun value => value ≠ ""

def fallback (config : Config) (name : String) : String := (config.env name).getD ""

def fetched (config : Config) (name : String) (fetch : Fetch) : Option String :=
  match config.provider with
  | .awsSm | .gcpSm => fetch.result
  | .env => config.env name

/-- What `getSecretWithOptions` does where the cache does not answer. -/
def refresh (config : Config) (state : State) (name : String) (fetch : Fetch) : String × State :=
  let value := (usable (fetched config name fetch)).getD (fallback config name)
  (value, {
    secretCache := Function.update state.secretCache name (some ⟨value, fetch.storedAt⟩)
    returned :=
      Function.update state.returned name ((usable fetch.result).or (state.returned name)) })

/-- The cache answers. -/
def fresh (state : State) (name : String) (forceRefresh : Bool) (askedAt : Int) :
    Option CachedSecret :=
  (state.secretCache name).filter fun cached =>
    !forceRefresh && askedAt - cached.fetchedAt < cacheTtlMs

def getSecretWithOptions (config : Config) (state : State) (name : String) (forceRefresh : Bool)
    (fetch : Fetch) : String × State :=
  match fresh state name forceRefresh fetch.askedAt with
  | some cached => (cached.value, state)
  | none => refresh config state name fetch

/-- The loop of `checkRotation`. -/
def checkNames (config : Config) (fetches : String → Fetch) :
    List String → State → List String × State
  | [], state => ([], state)
  | name :: names, state =>
    match state.secretCache name with
    | none => checkNames config fetches names state
    | some cached =>
      let (current, next) := getSecretWithOptions config state name true (fetches name)
      let (rotated, last) := checkNames config fetches names next
      (if current ≠ cached.value then name :: rotated else rotated, last)

def checkRotation (config : Config) (state : State) (fetches : String → Fetch) :
    List String × State :=
  if config.provider = .env then ([], state) else checkNames config fetches secretMapping state

def invalidateSecret (state : State) (name : String) : State :=
  { state with secretCache := Function.update state.secretCache name none }

inductive Call where
  | getSecret (name : String) (forceRefresh : Bool) (fetch : Fetch)
  | checkRotation (fetches : String → Fetch)
  | invalidateSecret (name : String)

/-- The names that a call reports, and the state after it. -/
def perform (config : Config) (state : State) : Call → List String × State
  | .getSecret name forceRefresh fetch =>
    ([], (getSecretWithOptions config state name forceRefresh fetch).2)
  | .checkRotation fetches => checkRotation config state fetches
  | .invalidateSecret name => ([], invalidateSecret state name)

/-- The calls of a history, each with the state before it. -/
def steps (config : Config) : State → List Call → List (State × Call)
  | _, [] => []
  | state, call :: calls => (state, call) :: steps config (perform config state call).2 calls

/-- What a call asks the provider about a name. -/
def asked (state : State) (name : String) : Call → Option Fetch
  | .getSecret other forceRefresh fetch =>
    if other = name ∧ fresh state name forceRefresh fetch.askedAt = none then some fetch else none
  | .checkRotation fetches =>
    if name ∈ secretMapping ∧ (state.secretCache name).isSome then some (fetches name) else none
  | .invalidateSecret _ => none

/-- What is reported was cached as the provider last returned it, and the provider now returns
something else; and a refresh that fails leaves the value in the cache. -/
structure Truthful (config : Config) (state : State) (call : Call) : Prop where
  rotated : ∀ name ∈ (perform config state call).1, ∃ cached fetch value,
    state.secretCache name = some cached ∧ state.returned name = some cached.value ∧
      asked state name call = some fetch ∧ fetch.result = some value ∧ value ≠ cached.value
  kept : ∀ name fetch cached, asked state name call = some fetch → usable fetch.result = none →
    state.secretCache name = some cached →
      ((perform config state call).2.secretCache name).map CachedSecret.value = some cached.value

/-- Where the provider fails, the fallback is what the cache has. -/
def Meets (config : Config) (state : State) (call : Call) : Prop :=
  ∀ name fetch, asked state name call = some fetch → usable fetch.result = none →
    (state.secretCache name).map CachedSecret.value = some (fallback config name)

/-- What is cached was obtained from the provider, which has returned nothing else since. -/
def Obtained (state : State) : Prop :=
  ∀ name cached, state.secretCache name = some cached → state.returned name = some cached.value

variable {config : Config} {state : State} {name other : String} {fetch : Fetch}

private theorem refresh_value (cloud : config.provider ≠ .env) (state : State) (name : String)
    (fetch : Fetch) :
    (refresh config state name fetch).1 = (usable fetch.result).getD (fallback config name) := by
  have same : fetched config name fetch = fetch.result := by
    cases provider : config.provider with
    | env => exact absurd provider cloud
    | awsSm | gcpSm => rw [fetched, provider]
  rw [refresh, same]

theorem refresh_other (apart : other ≠ name) :
    (refresh config state name fetch).2.secretCache other = state.secretCache other ∧
      (refresh config state name fetch).2.returned other = state.returned other :=
  ⟨Function.update_of_ne apart _ _, Function.update_of_ne apart _ _⟩

private theorem refresh_self : (refresh config state name fetch).2.secretCache name =
    some ⟨(refresh config state name fetch).1, fetch.storedAt⟩ :=
  Function.update_self _ _ _

private theorem returned_refresh : (refresh config state name fetch).2.returned name =
    (usable fetch.result).or (state.returned name) :=
  Function.update_self _ _ _

/-- A refresh that fails leaves the value where the condition is met. -/
theorem refresh_kept (cloud : config.provider ≠ .env) (failed : usable fetch.result = none)
    (met : (state.secretCache name).map CachedSecret.value = some (fallback config name)) :
    ((refresh config state name fetch).2.secretCache name).map CachedSecret.value =
      (state.secretCache name).map CachedSecret.value := by
  rw [refresh_self, Option.map_some, refresh_value cloud, failed, Option.getD_none, met]

private theorem obtained_refresh (cloud : config.provider ≠ .env) (obtained : Obtained state)
    (met : usable fetch.result = none →
      (state.secretCache name).map CachedSecret.value = some (fallback config name)) :
    Obtained (refresh config state name fetch).2 := by
  intro other cached found
  by_cases own : other = name
  · rw [own] at found ⊢
    rw [refresh_self] at found
    rw [returned_refresh, ← Option.some.inj found]
    dsimp only
    rw [refresh_value cloud]
    cases result : usable fetch.result with
    | some value => rfl
    | none =>
      obtain ⟨before, stored, same⟩ := Option.map_eq_some_iff.mp (met result)
      rw [Option.none_or, obtained name before stored, same, Option.getD_none]
  · obtain ⟨cache, returned⟩ := @refresh_other config state name other fetch own
    rw [cache] at found
    rw [returned]
    exact obtained other cached found

private theorem usable_eq_some {value : String} {result : Option String}
    (some_ : usable result = some value) :
    result = some value :=
  (Option.filter_eq_some_iff.mp some_).1

private theorem getSecret_forced (config : Config) (state : State) (name : String) (fetch : Fetch) :
    getSecretWithOptions config state name true fetch = refresh config state name fetch := by
  have missed : fresh state name true fetch.askedAt = none := by
    rw [fresh]
    cases state.secretCache name with
    | none => rfl
    | some cached => rfl
  rw [getSecretWithOptions, missed]

/-- What the loop over the names does. -/
structure Checked (fetches : String → Fetch) (names : List String) (state : State)
    (outcome : List String × State) : Prop where
  obtained : Obtained outcome.2
  rotated : ∀ name ∈ outcome.1, name ∈ names ∧ ∃ cached value,
    state.secretCache name = some cached ∧ (fetches name).result = some value ∧
      value ≠ cached.value
  kept : ∀ name, (name ∈ names → usable (fetches name).result = none) →
    (outcome.2.secretCache name).map CachedSecret.value =
      (state.secretCache name).map CachedSecret.value

private theorem checkNames_checked (cloud : config.provider ≠ .env) {fetches : String → Fetch}
    {names : List String} (nodup : names.Nodup) (obtained : Obtained state)
    (met : ∀ name ∈ names, usable (fetches name).result = none →
      ∀ cached, state.secretCache name = some cached → cached.value = fallback config name) :
    Checked fetches names state (checkNames config fetches names state) := by
  induction names generalizing state with
  | nil => exact ⟨obtained, nofun, fun _ _ => rfl⟩
  | cons name names ih =>
    obtain ⟨fresh, nodup⟩ := List.nodup_cons.mp nodup
    rw [checkNames]
    split
    · rename_i missing
      obtain ⟨after, rotated, kept⟩ := ih nodup obtained fun other member => met other (.tail _ member)
      refine ⟨after, ?_, fun other failed => kept other fun member => failed (.tail _ member)⟩
      intro other reported
      obtain ⟨member, found⟩ := rotated other reported
      exact ⟨.tail _ member, found⟩
    · rename_i cached found
      have own : usable (fetches name).result = none →
          (state.secretCache name).map CachedSecret.value = some (fallback config name) := by
        intro failed
        rw [found, Option.map_some, met name (.head _) failed cached found]
      have apart : ∀ other ∈ names, other ≠ name := fun other member same => fresh (same ▸ member)
      rw [getSecret_forced]
      obtain ⟨after, rotated, kept⟩ := ih nodup (obtained_refresh cloud obtained own)
        fun other member failed cached found => met other (.tail _ member) failed cached
          ((refresh_other (apart other member)).1.symm.trans found)
      refine ⟨after, ?_, ?_⟩
      · intro other reported
        have later : other ∈ (checkNames config fetches names
            (refresh config state name (fetches name)).2).1 → other ∈ name :: names ∧
            ∃ cached value, state.secretCache other = some cached ∧
              (fetches other).result = some value ∧ value ≠ cached.value := by
          intro reported
          obtain ⟨member, cached, value, found, result, changed⟩ := rotated other reported
          rw [(refresh_other (apart other member)).1] at found
          exact ⟨.tail _ member, cached, value, found, result, changed⟩
        dsimp only at reported
        split at reported
        · rename_i changed
          obtain rfl | reported := List.mem_cons.mp reported
          · rw [refresh_value cloud] at changed
            cases result : usable (fetches other).result with
            | none =>
              rw [result, Option.getD_none, met other (.head _) result cached found] at changed
              exact absurd rfl changed
            | some value =>
              rw [result, Option.getD_some] at changed
              exact ⟨.head _, cached, value, found, usable_eq_some result, changed⟩
          · exact later reported
        · exact later reported
      · intro other failed
        rw [kept other fun member => failed (.tail _ member)]
        by_cases same : other = name
        · rw [same] at failed ⊢
          have failed := failed (.head _)
          exact refresh_kept cloud failed (own failed)
        · rw [(refresh_other same).1]

/-- What holds of a call that reports nothing. -/
private theorem truthful_of_unreported {call : Call} {next : State}
    (same : perform config state call = ([], next))
    (kept : ∀ name fetch cached, asked state name call = some fetch → usable fetch.result = none →
      state.secretCache name = some cached →
        (next.secretCache name).map CachedSecret.value = some cached.value) :
    Truthful config state call := by
  constructor
  · rw [same]
    nofun
  · rwa [same]

private theorem perform_truthful (cloud : config.provider ≠ .env) {call : Call}
    (obtained : Obtained state)
    (met : Meets config state call) :
    Truthful config state call ∧ Obtained (perform config state call).2 := by
  cases call with
  | invalidateSecret name =>
    refine ⟨⟨nofun, nofun⟩, ?_⟩
    intro other cached found
    by_cases own : other = name
    · rw [own] at found
      cases (Function.update_self _ _ _).symm.trans found
    · exact obtained other cached ((Function.update_of_ne own _ _).symm.trans found)
  | getSecret name forceRefresh fetch =>
    cases hit : fresh state name forceRefresh fetch.askedAt with
    | some cached =>
      have same : perform config state (.getSecret name forceRefresh fetch) = ([], state) := by
        rw [perform, getSecretWithOptions, hit]
      refine ⟨truthful_of_unreported same fun other _ cached _ _ found => ?_, ?_⟩
      · rw [found, Option.map_some]
      · rwa [same]
    | none =>
      have same : perform config state (.getSecret name forceRefresh fetch) =
          ([], (refresh config state name fetch).2) := by
        rw [perform, getSecretWithOptions, hit]
      have sent : asked state name (.getSecret name forceRefresh fetch) = some fetch :=
        if_pos ⟨rfl, hit⟩
      refine ⟨truthful_of_unreported same fun other sent' cached asks failed found => ?_, ?_⟩
      · by_cases own : name = other
        · subst own
          obtain rfl := Option.some.inj (sent.symm.trans asks)
          rw [refresh_kept cloud failed (met name fetch sent failed), found, Option.map_some]
        · rw [(refresh_other fun same => own same.symm).1, found, Option.map_some]
      · rw [same]
        exact obtained_refresh cloud obtained (met name fetch sent)
  | checkRotation fetches =>
    have loop : perform config state (.checkRotation fetches) =
        checkNames config fetches secretMapping state := by
      rw [perform, checkRotation, if_neg cloud]
    have sent {name : String} {cached : CachedSecret} (member : name ∈ secretMapping)
        (found : state.secretCache name = some cached) :
        asked state name (.checkRotation fetches) = some (fetches name) :=
      if_pos ⟨member, by rw [found]; rfl⟩
    have checked := checkNames_checked cloud (show secretMapping.Nodup by decide) obtained
      fun name member failed cached found => by
        have same := met name (fetches name) (sent member found) failed
        rw [found] at same
        exact Option.some.inj same
    rw [loop]
    refine ⟨⟨?_, ?_⟩, checked.obtained⟩
    · rw [loop]
      intro name reported
      obtain ⟨member, cached, value, found, result, changed⟩ := checked.rotated name reported
      exact ⟨cached, fetches name, value, found, obtained name cached found, sent member found,
        result, changed⟩
    · intro name fetch cached asks failed found
      rw [loop, checked.kept name, found]
      · rfl
      · intro member
        obtain rfl := Option.some.inj ((sent member found).symm.trans asks)
        exact failed

private theorem steps_truthful (cloud : config.provider ≠ .env) {calls : List Call}
    (obtained : Obtained state) (met : ∀ step ∈ steps config state calls, Meets config step.1 step.2) :
    ∀ step ∈ steps config state calls, Truthful config step.1 step.2 := by
  induction calls generalizing state with
  | nil => nofun
  | cons call calls ih =>
    obtain ⟨first, later⟩ := List.forall_mem_cons.mp met
    obtain ⟨truthful, after⟩ := perform_truthful cloud obtained first
    exact List.forall_mem_cons.mpr ⟨truthful, ih after later⟩

/-- In every state that a history reaches. -/
def AlwaysTruthful (config : Config) (calls : List Call) : Prop :=
  ∀ step ∈ steps config State.empty calls, Truthful config step.1 step.2

def AlwaysMeets (config : Config) (calls : List Call) : Prop :=
  ∀ step ∈ steps config State.empty calls, Meets config step.1 step.2

/-- Where every call of a history meets the condition, every call of it is truthful. -/
theorem rotation_truthful (config : Config) (cloud : config.provider ≠ .env) (calls : List Call)
    (met : AlwaysMeets config calls) : AlwaysTruthful config calls :=
  steps_truthful cloud nofun met

/-- A deployment that has its secrets in the cloud only. -/
def cloudOnly : Config where
  provider := .awsSm
  env _ := none

/-- One whose environment has the token that the cloud has as well. -/
def mirrored : Config where
  provider := .awsSm
  env := Function.update (fun _ => none) "INTERNAL_API_TOKEN" (some "s3cret")

def answer (result : Option String) : Fetch where
  askedAt := 0
  result := result
  storedAt := 0

def firstLoad : Call := .getSecret "INTERNAL_API_TOKEN" false (answer (some "s3cret"))

/-- The provider gives everything the same value. -/
def check (value : String) : Call := .checkRotation fun _ => answer (some value)

/-- The provider gives nothing. -/
def failingCheck : Call := .checkRotation fun _ => answer none

private theorem meets_check (value : String) (visible : value ≠ "") :
    Meets config state (check value) := by
  intro name fetch asks failed
  rw [check, asked] at asks
  split at asks
  · rw [← Option.some.inj asks, answer, usable, Option.filter_some,
      if_pos (decide_eq_true visible)] at failed
    cases failed
  · cases asks

/-- One check fails to reach the provider, and the next one finds the token rotated. -/
theorem rotation_reported : AlwaysTruthful mirrored [firstLoad, failingCheck, check "n3w"] ∧
    (steps mirrored State.empty [firstLoad, failingCheck, check "n3w"]).map
        (fun step => (perform mirrored step.1 step.2).1) = [[], [], ["INTERNAL_API_TOKEN"]] := by
  refine ⟨rotation_truthful mirrored (by decide) _ ?_, by decide⟩
  refine List.forall_mem_cons.mpr ⟨?_, List.forall_mem_cons.mpr ⟨?_, List.forall_mem_cons.mpr
    ⟨meets_check "n3w" (by decide), nofun⟩⟩⟩
  · intro name fetch asks failed
    rw [firstLoad, asked] at asks
    split at asks
    · rw [← Option.some.inj asks] at failed
      exact absurd failed (by decide)
    · cases asks
  · intro name fetch asks _
    rw [failingCheck, asked] at asks
    split at asks
    · rename_i cached
      have same : ∀ name ∈ secretMapping,
          ((perform mirrored State.empty firstLoad).2.secretCache name).isSome →
            ((perform mirrored State.empty firstLoad).2.secretCache name).map CachedSecret.value =
              some (fallback mirrored name) := by decide
      exact same name cached.1 cached.2
    · cases asks

/-- Nothing was rotated; one check fails to reach the provider and the next one does not. -/
theorem outage_reported : ¬ AlwaysTruthful cloudOnly [firstLoad, failingCheck, check "s3cret"] ∧
    (steps cloudOnly State.empty [firstLoad, failingCheck, check "s3cret"]).map
        (fun step => (perform cloudOnly step.1 step.2).1) =
      [[], ["INTERNAL_API_TOKEN"], ["INTERNAL_API_TOKEN"]] ∧
    (steps cloudOnly State.empty [firstLoad, failingCheck, check "s3cret"]).map
        (fun step => (step.1.secretCache "INTERNAL_API_TOKEN").map CachedSecret.value) =
      [none, some "s3cret", some ""] := by
  refine ⟨?_, by decide, by decide⟩
  intro always
  have truthful := (List.forall_mem_cons.mp (List.forall_mem_cons.mp always).2).1
  obtain ⟨cached, fetch, value, _, _, asks, result, _⟩ :=
    truthful.rotated "INTERNAL_API_TOKEN" (by decide)
  have silent : fetch = answer none := (Option.some.inj asks).symm
  rw [silent] at result
  cases result

end BrainMate.Nextjs.SecretRotation
