import BrainMate.Gateway.Effects
import BrainMate.Gateway.RequestStores
import BrainMate.Interleaving.History
import BrainMate.Interleaving.Separation
import BrainMate.Interleaving.Turns
import BrainMate.Storage.Recency

/-! The contexts that `risk_engine.rs` keeps of users, over whole runs of its calls, and the scores
of its assessments. -/

namespace BrainMate.Gateway

open Interleaving System

namespace RiskEngine

/-- The two variables that `evaluate` carries along: `signals` and `total_score`. -/
structure Tally where
  signals : List RiskSignal := []
  totalScore : Nat := 0

/-- `signals.push(...)` and `total_score += weight`. -/
def Tally.push (tally : Tally) (signal : RiskSignal) : Tally :=
  ⟨tally.signals ++ [signal], tally.totalScore + signal.weight⟩

def Tally.pushIf (tally : Tally) (condition : Prop) [Decidable condition] (signal : RiskSignal) :
    Tally :=
  if condition then tally.push signal else tally

def isGeoSignal (signal : RiskSignal) : Bool :=
  signal.name == "impossible_travel" || signal.name == "geo_change"

/-- Signals 2 and 2b. -/
def Tally.pushPlace (tally : Tally) (prev : SessionContext) (ctx : RiskRequestContext)
    (travelled : Option Travel) : Tally :=
  -- Geo anomaly / impossible travel
  let tally := match travelled with
    | some journey => tally.push journey.signal
    | none => tally
  -- Country change (fires even without precise lat/lon)
  match prev.lastGeo, ctx.geo with
  | some prevGeo, some currGeo =>
    if prevGeo.country ≠ currGeo.country ∧ ctx.ip ∉ prev.knownIps then
      tally.pushIf (tally.signals.any isGeoSignal = false)
        ⟨"country_change", 20,
          "Country changed from " ++ prevGeo.country ++ " to " ++ currGeo.country⟩
    else tally
  | _, _ => tally

/-- Signals 3, 4 and 5. -/
def Tally.pushDevice (tally : Tally) (prev : SessionContext) (ctx : RiskRequestContext) : Tally :=
  -- Device fingerprint mismatch
  let tally := match prev.deviceHash, ctx.deviceFingerprint with
    | some prevDevice, some currDevice =>
      tally.pushIf (prevDevice ≠ currDevice)
        ⟨"device_mismatch", 25, "Device fingerprint does not match previous session"⟩
    | _, _ => tally
  -- Multiple failed auth attempts
  let tally := tally.pushIf (3 ≤ prev.failedAttempts)
    ⟨"failed_attempts", 20, toString prev.failedAttempts ++ " failed auth attempts recently"⟩
  -- New device detection
  match ctx.deviceFingerprint with
  | some device =>
    tally.pushIf (device ∉ prev.knownDevices)
      ⟨"new_device", 15, "Request from a device not previously seen"⟩
  | none => tally

/-- The signals of a request in the order of the source. -/
def tallyAgainst (prev : SessionContext) (ctx : RiskRequestContext) (travelled : Option Travel) :
    Tally :=
  let tally := ({} : Tally).pushIf (prev.lastIp ≠ ctx.ip)
    ⟨"ip_change", 30, "IP changed from " ++ maskIp prev.lastIp ++ " to " ++ maskIp ctx.ip⟩
  let tally := (tally.pushPlace prev ctx travelled).pushDevice prev ctx
  tally.pushIf (ctx.ip ∉ prev.knownIps) ⟨"new_ip", 10, "IP " ++ maskIp ctx.ip ++ " not in known list"⟩

/-- The signals of a request, for what was loaded of the user. -/
def tally (ctx : RiskRequestContext) (travelled : Option Travel) : Option SessionContext → Tally
  | some prev => tallyAgainst prev ctx travelled
  | none => ({} : Tally).push ⟨"no_history", 10, "No prior session context available"⟩

/-- The assessment reports a tally. -/
def Assessed (ctx : RiskRequestContext) (assessment : RiskAssessment) : Prop :=
  ∃ prev travelled, assessment.signals = (tally ctx travelled prev).signals ∧
    assessment.score = min (tally ctx travelled prev).totalScore 100

/-- A list of signals with the sum of its weights. -/
def weigh (signals : List RiskSignal) : Tally := ⟨signals, (signals.map RiskSignal.weight).sum⟩

section Weighing

variable (signals : List RiskSignal) (prev : SessionContext) (ctx : RiskRequestContext)

private theorem weigh_push (signal : RiskSignal) :
    (weigh signals).push signal = weigh (signals ++ [signal]) := by
  simp [weigh, Tally.push]

private theorem weigh_pushIf (condition : Prop) [Decidable condition] (signal : RiskSignal) :
    (weigh signals).pushIf condition signal =
      weigh (signals ++ if condition then [signal] else []) := by
  rw [Tally.pushIf]
  split
  · exact weigh_push signals signal
  · rw [List.append_nil]

private theorem weigh_pushPlace (free : signals.any isGeoSignal = false)
    (travelled : Option Travel) :
    (weigh signals).pushPlace prev ctx travelled =
      weigh (signals ++ placeSignals prev ctx travelled) := by
  cases travelled with
  | some journey =>
    have geo : isGeoSignal journey.signal = true := by cases journey <;> rfl
    have already : (weigh (signals ++ [journey.signal])).signals.any isGeoSignal = true := by
      rw [weigh, List.any_append, List.any_cons, geo, Bool.true_or, Bool.or_true]
    simp only [Tally.pushPlace, weigh_push, placeSignals]
    split
    · simp only [Tally.pushIf, already, Bool.true_eq_false, if_false, ite_self]
    · rfl
  | none =>
    have free : (weigh signals).signals.any isGeoSignal = false := free
    simp only [Tally.pushPlace, placeSignals, Tally.pushIf, free, if_true, weigh_push]
    cases prev.lastGeo with
    | none => simp only [List.append_nil]
    | some prevGeo =>
      cases ctx.geo with
      | none => simp only [List.append_nil]
      | some currGeo =>
        dsimp only
        split
        · rfl
        · rw [List.append_nil]

private theorem weigh_pushDevice :
    (weigh signals).pushDevice prev ctx = weigh (signals ++ deviceSignals prev ctx) := by
  unfold Tally.pushDevice deviceSignals
  cases prev.deviceHash <;> cases ctx.deviceFingerprint <;>
    simp only [weigh_pushIf, List.append_assoc, List.append_nil, List.nil_append]

/-- The signals and the total of the source are the list of signals and the sum of its weights. -/
theorem tallyAgainst_eq (travelled : Option Travel) :
    tallyAgainst prev ctx travelled = weigh (signalsAgainst prev ctx travelled) := by
  have start : ({} : Tally) = weigh [] := rfl
  rw [tallyAgainst, start, weigh_pushIf, weigh_pushPlace, weigh_pushDevice, weigh_pushIf,
    List.nil_append]
  · rfl
  · rw [List.nil_append]
    split <;> rfl

/-- The total stays far below the bound of a `u32`. -/
theorem totalScore_le (travelled : Option Travel) :
    (tallyAgainst prev ctx travelled).totalScore ≤ 150 := by
  have place : ((placeSignals prev ctx travelled).map RiskSignal.weight).sum ≤ 50 := by
    unfold placeSignals
    split
    · rename_i journey
      cases journey <;> simp [Travel.signal]
    · split
      · split <;> simp
      · simp
  have device : ((deviceSignals prev ctx).map RiskSignal.weight).sum ≤ 60 := by
    unfold deviceSignals
    simp only [List.map_append, List.sum_append]
    repeat' split
    all_goals simp
  rw [tallyAgainst_eq]
  simp only [weigh, signalsAgainst, List.map_append, List.sum_append]
  have ite_le (condition : Prop) [Decidable condition] (signal : RiskSignal) :
      ((if condition then [signal] else []).map RiskSignal.weight).sum ≤ signal.weight := by
    split <;> simp
  have ip := ite_le (prev.lastIp ≠ ctx.ip)
    ⟨"ip_change", 30, "IP changed from " ++ maskIp prev.lastIp ++ " to " ++ maskIp ctx.ip⟩
  have new := ite_le (ctx.ip ∉ prev.knownIps)
    ⟨"new_ip", 10, "IP " ++ maskIp ctx.ip ++ " not in known list"⟩
  dsimp only at ip new
  omega

end Weighing

inductive Call where
  | evaluate (ctx : RiskRequestContext)
  | recordFailedAttempt (userId : String)
  deriving DecidableEq, Repr

namespace Call

@[reducible] def Result : Call → Type
  | .evaluate _ => Except ApiError RiskAssessment
  | .recordFailedAttempt _ => Except ApiError Unit

def userId : Call → String
  | .evaluate ctx => ctx.userId
  | .recordFailedAttempt userId => userId

/-- What a call saves in the place of what it loaded. -/
def update : Call → Option SessionContext → Nat → Option SessionContext
  | .evaluate ctx, prev, now => some (contextAfter ctx prev now)
  | .recordFailedAttempt _, prev, _ => prev.map fun context =>
      { context with failedAttempts := min (context.failedAttempts + 1) (2 ^ 32 - 1) }

def ip? : Call → Option String
  | .evaluate ctx => some ctx.ip
  | .recordFailedAttempt _ => none

def device? : Call → Option String
  | .evaluate ctx => ctx.deviceFingerprint
  | .recordFailedAttempt _ => none

end Call

/-- What has become of no context by these calls, each of which loaded what the call before it had
saved. -/
inductive Grown : List Call → Option SessionContext → Prop where
  | nothing : Grown [] none
  | saved {calls : List Call} {prev : Option SessionContext} {call : Call} {now : Nat}
    {context : SessionContext} (before : Grown calls prev)
    (update : call.update prev now = some context) : Grown (calls ++ [call]) (some context)

/-- The context knows the addresses and the devices that were added last, each once, and among
them those of the last request. -/
structure Recent (calls : List Call) (context : SessionContext) : Prop where
  ips : context.knownIps = Storage.latest 20 (calls.filterMap Call.ip?)
  devices : context.knownDevices = Storage.latest 10 (calls.filterMap Call.device?)
  fewIps : context.knownIps.length ≤ 20
  fewDevices : context.knownDevices.length ≤ 10
  distinctIps : context.knownIps.Nodup
  distinctDevices : context.knownDevices.Nodup
  lastIp : context.lastIp ∈ context.knownIps
  device : ∀ device ∈ context.deviceHash, device ∈ context.knownDevices

section Growth

variable {calls : List Call} {prev : Option SessionContext} {context : SessionContext}

private theorem remember_eq (limit : Nat) (items : List String) (item : String) :
    remember limit items item = Storage.remember limit items item := by
  rw [remember, Storage.remember]
  simp only [List.contains_iff_mem]

private theorem contextAfter_knownIps (ctx : RiskRequestContext) (prev : Option SessionContext)
    (now : Nat) :
    (contextAfter ctx prev now).knownIps =
      Storage.remember 20 (prev.elim [] SessionContext.knownIps) ctx.ip :=
  remember_eq 20 _ _

private theorem contextAfter_knownDevices (ctx : RiskRequestContext) (prev : Option SessionContext)
    (now : Nat) :
    (contextAfter ctx prev now).knownDevices =
      ctx.deviceFingerprint.toList.foldl (Storage.remember 10)
        (prev.elim [] SessionContext.knownDevices) := by
  rw [contextAfter]
  cases ctx.deviceFingerprint with
  | none => rfl
  | some device => exact remember_eq 10 _ _

theorem Grown.knownIps (grown : Grown calls prev) :
    prev.elim [] SessionContext.knownIps = Storage.latest 20 (calls.filterMap Call.ip?) := by
  induction grown with
  | nothing => exact (Storage.latest_nil 20).symm
  | @saved calls prev call now context before update ih =>
    rw [List.filterMap_append, Storage.latest_append, ← ih]
    cases call with
    | evaluate ctx =>
      cases update
      exact contextAfter_knownIps ctx prev now
    | recordFailedAttempt userId =>
      obtain ⟨old, rfl, rfl⟩ := Option.map_eq_some_iff.mp update
      rfl

theorem Grown.knownDevices (grown : Grown calls prev) :
    prev.elim [] SessionContext.knownDevices =
      Storage.latest 10 (calls.filterMap Call.device?) := by
  induction grown with
  | nothing => exact (Storage.latest_nil 10).symm
  | @saved calls prev call now context before update ih =>
    rw [List.filterMap_append, Storage.latest_append, ← ih]
    cases call with
    | evaluate ctx =>
      cases update
      have own : [Call.evaluate ctx].filterMap Call.device? = ctx.deviceFingerprint.toList := by
        cases fingerprint : ctx.deviceFingerprint <;> simp [Call.device?, fingerprint]
      rw [own]
      exact contextAfter_knownDevices ctx prev now
    | recordFailedAttempt userId =>
      obtain ⟨old, rfl, rfl⟩ := Option.map_eq_some_iff.mp update
      rfl

/-- What a context says of the last request is in its lists. -/
theorem Grown.last (grown : Grown calls prev) : ∀ context ∈ prev,
    context.lastIp ∈ context.knownIps ∧
      ∀ device ∈ context.deviceHash, device ∈ context.knownDevices := by
  induction grown with
  | nothing => exact fun _ none_ => nomatch none_
  | @saved calls prev call now context before update ih =>
    intro same context_eq
    obtain rfl := Option.some.inj context_eq
    cases call with
    | evaluate ctx =>
      cases update
      refine ⟨?_, fun device found => ?_⟩
      · rw [contextAfter_knownIps]
        exact Storage.mem_remember (by decide)
      · have fingerprint : ctx.deviceFingerprint = some device := found
        rw [contextAfter_knownDevices, fingerprint]
        exact Storage.mem_remember (by decide)
    | recordFailedAttempt userId =>
      obtain ⟨old, rfl, rfl⟩ := Option.map_eq_some_iff.mp update
      exact ih old rfl

theorem Grown.recent (grown : Grown calls (some context)) : Recent calls context := by
  have ips : context.knownIps = Storage.latest 20 (calls.filterMap Call.ip?) := grown.knownIps
  have devices : context.knownDevices = Storage.latest 10 (calls.filterMap Call.device?) :=
    grown.knownDevices
  obtain ⟨lastIp, device⟩ := grown.last context rfl
  refine ⟨ips, devices, ?_, ?_, ?_, ?_, lastIp, device⟩
  · rw [ips]
    exact Storage.length_latest_le 20 _
  · rw [devices]
    exact Storage.length_latest_le 10 _
  · rw [ips]
    exact Storage.nodup_latest 20 _
  · rw [devices]
    exact Storage.nodup_latest 10 _

end Growth

def Call.program (engine : RiskEngine) : (call : Call) → Procedure call.Result
  | .evaluate ctx => engine.evaluate ctx
  | .recordFailedAttempt userId => engine.recordFailedAttempt userId

/-- The calls for all users as one system. -/
@[reducible] def clients (engine : RiskEngine) : System Command Command.Reply where
  World := World
  Outcome := Outcome
  Event := Event
  Call := Call
  Result := Call.Result
  exec := Command.exec
  environment := environment
  program := Call.program engine

/-- What is noted about a context: that a call found none, or saved it. -/
inductive Entry where
  | missed
  | saved (call : Call)
  deriving DecidableEq, Repr

/-- What a command of a call means for the context under a key. -/
def Call.notes (key : RedisKey) (call : Call) (outcome : Outcome) (world : World) :
    Command → Option Entry
  | .redis (.get other) =>
    if other = key ∧ outcome = .success ∧ world.lookup key = none then some .missed else none
  | .redis (.setEx other _ ttlSecs) =>
    if other = key ∧ outcome.takesEffect = true ∧ acceptsTtl world.clock ttlSecs = true then
      some (.saved call)
    else none
  | _ => none

def noted (engine : RiskEngine) (key : RedisKey) (config : engine.clients.Config) :
    engine.clients.Action → Option Entry
  | .step client outcome =>
    match config.threads client with
    | .running call (.call command _) => call.notes key outcome config.world command
    | _ => none
  | .start _ _ | .environment _ => none

def Entry.call? : Entry → Option Call
  | .missed => none
  | .saved call => some call

/-- The calls that saved the context since one found none. -/
def sinceMissed (log : List Entry) : List Call :=
  log.foldl (fun calls entry => entry.call?.elim [] fun call => calls ++ [call]) []

/-- The calls that the context may come from, for a history of it. -/
structure Lineage where
  of : List Entry → List Call → Prop
  missed : ∀ log, of (log ++ [.missed]) []
  saved : ∀ log calls call, of log calls → of (log ++ [.saved call]) (calls ++ [call])

/-- Some of the calls that saved the context, in their order. -/
def amongSaved : Lineage where
  of log calls := calls.Sublist (log.filterMap Entry.call?)
  missed log := List.nil_sublist _
  saved log calls call among := by
    rw [List.filterMap_append]
    exact among.append (List.Sublist.refl _)

private theorem amongSaved_lasting (log : List Entry) (calls : List Call) (entry : Entry)
    (among : amongSaved.of log calls) : amongSaved.of (log ++ [entry]) calls := by
  have among : calls.Sublist (log.filterMap Entry.call?) := among
  have longer : (log.filterMap Entry.call?).Sublist ((log ++ [entry]).filterMap Entry.call?) := by
    rw [List.filterMap_append]
    exact List.sublist_append_left _ _
  exact among.trans longer

/-- All of them since the context was last missed. -/
def sinceLastMissed : Lineage where
  of log calls := calls = sinceMissed log
  missed log := by rw [sinceMissed, List.foldl_concat]; rfl
  saved log calls call same := by rw [same, sinceMissed, sinceMissed, List.foldl_concat]; rfl

/-- The key of the context that a call is about. -/
def Call.key (engine : RiskEngine) (call : Call) : RedisKey := engine.sessionContextKey call.userId

section Calls

variable {engine : RiskEngine} {call : Call} {prev : Option SessionContext}

/-- What a call that has loaded a context does: it looks at the clock, and saves once. -/
def Finishing (engine : RiskEngine) (call : Call) (prev : Option SessionContext) {α : Type} :
    Procedure α → Prop
  | .done _ => True
  | .call command next =>
    (command = .now ∧ ∀ reply, Finishing engine call prev (next reply)) ∨
      ∃ context now, command = .redis (.setEx (call.key engine) (.context context) contextTtlSecs) ∧
        call.update prev now = some context ∧ ∀ reply, ∃ value, next reply = .done value

/-- What a call takes the answer to its GET for. -/
def loaded : Except RedisLayerError (Option RedisValue) → Except ApiError (Option SessionContext)
  | .error error => .error (.serviceUnavailable ("risk engine read failed: " ++ error.message))
  | .ok none => .ok none
  | .ok (some raw) =>
    match raw.asContext with
    | .ok context => .ok (some context)
    | .error error => .error (.serviceUnavailable ("risk engine read failed: " ++ error.message))

private theorem loadSessionContextRaw_eq (key : RedisKey) :
    loadSessionContextRaw key = .call (.redis (.get key)) fun reply => .done (loaded reply) := by
  refine congrArg (Program.call _) (funext fun reply => ?_)
  match reply with
  | .error error => rfl
  | .ok none => rfl
  | .ok (some raw) =>
    dsimp only [Program.bind, loaded]
    cases raw.asContext with
    | error error => rfl
    | ok context => rfl

private theorem loaded_ok {reply : Except RedisLayerError (Option RedisValue)}
    (read : loaded reply = .ok prev) : reply = .ok (prev.map RedisValue.context) := by
  match reply with
  | .error error => cases read
  | .ok none =>
    cases read
    rfl
  | .ok (some raw) =>
    cases raw with
    | context record =>
      simp only [loaded, RedisValue.asContext] at read
      split at read
      · rename_i context readable
        split at readable
        · cases readable
          cases read
          rfl
        · cases readable
      · cases read
    | _ => cases read

private theorem finishing_bind {α β : Type} {program : Procedure α} {next : α → Procedure β}
    (asks : program.Every (· = .now)) (rest : ∀ value, Finishing engine call prev (next value)) :
    Finishing engine call prev (program >>= next) := by
  induction program with
  | done value => exact rest value
  | call command continuation ih => exact .inl ⟨asks.1, fun reply => ih reply (asks.2 reply)⟩

private theorem riskSignals_now (ctx : RiskRequestContext) (prev : Option SessionContext) :
    (engine.riskSignals ctx prev).Every (· = .now) := by
  cases prev with
  | none => trivial
  | some prev =>
    have journey : (engine.travelled prev ctx).Every (· = .now) := by
      rw [travelled]
      split
      · exact ⟨rfl, fun _ => trivial⟩
      · trivial
    exact journey.bind fun _ => trivial

/-- The update looks at the clock and saves; what comes behind it asks for nothing. -/
theorem finishing_update {α : Type} (ctx : RiskRequestContext)
    {next : Except ApiError Unit → Procedure α} (ends : ∀ answer, ∃ value, next answer = .done value) :
    Finishing engine (.evaluate ctx) prev (engine.updateSessionContext ctx prev >>= next) := by
  refine .inl ⟨rfl, fun millis => .inr ⟨_, millis / 1000, rfl, rfl, fun reply => ?_⟩⟩
  cases reply with
  | error error => exact ends _
  | ok done => exact ends _

/-- A call loads the context, and then finishes. -/
theorem program_eq (call : Call) :
    ∃ rest, call.program engine = .call (.redis (.get (call.key engine))) rest ∧
      ∀ reply, (∃ value, rest reply = .done value) ∨ ∃ prev : Option SessionContext,
        reply = .ok (prev.map RedisValue.context) ∧ Finishing engine call prev (rest reply) := by
  cases call with
  | evaluate ctx =>
    simp only [Call.program, evaluate, loadSessionContextRaw_eq]
    refine ⟨_, rfl, fun reply => ?_⟩
    dsimp only
    cases read : loaded reply with
    | error error => exact .inl ⟨_, rfl⟩
    | ok prev =>
      refine .inr ⟨prev, loaded_ok read, ?_⟩
      refine @finishing_bind engine _ prev _ _ (engine.riskSignals ctx prev) _
        (riskSignals_now ctx prev) fun signals => finishing_update ctx fun answer => ?_
      cases answer with
      | error error => exact ⟨_, rfl⟩
      | ok done => exact ⟨_, rfl⟩
  | recordFailedAttempt userId =>
    simp only [Call.program, recordFailedAttempt, loadSessionContextRaw_eq]
    refine ⟨_, rfl, fun reply => ?_⟩
    dsimp only
    cases read : loaded reply with
    | error error => exact .inl ⟨_, rfl⟩
    | ok prev =>
      cases prev with
      | none => exact .inl ⟨_, rfl⟩
      | some context =>
        refine .inr ⟨some context, loaded_ok read, .inr ⟨_, 0, rfl, rfl, fun reply => ?_⟩⟩
        cases reply with
        | error error => exact ⟨_, rfl⟩
        | ok done => exact ⟨_, rfl⟩

end Calls

section Runs

variable {lineage : Lineage} {engine : RiskEngine} {key : RedisKey} {log : List Entry}
variable {call : Call} {world : World}

/-- A call under way has issued no command, or it finishes with a context that comes from the
calls before it. -/
def Stands (lineage : Lineage) (engine : RiskEngine) (key : RedisKey) (log : List Entry) (call : Call)
    (rest : Procedure call.Result) : Prop :=
  rest = call.program engine ∨ ∃ prev, Finishing engine call prev rest ∧
    (call.key engine = key → ∃ calls, lineage.of log calls ∧ Grown calls prev)

/-- The context under the key comes from the calls of the history. -/
def Stored (lineage : Lineage) (key : RedisKey) (log : List Entry) (world : World) : Prop :=
  ∀ value, world.lookup key = some value → ∃ context calls, value = .context context ∧
    lineage.of log calls ∧ Grown calls (some context)

/-- The answer to the GET of a call. -/
theorem Stands.of_get {prev : Option SessionContext} {outcome : Outcome}
    (stored : Stored lineage key log world)
    (answered : (Command.exec outcome (.redis (.get key)) world).1 =
      .ok (prev.map RedisValue.context)) :
    ∃ calls, Grown calls prev ∧
      lineage.of (log ++ (call.notes key outcome world (.redis (.get key))).toList) calls := by
  cases outcome with
  | lost => cases answered
  | applied => cases answered
  | success =>
    have found : world.lookup key = prev.map RedisValue.context := Except.ok.inj answered
    cases prev with
    | none =>
      have noted : call.notes key .success world (.redis (.get key)) = some .missed :=
        if_pos ⟨rfl, rfl, found⟩
      rw [noted]
      exact ⟨[], .nothing, lineage.missed log⟩
    | some context =>
      have noted : call.notes key .success world (.redis (.get key)) = none := by
        refine if_neg fun missed => ?_
        rw [missed.2.2] at found
        cases found
      obtain ⟨same, calls, value_eq, among, grown⟩ := stored _ found
      cases value_eq
      rw [noted, Option.toList_none, List.append_nil]
      exact ⟨calls, grown, among⟩

/-- A GET changes nothing, and notes only that there is nothing. -/
theorem Stored.of_get (stored : Stored lineage key log world) (other : RedisKey) (outcome : Outcome) :
    Stored lineage key (log ++ (call.notes key outcome world (.redis (.get other))).toList)
      (Command.exec outcome (.redis (.get other)) world).2 := by
  rw [Command.exec_reads outcome rfl]
  intro value found
  rw [Call.notes, if_neg, Option.toList_none, List.append_nil]
  · exact stored value found
  · intro missed
    rw [missed.2.2] at found
    cases found

theorem Stored.of_save (stored : Stored lineage key log world) {prev : Option SessionContext}
    {context : SessionContext} {now : Nat} (update : call.update prev now = some context)
    (comes : call.key engine = key → ∃ calls, lineage.of log calls ∧ Grown calls prev)
    (outcome : Outcome) :
    Stored lineage key
      (log ++ (call.notes key outcome world
        (.redis (.setEx (call.key engine) (.context context) contextTtlSecs))).toList)
      (Command.exec outcome (.redis (.setEx (call.key engine) (.context context) contextTtlSecs))
        world).2 := by
  rw [Call.notes]
  split
  · rename_i saved
    obtain ⟨own, effective, accepted⟩ := saved
    obtain ⟨calls, among, grown⟩ := comes own
    intro value found
    rw [Command.exec_effect effective, own, Command.effect, RedisCommand.effect, if_pos accepted,
      World.lookup_stored accepted] at found
    cases found
    exact ⟨context, _, rfl, lineage.saved log calls call among, .saved grown update⟩
  · rename_i unsaved
    intro value found
    rw [Option.toList_none, List.append_nil]
    apply stored value
    by_cases own : call.key engine = key
    · cases effective : outcome.takesEffect with
      | false => rwa [Command.exec_lost effective] at found
      | true =>
        have refused : ¬ acceptsTtl world.clock contextTtlSecs = true :=
          fun accepted => unsaved ⟨own, effective, accepted⟩
        rwa [Command.exec_effect effective, Command.effect, RedisCommand.effect,
          if_neg refused] at found
    · have other : key ≠
          (RedisCommand.setEx (call.key engine) (.context context) contextTtlSecs).key := Ne.symm own
      rwa [Command.exec_lookup_other outcome _ world other] at found

/-- One command of a call. -/
theorem Stands.command {command : Command} {rest : command.Reply → Procedure call.Result}
    (stands : Stands lineage engine key log call (.call command rest))
    (stored : Stored lineage key log world) (outcome : Outcome) :
    Stored lineage key (log ++ (call.notes key outcome world command).toList)
        (Command.exec outcome command world).2 ∧
      ((∃ value, rest (Command.exec outcome command world).1 = .done value) ∨
        Stands lineage engine key (log ++ (call.notes key outcome world command).toList) call
          (rest (Command.exec outcome command world).1)) := by
  obtain start | ⟨prev, finishing, comes⟩ := stands
  · obtain ⟨rest', program, after⟩ := @program_eq engine call
    rw [program] at start
    cases start
    refine ⟨stored.of_get _ outcome, ?_⟩
    obtain finished | ⟨prev, answered, finishing⟩ :=
      after (Command.exec outcome (.redis (.get (call.key engine))) world).1
    · exact .inl finished
    · refine .inr (.inr ⟨prev, finishing, fun own => ?_⟩)
      rw [own] at answered ⊢
      obtain ⟨calls, grown, among⟩ := Stands.of_get stored answered
      exact ⟨calls, among, grown⟩
  · obtain ⟨rfl, later⟩ | ⟨context, now, rfl, update, finished⟩ := finishing
    · have still : (Command.exec outcome .now world).2 = world := by cases outcome <;> rfl
      have silent : call.notes key outcome world .now = none := rfl
      rw [still, silent, Option.toList_none, List.append_nil]
      exact ⟨stored, .inr (.inr ⟨prev, later _, comes⟩)⟩
    · exact ⟨stored.of_save update comes outcome, .inl (finished _)⟩

theorem Stands.settle {rest : Procedure call.Result}
    (stands : (∃ value, rest = .done value) ∨ Stands lineage engine key log call rest)
    {call' : Call} {rest' : Procedure call'.Result}
    (running : (System.settle call rest : engine.clients.Thread) = .running call' rest') :
    Stands lineage engine key log call' rest' := by
  obtain ⟨rfl, same⟩ := settle_running running
  obtain rfl := eq_of_heq same
  obtain ⟨value, rfl⟩ | stands := stands
  · cases running
  · exact stands

/-- The context and the calls under way. -/
structure Keeps (lineage : Lineage) (engine : RiskEngine) (key : RedisKey) (log : List Entry)
    (config : engine.clients.Config) : Prop where
  stored : Stored lineage key log config.world
  threads : ∀ client (call : Call) (rest : Procedure call.Result),
    config.threads client = .running call rest → Stands lineage engine key log call rest

/-- Calls under way are not led astray by the others: there are none, or more calls in the history
do no harm. -/
def Undisturbed (lineage : Lineage) (config : engine.clients.Config) : Prop :=
  (∀ log calls entry, lineage.of log calls → lineage.of (log ++ [entry]) calls) ∨
    ∀ first second, (config.threads first).isRunning = true →
      (config.threads second).isRunning = true → first = second

theorem Stands.later {rest : Procedure call.Result}
    (lasting : ∀ log calls entry, lineage.of log calls → lineage.of (log ++ [entry]) calls)
    (stands : Stands lineage engine key log call rest) (noted : Option Entry) :
    Stands lineage engine key (log ++ noted.toList) call rest := by
  cases noted with
  | none =>
    rw [Option.toList_none, List.append_nil]
    exact stands
  | some entry =>
    obtain start | ⟨prev, finishing, comes⟩ := stands
    · exact .inl start
    · refine .inr ⟨prev, finishing, fun own => ?_⟩
      obtain ⟨calls, among, grown⟩ := comes own
      exact ⟨calls, lasting log calls entry among, grown⟩

theorem Keeps.step {config next : engine.clients.Config} {action : engine.clients.Action}
    (undisturbed : Undisturbed lineage config) (moves : config.step? action = some next)
    (keeps : Keeps lineage engine key log config) :
    Keeps lineage engine key (log ++ (noted engine key config action).toList) next := by
  obtain ⟨client, call, rfl, idle, rfl⟩ | ⟨client, outcome, call, command, rest, rfl, running, rfl⟩ |
    ⟨event, rfl, rfl⟩ := step?_cases moves
  · rw [noted, Option.toList_none, List.append_nil]
    refine ⟨keeps.stored, fun other call' rest' state => ?_⟩
    by_cases same : other = client
    · subst same
      simp only [Function.update_self] at state
      exact Stands.settle (.inr (.inl rfl)) state
    · simp only [Function.update_of_ne same] at state
      exact keeps.threads other call' rest' state
  · have notes : noted engine key config (.step client outcome) =
        call.notes key outcome config.world command := by rw [noted, running]
    obtain ⟨stored, stands⟩ := (keeps.threads client call _ running).command keeps.stored outcome
    rw [notes]
    refine ⟨stored, fun other call' rest' state => ?_⟩
    by_cases same : other = client
    · subst same
      simp only [Function.update_self] at state
      exact Stands.settle stands state
    · simp only [Function.update_of_ne same] at state
      obtain lasting | alone := undisturbed
      · exact (keeps.threads other call' rest' state).later lasting _
      · refine absurd (alone other client ?_ ?_) same
        · rw [state]
          rfl
        · rw [running]
          rfl
  · rw [noted, Option.toList_none, List.append_nil]
    refine ⟨fun value found => ?_, keeps.threads⟩
    have found : (environment event config.world).lookup key = some value := found
    rcases environment_lookup event config.world key with same | gone
    · rw [same] at found
      exact keeps.stored value found
    · rw [gone] at found
      cases found

variable {permitted : engine.clients.Config → engine.clients.Action → Prop}
variable {actions : List engine.clients.Action} {last : engine.clients.Config}

private theorem keeps_of_run (missing : world.lookup key = none)
    (run : Run permitted (.initial world) actions last)
    (undisturbed : ∀ config action, permitted config action → Undisturbed lineage config) :
    Keeps lineage engine key ((Config.initial world).history (noted engine key) actions) last := by
  have initially : Keeps lineage engine key [] (Config.initial world : engine.clients.Config) := by
    refine ⟨fun value found => ?_, fun client call rest running => ?_⟩
    · have found : world.lookup key = some value := found
      rw [missing] at found
      cases found
    · cases running
  exact run.history_invariant (Keeps lineage engine key) (fun log config action next allowed moves
    keeps => keeps.step (undisturbed config action allowed) moves) initially

private theorem riskSignals_ends (ctx : RiskRequestContext) (prev : Option SessionContext) :
    (engine.riskSignals ctx prev).Ends fun signals =>
      ∃ travelled, tally ctx travelled prev = weigh signals := by
  cases prev with
  | none => exact ⟨none, rfl⟩
  | some prev =>
    have journey := Program.ends_of_forall (fun _ => trivial) (engine.travelled prev ctx)
    exact journey.bind fun travelled _ => ⟨travelled, tallyAgainst_eq prev ctx travelled⟩

/-- What a call returns. -/
def Tells : (call : Call) → call.Result → Prop
  | .evaluate ctx, .ok assessment => Assessed ctx assessment ∧
      assessment.score = min 100 (assessment.signals.map RiskSignal.weight).sum
  | .evaluate _, .error _ | .recordFailedAttempt _, _ => True

theorem program_ends (call : Call) : (call.program engine).Ends (Tells call) := by
  cases call with
  | recordFailedAttempt userId => exact Program.ends_of_forall (fun _ => trivial) _
  | evaluate ctx =>
    have read := Program.ends_of_forall (fun _ => trivial)
      (loadSessionContextRaw (engine.sessionContextKey ctx.userId))
    refine read.bind fun answer _ => ?_
    cases answer with
    | error error => exact trivial
    | ok prev =>
      refine (riskSignals_ends ctx prev).bind fun signals told => ?_
      obtain ⟨travelled, same⟩ := told
      have wrote := Program.ends_of_forall (fun _ => trivial) (engine.updateSessionContext ctx prev)
      refine wrote.bind fun answer _ => ?_
      cases answer with
      | error error => exact trivial
      | ok done =>
        refine ⟨⟨prev, travelled, ?_, ?_⟩, Nat.min_comm _ _⟩
        · rw [same]
          rfl
        · rw [same]
          rfl

/-- Whatever calls are made for users from no context of a user on, and however they interleave,
the context of the user knows the addresses and devices that some of the calls that saved it added
last; when the calls take turns, all of those since none was found. An assessment's score is the
sum of the weights of its signals, at most 100. -/
theorem contexts_recent (engine : RiskEngine) (userId : String) {world : World}
    {last : engine.clients.Config} {actions : List engine.clients.Action}
    (missing : world.lookup (engine.sessionContextKey userId) = none)
    (run : Run (fun _ _ => True) (.initial world) actions last) :
    let history :=
      (Config.initial world).history (noted engine (engine.sessionContextKey userId)) actions
    (∀ value, last.world.lookup (engine.sessionContextKey userId) = some value →
      ∃ context, value = .context context ∧
        (∃ calls, calls.Sublist (history.filterMap Entry.call?) ∧ Recent calls context) ∧
        (Run InTurn (.initial world) actions last → Recent (sinceMissed history) context)) ∧
    ∀ client ctx assessment, last.threads client = .returned (.evaluate ctx) (.ok assessment) →
      Assessed ctx assessment ∧
        assessment.score = min 100 (assessment.signals.map RiskSignal.weight).sum := by
  refine ⟨fun value found => ?_, fun client ctx assessment returned => ?_⟩
  · have among : Keeps amongSaved engine _ _ last :=
      keeps_of_run missing run fun config action _ => .inl amongSaved_lasting
    obtain ⟨context, calls, rfl, sub, grown⟩ := among.stored value found
    refine ⟨context, rfl, ⟨calls, sub, grown.recent⟩, fun serial => ?_⟩
    have since : Keeps sinceLastMissed engine _ _ last :=
      keeps_of_run missing (serial.turns fun _ _ inTurn => inTurn) fun config action allowed =>
        .inr fun first second running other => by
          obtain ⟨turn, turns⟩ := allowed.2
          rw [turns.running running, turns.running other]
    obtain ⟨same, calls, value_eq, all, grown⟩ := since.stored _ found
    cases value_eq
    rw [← (all : calls = _)]
    exact grown.recent
  · have ends : (last.threads client).Ends Tells := run.ends program_ends (fun _ => trivial) client
    rw [returned] at ends
    exact ends

/-- The client has been told an assessment. -/
def assessed {engine : RiskEngine} : engine.clients.Thread → Bool
  | .returned (.evaluate _) (.ok _) => true
  | _ => false

private theorem eq_of_assessed {engine : RiskEngine} {thread : engine.clients.Thread}
    (told : assessed thread = true) :
    ∃ ctx assessment, thread = .returned (.evaluate ctx) (.ok assessment) := by
  cases thread with
  | idle => cases told
  | running call rest => cases told
  | returned call value =>
    cases call with
    | recordFailedAttempt userId => cases told
    | evaluate ctx =>
      cases value with
      | error error => cases told
      | ok assessment => exact ⟨ctx, assessment, rfl⟩

/-- A user is seen twice at one address, and fails once. -/
theorem contexts_recent_two :
    let engine : RiskEngine := ⟨fun userId => userId, fun _ _ _ => none⟩
    ∃ (actions : List engine.clients.Action) (last : engine.clients.Config),
      Run InTurn (.initial (World.empty 1000)) actions last ∧
      (∃ context, last.world.lookup (.riskContext "user_1") = some (.context context) ∧
        context.failedAttempts = 1 ∧
        Recent (sinceMissed ((Config.initial (World.empty 1000)).history
          (noted engine (.riskContext "user_1")) actions)) context) ∧
      ∃ ctx assessment, last.threads 1 = .returned (.evaluate ctx) (.ok assessment) ∧
        assessment.score = min 100 (assessment.signals.map RiskSignal.weight).sum := by
  intro engine
  have evaluated : Config.runsTo InTurn (.initial (World.empty 1000) : engine.clients.Config)
      [.start 0 (.evaluate ⟨"user_1", "10.0.0.1", "agent", none, some "device"⟩),
        .step 0 .success, .step 0 .success, .step 0 .success,
        .start 1 (.evaluate ⟨"user_1", "10.0.0.1", "agent", none, some "device"⟩),
        .step 1 .success, .step 1 .success, .step 1 .success,
        .start 2 (.recordFailedAttempt "user_1"), .step 2 .success, .step 2 .success]
      (fun last => decide (last.world.lookup (.riskContext "user_1") = some (.context
          ⟨"user_1", "10.0.0.1", none, some "device", 1, 1, ["10.0.0.1"], ["device"]⟩)) &&
        assessed (last.threads 1)) = true := by
    decide +kernel
  obtain ⟨last, run, facts⟩ := Run.of_runsTo evaluated
  simp only [Bool.and_eq_true, decide_eq_true_eq] at facts
  obtain ⟨stored, returned⟩ := facts
  have missing : (World.empty 1000).lookup (engine.sessionContextKey "user_1") = none := rfl
  obtain ⟨contexts, assessments⟩ :=
    contexts_recent engine "user_1" missing (run.mono fun _ _ _ => trivial)
  refine ⟨_, last, run, ?_, ?_⟩
  · obtain ⟨context, same, _, recent⟩ := contexts _ stored
    cases same
    exact ⟨_, stored, rfl, recent run⟩
  · obtain ⟨ctx, assessment, told⟩ := eq_of_assessed returned
    exact ⟨ctx, assessment, told, (assessments 1 ctx assessment told).2⟩

end Runs

end RiskEngine
end BrainMate.Gateway
