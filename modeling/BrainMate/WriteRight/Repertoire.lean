import BrainMate.WriteRight.Clients

namespace BrainMate.WriteRight

open Interleaving Program

section Handlers

variable {α : Type} {property : Command → Prop}

theorem every_catching {body fallback : Async α} (first : Every property body.run)
    (rest : Every property fallback.run) : Every property (catching body fallback).run := by
  refine Every.rescue first fun failure => ?_
  cases failure with
  | raised error => exact rest
  | timedOut | cancelled => trivial

theorem every_tolerating {body : Async Unit} (first : Every property body.run) :
    Every property (tolerating body).run := by
  refine Every.rescue first fun failure => ?_
  cases failure <;> trivial

end Handlers

/-- The command publishes a stage, asks the model, or reads or writes a row for a worker. -/
def asks : Command → Bool
  | .redis (.publish _ _) | .model _ => true
  | .supabase (.selectJob _ _) | .supabase (.failActiveJob _ _) => false
  | .supabase _ => true
  | _ => false

abbrev Asks {α : Type} (body : Async α) : Prop := body.run.Every fun command => asks command = true

section Worker

variable (job : WritingJob)

private theorem asks_publishStage (stage : String) : Asks (publishStage job stage) :=
  ⟨rfl, fun _ => trivial⟩

private theorem asks_persist (result : AIResult) (injectionDetected : Bool) :
    Asks (persist job result injectionDetected) := by
  refine Every.andThen (every_catching ⟨rfl, fun _ => trivial⟩ trivial) fun _ => ?_
  refine Every.andThen (every_catching ⟨rfl, fun _ => trivial⟩ trivial) fun _ => ?_
  refine Every.andThen (every_catching ⟨rfl, fun _ => trivial⟩ trivial) fun _ => ?_
  exact every_catching ⟨rfl, fun _ => trivial⟩ trivial

private theorem asks_improve (settings : Settings) (history : List (Role × MessageContent))
    (profile : List String) : Asks (improve settings job history profile) := by
  have finish (result : AIResult) (injectionDetected : Bool) : Asks (do
      publishStage job "finalizing"
      persist job result injectionDetected
      return result : Async AIResult) := by
    apply Every.andThen (asks_publishStage job _)
    intro _
    exact Every.andThen (asks_persist job result injectionDetected) fun _ => trivial
  refine Every.andThen ⟨rfl, fun _ => trivial⟩ fun drafted => ?_
  obtain ⟨draft, injectionDetected⟩ := drafted
  cases settings.enableCritiquePipeline with
  | false => exact finish draft injectionDetected
  | true =>
    apply Every.andThen (asks_publishStage job _)
    intro _
    have revised : Asks (critiqueAndRevise draft job) :=
      every_catching ⟨rfl, fun _ => trivial⟩ trivial
    exact Every.andThen revised fun result => finish result injectionDetected

private theorem asks_processJob (settings : Settings) : Asks (processJob settings job) := by
  refine Every.andThen (every_catching ⟨rfl, fun _ => trivial⟩ trivial) fun _ => ?_
  refine Every.andThen (every_catching ⟨rfl, fun _ => trivial⟩ trivial) fun history => ?_
  refine Every.andThen (every_catching ⟨rfl, fun _ => trivial⟩ trivial) fun profile => ?_
  split
  · trivial
  · apply Every.andThen (asks_publishStage job _)
    intro _
    split
    · trivial
    · exact asks_improve job settings history profile

theorem asks_dispatchJob (settings : Settings) : Asks (dispatchJob settings job) := by
  unfold dispatchJob
  split
  · exact asks_processJob job settings
  · trivial

end Worker

/-- The command reads the state of a job, or fails the row of a job that took too long. -/
def reads : Command → Bool
  | .time | .isCircuitOpen => true
  | .redis (.hgetall _) | .redis (.xrange _) => true
  | .supabase (.selectJob _ _) | .supabase (.failActiveJob _ _) => true
  | _ => false

abbrev Reads {α : Type} (body : Async α) : Prop := body.run.Every fun command => reads command = true

private theorem reads_getJobStatus (jobId : String) : Reads (getJobStatus jobId) := by
  refine Every.andThen ⟨rfl, fun _ => trivial⟩ fun hash => ?_
  cases hash <;> trivial

private theorem reads_readJobResult (jobId : String) : Reads (readJobResult jobId) := by
  refine ⟨rfl, fun isOpen => ?_⟩
  cases isOpen with
  | true => trivial
  | false => exact ⟨rfl, fun _ => trivial⟩

private theorem reads_readJobResultOrNull (jobId : String) : Reads (readJobResultOrNull jobId) :=
  Every.rescue (reads_readJobResult jobId) fun _ => trivial

private theorem reads_pollRedis (userId jobId : String) : Reads (pollRedis userId jobId) := by
  refine Every.rescue (Every.andThen (reads_getJobStatus jobId) fun status => ?_) fun _ => trivial
  cases status with
  | none => trivial
  | some status =>
    dsimp only
    split
    · trivial
    · split
      · exact Every.andThen (reads_readJobResult jobId) fun _ => trivial
      · trivial
      · trivial

private theorem reads_selected (userId jobId : String) :
    Reads (rescue (supabase (.selectJob jobId userId)) fun _ => pure none) :=
  Every.rescue ⟨rfl, fun _ => trivial⟩ fun _ => trivial

private theorem reads_pollSupabase (userId jobId : String) : Reads (pollSupabase userId jobId) := by
  refine Every.andThen (reads_selected userId jobId) fun job => ?_
  cases job with
  | none => trivial
  | some job =>
    dsimp only
    split
    · exact Every.andThen (reads_readJobResultOrNull jobId) fun _ => trivial
    · trivial
    · trivial

theorem reads_pollJob (userId : Option String) (jobId : String) : Reads (pollJob userId jobId) := by
  unfold pollJob
  split
  · trivial
  · split
    · refine Every.andThen (reads_pollRedis _ jobId) fun reply => ?_
      cases reply with
      | some reply => trivial
      | none => exact reads_pollSupabase _ jobId
    · trivial

private theorem reads_streamRedis (userId jobId : String) (last : Option Status) :
    Reads (streamRedis userId jobId last) := by
  refine ⟨rfl, fun isOpen => ?_⟩
  cases isOpen with
  | true => trivial
  | false =>
    refine Every.andThen (Every.rescue (reads_getJobStatus jobId) fun _ => trivial) fun status => ?_
    cases status with
    | none => trivial
    | some status =>
      dsimp only
      split
      · trivial
      · split
        · exact Every.rescue (Every.andThen (reads_readJobResult jobId) fun _ => trivial)
            fun _ => trivial
        · trivial
        · trivial

private theorem reads_streamSupabase (userId jobId : String) (last : Option Status) :
    Reads (streamSupabase userId jobId last) := by
  refine Every.andThen (reads_selected userId jobId) fun job => ?_
  cases job with
  | none => trivial
  | some job =>
    dsimp only
    split
    · exact Every.andThen (reads_readJobResultOrNull jobId) fun _ => trivial
    · trivial
    · trivial

private theorem reads_streamRound (userId jobId : String) (last : Option Status) :
    Reads (streamRound userId jobId last) := by
  refine Every.andThen (reads_streamRedis userId jobId last) fun round => ?_
  cases round with
  | some round => trivial
  | none => exact reads_streamSupabase userId jobId last

private theorem reads_streamRounds (userId jobId : String) (start rounds : Nat)
    (last : Option Status) :
    Reads (streamRounds userId jobId start rounds last) := by
  induction rounds generalizing last with
  | zero => trivial
  | succ rounds ih =>
    refine ⟨rfl, fun now => ?_⟩
    change Reads (if streamMaxMs ≤ now - start then pure [] else do
      let round ← streamRound userId jobId last
      if round.done then return round.sent
      else return round.sent ++ (← streamRounds userId jobId start rounds round.lastStatus))
    split
    · trivial
    · refine Every.andThen (reads_streamRound userId jobId last) fun round => ?_
      split
      · trivial
      · exact Every.andThen (ih round.lastStatus) fun _ => trivial

private theorem reads_streamTimeout (jobId : String) (start : Nat) :
    Reads (streamTimeout jobId start) := by
  refine ⟨rfl, fun now => ?_⟩
  change Reads (if streamMaxMs ≤ now - start then do
      rescue (supabase (.failActiveJob jobId "timeout_90s")) (fun _ => pure ())
      return [StreamEvent.error .timeout "This took too long. Try with shorter text."]
    else return [])
  split
  · exact Every.andThen (Every.rescue ⟨rfl, fun _ => trivial⟩ fun _ => trivial) fun _ => trivial
  · trivial

theorem reads_streamJob (userId : Option String) (jobId : String) (rounds : Nat) :
    Reads (streamJob userId jobId rounds) := by
  unfold streamJob
  split
  · trivial
  · split
    · trivial
    · split
      · refine ⟨rfl, fun start => ?_⟩
        exact Every.andThen (reads_streamRounds _ jobId start rounds none) fun _ =>
          Every.andThen (reads_streamTimeout jobId start) fun _ => trivial
      · trivial

end BrainMate.WriteRight
