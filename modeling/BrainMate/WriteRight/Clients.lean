import BrainMate.WriteRight.QueueConsumer
import BrainMate.WriteRight.Routes

/-! The clients of the job queue as one system: enqueuing routes, rounds of the consumer
loops of any number of workers, heartbeats, polls and event streams. -/

namespace BrainMate.WriteRight

open Interleaving System

inductive Call where
  | enqueue (payload : WritingJobPayload)
  | consume (workerId : String)
  | heartbeat (jobId lockValue : String)
  | poll (userId : Option String) (jobId : String)
  | stream (userId : Option String) (jobId : String) (rounds : Nat)
  deriving DecidableEq, Repr

@[reducible] def Call.Result : Call → Type
  | .enqueue _ | .consume _ => Except Failure Unit
  | .heartbeat _ _ => Except Failure Bool
  | .poll _ _ => Except Failure JobReply
  | .stream _ _ _ => Except Failure (List StreamEvent)

def Call.program (settings : Settings) :
    (call : Call) → Program Command Command.Reply call.Result
  | .enqueue payload => (enqueueWriteRightJob payload).run
  | .consume workerId => (consumeJob settings workerId).run
  | .heartbeat jobId lockValue => (heartbeatLock jobId lockValue).run
  | .poll userId jobId => (pollJob userId jobId).run
  | .stream userId jobId rounds => (streamJob userId jobId rounds).run

inductive Event where
  | advance (millis : Nat)
  /-- The lock of a job is deleted. -/
  | dropLock (jobId : String)
  deriving DecidableEq, Repr

def Event.apply : Event → World → World
  | .advance millis, world => { world with clock := world.clock + millis }
  | .dropLock jobId, world => { world with locks := Function.update world.locks jobId none }

@[reducible] def jobQueue (settings : Settings) : System Command Command.Reply where
  World := World
  Outcome := Outcome
  Event := Event
  Call := Call
  Result := Call.Result
  exec := Command.exec
  environment := Event.apply
  program := Call.program settings

def sampleSettings : Settings := { isalpha := Char.isAlpha }

def samplePayload : WritingJobPayload where
  id := "0a0a0a0a-0000-4000-8000-000000000001"
  chatId := "chat"
  userId := "user"
  messageId := "message"
  content := "please reply to this mail"
  tone := "Friendly"
  mode := "email"
  outputLanguage := none
  history := none
  intensity := none
  quick := none
  attempt := 0
  traceparent := none

/-- A client's next commands all succeed. -/
def turns (client count : Nat) : List (jobQueue sampleSettings).Move :=
  List.replicate count (.act (.step client .ok))

/-- A worker takes the sample job, and the model does not answer. -/
def failingRound (client : Nat) (workerId : String) : List (jobQueue sampleSettings).Move :=
  .act (.start client (.consume workerId)) :: turns client 11 ++
    [.act (.step client (.failed false (.raised "model unavailable")))]

def sampleResult : AIResult := { improvedText := "Please reply to this mail." }

/-- A worker takes the sample job, the model answers, and the status is `completed`. -/
def completingRound (client : Nat) (workerId : String) : List (jobQueue sampleSettings).Move :=
  .act (.start client (.consume workerId)) :: turns client 11 ++
    .act (.step client (.drafted sampleResult false)) :: turns client 7

/-- The sample job is enqueued. -/
def enqueuing (client : Nat) : List (jobQueue sampleSettings).Move :=
  .act (.start client (.enqueue samplePayload)) :: turns client 5

end BrainMate.WriteRight
