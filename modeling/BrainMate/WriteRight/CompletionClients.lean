import BrainMate.WriteRight.Clients
import BrainMate.WriteRight.CompleteRoute

/-! The clients of the job queue together with the callers of the complete route. -/

namespace BrainMate.WriteRight

open Interleaving System

inductive CompletionCall where
  | queue (call : Call)
  | complete (request : CompletionRequest)
  deriving DecidableEq, Repr

@[reducible] def CompletionCall.Result : CompletionCall → Type
  | .queue call => call.Result
  | .complete _ => CompletionReply

def CompletionCall.program (settings : Settings) (workerSecret : Option String) :
    (call : CompletionCall) → Program CompletionCommand CompletionCommand.Reply call.Result
  | .queue call => (call.program settings).embed .queue fun _ reply => reply
  | .complete request => completeJob workerSecret request

@[reducible] def completions (settings : Settings) (workerSecret : Option String) :
    System CompletionCommand CompletionCommand.Reply where
  World := CompletionWorld
  Outcome := Outcome
  Event := Event
  Call := CompletionCall
  Result := CompletionCall.Result
  exec := CompletionCommand.exec
  environment event world := { world with queue := event.apply world.queue }
  program := CompletionCall.program settings workerSecret

def CompletionWorld.ofQueue (queue : World) (details : String → JobDetails) : CompletionWorld :=
  ⟨queue, details, fun _ => none, fun _ => none, fun _ => none⟩

end BrainMate.WriteRight
