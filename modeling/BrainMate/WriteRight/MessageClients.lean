import BrainMate.WriteRight.MessageRoute

/-! Any number of requests to POST /api/writeright/message as one system. -/

namespace BrainMate.WriteRight

open Interleaving System Text

inductive MessageEvent where
  | advance (millis : Nat)
  /-- The workers and the other routes change what they share with this one. -/
  | others (queue : World)

/-- The clock is nobody's to change. -/
def MessageEvent.apply : MessageEvent → Service → Service
  | .advance millis, service =>
    { service with queue := { service.queue with clock := service.queue.clock + millis } }
  | .others queue, service =>
    { service with queue := { queue with clock := service.queue.clock } }

@[reducible] def messageService (platform : ServicePlatform) :
    System MessageCommand MessageCommand.Reply where
  World := Service
  Outcome := Dealing
  Event := MessageEvent
  Call := MessageRequest
  Result _ := MessageReply
  exec := MessageCommand.exec
  environment := MessageEvent.apply
  program := postMessage platform

def sampleServicePlatform : ServicePlatform where
  toTextPlatform := samplePlatform
  periodKey _ := "2026-01"
  stringify result := result.improvedText
  improvedText? _ := none
  traceparent := none

def sampleRequest : MessageRequest where
  userId := some "user"
  idempotencyHeader := some (units "key")
  body := .typed (sampleBody (units "please reply to this"))

/-- The user has the chat of the sample request, and the given quota. -/
def sampleServiceWorld (requests : Nat) : Service where
  queue := World.empty 0
  chats chatId := if chatId = "0a0a0a0a-0000-4000-8000-000000000001" then some ⟨"user", false⟩ else none
  sent := []
  tiers _ := none
  quota _ _ := some ⟨requests, 0⟩
  idempotency _ := none
  ratelimit _ := none
  gmail _ := ⟨.ok false, .ok []⟩

/-- Every command succeeds. -/
def succeeding : Dealing := { outcome := .ok }

/-- Every command succeeds, and the database generates this id. -/
def generating (id : String) : Dealing := { outcome := .ok, id := id }

end BrainMate.WriteRight
