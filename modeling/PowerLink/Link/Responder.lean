import PowerLink.Link.Endpoint

/-!
# Responders

A responder acts as the device. For every request it looks up canned values by the
command's key and answers with them; a request that cannot be understood is answered
with a return code. It gives up only when the line does not work any more, or when its
own answer cannot be sent.
-/

namespace PowerLink

structure Responder where
  endpoint : Endpoint
  /-- The values to answer with, by command key. -/
  canned : KeyMap Json

variable {m : Type → Type} [Monad m] [Transport m] [Journal m]

open LinkT

namespace Responder

/-- The values to answer a command with; none are canned for an empty answer. -/
def values (responder : Responder) (command : Command) : Except CodecError Record :=
  match responder.canned.get? command.key with
  | some json => command.valuesOfJson json
  | none => .ok .empty

/-- Answers a request that was understood. -/
def answer (responder : Responder) (command : Command) : LinkT m Unit := do
  match responder.values command with
  | .ok record => responder.endpoint.respond command .ok record
  | .error e =>
    note (.cannedMisfit command.key e)
    responder.endpoint.respond command .invalidData .empty

/-- Deals with a request that was not understood. Without its first identifier it is
answered under identifier zero. -/
def refuse (responder : Responder) (e : LinkError) : LinkT m Unit :=
  match e with
  | .transport cause =>
    if cause.isFatal then do
      note (.lineLost e)
      throw e
    else
      note (.partialFrame cause)
  | e =>
    match e.returnCode? with
    | some code => do
      note (.requestRejected e)
      responder.endpoint.respondCode (e.requestId1?.getD 0) code
    | none => note (.requestDropped e)

/-- Waits for one request and deals with it. -/
def turn (responder : Responder) : LinkT m Unit := do
  match ← attempt responder.endpoint.tryReceive with
  | .ok none => return
  | .ok (some (command, _)) => responder.answer command
  | .error e => responder.refuse e

/-- Takes turns while it is kept running, at most the given number of them. -/
def serve (responder : Responder) (running : m Bool) : Nat → LinkT m Unit
  | 0 => return
  | turns + 1 => do
    if ← (running : m Bool) then
      responder.turn
      responder.serve running turns

end Responder

end PowerLink
