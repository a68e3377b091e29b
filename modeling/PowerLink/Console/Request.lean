import PowerLink.Link.Endpoint

/-!
# Typed requests

A request as it is typed: the key of a command and its params as a JSON text. Its
outcome is one printed line, or one of the errors below.
-/

namespace PowerLink

inductive RequestError
  /-- The params are no JSON text. -/
  | malformed (flaw : Json.Flaw)
  | misfit (e : CodecError)
  | unknownCommand (key : String)
  | frameNotBuilt (key : String)
  | link (e : LinkError)

namespace RequestError

def message : RequestError → String
  | .malformed _ => "Params are not valid JSON"
  | .misfit e => e.message
  | .unknownCommand key => s!"Command '{key}' not found"
  | .frameNotBuilt key => s!"Could not build a frame for '{key}', check its params"
  | .link e => e.message

/-- The messages of the error and its causes, outermost first. -/
def chain : RequestError → List String
  | .link e => e.chain
  | e => [e.message]

end RequestError

/-- The record for a request. A key that no command has is left to be found out by the
attempt to send it. -/
def Registry.readRequest (registry : Registry) (key data : String) :
    Except RequestError Record := do
  let json ← (Json.ofText data).mapError .malformed
  match registry.byKey? key with
  | some command => (command.paramsOfJson json).mapError .misfit
  | none => return .empty

/-- What is printed about an outcome. -/
def Outcome.line (key : String) : Outcome → Except RequestError String
  | .unknownCommand => .error (.unknownCommand key)
  | .frameNotBuilt => .error (.frameNotBuilt key)
  | .sent => .ok s!"{key}: sent"
  | .reply record => .ok s!"{key}: {record.toJson}"

variable {m : Type → Type} [Monad m] [Transport m] [Journal m]

/-- Reads a request, sends it and returns the line to print. -/
def Endpoint.request (endpoint : Endpoint) (key data : String) :
    ExceptT RequestError m String := do
  let record ← ExceptT.mk (pure (endpoint.registry.readRequest key data))
  let sent ← ExceptT.lift (endpoint.send (m := m) key record).run
  let outcome ← ExceptT.mk (pure (sent.mapError .link))
  ExceptT.mk (pure (outcome.line key))

end PowerLink
