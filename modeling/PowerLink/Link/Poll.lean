import PowerLink.Link.Endpoint

/-!
# Polling

A polling pass sends every command of the attributes and timeseries sections without
params and merges the replies, where a later reply wins. A failed exchange is logged
and left out; only a line that does not work any more ends the pass.
-/

namespace PowerLink

/-- The merged replies of one pass. -/
structure PollReport where
  attributes : Record
  telemetry : Record
  deriving DecidableEq, Repr

def PollReport.toJson (report : PollReport) : String :=
  "\x7b\"attributes\":" ++ report.attributes.toJson ++
    ",\"telemetry\":" ++ report.telemetry.toJson ++ "\x7d"

/-- Whether no further exchange is worth a try. -/
def LinkError.endsPass : LinkError → Bool
  | .transport e => e.isFatal
  | _ => false

variable {m : Type → Type} [Monad m] [Transport m] [Journal m]

open LinkT

namespace Endpoint

/-- Sends a command without params, and merges its reply into the record. -/
def pollCommand (endpoint : Endpoint) (merged : Record) (command : Command) :
    LinkT m Record := do
  match ← attempt (endpoint.send command.key .empty) with
  | .ok (.reply record) => return merged.merge record
  | .ok _ => return merged
  | .error e =>
    if e.endsPass then
      throw e
    else
      note (.pollFailed command.key e)
      return merged

def pollCommands (endpoint : Endpoint) (merged : Record) :
    List Command → LinkT m Record
  | [] => return merged
  | command :: rest => do
    endpoint.pollCommands (← endpoint.pollCommand merged command) rest

def poll (endpoint : Endpoint) : LinkT m PollReport := do
  let attributes ←
    endpoint.pollCommands .empty (endpoint.registry.group .attributes)
  let telemetry ←
    endpoint.pollCommands .empty (endpoint.registry.group .timeseries)
  return ⟨attributes, telemetry⟩

end Endpoint

end PowerLink
