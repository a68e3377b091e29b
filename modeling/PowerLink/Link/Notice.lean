import PowerLink.Link.Error

/-!
# Notices and printed texts

What is logged on the way, apart from results and errors, and where it goes: notices
into a journal, results and complaints to a terminal.
-/

namespace PowerLink

inductive Notice
  | frameRefused (e : FrameError)
  | unknownCommand (key : String)
  | frameNotBuilt (key : String) (e : CodecError)
  | rejectedByDevice (key : String) (code : ReturnCode)
  | pollFailed (key : String) (e : LinkError)
  | closeFailed (e : TransportError)
  | cannedMisfit (key : String) (e : CodecError)
  | partialFrame (e : TransportError)
  | requestRejected (e : LinkError)
  /-- A failure that no return code reports. -/
  | requestDropped (e : LinkError)
  /-- A device gives up because its line does not work. -/
  | lineLost (e : LinkError)

namespace Notice

inductive Severity
  | warning
  | error
  deriving DecidableEq, Repr

def severity : Notice → Severity
  | .lineLost _ => .error
  | _ => .warning

/-- The part of the program that a notice comes from. -/
def topic : Notice → String
  | .frameRefused _ => "ydt_serial_link::ydt_decoder"
  | .unknownCommand _ | .frameNotBuilt .. | .rejectedByDevice .. | .pollFailed ..
  | .closeFailed _ => "ydt_serial_link::engine"
  | .cannedMisfit .. | .partialFrame _ | .requestRejected _ | .requestDropped _
  | .lineLost _ => "ydt_serial_link"

def text : Notice → String
  | .frameRefused e => e.warning?.getD e.message
  | .unknownCommand key => s!"Command '{key}' not found in configuration"
  | .frameNotBuilt key e => s!"Failed to build frame for '{key}': {e.message}"
  | .rejectedByDevice key code => s!"'{key}' rejected by device: {code.name}"
  | .pollFailed key e => s!"Polling '{key}' failed: {e.message}"
  | .closeFailed e => s!"Closing transport failed: {e.message}"
  | .cannedMisfit key e => s!"Canned values for '{key}' do not fit: {e.message}"
  | .partialFrame e => s!"Partial frame dropped: {e.message}"
  | .requestRejected e => s!"Rejected request: {e.message}"
  | .requestDropped e => s!"Dropped request: {e.message}"
  | .lineLost e => e.message

end Notice

class Journal (m : Type → Type) where
  note : Notice → m Unit

/-- Where a program prints its results, and where it complains. -/
class Terminal (m : Type → Type) where
  /-- Prints a text and ends the line. -/
  print : String → m Unit
  complain : String → m Unit

end PowerLink
