import PowerLink.Line.Transport
import PowerLink.Line.Wire

/-!
# Lines with faults

A line in memory of which chosen calls fail. A fault names a kind of call and says
which call of that kind it strikes; a struck call does nothing but fail. Calls that the
closed line refuses anyway are not counted.
-/

namespace PowerLink

/-- How a struck call fails. -/
inductive Disturbance
  | notOpen
  | serial (text : String)
  | io (text : String)
  /-- Nothing comes of what was asked for. -/
  | short
  deriving DecidableEq, Repr

def Disturbance.error (call : Call) : Disturbance → TransportError
  | .notOpen => .notOpen
  | .serial text => .serial text
  | .io text => .io text
  | .short => .shortRead call.readSize 0

structure Fault where
  kind : Call.Kind
  /-- Counted from one. -/
  nth : Nat
  disturbance : Disturbance
  deriving DecidableEq, Repr

structure FaultyWire where
  wire : Wire
  faults : List Fault
  /-- The kinds of all counted calls. -/
  counted : List Call.Kind
  deriving DecidableEq, Repr

namespace FaultyWire

def ofWire (wire : Wire) (faults : List Fault) : FaultyWire :=
  ⟨wire, faults, []⟩

/-- Whether the line is closed and the call needs it open. -/
def refuses (line : FaultyWire) (call : Call) : Bool :=
  !line.wire.isOpen && (call.kind = .read || call.kind = .write)

/-- The line with one more call counted. -/
def count (line : FaultyWire) (kind : Call.Kind) : FaultyWire :=
  { line with
    wire := if kind = .read then line.wire.asked else line.wire
    counted := kind :: line.counted }

/-- The fault that strikes the last counted call. -/
def fault? (line : FaultyWire) (kind : Call.Kind) : Option Fault :=
  line.faults.find? fun fault =>
    fault.kind = kind && fault.nth = line.counted.count kind

def attempt {α : Type} (call : Call) (act : Wire → Except TransportError α × Wire)
    (line : FaultyWire) : Except TransportError α × FaultyWire :=
  if line.refuses call then (.error .notOpen, line)
  else
    let line := line.count call.kind
    match line.fault? call.kind with
    | some fault => (.error (fault.disturbance.error call), line)
    | none =>
      let (result, wire) := act line.wire
      (result, { line with wire })

end FaultyWire

instance : Transport (StateM FaultyWire) where
  openLine := FaultyWire.attempt .openLine (Wire.setOpen true)
  read size := FaultyWire.attempt (.read size) (Wire.read size)
  write bytes := FaultyWire.attempt (.write bytes) Wire.write
  flush := FaultyWire.attempt .flush fun wire => (.ok (), wire)
  closeLine := FaultyWire.attempt .closeLine (Wire.setOpen false)

end PowerLink
