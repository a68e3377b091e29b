import PowerLink.Line.Serial

/-!
# Scripted devices

A serial line with a device at its other end that answers by a script: every write of
the program is followed by the next reply of the list, and by silence once the list is
used up.
-/

namespace PowerLink

structure Device where
  line : SerialLine
  /-- The replies to come; an empty one is no answer. -/
  replies : List Bytes
  deriving DecidableEq, Repr

namespace Device

def ofReplies (replies : List Bytes) : Device :=
  ⟨.closed, replies⟩

/-- Lets the device send bytes of its own accord. -/
def send (device : Device) (bytes : Bytes) : Device :=
  { device with line := device.line.feed bytes }

/-- The device hangs up. -/
def cut (device : Device) : Device :=
  { device with line := { device.line with isCut := true } }

/-- Whether nothing more waits to be read. -/
def isSilent (device : Device) : Bool :=
  device.line.arrivals.isEmpty

/-- Does something to the line alone. -/
def onLine {α : Type} (act : StateM SerialLine α) : StateM Device α := fun device =>
  let (result, line) := act device.line
  (result, { device with line })

/-- A write that succeeds brings the next reply. -/
def write (bytes : Bytes) : StateM Device (Except TransportError Unit) := fun device =>
  match onLine (Transport.write bytes) device with
  | (.ok (), device) =>
    match device.replies with
    | reply :: replies => (.ok (), { device with replies }.send reply)
    | [] => (.ok (), device)
  | failed => failed

end Device

instance : Transport (StateM Device) where
  openLine := Device.onLine Transport.openLine
  read size := Device.onLine (Transport.read size)
  write := Device.write
  flush := Device.onLine Transport.flush
  closeLine := Device.onLine Transport.closeLine

end PowerLink
