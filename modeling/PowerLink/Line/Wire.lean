import PowerLink.Line.Transport

/-!
# Lines in memory

The plainest line there is: bytes wait on it, a read takes them from the front, and a
read that finds too few of them loses them. Nothing ever disturbs it.
-/

namespace PowerLink

structure Wire where
  /-- Bytes that wait to be read. -/
  inbound : Bytes
  isOpen : Bool
  /-- Whether a read has been tried with no byte on the line. -/
  drained : Bool
  deriving DecidableEq, Repr

namespace Wire

/-- A closed line with bytes on it. -/
def ofInbound (inbound : Bytes) : Wire :=
  ⟨inbound, false, false⟩

def feed (wire : Wire) (bytes : Bytes) : Wire :=
  { wire with inbound := wire.inbound ++ bytes }

def setOpen (isOpen : Bool) (wire : Wire) : Except TransportError Unit × Wire :=
  (.ok (), { wire with isOpen })

/-- The line once a read has been tried, before anything comes of it. -/
def asked (wire : Wire) : Wire :=
  { wire with drained := wire.drained || wire.inbound.isEmpty }

def read (size : Nat) (wire : Wire) : Except TransportError (Chunk size) × Wire :=
  if ¬ wire.isOpen then (.error .notOpen, wire)
  else if henough : size ≤ wire.inbound.length then
    (.ok ⟨wire.inbound.take size, List.length_take_of_le henough⟩,
      { wire.asked with inbound := wire.inbound.drop size })
  else
    (.error (.shortRead size wire.inbound.length), { wire.asked with inbound := [] })

def write (wire : Wire) : Except TransportError Unit × Wire :=
  if wire.isOpen then (.ok (), wire) else (.error .notOpen, wire)

end Wire

instance : Transport (StateM Wire) where
  openLine := Wire.setOpen true
  read := Wire.read
  write _ := Wire.write
  flush wire := (.ok (), wire)
  closeLine := Wire.setOpen false

end PowerLink
