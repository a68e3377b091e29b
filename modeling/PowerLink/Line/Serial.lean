import PowerLink.Line.Transport

/-!
# Serial lines

A serial port hands out what has arrived so far, in pieces of any size, so a read asks
it again until it has all the bytes. It gives up when the port has nothing to offer in
time, and goes on when it was merely interrupted.
-/

namespace PowerLink

/-- What a port answers when it is asked for bytes. -/
inductive Arrival
  /-- The next bytes; none of them mean the end of the line. -/
  | bytes (chunk : Bytes)
  | timedOut
  | interrupted
  | failed (text : String)
  deriving DecidableEq, Repr

namespace Arrival

/-- Collects bytes until there is no room for more, or no more bytes come. A piece with
more bytes than there is room for stays at the port with its rest. -/
def collect (room : Nat) : List Arrival → Except String Bytes × List Arrival
  | [] => (.ok [], [])
  | arrival :: rest =>
    if room = 0 then (.ok [], arrival :: rest)
    else
      match arrival with
      | .timedOut | .bytes [] => (.ok [], rest)
      | .interrupted => collect room rest
      | .failed text => (.error text, rest)
      | .bytes chunk =>
        if room < chunk.length then
          (.ok (chunk.take room), .bytes (chunk.drop room) :: rest)
        else
          let (more, rest) := collect (room - chunk.length) rest
          (more.map (chunk ++ ·), rest)

/-- Reads exactly `size` bytes. -/
def read (size : Nat) (arrivals : List Arrival) :
    Except TransportError (Chunk size) × List Arrival :=
  match collect size arrivals with
  | (.error text, rest) => (.error (.io text), rest)
  | (.ok got, rest) =>
    if hfull : got.length = size then (.ok ⟨got, hfull⟩, rest)
    else (.error (.shortRead size got.length), rest)

end Arrival

structure SerialLine where
  /-- Whether the machine has such a port. -/
  isPresent : Bool
  isOpen : Bool
  /-- Whether the other end has hung up. -/
  isCut : Bool
  arrivals : List Arrival
  deriving DecidableEq, Repr

namespace SerialLine

def closed : SerialLine := ⟨true, false, false, []⟩

/-- A port that the machine does not have. -/
def missing : SerialLine := ⟨false, false, false, []⟩

/-- More bytes arrive at the port. -/
def feed (line : SerialLine) (bytes : Bytes) : SerialLine :=
  if bytes.isEmpty then line
  else { line with arrivals := line.arrivals ++ [.bytes bytes] }

/-- What arrived before the line was opened is dropped. -/
def open? (line : SerialLine) : Except TransportError Unit × SerialLine :=
  if line.isPresent then (.ok (), { line with isOpen := true, arrivals := [] })
  else (.error (.serial "No such file or directory"), line)

def broken : TransportError := .io "Broken pipe"

def read (size : Nat) (line : SerialLine) :
    Except TransportError (Chunk size) × SerialLine :=
  if ¬ line.isOpen then (.error .notOpen, line)
  else if line.isCut ∧ 0 < size then (.error broken, line)
  else
    let (result, arrivals) := Arrival.read size line.arrivals
    (result, { line with arrivals })

def write (line : SerialLine) : Except TransportError Unit × SerialLine :=
  if ¬ line.isOpen then (.error .notOpen, line)
  else if line.isCut then (.error broken, line)
  else (.ok (), line)

def flush (line : SerialLine) : Except TransportError Unit × SerialLine :=
  if line.isOpen then (.ok (), line) else (.error .notOpen, line)

def close (line : SerialLine) : Except TransportError Unit × SerialLine :=
  (.ok (), { line with isOpen := false })

end SerialLine

instance : Transport (StateM SerialLine) where
  openLine := SerialLine.open?
  read := SerialLine.read
  write _ := SerialLine.write
  flush := SerialLine.flush
  closeLine := SerialLine.close

end PowerLink
