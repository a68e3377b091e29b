import PowerLink.Bytes

/-!
# Transports

A transport is the access to a half-duplex byte line. A read returns exactly the
number of bytes asked for or fails; how long it waits is the transport's affair, and
bytes of a read that stays short are lost.
-/

namespace PowerLink

inductive TransportError
  | notOpen
  | shortRead (expected received : Nat)
  /-- A failure of the port itself. -/
  | serial (text : String)
  | io (text : String)
  deriving DecidableEq, Repr

def TransportError.message : TransportError → String
  | .notOpen => "transport is not open"
  | .shortRead expected received =>
    s!"short read: expected {expected} bytes, received {received}"
  | .serial text => s!"serial port error: {text}"
  | .io text => s!"io error: {text}"

/-- What a failed call was caused by, besides the error itself. -/
def TransportError.cause? : TransportError → Option String
  | .serial text | .io text => some text
  | _ => none

/-- Whether the line cannot be used any more; a short read does not count. -/
def TransportError.isFatal : TransportError → Bool
  | .shortRead .. => false
  | _ => true

/-- The bytes of a successful read. -/
structure Chunk (size : Nat) where
  bytes : Bytes
  length_eq : bytes.length = size
  deriving DecidableEq, Repr

namespace Chunk

/-- The only byte of a chunk of one. -/
def byte : Chunk 1 → UInt8
  | ⟨[byte], _⟩ => byte

/-- The two bytes of a chunk of two. -/
def pair : Chunk 2 → UInt8 × UInt8
  | ⟨[first, second], _⟩ => (first, second)

end Chunk

class Transport (m : Type → Type) where
  openLine : m (Except TransportError Unit)
  read (size : Nat) : m (Except TransportError (Chunk size))
  write (bytes : Bytes) : m (Except TransportError Unit)
  flush : m (Except TransportError Unit)
  closeLine : m (Except TransportError Unit)

/-! ## Calls of a transport

What can be asked of a transport, as data.
-/

inductive Call
  | openLine
  | read (size : Nat)
  | write (bytes : Bytes)
  | flush
  | closeLine
  deriving DecidableEq, Repr

namespace Call

inductive Kind
  | openLine
  | read
  | write
  | flush
  | closeLine
  deriving DecidableEq, Repr

def kind : Call → Kind
  | .openLine => .openLine
  | .read _ => .read
  | .write _ => .write
  | .flush => .flush
  | .closeLine => .closeLine

/-- How many bytes a read was to return. -/
def readSize : Call → Nat
  | .read size => size
  | _ => 0

end Call

end PowerLink
