import PowerLink.Frame.Basic
import PowerLink.Link.Notice
import PowerLink.Schema.Registry

/-!
# Endpoints

One end of the line, with the commands it knows and the address it puts into its
frames. A client sends a command and awaits its reply; a device receives requests and
answers them. One exchange is under way at a time, nothing is kept between calls, and
after a failure the next call reads on wherever the line stands.
-/

namespace PowerLink

structure Endpoint where
  registry : Registry
  address : UInt8

/-- An exchange over a transport, which may fail. -/
abbrev LinkT (m : Type → Type) (α : Type) := ExceptT LinkError m α

variable {m : Type → Type} [Monad m] [Transport m] [Journal m]

namespace LinkT

/-- A call of the transport, whose failure is passed on. -/
def call {α : Type} (action : m (Except TransportError α)) : LinkT m α :=
  ExceptT.mk do return (← action).mapError .transport

def read (size : Nat) : LinkT m (Chunk size) :=
  call (Transport.read size)

/-- Writes a whole frame and flushes. -/
def sendFrame (frame : Bytes) : LinkT m Unit := do
  call (Transport.write frame)
  call Transport.flush

def note (notice : Notice) : LinkT m Unit :=
  liftM (Journal.note notice : m Unit)

/-- Runs an exchange and hands out its failure. -/
def attempt {α : Type} (exchange : LinkT m α) : LinkT m (Except LinkError α) :=
  ExceptT.lift exchange.run

/-- Reads the rest of a frame, field by field, behind its first byte. -/
def receiveAfter (start : UInt8) : LinkT m Bytes := do
  if start ≠ Frame.startMarker then
    throw (.frame (.strayStart start))
  let header ← read 4
  let length ← read 2
  let size ←
    match LengthField.decode length.pair.1 length.pair.2 with
    | .ok size => pure size
    | .error e => throw (.frame e)
  let info ← read size
  let check ← read 2
  let last ← read 1
  if last.byte ≠ Frame.endMarker then
    throw (.frame (.strayEnd last.byte))
  return start ::
    (header.bytes ++ length.bytes ++ info.bytes ++ check.bytes ++ last.bytes)

def receiveFrame : LinkT m Bytes := do
  receiveAfter (← read 1).byte

/-- Takes a frame apart, and logs what is wrong with it. -/
def openFrame (bytes : Bytes) : LinkT m Frame :=
  match Frame.decode bytes with
  | .ok frame => pure frame
  | .error e => do
    if e.warning?.isSome then
      note (.frameRefused e)
    throw (.frame e)

end LinkT

open LinkT

/-- What became of a command that was to be sent. -/
inductive Outcome
  /-- No command has the key; nothing was sent. -/
  | unknownCommand
  /-- The params do not fit; nothing was sent. -/
  | frameNotBuilt
  /-- Sent, and no reply is awaited. -/
  | sent
  | reply (record : Record)
  deriving DecidableEq, Repr

namespace Endpoint

/-! ## Connection -/

def connect : LinkT m Unit :=
  call Transport.openLine

/-- Closes the line; a failure is only logged. -/
def disconnect : m Unit := do
  match ← Transport.closeLine with
  | .ok () => pure ()
  | .error e => Journal.note (.closeFailed e)

/-! ## Client -/

/-- The frame of a request. -/
def requestFrame (endpoint : Endpoint) (command : Command) (data : Record) :
    Except CodecError Bytes := do
  let info ← Payload.encode .reject data command.params
  let frame : Frame := ⟨endpoint.address, command.id1, command.id2, info⟩
  frame.encode.mapError fun e => .shape command.key (.frame e)

/-- Reads a reply to the command and decodes its values. -/
def awaitReply (command : Command) : LinkT m Record := do
  let frame ← openFrame (← receiveFrame)
  let code := ReturnCode.ofByte frame.id2
  if ¬ code.isOk then
    note (.rejectedByDevice command.key code)
    throw (.rejected code)
  match Payload.decode command.values frame.info with
  | .ok record => return record
  | .error e => throw (.invalidData e)

/-- Sends the command with the given key. If its values are known to come back, reads
exactly one frame. -/
def send (endpoint : Endpoint) (key : String) (data : Record) : LinkT m Outcome := do
  match endpoint.registry.byKey? key with
  | none =>
    note (.unknownCommand key)
    return .unknownCommand
  | some command =>
    match endpoint.requestFrame command data with
    | .error e =>
      note (.frameNotBuilt key e)
      return .frameNotBuilt
    | .ok frame =>
      sendFrame frame
      if command.isUnidirectional then
        return .sent
      else
        return .reply (← awaitReply command)

/-! ## Device -/

/-- The command that a request frame asks for, and its params. -/
def resolve (endpoint : Endpoint) (bytes : Bytes) : LinkT m (Command × Record) := do
  let frame ← openFrame bytes
  match endpoint.registry.byIds? frame.id1 frame.id2 with
  | none => throw (.unknownId frame.id1 frame.id2)
  | some command =>
    match Payload.decode command.params frame.info with
    | .ok record => return (command, record)
    | .error e => throw (.invalidParams frame.id1 frame.id2 e)

/-- Reads one request. -/
def receive (endpoint : Endpoint) : LinkT m (Command × Record) := do
  endpoint.resolve (← receiveFrame)

/-- Reads one request, or nothing if no frame starts in time. -/
def tryReceive (endpoint : Endpoint) : LinkT m (Option (Command × Record)) := do
  match ← (Transport.read 1 : m _) with
  | .error (.shortRead _ 0) => return none
  | .error e => throw (.transport e)
  | .ok start =>
    return some (← endpoint.resolve (← receiveAfter start.byte))

/-- Answers a request with a return code and values. Values that the record lacks are
left out. -/
def respond (endpoint : Endpoint) (command : Command) (code : ReturnCode)
    (data : Record) : LinkT m Unit := do
  match Payload.encode .omit data command.values with
  | .error e => throw (.badReply e)
  | .ok info =>
    let frame : Frame := ⟨endpoint.address, command.id1, code.toByte, info⟩
    match frame.encode with
    | .error e => throw (.frame e)
    | .ok bytes => sendFrame bytes

/-- Answers a request of which only the first identifier may be known. -/
def respondCode (endpoint : Endpoint) (id1 : UInt8) (code : ReturnCode) :
    LinkT m Unit := do
  let frame : Frame := ⟨endpoint.address, id1, code.toByte, []⟩
  match frame.encode with
  | .error e => throw (.frame e)
  | .ok bytes => sendFrame bytes

end Endpoint

end PowerLink
