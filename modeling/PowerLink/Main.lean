import PowerLink.Line.Serial
import PowerLink.Program.LogFilter
import PowerLink.Program.Run

/-!
# The program

The program on a real machine: the serial line is a device file with the settings it
has, results and notices go to standard output, complaints to standard error, and an
interrupt ends the process.
-/

namespace PowerLink

/-- What a run keeps of the machine it runs on. -/
structure Machine where
  logFilter : LogFilter
  settings : IO.Ref SerialSettings
  line : IO.Ref (Option IO.FS.Handle)
  /-- What has been seen of a sequence of typed characters. -/
  reader : IO.Ref KeyReader
  /-- Typed keys that are still to be read. -/
  keys : IO.Ref (List Key)

abbrev MachineM := ReaderT Machine IO

namespace Machine

def ioError (e : IO.Error) : TransportError :=
  .io (toString e)

def attempt {α : Type} (action : IO α) : MachineM (Except TransportError α) := do
  match ← action.toBaseIO with
  | .ok value => return .ok value
  | .error e => return .error (ioError e)

def withLine {α : Type} (use : IO.FS.Handle → IO α) :
    MachineM (Except TransportError α) := do
  match ← (← read).line.get with
  | none => return .error .notOpen
  | some handle => attempt (use handle)

def openLine : MachineM (Except TransportError Unit) := do
  let machine ← read
  let settings ← machine.settings.get
  match ← (IO.FS.Handle.mk settings.port .readWrite).toBaseIO with
  | .ok handle =>
    machine.line.set (some handle)
    return .ok ()
  | .error e => return .error (.serial (toString e))

/-- Asks for bytes until there are enough or none come. -/
def arrivals (handle : IO.FS.Handle) (missing : Nat) : Nat → IO (List Arrival)
  | 0 => return []
  | attempts + 1 => do
    let chunk := (← handle.read missing.toUSize).toList
    if chunk.isEmpty ∨ missing ≤ chunk.length then
      return [.bytes chunk]
    else
      return .bytes chunk :: (← arrivals handle (missing - chunk.length) attempts)

def readLine (size : Nat) : MachineM (Except TransportError (Chunk size)) := do
  match ← withLine fun handle => arrivals handle size size with
  | .ok found => return (Arrival.read size found).1
  | .error e => return .error e

def closeLine : MachineM (Except TransportError Unit) := do
  (← read).line.set none
  return .ok ()

/-- The next typed key; the end of the input is an interrupt. Input that completes no
key counts as a key without use. -/
def nextKey? : MachineM (Option Key) := do
  let machine ← read
  match ← machine.keys.get with
  | key :: keys =>
    machine.keys.set keys
    return some key
  | [] =>
    let line ← (← IO.getStdin).getLine
    if line.isEmpty then return none
    let (reader, keys) := (← machine.reader.get).receive line.toList
    machine.reader.set reader
    machine.keys.set keys.tail
    return some (keys.headD .other)

def note (notice : Notice) : MachineM Unit := do
  if (← read).logFilter.shows notice then
    let severity :=
      match notice.severity with
      | .warning => "WARN"
      | .error => "ERROR"
    IO.println s!"{severity} {LogFilter.line notice}"

/-- The device files that a serial port can have. -/
def portNames : List String :=
  ["ttyS", "ttyUSB", "ttyACM", "ttyAMA", "rfcomm"].flatMap fun kind =>
    (List.range 32).map fun n => s!"/dev/{kind}{n}"

def ports : MachineM (List String) :=
  portNames.filterM fun name => do
    return match ← (IO.FS.realPath name).toBaseIO with
      | .ok _ => true
      | .error _ => false

def readFile? (path : String) : MachineM (Option String) := do
  match ← (IO.FS.readFile path).toBaseIO with
  | .ok text => return some text
  | .error _ => return none

end Machine

instance : Transport MachineM where
  openLine := Machine.openLine
  read := Machine.readLine
  write bytes := Machine.withLine fun handle => handle.write ⟨bytes.toArray⟩
  flush := Machine.withLine IO.FS.Handle.flush
  closeLine := Machine.closeLine

instance : Journal MachineM where
  note := Machine.note

instance : Terminal MachineM where
  print text := IO.println text
  complain text := IO.eprintln text

instance : Keyboard MachineM where
  nextKey? := Machine.nextKey?

instance : Host MachineM where
  readFile? := Machine.readFile?
  ports := Machine.ports
  configure settings := do (← read).settings.set settings
  running := return true
  pause milliseconds := IO.sleep milliseconds.toUInt32

/-- More turns than a run can take in its time. -/
def unlimited : Nat := UInt64.size

def complainOf (failure : Failure) : IO Unit := do
  IO.eprintln ("Error: " ++ failure.message)
  unless failure.causes.isEmpty do
    IO.eprintln "\nCaused by:"
    failure.causes.forM fun cause => IO.eprintln ("    " ++ cause)

/-- Runs the program with the words behind its name, and returns its exit code. -/
def runWords (words : List String) : IO UInt8 := do
  match Invocation.ofWords? words with
  | none =>
    IO.eprintln "The arguments do not make sense."
    return Program.usageExitCode
  | some .showVersion =>
    IO.println Program.version
    return Program.exitCode (.ok ())
  | some (.run arguments) =>
    let machine : Machine :=
      { logFilter := .ofText arguments.logLevel
        settings := ← IO.mkRef {}
        line := ← IO.mkRef none
        reader := ← IO.mkRef .idle
        keys := ← IO.mkRef [] }
    let result ← (Program.run (m := MachineM) arguments unlimited).run.run machine
    if let .error failure := result then
      complainOf failure
    return Program.exitCode result

end PowerLink

def main (words : List String) : IO UInt32 := do
  return (← PowerLink.runWords words).toUInt32
