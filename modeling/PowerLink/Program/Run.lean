import PowerLink.Console.Dialogue
import PowerLink.Link.Poll
import PowerLink.Link.Responder
import PowerLink.Program.Arguments
import PowerLink.Program.Failure
import PowerLink.Program.LogFilter

/-!
# Runs of the program

A run sets up its log, loads the configuration, checks the schema, chooses a port, opens it and does
what it was asked to do, until that is done or the program is interrupted. Loops that
only an interrupt ends take at most `turns` turns.
-/

namespace PowerLink

/-! ## Command listings

One row for every command: its section and key in columns, its identifiers, and how
many fields its request and reply have.
-/

/-- Fills a column up with blanks; a longer text takes the room it needs. -/
def padRight (width : Nat) (text : String) : String :=
  text ++ String.ofList (List.replicate (width - text.length) ' ')

def Command.row (command : Command) : String :=
  padRight 14 command.group.name ++ " " ++ padRight 24 command.key ++
    " cid1=" ++ Text.hexByte command.id1 ++ " cid2=" ++ Text.hexByte command.id2 ++
    s!" params={command.params.length} values={command.values.length}"

def Registry.rows (registry : Registry) : List String :=
  registry.commands.map Command.row

/-! ## The machine -/

/-- What a run needs from the machine besides the line and the terminal. -/
class Host (m : Type → Type) where
  readFile? : String → m (Option String)
  /-- The names of the serial ports. -/
  ports : m (List String)
  /-- Makes the transport use these settings when it opens. -/
  configure : SerialSettings → m Unit
  /-- Whether no interrupt has come yet. -/
  running : m Bool
  pause : (milliseconds : Nat) → m Unit

namespace Program

variable {m : Type → Type} [Monad m] [Transport m] [Journal m] [Terminal m]
  [Keyboard m] [Host m]

abbrev RunT (m : Type → Type) (α : Type) := ExceptT Failure m α

def fromLink {α : Type} (exchange : LinkT m α) : RunT m α :=
  ExceptT.mk do return (← exchange.run).mapError .link

/-- Opens the line for an activity, and closes it however the activity ends. -/
def session {α : Type} (port : String) (activity : RunT m α) : RunT m α := do
  match ← ExceptT.lift (Endpoint.connect (m := m)).run with
  | .error e => throw (.notOpened port e)
  | .ok () =>
    let result ← ExceptT.lift activity.run
    ExceptT.lift Endpoint.disconnect
    ExceptT.mk (pure result)

/-! ## Activities -/

def list (registry : Registry) : m Unit :=
  registry.rows.forM Terminal.print

def send (endpoint : Endpoint) (key data : String) : RunT m Unit := do
  let result ← ExceptT.lift (endpoint.request key data).run
  let line ← ExceptT.mk (pure (result.mapError .request))
  ExceptT.lift (Terminal.print line)

def poll (endpoint : Endpoint) (intervalMs : Nat) : Nat → RunT m Unit
  | 0 => return
  | turns + 1 => do
    if ← (Host.running : m Bool) then
      let report ← fromLink endpoint.poll
      ExceptT.lift (Terminal.print report.toJson)
      ExceptT.lift (Host.pause intervalMs)
      poll endpoint intervalMs turns

/-- Reads canned values from a text. -/
def cannedValues (text : String) : Except Failure (KeyMap Json) :=
  (Json.decode (Json.Decoder.map Json.Decoder.json) text).mapError .valuesMalformed

def respond (endpoint : Endpoint) (valuesPath : Option String) (turns : Nat) :
    RunT m Unit := do
  let canned ←
    match valuesPath with
    | none => pure .empty
    | some path =>
      match ← (Host.readFile? path : m _) with
      | none => throw (.valuesUnreadable path)
      | some text => ExceptT.mk (pure (cannedValues text))
  let responder : Responder := ⟨endpoint, canned⟩
  fromLink (responder.serve Host.running turns)

/-! ## The whole -/

def loadConfig (path : String) : RunT m LinkConfig := do
  match ← (Host.readFile? path : m _) with
  | none => throw (.config (.unreadable path))
  | some text => ExceptT.mk (pure ((LinkConfig.ofText text).mapError .config))

/-- Looks for the port once a second, a limited number of times. -/
def findPort (requested : String) : Nat → RunT m String
  | 0 => throw (.noPort requested)
  | attempts + 1 => do
    match Port.find? (← (Host.ports : m _)) requested with
    | some port => return port
    | none =>
      ExceptT.lift (Host.pause 1000)
      findPort requested attempts

/-- The endpoint and the open port for an activity. -/
def perform (endpoint : Endpoint) (port : String) (intervalMs turns : Nat) :
    Activity → RunT m Unit
  | .list => return
  | .send key data => send endpoint key data
  | .console => ExceptT.lift (Console.run endpoint port turns)
  | .poll chosen => poll endpoint (chosen.getD intervalMs) turns
  | .respond valuesPath => respond endpoint valuesPath turns

def run (arguments : Arguments) (turns : Nat) : RunT m Unit := do
  ExceptT.lift ((LogFilter.complaints arguments.logLevel).forM Terminal.complain)
  let config ← loadConfig arguments.configPath
  let registry ←
    ExceptT.mk (pure ((Registry.ofDocument config.commands).mapError .schema))
  if arguments.activity = .list then
    ExceptT.lift (list registry)
  else
    let requested := arguments.port.getD config.serial.port
    let port ← findPort requested 10
    ExceptT.lift (Host.configure
      { config.serial with
        port
        baudRate := arguments.baudRate.getD config.serial.baudRate })
    let endpoint : Endpoint := ⟨registry, arguments.address.getD config.address⟩
    session port
      (perform endpoint port config.pollIntervalMs turns arguments.activity)

/-- The name of the program and its version. -/
def version : String :=
  "ydt-serial-link 0.1.0"

/-- How a run ends, as the exit code of the program. -/
def exitCode : Except Failure Unit → UInt8
  | .ok () => 0
  | .error _ => 1

/-- The exit code for arguments that do not make sense. -/
def usageExitCode : UInt8 := 2

end Program

end PowerLink
