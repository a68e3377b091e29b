import PowerLink.Schema.Document

/-!
# Link configurations

One JSON text holds the settings of the serial port, the address on the line, the
polling interval and the schema of the commands. Everything has a default.
-/

namespace PowerLink

inductive Parity
  | none
  | odd
  | even
  deriving DecidableEq, Repr

def Parity.name : Parity → String
  | .none => "none"
  | .odd => "odd"
  | .even => "even"

structure SerialSettings where
  /-- Empty for the port with the highest name. -/
  port : String := ""
  baudRate : Nat := 9600
  dataBits : UInt8 := 8
  parity : Parity := .none
  stopBits : UInt8 := 1
  timeoutMs : Nat := 500
  deriving DecidableEq, Repr

structure LinkConfig where
  serial : SerialSettings := {}
  address : UInt8 := 1
  /-- The pause between two polling passes. -/
  pollIntervalMs : Nat := 1000
  commands : SchemaDocument := .empty
  deriving DecidableEq, Repr

/-- Why there is no configuration. -/
inductive ConfigError
  | unreadable (path : String)
  | malformed (flaw : Json.Flaw)
  /-- A setting is out of its range. -/
  | invalid (setting : String) (value : Nat)
  deriving DecidableEq, Repr

def ConfigError.message : ConfigError → String
  | .unreadable path => s!"cannot read {path}"
  | .malformed _ => "config parse error"
  | .invalid setting value => s!"invalid value for {setting}: {value}"

/-! ## Choosing a port

A port that is asked for by name has to be among the ports of the machine. Otherwise
the port whose name ends in the highest character is taken, the last one of several.
-/

namespace Port

/-- The character by which ports are compared; a port without a name counts as `0`. -/
def rank (name : String) : Char :=
  name.toList.getLast?.getD '0'

/-- The better one of the best port so far and the next port. -/
def better (best : Option String) (name : String) : Option String :=
  match best with
  | some held => if rank held ≤ rank name then some name else some held
  | none => some name

def highest? (names : List String) : Option String :=
  names.foldl better none

/-- The port to use, where an empty request leaves the choice open. -/
def find? (names : List String) (requested : String) : Option String :=
  if requested.isEmpty then highest? names
  else if requested ∈ names then some requested
  else none

end Port

open Json (Decoder)
open Json.Decoder

/-! ## Reading -/

def SerialSettings.slots : List (Slot SerialSettings) :=
  [slot "port" string fun settings port => { settings with port },
    slot "baudRate" (natBelow UInt32.size) fun settings baudRate =>
      { settings with baudRate },
    slot "dataBits" byte fun settings dataBits => { settings with dataBits },
    slot "parity" (word ([.none, .odd, .even].map fun parity : Parity =>
      (parity.name, parity))) fun settings parity => { settings with parity },
    slot "stopBits" byte fun settings stopBits => { settings with stopBits },
    slot "timeoutMs" (natBelow UInt64.size) fun settings timeoutMs =>
      { settings with timeoutMs }]

def LinkConfig.slots : List (Slot LinkConfig) :=
  [slot "serial" (record SerialSettings.slots {} some) fun config serial =>
      { config with serial },
    slot "address" byte fun config address => { config with address },
    slot "pollIntervalMs" (natBelow UInt64.size) fun config pollIntervalMs =>
      { config with pollIntervalMs },
    slot "commands" SchemaDocument.decoder fun config commands =>
      { config with commands }]

/-! ## Checking -/

def SerialSettings.check (settings : SerialSettings) : Except ConfigError Unit :=
  if settings.baudRate = 0 then .error (.invalid "baudRate" 0)
  else if settings.dataBits < 5 ∨ 8 < settings.dataBits then
    .error (.invalid "dataBits" settings.dataBits.toNat)
  else if settings.stopBits < 1 ∨ 2 < settings.stopBits then
    .error (.invalid "stopBits" settings.stopBits.toNat)
  else .ok ()

def LinkConfig.check (config : LinkConfig) : Except ConfigError Unit := do
  config.serial.check
  if config.pollIntervalMs = 0 then
    throw (.invalid "pollIntervalMs" 0)

def LinkConfig.ofText (text : String) : Except ConfigError LinkConfig := do
  let config ←
    (Json.decode (record slots {} some) text).mapError ConfigError.malformed
  config.check
  return config

end PowerLink
