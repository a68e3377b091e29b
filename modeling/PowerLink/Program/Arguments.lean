import PowerLink.Text.Numeral

/-!
# Arguments

The words behind the program's name: options, the name of an activity, and the options
and words of that activity. Every option takes one value, which is attached to it or
follows as a word of its own, and may be given once. `--` ends the options of an
activity. In the place of an activity the program can be asked for its version.
-/

namespace PowerLink

inductive Activity
  | list
  | send (key data : String)
  | console
  | poll (intervalMs : Option Nat)
  | respond (valuesPath : Option String)
  deriving DecidableEq, Repr

structure Arguments where
  configPath : String
  port : Option String
  baudRate : Option Nat
  address : Option UInt8
  logLevel : String
  activity : Activity
  deriving DecidableEq, Repr

/-- What the program is called for. -/
inductive Invocation
  | run (arguments : Arguments)
  | showVersion
  deriving DecidableEq, Repr

/-! ## Options -/

/-- An option under its two names. Storing fails for a value that the option does not
take, and for an option that was given before. -/
structure Flag (σ : Type) where
  long : String
  short : Option Char
  store : σ → String → Option σ

namespace Flag

variable {σ : Type}

/-- A value that is read from its word and put in its place once. -/
def once {α : Type} (held : σ → Option α) (read : String → Option α)
    (put : σ → α → σ) (draft : σ) (word : String) : Option σ :=
  match held draft with
  | some _ => none
  | none => (read word).map (put draft)

/-- Whether a word names an option. A single dash does not. -/
def isOption (word : String) : Bool :=
  word ≠ "-" && word.toList.head? = some '-'

/-- Whether a word asks for the version, and makes what follows meaningless. -/
def asksVersion (word : String) : Bool :=
  word = "--version" || word.startsWith "-V"

/-- Splits a word into the option that it names and the value attached to it. -/
def ofWord? (flags : List (Flag σ)) (word : String) :
    Option (Flag σ × Option String) :=
  match word.toList with
  | '-' :: '-' :: body => do
    let name := String.ofList (body.takeWhile (· ≠ '='))
    let flag ← flags.find? fun flag => flag.long = name
    match body.dropWhile (· ≠ '=') with
    | [] => return (flag, none)
    | _ :: value => return (flag, some (String.ofList value))
  | '-' :: c :: attached => do
    let flag ← flags.find? fun flag => flag.short = some c
    match attached with
    | [] => return (flag, none)
    | '=' :: value => return (flag, some (String.ofList value))
    | value => return (flag, some (String.ofList value))
  | _ => none

/-- Reads options up to the first word that is none or asks for the version, and returns
what is left. -/
def readLeading (flags : List (Flag σ)) (draft : σ) :
    List String → Option (σ × List String)
  | [] => some (draft, [])
  | word :: rest =>
    if asksVersion word then some (draft, word :: rest)
    else if isOption word then do
      let (flag, attached) ← ofWord? flags word
      match attached, rest with
      | some value, rest => readLeading flags (← flag.store draft value) rest
      | none, value :: rest =>
        if isOption value then none
        else readLeading flags (← flag.store draft value) rest
      | none, [] => none
    else some (draft, word :: rest)

/-- Reads options and words in any order, and returns the words. -/
def readAll (flags : List (Flag σ)) (draft : σ) :
    List String → Option (σ × List String)
  | [] => some (draft, [])
  | word :: rest =>
    if word = "--" then some (draft, rest)
    else if isOption word then do
      let (flag, attached) ← ofWord? flags word
      match attached, rest with
      | some value, rest => readAll flags (← flag.store draft value) rest
      | none, value :: rest =>
        if isOption value then none
        else readAll flags (← flag.store draft value) rest
      | none, [] => none
    else do
      let (draft, words) ← readAll flags draft rest
      return (draft, word :: words)

end Flag

/-! ## Values -/

namespace Arguments

def nonempty? (word : String) : Option String :=
  if word.isEmpty then none else some word

def natural? (limit : Nat) (word : String) : Option Nat :=
  Text.numeralUpTo? 10 limit word.toList

/-- A number that may carry a minus sign, which only zero can. -/
def signed? (limit : Nat) (word : String) : Option Nat :=
  match word.toList with
  | '-' :: '+' :: _ => none
  | '-' :: digits => Text.numeralUpTo? 10 0 digits
  | digits => Text.numeralUpTo? 10 limit digits

/-! ## Activities -/

/-- An activity with nothing behind its name. -/
def alone (activity : Activity) (words : List String) : Option Activity := do
  let ((), words) ← Flag.readAll [] () words
  if words.isEmpty then some activity else none

def send? (words : List String) : Option Activity := do
  let ((), words) ← Flag.readAll [] () words
  match words with
  | [key] => return .send key "\x7b\x7d"
  | [key, data] => return .send key data
  | _ => none

def poll? (words : List String) : Option Activity := do
  let flag : Flag (Option Nat) :=
    ⟨"interval-ms", some 'i', Flag.once id (natural? (UInt64.size - 1)) fun _ => some⟩
  let (intervalMs, words) ← Flag.readAll [flag] none words
  if words.isEmpty then some (.poll intervalMs) else none

def respond? (words : List String) : Option Activity := do
  let flag : Flag (Option String) :=
    ⟨"values", some 'v', Flag.once id nonempty? fun _ => some⟩
  let (valuesPath, words) ← Flag.readAll [flag] none words
  if words.isEmpty then some (.respond valuesPath) else none

def activity? (name : String) (words : List String) : Option Activity :=
  match name with
  | "list" => alone .list words
  | "send" => send? words
  | "console" => alone .console words
  | "poll" => poll? words
  | "respond" => respond? words
  | _ => none

/-! ## The whole -/

/-- The options in front of the activity. -/
structure Draft where
  configPath : Option String := none
  port : Option String := none
  baudRate : Option Nat := none
  address : Option Nat := none
  logLevel : Option String := none
  deriving DecidableEq, Repr

def flags : List (Flag Draft) :=
  [⟨"config", some 'c', Flag.once Draft.configPath nonempty? fun draft path =>
      { draft with configPath := some path }⟩,
    ⟨"port", some 'p', Flag.once Draft.port some fun draft port =>
      { draft with port := some port }⟩,
    ⟨"baud", some 'b', Flag.once Draft.baudRate (signed? (UInt32.size - 1))
      fun draft baudRate => { draft with baudRate := some baudRate }⟩,
    ⟨"address", some 'a', Flag.once Draft.address (signed? 255) fun draft address =>
      { draft with address := some address }⟩,
    ⟨"log-level", none, Flag.once Draft.logLevel some fun draft logLevel =>
      { draft with logLevel := some logLevel }⟩]

/-- The arguments given by the options and by the activity with its words. -/
def complete? (draft : Draft) (name : String) (words : List String) :
    Option Arguments := do
  let activity ← activity? name words
  let configPath ← draft.configPath
  return {
    configPath, activity
    port := draft.port
    baudRate := draft.baudRate
    address := draft.address.map UInt8.ofNat
    logLevel := draft.logLevel.getD "info" }

end Arguments

/-- What a list of words calls for; none if they do not make sense. -/
def Invocation.ofWords? (words : List String) : Option Invocation := do
  let (draft, words) ← Flag.readLeading Arguments.flags {} words
  match words with
  | [] => none
  | word :: words =>
    if Flag.asksVersion word then return .showVersion
    else return .run (← Arguments.complete? draft word words)

end PowerLink
