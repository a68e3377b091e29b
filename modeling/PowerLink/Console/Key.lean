import PowerLink.Text.Numeral

/-!
# Keys

The keys of a terminal, and how they are read from the characters that it sends. Most
keys are one character. The others are a sequence that starts with the escape
character, and a reader remembers how much of such a sequence it has seen. Sequences
that stand for no key of the console are dropped as a whole.
-/

namespace PowerLink

inductive Key
  /-- A character, also with modifiers other than Control alone. -/
  | char (c : Char)
  /-- A character with Control. -/
  | control (c : Char)
  | enter
  | backspace
  | escape
  | up
  | down
  /-- A key that the editor has no use for. -/
  | other
  deriving DecidableEq, Repr

namespace Key

/-- The key behind a single character. -/
def ofTyped (c : Char) : Key :=
  if c = '\r' ∨ c = '\n' then .enter
  else if c = '\t' then .other
  else if c = '\x1B' then .escape
  else if c = '\x7F' then .backspace
  else if c = '\x00' then .control ' '
  else if c.toNat ≤ 0x1A then .control (Char.ofNat (c.toNat + 0x60))
  else if c.toNat < 0x20 then .control (Char.ofNat (c.toNat + 0x18))
  else .char c

/-- The same key with Alt held down as well, which leaves no Control alone. -/
def withAlt : Key → Key
  | .control c => .char c
  | key => key

/-- The arrow keys that the console uses, by their letters. -/
def arrow? : Char → Option Key
  | 'A' => some .up
  | 'B' => some .down
  | _ => none

end Key

/-! ## Modifiers -/

/-- What a sequence says about modifiers and about the kind of the event. -/
structure Keystroke where
  /-- The sum of 1 for Shift, 2 for Alt, 4 for Control, and so on. -/
  modifiers : Nat
  /-- Whether the key goes down, and does not repeat or come up. -/
  isPress : Bool
  deriving DecidableEq, Repr

namespace Keystroke

def plain : Keystroke := ⟨0, true⟩

/-- Reads the sum of the modifiers plus one, and behind a colon the kind of the event. -/
def ofText? (text : String) : Option Keystroke :=
  let number? (text : String) := Text.numeralUpTo? 10 255 text.toList
  match text.splitOn ":" with
  | [] => none
  | sum :: kinds =>
    (number? sum).map fun sum =>
      let kind := ((kinds.head?.bind number?)).getD 1
      ⟨sum - 1, kind ≠ 2 ∧ kind ≠ 3⟩

def hasShift (stroke : Keystroke) : Bool :=
  stroke.modifiers.testBit 0

/-- A character typed with the modifiers. Locks are no modifiers here. -/
def key (stroke : Keystroke) (c : Char) : Key :=
  if stroke.modifiers % 64 = 4 then .control c else .char c

end Keystroke

/-! ## Numbered sequences -/

namespace Key

def ofCode? (code : Nat) : Option Char :=
  if code.isValidChar then some (Char.ofNat code) else none

/-- What the keys of the number pad type, from code 57399 on. -/
def padCharacters : List Char :=
  ['0', '1', '2', '3', '4', '5', '6', '7', '8', '9', '.', '/', '*', '-', '+', '\r', '=',
    ',']

/-- Whether a code stands for a key that types nothing, such as a lock, a function key
or a modifier. -/
def isSilentCode (code : Nat) : Bool :=
  (57358 ≤ code && code ≤ 57363) || (57376 ≤ code && code ≤ 57398) ||
    (57417 ≤ code && code ≤ 57454)

/-- The modifier that a key with this code is, on either side of the keyboard. -/
def modifierOfCode (code : Nat) : Nat :=
  match code with
  | 57441 | 57447 => 1
  | 57442 | 57448 => 4
  | 57443 | 57449 => 2
  | 57444 | 57450 => 8
  | 57445 | 57451 => 16
  | 57446 | 57452 => 32
  | _ => 0

/-- The key that has a code of its own, with the modifiers given. -/
def ofStroke? (stroke : Keystroke) (code : Nat) : Option Key :=
  if code = 57419 then some .up
  else if code = 57420 then some .down
  else if isSilentCode code then some .other
  else
    let c? :=
      if 57399 ≤ code ∧ code ≤ 57416 then padCharacters[code - 57399]? else ofCode? code
    c?.map fun c =>
      if c = '\r' ∨ c = '\n' then .enter
      else if c = '\t' then .other
      else if c = '\x1B' then .escape
      else if c = '\x7F' then .backspace
      else stroke.key c

/-- Reads the code of a key and perhaps, behind a colon, the code of what it types with
Shift. A modifier key counts as held down with itself. -/
def coded? (stroke : Keystroke) (text : String) : Option Key :=
  let number? (text : String) := Text.numeralUpTo? 10 (UInt32.size - 1) text.toList
  match text.splitOn ":" with
  | [] => none
  | code :: others => do
    let code ← number? code
    let key ← ofStroke? stroke code
    let stroke :=
      { stroke with modifiers := stroke.modifiers ||| modifierOfCode code }
    let shifted? := (others.head?.bind number?).bind ofCode?
    match stroke.hasShift, shifted? with
    | true, some c => return { stroke with modifiers := stroke.modifiers - 1 }.key c
    | _, _ => return key

/-- The key behind a numbered sequence: what stands between the bracket and the final
letter, and that letter. -/
def ofNumbered? (parameters : List Char) (final : Char) : Option Key :=
  let parts := (String.ofList parameters).splitOn ";"
  let stroke? := parts[1]?.bind Keystroke.ofText?
  let pressed (key? : Option Key) : Option Key :=
    if (stroke?.getD .plain).isPress then key? else none
  match final with
  | 'u' => pressed (coded? (stroke?.getD .plain) (parts.headD ""))
  | letter =>
    let isWhole := stroke?.isSome || parameters.getLast?.any Char.isDigit
    if isWhole then pressed (arrow? letter) else none

end Key

/-! ## Readers -/

/-- How much of a sequence has been seen. -/
inductive KeyReader
  | idle
  /-- The escape character. -/
  | escape
  /-- A sequence of one letter. -/
  | single
  /-- The opening bracket of a longer sequence. -/
  | bracket
  /-- A second bracket. -/
  | brackets
  /-- A report of the terminal, and whether anything of it has come. -/
  | report (hasBegun : Bool)
  /-- Parameters, up to a final letter. -/
  | numbered (parameters : List Char)
  /-- A mouse event of so many bytes more. -/
  | click (bytes : Nat)
  /-- A mouse event up to its letter. -/
  | pointer
  /-- Pasted text, the last character first. -/
  | paste (seen : List Char)
  deriving DecidableEq, Repr

namespace KeyReader

/-- The end of pasted text, the last character first. -/
def pasteEnd : List Char :=
  ['~', '1', '0', '2', '[', '\x1B']

/-- Takes in a character behind the opening bracket. -/
def feedBracket (c : Char) : KeyReader × Option Key :=
  match c with
  | '[' => (.brackets, none)
  | 'M' => (.click 3, none)
  | '<' => (.pointer, none)
  | '?' => (.report false, none)
  | _ => if c.isDigit then (.numbered [c], none) else (.idle, Key.arrow? c)

/-- Takes in a character behind the first digit. Characters that cannot end a sequence
belong to its parameters. -/
def feedNumbered (parameters : List Char) (c : Char) : KeyReader × Option Key :=
  if c.toNat < 64 ∨ 126 < c.toNat then (.numbered (parameters ++ [c]), none)
  else if parameters = ['2', '0', '0'] ∧ c = '~' then (.paste [], none)
  else (.idle, Key.ofNumbered? parameters c)

/-- Takes in a character, which may complete a key. -/
def feed (reader : KeyReader) (c : Char) : KeyReader × Option Key :=
  match reader with
  | .idle => if c = '\x1B' then (.escape, none) else (.idle, some (Key.ofTyped c))
  | .escape =>
    match c with
    | '\x1B' => (.idle, some .escape)
    | 'O' => (.single, none)
    | '[' => (.bracket, none)
    | _ => (.idle, some (Key.ofTyped c).withAlt)
  | .single => (.idle, Key.arrow? c)
  | .bracket => feedBracket c
  | .brackets => (.idle, none)
  | .report hasBegun =>
    if c = 'c' ∨ (c = 'u' ∧ hasBegun) then (.idle, none) else (.report true, none)
  | .numbered parameters => feedNumbered parameters c
  | .click bytes =>
    if bytes ≤ c.utf8Size then (.idle, none) else (.click (bytes - c.utf8Size), none)
  | .pointer => if c = 'm' ∨ c = 'M' then (.idle, none) else (.pointer, none)
  | .paste seen =>
    if pasteEnd.isPrefixOf (c :: seen) then (.idle, none) else (.paste (c :: seen), none)

/-- When nothing more comes for now, an escape character was the key itself. -/
def settle : KeyReader → KeyReader × Option Key
  | .escape => (.idle, some .escape)
  | reader => (reader, none)

/-- Takes in the characters that come at one time. -/
def receive (reader : KeyReader) : List Char → KeyReader × List Key
  | [] =>
    let (reader, key?) := reader.settle
    (reader, key?.toList)
  | c :: rest =>
    let (reader, key?) := reader.feed c
    let (reader, keys) := reader.receive rest
    (reader, key?.toList ++ keys)

/-- Takes in texts that are typed one after the other, each ended by Enter. -/
def receiveLines (reader : KeyReader) : List String → KeyReader × List Key
  | [] => (reader, [])
  | line :: rest =>
    let (reader, keys) := reader.receive (line.toList ++ ['\r'])
    let (reader, more) := reader.receiveLines rest
    (reader, keys ++ more)

end KeyReader

/-- The keys for typing texts, each ended by Enter. -/
def Key.forLines (lines : List String) : List Key :=
  (KeyReader.idle.receiveLines lines).2

end PowerLink
