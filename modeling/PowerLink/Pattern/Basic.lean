import PowerLink.Text.Characters
import PowerLink.Text.Numeral

/-!
# Characters of a pattern

A pattern is a regular expression that a filter compares the parts of a notice with.
Here are the modes in which its characters are read, and its smallest pieces: single
characters, classes with a letter of their own, and conditions on the place. There are
no tables of letters beyond ASCII, so what would need them is not allowed.
-/

namespace PowerLink.Pattern

structure Mode where
  /-- Whether blanks and comments between the pieces do not count. -/
  verbose : Bool
  /-- Whether letters of either case are the same. -/
  caseless : Bool
  /-- Whether characters are meant, and not bytes. -/
  unicode : Bool
  deriving DecidableEq, Repr

def Mode.start : Mode := ⟨false, false, true⟩

/-- The text from the next character that counts on, when blanks and comments do not. -/
def skipBlanks (inComment : Bool) : List Char → List Char
  | [] => []
  | c :: rest =>
    if inComment then skipBlanks (c ≠ '\n') rest
    else if Text.isBlank c then skipBlanks false rest
    else if c = '#' then skipBlanks true rest
    else c :: rest

namespace Mode

def skip (mode : Mode) (text : List Char) : List Char :=
  if mode.verbose then skipBlanks false text else text

/-- The character that counts next, seen through one comment sign at most. -/
def peek? (mode : Mode) (text : List Char) : Option Char :=
  if mode.verbose then
    let seen :=
      match text.dropWhile Text.isBlank with
      | '#' :: comment => comment.dropWhile Text.isBlank
      | rest => rest
    seen.head?.or text.head?
  else text.head?

end Mode

/-- A character, and whether it was given as a byte of two digits. -/
structure Literal where
  c : Char
  isByte : Bool
  deriving DecidableEq, Repr

inductive Piece
  | literal (literal : Literal)
  /-- Any character but the end of the line. -/
  | any
  /-- Digits, blanks or word characters, or all others. -/
  | class (negated : Bool)
  /-- The start or the end of the text or of a line. -/
  | border
  /-- A border of a word. -/
  | wordBorder
  deriving DecidableEq, Repr

/-- Whether a piece outside of brackets is allowed. Bytes that are no character of
their own cannot be meant. -/
def Mode.allows (mode : Mode) : Piece → Bool
  | .literal literal =>
    if mode.unicode then !mode.caseless
    else !(literal.isByte && 0x7F < literal.c.toNat)
  | .any => mode.unicode
  | .class negated => !mode.unicode && !negated
  | .border | .wordBorder => true

/-! ## Escapes -/

/-- The value of as many hexadecimal digits, and the text behind them. -/
def hexDigits? (mode : Mode) (value : Nat) : Nat → List Char → Option (Nat × List Char)
  | 0, text => some (value, text)
  | digits + 1, text =>
    match text with
    | [] => none
    | c :: rest => do
      let digit ← Text.digitValue? 16 c
      hexDigits? mode (16 * value + digit) digits (mode.skip rest)

/-- A character given by the number of digits that its letter calls for. -/
def hexLiteral? (mode : Mode) (digits : Nat) (text : List Char) :
    Option (Piece × List Char) := do
  let (value, rest) ← hexDigits? mode 0 digits (mode.skip text)
  if value.isValidChar then
    return (.literal ⟨Char.ofNat value, digits = 2⟩, rest)
  else none

/-- The character behind the letter of an escape. -/
def controlOf : Char → Char
  | 'a' => '\x07'
  | 'f' => '\x0C'
  | 't' => '\t'
  | 'n' => '\n'
  | 'r' => '\r'
  | 'v' => '\x0B'
  | c => c

/-- The piece that starts with a backslash, read from the text behind it. A sign stands
for itself, and a letter has to have a meaning. -/
def escape? (mode : Mode) : List Char → Option (Piece × List Char)
  | [] => none
  | c :: rest =>
    match c with
    | 'x' => hexLiteral? mode 2 rest
    | 'u' => hexLiteral? mode 4 rest
    | 'U' => hexLiteral? mode 8 rest
    | 'd' | 's' | 'w' => some (.class false, rest)
    | 'D' | 'S' | 'W' => some (.class true, rest)
    | 'A' | 'z' => some (.border, rest)
    | 'b' | 'B' | '<' | '>' => some (.wordBorder, rest)
    | 'a' | 'f' | 't' | 'n' | 'r' | 'v' => some (.literal ⟨controlOf c, false⟩, rest)
    | _ =>
      if c.toNat < 0x80 ∧ ¬ c.isAlphanum then some (.literal ⟨c, false⟩, rest) else none

end PowerLink.Pattern
