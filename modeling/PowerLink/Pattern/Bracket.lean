import PowerLink.Pattern.Basic

/-!
# Brackets in patterns

A class in brackets holds characters, ranges, named classes and further brackets, and
two signs of the same kind combine what stands on both sides. Reading goes through the
text with a stack of the brackets that are open, and keeps of each only how deeply its
parts are nested.
-/

namespace PowerLink.Pattern

/-- The height of parts in a row, which count as one part more if there are several. -/
def heightOf : List Nat → Nat
  | [] => 0
  | [height] => height
  | heights => 1 + heights.foldl max 0

/-- An open bracket. -/
structure Bracket where
  /-- Whether a minus sign still stands for itself. -/
  isFresh : Bool
  /-- The height of what stands in front of the last combining sign. -/
  left : Option Nat
  /-- The heights of the parts behind it. -/
  parts : List Nat
  deriving DecidableEq, Repr

namespace Bracket

def height (bracket : Bracket) : Nat :=
  match bracket.left with
  | none => heightOf bracket.parts
  | some left => 1 + max left (heightOf bracket.parts)

def fresh : Bracket := ⟨true, none, []⟩

/-- The bracket behind a combining sign. -/
def combined (bracket : Bracket) : Bracket :=
  ⟨false, some bracket.height, []⟩

def addPart (bracket : Bracket) (height : Nat) : Bracket :=
  { bracket with isFresh := false, parts := height :: bracket.parts }

end Bracket

/-- The classes of ASCII characters that have a name. -/
def classNames : List String :=
  ["alnum", "alpha", "ascii", "blank", "cntrl", "digit", "graph", "lower", "print",
    "punct", "space", "upper", "word", "xdigit"]

/-- Reads a named class behind its opening bracket, and whether it is negated. -/
def namedClass? (text : List Char) : Option (Bool × List Char) :=
  match text with
  | ':' :: text =>
    let negated := text.head? = some '^'
    let text := if negated then text.drop 1 else text
    let name := text.takeWhile (· ≠ ':')
    match text.drop name.length with
    | ':' :: ']' :: rest =>
      if String.ofList name ∈ classNames then some (negated, rest) else none
    | _ => none
  | _ => none

/-- Whether a part of a bracket is allowed, given whether it is negated. Letters of
either case cannot be told without tables. -/
def Mode.allowsPart (mode : Mode) (negated : Bool) : Bool :=
  if mode.unicode then !mode.caseless else !negated

def Mode.allowsLiteral (mode : Mode) (literal : Literal) : Bool :=
  mode.allowsPart false && (mode.unicode || literal.c.toNat < 0x80)

/-- A single character or class in a bracket. -/
def item? (mode : Mode) : List Char → Option (Piece × List Char)
  | [] => none
  | '\\' :: text => escape? mode text
  | c :: rest => some (.literal ⟨c, false⟩, rest)

/-- Reads a character, a class or a range, and returns the text behind it. -/
def range? (mode : Mode) (text : List Char) : Option (List Char) := do
  let (first, rest) ← item? mode text
  match mode.skip rest with
  | [] => none
  | '-' :: next =>
    if mode.peek? next = some ']' ∨ mode.peek? next = some '-' then
      single first ('-' :: next)
    else
      let (last, rest) ← item? mode (mode.skip next)
      match first, last with
      | .literal low, .literal high =>
        let isAllowed := mode.allowsLiteral low && mode.allowsLiteral high
        if low.c ≤ high.c ∧ isAllowed then some rest else none
      | _, _ => none
  | rest => single first rest
where
  single (piece : Piece) (rest : List Char) : Option (List Char) :=
    match piece with
    | .literal literal => if mode.allowsLiteral literal then some rest else none
    | .class _ => if mode.allows piece then some rest else none
    | _ => none

/-- Whether a bracket can be negated. Of bytes, too many would remain. -/
def Mode.opens (mode : Mode) (negated : Bool) : Bool :=
  mode.unicode || !negated

/-- The text behind an opening bracket and its sign of negation. -/
def opened? (mode : Mode) (text : List Char) : Option (List Char) :=
  match mode.skip text with
  | '^' :: rest => if mode.opens true then some rest else none
  | rest => some rest

/-- Reads the next part of the innermost open bracket, in front of which nothing is to
be skipped. The stack is left empty by the last closing bracket, whose class has the
height returned. -/
def bracketStep? (mode : Mode) (top : Bracket) (below : List Bracket) (c : Char)
    (rest : List Char) : Option (List Bracket × Nat × List Char) :=
  let plain : Literal := ⟨c, false⟩
  if top.isFresh ∧ (c = '-' ∨ (c = ']' ∧ top.parts.isEmpty)) then
    if mode.allowsLiteral plain then
      some ({ top.addPart 0 with isFresh := c = '-' } :: below, 0, rest)
    else none
  else
    let top := { top with isFresh := false }
    match c, rest with
    | ']', _ =>
      let height := 1 + top.height
      match below with
      | [] => some ([], height, rest)
      | outer :: below => some (outer.addPart height :: below, 0, rest)
    | '[', _ =>
      match namedClass? rest with
      | some (negated, rest) =>
        if mode.allowsPart negated then some (top.addPart 0 :: below, 0, rest) else none
      | none => do return (.fresh :: top :: below, 0, ← opened? mode rest)
    | '&', '&' :: rest | '-', '-' :: rest | '~', '~' :: rest =>
      some (top.combined :: below, 0, rest)
    | _, _ => do return (top.addPart 0 :: below, 0, ← range? mode (c :: rest))

/-- Reads on until no bracket is open any more, in at most the given number of steps. -/
def brackets? (mode : Mode) (stack : List Bracket) :
    Nat → List Char → Option (Nat × List Char)
  | 0, _ => none
  | steps + 1, text =>
    match stack, mode.skip text with
    | top :: below, c :: rest => do
      match ← bracketStep? mode top below c rest with
      | ([], height, rest) => return (height, rest)
      | (stack, _, rest) => brackets? mode stack steps rest
    | _, _ => none

/-- The height of a class in brackets, read behind the opening bracket, and the text
behind it. -/
def bracket? (mode : Mode) (text : List Char) : Option (Nat × List Char) := do
  brackets? mode [.fresh] (text.length + 1) (← opened? mode text)

end PowerLink.Pattern
