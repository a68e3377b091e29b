import PowerLink.Pattern.Bracket
import PowerLink.Text.Characters

/-!
# Reading patterns

Which texts are patterns. Reading goes through the text with a stack of the groups that
are open, and keeps of each part only how deeply it is nested, since deep nesting is not
allowed. Counts in braces are not read: patterns stand within braces themselves and
cannot hold a closing one.
-/

namespace PowerLink.Pattern

/-- A part of a sequence. -/
inductive Part
  /-- A change of the mode, which cannot be repeated. -/
  | modeChange
  /-- Anything else, with its height. -/
  | nested (height : Nat)
  deriving DecidableEq, Repr

def Part.height : Part → Nat
  | .modeChange => 0
  | .nested height => height

/-- A group that is being read, the whole pattern among them. -/
structure Group where
  /-- The mode outside, which comes back at the end of the group. -/
  outerMode : Mode
  /-- The heights of the alternatives read before. -/
  branches : List Nat
  /-- The parts of the last alternative, the last part first. -/
  parts : List Part
  deriving DecidableEq, Repr

namespace Group

def opened (mode : Mode) : Group := ⟨mode, [], []⟩

def lastBranch (group : Group) : Nat :=
  heightOf (group.parts.map Part.height)

def height (group : Group) : Nat :=
  heightOf (group.lastBranch :: group.branches)

def addPart (group : Group) (part : Part) : Group :=
  { group with parts := part :: group.parts }

def nextBranch (group : Group) : Group :=
  { group with branches := group.lastBranch :: group.branches, parts := [] }

/-- The group with its last part repeated. -/
def repeated? (group : Group) : Option Group :=
  match group.parts with
  | .nested height :: parts =>
    some { group with parts := .nested (height + 1) :: parts }
  | _ => none

end Group

/-- What has been read of a pattern. -/
structure Progress where
  mode : Mode
  group : Group
  /-- The groups around it, the innermost first. -/
  outer : List Group
  names : List (List Char)
  /-- Whether it asks for the border of a word of any letters. -/
  hasWordBorder : Bool
  deriving DecidableEq, Repr

namespace Progress

def start : Progress := ⟨.start, .opened .start, [], [], false⟩

def addPart (progress : Progress) (part : Part) : Progress :=
  { progress with group := progress.group.addPart part }

/-- Begins a group with a mode of its own. -/
def openGroup (progress : Progress) (mode : Mode) : Progress :=
  { progress with
    mode
    group := .opened progress.mode
    outer := progress.group :: progress.outer }

def closeGroup? (progress : Progress) : Option Progress :=
  match progress.outer with
  | [] => none
  | group :: outer =>
    some { progress with
      mode := progress.group.outerMode
      group := group.addPart (.nested (progress.group.height + 1))
      outer }

end Progress

/-! ## Groups -/

/-- The mode after a letter has switched something on or off. -/
def Mode.switch? (mode : Mode) (isOn : Bool) : Char → Option Mode
  | 'i' => some { mode with caseless := isOn }
  | 'u' => some { mode with unicode := isOn }
  | 'x' => some { mode with verbose := isOn }
  | 's' | 'm' | 'U' | 'R' => some mode
  | _ => none

/-- Reads the letters that switch modes up to a colon or a closing parenthesis. A minus
sign switches off what follows it, and no sign or letter comes twice. -/
def switches? (mode : Mode) (seen : List Char) :
    List Char → Option (Mode × List Char × List Char)
  | [] => none
  | c :: rest =>
    if c = ':' ∨ c = ')' then
      if seen.head? = some '-' then none else some (mode, seen, c :: rest)
    else if c ∈ seen then none
    else if c = '-' then switches? mode (c :: seen) rest
    else do switches? (← mode.switch? ('-' ∉ seen) c) (c :: seen) rest

/-- Whether a character can stand in the name of a group. -/
def isNameCharacter (isFirst : Bool) (c : Char) : Bool :=
  c = '_' ||
    if isFirst then Text.isLetter c
    else c = '.' || c = '[' || c = ']' || Text.isAlphanumeric c

/-- Reads the name of a group and the angle bracket behind it. -/
def groupName? (text : List Char) : Option (List Char × List Char) :=
  let name := text.takeWhile (· ≠ '>')
  match name, text.drop name.length with
  | c :: others, _ :: rest =>
    if isNameCharacter true c ∧ others.all (isNameCharacter false) then
      some (name, rest)
    else none
  | _, _ => none

/-- Begins a group with a name that no other group has. -/
def named? (progress : Progress) (text : List Char) :
    Option (Progress × List Char) := do
  let (name, rest) ← groupName? text
  if name ∈ progress.names then none
  else
    return ({ progress.openGroup progress.mode with names := name :: progress.names },
      rest)

/-- Reads what stands behind an opening parenthesis: what kind of group it begins, or a
change of the mode. -/
def group? (progress : Progress) (text : List Char) : Option (Progress × List Char) :=
  match progress.mode.skip text with
  | '?' :: '=' :: _ | '?' :: '!' :: _ | '?' :: '<' :: '=' :: _ | '?' :: '<' :: '!' :: _ =>
    none
  | '?' :: 'P' :: '<' :: rest | '?' :: '<' :: rest => named? progress rest
  | '?' :: rest => do
    match ← switches? progress.mode [] rest with
    | (_, [], ')' :: _) => none
    | (mode, _, ')' :: rest) => return ({ progress with mode }.addPart .modeChange, rest)
    | (mode, _, rest) => return (progress.openGroup mode, rest.drop 1)
  | rest => some (progress.openGroup progress.mode, rest)

/-! ## The whole -/

/-- Adds a piece, if the mode allows it. -/
def Progress.addPiece? (progress : Progress) (piece : Piece) : Option Progress :=
  if progress.mode.allows piece then
    some { progress.addPart (.nested 0) with
      hasWordBorder :=
        progress.hasWordBorder || (progress.mode.unicode && piece = .wordBorder) }
  else none

/-- Reads the next part of a pattern, in front of which nothing is to be skipped. -/
def step? (progress : Progress) (c : Char) (rest : List Char) :
    Option (Progress × List Char) :=
  match c with
  | '(' => group? progress rest
  | ')' => do return (← progress.closeGroup?, rest)
  | '|' => some ({ progress with group := progress.group.nextBranch }, rest)
  | '[' => do
    let (height, rest) ← bracket? progress.mode rest
    return (progress.addPart (.nested height), rest)
  | '?' | '*' | '+' => do
    let group ← progress.group.repeated?
    let rest := if rest.head? = some '?' then rest.drop 1 else rest
    return ({ progress with group }, rest)
  | '\x7b' => none
  | '\\' => do
    let (piece, rest) ← escape? progress.mode rest
    return (← progress.addPiece? piece, rest)
  | '.' => do return (← progress.addPiece? .any, rest)
  | '^' | '$' => do return (← progress.addPiece? .border, rest)
  | c => do return (← progress.addPiece? (.literal ⟨c, false⟩), rest)

/-- Reads the rest of a pattern in at most the given number of steps. -/
def read? (progress : Progress) : Nat → List Char → Option Progress
  | 0, _ => none
  | steps + 1, text =>
    match progress.mode.skip text with
    | [] => if progress.outer.isEmpty then some progress else none
    | c :: rest => do
      let (progress, rest) ← step? progress c rest
      read? progress steps rest

/-- Why a text cannot be used as a pattern. -/
inductive Flaw
  | malformed
  /-- Borders of words need the tables of all letters. -/
  | wordBorder
  deriving DecidableEq, Repr

def Flaw.message : Flaw → String
  | .malformed => "error building NFA"
  | .wordBorder =>
    "unsupported regex feature for DFAs: cannot build DFAs for regexes with Unicode " ++
      "word boundaries; switch to ASCII word boundaries, or heuristically enable " ++
      "Unicode word boundaries or use a different regex engine"

/-- The greatest height of a pattern. -/
def heightLimit : Nat := 250

/-- What keeps a text from being used as a pattern. -/
def flaw? (text : List Char) : Option Flaw :=
  match read? .start (text.length + 1) text with
  | none => some .malformed
  | some progress =>
    if heightLimit < progress.group.height then some .malformed
    else if progress.hasWordBorder then some .wordBorder
    else none

end PowerLink.Pattern
