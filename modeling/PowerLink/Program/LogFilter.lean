import PowerLink.Link.Notice
import PowerLink.Pattern.Reading
import PowerLink.Text.Characters
import PowerLink.Text.Escapes
import PowerLink.Text.Numeral

/-!
# Log filters

Which notices are shown. A filter is a list of directives between commas, and a
directive gives a level to all topics or to those that start with some word. For a
notice the directive with the longest word counts, and of two with the same word the
later one.
-/

namespace PowerLink

/-- How much is let through, from nothing to everything. -/
inductive LogLevel
  | off
  | error
  | warn
  | info
  | debug
  | trace
  deriving DecidableEq, Repr

namespace LogLevel

def all : List LogLevel :=
  [.off, .error, .warn, .info, .debug, .trace]

def name : LogLevel → String
  | .off => "off"
  | .error => "error"
  | .warn => "warn"
  | .info => "info"
  | .debug => "debug"
  | .trace => "trace"

/-- A level goes by its name in letters of either case, or by its place in the order. -/
def ofWord? (word : String) : Option LogLevel :=
  match Text.numeral? 10 word.toList with
  | some place => all[place]?
  | none => all.find? fun level => level.name = word.toLower

def admits (level : LogLevel) : Notice.Severity → Bool
  | .error => level ≠ .off
  | .warning => level ≠ .off ∧ level ≠ .error

end LogLevel

/-- What a directive is about. -/
inductive LogScope
  /-- Notices whose topic starts with the word, if there is one, and which have all the
  parts named. -/
  | notices (word : String) (parts : List String)
  /-- Notices within some activity; there are none. -/
  | activity
  deriving DecidableEq, Repr

namespace LogScope

/-- A notice has one part, its message. -/
def covers (scope : LogScope) (topic : String) : Bool :=
  match scope with
  | .notices word parts =>
    word.toList.isPrefixOf topic.toList && parts.all (· = "message")
  | .activity => false

/-- Whether a scope is at least as narrow as another. -/
def isAsNarrow : LogScope → LogScope → Bool
  | .notices word parts, .notices other otherParts =>
    other.length < word.length ||
      (other.length = word.length && otherParts.length ≤ parts.length)
  | _, _ => false

end LogScope

structure LogDirective where
  scope : LogScope
  level : LogLevel
  deriving DecidableEq, Repr

namespace LogDirective

/-- Why a directive does not count. -/
inductive Flaw
  | malformed
  | unknownLevel
  /-- The value of a part cannot be compared with. -/
  | badPattern (flaw : Pattern.Flaw)
  deriving DecidableEq, Repr

def Flaw.message : Flaw → String
  | .malformed => "invalid filter directive"
  | .unknownLevel =>
    "error parsing level filter: expected one of \"off\", \"error\", \"warn\", " ++
      "\"info\", \"debug\", \"trace\", or a number 0-5"
  | .badPattern flaw => "invalid field filter: " ++ flaw.message

/-- Whether a word can start with the character: a letter, a digit or one of three
signs. -/
def startsWord (c : Char) : Bool :=
  c = '-' || c = ':' || c = '_' || Text.isAlphanumeric c

/-! Positions in a directive are counted in bytes. -/

def byteSize (text : List Char) : Nat :=
  text.foldl (fun size c => size + c.utf8Size) 0

def dropBytes : Nat → List Char → List Char
  | 0, text => text
  | _, [] => []
  | n, c :: text => dropBytes (n - c.utf8Size) text

def takeBytes : Nat → List Char → List Char
  | 0, _ => []
  | _, [] => []
  | n, c :: text => c :: takeBytes (n - c.utf8Size) text

def slice (text : List Char) (start size : Nat) : List Char :=
  takeBytes size (dropBytes start text)

/-- The level behind an equals sign; no word is the highest level. -/
def level? (word : List Char) : Except Flaw LogLevel :=
  if word.isEmpty then .ok .trace
  else
    match LogLevel.ofWord? (String.ofList word) with
    | some level => .ok level
    | none => .error .unknownLevel

/-- A level for everything, or a word that has the highest level. -/
def ofWord (word : String) : LogDirective :=
  match LogLevel.ofWord? word with
  | some level => ⟨.notices "" [], level⟩
  | none => ⟨.notices word [], .trace⟩

/-- Whether a text is a number with an optional sign, fraction and exponent. -/
def isNumber (text : List Char) : Bool :=
  let unsigned (text : List Char) : List Char :=
    match text with
    | '+' :: rest | '-' :: rest => rest
    | rest => rest
  let body := unsigned text
  let whole := body.takeWhile Char.isDigit
  let rest := body.drop whole.length
  let fraction :=
    match rest with
    | '.' :: rest => rest.takeWhile Char.isDigit
    | _ => []
  let exponent := if rest.head? = some '.' then rest.drop (fraction.length + 1) else rest
  let hasDigits := !whole.isEmpty || !fraction.isEmpty
  let isWord := (String.ofList body).toLower ∈ ["inf", "infinity", "nan"]
  isWord ||
    (hasDigits &&
      match exponent with
      | [] => true
      | e :: digits =>
        (e = 'e' || e = 'E') && !(unsigned digits).isEmpty &&
          (unsigned digits).all Char.isDigit)

/-- What is wrong with a part: the value behind its equals sign has to be a number or a
pattern. -/
def partFlaw? (part : List Char) : Option Flaw :=
  match part.dropWhile (· ≠ '=') with
  | [] => none
  | _ :: rest =>
    let value := rest.takeWhile (· ≠ '=')
    if isNumber value then none else (Pattern.flaw? value).map .badPattern

/-- What may stand at a position of the text, behind the closing bracket. -/
def afterBracket (text : List Char) (position : Nat) (scope : LogScope) :
    List Char → Except Flaw LogDirective
  | [] => .ok ⟨scope, .trace⟩
  | '=' :: _ => return ⟨scope, ← level? (dropBytes (position + 1) text)⟩
  | _ => .error .malformed

/-- What stands at a position of the text, behind an opening bracket: the name of an
activity, or in braces a part that is there or that has a certain value. -/
def ofBracket (text : List Char) (word : String) (position : Nat) (body : List Char) :
    Except Flaw LogDirective :=
  let name := body.takeWhile fun c => c ≠ ']' ∧ c ≠ '\x7b'
  let position := position + byteSize name + 1
  match body.drop name.length with
  | ']' :: rest => afterBracket text position .activity rest
  | '\x7b' :: body =>
    let shape := body.takeWhile (· ≠ '\x7d')
    let part := slice text position (byteSize shape)
    match partFlaw? part, body.drop shape.length with
    | some flaw, '\x7d' :: _ => .error flaw
    | none, '\x7d' :: ']' :: rest =>
      let position := position + byteSize shape + 2
      if shape.isEmpty then .error .malformed
      else if name.isEmpty ∧ '=' ∉ part then
        afterBracket text position (.notices word [String.ofList part]) rest
      else afterBracket text position .activity rest
    | _, _ => .error .malformed
  | _ => .error .malformed

/-- Reads a directive. Its shape is that of the text without the blanks around it, and
its words are cut from the whole text at the same positions, so that blanks spoil
them. -/
def ofText (text : List Char) : Except Flaw LogDirective :=
  let body := Text.trim text
  let shape := body.takeWhile fun c => c ≠ '=' ∧ c ≠ '['
  let size := byteSize shape
  let word := String.ofList (slice text 0 size)
  if !body.head?.any (fun c => c = '[' || startsWord c) then .error .malformed
  else
    match body.drop shape.length with
    | '=' :: _ => return ⟨.notices word [], ← level? (dropBytes (size + 1) text)⟩
    | '[' :: rest => ofBracket text word (size + 1) rest
    | _ => .ok (ofWord (String.ofList text))

end LogDirective

structure LogFilter where
  directives : List LogDirective
  deriving DecidableEq, Repr

namespace LogFilter

def parts (text : String) : List String :=
  (text.splitOn ",").filter fun part => !part.isEmpty

/-- The filter of a text. Without any directive it lets errors through. -/
def ofText (text : String) : LogFilter :=
  let directives := (parts text).filterMap fun part =>
    (LogDirective.ofText part.toList).toOption
  if directives.isEmpty then ⟨[⟨.notices "" [], .error⟩]⟩ else ⟨directives⟩

/-- What is to be said about the directives that do not count. -/
def complaints (text : String) : List String :=
  (parts text).filterMap fun part =>
    match LogDirective.ofText part.toList with
    | .ok _ => none
    | .error flaw => some ("ignoring \x60" ++ part ++ "\x60: " ++ flaw.message)

/-- The directive that counts for a topic. -/
def directive? (filter : LogFilter) (topic : String) : Option LogDirective :=
  (filter.directives.filter fun directive => directive.scope.covers topic).foldl
    (fun best? directive =>
      match best? with
      | some best => if directive.scope.isAsNarrow best.scope then directive else best
      | none => some directive)
    none

def shows (filter : LogFilter) (notice : Notice) : Bool :=
  (filter.directive? notice.topic).any fun directive =>
    directive.level.admits notice.severity

/-- A notice as the log shows it. -/
def line (notice : Notice) : String :=
  Text.inert notice.text

end LogFilter

end PowerLink
