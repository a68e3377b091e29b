import PowerLink.Console.Key
import PowerLink.Text.Characters

/-!
# Line editing

The editor of the console: keys make up a line, and entered lines go into a history
that can be scrolled. Blank lines are dropped, and a line that repeats the one before
is not kept twice.
-/

namespace PowerLink

structure Editor where
  line : String
  /-- Entered lines, newest first. -/
  history : List String
  /-- How many lines the history has been scrolled back. -/
  scroll : Nat
  deriving DecidableEq, Repr

namespace Editor

/-- What a key has led to. -/
inductive Effect
  | pending
  | entered (line : String)
  | quit
  deriving DecidableEq, Repr

def fresh : Editor := ⟨"", [], 0⟩

/-- Number of lines that the history keeps. -/
def historySize : Nat := 64

def isBlankLine (line : String) : Bool :=
  line.toList.all Text.isBlank

/-- The history with one more line. -/
def remember (line : String) (history : List String) : List String :=
  if history.head? = some line then history
  else (line :: history).take historySize

def clear (editor : Editor) : Editor :=
  { editor with line := "", scroll := 0 }

def enter (editor : Editor) : Editor × Effect :=
  if isBlankLine editor.line then (editor.clear, .pending)
  else
    ({ editor.clear with history := remember editor.line editor.history },
      .entered editor.line)

/-- One line further back, if there is one. -/
def scrollUp (editor : Editor) : Editor :=
  match editor.history[editor.scroll]? with
  | some line => { editor with line, scroll := editor.scroll + 1 }
  | none => editor

/-- One line forward; past the newest line the line is empty. -/
def scrollDown (editor : Editor) : Editor :=
  if editor.scroll ≤ 1 then editor.clear
  else
    match editor.history[editor.scroll - 2]? with
    | some line => { editor with line, scroll := editor.scroll - 1 }
    | none => editor

def type (editor : Editor) (c : Char) : Editor :=
  { editor with line := editor.line.push c }

def eraseLast (editor : Editor) : Editor :=
  { editor with line := String.ofList editor.line.toList.dropLast }

def press (editor : Editor) : Key → Editor × Effect
  | .control 'c' | .control 'd' => (editor, .quit)
  | .enter | .control 'j' => editor.enter
  | .backspace => (editor.eraseLast, .pending)
  | .escape | .control 'u' => (editor.clear, .pending)
  | .up => (editor.scrollUp, .pending)
  | .down => (editor.scrollDown, .pending)
  | .char c | .control c => (editor.type c, .pending)
  | .other => (editor, .pending)

/-- Presses keys until one of them leads to something, and leaves the others. -/
def pressUntil (editor : Editor) : List Key → Editor × Effect × List Key
  | [] => (editor, .pending, [])
  | key :: rest =>
    match editor.press key with
    | (editor, .pending) => editor.pressUntil rest
    | (editor, effect) => (editor, effect, rest)

end Editor

end PowerLink
