import PowerLink.Console.Editor
import PowerLink.Console.Request
import PowerLink.Link.Notice

/-!
# The console

The console reads keys until it is told to quit. Every entered line is a request: its
first word is the key, and what follows the blank behind it is the JSON text of the
params. A request that fails is complained about, and the console goes on.
-/

namespace PowerLink

class Keyboard (m : Type → Type) where
  /-- The next key, or none once the program is interrupted. -/
  nextKey? : m (Option Key)

namespace Console

/-- The line without blanks around it, its key and the text of its params. -/
def parts (line : String) : String × String × String :=
  let trimmed := Text.trim line.toList
  let key := trimmed.takeWhile fun c => !Text.isBlank c
  let data :=
    match trimmed.drop key.length with
    | [] => "\x7b\x7d"
    | _ :: data => String.ofList data
  (String.ofList trimmed, String.ofList key, data)

variable {m : Type → Type} [Monad m] [Transport m] [Journal m] [Terminal m]
  [Keyboard m]

/-- Carries out one entered line. -/
def obey (endpoint : Endpoint) (line : String) : m Unit := do
  let (line, key, data) := parts line
  Terminal.print ("\n>>: " ++ line)
  match ← (endpoint.request key data).run with
  | .ok text => Terminal.print text
  | .error e => Terminal.complain ("Error: " ++ ": ".intercalate e.chain)

/-- Reads keys, at most the given number of them. -/
def converse (endpoint : Endpoint) (editor : Editor) : Nat → m Unit
  | 0 => return
  | keys + 1 => do
    match ← (Keyboard.nextKey? : m _) with
    | none => return
    | some key =>
      match editor.press key with
      | (_, .quit) => return
      | (editor, .pending) => converse endpoint editor keys
      | (editor, .entered line) =>
        obey endpoint line
        converse endpoint editor keys

/-- The console on a port, from its greeting to its farewell. -/
def run (endpoint : Endpoint) (port : String) (keys : Nat) : m Unit := do
  Terminal.print "\n=== Serial Link Started ==="
  Terminal.print
    s!"     YD/T 1363 on {port}, address {Text.hexByte endpoint.address}\n"
  Terminal.print "Enter `key \x7bjson\x7d`. Ctrl+C to exit\n"
  converse endpoint .fresh keys
  Terminal.print "Exiting...\n"

end Console

end PowerLink
