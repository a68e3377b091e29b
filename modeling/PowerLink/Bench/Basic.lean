import PowerLink.Bench.Transcript
import PowerLink.Program.Run

/-!
# The bench

A place to run the program without a machine: the files, the ports and the typed keys
are given, the line is under observation, and what goes on outside the program, the
line's other end and the user's interrupt, follows from what has happened so far.
-/

namespace PowerLink

structure Bench (σ : Type) where
  transcript : Transcript σ
  /-- What becomes of the line before it is read or written again. -/
  meanwhile : Transcript σ → σ
  /-- Whether the user has interrupted the program. -/
  interrupted : Transcript σ → Bool
  /-- The keys that are still to be typed. -/
  keys : List Key
  /-- The files that can be read, by name. -/
  files : List (String × String)
  /-- The folders beside them. -/
  folders : List String
  ports : List String

namespace Bench

variable {σ α : Type}

/-- A bench with nothing but a line. -/
def ofLine (line : σ) : Bench σ where
  transcript := .start line
  meanwhile transcript := transcript.line
  interrupted _ := false
  keys := []
  files := []
  folders := []
  ports := []

/-- Does something that only the transcript is concerned with. -/
def observe (act : StateM (Transcript σ) α) : StateM (Bench σ) α := fun bench =>
  let (result, transcript) := act bench.transcript
  (result, { bench with transcript })

/-- Lets the line change before it is used. -/
def afterwards (act : StateM (Transcript σ) α) : StateM (Bench σ) α := fun bench =>
  let line := bench.meanwhile bench.transcript
  let (result, transcript) := act { bench.transcript with line }
  (result, { bench with transcript })

/-- Where the steps of a path lead from a place, itself given by the steps to it. Only
from a folder is there a next step. -/
def follow? (folders : List String) (place : List String) :
    List String → Option (List String)
  | [] => some place
  | step :: rest =>
    if place ≠ [] ∧ "/".intercalate place ∉ folders then none
    else if step = "" ∨ step = "." then follow? folders place rest
    else if step = ".." then
      if place.isEmpty then none else follow? folders place.dropLast rest
    else follow? folders (place ++ [step]) rest

/-- Reads the file at a path. A path from the root has to be the name of the file. -/
def readFile? (path : String) (bench : Bench σ) : Option String :=
  if path.toList.head? = some '/' then bench.files.lookup path
  else do
    let place ← follow? bench.folders [] (path.splitOn "/")
    bench.files.lookup ("/".intercalate place)

def nextKey? : StateM (Bench σ) (Option Key) := fun bench =>
  match bench.keys with
  | [] => (none, bench)
  | key :: keys => (some key, { bench with keys })

end Bench

variable {σ : Type}

instance [Transport (StateM σ)] : Transport (StateM (Bench σ)) where
  openLine := Bench.observe Transport.openLine
  read size := Bench.afterwards (Transport.read size)
  write bytes := Bench.afterwards (Transport.write bytes)
  flush := Bench.observe Transport.flush
  closeLine := Bench.observe Transport.closeLine

instance : Journal (StateM (Bench σ)) where
  note notice := Bench.observe (Journal.note notice)

instance : Terminal (StateM (Bench σ)) where
  print text := Bench.observe (Terminal.print text)
  complain text := Bench.observe (Terminal.complain text)

instance : Keyboard (StateM (Bench σ)) where
  nextKey? := Bench.nextKey?

instance : Host (StateM (Bench σ)) where
  readFile? path := do return (← get).readFile? path
  ports := do return (← get).ports
  configure _ := pure ()
  running := do
    let bench ← get
    return !bench.interrupted bench.transcript
  pause _ := pure ()

end PowerLink
