import PowerLink.Bench.Basic
import PowerLink.Bench.Device
import PowerLink.Program.LogFilter

/-!
# Scripted runs

A whole run of the program against a scripted device: which ports and files there are,
what the device sends, what is typed, and when the run is stopped.
-/

namespace PowerLink

/-- When the user interrupts the program, or the device hangs up. -/
structure Stop where
  /-- The number of frames that the program has sent by then. -/
  frames : Nat := 0
  /-- The number of lines that it has printed. -/
  lines : Option Nat := none
  /-- A text that it has shown. -/
  text : Option String := none
  /-- The device hangs up, and there is no interrupt. -/
  hangsUp : Bool := false
  deriving DecidableEq, Repr

/-- Whether a text occurs within another. -/
def occursIn (part whole : List Char) : Bool :=
  part.isPrefixOf whole ||
    match whole with
    | [] => false
    | _ :: rest => occursIn part rest

/-- The text that an event has shown. -/
def Event.shown? : Event → Option String
  | .noted notice => some (LogFilter.line notice)
  | .printed text | .complained text => some text
  | .called .. => none

namespace Stop

def hasShown (text : String) (events : List Event) : Bool :=
  (events.filterMap Event.shown?).any fun shown => occursIn text.toList shown.toList

/-- Whether the moment has come. A program that prints nothing is left to read what the
device has sent. -/
def isDue (stop : Stop) (transcript : Transcript Device) : Bool :=
  stop.frames ≤ transcript.sentFrames &&
    (match stop.text with
    | some text => hasShown text transcript.events
    | none => true) &&
    match stop.lines with
    | some lines => lines ≤ transcript.printed.length
    | none => !transcript.printed.isEmpty || transcript.line.isSilent

end Stop

structure Script where
  ports : List String
  files : List (String × String)
  folders : List String
  /-- What the device answers to the frames, one after the other. -/
  replies : List Bytes
  /-- What the device sends once the line is open. -/
  requests : Bytes
  keys : List Key
  stop : Option Stop

namespace Script

/-- The requests are sent before anything else happens on the open line. -/
def deliver (requests : Bytes) (transcript : Transcript Device) : Device :=
  let hasBegun := transcript.events.any fun
    | .called (.read _) _ | .called (.write _) _ => true
    | _ => false
  if hasBegun then transcript.line else transcript.line.send requests

def bench (script : Script) : Bench Device where
  transcript := .start (.ofReplies script.replies)
  meanwhile transcript :=
    let device := deliver script.requests transcript
    match script.stop with
    | some stop =>
      if stop.hangsUp ∧ stop.isDue { transcript with line := device } then device.cut
      else device
    | none => device
  interrupted transcript :=
    match script.stop with
    | some stop =>
      !stop.hangsUp &&
        stop.isDue { transcript with line := deliver script.requests transcript }
    | none => false
  keys := script.keys
  files := script.files ++ [("/dev/null", "")]
  folders := script.folders
  ports := script.ports

/-- Enough turns for every byte, key and line that can matter. -/
def turns (script : Script) : Nat :=
  let awaited :=
    match script.stop with
    | some stop => stop.frames + stop.lines.getD 1
    | none => 0
  script.requests.length + script.keys.length +
    script.replies.flatten.length + awaited + 2

/-- What a run leaves behind. -/
structure Trace where
  exitCode : UInt8
  /-- What was printed, line by line. -/
  printed : List String
  /-- What was complained about, line by line. Of a failed run only the first line
  counts. -/
  complaints : List String
  /-- The first lines of the notices that the log filter lets through. -/
  logged : List String
  written : Bytes

def Trace.ofUsageError : Trace :=
  ⟨Program.usageExitCode, [], [], [], []⟩

def Trace.ofVersion : Trace :=
  ⟨Program.exitCode (.ok ()), [Program.version], [], [], []⟩

def textLines (text : String) : List String :=
  text.splitOn "\n"

def logLines (filter : LogFilter) (notice : Notice) : List String :=
  if filter.shows notice then textLines (LogFilter.line notice) else []

/-- The lines that an event adds to the output apart from the log. The further lines of
a notice look like printed ones. -/
def printedLines (filter : LogFilter) : Event → List String
  | .printed text => textLines text
  | .noted notice => (logLines filter notice).drop 1
  | _ => []

/-- Runs the program with its arguments, given as words. -/
def run (script : Script) (words : List String) : Trace :=
  match Invocation.ofWords? words with
  | none => .ofUsageError
  | some .showVersion => .ofVersion
  | some (.run arguments) =>
    let (result, bench) :=
      (Program.run (m := StateM (Bench Device)) arguments script.turns).run.run
        script.bench
    let filter := LogFilter.ofText arguments.logLevel
    let complaints := bench.transcript.complaints.flatMap textLines
    { exitCode := Program.exitCode result
      printed := bench.transcript.events.flatMap (printedLines filter)
      complaints :=
        match result with
        | .ok () => complaints
        | .error failure =>
          (complaints ++ textLines ("Error: " ++ failure.message)).take 1
      logged := bench.transcript.notices.flatMap fun notice =>
        (logLines filter notice).take 1
      written := bench.transcript.written }

end Script

end PowerLink
