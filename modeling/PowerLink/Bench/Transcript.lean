import PowerLink.Line.Transport
import PowerLink.Link.Notice

/-!
# Transcripts

A line under observation. Every call of the transport is recorded with its outcome,
together with every notice and every printed text, in the order of their happening.
-/

namespace PowerLink

inductive Event
  /-- A call of the transport, and how it failed if it did. -/
  | called (call : Call) (failure : Option TransportError)
  | noted (notice : Notice)
  | printed (text : String)
  | complained (text : String)

namespace Event

/-- The bytes that a write has put on the line. -/
def written : Event → Bytes
  | .called (.write bytes) none => bytes
  | _ => []

def isSentFrame : Event → Bool
  | .called (.write _) none => true
  | _ => false

/-- The size that a read has asked for, whether it got that much or not. -/
def readSize? : Event → Option Nat
  | .called (.read size) _ => some size
  | _ => none

def isFlush : Event → Bool
  | .called .flush none => true
  | _ => false

def notice? : Event → Option Notice
  | .noted notice => some notice
  | _ => none

def printed? : Event → Option String
  | .printed text => some text
  | _ => none

def complaint? : Event → Option String
  | .complained text => some text
  | _ => none

end Event

structure Transcript (σ : Type) where
  line : σ
  events : List Event

namespace Transcript

variable {σ α : Type}

/-- Nothing has happened yet. -/
def start (line : σ) : Transcript σ :=
  ⟨line, []⟩

def written (transcript : Transcript σ) : Bytes :=
  transcript.events.flatMap Event.written

/-- Number of frames put on the line. -/
def sentFrames (transcript : Transcript σ) : Nat :=
  transcript.events.countP Event.isSentFrame

def readSizes (transcript : Transcript σ) : List Nat :=
  transcript.events.filterMap Event.readSize?

def flushes (transcript : Transcript σ) : Nat :=
  transcript.events.countP Event.isFlush

def notices (transcript : Transcript σ) : List Notice :=
  transcript.events.filterMap Event.notice?

def printed (transcript : Transcript σ) : List String :=
  transcript.events.filterMap Event.printed?

def complaints (transcript : Transcript σ) : List String :=
  transcript.events.filterMap Event.complaint?

def add (transcript : Transcript σ) (event : Event) : Transcript σ :=
  { transcript with events := transcript.events ++ [event] }

/-- Makes a call and records it. -/
def observe (call : Call) (act : StateM σ (Except TransportError α)) :
    StateM (Transcript σ) (Except TransportError α) := fun transcript =>
  let (result, line) := act transcript.line
  let failure :=
    match result with
    | .ok _ => none
    | .error e => some e
  (result, { transcript with line }.add (.called call failure))

def record (event : Event) : StateM (Transcript σ) Unit := fun transcript =>
  ((), transcript.add event)

end Transcript

instance {σ : Type} [Transport (StateM σ)] : Transport (StateM (Transcript σ)) where
  openLine := Transcript.observe .openLine Transport.openLine
  read size := Transcript.observe (.read size) (Transport.read size)
  write bytes := Transcript.observe (.write bytes) (Transport.write bytes)
  flush := Transcript.observe .flush Transport.flush
  closeLine := Transcript.observe .closeLine Transport.closeLine

instance {σ : Type} : Journal (StateM (Transcript σ)) where
  note notice := Transcript.record (.noted notice)

instance {σ : Type} : Terminal (StateM (Transcript σ)) where
  print text := Transcript.record (.printed text)
  complain text := Transcript.record (.complained text)

end PowerLink
