import PowerLink.Proofs.SerialReads
import PowerLink.Proofs.Serving
import Mathlib.Data.List.ReduceOption

/-!
# A responder answers every packet once

At a serial port packets come in pieces of any size, with interruptions in between, and
before and after each of them the port may be silent for any number of times.  A packet
takes one turn of the responder and a silence another one, so a run is an induction on
what comes in, and it goes on when nothing more comes.
-/

namespace PowerLink

open LinkT

/-! ## What comes in at a port -/

/-- The bytes delivered next, and what the port answers behind them, bring a packet or a
silence for every turn. -/
inductive Arrival.Brings : Bytes → List Arrival → List (Option Packet) → Prop
  | nothing : Brings [] [] []
  | packet {bytes : Bytes} {rest : List Arrival} {turns : List (Option Packet)}
      (request : Packet) (hlater : Brings bytes rest turns) :
      Brings (request.toBytes ++ bytes) rest (some request :: turns)
  | silence {arrival : Arrival} {arrivals : List Arrival} {turns : List (Option Packet)}
      (hworks : ∀ text, arrival ≠ .failed text)
      (hlater : Brings (delivered arrivals) (afterDelivered arrivals) turns) :
      Brings [] (arrival :: arrivals) (none :: turns)

/-- A packet in one piece, or a timeout. -/
def Arrival.ofTurn : Option Packet → Arrival
  | some packet => .bytes packet.toBytes
  | none => .timedOut

theorem Arrival.brings_ofTurn (turns : List (Option Packet)) :
    Brings (delivered (turns.map ofTurn)) (afterDelivered (turns.map ofTurn)) turns := by
  induction turns with
  | nil => exact .nothing
  | cons turn turns ih =>
      rw [List.map_cons]
      cases turn with
      | some packet =>
          have hlast : (ofTurn (some packet)).isLast = false := rfl
          rw [delivered_cons hlast, afterDelivered_cons hlast]
          exact .packet packet ih
      | none =>
          have hlast : (ofTurn none).isLast = true := rfl
          rw [delivered_cons_of_last hlast, afterDelivered_cons_of_last hlast]
          exact .silence (by simp [ofTurn]) ih

theorem Arrival.flatMap_piece {arrivals : List Arrival} (hend : afterDelivered arrivals = []) :
    arrivals.flatMap piece = delivered arrivals := by
  have hall := List.takeWhile_append_dropWhile
    (p := fun arrival : Arrival => !arrival.isLast) (l := arrivals)
  rw [← afterDelivered, hend, List.append_nil] at hall
  rw [delivered, hall]

namespace SerialLine

/-- On the open line the bytes are delivered next, and the port answers the rest behind
them. -/
structure Holds (line : SerialLine) (bytes : Bytes) (rest : List Arrival) : Prop where
  isOpen : line.isOpen = true
  uncut : line.isCut = false
  delivered : Arrival.delivered line.arrivals = bytes
  afterDelivered : Arrival.afterDelivered line.arrivals = rest

/-- The line is open and does not fail, and it brings a packet or a silence for every
turn. -/
structure Brings (line : SerialLine) (turns : List (Option Packet)) : Prop where
  isOpen : line.isOpen = true
  uncut : line.isCut = false
  arrivals : Arrival.Brings (Arrival.delivered line.arrivals)
    (Arrival.afterDelivered line.arrivals) turns

/-- There is a line for every order in which packets and silences may come. -/
theorem exists_brings (turns : List (Option Packet)) : ∃ line : SerialLine, line.Brings turns :=
  ⟨⟨true, true, false, turns.map Arrival.ofTurn⟩, rfl, rfl, Arrival.brings_ofTurn turns⟩

variable {line : SerialLine} {rest : List Arrival}

theorem faultless_holds (rest : List Arrival) :
    Faultless fun bytes line => SerialLine.Holds line bytes rest where
  read := by
    intro size chunk tail hsize line _ hline
    have henough : size ≤ (Arrival.delivered line.arrivals).length := by
      rw [hline.delivered, List.length_append, hsize]
      exact Nat.le_add_right _ _
    obtain ⟨left, hread, hleaves⟩ := Arrival.read_of_enough henough
    refine ⟨{ line with arrivals := left }, ?_, hline.isOpen, hline.uncut, ?_, ?_⟩
    · change line.read size = _
      rw [read_of_uncut hline.isOpen (by simp [hline.uncut]), hread]
      simp only [hline.delivered, ← hsize, List.take_left]
    · rw [hleaves.delivered, hline.delivered, ← hsize, List.drop_left]
    · rw [hleaves.afterDelivered, hline.afterDelivered]
  send sent waiting line hline := by
    refine ⟨line, line, ?_, ?_, hline⟩
    · change line.write = _
      simp [write, hline.isOpen, hline.uncut]
    · change line.flush = _
      simp [flush, hline.isOpen]

/-- A read in vain uses up the answer that brings nothing. -/
theorem Holds.read_idle (hline : line.Holds [] rest)
    (hworks : ∀ text, rest.head? ≠ some (.failed text)) :
    (Transport.read 1 : StateM SerialLine _) line =
      (.error (.shortRead 1 0), { line with arrivals := rest.tail }) := by
  have hfailure : Arrival.failure? line.arrivals = none := by
    unfold Arrival.failure?
    rw [hline.afterDelivered]
    split
    next text hhead => exact absurd hhead (hworks text)
    next => rfl
  have hshort : (Arrival.delivered line.arrivals).length < 1 := by
    simp [hline.delivered]
  change line.read 1 = _
  rw [read_of_uncut hline.isOpen (by simp [hline.uncut]), Arrival.read_of_short hshort,
    Arrival.shortage, hfailure, hline.delivered, hline.afterDelivered]
  rfl

theorem exists_read_idle (line : SerialLine) (hline : line.Holds [] []) :
    ∃ after, (Transport.read 1 : StateM SerialLine _) line =
      (.error (.shortRead 1 0), after) ∧ after.Holds [] [] :=
  ⟨_, hline.read_idle (by simp), hline.isOpen, hline.uncut, rfl, rfl⟩

end SerialLine

/-! ## Whole runs -/

/-- The sizes of the reads of a turn that takes a packet or finds none. -/
def Packet.turnReads : Option Packet → List Nat
  | some packet => packet.readSizes
  | none => [1]

namespace Responder

variable {responder : Responder}

/-- The bytes are a frame of the responder that answers the packet. -/
def AnswersWith (responder : Responder) (request : Packet) (bytes : Bytes) : Prop :=
  ∃ id1 code info,
    Frame.decode bytes = .ok ⟨responder.endpoint.address, id1, code, info⟩ ∧
      responder.Answers request id1 code info

theorem runs_serve (hcanned : responder.CannedFit) {bytes : Bytes} {rest : List Arrival}
    {turns : List (Option Packet)} (hbrings : Arrival.Brings bytes rest turns) (idle : Nat)
    {line : SerialLine} (hline : line.Holds bytes rest) :
    ∃ events after, Runs (responder.serve (pure true) (turns.length + idle)) line events
        (.ok ()) after ∧
      after.Holds [] [] ∧
      List.Forall₂ responder.AnswersWith turns.reduceOption
        (events.filterMap Event.sentFrame?) ∧
      events.filterMap Event.readSize? =
        turns.flatMap Packet.turnReads ++ List.replicate idle 1 := by
  -- The induction is on what comes in: one turn for each packet and for each silence.
  induction hbrings generalizing line with
  | nothing =>
      obtain ⟨events, after, hserve, hafter, hsilent, hreads⟩ :=
        runs_serve_idle SerialLine.exists_read_idle idle hline
      refine ⟨events, after, ?_, hafter, ?_, hreads⟩
      · rwa [List.length_nil, Nat.zero_add]
      · rw [hsilent]
        exact .nil
  | @packet bytes rest turns request hlater ih =>
      obtain ⟨id1, code, info, hanswers, hfits, htakes⟩ := exists_answer hcanned request
      obtain ⟨events, middle, hturn, hmiddle, hsent, hread⟩ :=
        htakes _ _ (SerialLine.faultless_holds rest) bytes line hline
      obtain ⟨later, after, hserve, hafter, hothers, hreads⟩ := ih hmiddle
      refine ⟨events ++ later, after, ?_, hafter, ?_, ?_⟩
      · rw [List.length_cons, Nat.add_right_comm]
        exact runs_serve_succ hturn hserve
      · rw [List.reduceOption_cons_of_some, List.filterMap_append, hsent]
        exact .cons ⟨id1, code, info, Frame.decode_toBytes hfits, hanswers⟩ hothers
      · rw [List.filterMap_append, hread, hreads, List.flatMap_cons, List.append_assoc]
        rfl
  | @silence arrival arrivals turns hworks hlater ih =>
      have hread := hline.read_idle (by simpa using hworks)
      have hmiddle : SerialLine.Holds { line with arrivals } (Arrival.delivered arrivals)
          (Arrival.afterDelivered arrivals) :=
        ⟨hline.isOpen, hline.uncut, rfl, rfl⟩
      obtain ⟨later, after, hserve, hafter, hothers, hreads⟩ := ih hmiddle
      refine ⟨.called (.read 1) (some (.shortRead 1 0)) :: later, after, ?_, hafter, ?_, ?_⟩
      · rw [List.length_cons, Nat.add_right_comm]
        exact runs_serve_succ (runs_turn_idle hread) hserve
      · rw [List.reduceOption_cons_of_none]
        exact hothers
      · rw [List.flatMap_cons, List.append_assoc, ← hreads]
        rfl

/-- On a serial line that does not fail, packets and silences come in any order. A
responder that takes one turn for each of them, and any number of turns when nothing more
comes, does not give up: it reads the parts of every packet, tries one byte in vain at
every silence and in every turn after the last, and leaves no byte at the port. For every
packet, and for nothing else, it puts one frame on the line, in their order, each with its
own address and with what the packet is to be answered with. -/
theorem serve_answers_every_packet (hcanned : responder.CannedFit) {line : SerialLine}
    {turns : List (Option Packet)} (hbrings : line.Brings turns) (idle : Nat) :
    ∃ after, (responder.serve (pure true) (turns.length + idle)).on
        (Transcript.start line) = (.ok (), after) ∧
      after.readSizes = turns.flatMap Packet.turnReads ++ List.replicate idle 1 ∧
      after.line.arrivals.flatMap Arrival.piece = [] ∧
      List.Forall₂ responder.AnswersWith turns.reduceOption after.framesSent := by
  obtain ⟨events, after, hserve, hafter, hanswers, hreads⟩ :=
    runs_serve hcanned hbrings.arrivals idle ⟨hbrings.isOpen, hbrings.uncut, rfl, rfl⟩
  refine ⟨_, hserve [], hreads, ?_, hanswers⟩
  rw [Arrival.flatMap_piece hafter.afterDelivered, hafter.delivered]

def meterRequest : Packet :=
  Packet.ofFrame ⟨1, 0x40, 0x81, [0]⟩ (by decide)

/-- The same with a version that is not known. -/
def foreignRequest : Packet :=
  { meterRequest with ver := 0x20 }

/-- Both packets, cut anywhere and with an interruption, and after two silences the first
one again. -/
def meterLine : SerialLine where
  isPresent := true
  isOpen := true
  isCut := false
  arrivals :=
    [.bytes (meterRequest.toBytes.take 4), .interrupted,
      .bytes (meterRequest.toBytes.drop 4 ++ foreignRequest.toBytes.take 1),
      .bytes (foreignRequest.toBytes.drop 1), .timedOut, .bytes [], .interrupted,
      .bytes meterRequest.toBytes]

def meterTurns : List (Option Packet) :=
  [some meterRequest, some foreignRequest, none, none, some meterRequest]

theorem serve_answers_every_packet_meter :
    CannedFit ⟨⟨Registry.meter, 2⟩, Registry.meterCanned⟩ ∧ meterLine.Brings meterTurns ∧
      ∃ after, (serve ⟨⟨Registry.meter, 2⟩, Registry.meterCanned⟩ (pure true) (5 + 1)).on
          (Transcript.start meterLine) = (.ok (), after) ∧
        after.readSizes =
          [1, 4, 2, 1, 2, 1, 1, 4, 2, 1, 2, 1, 1, 1, 1, 4, 2, 1, 2, 1, 1] ∧
        after.line.arrivals.flatMap Arrival.piece = [] ∧
        List.Forall₂ (AnswersWith ⟨⟨Registry.meter, 2⟩, Registry.meterCanned⟩)
          [meterRequest, foreignRequest, meterRequest] after.framesSent := by
  have hcanned : CannedFit ⟨⟨Registry.meter, 2⟩, Registry.meterCanned⟩ :=
    Registry.isCanned_meter.cannedFit 2
  have hlast : Arrival.Brings meterRequest.toBytes [] [some meterRequest] :=
    .packet meterRequest .nothing
  have hsilences : Arrival.Brings [] (meterLine.arrivals.drop 4) [none, none, some meterRequest] :=
    .silence (by simp) (.silence (by simp) hlast)
  have hfirst : Arrival.delivered meterLine.arrivals =
      meterRequest.toBytes ++ (foreignRequest.toBytes ++ []) := by
    decide
  have hbrings : meterLine.Brings meterTurns := by
    refine ⟨rfl, rfl, ?_⟩
    rw [hfirst]
    exact .packet _ (.packet _ hsilences)
  exact ⟨hcanned, hbrings, serve_answers_every_packet hcanned hbrings 1⟩

end Responder

end PowerLink
