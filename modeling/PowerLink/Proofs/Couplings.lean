import PowerLink.Proofs.Serving

/-!
# A client and a responder on one line

What the client writes arrives at the responder, and nothing is lost or changed on the
way. Once a write has been flushed the responder takes its turns, and what it has
written by then waits for the client, so that every request is dealt with before the
client reads.
-/

namespace PowerLink

open LinkT

structure Coupling where
  responder : Responder
  /-- The number of turns that the responder takes after a flush. -/
  turns : Nat
  /-- The client's end of the line. -/
  client : Wire
  /-- The responder's end of the line. -/
  device : Wire
  /-- What the responder has given up for; it takes no more turns then. -/
  failure : Option LinkError

namespace Coupling

/-- An open line on which nothing has happened. -/
def start (responder : Responder) (turns : Nat) : Coupling where
  responder := responder
  turns := turns
  client := ⟨[], true, false⟩
  device := ⟨[], true, false⟩
  failure := none

/-- The responder takes its turns. -/
def settle (line : Coupling) : Coupling :=
  match line.failure with
  | some _ => line
  | none =>
    let (result, transcript) :=
      (line.responder.serve (pure true) line.turns).on (Transcript.start line.device)
    { line with
      client := line.client.feed transcript.written
      device := transcript.line
      failure :=
        match result with
        | .ok () => none
        | .error e => some e }

/-- Does something at the client's end alone. -/
def atClient {α : Type} (act : StateM Wire α) : StateM Coupling α := fun line =>
  let (result, client) := act line.client
  (result, { line with client })

def write (bytes : Bytes) : StateM Coupling (Except TransportError Unit) := fun line =>
  match atClient (Transport.write bytes) line with
  | (.ok (), line) => (.ok (), { line with device := line.device.feed bytes })
  | failed => failed

end Coupling

instance : Transport (StateM Coupling) where
  openLine := Coupling.atClient Transport.openLine
  read size := Coupling.atClient (Transport.read size)
  write := Coupling.write
  flush line := (.ok (), line.settle)
  closeLine := Coupling.atClient Transport.closeLine

namespace Coupling

variable {line : Coupling}

theorem isReadOf_client (line : Coupling) :
    Wire.IsReadOf fun client => { line with client } := by
  intro size client
  rfl

theorem write_of_open (hopen : line.client.isOpen = true) (bytes : Bytes) :
    (Transport.write bytes : StateM Coupling _) line =
      (.ok (), { line with device := line.device.feed bytes }) := by
  change Coupling.write bytes line = _
  have hclient : atClient (Transport.write bytes) line = (.ok (), line) := by
    simp only [atClient, line.client.write_of_open hopen]
  simp only [Coupling.write, hclient]

/-- Both ends are open, and the responder still runs and has no request left. -/
structure Attends (line : Coupling) : Prop where
  client_open : line.client.isOpen = true
  device_open : line.device.isOpen = true
  device_empty : line.device.inbound = []
  running : line.failure = none

/-- What a packet is answered with stands behind what the client has not read yet, once
the packet has been sent and the responder has taken a turn. -/
theorem Attends.runs_sendFrame (hline : line.Attends) {idle : Nat}
    (hturns : line.turns = idle + 1) {packet : Packet} {bytes : Bytes}
    (hhandles : line.responder.Handles packet bytes) :
    ∃ drained, Runs (sendFrame packet.toBytes) line
      [.called (.write packet.toBytes) none, .called .flush none] (.ok ())
      { line with
        client := line.client.feed bytes
        device := ⟨[], true, drained⟩ } := by
  obtain ⟨events, hturn, hsent⟩ := hhandles line.device.drained []
  obtain ⟨later, _, hserve, ⟨drained, rfl⟩, hsilent, _⟩ :=
    line.responder.runs_serve_idle Wire.exists_read_idle idle ⟨line.device.drained, rfl⟩
  have hrun := Responder.runs_serve_succ hturn hserve []
  rw [List.append_nil, ← hturns] at hrun
  have hwritten :
      (⟨⟨[], true, drained⟩, [] ++ (events ++ later)⟩ : Transcript Wire).written =
        bytes := by
    rw [Transcript.written_eq_flatten, Transcript.framesSent, List.nil_append,
      List.filterMap_append, hsent, hsilent]
    simp
  have hsettle : Coupling.settle
      { line with device := ⟨packet.toBytes, true, line.device.drained⟩ } =
        { line with client := line.client.feed bytes, device := ⟨[], true, drained⟩ } := by
    simp only [Coupling.settle, hline.running, Transcript.start, hrun, hwritten]
  have hwrite := write_of_open hline.client_open packet.toBytes
  have hdevice : line.device.feed packet.toBytes =
      ⟨packet.toBytes, true, line.device.drained⟩ := by
    simp [Wire.feed, hline.device_open, hline.device_empty]
  rw [hdevice] at hwrite
  exact ⟨drained, Runs.sendFrame hwrite (congrArg (Prod.mk (Except.ok ())) hsettle)⟩

/-- Both ends are open, nothing is under way, and the responder still runs. -/
structure IsIdle (line : Coupling) : Prop extends line.Attends where
  client_empty : line.client.inbound = []

theorem IsIdle.client_eq (hline : line.IsIdle) :
    line.client = ⟨[], true, line.client.drained⟩ := by
  rw [← hline.client_empty, ← hline.client_open]

theorem isIdle_start (responder : Responder) (turns : Nat) :
    (start responder turns).IsIdle :=
  ⟨⟨rfl, rfl, rfl, rfl⟩, rfl⟩

end Coupling

/-- On an idle line the client takes what its request is answered with for the reply, and
leaves the line idle. -/
theorem Endpoint.exists_runs_send_handled {client : Endpoint} {line : Coupling}
    (hline : line.IsIdle) {idle : Nat} (hturns : line.turns = idle + 1) {key : String}
    {command : Command} (hkey : client.registry.byKey? key = some command)
    (hvalues : command.values ≠ []) {data : Record} {packet : Packet}
    (hframe : client.requestFrame command data = .ok packet.toBytes) {bytes : Bytes}
    (hhandles : line.responder.Handles packet bytes) {frame : Frame}
    (hdecode : Frame.decode bytes = .ok frame) :
    ∃ events drained, Runs (client.send key data) line events
      ((command.verdict frame).map .reply) { line with device := ⟨[], true, drained⟩ } := by
  obtain ⟨drained, hsend⟩ := hline.toAttends.runs_sendFrame hturns hhandles
  have hclient : line.client.feed bytes = ⟨bytes ++ [], true, line.client.drained⟩ := by
    simp [Wire.feed, hline.client_open, hline.client_empty]
  rw [hclient] at hsend
  obtain ⟨events, hconclude⟩ := runs_concludeSend
    (Coupling.isReadOf_client { line with device := ⟨[], true, drained⟩ }) hvalues
    line.client.drained [] hdecode
  rw [← hline.client_eq] at hconclude
  rw [send_eq_of_built hkey hframe]
  exact ⟨_, drained, Runs.bind hsend hconclude⟩

end PowerLink
