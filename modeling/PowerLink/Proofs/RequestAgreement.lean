import PowerLink.Proofs.Endpoints
import PowerLink.Proofs.Payloads
import PowerLink.Proofs.Registries

/-!
# A device understands what a client has asked for

A client that gets past the building of its request puts one frame on the line, and a
device with the same registry reads from it the same command, and params that stand for
the same bytes.
-/

namespace PowerLink

open LinkT

/-- A write to the line succeeds, and so does the flush after it. -/
def Transmits {σ : Type} [Transport (StateM σ)] (line : σ) : Prop :=
  ∀ bytes, ∃ sent flushed,
    (Transport.write bytes : StateM σ _) line = (.ok (), sent) ∧
      (Transport.flush : StateM σ _) sent = (.ok (), flushed)

theorem Wire.transmits (inbound : Bytes) (drained : Bool) :
    Transmits (⟨inbound, true, drained⟩ : Wire) := by
  intro bytes
  exact ⟨_, _, rfl, rfl⟩

namespace Endpoint

/-- The frame of a request is a sound packet that carries the identifiers of its
command, and a payload that is decoded as a record with the same wire content. -/
theorem exists_packet_of_request {endpoint : Endpoint} {command : Command}
    (hparams : Payload.WellFormed command.params) {data : Record} {frame : Bytes}
    (hframe : endpoint.requestFrame command data = .ok frame) :
    ∃ (packet : Packet) (record : Record),
      packet.toBytes = frame ∧ packet.IsSound ∧
      command.ids = (packet.id1, packet.id2) ∧
      Payload.decode command.params packet.info = .ok record ∧
      (∀ key, key ∈ record.keys ↔ key ∈ command.params.map Field.key) ∧
      Payload.encode .reject record command.params =
        Payload.encode .reject data command.params := by
  rcases requestFrame_eq_ok_iff.mp hframe with ⟨info, hencode, hfits, rfl⟩
  rcases Payload.decode_of_encode hparams hencode with ⟨record, hdecode, hback, hkeys⟩
  exact ⟨.ofFrame _ hfits, record, Packet.toBytes_ofFrame _ hfits,
    Packet.isSound_ofFrame _ hfits, rfl, hdecode, hkeys, hback.trans hencode.symm⟩

variable {σ : Type} [Transport (StateM σ)]

theorem written_send {endpoint : Endpoint} {key : String} {command : Command}
    {data : Record} {frame : Bytes}
    (hkey : endpoint.registry.byKey? key = some command)
    (hframe : endpoint.requestFrame command data = .ok frame) {line : σ}
    (hline : Transmits line) :
    ((endpoint.send key data).on (Transcript.start line)).2.written = frame := by
  rcases hline frame with ⟨sent, flushed, hwrite, hflush⟩
  obtain ⟨events, result, after, hconclude, hnothing⟩ :=
    exists_runs_concludeSend (fun event => event.written = []) (fun _ _ => rfl)
      (fun _ => rfl) command flushed
  have hsend : Runs (endpoint.send key data) line
      ([.called (.write frame) none, .called .flush none] ++ events) result after := by
    rw [send_eq_of_built hkey hframe]
    exact Runs.bind (Runs.sendFrame hwrite hflush) hconclude
  have hsilent : events.flatMap Event.written = [] := by
    simpa using hnothing
  rw [Transcript.start, hsend []]
  simp [Transcript.written, Event.written, hsilent]

/-- Whenever a client gets past the building of a request on a line that transmits, a
device with the same registry that is given the written bytes receives the same
command, and a record with exactly the keys of its params that is encoded as the
client's data is; it reads the written bytes to their end. -/
theorem request_agreement {document : SchemaDocument} {registry : Registry}
    (hdocument : Registry.ofDocument document = .ok registry) {command : Command}
    (hmem : command ∈ registry.commands) (data : Record) (client device : UInt8)
    {line : σ} (hline : Transmits line) {outcome : Except LinkError Outcome}
    {sent : Transcript σ}
    (hsend : (send ⟨registry, client⟩ command.key data).on (Transcript.start line) =
      (outcome, sent))
    (hbuilt : outcome ≠ .ok .frameNotBuilt) (drained : Bool) :
    ∃ record after,
      (receive ⟨registry, device⟩).on
          (Transcript.start (⟨sent.written, true, drained⟩ : Wire)) =
        (.ok (command, record), after) ∧
      (∀ key, key ∈ record.keys ↔ key ∈ command.params.map Field.key) ∧
      Payload.encode .reject record command.params =
        Payload.encode .reject data command.params ∧
      after.line.inbound = [] := by
  have hkey : registry.byKey? command.key = some command :=
    Registry.byKey?_eq_some_iff.mpr ⟨hmem, rfl⟩
  cases hframe : requestFrame ⟨registry, client⟩ command data with
  | error e =>
      have hfailed := runs_send_unbuilt hkey hframe line []
      rw [← Transcript.start, hsend] at hfailed
      exact absurd (congrArg Prod.fst hfailed) hbuilt
  | ok frame =>
      have hwritten := written_send hkey hframe hline
      rw [hsend] at hwritten
      have hparams := (Registry.wellFormed_of_ofDocument hdocument hmem).params
      obtain ⟨packet, record, hpacket, hsound, hids, hdecode, hkeys, hsame⟩ :=
        exists_packet_of_request hparams hframe
      have hcommand : registry.byIds? packet.id1 packet.id2 = some command :=
        Registry.byIds?_eq_some_iff.mpr ⟨hmem, hids⟩
      have hresolve (wire : Wire) : Runs (resolve ⟨registry, device⟩ packet.toBytes)
          wire [] (.ok (command, record)) wire :=
        runs_resolve (Packet.isSound_iff.mp hsound) hcommand hdecode
      have hreceive :=
        runs_receive Wire.isReadOf_self (hresolve ⟨[], true, drained⟩) []
      simp only [List.append_nil] at hreceive
      rw [hwritten, ← hpacket]
      exact ⟨record, _, hreceive, hkeys, hsame, rfl⟩

def meterRequest : Record :=
  KeyMap.ofList
    [("n", .scalar (.uint 2)), ("readings", .array [.uint 300, .uint 7]),
      ("unused", .scalar (.uint 9))]

theorem request_agreement_meter :
    let sent := (send ⟨Registry.meter, 1⟩ "sum" meterRequest).on
      (Transcript.start (⟨[], true, false⟩ : Wire))
    sent.1 ≠ .ok .frameNotBuilt ∧
      ∃ record after,
        (receive ⟨Registry.meter, 2⟩).on
            (Transcript.start (⟨sent.2.written, true, false⟩ : Wire)) =
          (.ok (Registry.meterCommand, record), after) ∧
        (∀ key, key ∈ record.keys ↔ key ∈ ["n", "readings"]) ∧
        Payload.encode .reject record Registry.meterCommand.params =
          Payload.encode .reject meterRequest Registry.meterCommand.params ∧
        after.line.inbound = [] := by
  have hbuilt : ((send ⟨Registry.meter, 1⟩ "sum" meterRequest).on
      (Transcript.start (⟨[], true, false⟩ : Wire))).1 ≠ .ok .frameNotBuilt := by
    have hfailed : ((send ⟨Registry.meter, 1⟩ "sum" meterRequest).on
        (Transcript.start (⟨[], true, false⟩ : Wire))).1 =
          .error (.transport (.shortRead 1 0)) := by
      rfl
    simp [hfailed]
  have hmem : Registry.meterCommand ∈ Registry.meter.commands := by
    simp [Registry.meter]
  have hdocument : Registry.ofDocument Registry.meterDocument = .ok Registry.meter := by
    rfl
  exact ⟨hbuilt, request_agreement hdocument hmem meterRequest 1 2
    (Wire.transmits [] false) rfl hbuilt false⟩

end Endpoint

end PowerLink
