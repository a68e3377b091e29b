import PowerLink.Proofs.Couplings
import PowerLink.Proofs.RequestAgreement

/-!
# Replies that nobody awaits

A client does not read after a command without value fields, but a responder answers
every request, also one for such a command. The answer waits on the client's end of the
line, and the next command whose reply is awaited is taken to be answered with it.
-/

namespace PowerLink

open LinkT

/-! ## What the responder does -/

namespace Responder

/-- The return code that a request for the command is answered with. -/
def status (responder : Responder) (command : Command) : ReturnCode :=
  match responder.values command with
  | .ok _ => .ok
  | .error _ => .invalidData

/-- The frame that answers a request for a command without value fields. -/
def bareReply (responder : Responder) (command : Command) : Frame :=
  ⟨responder.endpoint.address, command.id1, (responder.status command).toByte, []⟩

variable {responder : Responder} {command : Command}

theorem reply_of_valueless (hvalues : command.values = []) :
    responder.reply command = .ok (responder.bareReply command).toBytes := by
  have hencode (record : Record) : Payload.encode .omit record command.values = .ok [] := by
    rw [hvalues]
    rfl
  unfold bareReply status
  cases hcanned : responder.values command with
  | ok record =>
      rw [reply_of_values hcanned]
      exact Endpoint.replyFrame_of_empty (hencode record)
  | error e => exact reply_of_misfit hcanned

end Responder

/-! ## What the client does -/

theorem Coupling.exists_settle_eq (line : Coupling) :
    ∃ bytes, line.settle.client = line.client.feed bytes := by
  unfold settle
  cases line.failure with
  | some e => exact ⟨[], by simp [Wire.feed]⟩
  | none => exact ⟨_, rfl⟩

namespace Endpoint

variable {command : Command} {data : Record}

/-- Whatever stands first on the line is taken for the reply to the command. -/
theorem exists_runs_send_awaited (client : Endpoint) (line : Coupling) {key : String}
    (hkey : client.registry.byKey? key = some command) (hvalues : command.values ≠ [])
    {request : Bytes} (hframe : client.requestFrame command data = .ok request)
    (hopen : line.client.isOpen = true) {bytes tail : Bytes}
    (hinbound : line.client.inbound = bytes ++ tail) {frame : Frame}
    (hdecode : Frame.decode bytes = .ok frame) :
    ∃ events after, Runs (client.send key data) line events
      ((command.verdict frame).map .reply) after := by
  have hwrite := Coupling.write_of_open hopen request
  obtain ⟨added, hsettle⟩ :=
    Coupling.exists_settle_eq { line with device := line.device.feed request }
  have hsend : Runs (sendFrame request) line
      [.called (.write request) none, .called .flush none] (.ok ())
      (Coupling.settle { line with device := line.device.feed request }) :=
    Runs.sendFrame hwrite rfl
  have hclient : (Coupling.settle { line with device := line.device.feed request }).client =
      ⟨bytes ++ (tail ++ added), true, line.client.drained⟩ := by
    rw [hsettle]
    simp [Wire.feed, hinbound, hopen]
  obtain ⟨events, hconclude⟩ := runs_concludeSend (Coupling.isReadOf_client
    (Coupling.settle { line with device := line.device.feed request })) hvalues
    line.client.drained (tail ++ added) hdecode
  rw [← hclient] at hconclude
  rw [send_eq_of_built hkey hframe]
  exact ⟨_, _, Runs.bind hsend hconclude⟩

/-- A command without value fields is sent without a read, and leaves the line with the
responder's answer to it on the client's end. -/
theorem exists_runs_send_unawaited (client : Endpoint) {line : Coupling}
    (hline : line.Attends) {idle : Nat}
    (hturns : line.turns = idle + 1)
    (hregistry : line.responder.endpoint.registry = client.registry)
    (hmem : command ∈ client.registry.commands) (hwell : command.WellFormed)
    (hvalues : command.values = []) {request : Bytes}
    (hframe : client.requestFrame command data = .ok request) :
    ∃ drained, Runs (client.send command.key data) line
      [.called (.write request) none, .called .flush none] (.ok .sent)
      { line with
        client := line.client.feed (line.responder.bareReply command).toBytes
        device := ⟨[], true, drained⟩ } := by
  have hkey : client.registry.byKey? command.key = some command :=
    Registry.byKey?_eq_some_iff.mpr ⟨hmem, rfl⟩
  obtain ⟨packet, params, rfl, hsound, hids, hparams, _⟩ :=
    exists_packet_of_request hwell.params hframe
  have hasked : line.responder.AskedFor packet command :=
    ⟨hsound, by rwa [hregistry], hids⟩
  have htakes := Responder.takes_of_understood hasked hparams
    (Responder.reply_of_valueless hvalues)
  obtain ⟨drained, hsend⟩ := hline.runs_sendFrame hturns htakes.handles
  have hsilent : command.isUnidirectional = true := by
    simp [Command.isUnidirectional, hvalues]
  refine ⟨drained, ?_⟩
  rw [send_eq_of_built hkey hframe]
  unfold concludeSend
  simp only [hsilent, if_true]
  exact Runs.bind hsend Runs.pure

/-- A command without value fields whose data can be encoded is sent on a line with a
responder that knows the same commands. Nothing is read, and the line then holds one
frame that it did not hold before, the responder's answer. If it held nothing before, the
next command whose reply is awaited takes this answer for its own. -/
theorem send_leaves_reply {document : SchemaDocument} {registry : Registry}
    (hdocument : Registry.ofDocument document = .ok registry) (client : UInt8)
    {line : Coupling} (hline : line.Attends) (hturns : 0 < line.turns)
    (hregistry : line.responder.endpoint.registry = registry)
    (hmem : command ∈ registry.commands) (hvalues : command.values = []) {info : Bytes}
    (hencode : Payload.encode .reject data command.params = .ok info)
    (hfits : info.length ≤ 4095) :
    ∃ after, (send ⟨registry, client⟩ command.key data).on (Transcript.start line) =
        (.ok .sent, after) ∧
      after.readSizes = [] ∧ after.line.device.inbound = [] ∧
      after.line.client.inbound =
        line.client.inbound ++ (line.responder.bareReply command).toBytes ∧
      (line.client.inbound = [] → ∀ next ∈ registry.commands, next.values ≠ [] →
        ∀ other sent, Payload.encode .reject other next.params = .ok sent →
          sent.length ≤ 4095 →
          ((send ⟨registry, client⟩ next.key other).on (Transcript.start after.line)).1 =
            (next.verdict (line.responder.bareReply command)).map .reply) := by
  have hframe : requestFrame ⟨registry, client⟩ command data = .ok _ :=
    requestFrame_eq_ok_iff.mpr ⟨info, hencode, hfits, rfl⟩
  rcases Nat.exists_eq_succ_of_ne_zero hturns.ne' with ⟨idle, hidle⟩
  have hwell := Registry.wellFormed_of_ofDocument hdocument hmem
  obtain ⟨drained, hsend⟩ := exists_runs_send_unawaited ⟨registry, client⟩ hline hidle
    hregistry hmem hwell hvalues hframe
  refine ⟨_, hsend [], rfl, rfl, rfl, ?_⟩
  intro hempty next hnext hsome other sent hother hshort
  have hkey : registry.byKey? next.key = some next :=
    Registry.byKey?_eq_some_iff.mpr ⟨hnext, rfl⟩
  have hrequest : requestFrame ⟨registry, client⟩ next other = .ok _ :=
    requestFrame_eq_ok_iff.mpr ⟨sent, hother, hshort, rfl⟩
  have hreply : Frame.decode (line.responder.bareReply command).toBytes =
      .ok (line.responder.bareReply command) := Frame.decode_toBytes (Nat.zero_le _)
  have hinbound : (line.client.feed (line.responder.bareReply command).toBytes).inbound =
      (line.responder.bareReply command).toBytes ++ [] := by
    simp [Wire.feed, hempty]
  obtain ⟨events, after, hlater⟩ := exists_runs_send_awaited ⟨registry, client⟩
    { line with
      client := line.client.feed (line.responder.bareReply command).toBytes
      device := ⟨[], true, drained⟩ }
    hkey hsome hrequest hline.client_open hinbound hreply
  exact congrArg Prod.fst (hlater [])

end Endpoint

namespace Registry

/-- A meter that can also be reset, which has no value fields. -/
def resettableDocument : SchemaDocument :=
  { meterDocument with
    serverSideRpc := [{
      id1 := .number 0x40
      id2 := .number 0x82
      key := "reset"
      name := ""
      params := []
      values := [] }] }

def resetCommand : Command where
  id1 := 0x40
  id2 := 0x82
  key := "reset"
  name := "reset"
  group := .serverSideRpc
  params := []
  values := []

def resettable : Registry where
  commands := [meterCommand, resetCommand]
  ids_nodup := by decide
  keys_nodup := by decide

end Registry

namespace Endpoint

theorem send_leaves_reply_reset :
    let line := Coupling.start ⟨⟨Registry.resettable, 2⟩, Registry.meterCanned⟩ 1
    ∃ after, (send ⟨Registry.resettable, 1⟩ "reset" .empty).on (Transcript.start line) =
        (.ok .sent, after) ∧
      after.readSizes = [] ∧ after.line.device.inbound = [] ∧
      after.line.client.inbound =
        line.client.inbound ++ (line.responder.bareReply Registry.resetCommand).toBytes ∧
      (line.client.inbound = [] → ∀ next ∈ Registry.resettable.commands, next.values ≠ [] →
        ∀ other sent, Payload.encode .reject other next.params = .ok sent →
          sent.length ≤ 4095 →
          ((send ⟨Registry.resettable, 1⟩ next.key other).on
              (Transcript.start after.line)).1 =
            (next.verdict (line.responder.bareReply Registry.resetCommand)).map .reply) := by
  have hdocument : Registry.ofDocument Registry.resettableDocument =
      .ok Registry.resettable := by
    rfl
  have hmem : Registry.resetCommand ∈ Registry.resettable.commands := by
    simp [Registry.resettable]
  have hline := Coupling.isIdle_start
    ⟨⟨Registry.resettable, 2⟩, Registry.meterCanned⟩ 1
  exact send_leaves_reply hdocument 1 hline.toAttends Nat.one_pos rfl hmem rfl rfl
    (Nat.zero_le 4095)

/-- The answer to the reset waits for the client, which then takes it for the answer to
its next command. The sum that it has asked for waits in its turn. -/
theorem reset_reply_taken_for_sum :
    let line := Coupling.start ⟨⟨Registry.resettable, 2⟩, Registry.meterCanned⟩ 1
    let reset := (send ⟨Registry.resettable, 1⟩ "reset" .empty).on (Transcript.start line)
    let sum := (send ⟨Registry.resettable, 1⟩ "sum" meterRequest).on
      (Transcript.start reset.2.line)
    line.client.inbound = [] ∧ reset.1 = .ok .sent ∧
      reset.2.line.client.inbound =
        [0x7E, 0x21, 0x02, 0x40, 0x00, 0x00, 0x00, 0xFF, 0xBE, 0x0D] ∧
      sum.1.mapError LinkError.message =
        .error "Invalid data: field 'total' needs 2 bytes, 0 left" ∧
      sum.2.line.client.inbound =
        [0x7E, 0x21, 0x02, 0x40, 0x00, 0xC0, 0x02, 0x01, 0x33, 0xFE, 0xC8, 0x0D] := by
  refine ⟨rfl, rfl, ?_, ?_, ?_⟩
  · decide +kernel
  · decide +kernel
  · decide +kernel

end Endpoint

end PowerLink
