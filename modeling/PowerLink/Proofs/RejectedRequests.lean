import PowerLink.Proofs.Couplings
import PowerLink.Proofs.RequestAgreement

/-!
# Requests that the other end rejects

The two ends of a line need not know the same commands. A responder rejects a request under
identifiers that it does not know, one whose payload does not fit the params that it knows,
and one for a command whose canned values it cannot take. The client that has sent the
request is told so by the return code of the answer, and never takes it for a reply.
-/

namespace PowerLink

open LinkT

namespace Responder

/-- The return code with which a request with these identifiers and this payload is
rejected. -/
inductive Rejects (responder : Responder) (ids : UInt8 × UInt8) (info : Bytes) :
    ReturnCode → Prop
  | unknown (hunknown : ∀ command ∈ responder.endpoint.registry.commands, command.ids ≠ ids) :
      Rejects responder ids info .invalidId
  | badParams {command : Command} {e : CodecError}
      (hmem : command ∈ responder.endpoint.registry.commands) (hids : command.ids = ids)
      (hparams : Payload.decode command.params info = .error e) :
      Rejects responder ids info .invalidData
  | misfit {command : Command} {json : Json} {e : CodecError}
      (hmem : command ∈ responder.endpoint.registry.commands) (hids : command.ids = ids)
      (hcanned : responder.canned.get? command.key = some json)
      (hvalues : command.valuesOfJson json = .error e) :
      Rejects responder ids info .invalidData

variable {responder : Responder} {request : Packet} {code : ReturnCode}

/-- A rejected request is answered under its first identifier, with nothing but the return
code. -/
theorem takes_of_rejects (hsound : request.IsSound)
    (hrejects : responder.Rejects (request.id1, request.id2) request.info code) :
    responder.Takes request
      (Frame.toBytes ⟨responder.endpoint.address, request.id1, code.toByte, []⟩) := by
  have hframe := Packet.isSound_iff.mp hsound
  have hbadParams {command : Command} {e : CodecError}
      (hmem : command ∈ responder.endpoint.registry.commands)
      (hids : command.ids = (request.id1, request.id2))
      (hparams : Payload.decode command.params request.info = .error e) :
      responder.Takes request
        (Frame.toBytes ⟨responder.endpoint.address, request.id1, 0x06, []⟩) := by
    have hfound := Registry.byIds?_eq_some_iff.mpr ⟨hmem, hids⟩
    exact takes_of_refused
      (fun _ => Endpoint.runs_resolve_misfit hframe hfound hparams) (by simp) rfl
  cases hrejects with
  | unknown hunknown =>
      have hnone := Registry.byIds?_eq_none_iff.mpr hunknown
      exact takes_of_refused
        (fun _ => Endpoint.runs_resolve_unknown hframe hnone) (by simp) rfl
  | badParams hmem hids hparams => exact hbadParams hmem hids hparams
  | @misfit command json e hmem hids hcanned hvalues =>
      -- Canned values are looked at only if the params could be decoded.
      cases hparams : Payload.decode command.params request.info with
      | error e => exact hbadParams hmem hids hparams
      | ok params =>
          have hmisfit : responder.values command = .error e := by
            simp only [values, hcanned, hvalues]
          have hreply := reply_of_misfit hmisfit
          have hid1 : command.id1 = request.id1 := (Prod.mk.inj hids).1
          rw [hid1] at hreply
          exact takes_of_understood ⟨hsound, hmem, hids⟩ hparams hreply

/-- The answer to a rejected request is no reply to any command. -/
theorem Rejects.verdict_eq {ids : UInt8 × UInt8} {info : Bytes}
    (hrejects : responder.Rejects ids info code) (command : Command) (address id1 : UInt8) :
    command.verdict ⟨address, id1, code.toByte, []⟩ = .error (.rejected code) := by
  cases hrejects with
  | unknown => rfl
  | badParams => rfl
  | misfit => rfl

end Responder

namespace Endpoint

variable {line : Coupling} {command : Command} {data : Record}
  {info : Bytes} {code : ReturnCode}

theorem exists_runs_send_rejected (client : Endpoint) (hline : line.IsIdle) {idle : Nat}
    (hturns : line.turns = idle + 1) (hmem : command ∈ client.registry.commands)
    (hvalues : command.values ≠ [])
    (hencode : Payload.encode .reject data command.params = .ok info)
    (hfits : info.length ≤ LengthField.maxInfo)
    (hrejects : line.responder.Rejects command.ids info code) :
    ∃ events drained, Runs (client.send command.key data) line events
      (.error (.rejected code)) { line with device := ⟨[], true, drained⟩ } := by
  have hkey : client.registry.byKey? command.key = some command :=
    Registry.byKey?_eq_some_iff.mpr ⟨hmem, rfl⟩
  have hframe : client.requestFrame command data = .ok _ :=
    requestFrame_eq_ok_iff.mpr ⟨info, hencode, hfits, rfl⟩
  rw [← Packet.toBytes_ofFrame _ hfits] at hframe
  have hsound := Packet.isSound_ofFrame
    ⟨client.address, command.id1, command.id2, info⟩ hfits
  have htakes := Responder.takes_of_rejects hsound hrejects
  have hdecode : Frame.decode (Frame.toBytes
      ⟨line.responder.endpoint.address, command.id1, code.toByte, []⟩) = .ok _ :=
    Frame.decode_toBytes (Nat.zero_le _)
  obtain ⟨events, drained, hsend⟩ :=
    exists_runs_send_handled hline hturns hkey hvalues hframe htakes.handles hdecode
  rw [hrejects.verdict_eq] at hsend
  exact ⟨events, drained, hsend⟩

/-- A request that the responder at the other end of the line rejects, for whatever commands
it knows, fails with the return code of the rejection. It brings no reply, and both
directions of the line are empty afterwards. -/
theorem send_reports_rejection (client : Endpoint) (hline : line.IsIdle)
    (hturns : 0 < line.turns) (hmem : command ∈ client.registry.commands)
    (hvalues : command.values ≠ [])
    (hencode : Payload.encode .reject data command.params = .ok info)
    (hfits : info.length ≤ 4095)
    (hrejects : line.responder.Rejects command.ids info code) :
    ∃ after, (client.send command.key data).on (Transcript.start line) =
        (.error (.rejected code), after) ∧
      after.line.client.inbound = [] ∧ after.line.device.inbound = [] ∧
      after.line.IsIdle := by
  obtain ⟨idle, hidle⟩ := Nat.exists_eq_succ_of_ne_zero hturns.ne'
  obtain ⟨events, drained, hsend⟩ := exists_runs_send_rejected client hline hidle hmem
    hvalues hencode hfits hrejects
  have hafter : Coupling.IsIdle { line with device := ⟨[], true, drained⟩ } :=
    ⟨⟨hline.client_open, rfl, rfl, hline.running⟩, hline.client_empty⟩
  exact ⟨_, hsend [], hafter.client_empty, hafter.device_empty, hafter⟩

end Endpoint

/-- Another device, which takes what the meter takes for a sum for a text of 64 bytes. -/
def Registry.display : Registry where
  commands := [{
    id1 := 0x40
    id2 := 0x81
    key := "show"
    name := "show"
    group := .serverSideRpc
    params := [⟨"text", "text", 0, .ascii 64, .scalar⟩]
    values := [] }]
  ids_nodup := by simp
  keys_nodup := by simp

namespace Endpoint

/-- A request for the sum reaches a responder that knows no commands, one that knows other
ones, and one with a total that is no number. -/
theorem send_reports_rejection_meter :
    let sent (responder : Responder) :=
      (send ⟨.meter, 1⟩ "sum" meterRequest).on
        (Transcript.start (Coupling.start responder 1))
    let misread := KeyMap.ofList [("sum", .object [("total", .string "many")])]
    (sent ⟨⟨.empty, 2⟩, Registry.meterCanned⟩).1 = .error (.rejected .invalidId) ∧
      (sent ⟨⟨.display, 2⟩, Registry.meterCanned⟩).1 = .error (.rejected .invalidData) ∧
      (sent ⟨⟨.meter, 2⟩, misread⟩).1 = .error (.rejected .invalidData) := by
  intro sent misread
  have hmem : Registry.meterCommand ∈ Registry.meter.commands := by simp [Registry.meter]
  have hvalues : Registry.meterCommand.values ≠ [] := by simp [Registry.meterCommand]
  have hencode : Payload.encode .reject meterRequest Registry.meterCommand.params =
      .ok [2, 1, 44, 0, 7] := rfl
  have hfits : ([2, 1, 44, 0, 7] : Bytes).length ≤ 4095 := by decide
  have hreports {responder : Responder} {code : ReturnCode}
      (hrejects : responder.Rejects (0x40, 0x81) [2, 1, 44, 0, 7] code) :
      (sent responder).1 = .error (.rejected code) := by
    obtain ⟨after, hsend, _⟩ := send_reports_rejection ⟨.meter, 1⟩
      (Coupling.isIdle_start responder 1) Nat.one_pos hmem hvalues hencode hfits hrejects
    exact congrArg Prod.fst hsend
  have hunknown : Responder.Rejects ⟨⟨.empty, 2⟩, Registry.meterCanned⟩ (0x40, 0x81)
      [2, 1, 44, 0, 7] .invalidId := by
    apply Responder.Rejects.unknown
    simp [Registry.empty]
  have hbadParams : Responder.Rejects ⟨⟨.display, 2⟩, Registry.meterCanned⟩ (0x40, 0x81)
      [2, 1, 44, 0, 7] .invalidData :=
    .badParams (List.mem_singleton.mpr rfl) rfl rfl
  have hmisfit : Responder.Rejects ⟨⟨.meter, 2⟩, misread⟩ (0x40, 0x81) [2, 1, 44, 0, 7]
      .invalidData :=
    .misfit hmem rfl rfl rfl
  exact ⟨hreports hunknown, hreports hbadParams, hreports hmisfit⟩

end Endpoint

end PowerLink
