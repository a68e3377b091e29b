import PowerLink.Proofs.RequestAgreement
import PowerLink.Proofs.StreamFraming

/-!
# What a client makes of the bytes on its line

A client that awaits a reply takes the frame that the line begins with for it. It looks
at the return code and at the payload and at nothing else: neither at who has sent the
frame nor at its first identifier. A line that does not begin with a frame is none of the
three things that a reply can be.
-/

namespace PowerLink

open LinkT Inbound

/-- The frame is written at the beginning of the bytes, and `rest` stands behind it. -/
def Frame.Heads (frame : Frame) (bytes rest : Bytes) : Prop :=
  ∃ written, frame.encode = .ok written ∧ bytes = written ++ rest

/-- The failure lies with the line, or with the form of what is read from it. -/
def LinkError.IsUnframed : LinkError → Prop
  | .frame _ | .transport _ => True
  | _ => False

/-! ## What a frame says -/

@[simp]
theorem ReturnCode.isOk_ofByte_iff {byte : UInt8} :
    (ReturnCode.ofByte byte).isOk = true ↔ byte = 0 := by
  unfold ReturnCode.ofByte ReturnCode.isOk
  split_ifs <;> simp_all

namespace Command

variable {command : Command} {frame : Frame}

/-- What becomes of a request that is answered with the frame. -/
theorem outcome_cases (command : Command) (frame : Frame) :
    (frame.id2 ≠ 0 ∧
      (command.verdict frame).map Outcome.reply =
        .error (.rejected (.ofByte frame.id2))) ∨
    (∃ record, frame.id2 = 0 ∧ Payload.decode command.values frame.info = .ok record ∧
      (command.verdict frame).map Outcome.reply = .ok (.reply record)) ∨
    ∃ e, frame.id2 = 0 ∧ Payload.decode command.values frame.info = .error e ∧
      (command.verdict frame).map Outcome.reply = .error (.invalidData e) := by
  by_cases hcode : frame.id2 = 0
  · right
    cases hdecode : Payload.decode command.values frame.info with
    | ok record =>
        left
        exact ⟨record, hcode, rfl, by simp [verdict, hcode, hdecode, Except.map,
          Except.mapError]⟩
    | error e =>
        right
        exact ⟨e, hcode, rfl, by simp [verdict, hcode, hdecode, Except.map,
          Except.mapError]⟩
  · left
    exact ⟨hcode, by simp [verdict, hcode, Except.map]⟩

theorem outcome_eq_reply_iff {record : Record} :
    (command.verdict frame).map .reply = .ok (Outcome.reply record) ↔
      frame.id2 = 0 ∧ Payload.decode command.values frame.info = .ok record := by
  rcases command.outcome_cases frame with ⟨hcode, h⟩ | ⟨_, hcode, hdecode, h⟩ |
    ⟨_, hcode, hdecode, h⟩
  · simp [h, hcode]
  · simp [h, hcode, hdecode]
  · simp [h, hcode, hdecode]

theorem outcome_eq_rejected_iff {code : ReturnCode} :
    (command.verdict frame).map Outcome.reply = .error (.rejected code) ↔
      frame.id2 ≠ 0 ∧ code = .ofByte frame.id2 := by
  rcases command.outcome_cases frame with ⟨hcode, h⟩ | ⟨_, hcode, _, h⟩ | ⟨_, hcode, _, h⟩
  · simp [h, hcode, eq_comm]
  · simp [h, hcode]
  · simp [h, hcode]

theorem outcome_eq_invalidData_iff {e : CodecError} :
    (command.verdict frame).map Outcome.reply = .error (.invalidData e) ↔
      frame.id2 = 0 ∧ Payload.decode command.values frame.info = .error e := by
  rcases command.outcome_cases frame with ⟨hcode, h⟩ | ⟨_, hcode, hdecode, h⟩ |
    ⟨_, hcode, hdecode, h⟩
  · simp [h, hcode]
  · simp [h, hcode, hdecode]
  · simp [h, hcode, hdecode]

end Command

/-! ## Lines that begin with a frame, and others -/

namespace Inbound

theorem packet_or_leaves_receiveFrame (bytes : Bytes) :
    (∃ packet : Packet, ∃ rest, bytes = packet.toBytes ++ rest) ∨
      ∃ e left, LinkError.IsUnframed e ∧ Leaves receiveFrame bytes (.error e) left := by
  -- Without commands there are no requests, so some failure shows in any case.
  rcases requests_or_failsOn .empty bytes with hrequests | ⟨e, consumed, hfails⟩
  · rcases hrequests with ⟨command, record, info, rest, hrequests⟩
    exact absurd hrequests.known List.not_mem_nil
  · cases hfails with
    | strayStart hbytes hbyte =>
        rw [hbytes]
        exact .inr ⟨.frame _, _, trivial, leaves_receiveFrame_stray hbyte⟩
    | lengthNibble hbytes hlength =>
        rw [hbytes]
        exact .inr ⟨.frame _, _, trivial, leaves_receiveFrame_misannounced hlength⟩
    | strayEnd hbytes hlength hlast =>
        rw [hbytes]
        exact .inr ⟨.frame _, _, trivial, leaves_receiveFrame_unended hlength hlast⟩
    | badVersion hbytes => exact .inl ⟨_, _, hbytes⟩
    | checksum hbytes => exact .inl ⟨_, _, hbytes⟩
    | unknownId hbytes => exact .inl ⟨_, _, hbytes⟩
    | invalidParams hbytes => exact .inl ⟨_, _, hbytes⟩
    | shortRead hbytes hasks hshort =>
        rw [hbytes]
        exact .inr ⟨.transport _, _, trivial, leaves_receiveFrame_of_short hasks hshort⟩

theorem heads_or_leaves_awaitReply (command : Command) (bytes : Bytes) :
    (∃ frame rest, Frame.Heads frame bytes rest) ∨
      ∃ e left, LinkError.IsUnframed e ∧
        Leaves (Endpoint.awaitReply command) bytes (.error e) left := by
  rcases packet_or_leaves_receiveFrame bytes with ⟨packet, rest, rfl⟩ | hunread
  · cases hdecode : Frame.decode packet.toBytes with
    | ok frame =>
        exact .inl ⟨frame, rest, packet.toBytes,
          Frame.decode_eq_ok_iff_encode.mp hdecode, rfl⟩
    | error cause =>
        have hleaves : Leaves (Endpoint.awaitReply command) (packet.toBytes ++ rest)
            (.error (.frame cause)) rest := by
          intro drained
          have hread := Runs.receiveFrame Wire.isReadOf_self drained packet rest
          exact ⟨_, drained, Runs.bind hread (Runs.bind_error (Runs.openFrame_error hdecode))⟩
        exact .inr ⟨.frame cause, rest, trivial, hleaves⟩
  · rcases hunread with ⟨e, left, hunframed, hleaves⟩
    exact .inr ⟨e, left, hunframed, Leaves.bind_error hleaves⟩

end Inbound

/-! ## Requests on an open wire -/

namespace Endpoint

/-- A command is sent on an open wire with these bytes. -/
def sendFrom (endpoint : Endpoint) (key : String) (data : Record) (bytes : Bytes)
    (drained : Bool) : Except LinkError Outcome × Transcript Wire :=
  (endpoint.send key data).on (.start ⟨bytes, true, drained⟩)

section

variable {endpoint : Endpoint} {command : Command} {data : Record} {request : Bytes}
  (hkey : endpoint.registry.byKey? command.key = some command)
  (hframe : endpoint.requestFrame command data = .ok request)
  (hvalues : command.values ≠ []) {bytes : Bytes}

include hkey hframe

/-- The request itself leaves the bytes on the wire alone. -/
theorem exists_sendFrom_of_concludes {drained : Bool} {events : List Event}
    {result : Except LinkError Outcome} {after : Wire}
    (hconclude : Runs (concludeSend command) (⟨bytes, true, drained⟩ : Wire) events result
      after) :
    ∃ events, endpoint.sendFrom command.key data bytes drained = (result, ⟨after, events⟩) := by
  have hwrite := Wire.write_of_open ⟨bytes, true, drained⟩ rfl request
  have hrun : Runs (endpoint.send command.key data) (⟨bytes, true, drained⟩ : Wire)
      ([.called (.write request) none, .called .flush none] ++ events) result after := by
    rw [send_eq_of_built hkey hframe]
    exact Runs.bind (Runs.sendFrame hwrite rfl) hconclude
  exact ⟨_, hrun []⟩

include hvalues

theorem exists_sendFrom_of_heads {frame : Frame} {rest : Bytes}
    (hheads : frame.Heads bytes rest) (drained : Bool) :
    ∃ events, endpoint.sendFrom command.key data bytes drained =
      ((command.verdict frame).map .reply, ⟨⟨rest, true, drained⟩, events⟩) := by
  rcases hheads with ⟨written, hwritten, rfl⟩
  have hdecode := Frame.decode_eq_ok_iff_encode.mpr hwritten
  obtain ⟨events, hconclude⟩ :=
    runs_concludeSend Wire.isReadOf_self hvalues drained rest hdecode
  exact exists_sendFrom_of_concludes hkey hframe hconclude

theorem heads_or_sendFrom_unframed (bytes : Bytes) (drained : Bool) :
    (∃ frame rest, Frame.Heads frame bytes rest) ∨
      ∃ e, LinkError.IsUnframed e ∧
        (endpoint.sendFrom command.key data bytes drained).1 = .error e := by
  rcases heads_or_leaves_awaitReply command bytes with hheads | ⟨e, left, hunframed, hleaves⟩
  · exact .inl hheads
  · obtain ⟨events, drained', hawait⟩ := hleaves drained
    have hawaited : command.isUnidirectional = false := by
      simpa [Command.isUnidirectional] using hvalues
    have hconclude : Runs (concludeSend command) (⟨bytes, true, drained⟩ : Wire) events
        (.error e) ⟨left, true, drained'⟩ := by
      unfold concludeSend
      simp only [hawaited]
      exact Runs.bind_error hawait
    obtain ⟨sent, hsend⟩ := exists_sendFrom_of_concludes hkey hframe hconclude
    exact .inr ⟨e, hunframed, congrArg Prod.fst hsend⟩

/-- An outcome that a frame can have is the outcome exactly of the lines that begin with
such a frame. -/
theorem sendFrom_eq_iff {outcome : Except LinkError Outcome}
    (hframed : ∀ e, outcome = .error e → ¬ e.IsUnframed) (drained : Bool) :
    (endpoint.sendFrom command.key data bytes drained).1 = outcome ↔
      ∃ frame rest, Frame.Heads frame bytes rest ∧
        (command.verdict frame).map .reply = outcome := by
  constructor
  · intro hsend
    rcases heads_or_sendFrom_unframed hkey hframe hvalues bytes drained with
      ⟨frame, rest, hheads⟩ | ⟨e, hunframed, hfailed⟩
    · obtain ⟨events, hjudged⟩ := exists_sendFrom_of_heads hkey hframe hvalues hheads drained
      rw [hjudged] at hsend
      exact ⟨frame, rest, hheads, hsend⟩
    · exact absurd hunframed (hframed e (hsend.symm.trans hfailed))
  · rintro ⟨frame, rest, hheads, hjudged⟩
    obtain ⟨events, hsend⟩ := exists_sendFrom_of_heads hkey hframe hvalues hheads drained
    rw [hsend]
    exact hjudged

end

/-- For a command with value fields whose data can be encoded, the three outcomes that a
reply can have are each told by a frame that the line begins with, and by its return code
and payload alone. Then exactly this frame is taken off the line. -/
theorem send_judges_reply (endpoint : Endpoint) {command : Command}
    (hmem : command ∈ endpoint.registry.commands) (hvalues : command.values ≠ [])
    {data : Record} {request : Bytes}
    (hencode : Payload.encode .reject data command.params = .ok request)
    (hfits : request.length ≤ 4095) (bytes : Bytes) (drained : Bool) :
    (∀ record, (endpoint.sendFrom command.key data bytes drained).1 = .ok (.reply record) ↔
      ∃ address id1 info rest, Frame.Heads ⟨address, id1, 0, info⟩ bytes rest ∧
        Payload.decode command.values info = .ok record) ∧
    (∀ code, (endpoint.sendFrom command.key data bytes drained).1 =
        .error (.rejected code) ↔
      ∃ address id1 id2 info rest, Frame.Heads ⟨address, id1, id2, info⟩ bytes rest ∧
        id2 ≠ 0 ∧ code = .ofByte id2) ∧
    (∀ e, (endpoint.sendFrom command.key data bytes drained).1 = .error (.invalidData e) ↔
      ∃ address id1 info rest, Frame.Heads ⟨address, id1, 0, info⟩ bytes rest ∧
        Payload.decode command.values info = .error e) ∧
    ∀ frame rest, Frame.Heads frame bytes rest →
      (endpoint.sendFrom command.key data bytes drained).2.line.inbound = rest ∧
      ∀ address id1 others rest' drained',
        Frame.Heads ⟨address, id1, frame.id2, frame.info⟩ others rest' →
          (endpoint.sendFrom command.key data others drained').1 =
            (endpoint.sendFrom command.key data bytes drained).1 := by
  have hkey : endpoint.registry.byKey? command.key = some command :=
    Registry.byKey?_eq_some_iff.mpr ⟨hmem, rfl⟩
  have hframe : endpoint.requestFrame command data = .ok _ :=
    requestFrame_eq_ok_iff.mpr ⟨request, hencode, hfits, rfl⟩
  refine ⟨fun record => ?reply, fun code => ?rejected, fun e => ?invalid,
    fun frame rest hheads => ⟨?left, ?same⟩⟩
  case reply =>
    rw [sendFrom_eq_iff hkey hframe hvalues (by simp)]
    constructor
    · rintro ⟨⟨address, id1, id2, info⟩, rest, hheads, hverdict⟩
      obtain ⟨rfl, hdecode⟩ := Command.outcome_eq_reply_iff.mp hverdict
      exact ⟨address, id1, info, rest, hheads, hdecode⟩
    · rintro ⟨address, id1, info, rest, hheads, hdecode⟩
      exact ⟨_, rest, hheads, Command.outcome_eq_reply_iff.mpr ⟨rfl, hdecode⟩⟩
  case rejected =>
    rw [sendFrom_eq_iff hkey hframe hvalues (by simp [LinkError.IsUnframed])]
    constructor
    · rintro ⟨⟨address, id1, id2, info⟩, rest, hheads, hverdict⟩
      have hcode := Command.outcome_eq_rejected_iff.mp hverdict
      exact ⟨address, id1, id2, info, rest, hheads, hcode⟩
    · rintro ⟨address, id1, id2, info, rest, hheads, hcode⟩
      exact ⟨_, rest, hheads, Command.outcome_eq_rejected_iff.mpr hcode⟩
  case invalid =>
    rw [sendFrom_eq_iff hkey hframe hvalues (by simp [LinkError.IsUnframed])]
    constructor
    · rintro ⟨⟨address, id1, id2, info⟩, rest, hheads, hverdict⟩
      obtain ⟨rfl, hdecode⟩ := Command.outcome_eq_invalidData_iff.mp hverdict
      exact ⟨address, id1, info, rest, hheads, hdecode⟩
    · rintro ⟨address, id1, info, rest, hheads, hdecode⟩
      exact ⟨_, rest, hheads, Command.outcome_eq_invalidData_iff.mpr ⟨rfl, hdecode⟩⟩
  case left =>
    obtain ⟨events, hsend⟩ := exists_sendFrom_of_heads hkey hframe hvalues hheads drained
    rw [hsend]
  case same =>
    intro address id1 others rest' drained' hothers
    obtain ⟨_, hsend⟩ := exists_sendFrom_of_heads hkey hframe hvalues hheads drained
    obtain ⟨_, hother⟩ := exists_sendFrom_of_heads hkey hframe hvalues hothers drained'
    rw [hsend, hother]
    rfl

/-- The sum comes from a device with another address, under another first identifier. -/
theorem send_judges_reply_meter :
    let sent := sendFrom ⟨Registry.meter, 1⟩ "sum" meterRequest
    let foreign := Frame.toBytes ⟨7, 0x33, 0, [1, 44]⟩ ++ [9]
    let refusal := Frame.toBytes ⟨2, 0x40, 4, [1, 44]⟩
    (sent foreign false).1 =
        .ok (.reply (KeyMap.ofList [("total", .scalar (.uint 300))])) ∧
      (sent foreign false).2.line.inbound = [9] ∧
      (sent (Frame.toBytes ⟨2, 0x40, 0, [1, 44]⟩) true).1 = (sent foreign false).1 ∧
      (sent refusal false).1 = .error (.rejected .invalidId) := by
  intro sent foreign refusal
  have hmem : Registry.meterCommand ∈ Registry.meter.commands := by
    simp [Registry.meter]
  have hvalues : Registry.meterCommand.values ≠ [] := by
    simp [Registry.meterCommand]
  have hencode : Payload.encode .reject meterRequest Registry.meterCommand.params =
      .ok [2, 1, 44, 0, 7] := by
    rfl
  have hfits : [2, 1, 44, 0, 7].length ≤ 4095 := by
    decide
  have hforeign : Frame.Heads ⟨7, 0x33, 0, [1, 44]⟩ foreign [9] := ⟨_, rfl, rfl⟩
  have hown : Frame.Heads ⟨2, 0x40, 0, [1, 44]⟩
      (Frame.toBytes ⟨2, 0x40, 0, [1, 44]⟩) [] := ⟨_, rfl, rfl⟩
  have hrefusal : Frame.Heads ⟨2, 0x40, 4, [1, 44]⟩ refusal [] := ⟨_, rfl, rfl⟩
  obtain ⟨hreply, _, _, htaken⟩ := send_judges_reply ⟨Registry.meter, 1⟩
    hmem hvalues hencode hfits foreign false
  obtain ⟨_, hrejected, _⟩ := send_judges_reply ⟨Registry.meter, 1⟩
    hmem hvalues hencode hfits refusal false
  obtain ⟨hleft, hsame⟩ := htaken _ _ hforeign
  refine ⟨?_, hleft, hsame _ _ _ _ true hown, ?_⟩
  · exact (hreply _).mpr ⟨_, _, _, _, hforeign, rfl⟩
  · exact (hrejected _).mpr ⟨_, _, _, _, _, hrefusal, by decide, rfl⟩

end Endpoint

end PowerLink
