import PowerLink.Proofs.Endpoints
import PowerLink.Proofs.StreamVerdicts

/-!
# Requests on an open wire

A device that reads from an open wire takes a request off it exactly if the bytes begin
with one, and then nothing but this request.  Otherwise the reason for the failure
tells how many bytes it has taken, so that the wire stands at a known place in any case.
`Leaves` says at which one.
-/

namespace PowerLink

open LinkT Inbound

/-! ## What is left on the wire -/

/-- On an open wire with these bytes the exchange comes to the result, and the bytes
`left` stay there. -/
def LinkT.Leaves {α : Type} (exchange : LinkT (StateM (Transcript Wire)) α)
    (bytes : Bytes) (result : Except LinkError α) (left : Bytes) : Prop :=
  ∀ drained, ∃ events drained',
    Runs exchange ⟨bytes, true, drained⟩ events result ⟨left, true, drained'⟩

namespace LinkT.Leaves

variable {α β : Type} {exchange : LinkT (StateM (Transcript Wire)) α}
  {bytes left tail : Bytes} {result : Except LinkError β} {e : LinkError}

theorem throw : Leaves (throw e : LinkT (StateM (Transcript Wire)) α) bytes (.error e)
    bytes := by
  intro drained
  exact ⟨[], drained, Runs.throw⟩

theorem bind_error {next : α → LinkT (StateM (Transcript Wire)) β}
    (hfirst : Leaves exchange bytes (.error e) left) :
    Leaves (exchange >>= next) bytes (.error e) left := by
  intro drained
  obtain ⟨events, drained', hrun⟩ := hfirst drained
  exact ⟨events, drained', Runs.bind_error hrun⟩

variable {size : Nat} {next : Chunk size → LinkT (StateM (Transcript Wire)) β}

theorem read (chunk : Chunk size) (hnext : Leaves (next chunk) tail result left) :
    Leaves (LinkT.read size >>= next) (chunk.bytes ++ tail) result left := by
  intro drained
  obtain ⟨events, drained', hrun⟩ := hnext _
  exact ⟨_, drained', Runs.bind (Runs.read (Wire.read_enough drained chunk tail)) hrun⟩

theorem read_short (hshort : bytes.length < size) :
    Leaves (LinkT.read size >>= next) bytes
      (.error (.transport (.shortRead size bytes.length))) [] := by
  intro drained
  exact ⟨_, _, Runs.bind_error (Runs.read_error (Wire.read_short drained hshort))⟩

end LinkT.Leaves

/-! ## Frames that are not received -/

namespace Inbound

/-- What is to be read behind the opening of a frame. -/
def receiveBody (opening : Opening) (size : Nat) :
    LinkT (StateM (Transcript Wire)) Bytes := do
  let info ← read size
  let check ← read 2
  let last ← read 1
  if last.byte ≠ Frame.endMarker then
    throw (.frame (.strayEnd last.byte))
  return Frame.startMarker ::
    ([opening.ver, opening.address, opening.id1, opening.id2] ++
      [opening.length1, opening.length2] ++ info.bytes ++ check.bytes ++ last.bytes)

variable {opening : Opening} {tail left : Bytes} {result : Except LinkError Bytes}

theorem leaves_receiveFrame_opening
    (hnext : Leaves (match opening.announced with
      | .ok size => receiveBody opening size
      | .error e => MonadExcept.throw (.frame e)) tail result left) :
    Leaves receiveFrame (opening.toBytes ++ tail) result left := by
  refine Leaves.read ⟨[Frame.startMarker], rfl⟩ ?_
  unfold receiveAfter
  simp only [Chunk.byte, ne_eq, not_true_eq_false, if_false]
  refine Leaves.read ⟨[opening.ver, opening.address, opening.id1, opening.id2], rfl⟩ ?_
  refine Leaves.read ⟨[opening.length1, opening.length2], rfl⟩ ?_
  unfold Opening.announced at hnext
  simp only [Chunk.pair]
  cases hlength : LengthField.decode opening.length1 opening.length2 with
  | ok size =>
      rw [hlength] at hnext
      exact hnext
  | error e =>
      rw [hlength] at hnext
      exact hnext

theorem leaves_receiveFrame_stray {byte : UInt8} (hbyte : byte ≠ Frame.startMarker) :
    Leaves receiveFrame (byte :: tail) (.error (.frame (.strayStart byte))) tail := by
  refine Leaves.read ⟨[byte], rfl⟩ ?_
  unfold receiveAfter
  simp only [Chunk.byte, hbyte, ne_eq, not_false_eq_true, if_true]
  exact Leaves.bind_error Leaves.throw

theorem leaves_receiveFrame_misannounced {e : FrameError}
    (hlength : opening.announced = .error e) :
    Leaves receiveFrame (opening.toBytes ++ tail) (.error (.frame e)) tail := by
  apply leaves_receiveFrame_opening
  rw [hlength]
  exact Leaves.throw

theorem leaves_receiveFrame_unended {info : Bytes} {check1 check2 last : UInt8}
    (hlength : opening.announced = .ok info.length) (hlast : last ≠ Frame.endMarker) :
    Leaves receiveFrame (opening.toBytes ++ (info ++ ([check1, check2, last] ++ tail)))
      (.error (.frame (.strayEnd last))) tail := by
  apply leaves_receiveFrame_opening
  rw [hlength]
  refine Leaves.read ⟨info, rfl⟩ ?_
  refine Leaves.read ⟨[check1, check2], rfl⟩ ?_
  refine Leaves.read ⟨[last], rfl⟩ ?_
  simp only [Chunk.byte, hlast, ne_eq, not_false_eq_true, if_true]
  exact Leaves.bind_error Leaves.throw

theorem leaves_receiveFrame_of_short {front : Bytes} {size : Nat} (hasks : Asks front size)
    (hshort : tail.length < size) :
    Leaves receiveFrame (front ++ tail)
      (.error (.transport (.shortRead size tail.length))) [] := by
  cases hasks with
  | start => exact Leaves.read_short hshort
  | header =>
      refine Leaves.read ⟨[Frame.startMarker], rfl⟩ ?_
      exact Leaves.read_short hshort
  | @length ver address id1 id2 =>
      refine Leaves.read ⟨[Frame.startMarker], rfl⟩ ?_
      refine Leaves.read ⟨[ver, address, id1, id2], rfl⟩ ?_
      exact Leaves.read_short hshort
  | info hlength =>
      apply leaves_receiveFrame_opening
      rw [hlength]
      exact Leaves.read_short hshort
  | @check opening info hlength =>
      rw [List.append_assoc]
      apply leaves_receiveFrame_opening
      rw [hlength]
      refine Leaves.read ⟨info, rfl⟩ ?_
      exact Leaves.read_short hshort
  | @last opening info check1 check2 hlength =>
      rw [List.append_assoc, List.append_assoc]
      apply leaves_receiveFrame_opening
      rw [hlength]
      refine Leaves.read ⟨info, rfl⟩ ?_
      refine Leaves.read ⟨[check1, check2], rfl⟩ ?_
      exact Leaves.read_short hshort

/-! ## Requests that are not understood -/

variable {endpoint : Endpoint}

theorem leaves_receive_packet {packet : Packet} {events : List Event}
    {result : Except LinkError (Command × Record)}
    (hresolve : ∀ line : Wire,
      Runs (endpoint.resolve packet.toBytes) line events result line) :
    Leaves endpoint.receive (packet.toBytes ++ tail) result
      ((packet.toBytes ++ tail).drop (10 + packet.info.length)) := by
  intro drained
  rw [List.drop_left' packet.length_toBytes]
  exact ⟨_, drained, Endpoint.runs_receive Wire.isReadOf_self (hresolve _)⟩

theorem leaves_of_failsOn {bytes : Bytes} {e : LinkError} {consumed : Nat}
    (hfails : FailsOn endpoint.registry bytes e consumed) :
    Leaves endpoint.receive bytes (.error e) (bytes.drop consumed) := by
  cases hfails with
  | strayStart hbytes hbyte =>
      rw [hbytes]
      exact Leaves.bind_error (leaves_receiveFrame_stray hbyte)
  | @lengthNibble opening rest received calculated hbytes hlength =>
      rw [hbytes, List.drop_left' opening.length_toBytes]
      exact Leaves.bind_error (leaves_receiveFrame_misannounced hlength)
  | @strayEnd opening info rest check1 check2 last hbytes hlength hlast =>
      have hdrop : bytes.drop (10 + info.length) = rest := by
        rw [hbytes, ← List.append_assoc, ← List.append_assoc]
        apply List.drop_left'
        simp [opening.length_toBytes]
        omega
      rw [hdrop, hbytes]
      exact Leaves.bind_error (leaves_receiveFrame_unended hlength hlast)
  | @badVersion packet rest hbytes hver =>
      have hdecode : Frame.decode packet.toBytes = .error (.badVersion packet.ver) := by
        rw [packet.decode_toBytes, if_pos hver]
      rw [hbytes]
      exact leaves_receive_packet fun line => Endpoint.runs_resolve_refused hdecode
  | @checksum packet rest hbytes hver hcheck =>
      have hdecode : Frame.decode packet.toBytes =
          .error (.checksum packet.checkWord (Frame.checksum packet.payload)) := by
        rw [packet.decode_toBytes, if_neg (not_not.mpr hver), if_pos hcheck]
      rw [hbytes]
      exact leaves_receive_packet fun line => Endpoint.runs_resolve_refused hdecode
  | @unknownId packet rest hbytes hsound hunknown =>
      rw [hbytes]
      exact leaves_receive_packet fun line =>
        Endpoint.runs_resolve_unknown (Packet.isSound_iff.mp hsound)
          (Registry.byIds?_eq_none_iff.mpr hunknown)
  | @invalidParams packet rest command e hbytes hsound hknown hids hmisfit =>
      rw [hbytes]
      exact leaves_receive_packet fun line =>
        Endpoint.runs_resolve_misfit (Packet.isSound_iff.mp hsound)
          (Registry.byIds?_eq_some_iff.mpr ⟨hknown, hids⟩) hmisfit
  | @shortRead front rest size hbytes hasks hshort =>
      rw [List.drop_length, hbytes]
      exact Leaves.bind_error (leaves_receiveFrame_of_short hasks hshort)

/-! ## Requests that are understood -/

theorem runs_receive_of_requests {bytes : Bytes} {command : Command} {record : Record}
    {info rest : Bytes}
    (hrequests : Requests endpoint.registry bytes command record info rest)
    (drained : Bool) :
    Runs endpoint.receive (⟨bytes, true, drained⟩ : Wire)
      (Event.reads [1, 4, 2, info.length, 2, 1]) (.ok (command, record))
      ⟨rest, true, drained⟩ := by
  obtain ⟨address, frame, hframe, rfl⟩ := hrequests.framed
  obtain ⟨hfits, rfl⟩ := Frame.encode_eq_ok_iff.mp hframe
  have hids : endpoint.registry.byIds? command.id1 command.id2 = some command :=
    Registry.byIds?_eq_some_iff.mpr ⟨hrequests.known, rfl⟩
  rw [← Packet.toBytes_ofFrame _ hfits, ← List.append_nil (Event.reads _)]
  apply Endpoint.runs_receive Wire.isReadOf_self
  rw [Packet.toBytes_ofFrame]
  exact Endpoint.runs_resolve (Frame.decode_toBytes hfits) hids hrequests.fits

/-! ## Frames that are received -/

theorem exists_packet_of_receiveAfter {σ : Type} [Transport (StateM σ)] {start : UInt8}
    {line after : σ} {bytes : Bytes}
    (hrun : (receiveAfter start : LinkT (StateM σ) Bytes).on line = (.ok bytes, after)) :
    ∃ packet : Packet, packet.toBytes = bytes := by
  unfold receiveAfter at hrun
  by_cases hstart : start = Frame.startMarker
  · simp only [hstart, ne_eq, not_true_eq_false, if_false] at hrun
    obtain ⟨⟨header, hheader⟩, _, _, hrun⟩ := on_bind_eq_ok_iff.mp hrun
    obtain ⟨⟨length, htwo⟩, _, _, hrun⟩ := on_bind_eq_ok_iff.mp hrun
    obtain ⟨ver, address, id1, id2, rfl⟩ := List.length_eq_four.mp hheader
    obtain ⟨length1, length2, rfl⟩ := List.length_eq_two.mp htwo
    simp only [Chunk.pair] at hrun
    cases hlength : LengthField.decode length1 length2 with
    | error e => simp [hlength, on_throw] at hrun
    | ok size =>
        simp only [hlength, pure_bind] at hrun
        obtain ⟨⟨info, rfl⟩, _, _, hrun⟩ := on_bind_eq_ok_iff.mp hrun
        obtain ⟨⟨check, hcheck⟩, _, _, hrun⟩ := on_bind_eq_ok_iff.mp hrun
        obtain ⟨⟨last, hone⟩, _, _, hrun⟩ := on_bind_eq_ok_iff.mp hrun
        obtain ⟨check1, check2, rfl⟩ := List.length_eq_two.mp hcheck
        obtain ⟨last, rfl⟩ := List.length_eq_one_iff.mp hone
        by_cases hlast : last = Frame.endMarker
        · have hannounced : Opening.announced ⟨ver, address, id1, id2, length1, length2⟩ =
              .ok info.length := hlength
          refine ⟨Opening.packet _ info check1 check2 hannounced, ?_⟩
          rw [Opening.toBytes_packet]
          simp only [Chunk.byte, hlast, not_true_eq_false, if_false] at hrun
          simpa [Opening.toBytes] using Except.ok.inj (Prod.mk.inj hrun).1
        · simp [Chunk.byte, hlast, on_throw] at hrun
  · simp [hstart, on_throw] at hrun

theorem decode_eq_error_of_receiveAfter {σ : Type} [Transport (StateM σ)]
    {start : UInt8} {line after : σ} {bytes : Bytes} {e : FrameError}
    (hrun : (receiveAfter start : LinkT (StateM σ) Bytes).on line = (.ok bytes, after))
    (hdecode : Frame.decode bytes = .error e) :
    (∃ ver, e = .badVersion ver) ∨
      ∃ received calculated, e = .checksum received calculated := by
  obtain ⟨packet, rfl⟩ := exists_packet_of_receiveAfter hrun
  rw [packet.decode_toBytes] at hdecode
  by_cases hver : packet.ver = Frame.version
  · by_cases hcheck : packet.checkWord = Frame.checksum packet.payload
    · simp [hver, hcheck] at hdecode
    · simp only [hver, hcheck, ne_eq, not_true_eq_false, not_false_eq_true, if_true,
        if_false] at hdecode
      exact .inr ⟨_, _, (Except.error.inj hdecode).symm⟩
  · rw [if_pos hver] at hdecode
    exact .inl ⟨_, (Except.error.inj hdecode).symm⟩

end Inbound

/-! ## Open wires from which nothing has been read -/

namespace Endpoint

/-- One request is read from an open wire with these bytes. -/
def receiveFrom (endpoint : Endpoint) (bytes : Bytes) (drained : Bool) :
    Except LinkError (Command × Record) × Transcript Wire :=
  endpoint.receive.on (.start ⟨bytes, true, drained⟩)

def tryReceiveFrom (endpoint : Endpoint) (bytes : Bytes) (drained : Bool) :
    Except LinkError (Option (Command × Record)) × Transcript Wire :=
  endpoint.tryReceive.on (.start ⟨bytes, true, drained⟩)

variable {endpoint : Endpoint} {bytes : Bytes}

theorem receiveFrom_of_requests {command : Command} {record : Record} {info rest : Bytes}
    (hrequests : Requests endpoint.registry bytes command record info rest)
    (drained : Bool) :
    endpoint.receiveFrom bytes drained =
      (.ok (command, record),
        ⟨⟨rest, true, drained⟩, Event.reads [1, 4, 2, info.length, 2, 1]⟩) :=
  runs_receive_of_requests hrequests drained []

theorem exists_receiveFrom_of_failsOn {e : LinkError} {consumed : Nat}
    (hfails : FailsOn endpoint.registry bytes e consumed) (drained : Bool) :
    ∃ after, endpoint.receiveFrom bytes drained = (.error e, after) ∧
      after.line.inbound = bytes.drop consumed := by
  obtain ⟨events, drained', hrun⟩ := leaves_of_failsOn hfails drained
  exact ⟨_, hrun [], rfl⟩

theorem receiveFrom_eq_ok_iff {command : Command} {record : Record} {drained : Bool} :
    (endpoint.receiveFrom bytes drained).1 = .ok (command, record) ↔
      ∃ info rest, Requests endpoint.registry bytes command record info rest := by
  constructor
  · intro hreceived
    rcases requests_or_failsOn endpoint.registry bytes with
      ⟨command', record', info, rest, hrequests⟩ | ⟨e, consumed, hfails⟩
    · rw [receiveFrom_of_requests hrequests] at hreceived
      obtain ⟨rfl, rfl⟩ := Prod.mk.inj (Except.ok.inj hreceived)
      exact ⟨info, rest, hrequests⟩
    · obtain ⟨after, hfailed, _⟩ := exists_receiveFrom_of_failsOn hfails drained
      rw [hfailed] at hreceived
      cases hreceived
  · rintro ⟨info, rest, hrequests⟩
    rw [receiveFrom_of_requests hrequests]

theorem receiveFrom_eq_error_iff {e : LinkError} {drained : Bool} :
    (endpoint.receiveFrom bytes drained).1 = .error e ↔
      ∃ consumed, FailsOn endpoint.registry bytes e consumed := by
  constructor
  · intro hreceived
    rcases requests_or_failsOn endpoint.registry bytes with
      ⟨command, record, info, rest, hrequests⟩ | ⟨e', consumed, hfails⟩
    · rw [receiveFrom_of_requests hrequests] at hreceived
      cases hreceived
    · obtain ⟨after, hfailed, _⟩ := exists_receiveFrom_of_failsOn hfails drained
      rw [hfailed] at hreceived
      obtain rfl := Except.error.inj hreceived
      exact ⟨consumed, hfails⟩
  · rintro ⟨consumed, hfails⟩
    obtain ⟨after, hfailed, _⟩ := exists_receiveFrom_of_failsOn hfails drained
    rw [hfailed]

theorem tryReceiveFrom_eq (endpoint : Endpoint) (bytes : Bytes) (drained : Bool) :
    endpoint.tryReceiveFrom bytes drained =
      (if bytes = [] then .ok none else (endpoint.receiveFrom bytes drained).1.map some,
        (endpoint.receiveFrom bytes drained).2) := by
  unfold tryReceiveFrom receiveFrom
  rw [on_tryReceive]
  cases bytes with
  | nil => rfl
  | cons byte tail => rfl

/-- A request is taken off the wire exactly if its bytes begin with one. Then only the
bytes behind it are left, and it was read field by field. Otherwise the failure tells
where the wire stands. A whole frame that was read can only have a wrong version or a
wrong checksum, and to await a request for a while makes no difference as long as there
is a byte to be read. -/
theorem receiveFrom_frames_exactly (endpoint : Endpoint) (bytes : Bytes) (drained : Bool) :
    (∀ command record,
      (endpoint.receiveFrom bytes drained).1 = .ok (command, record) ↔
        ∃ info rest, Requests endpoint.registry bytes command record info rest) ∧
    (∀ command record info rest,
      Requests endpoint.registry bytes command record info rest →
        (endpoint.receiveFrom bytes drained).2.line.inbound = rest ∧
        (endpoint.receiveFrom bytes drained).2.readSizes =
          [1, 4, 2, info.length, 2, 1]) ∧
    (∀ e,
      (endpoint.receiveFrom bytes drained).1 = .error e ↔
        ∃ consumed, FailsOn endpoint.registry bytes e consumed) ∧
    (∀ e consumed, FailsOn endpoint.registry bytes e consumed →
      consumed ≤ bytes.length ∧
        (endpoint.receiveFrom bytes drained).2.line.inbound = bytes.drop consumed) ∧
    (∀ (σ : Type) [Transport (StateM σ)] (start : UInt8) (line after : σ)
      (frame : Bytes) (e : FrameError),
      (receiveAfter start : LinkT (StateM σ) Bytes).on line = (.ok frame, after) →
      Frame.decode frame = .error e →
        (∃ ver, e = .badVersion ver) ∨
          ∃ received calculated, e = .checksum received calculated) ∧
    endpoint.tryReceiveFrom bytes drained =
      (if bytes = [] then .ok none else (endpoint.receiveFrom bytes drained).1.map some,
        (endpoint.receiveFrom bytes drained).2) := by
  refine ⟨?_, ?_, ?_, ?_, ?_, tryReceiveFrom_eq endpoint bytes drained⟩
  · intro command record
    exact receiveFrom_eq_ok_iff
  · intro command record info rest hrequests
    rw [receiveFrom_of_requests hrequests]
    exact ⟨rfl, Event.readSizes_reads _⟩
  · intro e
    exact receiveFrom_eq_error_iff
  · intro e consumed hfails
    obtain ⟨after, hfailed, hleft⟩ := exists_receiveFrom_of_failsOn hfails drained
    rw [hfailed]
    exact ⟨hfails.consumed_le, hleft⟩
  · intro σ _ start line after frame e hrun hdecode
    exact decode_eq_error_of_receiveAfter hrun hdecode

/-- A request to the meter with one reading. -/
def readingBytes : Bytes :=
  Frame.toBytes ⟨9, 0x40, 0x81, [1, 0, 7]⟩

def readingRecord : Record :=
  KeyMap.ofList [("n", .scalar (.uint 1)), ("readings", .array [.uint 7])]

theorem receiveFrom_frames_exactly_meter :
    Requests .meter (readingBytes ++ [0x7E]) Registry.meterCommand readingRecord [1, 0, 7]
        [0x7E] ∧
      (receiveFrom ⟨.meter, 0⟩ (readingBytes ++ [0x7E]) false).2.line.inbound = [0x7E] ∧
      (receiveFrom ⟨.meter, 0⟩ (readingBytes ++ [0x7E]) false).2.readSizes =
        [1, 4, 2, 3, 2, 1] ∧
      FailsOn .meter [0x55, 0x7E] (.frame (.strayStart 0x55)) 1 ∧
      (receiveFrom ⟨.meter, 0⟩ [0x55, 0x7E] false).2.line.inbound = [0x7E] := by
  have hrequests : Requests .meter (readingBytes ++ [0x7E]) Registry.meterCommand
      readingRecord [1, 0, 7] [0x7E] := by
    constructor
    · simp [Registry.meter]
    · exact ⟨9, readingBytes, rfl, rfl⟩
    · rfl
  have hfails : FailsOn .meter [0x55, 0x7E] (.frame (.strayStart 0x55)) 1 :=
    .strayStart rfl (by decide)
  obtain ⟨_, htaken, _⟩ :=
    receiveFrom_frames_exactly ⟨.meter, 0⟩ (readingBytes ++ [0x7E]) false
  obtain ⟨_, _, _, hleft, _⟩ := receiveFrom_frames_exactly ⟨.meter, 0⟩ [0x55, 0x7E] false
  obtain ⟨hrest, hsizes⟩ := htaken _ _ _ _ hrequests
  exact ⟨hrequests, hrest, hsizes, hfails, (hleft _ _ hfails).2⟩

end Endpoint

end PowerLink
