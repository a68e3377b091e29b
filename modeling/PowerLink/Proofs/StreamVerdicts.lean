import PowerLink.Proofs.Packets
import PowerLink.Proofs.Registries

/-!
# What the bytes on a line amount to

A device reads what comes on the line piece by piece.  The bytes begin with a request
that it understands, or they show at a certain place that they do not, or they end where
more of them are asked for.  There is no fourth case.
-/

namespace PowerLink

/-- The bytes of a frame in front of its payload. -/
structure Opening where
  ver : UInt8
  address : UInt8
  id1 : UInt8
  id2 : UInt8
  length1 : UInt8
  length2 : UInt8

namespace Opening

def toBytes (opening : Opening) : Bytes :=
  [Frame.startMarker, opening.ver, opening.address, opening.id1, opening.id2,
    opening.length1, opening.length2]

theorem length_toBytes (opening : Opening) : opening.toBytes.length = 7 :=
  rfl

/-- The length of the payload. -/
def announced (opening : Opening) : Except FrameError Nat :=
  LengthField.decode opening.length1 opening.length2

/-- The packet that the opening is the beginning of. -/
def packet (opening : Opening) (info : Bytes) (check1 check2 : UInt8)
    (hlength : opening.announced = .ok info.length) : Packet where
  ver := opening.ver
  address := opening.address
  id1 := opening.id1
  id2 := opening.id2
  info := info
  fits := (LengthField.decode_eq_ok_iff.mp hlength).1
  check1 := check1
  check2 := check2

theorem toBytes_packet (opening : Opening) {info : Bytes} (check1 check2 : UInt8)
    (hlength : opening.announced = .ok info.length) :
    (opening.packet info check1 check2 hlength).toBytes =
      opening.toBytes ++ (info ++ [check1, check2, Frame.endMarker]) := by
  have hencode : LengthField.encode info.length = [opening.length1, opening.length2] :=
    (LengthField.decode_eq_ok_iff.mp hlength).2
  simp [packet, Packet.toBytes, Packet.rest, toBytes, hencode]

end Opening

namespace Inbound

/-- Behind these bytes so many more are asked for at once. -/
inductive Asks : Bytes → Nat → Prop
  | start : Asks [] 1
  | header : Asks [Frame.startMarker] 4
  | length {ver address id1 id2 : UInt8} :
      Asks [Frame.startMarker, ver, address, id1, id2] 2
  | info {opening : Opening} {size : Nat} (hlength : opening.announced = .ok size) :
      Asks opening.toBytes size
  | check {opening : Opening} {info : Bytes}
      (hlength : opening.announced = .ok info.length) :
      Asks (opening.toBytes ++ info) 2
  | last {opening : Opening} {info : Bytes} {check1 check2 : UInt8}
      (hlength : opening.announced = .ok info.length) :
      Asks (opening.toBytes ++ (info ++ [check1, check2])) 1

/-- The bytes begin with a frame that asks for the command with these params. -/
structure Requests (registry : Registry) (bytes : Bytes) (command : Command)
    (record : Record) (info rest : Bytes) : Prop where
  known : command ∈ registry.commands
  framed : ∃ address frame,
    Frame.encode ⟨address, command.id1, command.id2, info⟩ = .ok frame ∧
      bytes = frame ++ rest
  fits : Payload.decode command.params info = .ok record

/-- The bytes are not understood as a request, for this reason, which shows once so many
of them are read. -/
inductive FailsOn (registry : Registry) (bytes : Bytes) : LinkError → Nat → Prop
  | strayStart {byte : UInt8} {rest : Bytes} (hbytes : bytes = byte :: rest)
      (hbyte : byte ≠ Frame.startMarker) :
      FailsOn registry bytes (.frame (.strayStart byte)) 1
  | lengthNibble {opening : Opening} {rest : Bytes} {received calculated : Nat}
      (hbytes : bytes = opening.toBytes ++ rest)
      (hlength : opening.announced = .error (.lengthNibble received calculated)) :
      FailsOn registry bytes (.frame (.lengthNibble received calculated)) 7
  | strayEnd {opening : Opening} {info rest : Bytes} {check1 check2 last : UInt8}
      (hbytes : bytes = opening.toBytes ++ (info ++ ([check1, check2, last] ++ rest)))
      (hlength : opening.announced = .ok info.length)
      (hlast : last ≠ Frame.endMarker) :
      FailsOn registry bytes (.frame (.strayEnd last)) (10 + info.length)
  | badVersion {packet : Packet} {rest : Bytes} (hbytes : bytes = packet.toBytes ++ rest)
      (hver : packet.ver ≠ Frame.version) :
      FailsOn registry bytes (.frame (.badVersion packet.ver)) (10 + packet.info.length)
  | checksum {packet : Packet} {rest : Bytes} (hbytes : bytes = packet.toBytes ++ rest)
      (hver : packet.ver = Frame.version)
      (hcheck : packet.checkWord ≠ Frame.checksum packet.payload) :
      FailsOn registry bytes
        (.frame (.checksum packet.checkWord (Frame.checksum packet.payload)))
        (10 + packet.info.length)
  | unknownId {packet : Packet} {rest : Bytes} (hbytes : bytes = packet.toBytes ++ rest)
      (hsound : packet.IsSound)
      (hunknown : ∀ command ∈ registry.commands, command.ids ≠ (packet.id1, packet.id2)) :
      FailsOn registry bytes (.unknownId packet.id1 packet.id2) (10 + packet.info.length)
  | invalidParams {packet : Packet} {rest : Bytes} {command : Command} {e : CodecError}
      (hbytes : bytes = packet.toBytes ++ rest) (hsound : packet.IsSound)
      (hknown : command ∈ registry.commands)
      (hids : command.ids = (packet.id1, packet.id2))
      (hmisfit : Payload.decode command.params packet.info = .error e) :
      FailsOn registry bytes (.invalidParams packet.id1 packet.id2 e)
        (10 + packet.info.length)
  | shortRead {front rest : Bytes} {size : Nat} (hbytes : bytes = front ++ rest)
      (hasks : Asks front size) (hshort : rest.length < size) :
      FailsOn registry bytes (.transport (.shortRead size rest.length)) bytes.length

variable {registry : Registry}

theorem FailsOn.consumed_le {bytes : Bytes} {e : LinkError} {consumed : Nat}
    (hfails : FailsOn registry bytes e consumed) : consumed ≤ bytes.length := by
  cases hfails with
  | strayStart hbytes => simp [hbytes]
  | lengthNibble hbytes => simp [hbytes, Opening.toBytes]
  | strayEnd hbytes => simp [hbytes, Opening.toBytes]; omega
  | badVersion hbytes => simp [hbytes, Packet.length_toBytes]
  | checksum hbytes => simp [hbytes, Packet.length_toBytes]
  | unknownId hbytes => simp [hbytes, Packet.length_toBytes]
  | invalidParams hbytes => simp [hbytes, Packet.length_toBytes]
  | shortRead => exact le_rfl

/-! ## There is no fourth case -/

theorem exists_failsOn_of_short {front rest : Bytes} {size : Nat} (hasks : Asks front size)
    (hshort : rest.length < size) :
    ∃ e consumed, FailsOn registry (front ++ rest) e consumed :=
  ⟨_, _, .shortRead rfl hasks hshort⟩

theorem opens_or_failsOn (registry : Registry) (bytes : Bytes) :
    (∃ opening : Opening, ∃ rest, bytes = opening.toBytes ++ rest) ∨
      ∃ e consumed, FailsOn registry bytes e consumed := by
  cases bytes with
  | nil => exact .inr (exists_failsOn_of_short .start Nat.one_pos)
  | cons byte rest =>
      by_cases hbyte : byte = Frame.startMarker
      · subst hbyte
        by_cases hheader : rest.length < 4
        · exact .inr (exists_failsOn_of_short .header hheader)
        · obtain ⟨ver, address, id1, id2, rest, rfl⟩ :
              ∃ ver address id1 id2 tail, rest = ver :: address :: id1 :: id2 :: tail := by
            match rest, Nat.not_lt.mp hheader with
            | ver :: address :: id1 :: id2 :: tail, _ =>
                exact ⟨ver, address, id1, id2, tail, rfl⟩
          by_cases hlength : rest.length < 2
          · exact .inr (exists_failsOn_of_short .length hlength)
          · obtain ⟨length1, length2, rest, rfl⟩ :
                ∃ length1 length2 tail, rest = length1 :: length2 :: tail := by
              match rest, Nat.not_lt.mp hlength with
              | length1 :: length2 :: tail, _ => exact ⟨length1, length2, tail, rfl⟩
            exact .inl ⟨⟨ver, address, id1, id2, length1, length2⟩, rest, rfl⟩
      · exact .inr ⟨_, _, .strayStart rfl hbyte⟩

theorem ends_or_failsOn (registry : Registry) {opening : Opening} {size : Nat}
    (hlength : opening.announced = .ok size) (rest : Bytes) :
    (∃ info check1 check2 last tail, info.length = size ∧
        rest = info ++ ([check1, check2, last] ++ tail)) ∨
      ∃ e consumed, FailsOn registry (opening.toBytes ++ rest) e consumed := by
  by_cases hinfo : rest.length < size
  · exact .inr (exists_failsOn_of_short (.info hlength) hinfo)
  · obtain ⟨info, rest, hsize, rfl⟩ :
        ∃ info tail, info.length = size ∧ rest = info ++ tail :=
      ⟨rest.take size, rest.drop size, List.length_take_of_le (Nat.not_lt.mp hinfo),
        (List.take_append_drop size rest).symm⟩
    subst hsize
    by_cases hcheck : rest.length < 2
    · rw [← List.append_assoc]
      exact .inr (exists_failsOn_of_short (.check hlength) hcheck)
    · obtain ⟨check1, check2, rest, rfl⟩ :
          ∃ check1 check2 tail, rest = check1 :: check2 :: tail := by
        match rest, Nat.not_lt.mp hcheck with
        | check1 :: check2 :: tail, _ => exact ⟨check1, check2, tail, rfl⟩
      cases rest with
      | nil =>
          rw [← List.append_nil (opening.toBytes ++ _)]
          exact .inr (exists_failsOn_of_short (.last hlength) Nat.one_pos)
      | cons last tail => exact .inl ⟨info, check1, check2, last, tail, rfl, rfl⟩

theorem requests_of_isSound {packet : Packet} (hsound : packet.IsSound) (rest : Bytes)
    {command : Command} {record : Record} (hknown : command ∈ registry.commands)
    (hids : command.ids = (packet.id1, packet.id2))
    (hfits : Payload.decode command.params packet.info = .ok record) :
    Requests registry (packet.toBytes ++ rest) command record packet.info rest where
  known := hknown
  framed := by
    obtain ⟨hid1, hid2⟩ := Prod.mk.inj hids
    rw [hid1, hid2]
    exact ⟨packet.address, packet.toBytes,
      Frame.decode_eq_ok_iff_encode.mp (Packet.isSound_iff.mp hsound), rfl⟩
  fits := hfits

theorem packet_requests_or_failsOn (registry : Registry) (packet : Packet)
    (rest : Bytes) :
    (∃ command record, Requests registry (packet.toBytes ++ rest) command record
        packet.info rest) ∨
      ∃ e consumed, FailsOn registry (packet.toBytes ++ rest) e consumed := by
  by_cases hver : packet.ver = Frame.version
  · by_cases hcheck : packet.checkWord = Frame.checksum packet.payload
    · have hsound : packet.IsSound := ⟨hver, hcheck⟩
      cases hids : registry.byIds? packet.id1 packet.id2 with
      | none =>
          exact .inr ⟨_, _, .unknownId rfl hsound (Registry.byIds?_eq_none_iff.mp hids)⟩
      | some command =>
          obtain ⟨hknown, hids⟩ := Registry.byIds?_eq_some_iff.mp hids
          cases hparams : Payload.decode command.params packet.info with
          | ok record =>
              exact .inl ⟨command, record,
                requests_of_isSound hsound rest hknown hids hparams⟩
          | error e =>
              exact .inr ⟨_, _, .invalidParams rfl hsound hknown hids hparams⟩
    · exact .inr ⟨_, _, .checksum rfl hver hcheck⟩
  · exact .inr ⟨_, _, .badVersion rfl hver⟩

theorem requests_or_failsOn (registry : Registry) (bytes : Bytes) :
    (∃ command record info rest, Requests registry bytes command record info rest) ∨
      ∃ e consumed, FailsOn registry bytes e consumed := by
  rcases opens_or_failsOn registry bytes with ⟨opening, rest, rfl⟩ | hfails
  · cases hlength : opening.announced with
    | error e =>
        obtain ⟨received, calculated, rfl⟩ := LengthField.decode_eq_error hlength
        exact .inr ⟨_, _, .lengthNibble rfl hlength⟩
    | ok size =>
        rcases ends_or_failsOn registry hlength rest with
          ⟨info, check1, check2, last, tail, rfl, rfl⟩ | hfails
        · by_cases hlast : last = Frame.endMarker
          · have hpacket : opening.toBytes ++ (info ++ ([check1, check2, last] ++ tail)) =
                (opening.packet info check1 check2 hlength).toBytes ++ tail := by
              rw [hlast, opening.toBytes_packet]
              simp
            rw [hpacket]
            rcases packet_requests_or_failsOn registry _ tail with
              ⟨command, record, hrequests⟩ | hfails
            · exact .inl ⟨command, record, _, tail, hrequests⟩
            · exact .inr hfails
          · exact .inr ⟨_, _, .strayEnd rfl hlength hlast⟩
        · exact .inr hfails
  · exact .inr hfails

end Inbound

end PowerLink
