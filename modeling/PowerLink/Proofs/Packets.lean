import PowerLink.Line.Wire
import PowerLink.Proofs.Exchanges
import PowerLink.Proofs.Frames

/-!
# Packets are received whole

A packet is delimited like a frame and has a readable length field, but everything else
about it may be wrong. It is read up to its last byte and not further. What is wrong
with it is found only then, so that the next packet is not affected.
-/

namespace PowerLink

structure Packet where
  ver : UInt8
  address : UInt8
  id1 : UInt8
  id2 : UInt8
  info : Bytes
  fits : info.length ≤ LengthField.maxInfo
  check1 : UInt8
  check2 : UInt8

namespace Packet

/-- The bytes behind the first one. -/
def rest (packet : Packet) : Bytes :=
  [packet.ver, packet.address, packet.id1, packet.id2] ++
    LengthField.encode packet.info.length ++ packet.info ++
    [packet.check1, packet.check2] ++ [Frame.endMarker]

def toBytes (packet : Packet) : Bytes :=
  Frame.startMarker :: packet.rest

theorem length_toBytes (packet : Packet) :
    packet.toBytes.length = 10 + packet.info.length := by
  simp [toBytes, rest]
  omega

theorem toBytes_append (packet : Packet) (tail : Bytes) :
    packet.toBytes ++ tail = [Frame.startMarker] ++ (packet.rest ++ tail) := by
  simp [toBytes]

/-- The sizes of the reads that take a packet in. -/
def readSizes (packet : Packet) : List Nat :=
  [1, 4, 2, packet.info.length, 2, 1]

/-- The bytes that the checksum is to cover. -/
def payload (packet : Packet) : Bytes :=
  packet.address :: packet.id1 :: packet.id2 ::
    (LengthField.encode packet.info.length ++ packet.info)

def checkWord (packet : Packet) : UInt16 :=
  Bytes.toWord packet.check1 packet.check2

/-- The frame that the packet is if its version and its checksum are right. -/
def frame (packet : Packet) : Frame :=
  ⟨packet.address, packet.id1, packet.id2, packet.info⟩

theorem decode_toBytes (packet : Packet) :
    Frame.decode packet.toBytes =
      if packet.ver ≠ Frame.version then .error (.badVersion packet.ver)
      else if packet.checkWord ≠ Frame.checksum packet.payload then
        .error (.checksum packet.checkWord (Frame.checksum packet.payload))
      else .ok packet.frame := by
  obtain ⟨length1, length2, hlength⟩ :=
    List.length_eq_two.mp (LengthField.length_encode packet.info.length)
  have hread : LengthField.decode length1 length2 = .ok packet.info.length :=
    LengthField.decode_eq_ok_iff.mpr ⟨packet.fits, hlength⟩
  have hbytes : packet.toBytes =
      Frame.spread Frame.startMarker packet.ver packet.address packet.id1 packet.id2
        length1 length2 packet.info packet.check1 packet.check2 Frame.endMarker := by
    simp [toBytes, rest, Frame.spread, hlength]
  rw [hbytes, Frame.decode_spread, hread]
  simp [payload, checkWord, frame, hlength]

/-- The version and the checksum are right. -/
def IsSound (packet : Packet) : Prop :=
  packet.ver = 0x21 ∧ packet.checkWord = Frame.checksum packet.payload

theorem isSound_iff {packet : Packet} :
    packet.IsSound ↔ Frame.decode packet.toBytes = .ok packet.frame := by
  rw [packet.decode_toBytes, IsSound, Frame.version]
  by_cases hver : packet.ver = 0x21
  · by_cases hcheck : packet.checkWord = Frame.checksum packet.payload
    · simp [hver, hcheck]
    · simp [hver, hcheck]
  · simp [hver]

/-- A frame that can be written, as a packet. -/
def ofFrame (frame : Frame) (hfits : frame.info.length ≤ LengthField.maxInfo) :
    Packet where
  ver := Frame.version
  address := frame.address
  id1 := frame.id1
  id2 := frame.id2
  info := frame.info
  fits := hfits
  check1 := (Frame.checksum frame.payload >>> 8).toUInt8
  check2 := (Frame.checksum frame.payload).toUInt8

theorem toBytes_ofFrame (frame : Frame)
    (hfits : frame.info.length ≤ LengthField.maxInfo) :
    (ofFrame frame hfits).toBytes = frame.toBytes := by
  simp [ofFrame, toBytes, rest, Frame.toBytes, Frame.payload, Bytes.ofWord]

theorem isSound_ofFrame (frame : Frame)
    (hfits : frame.info.length ≤ LengthField.maxInfo) :
    (ofFrame frame hfits).IsSound := by
  rw [isSound_iff, toBytes_ofFrame]
  exact Frame.decode_toBytes hfits

end Packet

/-! ## Reading from a wire -/

theorem Wire.read_enough (drained : Bool) {size : Nat} (chunk : Chunk size)
    (tail : Bytes) :
    Wire.read size ⟨chunk.bytes ++ tail, true, drained⟩ =
      (.ok chunk, ⟨tail, true, drained || (chunk.bytes ++ tail).isEmpty⟩) := by
  obtain ⟨bytes, rfl⟩ := chunk
  simp [Wire.read, Wire.asked]

theorem Wire.read_short (drained : Bool) {size : Nat} {inbound : Bytes}
    (hshort : inbound.length < size) :
    Wire.read size ⟨inbound, true, drained⟩ =
      (.error (.shortRead size inbound.length),
        ⟨[], true, drained || inbound.isEmpty⟩) := by
  simp [Wire.read, Wire.asked, Nat.not_le.mpr hshort]

theorem Wire.read_append (drained : Bool) {size : Nat} {chunk tail : Bytes}
    (hsize : chunk.length = size) (hsome : chunk ++ tail ≠ []) :
    Wire.read size ⟨chunk ++ tail, true, drained⟩ =
      (.ok ⟨chunk, hsize⟩, ⟨tail, true, drained⟩) := by
  have hempty : (chunk ++ tail).isEmpty = false := by
    simpa using hsome
  rw [Wire.read_enough drained ⟨chunk, hsize⟩, hempty, Bool.or_false]

/-- A read in vain, while the line is empty. -/
theorem Wire.exists_read_idle (wire : Wire) (hidle : ∃ drained, wire = ⟨[], true, drained⟩) :
    ∃ after, (Transport.read 1 : StateM Wire _) wire = (.error (.shortRead 1 0), after) ∧
      ∃ drained, after = ⟨[], true, drained⟩ := by
  rcases hidle with ⟨drained, rfl⟩
  exact ⟨_, Wire.read_short drained (by simp), _, rfl⟩

theorem Wire.write_of_open (wire : Wire) (hopen : wire.isOpen = true)
    (bytes : Bytes) :
    (Transport.write bytes : StateM Wire _) wire = (.ok (), wire) := by
  change wire.write = _
  simp [Wire.write, hopen]

/-- Wherever bytes wait on the line, a read takes the first ones and leaves the others. -/
def ReadsInOrder {σ : Type} [Transport (StateM σ)] (waits : Bytes → σ → Prop) : Prop :=
  ∀ (size : Nat) (chunk tail : Bytes) (hsize : chunk.length = size) (line : σ),
    chunk ++ tail ≠ [] → waits (chunk ++ tail) line →
      ∃ after, (Transport.read size : StateM σ _) line = (.ok ⟨chunk, hsize⟩, after) ∧
        waits tail after

/-- Reads on the line are those of a wire that is part of it. -/
def Wire.IsReadOf {σ : Type} [Transport (StateM σ)] (inLine : Wire → σ) : Prop :=
  ∀ size wire, (Transport.read size : StateM σ _) (inLine wire) =
    ((wire.read size).1, inLine (wire.read size).2)

theorem Wire.isReadOf_self : Wire.IsReadOf fun wire : Wire => wire := by
  intro size wire
  rfl

theorem Wire.IsReadOf.readsInOrder {σ : Type} [Transport (StateM σ)]
    {inLine : Wire → σ} (hline : Wire.IsReadOf inLine) (drained : Bool) :
    ReadsInOrder fun bytes line => line = inLine ⟨bytes, true, drained⟩ := by
  rintro size chunk tail hsize _ hsome rfl
  refine ⟨inLine ⟨tail, true, drained⟩, ?_, rfl⟩
  rw [hline, Wire.read_append drained hsize hsome]

/-- Reads of the given sizes, none of which has failed. -/
def Event.reads (sizes : List Nat) : List Event :=
  sizes.map fun size => .called (.read size) none

theorem Event.readSizes_reads (sizes : List Nat) :
    (Event.reads sizes).filterMap Event.readSize? = sizes := by
  simp [Event.reads, Event.readSize?, Function.comp_def]

namespace LinkT.Runs

variable {σ : Type} [Transport (StateM σ)] {waits : Bytes → σ → Prop} {line : σ}

theorem read_waiting {β : Type} (hreads : ReadsInOrder waits) {size : Nat}
    {chunk tail : Bytes} (hline : waits (chunk ++ tail) line) (hsize : chunk.length = size)
    (hsome : chunk ++ tail ≠ []) {next : Chunk size → LinkT (StateM (Transcript σ)) β}
    {later : List Event} {result : Except LinkError β} {last : σ → Prop}
    (hnext : ∀ middle, waits tail middle →
      ∃ after, Runs (next ⟨chunk, hsize⟩) middle later result after ∧ last after) :
    ∃ after, Runs (LinkT.read size >>= next) line (.called (.read size) none :: later)
      result after ∧ last after := by
  obtain ⟨middle, hread, hmiddle⟩ := hreads size chunk tail hsize line hsome hline
  obtain ⟨after, hrun, hafter⟩ := hnext middle hmiddle
  exact ⟨after, bind (read hread) hrun, hafter⟩

theorem exists_receiveAfter (hreads : ReadsInOrder waits) {packet : Packet} {tail : Bytes}
    (hline : waits (packet.rest ++ tail) line) :
    ∃ after, Runs (LinkT.receiveAfter Frame.startMarker) line
      (Event.reads [4, 2, packet.info.length, 2, 1]) (.ok packet.toBytes) after ∧
      waits tail after := by
  obtain ⟨length1, length2, hlength⟩ :=
    List.length_eq_two.mp (LengthField.length_encode packet.info.length)
  have hsize : LengthField.decode length1 length2 = .ok packet.info.length :=
    LengthField.decode_eq_ok_iff.mpr ⟨packet.fits, hlength⟩
  have hbytes : Frame.startMarker ::
      ([packet.ver, packet.address, packet.id1, packet.id2] ++ [length1, length2] ++
        packet.info ++ [packet.check1, packet.check2] ++ [Frame.endMarker]) =
        packet.toBytes := by
    rw [← hlength]
    rfl
  simp only [Packet.rest, hlength, List.append_assoc] at hline
  unfold LinkT.receiveAfter Event.reads
  simp only [ne_eq, not_true_eq_false, if_false, List.map_cons, List.map_nil]
  refine read_waiting hreads hline (by rfl) (by simp) fun line hline => ?_
  refine read_waiting hreads hline (by rfl) (by simp) fun line hline => ?_
  simp only [Chunk.pair, hsize]
  refine read_waiting hreads hline (by rfl) (by simp) fun line hline => ?_
  refine read_waiting hreads hline (by rfl) (by simp) fun line hline => ?_
  refine read_waiting hreads hline (by rfl) (by simp) fun line hline => ?_
  simp only [Chunk.byte, not_true_eq_false, if_false, hbytes]
  exact ⟨line, pure, hline⟩

/-- A packet that waits on a line is read whole, and nothing behind it. -/
theorem exists_receiveFrame (hreads : ReadsInOrder waits) {packet : Packet} {tail : Bytes}
    (hline : waits (packet.toBytes ++ tail) line) :
    ∃ after, Runs LinkT.receiveFrame line (Event.reads packet.readSizes)
      (.ok packet.toBytes) after ∧ waits tail after := by
  rw [packet.toBytes_append] at hline
  refine read_waiting hreads hline (by rfl) (by simp) fun line hline => ?_
  exact exists_receiveAfter hreads hline

theorem receiveFrame {inLine : Wire → σ} (hline : Wire.IsReadOf inLine) (drained : Bool)
    (packet : Packet) (tail : Bytes) :
    Runs LinkT.receiveFrame (inLine ⟨packet.toBytes ++ tail, true, drained⟩)
      (Event.reads [1, 4, 2, packet.info.length, 2, 1]) (.ok packet.toBytes)
      (inLine ⟨tail, true, drained⟩) := by
  obtain ⟨_, hreceive, rfl⟩ := exists_receiveFrame (hline.readsInOrder drained) rfl
  exact hreceive

end LinkT.Runs

end PowerLink
