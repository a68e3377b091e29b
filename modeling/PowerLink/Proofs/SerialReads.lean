import PowerLink.Line.Serial
import PowerLink.Line.Wire
import Mathlib.Tactic

/-!
# Serial reads do not depend on the pieces

What a port delivers is cut into pieces at any places, with interruptions in between, and
it ends with the first answer that brings no bytes: an empty piece, a timeout or a
failure.  A read of some number of bytes depends on the bytes delivered before that
answer and on their number only.  If there are enough of them it returns the first ones
and leaves the others at the port; if not, the answer that ended them says how the read
fails.  This is also what reading from a line in memory does, where all bytes lie in one
piece.
-/

namespace PowerLink

namespace Arrival

/-- The bytes that come with the answer. -/
def piece : Arrival → Bytes
  | .bytes chunk => chunk
  | _ => []

/-- Whether a read gives up at the answer. -/
def isLast : Arrival → Bool
  | .bytes chunk => chunk.isEmpty
  | .interrupted => false
  | .timedOut | .failed _ => true

/-- The bytes that are delivered before the first answer at which a read gives up. -/
def delivered (arrivals : List Arrival) : Bytes :=
  (arrivals.takeWhile fun arrival => !arrival.isLast).flatMap piece

/-- The answer at which a read gives up, and the answers behind it. -/
def afterDelivered (arrivals : List Arrival) : List Arrival :=
  arrivals.dropWhile fun arrival => !arrival.isLast

/-- How the bytes that the port delivers end: with its failure, or with silence. -/
def failure? (arrivals : List Arrival) : Option String :=
  match (afterDelivered arrivals).head? with
  | some (.failed text) => some text
  | _ => none

variable {arrival : Arrival} {arrivals : List Arrival}

theorem delivered_cons_of_last (hlast : arrival.isLast = true) :
    delivered (arrival :: arrivals) = [] := by
  simp [delivered, hlast]

theorem delivered_cons (hlast : arrival.isLast = false) :
    delivered (arrival :: arrivals) = arrival.piece ++ delivered arrivals := by
  simp [delivered, hlast]

theorem afterDelivered_cons_of_last (hlast : arrival.isLast = true) :
    afterDelivered (arrival :: arrivals) = arrival :: arrivals := by
  simp [afterDelivered, hlast]

theorem afterDelivered_cons (hlast : arrival.isLast = false) :
    afterDelivered (arrival :: arrivals) = afterDelivered arrivals := by
  simp [afterDelivered, hlast]

/-- What is left at the port once the first bytes have been taken. -/
structure LeavesFrom (arrivals : List Arrival) (taken : Nat) (rest : List Arrival) :
    Prop where
  delivered : delivered rest = (delivered arrivals).drop taken
  afterDelivered : afterDelivered rest = afterDelivered arrivals

/-- What has been collected when all bytes delivered are fewer than there is room for. -/
def fallShort (arrivals : List Arrival) : Except String Bytes × List Arrival :=
  (match failure? arrivals with
    | some text => .error text
    | none => .ok (delivered arrivals),
    (afterDelivered arrivals).tail)

theorem LeavesFrom.cons {taken : Nat} {rest : List Arrival}
    (hleaves : LeavesFrom arrivals taken rest) (hlast : arrival.isLast = false) :
    LeavesFrom (arrival :: arrivals) (arrival.piece.length + taken) rest := by
  constructor
  · rw [delivered_cons hlast, List.drop_append, Nat.add_sub_cancel_left,
      List.drop_eq_nil_of_le (Nat.le_add_right _ _), List.nil_append, hleaves.delivered]
  · rw [afterDelivered_cons hlast, hleaves.afterDelivered]

/-! ## One answer of the port -/

section

variable {room : Nat}

theorem collect_zero (arrivals : List Arrival) : collect 0 arrivals = (.ok [], arrivals) := by
  cases arrivals with
  | nil => rfl
  | cons arrival arrivals => rw [collect.eq_def]; rfl

theorem collect_last (hroom : 0 < room) (hlast : arrival.isLast = true) :
    collect room (arrival :: arrivals) = fallShort (arrival :: arrivals) := by
  unfold fallShort failure?
  rw [delivered_cons_of_last hlast, afterDelivered_cons_of_last hlast, collect.eq_def]
  simp only [hroom.ne', if_false]
  cases arrival with
  | interrupted => cases hlast
  | timedOut => rfl
  | failed text => rfl
  | bytes chunk =>
      cases chunk with
      | nil => rfl
      | cons byte chunk => cases hlast

/-- An answer that brings no more bytes than there is room for is used up. -/
theorem collect_fitting (hroom : 0 < room) (hlast : arrival.isLast = false)
    (hfits : arrival.piece.length ≤ room) :
    collect room (arrival :: arrivals) =
      ((collect (room - arrival.piece.length) arrivals).1.map (arrival.piece ++ ·),
        (collect (room - arrival.piece.length) arrivals).2) := by
  rw [collect.eq_def]
  simp only [hroom.ne', if_false]
  cases arrival with
  | timedOut => cases hlast
  | failed text => cases hlast
  | interrupted =>
      simp only [piece, List.length_nil, Nat.sub_zero, List.nil_append]
      cases collect room arrivals with
      | mk result rest => cases result with
        | error text => rfl
        | ok bytes => rfl
  | bytes chunk =>
      cases chunk with
      | nil => cases hlast
      | cons byte chunk => exact if_neg (Nat.not_lt.mpr hfits)

/-- Of a piece that is too large, the rest stays at the port. -/
theorem collect_larger (hroom : 0 < room) (hlarger : room < arrival.piece.length) :
    collect room (arrival :: arrivals) =
      (.ok (arrival.piece.take room), .bytes (arrival.piece.drop room) :: arrivals) := by
  rw [collect.eq_def]
  simp only [hroom.ne', if_false]
  cases arrival with
  | timedOut => cases hlarger
  | failed text => cases hlarger
  | interrupted => cases hlarger
  | bytes chunk =>
      cases chunk with
      | nil => cases hlarger
      | cons byte chunk => exact if_pos hlarger

theorem leavesFrom_larger (hlarger : room < arrival.piece.length) :
    LeavesFrom (arrival :: arrivals) room (.bytes (arrival.piece.drop room) :: arrivals) := by
  have hlast : arrival.isLast = false := by
    cases arrival with
    | bytes chunk =>
        cases chunk with
        | nil => cases hlarger
        | cons byte chunk => rfl
    | _ => cases hlarger
  have hrest : (Arrival.bytes (arrival.piece.drop room)).isLast = false := by
    simpa [isLast] using hlarger
  constructor
  · rw [delivered_cons hlast, delivered_cons hrest,
      List.drop_append_of_le_length hlarger.le]
    rfl
  · rw [afterDelivered_cons hlast, afterDelivered_cons hrest]

end

/-! ## Any number of answers -/

theorem collect_of_enough {room : Nat} (henough : room ≤ (delivered arrivals).length) :
    ∃ rest, collect room arrivals = (.ok ((delivered arrivals).take room), rest) ∧
      LeavesFrom arrivals room rest := by
  induction arrivals generalizing room with
  | nil =>
      have hroom : room = 0 := Nat.le_zero.mp henough
      subst hroom
      exact ⟨[], collect_zero [], rfl, rfl⟩
  | cons arrival arrivals ih =>
      by_cases hroom : room = 0
      · subst hroom
        exact ⟨arrival :: arrivals, collect_zero _, rfl, rfl⟩
      · have hpos : 0 < room := Nat.pos_of_ne_zero hroom
        cases hlast : arrival.isLast with
        | true =>
            rw [delivered_cons_of_last hlast] at henough
            exact absurd (Nat.le_zero.mp henough) hroom
        | false =>
            rw [delivered_cons hlast, List.length_append] at henough
            by_cases hfits : arrival.piece.length ≤ room
            · rcases ih (Nat.sub_le_iff_le_add'.mpr henough) with
                ⟨rest, hcollect, hleaves⟩
              have hcons := hleaves.cons hlast
              rw [Nat.add_sub_cancel' hfits] at hcons
              refine ⟨rest, ?_, hcons⟩
              rw [collect_fitting hpos hlast hfits, hcollect, delivered_cons hlast,
                List.take_append, List.take_of_length_le hfits]
              rfl
            · have hlarger := Nat.lt_of_not_le hfits
              refine ⟨_, ?_, leavesFrom_larger hlarger⟩
              rw [collect_larger hpos hlarger, delivered_cons hlast,
                List.take_append_of_le_length hlarger.le]

theorem fallShort_cons (hlast : arrival.isLast = false) :
    fallShort (arrival :: arrivals) =
      ((fallShort arrivals).1.map (arrival.piece ++ ·), (fallShort arrivals).2) := by
  unfold fallShort failure?
  rw [delivered_cons hlast, afterDelivered_cons hlast]
  split
  next => rfl
  next => rfl

theorem collect_of_short {room : Nat} (hshort : (delivered arrivals).length < room) :
    collect room arrivals = fallShort arrivals := by
  induction arrivals generalizing room with
  | nil => rfl
  | cons arrival arrivals ih =>
      have hpos : 0 < room := Nat.zero_lt_of_lt hshort
      cases hlast : arrival.isLast with
      | true => exact collect_last hpos hlast
      | false =>
          rw [delivered_cons hlast, List.length_append] at hshort
          have hlater : (delivered arrivals).length < room - arrival.piece.length := by
            omega
          rw [collect_fitting hpos hlast (by omega), ih hlater, fallShort_cons hlast]

/-! ## Reading -/

/-- Why a read of so many bytes fails. -/
def shortage (size : Nat) (arrivals : List Arrival) : TransportError :=
  match failure? arrivals with
  | some text => .io text
  | none => .shortRead size (delivered arrivals).length

variable {size : Nat}

theorem read_of_enough (henough : size ≤ (delivered arrivals).length) :
    ∃ rest, read size arrivals =
        (.ok ⟨(delivered arrivals).take size, List.length_take_of_le henough⟩, rest) ∧
      LeavesFrom arrivals size rest := by
  rcases collect_of_enough henough with ⟨rest, hcollect, hleaves⟩
  refine ⟨rest, ?_, hleaves⟩
  unfold read
  rw [hcollect]
  exact dif_pos (List.length_take_of_le henough)

theorem read_of_short (hshort : (delivered arrivals).length < size) :
    read size arrivals = (.error (shortage size arrivals), (afterDelivered arrivals).tail) := by
  unfold read shortage
  rw [collect_of_short hshort, fallShort]
  cases failure? arrivals with
  | some text => rfl
  | none => exact dif_neg hshort.ne

theorem failure?_cons_of_last (hlast : arrival.isLast = true) :
    failure? (arrival :: arrivals) = failure? [arrival] := by
  unfold failure?
  rw [afterDelivered_cons_of_last hlast, afterDelivered_cons_of_last hlast]
  rfl

theorem failure?_cons (hlast : arrival.isLast = false) :
    failure? (arrival :: arrivals) = failure? arrivals := by
  unfold failure?
  rw [afterDelivered_cons hlast]

/-- Interruptions are not seen. -/
theorem uninterrupted (arrivals : List Arrival) :
    delivered (arrivals.filter (· ≠ .interrupted)) = delivered arrivals ∧
      failure? (arrivals.filter (· ≠ .interrupted)) = failure? arrivals := by
  induction arrivals with
  | nil => exact ⟨rfl, rfl⟩
  | cons arrival arrivals ih =>
      by_cases hinterrupted : arrival = .interrupted
      · subst hinterrupted
        rw [List.filter_cons_of_neg (by simp), delivered_cons rfl, failure?_cons rfl]
        exact ih
      · rw [List.filter_cons_of_pos (by simpa using hinterrupted)]
        cases hlast : arrival.isLast with
        | true =>
            constructor
            · rw [delivered_cons_of_last hlast, delivered_cons_of_last hlast]
            · exact (failure?_cons_of_last hlast).trans (failure?_cons_of_last hlast).symm
        | false =>
            constructor
            · rw [delivered_cons hlast, delivered_cons hlast, ih.1]
            · rw [failure?_cons hlast, failure?_cons hlast, ih.2]

end Arrival

namespace SerialLine

/-- What the port of the line answers. Once the other end has hung up, it only fails. -/
def answers (line : SerialLine) : List Arrival :=
  if line.isCut then .failed "Broken pipe" :: line.arrivals else line.arrivals

variable {line : SerialLine} {size : Nat}

theorem answers_of_cut (hcut : line.isCut = true) :
    line.answers = .failed "Broken pipe" :: line.arrivals :=
  if_pos hcut

theorem answers_of_uncut (hcut : line.isCut = false) : line.answers = line.arrivals :=
  if_neg (by simp [hcut])

theorem read_of_uncut (hopen : line.isOpen = true) (hcut : ¬ (line.isCut ∧ 0 < size)) :
    line.read size =
      ((Arrival.read size line.arrivals).1,
        { line with arrivals := (Arrival.read size line.arrivals).2 }) := by
  unfold read
  rw [if_neg (by simp [hopen]), if_neg hcut]

theorem read_zero (hopen : line.isOpen = true) : line.read 0 = (.ok ⟨[], rfl⟩, line) := by
  have hread : Arrival.read 0 line.arrivals = (.ok ⟨[], rfl⟩, line.arrivals) := by
    unfold Arrival.read
    rw [Arrival.collect_zero]
    rfl
  rw [read_of_uncut hopen (by simp), hread]

theorem read_of_enough (hopen : line.isOpen = true)
    (henough : size ≤ (Arrival.delivered line.answers).length) :
    ∃ after, line.read size =
        (.ok ⟨(Arrival.delivered line.answers).take size, List.length_take_of_le henough⟩,
          after) ∧
      Arrival.LeavesFrom line.answers size after.answers := by
  cases hcut : line.isCut with
  | true =>
      have hzero : size = 0 := by
        rw [answers_of_cut hcut] at henough
        exact Nat.le_zero.mp henough
      subst hzero
      exact ⟨line, read_zero hopen, rfl, rfl⟩
  | false =>
      have hanswers := answers_of_uncut hcut
      simp only [hanswers] at henough ⊢
      rcases Arrival.read_of_enough henough with ⟨rest, hread, hleaves⟩
      refine ⟨{ line with arrivals := rest }, ?_, ?_⟩
      · rw [read_of_uncut hopen (by simp [hcut]), hread]
      · have hafter : ({ line with arrivals := rest } : SerialLine).answers = rest :=
          answers_of_uncut hcut
        rwa [hafter]

theorem read_of_short (hopen : line.isOpen = true)
    (hshort : (Arrival.delivered line.answers).length < size) :
    (line.read size).1 = .error (Arrival.shortage size line.answers) ∧
      (line.isCut = false →
        (line.read size).2.arrivals = (Arrival.afterDelivered line.arrivals).tail) := by
  cases hcut : line.isCut with
  | true =>
      have hbroken : ¬ ¬ line.isOpen = true := by simp [hopen]
      unfold read
      rw [if_neg hbroken, if_pos ⟨hcut, Nat.zero_lt_of_lt hshort⟩, answers_of_cut hcut]
      exact ⟨rfl, fun huncut => by cases huncut⟩
  | false =>
      rw [answers_of_uncut hcut] at hshort ⊢
      rw [read_of_uncut hopen (by simp [hcut]), Arrival.read_of_short hshort]
      exact ⟨rfl, fun _ => rfl⟩

/-- How a read of so many bytes ends is a matter of the bytes delivered and of their end
only. -/
theorem read_congr {other : SerialLine} (hopen : line.isOpen = true)
    (hother : other.isOpen = true)
    (hbytes : Arrival.delivered other.answers = Arrival.delivered line.answers)
    (hfailure : Arrival.failure? other.answers = Arrival.failure? line.answers) :
    (other.read size).1 = (line.read size).1 := by
  by_cases henough : size ≤ (Arrival.delivered line.answers).length
  · rcases read_of_enough hopen henough with ⟨after, hread, _⟩
    rw [← hbytes] at henough
    rcases read_of_enough hother henough with ⟨last, hagain, _⟩
    rw [hread, hagain]
    simp only [hbytes]
  · have hshort := Nat.lt_of_not_le henough
    have hread := (read_of_short hopen hshort).1
    rw [← hbytes] at hshort
    rw [hread, (read_of_short hother hshort).1, Arrival.shortage, Arrival.shortage, hbytes,
      hfailure]

theorem answers_filter_interrupted (line : SerialLine) :
    ({ line with
        arrivals := line.arrivals.filter (· ≠ .interrupted) } : SerialLine).answers =
      line.answers.filter (· ≠ .interrupted) := by
  unfold answers
  cases line.isCut with
  | true => rfl
  | false => rfl

/-- Reading from memory is reading what has been delivered in one piece. -/
theorem read_wire {wire : Wire} (hopen : line.isOpen = true) (hwire : wire.isOpen = true)
    (hbytes : wire.inbound = Arrival.delivered line.answers)
    (hfailure : Arrival.failure? line.answers = none) :
    (wire.read size).1 = (line.read size).1 ∧
      (size ≤ wire.inbound.length →
        (wire.read size).2.inbound = Arrival.delivered (line.read size).2.answers) := by
  have hwireOpen : ¬ ¬ wire.isOpen = true := by simp [hwire]
  unfold Wire.read
  rw [if_neg hwireOpen]
  by_cases henough : size ≤ wire.inbound.length
  · rw [dif_pos henough]
    have hdelivered : size ≤ (Arrival.delivered line.answers).length := hbytes ▸ henough
    rcases read_of_enough hopen hdelivered with ⟨after, hread, hleaves⟩
    rw [hread]
    simp only [hbytes, hleaves.delivered, implies_true, and_self]
  · rw [dif_neg henough]
    have hshort : (Arrival.delivered line.answers).length < size :=
      hbytes ▸ Nat.lt_of_not_le henough
    rw [(read_of_short hopen hshort).1, Arrival.shortage, hfailure, hbytes]
    exact ⟨rfl, fun h => absurd h (hbytes ▸ henough)⟩

/-- A read on an open line succeeds exactly if the port delivers enough bytes before it
says that there are none, times out or fails. Then it returns the first bytes and leaves
all others at the port. With fewer bytes it fails as the port has failed, or is short by
what is missing, and goes on behind that answer. Interruptions change nothing, no bytes
can be read from any port, and how the bytes are cut into pieces does not matter: lines
that deliver the same bytes with the same end are read alike, also a line in memory. -/
theorem read_by_delivery (hopen : line.isOpen = true) (size : Nat) :
    let bytes := Arrival.delivered line.answers
    ((∃ chunk, (line.read size).1 = .ok chunk) ↔ size ≤ bytes.length) ∧
      (∀ chunk, (line.read size).1 = .ok chunk → chunk.bytes = bytes.take size ∧
        Arrival.LeavesFrom line.answers size (line.read size).2.answers) ∧
      (bytes.length < size →
        (Arrival.failure? line.answers = none →
          (line.read size).1 = .error (.shortRead size bytes.length)) ∧
        (∀ text, Arrival.failure? line.answers = some text →
          (line.read size).1 = .error (.io text)) ∧
        (line.isCut = false →
          (line.read size).2.arrivals = (Arrival.afterDelivered line.arrivals).tail)) ∧
      (({ line with arrivals := line.arrivals.filter (· ≠ .interrupted) } : SerialLine).read
        size).1 = (line.read size).1 ∧
      line.read 0 = (.ok ⟨[], rfl⟩, line) ∧
      (∀ other : SerialLine, other.isOpen = true →
        Arrival.delivered other.answers = bytes →
          Arrival.failure? other.answers = Arrival.failure? line.answers →
            (other.read size).1 = (line.read size).1) ∧
      ∀ wire : Wire, wire.isOpen = true → wire.inbound = bytes →
        Arrival.failure? line.answers = none →
          (wire.read size).1 = (line.read size).1 ∧
            (size ≤ bytes.length →
              (wire.read size).2.inbound = Arrival.delivered (line.read size).2.answers) := by
  intro bytes
  refine ⟨?_, ?_, ?_, ?_, read_zero hopen, ?_, ?_⟩
  · constructor
    · intro hread
      by_contra hshort
      rcases hread with ⟨chunk, hread⟩
      rw [(read_of_short hopen (Nat.lt_of_not_le hshort)).1] at hread
      cases hread
    · intro henough
      rcases read_of_enough hopen henough with ⟨after, hread, _⟩
      exact ⟨_, congrArg Prod.fst hread⟩
  · intro chunk hchunk
    by_cases henough : size ≤ bytes.length
    · rcases read_of_enough hopen henough with ⟨after, hread, hleaves⟩
      rw [hread] at hchunk ⊢
      cases hchunk
      exact ⟨rfl, hleaves⟩
    · rw [(read_of_short hopen (Nat.lt_of_not_le henough)).1] at hchunk
      cases hchunk
  · intro hshort
    rcases read_of_short hopen hshort with ⟨hread, hrest⟩
    rw [hread, Arrival.shortage]
    refine ⟨?_, ?_, hrest⟩
    · intro hsilent
      rw [hsilent]
    · intro text hfailed
      rw [hfailed]
  · have hseen := Arrival.uninterrupted line.answers
    rw [← answers_filter_interrupted] at hseen
    exact read_congr hopen hopen hseen.1 hseen.2
  · intro other hother hbytes hfailure
    exact read_congr hopen hother hbytes hfailure
  · intro wire hwire hbytes hfailure
    rw [← hbytes]
    exact read_wire hopen hwire hbytes hfailure

/-- Four bytes in three pieces, the last of them too large, and an interruption. -/
def piecemeal : SerialLine :=
  ⟨true, true, false,
    [.bytes [0x7E], .interrupted, .bytes [0x21, 0x01], .bytes [0x40, 0x81], .timedOut]⟩

theorem read_by_delivery_piecemeal :
    piecemeal.isOpen = true ∧
      ∃ chunk, (piecemeal.read 4).1 = .ok chunk ∧ chunk.bytes = [0x7E, 0x21, 0x01, 0x40] ∧
        Arrival.delivered (piecemeal.read 4).2.answers = [0x81] := by
  have hopen : piecemeal.isOpen = true := by
    rfl
  rcases read_by_delivery hopen 4 with ⟨hreads, htaken, _⟩
  rcases hreads.mpr (by decide) with ⟨chunk, hchunk⟩
  rcases htaken chunk hchunk with ⟨hbytes, hleaves⟩
  exact ⟨hopen, chunk, hchunk, hbytes, hleaves.delivered⟩

end SerialLine

end PowerLink
