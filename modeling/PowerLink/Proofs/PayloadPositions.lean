import PowerLink.Proofs.Frames
import PowerLink.Proofs.Payloads

/-!
# Payloads are read within their bounds

The decoder once more, with a cursor that moves over the payload and every byte taken
by its position.  A reading by positions has no answer as soon as one of them is not
there.  It turns out to answer always, and as the decoder does: `Follows` relates the
two, for a single item as well as for a whole list of fields, and is kept when one
reading comes after another.
-/

namespace PowerLink

/-- A reading that has no answer if it looks at a position that is not there. -/
abbrev Positional := ExceptT CodecError Option

namespace Positional

def byte (bytes : Bytes) (position : Nat) : Positional UInt8 :=
  ExceptT.lift bytes[position]?

def slice (bytes : Bytes) (first stop : Nat) : Positional Bytes :=
  ExceptT.lift (Frame.slice? bytes first stop)

end Positional

open Positional in
def Codec.decodeAt (codec : Codec) (bytes : Bytes) : Positional Value := do
  if bytes.length ≠ codec.width then
    throw (.width codec.dataType codec.width bytes.length)
  match codec with
  | .uint8 => return .uint (← byte bytes 0).toUInt32
  | .uint16 => return .uint (Bytes.toWord (← byte bytes 0) (← byte bytes 1)).toUInt32
  | .float =>
    return .float ⟨Bytes.toDoubleWord (← byte bytes 0) (← byte bytes 1) (← byte bytes 2)
      (← byte bytes 3)⟩
  | .enum table =>
    let byte ← byte bytes 0
    match table.nameOf? byte with
    | some name => return .text name
    | none => throw (.unknownEnumByte byte)
  | .ascii _ => ExceptT.mk (some (decodeAscii bytes))
  | .dateTime =>
    let year := (Bytes.toWord (← byte bytes 0) (← byte bytes 1)).toNat
    let month ← byte bytes 2
    let day ← byte bytes 3
    let hour ← byte bytes 4
    let minute ← byte bytes 5
    let second ← byte bytes 6
    ExceptT.mk (some (decodeDateTime year month.toNat day.toNat hour.toNat minute.toNat
      second.toNat))
  | .version => return .text (versionText (← byte bytes 0) (← byte bytes 1))

theorem Codec.decodeAt_eq (codec : Codec) (bytes : Bytes) :
    (codec.decodeAt bytes).run = some (codec.decode bytes) := by
  unfold decodeAt decode
  by_cases hlength : bytes.length = codec.width
  · cases codec with
    | uint8 =>
        rcases List.length_eq_one_iff.mp hlength with ⟨a, rfl⟩
        rfl
    | uint16 =>
        rcases List.length_eq_two.mp hlength with ⟨a, b, rfl⟩
        rfl
    | float =>
        match bytes, hlength with
        | [a, b, c, d], _ => rfl
    | enum table =>
        rcases List.length_eq_one_iff.mp hlength with ⟨a, rfl⟩
        have hbyte : Positional.byte [a] 0 = pure a := rfl
        cases hname : table.nameOf? a with
        | none => simp [hlength, hbyte, hname]
        | some name => simp [hlength, hbyte, hname]
    | ascii width => simp [hlength]
    | dateTime =>
        match bytes, hlength with
        | [year1, year2, month, day, hour, minute, second], _ => rfl
    | version =>
        rcases List.length_eq_two.mp hlength with ⟨major, minor, rfl⟩
        rfl
  · simp [hlength]

namespace Field

open Positional

def itemAt (field : Field) (info : Bytes) (cursor : Nat) : Positional (Value × Nat) := do
  let remaining := info.length - cursor
  if remaining < field.width then
    throw (.truncated field.key field.width remaining)
  let item ← slice info cursor (cursor + field.width)
  return (← field.codec.decodeAt item, cursor + field.width)

def itemsAt (field : Field) (info : Bytes) : Nat → Nat → Positional (List Value × Nat)
  | 0, cursor => return ([], cursor)
  | count + 1, cursor => do
    let (value, cursor) ← field.itemAt info cursor
    let (values, cursor) ← field.itemsAt info count cursor
    return (value :: values, cursor)

def valueAt (field : Field) (record : Record) (info : Bytes) (cursor : Nat) :
    Positional (FieldValue × Nat) := do
  match ← ExceptT.mk (some (field.count? record)) with
  | none =>
    let (value, cursor) ← field.itemAt info cursor
    return (.scalar value, cursor)
  | some count =>
    let (values, cursor) ← field.itemsAt info count cursor
    return (.array values, cursor)

end Field

namespace Payload

def takeAllAt (info : Bytes) (record : Record) :
    List Field → Nat → Positional (Record × Nat)
  | [], cursor => return (record, cursor)
  | field :: fields, cursor => do
    let (value, cursor) ← field.valueAt record info cursor
    takeAllAt info (record.insert field.key value) fields cursor

/-- Decodes with a cursor that moves over the payload. -/
def decodeAt (fields : List Field) (info : Bytes) : Positional Record := do
  return (← takeAllAt info .empty fields 0).1

end Payload

/-- From every cursor in the payload, the reading fails as the step does on the bytes
behind the cursor, or has its value and stops where these bytes go on. -/
def Positional.Follows {α : Type} (info : Bytes) (reading : Nat → Positional (α × Nat))
    (step : Bytes → Except CodecError (α × Bytes)) : Prop :=
  ∀ cursor ≤ info.length,
    (∃ e, step (info.drop cursor) = .error e ∧ (reading cursor).run = some (.error e)) ∨
      ∃ value next, next ≤ info.length ∧
        step (info.drop cursor) = .ok (value, info.drop next) ∧
        (reading cursor).run = some (.ok (value, next))

namespace Positional.Follows

variable {α β : Type} {info : Bytes}

theorem pure (value : α) :
    Follows info (fun cursor => pure (value, cursor)) fun bytes => .ok (value, bytes) := by
  intro cursor hcursor
  exact .inr ⟨value, cursor, hcursor, rfl, rfl⟩

theorem bind {reading : Nat → Positional (α × Nat)}
    {step : Bytes → Except CodecError (α × Bytes)}
    {later : α × Nat → Positional (β × Nat)}
    {next : α × Bytes → Except CodecError (β × Bytes)}
    (hfirst : Follows info reading step)
    (hlater : ∀ value, Follows info (fun cursor => later (value, cursor))
      fun bytes => next (value, bytes)) :
    Follows info (fun cursor => reading cursor >>= later)
      fun bytes => step bytes >>= next := by
  intro cursor hcursor
  rcases hfirst cursor hcursor with ⟨e, hstep, hreading⟩ | ⟨value, middle, hmiddle, hstep,
    hreading⟩
  · left
    refine ⟨e, ?_, ?_⟩
    · simp only [hstep]
      rfl
    · rw [ExceptT.run_bind, hreading]
      rfl
  · have hrest := hlater value middle hmiddle
    simp only [hstep, ExceptT.run_bind, hreading]
    exact hrest

end Positional.Follows

namespace Field

open Positional

theorem follows_itemAt (field : Field) (info : Bytes) :
    Follows info (field.itemAt info) field.takeItem := by
  intro cursor hcursor
  have hremaining : (info.drop cursor).length = info.length - cursor := List.length_drop
  by_cases hshort : info.length - cursor < field.width
  · left
    refine ⟨.truncated field.key field.width (info.length - cursor), ?_, ?_⟩
    · simp [takeItem, hshort]
    · simp [itemAt, hshort]
  · have hslice : Frame.slice? info cursor (cursor + field.width) =
        some ((info.drop cursor).take field.width) := by
      rw [Frame.slice?, if_pos (by omega), List.drop_take, Nat.add_sub_cancel_left]
    have hread : (field.itemAt info cursor).run =
        some ((field.codec.decode ((info.drop cursor).take field.width)).map
          fun value => (value, cursor + field.width)) := by
      simp only [itemAt, if_neg hshort, slice, hslice]
      change ((field.codec.decodeAt ((info.drop cursor).take field.width)).run.bind _) = _
      rw [Codec.decodeAt_eq]
      cases field.codec.decode ((info.drop cursor).take field.width) with
      | error e => rfl
      | ok value => rfl
    cases hdecode : field.codec.decode ((info.drop cursor).take field.width) with
    | error e =>
        left
        refine ⟨e, ?_, ?_⟩
        · simp [takeItem, hshort, hdecode]
        · rw [hread, hdecode]
          rfl
    | ok value =>
        right
        refine ⟨value, cursor + field.width, by omega, ?_, ?_⟩
        · simp [takeItem, hshort, hdecode]
        · rw [hread, hdecode]
          rfl

theorem follows_itemsAt (field : Field) (info : Bytes) (count : Nat) :
    Follows info (field.itemsAt info count) (field.takeItems count) := by
  induction count with
  | zero => exact Follows.pure []
  | succ count ih =>
      apply (field.follows_itemAt info).bind
      intro value
      exact ih.bind fun values => Follows.pure (value :: values)

theorem follows_valueAt (field : Field) (record : Record) (info : Bytes) :
    Follows info (field.valueAt record info) (field.take record) := by
  unfold valueAt take
  cases field.count? record with
  | error e =>
      intro cursor hcursor
      exact .inl ⟨e, rfl, rfl⟩
  | ok count? =>
      cases count? with
      | none =>
          exact (field.follows_itemAt info).bind fun value =>
            Follows.pure (FieldValue.scalar value)
      | some count =>
          exact (field.follows_itemsAt info count).bind fun values =>
            Follows.pure (FieldValue.array values)

end Field

namespace Payload

theorem follows_takeAllAt (info : Bytes) (record : Record) (fields : List Field) :
    Positional.Follows info (takeAllAt info record fields) (takeAll record fields) := by
  induction fields generalizing record with
  | nil => exact Positional.Follows.pure record
  | cons field fields ih =>
      apply (field.follows_valueAt record info).bind
      intro value
      exact ih (record.insert field.key value)

theorem decodeAt_eq (fields : List Field) (info : Bytes) :
    (decodeAt fields info).run = some (decode fields info) := by
  have hfollows := follows_takeAllAt info .empty fields 0 (Nat.zero_le _)
  rw [List.drop_zero] at hfollows
  rw [decode, decodeOnto_eq_takeAll, decodeAt, ExceptT.run_bind]
  rcases hfollows with ⟨e, htake, hread⟩ | ⟨record, next, _, htake, hread⟩
  · rw [htake, hread]
    rfl
  · rw [htake, hread]
    rfl

end Payload

end PowerLink
