import PowerLink.Proofs.Results
import PowerLink.Schema.Registry

/-!
# Lists of fields that have passed the check

A list of fields that has passed the check has no key twice, and a field whose count
is decoded comes after a single number that gives the count. Both are kept by
`Placement.add`, one field at a time.
-/

namespace PowerLink

open Results

/-- Whether the value of the field can be the count of a later field. -/
def Field.IsCount (field : Field) : Prop :=
  field.quantity = .scalar ∧ field.dataType.isCount = true

structure Payload.WellFormed (fields : List Field) : Prop where
  keys_nodup : (fields.map Field.key).Nodup
  count_before : ∀ before field after key,
    fields = before ++ field :: after → field.quantity = .ref key →
      ∃ count ∈ before, count.key = key ∧ count.IsCount

namespace Placement

theorem hasCount_iff {placed : Placement} {key : String} :
    placed.hasCount key = true ↔
      ∃ count ∈ placed.fields, count.key = key ∧ count.IsCount := by
  simp [hasCount, Field.IsCount, and_assoc]

theorem hasCount_of_quantity {placed : Placement} {command : String}
    {entry : FieldEntry} {key : String}
    (hquantity : placed.quantity command entry = .ok (.ref key)) :
    placed.hasCount key = true := by
  unfold quantity at hquantity
  split at hquantity
  next => simp at hquantity
  next n => split at hquantity <;> simp at hquantity
  next text =>
    split at hquantity
    next => simp at hquantity
    next found _ =>
      split at hquantity
      next hcount =>
        simp only [Except.ok.injEq, Quantity.ref.injEq] at hquantity
        exact hquantity ▸ hcount
      next => simp at hquantity

/-- The field that an entry is laid out as. -/
def fieldOf (entry : FieldEntry) (codec : Codec) (quantity : Quantity)
    (start : Nat) : Field :=
  { key := entry.key
    name := if entry.name.isEmpty then entry.key else entry.name
    start, codec, quantity }

theorem add_eq_ok_iff {command : String} {placed next : Placement}
    {entry : FieldEntry} :
    placed.add command entry = .ok next ↔
      (∀ field ∈ placed.fields, field.key ≠ entry.key) ∧
        ∃ codec quantity start offset,
          entry.codec = .ok codec ∧
          placed.quantity command entry = .ok quantity ∧
          placed.start entry.start = .ok start ∧
          placed.advance (quantity.size? codec.width) = .ok offset ∧
          next = ⟨placed.fields ++ [fieldOf entry codec quantity start], offset⟩ := by
  unfold add
  by_cases hused : placed.fields.any (fun field => field.key = entry.key) = true
  · have hnot : ¬ ∀ field ∈ placed.fields, field.key ≠ entry.key := by
      simpa using hused
    simp only [hused, if_true, hnot, false_and, iff_false]
    intro hadd
    rcases bind_eq_ok_iff.mp hadd with ⟨_, hthrow, _⟩
    simp [throw, throwThe, MonadExceptOf.throw] at hthrow
  · have hfresh : ∀ field ∈ placed.fields, field.key ≠ entry.key := by
      simpa using hused
    simp only [Bool.not_eq_true] at hused
    simp only [hused, Bool.false_eq_true, if_false, bind_eq_ok_iff,
      mapError_eq_ok_iff, pure, Except.pure, Except.ok.injEq, fieldOf]
    constructor
    · rintro ⟨codec, hcodec, quantity, hquantity, start, hstart, offset, hoffset,
        rfl⟩
      exact ⟨hfresh, codec, quantity, start, offset, hcodec, hquantity, hstart,
        hoffset, rfl⟩
    · rintro ⟨_, codec, quantity, start, offset, hcodec, hquantity, hstart, hoffset,
        rfl⟩
      exact ⟨codec, hcodec, quantity, hquantity, start, hstart, offset, hoffset, rfl⟩

end Placement

namespace Payload

theorem wellFormed_nil : WellFormed [] := by
  constructor
  · simp
  · intro before field after key hsplit
    simp at hsplit

theorem WellFormed.of_append {first second : List Field}
    (hfields : WellFormed (first ++ second)) : WellFormed first := by
  constructor
  · have hnodup := hfields.keys_nodup
    rw [List.map_append] at hnodup
    exact (List.nodup_append.mp hnodup).1
  · intro before field after key hsplit href
    apply hfields.count_before before field (after ++ second) key _ href
    rw [hsplit, List.append_assoc, List.cons_append]

theorem WellFormed.key_not_mem {before fields : List Field}
    (hfields : WellFormed (before ++ fields)) {old : Field} (hold : old ∈ before) :
    old.key ∉ fields.map Field.key := by
  intro hused
  have hnodup := hfields.keys_nodup
  rw [List.map_append] at hnodup
  exact (List.nodup_append.mp hnodup).2.2 old.key (List.mem_map_of_mem hold)
    old.key hused rfl

theorem WellFormed.key_ne {before fields : List Field} {field old : Field}
    (hfields : WellFormed (before ++ field :: fields)) (hold : old ∈ before) :
    old.key ≠ field.key := by
  intro hkey
  have hunused := hfields.key_not_mem hold
  simp [hkey] at hunused

theorem WellFormed.concat {fields : List Field} (hfields : WellFormed fields)
    {field : Field} (hfresh : ∀ old ∈ fields, old.key ≠ field.key)
    (hcount : ∀ key, field.quantity = .ref key →
      ∃ count ∈ fields, count.key = key ∧ count.IsCount) :
    WellFormed (fields ++ [field]) := by
  constructor
  · exact Registry.nodup_map_concat hfields.keys_nodup hfresh
  · intro before other after key hsplit href
    have hall := (forall_split_concat_iff fun before (other : Field) =>
      ∀ key, other.quantity = .ref key →
        ∃ count ∈ before, count.key = key ∧ count.IsCount).mpr
      ⟨fun before other after hsplit key =>
        hfields.count_before before other after key hsplit, hcount⟩
    exact hall before other after hsplit key href

end Payload

theorem Placement.wellFormed_add {command : String} {placed next : Placement}
    {entry : FieldEntry} (hplaced : Payload.WellFormed placed.fields)
    (hadd : placed.add command entry = .ok next) :
    Payload.WellFormed next.fields := by
  obtain ⟨hfresh, codec, quantity, start, offset, _, hquantity, _, _, rfl⟩ :=
    add_eq_ok_iff.mp hadd
  apply hplaced.concat hfresh
  intro key href
  have href : quantity = .ref key := href
  exact hasCount_iff.mp (hasCount_of_quantity (href ▸ hquantity))

theorem wellFormed_layOutFields {command : String} {entries : List FieldEntry}
    {fields : List Field} (hfields : layOutFields command entries = .ok fields) :
    Payload.WellFormed fields := by
  rcases bind_eq_ok_iff.mp hfields with ⟨placed, hplaced, hlast⟩
  simp only [pure, Except.pure, Except.ok.injEq] at hlast
  rw [← hlast]
  exact foldlM_keeps (fun placed => Payload.WellFormed placed.fields)
    (fun _ _ _ => Placement.wellFormed_add) Payload.wellFormed_nil hplaced

end PowerLink
