import PowerLink.Frame.Basic
import Mathlib.Tactic

/-!
# The length field is read as it is written

A length of at most twelve bits is read back from its field, and a field that is read
at all is the one written for the length it announces.
-/

namespace PowerLink.LengthField

theorem nibble_lt (length : Nat) : nibble length < 16 := by
  unfold nibble
  omega

@[simp] theorem length_encode (length : Nat) : (encode length).length = 2 := rfl

theorem decode_eq_ok_iff {first second : UInt8} {length : Nat} :
    decode first second = .ok length ↔
      length ≤ maxInfo ∧ encode length = [first, second] := by
  have hfirst := first.toNat_lt
  have hsecond := second.toNat_lt
  have hnibble := nibble_lt length
  unfold decode maxInfo
  simp only
  constructor
  · intro hdecode
    split at hdecode
    next hreceived =>
      simp only [Except.ok.injEq] at hdecode
      rw [hdecode] at hreceived
      have hkept : length % 4096 = length := by omega
      refine ⟨by omega, ?_⟩
      simp only [encode, hkept, List.cons.injEq, and_true, ← UInt8.toNat_inj,
        UInt8.toNat_ofNat']
      omega
    next => simp at hdecode
  · rintro ⟨hfits, hencode⟩
    have hkept : length % 4096 = length := by omega
    simp only [encode, hkept, List.cons.injEq, and_true, ← UInt8.toNat_inj,
      UInt8.toNat_ofNat'] at hencode
    have hlength : first.toNat % 16 * 256 + second.toNat = length := by omega
    have hreceived : first.toNat / 16 = nibble length := by omega
    rw [hlength, if_pos hreceived]

theorem decode_eq_error {first second : UInt8} {e : FrameError}
    (hdecode : decode first second = .error e) :
    ∃ received calculated, e = .lengthNibble received calculated := by
  unfold decode at hdecode
  simp only at hdecode
  split at hdecode
  next => simp at hdecode
  next => exact ⟨_, _, (Except.error.inj hdecode).symm⟩

end PowerLink.LengthField
