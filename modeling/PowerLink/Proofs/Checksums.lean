import PowerLink.Frame.Basic
import Mathlib.Data.Int.ModEq
import Mathlib.Tactic

/-!
# Checksums tell byte sums apart

The checksum of some bytes and their sum cancel modulo 65536.  So two byte strings have
the same checksum exactly if their sums are congruent, and what their checksums differ by
is what their sums differ by.  One byte alone is too small to be lost in this.

`checksumInWords` builds the same checksum up in machine words, byte by byte.
-/

namespace PowerLink

namespace Bytes

theorem sum_eq_sum_map (bytes : Bytes) : sum bytes = (bytes.map UInt8.toNat).sum := by
  rw [List.sum_eq_foldl, List.foldl_map]
  rfl

theorem sum_of_perm {first second : Bytes} (hperm : first.Perm second) :
    sum first = sum second := by
  rw [sum_eq_sum_map, sum_eq_sum_map]
  exact (hperm.map UInt8.toNat).sum_eq

/-- A replaced byte changes the sum by what it differs from the old one. -/
theorem sum_set {bytes : Bytes} {position : Nat} (hposition : position < bytes.length)
    (byte : UInt8) :
    sum (bytes.set position byte) + bytes[position].toNat = sum bytes + byte.toNat := by
  have hsplit : ∃ before after, bytes = before ++ bytes[position] :: after ∧
      before.length = position ∧ bytes.set position byte = before ++ byte :: after :=
    List.exists_of_set hposition
  obtain ⟨before, after, hbytes, _, hset⟩ := hsplit
  have hold : sum bytes = sum before + (bytes[position].toNat + sum after) := by
    conv_lhs => rw [hbytes]
    simp [sum_eq_sum_map]
  have hnew : sum (bytes.set position byte) = sum before + (byte.toNat + sum after) := by
    rw [hset]
    simp [sum_eq_sum_map]
  omega

end Bytes

open Bytes

namespace Frame

theorem checksum_eq_iff {first second : Bytes} :
    checksum first = checksum second ↔ sum first ≡ sum second [MOD 65536] := by
  have hcancel : checksum first = checksum second ↔
      UInt16.ofNat (sum first) = UInt16.ofNat (sum second) := by
    simp [checksum]
  rw [hcancel, ← UInt16.toNat_inj, UInt16.toNat_ofNat', UInt16.toNat_ofNat']
  rfl

/-- The sum of all bytes that are checked and of the checksum is nothing. -/
theorem checksum_add_sum (bytes : Bytes) :
    (checksum bytes).toNat + sum bytes ≡ 0 [MOD 65536] := by
  have hsum : (checksum bytes).toNat = (2 ^ 16 - sum bytes % 2 ^ 16) % 2 ^ 16 := by
    simp [checksum]
  unfold Nat.ModEq
  omega

theorem checksum_sub_checksum (first second : Bytes) :
    ((checksum first).toNat : ℤ) - (checksum second).toNat ≡
      (sum second : ℤ) - sum first [ZMOD 65536] := by
  have hfirst := checksum_add_sum first
  have hsecond := checksum_add_sum second
  unfold Nat.ModEq at hfirst hsecond
  unfold Int.ModEq
  omega

theorem checksum_set_ne {bytes : Bytes} {position : Nat} (hposition : position < bytes.length)
    {byte : UInt8} (hbyte : byte ≠ bytes[position]) :
    checksum (bytes.set position byte) ≠ checksum bytes := by
  intro hsame
  have hsums := checksum_eq_iff.mp hsame
  have hset := sum_set hposition byte
  have hne : byte.toNat ≠ bytes[position].toNat := UInt8.toNat_inj.not.mpr hbyte
  have hnew := byte.toNat_lt
  have hold := bytes[position].toNat_lt
  unfold Nat.ModEq at hsums
  omega

/-! ## In machine words -/

/-- The sum of the bytes in a 32-bit word, its low half complemented, and one more. -/
def checksumInWords (bytes : Bytes) : UInt16 :=
  let total := bytes.foldl (fun total byte => total + byte.toUInt32) (0 : UInt32) % 65536
  ((~~~total + 1) &&& 0xFFFF).toUInt16

theorem toNat_foldl_add (bytes : Bytes) (start : UInt32) :
    (bytes.foldl (fun total byte => total + byte.toUInt32) start).toNat =
      (start.toNat + sum bytes) % 2 ^ 32 := by
  rw [sum_eq_sum_map]
  induction bytes generalizing start with
  | nil => simp [Nat.mod_eq_of_lt start.toNat_lt]
  | cons byte rest ih =>
      rw [List.foldl_cons, ih, UInt32.toNat_add, UInt8.toNat_toUInt32, Nat.mod_add_mod,
        Nat.add_assoc]
      rfl

/-- The word may wrap around, since 65536 divides its size. -/
theorem checksumInWords_eq (bytes : Bytes) : checksumInWords bytes = checksum bytes := by
  have htotal := toNat_foldl_add bytes 0
  unfold checksumInWords
  generalize bytes.foldl (fun total byte => total + byte.toUInt32) (0 : UInt32) = total
    at htotal
  have hsum : total.toNat % 65536 = sum bytes % 65536 := by
    rw [htotal, UInt32.toNat_zero, Nat.zero_add]
    exact Nat.mod_mod_of_dvd _ (by decide)
  have hmask (word : UInt32) : (word &&& 0xFFFF).toUInt16.toNat = word.toNat % 2 ^ 16 := by
    rw [UInt32.toNat_toUInt16, UInt32.toNat_and]
    exact (congrArg (· % 2 ^ 16) (Nat.and_two_pow_sub_one_eq_mod _ 16)).trans
      (Nat.mod_mod _ _)
  have hmodulus : (65536 : UInt32).toNat = 65536 := rfl
  apply UInt16.toNat_inj.mp
  rw [hmask, ← UInt32.neg_eq_not_add, UInt32.toNat_neg, UInt32.toNat_mod, hmodulus, hsum,
    UInt32.size, checksum, UInt16.toNat_sub, UInt16.toNat_ofNat', UInt16.toNat_zero]
  omega

end Frame

end PowerLink
