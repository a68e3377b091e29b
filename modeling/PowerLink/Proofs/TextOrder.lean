import Mathlib.Tactic

/-!
# Texts in the order of their bytes

Texts are compared character by character.  In UTF-8 the bytes of a greater character are
greater where the two first differ, and none of them is the beginning of another, so texts
are in the same order as their bytes.
-/

namespace PowerLink.Text

/-- The bytes of a text in UTF-8. -/
def utf8Bytes (text : String) : List UInt8 :=
  text.toUTF8.data.toList

theorem utf8Bytes_eq (text : String) :
    utf8Bytes text = text.toList.flatMap String.utf8EncodeChar := by
  have hchars : text.toUTF8 = text.toList.utf8Encode := by
    simp
  rw [utf8Bytes, hchars, List.utf8Encode, List.toList_data_toByteArray]

theorem toNat_char_lt (c : Char) : c.toNat < 0x110000 := by
  rcases c.valid with hlow | ⟨_, hhigh⟩
  · exact Nat.lt_trans hlow (by decide)
  · exact hhigh

theorem toNat_ofNat_of_lt {n : Nat} (hn : n < 256) : (UInt8.ofNat n).toNat = n := by
  rw [UInt8.toNat_ofNat', Nat.mod_eq_of_lt hn]

/-- Of two characters the greater one has the greater byte where they first differ, so what
follows them does not matter. -/
theorem utf8EncodeChar_append_lt {c d : Char} (hlt : c < d) (first second : List UInt8) :
    String.utf8EncodeChar c ++ first < String.utf8EncodeChar d ++ second := by
  have hnumber : c.toNat < d.toNat := hlt
  have hbound := toNat_char_lt d
  -- The bytes hold up to four digits in base 64.
  have hdigits {n : Nat} (hn : n < 0x110000) : n = n / 262144 % 8 * 262144 +
      n / 4096 % 64 * 4096 + n / 64 % 64 * 64 + n % 64 := by
    have hlow : n / 4096 = n / 64 / 64 := by omega
    have hhigh : n / 262144 = n / 64 / 64 / 64 := by omega
    omega
  have hfirst := hdigits (hnumber.trans hbound)
  have hsecond := hdigits hbound
  unfold String.utf8EncodeChar
  simp only [Char.toNat_val]
  split_ifs <;>
    simp (disch := omega) only [List.cons_append, List.nil_append, List.cons_lt_cons_iff,
      UInt8.lt_iff_toNat_lt, ← UInt8.toNat_inj, toNat_ofNat_of_lt] <;>
    omega

theorem utf8EncodeChar_ne_nil (c : Char) : String.utf8EncodeChar c ≠ [] := by
  rw [← List.length_pos_iff, String.length_utf8EncodeChar]
  exact c.utf8Size_pos

theorem flatMap_utf8EncodeChar_lt {chars others : List Char} (hlt : chars < others) :
    chars.flatMap String.utf8EncodeChar < others.flatMap String.utf8EncodeChar := by
  induction hlt with
  | nil =>
      rename_i d others
      rw [List.flatMap_cons, List.flatMap_nil]
      rcases List.exists_cons_of_ne_nil (utf8EncodeChar_ne_nil d) with ⟨byte, bytes, hbytes⟩
      rw [hbytes]
      exact List.nil_lt_cons _ _
  | rel hhead => exact utf8EncodeChar_append_lt hhead _ _
  | cons _ ih => exact List.append_left_lt ih

/-- Texts are in the order of their bytes. -/
theorem utf8Bytes_le_iff {text other : String} :
    utf8Bytes text ≤ utf8Bytes other ↔ text ≤ other := by
  have hmono {text other : String} (hlt : text < other) : utf8Bytes text < utf8Bytes other := by
    rw [utf8Bytes_eq, utf8Bytes_eq]
    exact flatMap_utf8EncodeChar_lt hlt
  constructor
  · intro hbytes htext
    exact hbytes (hmono htext)
  · intro htext hbytes
    by_cases hlt : text < other
    · exact List.lt_asymm hbytes (hmono hlt)
    · obtain rfl := String.le_antisymm htext (String.not_lt.mp hlt)
      exact List.lt_irrefl _ hbytes

end PowerLink.Text
