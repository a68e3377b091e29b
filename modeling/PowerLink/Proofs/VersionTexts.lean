import PowerLink.Codec.Basic
import PowerLink.Proofs.NumeralGrammar
import Mathlib.Data.List.TakeWhile

/-!
# Which texts are versions

A version's text is cut at its first point, and what is left of either side without the
blanks at its ends is a decimal numeral up to 255.  The codec encodes exactly such texts,
as the two numbers, and refuses every other one with the text itself.  A second point, a
minus sign, an empty part and a blank inside a part are found in no version.
-/

namespace PowerLink

namespace Text

/-- What is left of the text without the blanks at its ends. -/
structure StripsTo (text core : List Char) : Prop where
  exists_blanks : ∃ front back, text = front ++ core ++ back ∧
    (∀ c ∈ front, isBlank c = true) ∧ ∀ c ∈ back, isBlank c = true
  head_not_blank : ∀ c ∈ core.head?, isBlank c = false
  last_not_blank : ∀ c ∈ core.getLast?, isBlank c = false

section

variable {α : Type} {passed : α → Bool} {items front rest : List α}

/-- A list is cut in front of the first item that is not passed. -/
theorem takeWhile_dropWhile_eq_iff :
    items.takeWhile passed = front ∧ items.dropWhile passed = rest ↔
      items = front ++ rest ∧ (∀ item ∈ front, passed item = true) ∧
        ∀ item ∈ rest.head?, passed item = false := by
  constructor
  · rintro ⟨rfl, rfl⟩
    refine ⟨List.takeWhile_append_dropWhile.symm,
      fun item hitem => List.mem_takeWhile_imp hitem, ?_⟩
    intro item hitem
    have hhead := List.head?_dropWhile_not passed items
    rw [hitem] at hhead
    exact hhead
  · rintro ⟨rfl, hfront, hrest⟩
    rw [List.takeWhile_append_of_pos hfront, List.dropWhile_append_of_pos hfront]
    cases rest with
    | nil => simp
    | cons item rest => simp [hrest item rfl]

theorem dropWhile_eq_iff :
    items.dropWhile passed = rest ↔
      ∃ front, items = front ++ rest ∧ (∀ item ∈ front, passed item = true) ∧
        ∀ item ∈ rest.head?, passed item = false := by
  simp only [← takeWhile_dropWhile_eq_iff, exists_eq_left']

end

theorem trimEnd_eq_iff {text core : List Char} :
    trimEnd text = core ↔
      ∃ back, text = core ++ back ∧ (∀ c ∈ back, isBlank c = true) ∧
        ∀ c ∈ core.getLast?, isBlank c = false := by
  rw [trimEnd, List.reverse_eq_iff, dropWhile_eq_iff]
  constructor
  · rintro ⟨front, htext, hfront, hcore⟩
    refine ⟨front.reverse, ?_, by simpa using hfront, by simpa using hcore⟩
    rw [← List.reverse_reverse text, htext]
    simp
  · rintro ⟨back, rfl, hback, hcore⟩
    exact ⟨back.reverse, by simp, by simpa using hback, by simpa using hcore⟩

theorem trim_eq_iff {text core : List Char} : trim text = core ↔ StripsTo text core := by
  rw [trim, trimEnd_eq_iff]
  constructor
  · rintro ⟨back, hstart, hback, hlast⟩
    obtain ⟨front, rfl, hfront, hhead⟩ := dropWhile_eq_iff.mp hstart
    refine ⟨⟨front, back, (List.append_assoc ..).symm, hfront, hback⟩, ?_, hlast⟩
    intro c hc
    exact hhead c (by simp [List.head?_append, Option.mem_def.mp hc])
  · rintro ⟨⟨front, back, rfl, hfront, hback⟩, hhead, hlast⟩
    cases core with
    | nil =>
        -- Nothing is left in front of the blanks behind.
        refine ⟨[], dropWhile_eq_iff.mpr ⟨front ++ back, by simp, ?_, by simp⟩, by simp, hlast⟩
        intro c hc
        exact (List.mem_append.mp hc).elim (hfront c) (hback c)
    | cons first core =>
        exact ⟨back, dropWhile_eq_iff.mpr ⟨front, by simp, hfront, by simpa using hhead⟩,
          hback, hlast⟩

end Text

open Text

/-- The text on either side of its first point. -/
structure CutsAtPoint (text left right : String) : Prop where
  eq_append : text = left ++ "." ++ right
  not_mem_left : '.' ∉ left.toList

/-- A numeral between blanks. -/
def IsVersionPart (part : String) (n : UInt8) : Prop :=
  ∃ core, StripsTo part.toList core ∧ IsNumeral 10 core n.toNat

def IsVersion (text : String) (major minor : UInt8) : Prop :=
  ∃ left right, CutsAtPoint text left right ∧
    IsVersionPart left major ∧ IsVersionPart right minor

/-- One of the two parts, without the blanks at its ends. -/
def HasVersionPart (text : String) (core : List Char) : Prop :=
  ∃ left right, CutsAtPoint text left right ∧
    (StripsTo left.toList core ∨ StripsTo right.toList core)

/-- What is found in no version. -/
inductive SpoilsVersion (text : String) : Prop
  | secondPoint (hpoints : 2 ≤ text.toList.count '.')
  | minusSign (hminus : '-' ∈ text.toList)
  | emptyPart (hpart : HasVersionPart text [])
  | innerBlank {core : List Char} {c : Char} (hpart : HasVersionPart text core)
      (hmem : c ∈ core) (hblank : isBlank c = true)

/-! ## The two parts -/

theorem cutsAtPoint_iff {text left right : String} :
    CutsAtPoint text left right ↔
      text.toList.takeWhile (· ≠ '.') = left.toList ∧
        text.toList.dropWhile (· ≠ '.') = '.' :: right.toList := by
  rw [takeWhile_dropWhile_eq_iff]
  constructor
  · rintro ⟨rfl, hleft⟩
    refine ⟨by simp, ?_, by simp⟩
    intro c hc
    simpa using ne_of_mem_of_not_mem hc hleft
  · rintro ⟨htext, hleft, _⟩
    refine ⟨String.toList_injective (by simp [htext]), ?_⟩
    intro hmem
    simpa using hleft '.' hmem

theorem CutsAtPoint.unique {text left right left' right' : String}
    (hcut : CutsAtPoint text left right) (hcut' : CutsAtPoint text left' right') :
    left = left' ∧ right = right' := by
  rw [cutsAtPoint_iff] at hcut hcut'
  have hleft : left.toList = left'.toList := hcut.1.symm.trans hcut'.1
  have hright : '.' :: right.toList = '.' :: right'.toList := hcut.2.symm.trans hcut'.2
  exact ⟨String.toList_injective hleft, String.toList_injective (List.cons.inj hright).2⟩

namespace Codec

theorem versionPart?_eq_some_iff {part : String} {n : UInt8} :
    versionPart? part.toList = some n ↔ IsVersionPart part n := by
  unfold versionPart? IsVersionPart
  rw [map_numeralUpTo?_eq_some_iff (by decide)]
  constructor
  · intro hnumeral
    exact ⟨_, trim_eq_iff.mp rfl, hnumeral⟩
  · rintro ⟨core, hcore, hnumeral⟩
    rwa [trim_eq_iff.mpr hcore]

theorem versionParts?_eq_some_iff {text : String} {major minor : UInt8} :
    versionParts? text.toList = some (major, minor) ↔ IsVersion text major minor := by
  unfold versionParts? IsVersion
  simp only [cutsAtPoint_iff, ← versionPart?_eq_some_iff]
  constructor
  · intro hparts
    split at hparts
    next => cases hparts
    next point rest hrest =>
      have hcut := takeWhile_dropWhile_eq_iff.mp ⟨rfl, hrest⟩
      obtain rfl : point = '.' := by simpa using hcut.2.2 point rfl
      refine ⟨String.ofList _, String.ofList rest, ⟨String.toList_ofList.symm, ?_⟩, ?_⟩
      · rw [hrest, String.toList_ofList]
      · simpa [Option.bind_eq_some_iff] using hparts
  · rintro ⟨left, right, ⟨hleft, hright⟩, hmajor, hminor⟩
    rw [hright, hleft]
    simp [hmajor, hminor]

theorem encode_version_eq_ok_iff {text : String} {bytes : Bytes} :
    version.encode (.text text) = .ok bytes ↔
      ∃ major minor, bytes = [major, minor] ∧ IsVersion text major minor := by
  simp only [← versionParts?_eq_some_iff]
  change encodeVersion text = .ok bytes ↔ _
  unfold encodeVersion
  cases versionParts? text.toList with
  | none => simp
  | some parts =>
      obtain ⟨major, minor⟩ := parts
      simp [eq_comm]

theorem encode_version_eq_error_iff {text : String} {e : CodecError} :
    version.encode (.text text) = .error e ↔
      e = .invalidVersion text ∧ ∀ major minor, ¬ IsVersion text major minor := by
  simp only [← versionParts?_eq_some_iff]
  change encodeVersion text = .error e ↔ _
  unfold encodeVersion
  cases versionParts? text.toList with
  | none => simp [eq_comm]
  | some parts =>
      rcases parts with ⟨major, minor⟩
      simp

end Codec

/-! ## What is found in no version -/

section

variable {text part : String} {major minor n : UInt8}

/-- What holds of blanks, of the plus sign and of all digits holds of all characters of a
part. -/
theorem IsVersionPart.forall_mem {holds : Char → Prop} (hblanks : ∀ c, isBlank c = true → holds c)
    (hplus : holds '+')
    (hall : ∀ digit < 16, holds (Nat.digitChar digit) ∧ holds (Nat.digitChar digit).toUpper)
    (hpart : IsVersionPart part n) : ∀ c ∈ part.toList, holds c := by
  rcases hpart with ⟨core, hcore, hnumeral⟩
  rcases hcore.exists_blanks with ⟨front, back, htext, hfront, hback⟩
  intro c hc
  rw [htext, List.append_assoc, List.mem_append, List.mem_append] at hc
  rcases hc with hc | hc | hc
  · exact hblanks c (hfront c hc)
  · exact hnumeral.forall_mem (by decide) hplus hall c hc
  · exact hblanks c (hback c hc)

theorem IsVersionPart.not_mem {c : Char} (hblank : isBlank c = false) (hplus : '+' ≠ c)
    (hall : ∀ digit < 16, Nat.digitChar digit ≠ c ∧ (Nat.digitChar digit).toUpper ≠ c)
    (hpart : IsVersionPart part n) : c ∉ part.toList := by
  have hblanks : ∀ other, isBlank other = true → other ≠ c := by
    rintro other hother rfl
    rw [hblank] at hother
    cases hother
  have hne : ∀ other ∈ part.toList, other ≠ c := hpart.forall_mem hblanks hplus hall
  exact fun hc => hne c hc rfl

theorem IsVersion.count_point (hversion : IsVersion text major minor) :
    text.toList.count '.' = 1 := by
  rcases hversion with ⟨left, right, ⟨rfl, hleft⟩, _, hminor⟩
  have hright : '.' ∉ right.toList := hminor.not_mem rfl (by decide) (by decide)
  simp [List.count_eq_zero_of_not_mem hleft, List.count_eq_zero_of_not_mem hright]

theorem IsVersion.not_mem_minus (hversion : IsVersion text major minor) : '-' ∉ text.toList := by
  rcases hversion with ⟨left, right, ⟨rfl, _⟩, hmajor, hminor⟩
  have hleft : '-' ∉ left.toList := hmajor.not_mem rfl (by decide) (by decide)
  have hright : '-' ∉ right.toList := hminor.not_mem rfl (by decide) (by decide)
  simp [hleft, hright]

/-- A part of a version is a numeral once the blanks at its ends are gone. -/
theorem IsVersion.exists_numeral (hversion : IsVersion text major minor) {core : List Char}
    (hpart : HasVersionPart text core) : ∃ n, IsNumeral 10 core n := by
  rcases hversion with ⟨left, right, hcut, ⟨first, hfirst, hmajor⟩, ⟨second, hsecond, hminor⟩⟩
  rcases hpart with ⟨left', right', hcut', hcore⟩
  obtain ⟨rfl, rfl⟩ := hcut.unique hcut'
  rcases hcore with hcore | hcore
  · obtain rfl : first = core := (trim_eq_iff.mpr hfirst).symm.trans (trim_eq_iff.mpr hcore)
    exact ⟨_, hmajor⟩
  · obtain rfl : second = core := (trim_eq_iff.mpr hsecond).symm.trans (trim_eq_iff.mpr hcore)
    exact ⟨_, hminor⟩

theorem SpoilsVersion.not_isVersion (hspoils : SpoilsVersion text) :
    ¬ IsVersion text major minor := by
  intro hversion
  cases hspoils with
  | secondPoint hpoints =>
      rw [hversion.count_point] at hpoints
      omega
  | minusSign hminus => exact hversion.not_mem_minus hminus
  | emptyPart hpart =>
      rcases hversion.exists_numeral hpart with ⟨n, hnumeral⟩
      exact hnumeral.ne_nil rfl
  | innerBlank hpart hmem hblank =>
      rcases hversion.exists_numeral hpart with ⟨n, hnumeral⟩
      rw [hnumeral.not_blank (by decide) _ hmem] at hblank
      cases hblank

end

namespace Codec

/-- The codec encodes exactly the versions, as their two numbers, and refuses every other
text with that text.  Each part may as well be read in a byte. -/
theorem encode_version_exact (text : String) :
    (∀ bytes, version.encode (.text text) = .ok bytes ↔
        ∃ major minor, bytes = [major, minor] ∧ IsVersion text major minor) ∧
      (∀ e, version.encode (.text text) = .error e ↔
        e = .invalidVersion text ∧ ∀ major minor, ¬ IsVersion text major minor) ∧
      (SpoilsVersion text → version.encode (.text text) = .error (.invalidVersion text)) ∧
      ∀ part, versionPart? part = numeralInByte? 10 (trim part) := by
  refine ⟨fun bytes => encode_version_eq_ok_iff, fun e => encode_version_eq_error_iff, ?_, ?_⟩
  · intro hspoils
    exact encode_version_eq_error_iff.mpr ⟨rfl, fun major minor => hspoils.not_isVersion⟩
  · intro part
    rw [versionPart?, numeralInByte?_eq (by decide)]

/-- Zeros in front, a plus sign and blanks of several kinds do not count, and a second
point does. -/
theorem encode_version_exact_padded :
    IsVersion "\u00a0+007.\u3000255\n" 7 255 ∧ SpoilsVersion "1.2.3" ∧
      version.encode (.text "1.2.3") = .error (.invalidVersion "1.2.3") := by
  have hencode : version.encode (.text "\u00a0+007.\u3000255\n") = .ok [7, 255] := by
    rfl
  have hspoils : SpoilsVersion "1.2.3" := .secondPoint (by decide)
  rcases ((encode_version_exact _).1 _).mp hencode with ⟨major, minor, hbytes, hversion⟩
  obtain ⟨rfl, rfl⟩ : 7 = major ∧ 255 = minor := by simpa using hbytes
  exact ⟨hversion, hspoils, (encode_version_exact "1.2.3").2.2.1 hspoils⟩

example : version.encode (.text "1.256") = .error (.invalidVersion "1.256") := by
  rfl

end Codec

end PowerLink
