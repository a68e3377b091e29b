import PowerLink.Program.Config
import PowerLink.Proofs.Numerals
import Mathlib.Tactic

/-!
# Which port is chosen

Where no port is asked for, the ports are gone through once, and the last one among
those with the highest final character is kept.  On numbered ports this compares the
last decimal digits.  The port with the highest number is therefore chosen among ports
that differ in their last digit only, and port 9 is preferred to port 10.
-/

namespace PowerLink.Port

/-- The last one of the items whose key is the highest. -/
def LastHighest {α : Type} (key : α → Nat) (items : List α) (item : α) : Prop :=
  ∃ before after, items = before ++ item :: after ∧
    (∀ other ∈ before, key other ≤ key item) ∧ ∀ other ∈ after, key other < key item

/-- The port with this number among those whose names begin alike. -/
def numbered (stem : String) (number : Nat) : String :=
  stem ++ Text.decimal 1 number

/-! ## The last highest item -/

namespace LastHighest

variable {α : Type} {key : α → Nat} {items : List α} {item other : α}

theorem mem (h : LastHighest key items item) : item ∈ items := by
  rcases h with ⟨before, after, hitems, -, -⟩
  simp [hitems]

theorem key_le (h : LastHighest key items item) (hother : other ∈ items) :
    key other ≤ key item := by
  rcases h with ⟨before, after, rfl, hbefore, hafter⟩
  rcases List.mem_append.mp hother with hmem | hmem
  · exact hbefore other hmem
  · rcases List.mem_cons.mp hmem with heq | hmem
    · rw [heq]
    · exact (hafter other hmem).le

theorem cons_of_le (h : LastHighest key items item) (hother : key other ≤ key item) :
    LastHighest key (other :: items) item := by
  rcases h with ⟨before, after, rfl, hbefore, hafter⟩
  refine ⟨other :: before, after, rfl, ?_, hafter⟩
  intro earlier hearlier
  rcases List.mem_cons.mp hearlier with heq | hmem
  · rwa [heq]
  · exact hbefore earlier hmem

/-- An item whose key is lower than that of the first one changes nothing. -/
theorem insert_of_lt {first : α} (h : LastHighest key (first :: items) item)
    (hother : key other < key first) : LastHighest key (first :: other :: items) item := by
  have hfirst : key first ≤ key item := h.key_le (List.mem_cons_self ..)
  rcases h with ⟨before, after, hitems, hbefore, hafter⟩
  cases before with
  | nil =>
      have hcons : first = item ∧ items = after := by simpa using hitems
      rcases hcons with ⟨rfl, rfl⟩
      refine ⟨[], other :: items, rfl, by simp, ?_⟩
      intro later hlater
      rcases List.mem_cons.mp hlater with heq | hmem
      · rwa [heq]
      · exact hafter later hmem
  | cons head before =>
      have hcons : first = head ∧ items = before ++ item :: after := by simpa using hitems
      rcases hcons with ⟨rfl, rfl⟩
      refine ⟨first :: other :: before, after, rfl, ?_, hafter⟩
      intro earlier hearlier
      rcases List.mem_cons.mp hearlier with heq | hmem
      · rwa [heq]
      · rcases List.mem_cons.mp hmem with heq | hmem
        · rw [heq]
          exact (hother.trans_le hfirst).le
        · exact hbefore earlier (List.mem_cons_of_mem _ hmem)

/-- Of two such items the later one would be higher than the earlier one. -/
theorem unique (hitem : LastHighest key items item) (hother : LastHighest key items other) :
    item = other := by
  rcases hitem with ⟨before, after, rfl, hbefore, hafter⟩
  rcases hother with ⟨before', after', hitems, hbefore', hafter'⟩
  rcases List.append_eq_append_iff.mp hitems with
    ⟨between, hbetween, hrest⟩ | ⟨between, hbetween, hrest⟩
  · cases between with
    | nil => simp_all
    | cons head between =>
        have hcons : item = head ∧ after = between ++ other :: after' := by simpa using hrest
        have hlow : key item ≤ key other := hbefore' item (by simp [hbetween, hcons.1])
        exact absurd (hafter other (by simp [hcons.2])) hlow.not_gt
  · cases between with
    | nil => simp_all
    | cons head between =>
        have hcons : other = head ∧ after' = between ++ item :: after := by simpa using hrest
        have hlow : key other ≤ key item := hbefore other (by simp [hbetween, hcons.1])
        exact absurd (hafter' item (by simp [hcons.2])) hlow.not_gt

/-- The last highest image is that of the last highest source, where the keys of the
images are in the order of those of the sources. -/
theorem of_map {γ : Type} {f : γ → α} {key' : γ → Nat} {sources : List γ}
    (hkey : ∀ source source', key (f source) ≤ key (f source') ↔ key' source ≤ key' source')
    (h : LastHighest key (sources.map f) item) :
    ∃ source, item = f source ∧ LastHighest key' sources source := by
  rcases h with ⟨before, after, hitems, hbefore, hafter⟩
  rcases List.map_eq_append_iff.mp hitems with ⟨before', rest, rfl, rfl, hrest⟩
  rcases List.map_eq_cons_iff.mp hrest with ⟨source, after', rfl, rfl, rfl⟩
  refine ⟨source, rfl, before', after', rfl, ?_, ?_⟩
  · intro earlier hearlier
    exact (hkey ..).mp (hbefore (f earlier) (List.mem_map_of_mem hearlier))
  · intro later hlater
    have hlt := hafter (f later) (List.mem_map_of_mem hlater)
    rwa [← not_le, hkey, not_le] at hlt

end LastHighest

/-! ## The fold over the ports -/

/-- The place of a port in the order by which one is chosen. -/
def place (name : String) : Nat :=
  (rank name).toNat

theorem foldl_better_some (names : List String) (held : String) :
    ∃ name, names.foldl better (some held) = some name ∧
      LastHighest place (held :: names) name := by
  induction names generalizing held with
  | nil =>
      exact ⟨held, rfl, [], [], rfl, by simp, by simp⟩
  | cons next rest ih =>
      simp only [List.foldl_cons, better]
      split
      next hle =>
        rcases ih next with ⟨name, hname, hhighest⟩
        have hheld : place held ≤ place next := hle
        have hnext : place next ≤ place name := hhighest.key_le (List.mem_cons_self ..)
        exact ⟨name, hname, hhighest.cons_of_le (hheld.trans hnext)⟩
      next hlt =>
        rcases ih held with ⟨name, hname, hhighest⟩
        have hnext : place next < place held := Nat.lt_of_not_le hlt
        exact ⟨name, hname, hhighest.insert_of_lt hnext⟩

theorem exists_highest? {names : List String} (hnames : names ≠ []) :
    ∃ name, highest? names = some name ∧ LastHighest place names name := by
  cases names with
  | nil => exact absurd rfl hnames
  | cons first rest => exact foldl_better_some rest first

/-! ## Numbered ports -/

variable {stem : String} {numbers : List Nat}

theorem getLast?_toDigits (number : Nat) :
    (Nat.toDigits 10 number).getLast? = some (Nat.digitChar (number % 10)) := by
  rcases Nat.lt_or_ge number 10 with hlt | hge
  · rw [Nat.toDigits_of_lt_base hlt, Nat.mod_eq_of_lt hlt]
    rfl
  · rw [Nat.toDigits_of_base_le (by decide) hge]
    simp

theorem toNat_digitChar {digit : Nat} (hdigit : digit < 10) :
    (Nat.digitChar digit).toNat = 48 + digit := by
  decide +revert

/-- The place of a numbered port is that of its last digit. -/
theorem place_numbered (stem : String) (number : Nat) :
    place (numbered stem number) = 48 + number % 10 := by
  have hlast := getLast?_toDigits number
  have hdigit : (Nat.digitChar (number % 10)).toNat = 48 + number % 10 :=
    toNat_digitChar (Nat.mod_lt number (by decide))
  simp [place, rank, numbered, Text.decimal_one, List.getLast?_append, hlast, hdigit]

theorem numbered_injective (stem : String) : Function.Injective (numbered stem) := by
  intro number other hequal
  have hdigits : Nat.toDigits 10 number = Nat.toDigits 10 other := by
    have htexts := congrArg String.toList hequal
    simpa [numbered, Text.decimal_one] using htexts
  have hread := congrArg (Text.numeral? 10) hdigits
  simpa [Text.numeral?_toDigits] using hread

theorem exists_find?_numbered (stem : String) (hnumbers : numbers ≠ []) :
    ∃ number, find? (numbers.map (numbered stem)) "" = some (numbered stem number) ∧
      LastHighest (· % 10) numbers number := by
  have hnames : numbers.map (numbered stem) ≠ [] := by simpa using hnumbers
  rcases exists_highest? hnames with ⟨name, hname, hhighest⟩
  have hplace : ∀ number other, place (numbered stem number) ≤ place (numbered stem other) ↔
      number % 10 ≤ other % 10 := by
    intro number other
    rw [place_numbered, place_numbered, Nat.add_le_add_iff_left]
  rcases hhighest.of_map hplace with ⟨number, rfl, hnumber⟩
  exact ⟨number, by simpa [find?] using hname, hnumber⟩

theorem find?_numbered_eq_iff (hnumbers : numbers ≠ []) (number : Nat) :
    find? (numbers.map (numbered stem)) "" = some (numbered stem number) ↔
      LastHighest (· % 10) numbers number := by
  rcases exists_find?_numbered stem hnumbers with ⟨chosen, hfind, hchosen⟩
  rw [hfind]
  constructor
  · intro hequal
    rwa [← numbered_injective stem (Option.some.inj hequal)]
  · intro hnumber
    rw [hchosen.unique hnumber]

/-- Among numbers that agree in front of the last digit, that digit decides. -/
theorem LastHighest.le_of_same_tens {highest tens : Nat}
    (h : LastHighest (· % 10) numbers highest) (htens : ∀ number ∈ numbers, number / 10 = tens) :
    ∀ number ∈ numbers, number ≤ highest := by
  intro number hnumber
  have hdigit : number % 10 ≤ highest % 10 := h.key_le hnumber
  have htens_number := htens number hnumber
  have htens_highest := htens highest h.mem
  omega

/-- Without a request the last port with the highest last digit is chosen, which is the
highest number where the numbers differ in that digit only; a request is met by the port
of that name alone. -/
theorem find?_by_last_digit (stem : String) (hnumbers : numbers ≠ []) (names : List String)
    {requested : String} (hrequested : requested ≠ "") :
    (∀ number, find? (numbers.map (numbered stem)) "" = some (numbered stem number) ↔
      LastHighest (· % 10) numbers number) ∧
    (∃ number ∈ numbers,
      find? (numbers.map (numbered stem)) "" = some (numbered stem number) ∧
      ((∃ tens, ∀ other ∈ numbers, other / 10 = tens) →
        ∀ other ∈ numbers, other ≤ number)) ∧
    (find? names requested = some requested ↔ requested ∈ names) ∧
    (find? names requested = none ↔ requested ∉ names) := by
  rcases exists_find?_numbered stem hnumbers with ⟨number, hfind, hnumber⟩
  have hnonempty : requested.isEmpty = false := by simpa using hrequested
  refine ⟨find?_numbered_eq_iff hnumbers, ⟨number, hnumber.mem, hfind, ?_⟩, ?_, ?_⟩
  · rintro ⟨tens, htens⟩
    exact hnumber.le_of_same_tens htens
  · simp [find?, hnonempty]
  · simp [find?, hnonempty]

/-- Port 12 is passed over, because the digit 2 is lower than the digit 3. -/
theorem find?_by_last_digit_two_decades :
    [3, 12, 0] ≠ [] ∧ "/dev/rfcomm1" ≠ "" ∧
      find? ["/dev/rfcomm3", "/dev/rfcomm12", "/dev/rfcomm0"] "" = some "/dev/rfcomm3" ∧
      (find? ["/dev/rfcomm12"] "/dev/rfcomm1" = none ↔ "/dev/rfcomm1" ∉ ["/dev/rfcomm12"]) := by
  have hnumbers : [3, 12, 0] ≠ [] := by decide
  have hrequested : "/dev/rfcomm1" ≠ "" := by decide
  have hchoice := find?_by_last_digit "/dev/rfcomm" hnumbers ["/dev/rfcomm12"] hrequested
  refine ⟨hnumbers, hrequested, ?_, hchoice.2.2.2⟩
  have hthree : LastHighest (· % 10) [3, 12, 0] 3 :=
    ⟨[], [12, 0], rfl, by decide, by decide⟩
  exact (hchoice.1 3).mpr hthree

/-- The highest number is passed over as soon as another one ends in a higher digit. -/
theorem highest_number_passed_over :
    ¬ ∀ (stem : String) (numbers : List Nat) (highest : Nat),
      (∀ c ∈ stem.toList.getLast?, c.isDigit = false) → numbers.Nodup → highest ∈ numbers →
      (∀ number ∈ numbers, number ≤ highest) →
      find? (numbers.map (numbered stem)) "" = some (numbered stem highest) := by
  intro hclaim
  have hlast : "/dev/rfcomm".toList.getLast? = some 'm' := rfl
  have hstem : ∀ c ∈ "/dev/rfcomm".toList.getLast?, c.isDigit = false := by
    intro c hc
    rw [hlast] at hc
    rw [← Option.some.inj hc]
    rfl
  have hten := hclaim "/dev/rfcomm" [9, 10] 10 hstem (by decide) (by decide) (by decide)
  exact absurd hten (by decide)

end PowerLink.Port
