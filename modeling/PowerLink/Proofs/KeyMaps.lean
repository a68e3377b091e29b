import PowerLink.KeyMap
import Mathlib.Tactic

/-!
# Look-ups in maps with text keys

A look-up finds exactly the entries of a map, because no key occurs in two of them.
After an insertion the new key has its new value and all other keys keep theirs.
-/

namespace PowerLink

theorem find?_eq_some_iff_of_nodup {α κ : Type} [DecidableEq κ] {keyOf : α → κ}
    {items : List α} (hnodup : (items.map keyOf).Nodup) {key : κ} {item : α} :
    items.find? (fun other => keyOf other = key) = some item ↔
      item ∈ items ∧ keyOf item = key := by
  constructor
  · intro hfind
    exact ⟨List.mem_of_find?_eq_some hfind, by simpa using List.find?_some hfind⟩
  · rintro ⟨hmem, hkey⟩
    cases hfind : items.find? (fun other => keyOf other = key) with
    | none =>
        have hnone := List.find?_eq_none.mp hfind item hmem
        simp [hkey] at hnone
    | some other =>
        have hother : keyOf other = key := by
          simpa using List.find?_some hfind
        have hsame := List.inj_on_of_nodup_map hnodup
          (List.mem_of_find?_eq_some hfind) hmem (hother.trans hkey.symm)
        rw [hsame]

theorem filter_of_forall_key_eq {α κ : Type} [DecidableEq κ] {keyOf : α → κ}
    {items : List α} {key : κ} (hkey : ∀ item ∈ items, keyOf item = key) (other : κ) :
    items.filter (fun item => keyOf item = other) = if key = other then items else [] := by
  by_cases hother : key = other
  · rw [if_pos hother, List.filter_eq_self]
    intro item hmem
    simpa [← hother] using hkey item hmem
  · rw [if_neg hother, List.filter_eq_nil_iff]
    intro item hmem
    simpa [hkey item hmem] using hother

namespace KeyMap

variable {α : Type}

theorem find?_insertEntry_self (key : String) (value : α)
    (entries : List (String × α)) :
    (insertEntry key value entries).find? (fun entry => entry.1 = key) =
      some (key, value) := by
  induction entries with
  | nil => simp [insertEntry]
  | cons head tail ih =>
      unfold insertEntry
      split
      next => simp
      next =>
        split
        next => simp
        next hne =>
          rw [List.find?_cons_of_neg (by simpa using Ne.symm hne)]
          exact ih

theorem find?_insertEntry_of_ne {key other : String} (hne : other ≠ key)
    (value : α) (entries : List (String × α)) :
    (insertEntry key value entries).find? (fun entry => entry.1 = other) =
      entries.find? (fun entry => entry.1 = other) := by
  induction entries with
  | nil => simp [insertEntry, Ne.symm hne]
  | cons head tail ih =>
      unfold insertEntry
      split
      next => rw [List.find?_cons_of_neg (by simpa using Ne.symm hne)]
      next =>
        split
        next hkey =>
          rw [List.find?_cons_of_neg (by simpa using Ne.symm hne),
            List.find?_cons_of_neg (by simpa [← hkey] using Ne.symm hne)]
        next => simp only [List.find?_cons, ih]

@[simp] theorem get?_empty (key : String) : (empty : KeyMap α).get? key = none :=
  rfl

@[simp] theorem get?_insert_self (map : KeyMap α) (key : String) (value : α) :
    (map.insert key value).get? key = some value := by
  simp [get?, insert, find?_insertEntry_self]

theorem get?_insert_of_ne (map : KeyMap α) {key other : String}
    (hne : other ≠ key) (value : α) :
    (map.insert key value).get? other = map.get? other := by
  simp [get?, insert, find?_insertEntry_of_ne hne]

theorem Ordered.keys_nodup {entries : List (String × α)}
    (hordered : Ordered entries) : (entries.map Prod.fst).Nodup := by
  rw [List.Nodup, List.pairwise_map]
  apply hordered.imp
  intro first second hlt heq
  rw [heq] at hlt
  exact String.lt_irrefl second.1 hlt

theorem get?_eq_some_iff {map : KeyMap α} {key : String} {value : α} :
    map.get? key = some value ↔ (key, value) ∈ map.entries := by
  simp only [get?, Option.map_eq_some_iff,
    find?_eq_some_iff_of_nodup map.ordered.keys_nodup]
  constructor
  · rintro ⟨entry, ⟨hmem, rfl⟩, rfl⟩
    exact hmem
  · intro hmem
    exact ⟨(key, value), ⟨hmem, rfl⟩, rfl⟩

theorem mem_keys_iff {map : KeyMap α} {key : String} :
    key ∈ map.keys ↔ ∃ value, map.get? key = some value := by
  simp only [keys, List.mem_map, get?_eq_some_iff, Prod.exists]
  constructor
  · rintro ⟨found, value, hmem, rfl⟩
    exact ⟨value, hmem⟩
  · rintro ⟨value, hmem⟩
    exact ⟨key, value, hmem, rfl⟩

theorem not_mem_keys_iff {map : KeyMap α} {key : String} :
    key ∉ map.keys ↔ map.get? key = none := by
  rw [mem_keys_iff, not_exists, Option.eq_none_iff_forall_ne_some]

theorem get?_insertAll (map : KeyMap α) {entries : List (String × α)}
    (hnodup : (entries.map Prod.fst).Nodup) (key : String) :
    (map.insertAll entries).get? key =
      ((entries.find? fun entry => entry.1 = key).map Prod.snd).or (map.get? key) := by
  induction entries generalizing map with
  | nil => rfl
  | cons head tail ih =>
      have htail : (tail.map Prod.fst).Nodup := (List.nodup_cons.mp hnodup).2
      have hinsert : map.insertAll (head :: tail) =
          (map.insert head.1 head.2).insertAll tail := rfl
      rw [hinsert, ih _ htail, List.find?_cons]
      by_cases hkey : head.1 = key
      · subst hkey
        have hnone : tail.find? (fun entry => entry.1 = head.1) = none := by
          apply List.find?_eq_none.mpr
          intro entry hentry
          have hne : entry.1 ≠ head.1 := fun heq => (List.nodup_cons.mp hnodup).1
            (List.mem_map.mpr ⟨entry, hentry, heq⟩)
          simpa using hne
        simp [hnone]
      · simp [hkey, get?_insert_of_ne map (Ne.symm hkey)]

/-- The second map wins. -/
theorem get?_merge (first second : KeyMap α) (key : String) :
    (first.merge second).get? key = (second.get? key).or (first.get? key) :=
  get?_insertAll first second.ordered.keys_nodup key

theorem mem_keys_insert {map : KeyMap α} {key other : String} {value : α} :
    other ∈ (map.insert key value).keys ↔ other = key ∨ other ∈ map.keys := by
  simp only [mem_keys_iff]
  by_cases hkey : other = key
  · subst hkey
    simp
  · simp [get?_insert_of_ne map hkey, hkey]

/-- An entry behind all others is appended. -/
theorem insertEntry_of_lt {key : String} (value : α) {entries : List (String × α)}
    (hlast : ∀ entry ∈ entries, entry.1 < key) :
    insertEntry key value entries = entries ++ [(key, value)] := by
  induction entries with
  | nil => rfl
  | cons head tail ih =>
      have hhead : head.1 < key := hlast head (List.mem_cons_self ..)
      have hnot : ¬ key < head.1 := fun hlt => String.lt_irrefl _ (String.lt_trans hhead hlt)
      have hne : key ≠ head.1 := by
        intro hequal
        rw [hequal] at hhead
        exact String.lt_irrefl _ hhead
      rw [insertEntry, if_neg hnot, if_neg hne,
        ih fun entry hentry => hlast entry (List.mem_cons_of_mem head hentry)]
      rfl

theorem entries_insertAll_of_ordered (map : KeyMap α) {entries : List (String × α)}
    (hordered : Ordered (map.entries ++ entries)) :
    (map.insertAll entries).entries = map.entries ++ entries := by
  induction entries generalizing map with
  | nil => simp [insertAll]
  | cons head tail ih =>
      have hlast : ∀ entry ∈ map.entries, entry.1 < head.1 :=
        fun entry hentry => (List.pairwise_append.mp hordered).2.2 entry hentry head (by simp)
      have hinsert : (map.insert head.1 head.2).entries = map.entries ++ [head] :=
        insertEntry_of_lt head.2 hlast
      rw [List.append_cons, ← hinsert] at hordered ⊢
      exact ih (map.insert head.1 head.2) hordered

/-- Entries in the order of their keys are kept as they are. -/
theorem ofList_of_ordered {entries : List (String × α)} (hordered : Ordered entries) :
    ofList entries = ⟨entries, hordered⟩ := by
  have hentries : (ofList entries).entries = entries :=
    entries_insertAll_of_ordered empty hordered
  cases hlist : ofList entries with
  | mk kept _ =>
      rw [hlist] at hentries
      exact (mk.injEq ..).mpr hentries

end KeyMap

end PowerLink
