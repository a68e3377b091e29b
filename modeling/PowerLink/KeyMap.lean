/-!
# Maps with text keys

A map from texts to values, kept as a list of entries whose keys strictly increase.
Texts are compared character by character, which is also the order of their UTF-8
bytes. The entry list is determined by the look-ups, so two maps with the same
look-ups are equal.
-/

namespace PowerLink

/-- Entries with strictly increasing keys. -/
def KeyMap.Ordered {α : Type} (entries : List (String × α)) : Prop :=
  entries.Pairwise (fun first second => first.1 < second.1)

structure KeyMap (α : Type) where
  entries : List (String × α)
  ordered : KeyMap.Ordered entries

namespace KeyMap

variable {α : Type}

instance [DecidableEq α] : DecidableEq (KeyMap α) := fun first second =>
  decidable_of_iff (first.entries = second.entries) (by
    cases first; cases second; simp)

instance [Repr α] : Repr (KeyMap α) :=
  ⟨fun map level => reprPrec map.entries level⟩

/-- Puts an entry in its place, replacing the one with the same key. -/
def insertEntry (key : String) (value : α) : List (String × α) → List (String × α)
  | [] => [(key, value)]
  | entry :: rest =>
    if key < entry.1 then (key, value) :: entry :: rest
    else if key = entry.1 then (key, value) :: rest
    else entry :: insertEntry key value rest

theorem mem_insertEntry {key : String} {value : α} {entry : String × α}
    {entries : List (String × α)}
    (hmem : entry ∈ insertEntry key value entries) :
    entry = (key, value) ∨ entry ∈ entries := by
  induction entries with
  | nil => simpa [insertEntry] using hmem
  | cons head tail ih =>
    unfold insertEntry at hmem
    split at hmem
    · simpa using hmem
    · split at hmem <;> simp only [List.mem_cons] at hmem ⊢
      · rcases hmem with h | h
        · exact .inl h
        · exact .inr (.inr h)
      · rcases hmem with h | h
        · exact .inr (.inl h)
        · exact (ih h).imp_right .inr

theorem Ordered.insertEntry {key : String} {value : α}
    {entries : List (String × α)} (hentries : Ordered entries) :
    Ordered (insertEntry key value entries) := by
  induction entries with
  | nil => simp [KeyMap.insertEntry, Ordered]
  | cons head tail ih =>
    have htail : Ordered tail := (List.pairwise_cons.1 hentries).2
    have hhead := (List.pairwise_cons.1 hentries).1
    unfold KeyMap.insertEntry
    split
    · rename_i hlt
      refine List.pairwise_cons.2 ⟨fun entry hentry => ?_, hentries⟩
      rcases List.mem_cons.1 hentry with rfl | hentry
      · exact hlt
      · exact String.lt_trans hlt (hhead entry hentry)
    · rename_i hnotlt
      split
      · rename_i heq
        refine List.pairwise_cons.2 ⟨fun entry hentry => ?_, htail⟩
        exact heq ▸ hhead entry hentry
      · rename_i hne
        refine List.pairwise_cons.2 ⟨fun entry hentry => ?_, ih htail⟩
        rcases mem_insertEntry hentry with rfl | hentry
        · refine Classical.byContradiction fun hnot => hne ?_
          exact String.le_antisymm (String.not_lt.1 hnot) (String.not_lt.1 hnotlt)
        · exact hhead entry hentry

def empty : KeyMap α := ⟨[], .nil⟩

instance : Inhabited (KeyMap α) := ⟨empty⟩

/-- Adds an entry, or replaces the value of the key. -/
def insert (map : KeyMap α) (key : String) (value : α) : KeyMap α :=
  ⟨insertEntry key value map.entries, map.ordered.insertEntry⟩

def get? (map : KeyMap α) (key : String) : Option α :=
  (map.entries.find? fun entry => entry.1 = key).map Prod.snd

def contains (map : KeyMap α) (key : String) : Bool :=
  (map.get? key).isSome

/-- The keys in increasing order. -/
def keys (map : KeyMap α) : List String :=
  map.entries.map Prod.fst

def isEmpty (map : KeyMap α) : Bool :=
  map.entries.isEmpty

/-- Adds the entries one after the other, so that a later one wins. -/
def insertAll (map : KeyMap α) (entries : List (String × α)) : KeyMap α :=
  entries.foldl (fun merged entry => merged.insert entry.1 entry.2) map

def ofList (entries : List (String × α)) : KeyMap α :=
  empty.insertAll entries

/-- The entries of both maps, where the second map wins. -/
def merge (first second : KeyMap α) : KeyMap α :=
  first.insertAll second.entries

end KeyMap

end PowerLink
