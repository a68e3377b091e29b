import PowerLink.Proofs.Registries
import Std.Data.HashMap.Lemmas

/-!
# Commands with indices

A registry looks its commands up by running through them. They can also be kept with two
indices that tell the place of a command by its identifiers and by its key, and then no
look-up runs through the list and no place is asked for that is not there. Both ways take
and refuse the same lists of commands, and find the same commands in them.
-/

namespace PowerLink

open Results

/-! ## Indices -/

/-- The index tells the places of the keys in the list, and no others. -/
def Indexes {κ : Type} [BEq κ] [Hashable κ] (index : Std.HashMap κ Nat) (keys : List κ) :
    Prop :=
  ∀ (key : κ) (place : Nat), index[key]? = some place ↔ keys[place]? = some key

namespace Indexes

variable {κ : Type} [BEq κ] [Hashable κ] {index : Std.HashMap κ Nat}
  {keys : List κ} {key : κ}

theorem empty : Indexes (∅ : Std.HashMap κ Nat) [] := by
  intro key place
  simp

theorem getElem?_eq_none_iff (hindex : Indexes index keys) :
    index[key]? = none ↔ key ∉ keys := by
  rw [List.mem_iff_getElem?, Option.eq_none_iff_forall_ne_some]
  simp only [not_exists, ← hindex key]

theorem nodup (hindex : Indexes index keys) : keys.Nodup := by
  apply List.nodup_iff_getElem?_ne_getElem?.mpr
  intro first second hlt hsecond hsame
  have hkey : keys[second]? = some (keys.get ⟨second, hsecond⟩) :=
    List.getElem?_eq_getElem hsecond
  have hfirst := (hindex _ _).mpr (hsame.trans hkey)
  rw [(hindex _ _).mpr hkey] at hfirst
  have hplace : second = first := Option.some.inj hfirst
  omega

theorem insert [LawfulBEq κ] (hindex : Indexes index keys) (hnew : index[key]? = none) :
    Indexes (index.insert key keys.length) (keys ++ [key]) := by
  have habsent : key ∉ keys := hindex.getElem?_eq_none_iff.mp hnew
  intro other place
  rw [Std.HashMap.getElem?_insert]
  by_cases hother : key = other
  · subst hother
    simp only [beq_self_eq_true, if_true, Option.some.injEq]
    constructor
    · rintro rfl
      simp
    · intro hplace
      rcases Nat.lt_or_ge place keys.length with hlt | hge
      · rw [List.getElem?_append_left hlt] at hplace
        exact absurd (List.mem_of_getElem? hplace) habsent
      · rw [List.getElem?_append_right hge] at hplace
        have hlast := (List.getElem?_eq_some_iff.mp hplace).1
        simp only [List.length_singleton] at hlast
        omega
  · have hne : (key == other) = false := by simpa using hother
    rw [hne, if_neg Bool.false_ne_true, hindex]
    rcases Nat.lt_or_ge place keys.length with hlt | hge
    · rw [List.getElem?_append_left hlt]
    · rw [List.getElem?_append_right hge, List.getElem?_eq_none hge]
      constructor
      · intro hnone
        cases hnone
      · intro hplace
        exact absurd (List.mem_singleton.mp (List.mem_of_getElem? hplace)).symm hother

end Indexes

section

variable {α κ : Type} [BEq κ] [Hashable κ] {keyOf : α → κ} {items : List α}
  {index : Std.HashMap κ Nat}

theorem Indexes.lt_length (hindex : Indexes index (items.map keyOf)) {key : κ} {place : Nat}
    (hplace : index[key]? = some place) : place < items.length := by
  have hkey := (hindex key place).mp hplace
  simpa using (List.getElem?_eq_some_iff.mp hkey).1

/-- The item at the place that the index tells. -/
def Indexes.find? (hindex : Indexes index (items.map keyOf)) (key : κ) : Option α :=
  match hplace : index[key]? with
  | none => none
  | some place => some (items.get ⟨place, hindex.lt_length hplace⟩)

theorem Indexes.find?_eq [DecidableEq κ] (hindex : Indexes index (items.map keyOf)) (key : κ) :
    hindex.find? key = items.find? fun item => keyOf item = key := by
  unfold Indexes.find?
  split
  next hnone =>
    have habsent := hindex.getElem?_eq_none_iff.mp hnone
    symm
    apply List.find?_eq_none.mpr
    intro item hitem hkey
    exact habsent (List.mem_map.mpr ⟨item, hitem, by simpa using hkey⟩)
  next place hplace =>
    have hkey := (hindex key place).mp hplace
    symm
    apply (find?_eq_some_iff_of_nodup hindex.nodup).mpr
    refine ⟨List.get_mem _ _, ?_⟩
    simpa [hindex.lt_length hplace] using hkey

end

/-! ## Commands that are refused -/

/-- Why the command cannot stand behind these ones. -/
inductive Repeats (before : List Command) (command : Command) : SchemaError → Prop
  | ids {first : Command} (hfirst : first ∈ before) (hids : first.ids = command.ids) :
      Repeats before command
        (.duplicateId command.id1 command.id2 first.key command.key)
  | key {first : Command} (hids : ∀ other ∈ before, other.ids ≠ command.ids)
      (hfirst : first ∈ before) (hkey : first.key = command.key) :
      Repeats before command (.duplicateKey command.key)

theorem Repeats.unique {before : List Command} {command : Command} {e e' : SchemaError}
    (hbefore : (before.map Command.ids).Nodup) (hrepeats : Repeats before command e)
    (hother : Repeats before command e') : e = e' := by
  cases hrepeats with
  | @ids first hfirst hids =>
      cases hother with
      | @ids other hother hids' =>
          have hsame := List.inj_on_of_nodup_map hbefore hfirst hother (hids.trans hids'.symm)
          rw [hsame]
      | key hnew => exact absurd hids (hnew first hfirst)
  | key hnew =>
      cases hother with
      | @ids other hother hids => exact absurd hids (hnew other hother)
      | key => rfl

namespace Registry

variable {registry next : Registry} {before after : List Command} {command : Command}
  {e : SchemaError}

theorem eq_of_commands (hcommands : registry.commands = next.commands) :
    registry = next := by
  cases registry
  cases next
  simpa using hcommands

theorem not_repeats (hcommands : registry.commands = before ++ command :: after) :
    ¬ Repeats before command e := by
  have hids := registry.ids_nodup
  have hkeys := registry.keys_nodup
  rw [hcommands, List.map_append, List.nodup_append] at hids hkeys
  intro hrepeats
  cases hrepeats with
  | @ids first hfirst hsame =>
      exact hids.2.2 _ (List.mem_map_of_mem hfirst) _ (by simp) hsame
  | @key first hnew hfirst hsame =>
      exact hkeys.2.2 _ (List.mem_map_of_mem hfirst) _ (by simp) hsame

theorem repeats_of_add (hadd : registry.add command = .error e) :
    Repeats registry.commands command e := by
  unfold add at hadd
  split at hadd
  next first hfirst =>
    have hids : first.ids = command.ids := by simpa using List.find?_some hfirst
    cases hadd
    exact Repeats.ids (List.mem_of_find?_eq_some hfirst) hids
  next hnone =>
    split at hadd
    next hkey =>
      obtain ⟨first, hfirst, hsame⟩ := hkey
      cases hadd
      apply Repeats.key _ hfirst hsame
      simpa using hnone
    next => cases hadd

theorem add_eq_error_iff :
    registry.add command = .error e ↔ Repeats registry.commands command e := by
  constructor
  · exact repeats_of_add
  · intro hrepeats
    cases hadd : registry.add command with
    | error e' => rw [(repeats_of_add hadd).unique registry.ids_nodup hrepeats]
    | ok next => exact absurd hrepeats (not_repeats (commands_of_add hadd))

theorem add_eq_ok_iff :
    registry.add command = .ok next ↔ next.commands = registry.commands ++ [command] := by
  constructor
  · exact commands_of_add
  · intro hnext
    cases hadd : registry.add command with
    | error e => exact absurd (repeats_of_add hadd) (not_repeats hnext)
    | ok other =>
        have hsame := eq_of_commands ((commands_of_add hadd).trans hnext.symm)
        rw [hsame]

variable {commands : List Command}

/-- A registry is read off a list of commands exactly if these are its commands. -/
theorem ofCommands_eq_ok_iff :
    ofCommands commands = .ok registry ↔ registry.commands = commands := by
  constructor
  · exact commands_of_foldlM
  · intro hcommands
    cases hrun : ofCommands commands with
    | ok other =>
        have hsame := eq_of_commands (hcommands.trans (commands_of_foldlM hrun).symm)
        rw [hsame]
    | error e =>
        obtain ⟨before, command, after, middle, hsplit, hbefore, hadd⟩ :=
          foldlM_eq_error_iff.mp hrun
        have hmiddle : middle.commands = before := commands_of_foldlM hbefore
        have hrepeats := repeats_of_add hadd
        rw [hmiddle] at hrepeats
        exact absurd hrepeats (not_repeats (hcommands.trans hsplit))

theorem exists_ofCommands_iff :
    (∃ registry, ofCommands commands = .ok registry) ↔
      (commands.map Command.ids).Nodup ∧ (commands.map Command.key).Nodup := by
  constructor
  · rintro ⟨registry, hrun⟩
    rw [← ofCommands_eq_ok_iff.mp hrun]
    exact ⟨registry.ids_nodup, registry.keys_nodup⟩
  · rintro ⟨hids, hkeys⟩
    exact ⟨⟨commands, hids, hkeys⟩, ofCommands_eq_ok_iff.mpr rfl⟩

theorem ofCommands_eq_error_iff :
    ofCommands commands = .error e ↔
      ∃ before command after, commands = before ++ command :: after ∧
        (before.map Command.ids).Nodup ∧ (before.map Command.key).Nodup ∧
        Repeats before command e := by
  unfold ofCommands
  rw [foldlM_eq_error_iff]
  constructor
  · rintro ⟨before, command, after, middle, hsplit, hbefore, hadd⟩
    obtain rfl : middle.commands = before := ofCommands_eq_ok_iff.mp hbefore
    exact ⟨_, command, after, hsplit, middle.ids_nodup, middle.keys_nodup,
      repeats_of_add hadd⟩
  · rintro ⟨before, command, after, hsplit, hids, hkeys, hrepeats⟩
    have hbefore : ofCommands before = .ok ⟨before, hids, hkeys⟩ :=
      ofCommands_eq_ok_iff.mpr rfl
    exact ⟨before, command, after, _, hsplit, hbefore, add_eq_error_iff.mpr hrepeats⟩

end Registry

/-! ## Both kinds of look-up -/

/-- A list of commands and the indices of its identifiers and of its keys. -/
structure IndexedCommands where
  commands : List Command
  byIds : Std.HashMap (UInt8 × UInt8) Nat
  byKey : Std.HashMap String Nat
  ids_indexed : Indexes byIds (commands.map Command.ids)
  keys_indexed : Indexes byKey (commands.map Command.key)

namespace IndexedCommands

def empty : IndexedCommands where
  commands := []
  byIds := ∅
  byKey := ∅
  ids_indexed := Indexes.empty
  keys_indexed := Indexes.empty

def byIds? (indexed : IndexedCommands) (id1 id2 : UInt8) : Option Command :=
  indexed.ids_indexed.find? (id1, id2)

def byKey? (indexed : IndexedCommands) (key : String) : Option Command :=
  indexed.keys_indexed.find? key

/-- Puts the command behind the others and its place into both indices. -/
def add (indexed : IndexedCommands) (command : Command) :
    Except SchemaError IndexedCommands :=
  match hids : indexed.byIds[command.ids]? with
  | some place =>
    let first := indexed.commands.get ⟨place, indexed.ids_indexed.lt_length hids⟩
    .error (.duplicateId command.id1 command.id2 first.key command.key)
  | none =>
    match hkey : indexed.byKey[command.key]? with
    | some _ => .error (.duplicateKey command.key)
    | none =>
      .ok
        { commands := indexed.commands ++ [command]
          byIds := indexed.byIds.insert command.ids indexed.commands.length
          byKey := indexed.byKey.insert command.key indexed.commands.length
          ids_indexed := by
            simpa using indexed.ids_indexed.insert hids
          keys_indexed := by
            simpa using indexed.keys_indexed.insert hkey }

def ofCommands (commands : List Command) : Except SchemaError IndexedCommands :=
  commands.foldlM add empty

/-- The commands without their indices. -/
def registry (indexed : IndexedCommands) : Registry where
  commands := indexed.commands
  ids_nodup := indexed.ids_indexed.nodup
  keys_nodup := indexed.keys_indexed.nodup

theorem byIds?_eq (indexed : IndexedCommands) (id1 id2 : UInt8) :
    indexed.byIds? id1 id2 = indexed.registry.byIds? id1 id2 :=
  indexed.ids_indexed.find?_eq (id1, id2)

theorem byKey?_eq (indexed : IndexedCommands) (key : String) :
    indexed.byKey? key = indexed.registry.byKey? key :=
  indexed.keys_indexed.find?_eq key

theorem commands_of_add {indexed next : IndexedCommands} {command : Command}
    (hadd : indexed.add command = .ok next) :
    next.commands = indexed.commands ++ [command] := by
  unfold add at hadd
  split at hadd
  next => cases hadd
  next =>
    split at hadd
    next => cases hadd
    next =>
      cases hadd
      rfl

theorem repeats_of_add {indexed : IndexedCommands} {command : Command} {e : SchemaError}
    (hadd : indexed.add command = .error e) : Repeats indexed.commands command e := by
  unfold add at hadd
  split at hadd
  next place hplace =>
    have hids := (indexed.ids_indexed command.ids place).mp hplace
    have hfirst := indexed.ids_indexed.lt_length hplace
    cases hadd
    apply Repeats.ids (List.get_mem _ _)
    simpa [hfirst] using hids
  next hnone =>
    have hnew := indexed.ids_indexed.getElem?_eq_none_iff.mp hnone
    split at hadd
    next place hplace =>
      have hkey := (indexed.keys_indexed command.key place).mp hplace
      obtain ⟨first, hfirst, hsame⟩ := List.mem_map.mp (List.mem_of_getElem? hkey)
      cases hadd
      apply Repeats.key _ hfirst hsame
      intro other hother hids
      exact hnew (List.mem_map.mpr ⟨other, hother, hids⟩)
    next => cases hadd

theorem map_registry_add (indexed : IndexedCommands) (command : Command) :
    (indexed.add command).map registry = indexed.registry.add command := by
  symm
  cases hadd : indexed.add command with
  | error e => exact Registry.add_eq_error_iff.mpr (repeats_of_add hadd)
  | ok next => exact Registry.add_eq_ok_iff.mpr (commands_of_add hadd)

theorem map_registry_foldlM (commands : List Command) (indexed : IndexedCommands) :
    (commands.foldlM add indexed).map registry =
      commands.foldlM Registry.add indexed.registry := by
  induction commands generalizing indexed with
  | nil => rfl
  | cons command rest ih =>
      rw [List.foldlM_cons, List.foldlM_cons, ← map_registry_add]
      cases indexed.add command with
      | error e => rfl
      | ok next => exact ih next

theorem map_registry_ofCommands (commands : List Command) :
    (ofCommands commands).map registry = Registry.ofCommands commands :=
  map_registry_foldlM commands empty

end IndexedCommands

/-! ## Sections -/

namespace Registry

theorem filter_section {document : SchemaDocument} {group : Group} {members : List Command}
    (hmembers : (document.entries group).mapM (CommandEntry.check group) = .ok members)
    (other : Group) :
    members.filter (fun command => command.group = other) =
      if group = other then members else [] := by
  apply filter_of_forall_key_eq
  intro command hmem
  obtain ⟨entry, _, hcheck⟩ := exists_of_mem_mapM hmembers hmem
  exact (CommandEntry.laidOut_of_check hcheck).1

theorem sections_of_ofDocument {document : SchemaDocument} {registry : Registry}
    (hread : ofDocument document = .ok registry) :
    (∀ group, (document.entries group).mapM (CommandEntry.check group) =
      .ok (registry.group group)) ∧
    registry.commands =
      registry.group .attributes ++ registry.group .timeseries ++ registry.group .alarms ++
        registry.group .serverSideRpc := by
  obtain ⟨sections, hsections, hflat⟩ := bind_eq_ok_iff.mp (commands_of_ofDocument hread)
  have hcommands : sections.flatten = registry.commands := Except.ok.inj hflat
  obtain ⟨attributes, behind, hattributes, hbehind, rfl⟩ := mapM_cons_eq_ok_iff.mp hsections
  obtain ⟨timeseries, last, htimeseries, hlast, rfl⟩ := mapM_cons_eq_ok_iff.mp hbehind
  obtain ⟨alarms, others, halarms, hothers, rfl⟩ := mapM_cons_eq_ok_iff.mp hlast
  obtain ⟨serverSideRpc, none, hserverSideRpc, hnone, rfl⟩ := mapM_cons_eq_ok_iff.mp hothers
  have hempty : [] = none := Except.ok.inj hnone
  subst hempty
  have hgroup (group : Group) : registry.group group =
      (if Group.attributes = group then attributes else []) ++
        (if Group.timeseries = group then timeseries else []) ++
        (if Group.alarms = group then alarms else []) ++
        (if Group.serverSideRpc = group then serverSideRpc else []) := by
    rw [Registry.group, ← hcommands, ← filter_section hattributes group,
      ← filter_section htimeseries group, ← filter_section halarms group,
      ← filter_section hserverSideRpc group]
    simp
  constructor
  · intro group
    rw [hgroup]
    cases group with
    | attributes => simpa using hattributes
    | timeseries => simpa using htimeseries
    | alarms => simpa using halarms
    | serverSideRpc => simpa using hserverSideRpc
  · simp only [hgroup, ← hcommands]
    simp

/-- A registry is read off a list of commands exactly if no identifiers and no key occur
twice in it; otherwise the first command that repeats earlier ones is reported. A look-up
finds exactly the commands of the list, the sections of a document follow each other in
their order, and two indices into the list give the same answers to all of this. -/
theorem ofCommands_exact (commands : List Command) :
    ((∃ registry, ofCommands commands = .ok registry) ↔
      (commands.map Command.ids).Nodup ∧ (commands.map Command.key).Nodup) ∧
    (∀ e, ofCommands commands = .error e ↔
      ∃ before command after, commands = before ++ command :: after ∧
        (before.map Command.ids).Nodup ∧ (before.map Command.key).Nodup ∧
        Repeats before command e) ∧
    (∀ registry, ofCommands commands = .ok registry →
      registry.commands = commands ∧
      (∀ key command, registry.byKey? key = some command ↔
        command ∈ commands ∧ command.key = key) ∧
      (∀ id1 id2 command, registry.byIds? id1 id2 = some command ↔
        command ∈ commands ∧ command.ids = (id1, id2))) ∧
    (∀ document registry, ofDocument document = .ok registry →
      (∀ group, (document.entries group).mapM (CommandEntry.check group) =
        .ok (registry.group group)) ∧
      registry.commands =
        registry.group .attributes ++ registry.group .timeseries ++
          registry.group .alarms ++ registry.group .serverSideRpc) ∧
    (IndexedCommands.ofCommands commands).map IndexedCommands.registry =
      ofCommands commands ∧
    ∀ indexed : IndexedCommands,
      (∀ key, indexed.byKey? key = indexed.registry.byKey? key) ∧
      ∀ id1 id2, indexed.byIds? id1 id2 = indexed.registry.byIds? id1 id2 := by
  refine ⟨exists_ofCommands_iff, ?_, ?_, ?_, ?_, ?_⟩
  · intro e
    exact ofCommands_eq_error_iff
  · intro registry hrun
    have hcommands := ofCommands_eq_ok_iff.mp hrun
    subst hcommands
    refine ⟨rfl, ?_, ?_⟩
    · intro key command
      exact byKey?_eq_some_iff
    · intro id1 id2 command
      exact byIds?_eq_some_iff
  · intro document registry hread
    exact sections_of_ofDocument hread
  · exact IndexedCommands.map_registry_ofCommands commands
  · intro indexed
    exact ⟨indexed.byKey?_eq, indexed.byIds?_eq⟩

/-- The meter is read off its one command, and off its document. The command behind itself
is refused. -/
theorem ofCommands_exact_meter :
    ofCommands [meterCommand] = .ok meter ∧
      meter.byKey? "sum" = some meterCommand ∧
      meter.byIds? 0x40 0x81 = some meterCommand ∧
      ofDocument meterDocument = .ok meter ∧
      meter.commands = meter.group .attributes ++ meter.group .timeseries ++
        meter.group .alarms ++ meter.group .serverSideRpc ∧
      ofCommands [meterCommand, meterCommand] =
        .error (.duplicateId 0x40 0x81 "sum" "sum") := by
  have hrun : ofCommands [meterCommand] = .ok meter := rfl
  have hread : ofDocument meterDocument = .ok meter := rfl
  have hmem : meterCommand ∈ [meterCommand] := List.mem_singleton.mpr rfl
  obtain ⟨_, _, hfound, hsections, _⟩ := ofCommands_exact [meterCommand]
  obtain ⟨_, hkey, hids⟩ := hfound meter hrun
  obtain ⟨_, hrepeated, _⟩ := ofCommands_exact [meterCommand, meterCommand]
  have hrefused : ofCommands [meterCommand, meterCommand] =
      .error (.duplicateId 0x40 0x81 "sum" "sum") := by
    apply (hrepeated _).mpr
    exact ⟨[meterCommand], meterCommand, [], rfl, by simp, by simp, .ids hmem rfl⟩
  exact ⟨hrun, (hkey _ _).mpr ⟨hmem, rfl⟩, (hids _ _ _).mpr ⟨hmem, rfl⟩, hread,
    (hsections _ _ hread).2, hrefused⟩

end Registry

end PowerLink
