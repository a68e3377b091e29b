import PowerLink.Proofs.FieldLists
import PowerLink.Proofs.KeyMaps

/-!
# Registries that were read from a document

Every command of such a registry has passed the check, its params and its values
alike. A look-up by identifiers or by key finds a command exactly if the registry has
it under them.
-/

namespace PowerLink

open Results

structure Command.WellFormed (command : Command) : Prop where
  params : Payload.WellFormed command.params
  values : Payload.WellFormed command.values

theorem CommandEntry.laidOut_of_check {group : Group} {entry : CommandEntry}
    {command : Command} (hcheck : entry.check group = .ok command) :
    command.group = group ∧
      layOutFields entry.key entry.params = .ok command.params ∧
      layOutFields entry.key entry.values = .ok command.values := by
  rcases bind_eq_ok_iff.mp hcheck with ⟨id1, _, hcheck⟩
  rcases bind_eq_ok_iff.mp hcheck with ⟨id2, _, hcheck⟩
  rcases bind_eq_ok_iff.mp hcheck with ⟨params, hparams, hcheck⟩
  rcases bind_eq_ok_iff.mp hcheck with ⟨values, hvalues, hcheck⟩
  simp only [pure, Except.pure, Except.ok.injEq] at hcheck
  subst hcheck
  exact ⟨rfl, hparams, hvalues⟩

theorem CommandEntry.wellFormed_check {group : Group} {entry : CommandEntry}
    {command : Command} (hcheck : entry.check group = .ok command) :
    command.WellFormed := by
  obtain ⟨_, hparams, hvalues⟩ := laidOut_of_check hcheck
  exact ⟨wellFormed_layOutFields hparams, wellFormed_layOutFields hvalues⟩

theorem SchemaDocument.wellFormed_commands {document : SchemaDocument}
    {commands : List Command} (hcommands : document.commands = .ok commands)
    {command : Command} (hmem : command ∈ commands) : command.WellFormed := by
  rcases bind_eq_ok_iff.mp hcommands with ⟨sections, hsections, hflat⟩
  simp only [pure, Except.pure, Except.ok.injEq] at hflat
  rw [← hflat] at hmem
  rcases List.mem_flatten.mp hmem with ⟨members, hmembers, hmem⟩
  rcases exists_of_mem_mapM hsections hmembers with ⟨group, _, hgroup⟩
  rcases exists_of_mem_mapM hgroup hmem with ⟨entry, _, hentry⟩
  exact CommandEntry.wellFormed_check hentry

namespace Registry

theorem commands_of_add {registry next : Registry} {command : Command}
    (hadd : registry.add command = .ok next) :
    next.commands = registry.commands ++ [command] := by
  unfold add at hadd
  split at hadd
  next => simp at hadd
  next =>
    split at hadd
    next => simp at hadd
    next =>
      simp only [Except.ok.injEq] at hadd
      rw [← hadd]

theorem commands_of_foldlM {registry last : Registry} {commands : List Command}
    (hrun : commands.foldlM add registry = .ok last) :
    last.commands = registry.commands ++ commands := by
  induction commands generalizing registry with
  | nil =>
      simp only [List.foldlM_nil, pure, Except.pure, Except.ok.injEq] at hrun
      simp [hrun]
  | cons command rest ih =>
      rw [List.foldlM_cons] at hrun
      rcases bind_eq_ok_iff.mp hrun with ⟨next, hadd, hrest⟩
      rw [ih hrest, commands_of_add hadd, List.append_assoc, List.singleton_append]

theorem commands_of_ofDocument {document : SchemaDocument} {registry : Registry}
    (hread : ofDocument document = .ok registry) :
    document.commands = .ok registry.commands := by
  rcases bind_eq_ok_iff.mp hread with ⟨commands, hcommands, hrun⟩
  have hlast := commands_of_foldlM hrun
  simp only [empty, List.nil_append] at hlast
  rw [hcommands, hlast]

theorem wellFormed_of_ofDocument {document : SchemaDocument} {registry : Registry}
    (hread : ofDocument document = .ok registry) {command : Command}
    (hmem : command ∈ registry.commands) : command.WellFormed :=
  SchemaDocument.wellFormed_commands (commands_of_ofDocument hread) hmem

/-- A meter with one command, whose request carries as many readings as it says. -/
def meterDocument : SchemaDocument :=
  { SchemaDocument.empty with
    attributes := [{
      id1 := .number 0x40
      id2 := .number 0x81
      key := "sum"
      name := ""
      params := [
        ⟨"n", "", .uint8, none, none, none, none⟩,
        ⟨"readings", "", .uint16, none, none, none, some (.reference "$\x7bn\x7d")⟩]
      values := [⟨"total", "", .uint16, none, none, none, none⟩] }] }

def meterCommand : Command where
  id1 := 0x40
  id2 := 0x81
  key := "sum"
  name := "sum"
  group := .attributes
  params := [⟨"n", "n", 0, .uint8, .scalar⟩, ⟨"readings", "readings", 1, .uint16, .ref "n"⟩]
  values := [⟨"total", "total", 0, .uint16, .scalar⟩]

def meter : Registry where
  commands := [meterCommand]
  ids_nodup := by simp
  keys_nodup := by simp

example : ofDocument meterDocument = .ok meter := by
  rfl

/-- A request for the sum of no readings. -/
def noReadings : Record :=
  KeyMap.ofList [("n", .scalar (.uint 0)), ("readings", .array [])]

/-! ## Look-ups -/

theorem byIds?_eq_some_iff {registry : Registry} {id1 id2 : UInt8}
    {command : Command} :
    registry.byIds? id1 id2 = some command ↔
      command ∈ registry.commands ∧ command.ids = (id1, id2) :=
  find?_eq_some_iff_of_nodup registry.ids_nodup

theorem byIds?_eq_none_iff {registry : Registry} {id1 id2 : UInt8} :
    registry.byIds? id1 id2 = none ↔
      ∀ command ∈ registry.commands, command.ids ≠ (id1, id2) := by
  simp [byIds?]

theorem byKey?_eq_some_iff {registry : Registry} {key : String} {command : Command} :
    registry.byKey? key = some command ↔
      command ∈ registry.commands ∧ command.key = key :=
  find?_eq_some_iff_of_nodup registry.keys_nodup

theorem byKey?_eq_none_iff {registry : Registry} {key : String} :
    registry.byKey? key = none ↔ ∀ command ∈ registry.commands, command.key ≠ key := by
  simp [byKey?]

end Registry

end PowerLink
