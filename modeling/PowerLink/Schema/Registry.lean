import PowerLink.Schema.Command

/-!
# Registries

A registry is a list of commands in which no pair of identifiers and no key occurs
twice, so that a look-up by either finds at most one command.
-/

namespace PowerLink

structure Registry where
  commands : List Command
  ids_nodup : (commands.map Command.ids).Nodup
  keys_nodup : (commands.map Command.key).Nodup

namespace Registry

def empty : Registry := ⟨[], .nil, .nil⟩

def byIds? (registry : Registry) (id1 id2 : UInt8) : Option Command :=
  registry.commands.find? fun command => command.ids = (id1, id2)

def byKey? (registry : Registry) (key : String) : Option Command :=
  registry.commands.find? fun command => command.key = key

/-- The commands of one section, in the order of the document. -/
def group (registry : Registry) (group : Group) : List Command :=
  registry.commands.filter fun command => command.group = group

def size (registry : Registry) : Nat :=
  registry.commands.length

def isEmpty (registry : Registry) : Bool :=
  registry.commands.isEmpty

theorem nodup_map_concat {α β : Type} {f : α → β} {items : List α} {item : α}
    (hitems : (items.map f).Nodup) (hnew : ∀ old ∈ items, f old ≠ f item) :
    ((items ++ [item]).map f).Nodup := by
  simp only [List.map_append, List.map_cons, List.map_nil, List.nodup_append]
  refine ⟨hitems, by simp, ?_⟩
  intro value hvalue other hother
  obtain ⟨old, hold, rfl⟩ := List.mem_map.1 hvalue
  simp only [List.mem_singleton] at hother
  exact hother ▸ hnew old hold

/-- Appends a command. A pair of identifiers in use is reported before a key in use. -/
def add (registry : Registry) (command : Command) : Except SchemaError Registry :=
  match hids : registry.commands.find? fun old => old.ids = command.ids with
  | some first =>
    .error (.duplicateId command.id1 command.id2 first.key command.key)
  | none =>
    if hkeys : ∃ old ∈ registry.commands, old.key = command.key then
      .error (.duplicateKey command.key)
    else
      .ok
        { commands := registry.commands ++ [command]
          ids_nodup := nodup_map_concat registry.ids_nodup fun old hold heq =>
            absurd (List.find?_eq_none.1 hids old hold) (by simp [heq])
          keys_nodup := nodup_map_concat registry.keys_nodup fun old hold heq =>
            hkeys ⟨old, hold, heq⟩ }

def ofCommands (commands : List Command) : Except SchemaError Registry :=
  commands.foldlM add empty

def ofDocument (document : SchemaDocument) : Except SchemaError Registry := do
  ofCommands (← document.commands)

end Registry

end PowerLink
