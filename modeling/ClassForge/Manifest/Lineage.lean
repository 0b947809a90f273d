import ClassForge.Manifest.Fault

/-!
# Lineages

The classes that a declared class extends, directly or through others.

## Main definitions

- `Lineage` — declared classes with their names, the nearest first
- `Manifest.lineage` — the parent of a class, its parent and so on

## Design notes

The walk carries the classes that it has not met. A parent among them goes on, any other declared
one closes a cycle, so the walk ends for every manifest.
-/

namespace ClassForge

/-- Declared classes with their names, the nearest first. -/
abbrev Lineage := List (String × ClassDecl)

namespace Manifest

/-- The lineage of a class, when `others` are the classes that were not met on the way to it. -/
def lineageFrom (m : Manifest) (name : String) (c : ClassDecl) (others : List String) :
    Except ManifestFault Lineage :=
  match c.parent with
  | none => .ok []
  | some parent =>
    match m.classes.get? parent.value with
    | none => .error (.unknownParent name parent)
    | some d =>
      if _ : parent.value ∈ others then
        (m.lineageFrom parent.value d (others.erase parent.value)).map ((parent.value, d) :: ·)
      else .error (.inheritanceCycle name parent.span)
termination_by others.length
decreasing_by
  rename_i h
  have := List.length_erase_of_mem h
  have := List.length_pos_of_mem h
  omega

/-- The parent of a class, its parent and so on, or the fault of the class at which they do not go
on. -/
def lineage (m : Manifest) (name : String) (c : ClassDecl) : Except ManifestFault Lineage :=
  m.lineageFrom name c (m.classes.keys.erase name)

end Manifest

end ClassForge
