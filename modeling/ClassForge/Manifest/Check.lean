import ClassForge.Capability
import ClassForge.Identifier
import ClassForge.Manifest.Fault

/-!
# Checking manifests

Names, parents, types and defaults are checked before any class is made.

## Main definitions

- `ParameterDecl.check` — the name, the type and the default of a parameter
- `Manifest.closing?` — where following the parents of a class does not end
- `Manifest.check` — all classes in order; the first fault counts
-/

namespace ClassForge

/-- Checks a parameter: its name first, then its type, then its default. -/
def ParameterDecl.check (p : ParameterDecl) : Except ManifestFault Unit := do
  if isParameterName p.name.value = false then
    throw (.invalidName p.name.value .ofParameter (some p.name.span))
  if let some type := p.type then
    if (Capability.lookup? type.value).isNone then throw (.unknownType type)
  if p.isOptional && p.constant.isSome then throw (.conflictingDefault p.name)

namespace Manifest

/-- Follows the parents of `current` until they end. The result is the range of the parent at which
`start`, or a class that is not `unseen` any more, comes up again. -/
def closingFrom? (m : Manifest) (start current : String) (unseen : List String) :
    Option Text.Span :=
  match m.parent? current with
  | none => none
  | some parent =>
    if _ : current ∈ unseen ∧ parent.value ≠ start then
      m.closingFrom? start parent.value (unseen.erase current)
    else some parent.span
termination_by unseen.length
decreasing_by
  rename_i h
  have := List.length_erase_of_mem h.1
  have := List.length_pos_of_mem h.1
  omega

/-- Where following the parents of a class closes a cycle, if it does. -/
def closing? (m : Manifest) (name : String) : Option Text.Span :=
  m.closingFrom? name name m.classes.keys

/-- Checks a class: its name, its parent, that its parents end, and its parameters in order. -/
def checkClass (m : Manifest) (s : Source) (name : String) (c : ClassDecl) :
    Except ManifestFault Unit := do
  if isIdentifier name = false then throw (.invalidName name .ofClass (s.classHeader? name))
  if let some parent := c.parent then
    if m.classes.contains parent.value = false then throw (.unknownParent name parent)
  if let some span := m.closing? name then throw (.inheritanceCycle name span)
  c.parameters.forM ParameterDecl.check

/-- Checks all classes in order. The source tells where class names stand. -/
def check (m : Manifest) (s : Source) : Except ManifestFault Unit :=
  m.classes.toList.forM fun e => m.checkClass s e.1 e.2

end Manifest

end ClassForge
