import ClassForge.Class
import ClassForge.Manifest.Lineage

/-!
# Classes from manifests

A manifest that declares its classes well gives a class for each of them.

## Main definitions

- `ParameterDecl.settings` — the settings of a declared parameter
- `ClassDecl.declareOn` — the declarations of a class, made on its fresh class
- `ClassDecl.build` — a class from its declaration and those of its lineage
- `Manifest.buildClass` — makes a class behind those that it extends
- `Manifest.registry` — all classes in the order of the manifest

## Design notes

Each class is made once, when the first class of the manifest that needs it comes up. `ClassDecl.build`
makes it from its lineage alone instead. That both give the same classes is why the order in which the
manifest lists classes has no influence on them.
-/

namespace ClassForge

namespace ParameterDecl

/-- The default: the constant one if there is one, else nil for an optional parameter. -/
def default? (p : ParameterDecl) : Option Value :=
  match p.constant with
  | some d => some d.toValue
  | none => if p.isOptional then some .nil else none

/-- The type that is named, if one is. -/
def capability? (p : ParameterDecl) : Except ManifestFault (Option Capability) :=
  match p.type with
  | none => .ok none
  | some type =>
    match Capability.lookup? type.value with
    | some c => .ok (some c)
    | none => .error (.unknownType type)

/-- The settings of a parameter of the given kind. -/
def settings (p : ParameterDecl) (kind : ParameterKind) : Except ManifestFault Settings :=
  p.capability?.map fun type => ⟨kind, p.default?.map fun v _ => v, type, p.reader⟩

def declareOn (p : ParameterDecl) (kind : ParameterKind) (c : Class) :
    Except ManifestFault Class := do
  let settings ← p.settings kind
  (c.define p.name.value settings).mapError (.declaration c.name p.name.span)

end ParameterDecl

namespace ClassDecl

/-- The parameters with their kinds: the positional ones first. -/
def declarations (d : ClassDecl) : List (ParameterKind × ParameterDecl) :=
  d.params.map (.positional, ·) ++ d.options.map (.keyword, ·)

/-- Sets the treatment of undeclared keywords if one is declared. -/
def tolerate (d : ClassDecl) (c : Class) : Class :=
  match d.tolerance with
  | some t => c.withTolerance t
  | none => c

/-- Makes all declarations on a class, up to the first fault. -/
def declareOn (d : ClassDecl) (c : Class) : Except ManifestFault Class :=
  d.declarations.foldlM (fun c p => p.2.declareOn p.1 c) (d.tolerate c)

/-- The class of a declaration with a lineage: a subclass of the nearest class of the lineage, or a
root class if there is none. -/
def build (name : String) (d : ClassDecl) : Lineage → Except ManifestFault Class
  | [] => d.declareOn (.new name)
  | (parent, e) :: rest => do d.declareOn ((← build parent e rest).subclass name)

end ClassDecl

abbrev Registry := OrderedMap Class

namespace Manifest

/-- Makes a class, and before it those of the classes it extends that are not `made` yet. The classes
in `building` wait for this one, so none of them may come up again as a parent. -/
def buildClass (m : Manifest) (name : String) (building : List String) (_fresh : name ∉ building)
    (made : Registry) : Except ManifestFault Registry :=
  if made.contains name then .ok made
  else match _h : m.classes.get? name with
    | none => .ok made
    | some d =>
      match d.parent with
      | none => (d.declareOn (.new name)).map (made.insert name)
      | some parent =>
        if hp : parent.value ∈ name :: building then .error (.inheritanceCycle name parent.span)
        else do
          let made ← m.buildClass parent.value (name :: building) hp made
          match made.get? parent.value with
          | none => throw (.unknownParent name parent)
          | some c => return made.insert name (← d.declareOn (c.subclass name))
termination_by (m.classes.keys.filter (· ∉ building)).length
decreasing_by
  have hk : name ∈ m.classes.keys := OrderedMap.mem_keys_of_get? _h
  have hm : name ∈ m.classes.keys.filter (· ∉ building) := by simp [hk, _fresh]
  have hf : m.classes.keys.filter (· ∉ name :: building) =
      (m.classes.keys.filter (· ∉ building)).filter (· ≠ name) := by
    simp [List.filter_filter, not_or]
  rw [hf]
  exact List.length_filter_lt_length_iff_exists.2 ⟨name, hm, by simp⟩

/-- All classes in the order of the manifest, or the first fault on the way through it. -/
def registry (m : Manifest) : Except ManifestFault Registry := do
  let made ← m.classes.keys.foldlM
    (fun made name => m.buildClass name [] List.not_mem_nil made) ∅
  return made.sort fun a b => m.classes.keys.idxOf a ≤ m.classes.keys.idxOf b

end Manifest

end ClassForge
