import ClassForge.Event
import ClassForge.Manifest.Registry

/-!
# Events of a registry

What the making of classes from a manifest reports.

## Main definitions

- `ClassDecl.buildEvents` — the events of a class and of those classes of its lineage that are not
  made yet
- `Manifest.registryEvents` — the events of all classes

## Design notes

Every class is made once: for the first class of the manifest that needs it, parents before
children.
-/

namespace ClassForge

/-- The events of declarations on a class, up to the first fault. -/
def ParameterDecl.declareEvents (c : Class) : List (ParameterKind × ParameterDecl) → List Event
  | [] => []
  | (kind, p) :: rest =>
    match p.settings kind, p.declareOn kind c with
    | .ok settings, .ok d => c.defineEvents p.name.value settings ++ declareEvents d rest
    | _, _ => []

namespace ClassDecl

/-- The events of all declarations of a class. -/
def declareEvents (d : ClassDecl) (c : Class) : List Event :=
  (match d.tolerance with
    | some t => c.withToleranceEvents t
    | none => []) ++ ParameterDecl.declareEvents (d.tolerate c) d.declarations

/-- The events of a class with a lineage, when the classes in `made` are made already. -/
def buildEvents (made : List String) (name : String) (d : ClassDecl) : Lineage → List Event
  | [] =>
    if name ∈ made then [] else Class.withBuilderEvents .new ++ d.declareEvents (.new name)
  | (parent, e) :: rest =>
    if name ∈ made then []
    else buildEvents made parent e rest ++
      match build parent e rest with
      | .ok c => c.subclassEvents name ++ d.declareEvents (c.subclass name)
      | .error _ => []

end ClassDecl

namespace Manifest

/-- The events of classes one after another, up to the first fault, when the classes in `made` are
made already. -/
def classEvents (m : Manifest) (made : List String) : List (String × ClassDecl) → List Event
  | [] => []
  | (name, d) :: rest =>
    match m.lineage name d with
    | .error _ => []
    | .ok lineage =>
      d.buildEvents made name lineage ++
        match d.build name lineage with
        | .ok _ => m.classEvents (name :: lineage.map Prod.fst ++ made) rest
        | .error _ => []

/-- The events of the making of all classes. -/
def registryEvents (m : Manifest) : List Event :=
  m.classEvents [] m.classes.toList

end Manifest

end ClassForge
