import ClassForge.Tolerance
import ClassForge.Toml.Datum

/-!
# Manifests

A manifest declares classes with their parents and parameters.

## Main definitions

- `ParameterDecl` — a parameter as a manifest declares it
- `ClassDecl` — a class as a manifest declares it
- `Manifest` — the declared classes in order

## Design notes

A manifest is what its document says, right or wrong: names may be no identifiers, parents may be
missing or form a cycle, and types may be unknown. `Manifest.check` and `Manifest.registry` find out.
Texts that a complaint may have to point at carry their range.
-/

namespace ClassForge

/-- A declared parameter. -/
structure ParameterDecl where
  name : Spanned String
  /-- The name of its type. -/
  type : Option (Spanned String)
  /-- A constant default. -/
  constant : Option Toml.Datum
  /-- Whether nil is the default, unless there is a constant one. -/
  isOptional : Bool
  /-- Whether a reader is wanted, if that is said. -/
  reader : Option Bool

/-- A declared class. -/
structure ClassDecl where
  /-- The class that it extends. -/
  parent : Option (Spanned String)
  /-- The treatment of undeclared keywords. Without it that of the parent counts. -/
  tolerance : Option Tolerance
  /-- The positional parameters. -/
  params : List ParameterDecl
  /-- The keyword parameters. -/
  options : List ParameterDecl

/-- Declared classes. -/
structure Manifest where
  /-- The classes by name, in the order of the document. -/
  classes : OrderedMap ClassDecl

namespace ClassDecl

def parameters (c : ClassDecl) : List ParameterDecl :=
  c.params ++ c.options

end ClassDecl

namespace Manifest

/-- The class that a class extends, if it is declared and extends one. -/
def parent? (m : Manifest) (name : String) : Option (Spanned String) :=
  (m.classes.get? name).bind (·.parent)

end Manifest

end ClassForge
