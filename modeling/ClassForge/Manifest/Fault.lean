import ClassForge.Fault
import ClassForge.Manifest.Schema
import ClassForge.Manifest.Source

/-!
# Faults of manifests

What can be wrong with a manifest.

## Main definitions

- `ManifestFault` — the causes, with names and ranges in the text
- `ManifestFault.message`, `code`, `help?`, `labels` — how a fault is reported
-/

namespace ClassForge

/-- What a name in a manifest names. -/
inductive NameRole where
  | ofClass
  | ofParameter
deriving DecidableEq

def NameRole.text : NameRole → String
  | ofClass => "class"
  | ofParameter => "parameter"

/-- A manifest that cannot be used. -/
inductive ManifestFault where
  /-- The text is no document. -/
  | notToml
  /-- The document is no manifest. -/
  | mismatch (m : Spanned Mismatch)
  /-- A name is no identifier, or it is reserved. -/
  | invalidName (name : String) (role : NameRole) (span : Option Text.Span)
  /-- A class extends a class that is not declared. -/
  | unknownParent (className : String) (parent : Spanned String)
  /-- The parents of a class never end. -/
  | inheritanceCycle (className : String) (span : Text.Span)
  /-- A text names no type. -/
  | unknownType (type : Spanned String)
  /-- A parameter has a constant default and nil as default. -/
  | conflictingDefault (name : Spanned String)
  /-- A declaration fails. -/
  | declaration (className : String) (span : Text.Span) (fault : Fault)

namespace ManifestFault

def message : ManifestFault → String
  | notToml | mismatch _ => "failed to parse manifest"
  | invalidName name role _ => "invalid " ++ role.text ++ " name '" ++ name ++ "'"
  | unknownParent className parent =>
    "class '" ++ className ++ "' extends unknown class '" ++ parent.value ++ "'"
  | inheritanceCycle className _ =>
    "class '" ++ className ++ "' is part of an inheritance cycle"
  | unknownType type => "unknown type '" ++ type.value ++ "'"
  | conflictingDefault name =>
    "parameter '" ++ name.value ++ "' sets both 'default' and 'optional'"
  | declaration className _ _ => "invalid declaration in class '" ++ className ++ "'"

/-- The code under which a fault is documented. -/
def code : ManifestFault → String
  | notToml | mismatch _ => "declinit::parse_error"
  | invalidName .. => "declinit::invalid_name"
  | unknownParent .. => "declinit::unknown_parent"
  | inheritanceCycle .. => "declinit::inheritance_cycle"
  | unknownType _ => "declinit::unknown_type"
  | conflictingDefault _ => "declinit::conflicting_default"
  | declaration .. => "declinit::declaration"

/-- Advice on how to mend a fault. -/
def help? : ManifestFault → Option String
  | invalidName .. =>
    some "use only letters, numbers, and underscores, starting with a letter or underscore"
  | unknownType _ =>
    some ("valid types are: any, integer, float, string, bool, coercible_integer " ++
      "(append '?' to allow nil)")
  | conflictingDefault _ =>
    some "'optional = true' means a nil default; drop one of the two"
  | _ => none

/-- The places that a report points at, each with a remark. -/
def labels : ManifestFault → List (String × Text.Span)
  | notToml => []
  | mismatch m => [("parse error here", m.span)]
  | invalidName _ _ span => span.toList.map fun s => ("invalid identifier", s)
  | unknownParent _ parent => [("not declared in this manifest", parent.span)]
  | inheritanceCycle _ span => [("cycle closes here", span)]
  | unknownType type => [("unknown type", type.span)]
  | conflictingDefault name => [("declared here", name.span)]
  | declaration _ span _ => [("declared here", span)]

end ManifestFault

end ClassForge
