import ClassForge.Manifest.Check
import ClassForge.Toml.Reader

/-!
# Reading manifests

## Main definitions

- `Manifest.parse` — the manifest that a text holds, right or wrong
- `Manifest.load` — a manifest that has been checked

## Design notes

A number or a date-time without value does no harm where the schema does not look at it. When the
document is no manifest, though, it is held against the text, whatever else is wrong.
-/

namespace ClassForge.Manifest

def parse (text : String) : Except ManifestFault Manifest :=
  match Toml.read? text.toList with
  | none => .error .notToml
  | some t => (ofDocument t).mapError fun m => if t.datum?.isSome then .mismatch m else .notToml

/-- The manifest that a source holds, checked. -/
def load (s : Source) : Except ManifestFault Manifest := do
  let m ← parse s.text
  m.check s
  return m

end ClassForge.Manifest
