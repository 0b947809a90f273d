import ClassForge.Fault
import ClassForge.NameSet
import ClassForge.Value.Json

/-!
# Instances

The objects that constructors make.

## Main definitions

- `Instance` — class name, readers, slots and the unknown options that were kept
- `Instance.read` — calling a reader
- `Instance.setSlot`, `Instance.unsetSlot` — slot access, whether or not there is a reader
- `Instance.toJson` — the readable slots in the order of the readers

## Design notes

A slot that is absent is unset. That is how a default tells an omitted argument from a nil that was
passed.
-/

namespace ClassForge

/-- An object made by a constructor. -/
structure Instance where
  className : String
  /-- The names that can be read from outside. -/
  readers : NameSet
  /-- The assigned parameters, readable or not. -/
  slots : OrderedMap Value
  /-- The undeclared keyword arguments, if the constructor keeps them. -/
  unknownOptions : Option (OrderedMap Value)

namespace Instance

def new (className : String) (readers : NameSet) : Instance :=
  ⟨className, readers, ∅, none⟩

/-- Whether there is a reader named `name`. -/
def respondsTo (self : Instance) (name : String) : Bool :=
  self.readers.contains name

/-- The value in a slot, if it is set. -/
def slot? (self : Instance) (name : String) : Option Value :=
  self.slots.get? name

def isSet (self : Instance) (name : String) : Bool :=
  self.slots.contains name

/-- Calls a reader. An unset slot reads as nil. -/
def read (self : Instance) (name : String) : Except Fault Value :=
  if self.respondsTo name then .ok ((self.slot? name).getD .nil)
  else .error (.noSuchReader self.className name)

def setSlot (self : Instance) (name : String) (v : Value) : Instance :=
  { self with slots := self.slots.insert name v }

def unsetSlot (self : Instance) (name : String) : Instance :=
  { self with slots := self.slots.erase name }

def setUnknownOptions (self : Instance) (options : OrderedMap Value) : Instance :=
  { self with unknownOptions := some options }

/-- The readable slots as a JSON document, in the order of the readers. -/
def toJson (self : Instance) : Json :=
  .obj (self.readers.names.map fun name => (name, ((self.slot? name).getD .nil).toJson))

def json (self : Instance) : String :=
  String.ofList self.toJson.write

/-- The JSON text with one slot per line. -/
def prettyJson (self : Instance) : String :=
  String.ofList (self.toJson.writePretty 0)

/-- The inspection text of a map of values. -/
def inspectMap (m : OrderedMap Value) : String :=
  Inspect.table (m.toList.map fun e => (Text.quoted e.1, e.2.inspect))

def inspect (self : Instance) : String :=
  Inspect.record "Instance" [
    ("class", Text.quoted self.className),
    ("readers", Inspect.group (self.readers.names.map Text.quoted)),
    ("slots", inspectMap self.slots),
    ("unknown_options", Inspect.optional (self.unknownOptions.map inspectMap))]

end Instance

end ClassForge
