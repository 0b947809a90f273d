import ClassForge.Capability
import ClassForge.Instance
import ClassForge.ParameterKind

/-!
# Settings

How one parameter is declared.

## Main definitions

- `DefaultFn` — a default, computed from the instance as assigned so far
- `Settings` — kind, default, type and reader of a parameter
-/

namespace ClassForge

/-- A default. It receives the instance as assigned so far, so it may depend on other parameters. -/
abbrev DefaultFn := Instance → Value

/-- The settings of a declared parameter. -/
structure Settings where
  kind : ParameterKind
  defaultFn : Option DefaultFn
  type : Option Capability
  /-- Whether a reader is wanted, if that was said. -/
  reader : Option Bool

namespace Settings

/-- A positional parameter without default and type. -/
def new : Settings :=
  ⟨.positional, none, none, none⟩

instance : Inhabited Settings := ⟨new⟩

/-- Makes the parameter a keyword or a positional one. -/
def option (s : Settings) (isKeyword : Bool) : Settings :=
  { s with kind := if isKeyword then .keyword else .positional }

def defaultWith (s : Settings) (f : DefaultFn) : Settings :=
  { s with defaultFn := some f }

def defaultValue (s : Settings) (v : Value) : Settings :=
  s.defaultWith fun _ => v

def ofType (s : Settings) (type : Capability) : Settings :=
  { s with type := some type }

def withReader (s : Settings) (reader : Bool) : Settings :=
  { s with reader := some reader }

def hasDefault (s : Settings) : Bool :=
  s.defaultFn.isSome

/-- A reader is generated unless it was said not to be wanted. -/
def hasReader (s : Settings) : Bool :=
  s.reader != some false

/-- The inspection text. A default shows only that it exists. -/
def inspect (s : Settings) : String :=
  Inspect.record "Settings" [
    ("kind", s.kind.inspect),
    ("default", Inspect.optional (s.defaultFn.map fun _ => Text.quoted "..")),
    ("type", Inspect.optional (s.type.map fun t => Text.quoted t.name)),
    ("reader", Inspect.optional (s.reader.map Value.boolText))]

end Settings

end ClassForge
