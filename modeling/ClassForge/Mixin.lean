import ClassForge.Constructor

/-!
# Mixins

Where a builder installs what it generates, and from where instances are made.

## Main definitions

- `Mixin` — readers, constructor and after-initialize hook
- `Mixin.instantiate` — runs the installed constructor and then the hook
-/

namespace ClassForge

/-- The installed definitions of a class. -/
structure Mixin where
  readers : NameSet
  constructor : Option Constructor
  /-- The callbacks of the after-initialize hook. -/
  hook : List Callback

namespace Mixin

/-- The mixin in which nothing is installed. -/
def empty : Mixin :=
  ⟨∅, none, []⟩

instance : Inhabited Mixin := ⟨empty⟩

def definesReader (m : Mixin) (name : String) : Bool :=
  m.readers.contains name

/-- Makes an instance of a class: binds the arguments, runs the statements and then the hook, up to
the first fault. -/
def instantiate (m : Mixin) (className : String) (args : Args) : Except Fault Instance :=
  match m.constructor with
  | none => .error (.notInstalled className)
  | some c => do
    let frame ← c.bind (Instance.new className m.readers) args
    let frame ← Statement.executeAll c.statements frame
    Callback.callAll m.hook frame.self

def inspect (m : Mixin) : String :=
  Inspect.record "Mixin" [
    ("readers", Inspect.group (m.readers.names.map Text.quoted)),
    ("constructor", Inspect.optional (m.constructor.map (·.inspect))),
    ("after_initialize", Inspect.sequence (m.hook.map (·.inspect)))]

end Mixin

end ClassForge
