import ClassForge.Builder.Source

/-!
# Classes

A class whose constructor is generated from its declarations, with inheritance.

## Main definitions

- `Class` — name, ancestors, builder and mixin
- `Class.param`, `Class.option` — declares a positional and a keyword parameter
- `Class.subclass` — a class that starts from the declarations so far
- `Class.instantiate` — runs the generated constructor

## Design notes

Every declaration replaces the builder and installs it again. A subclass starts with the builder of
its parent. As builders are values, neither ever reaches the declarations of the other.
-/

namespace ClassForge

/-- A class with a generated constructor. -/
structure Class where
  name : String
  /-- Parent, grandparent and so on. -/
  ancestors : List String
  builder : Builder
  mixin : Mixin

namespace Class

def withBuilder (name : String) (b : Builder) : Class :=
  ⟨name, [], b, b.install .empty⟩

/-- A root class with the standard plugins and no parameters. -/
def new (name : String) : Class :=
  withBuilder name .new

/-- A class that inherits the declarations so far. -/
def subclass (c : Class) (name : String) : Class :=
  ⟨name, c.name :: c.ancestors, c.builder, c.mixin⟩

def reload (c : Class) (b : Builder) : Class :=
  { c with builder := b, mixin := b.install c.mixin }

def define (c : Class) (name : String) (settings : Settings) : Except Fault Class :=
  (c.builder.define name settings).map c.reload

def param (c : Class) (name : String) (settings : Settings) : Except Fault Class :=
  c.define name (settings.option false)

def option (c : Class) (name : String) (settings : Settings) : Except Fault Class :=
  c.define name (settings.option true)

/-- Registers a plugin for the declarations that follow. -/
def register (c : Class) (p : Plugin) : Class :=
  { c with builder := c.builder.register p }

def withTolerance (c : Class) (t : Tolerance) : Class :=
  c.reload (c.builder.withTolerance t)

def instantiate (c : Class) (args : Args) : Except Fault Instance :=
  c.mixin.instantiate c.name args

/-- The parent, if the class has one. -/
def parent? (c : Class) : Option String :=
  c.ancestors.head?

def tolerance (c : Class) : Tolerance :=
  c.builder.tolerance

def definesReader (c : Class) (name : String) : Bool :=
  c.mixin.definesReader name

def source (c : Class) : String :=
  c.builder.source

def inspect (c : Class) : String :=
  Inspect.record "Class" [
    ("name", Text.quoted c.name),
    ("ancestors", Inspect.sequence (c.ancestors.map Text.quoted)),
    ("builder", c.builder.inspect),
    ("mixin", c.mixin.inspect)]

end Class

end ClassForge
