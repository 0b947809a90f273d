import ClassForge.Mixin
import ClassForge.Plugin

/-!
# Builders

A builder gathers declarations and generates the constructor, the readers and the hook from them. It
is a value: every operation gives a new builder.

## Main definitions

- `Builder` — signature, plugins, the fragments emitted so far and the tolerance
- `Builder.define` — one more declaration
- `Builder.install` — puts the generated definitions into a mixin

## Main statements

- `Builder.install_install` — an installation replaces all that was installed before
-/

namespace ClassForge

/-- The declarations of a class and what they generate. -/
structure Builder where
  signature : Signature
  plugins : PluginSet
  /-- The emitted fragments, in the order of the declarations. -/
  parts : List Fragment
  tolerance : Tolerance

namespace Builder

/-- The builder without plugins. Its parameters get readers, but no assignments. -/
def withoutPlugins : Builder :=
  ⟨.empty, .empty, [], .reject⟩

/-- Registers a plugin for the declarations that follow. -/
def register (b : Builder) (p : Plugin) : Builder :=
  { b with plugins := b.plugins.register p }

def new : Builder :=
  ((withoutPlugins.register .typeConstraint).register .variableSetter).register .defaultValue

instance : Inhabited Builder := ⟨new⟩

def withTolerance (b : Builder) (t : Tolerance) : Builder :=
  { b with tolerance := t }

/-- Declares a parameter: it is added to the signature, and the fragments that the plugins emit for
it are added to the parts. -/
def define (b : Builder) (name : String) (settings : Settings) : Except Fault Builder :=
  (b.signature.add name settings).map fun signature =>
    { b with signature, parts := b.parts ++ b.plugins.emitAll name settings }

/-- The names of the parameters that get a reader. -/
def readerNames (b : Builder) : NameSet :=
  .ofList ((b.signature.parameters.filter (·.settings.hasReader)).map (·.name))

/-- Readers stand in declaration order. -/
theorem names_readerNames (b : Builder) :
    b.readerNames.names = (b.signature.parameters.filter (·.settings.hasReader)).map (·.name) :=
  NameSet.names_ofList (b.signature.wellDeclared.distinct.sublist (List.filter_sublist.map _))

def statements (b : Builder) : List Statement :=
  b.parts.filterMap (·.statement?)

def callbacks (b : Builder) : List Callback :=
  b.parts.filterMap (·.callback?)

def constructor (b : Builder) : Constructor :=
  ⟨b.signature, b.statements, b.tolerance⟩

/-- Installs the readers, the constructor and the hook, each in place of an earlier one. -/
def install (b : Builder) (m : Mixin) : Mixin :=
  { m with readers := b.readerNames, constructor := some b.constructor, hook := b.callbacks }

/-- An installation replaces all that was installed before. -/
theorem install_install (b : Builder) (m n : Mixin) : b.install m = b.install n := rfl

/-- The formal parameter list, with the catch-all behind it when undeclared keywords are
accepted. -/
def parameterList (b : Builder) : String :=
  let params := b.signature.parameterList
  match b.tolerance.catchAll with
  | none => params
  | some rest => if params.isEmpty then rest else params ++ ", " ++ rest

def inspect (b : Builder) : String :=
  Inspect.record "Builder" [
    ("signature", b.signature.inspect),
    ("plugins", b.plugins.inspect),
    ("parts", Inspect.sequence (b.parts.map (·.inspect))),
    ("tolerance", b.tolerance.inspect)]

end Builder

end ClassForge
