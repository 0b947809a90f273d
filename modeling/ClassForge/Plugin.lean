import ClassForge.Fragment
import ClassForge.Settings

/-!
# Plugins

A plugin turns the declaration of a parameter into at most one constructor fragment.

## Main definitions

- `Plugin` — a name and the fragment it emits for a declaration
- `PluginSet` — plugins with distinct names in registration order
- `Plugin.typeConstraint`, `variableSetter`, `defaultValue` — the standard plugins
- `PluginSet.standard` — the three of them in this order

## Main statements

- `PluginSet.plugins_register` — a name that is taken is not registered again
-/

namespace ClassForge

/-- A strategy that is applied to every declared parameter. -/
structure Plugin where
  name : String
  /-- The fragment for the declaration of a name with settings, if there is one. -/
  emit : String → Settings → Option Fragment

namespace Plugin

/-- Passes a supplied argument through the declared type. -/
def typeConstraint : Plugin :=
  ⟨"type_constraint", fun name settings =>
    settings.type.map fun type => .statement (.coerce name type)⟩

/-- Stores every argument in the slot of the same name. -/
def variableSetter : Plugin :=
  ⟨"variable_setter", fun name _ => some (.statement (.assign name))⟩

/-- The callback that fills the slot of an omitted argument. A slot that is set is kept. -/
def fillSlot (name : String) (default : DefaultFn) : Callback :=
  ⟨"self." ++ name ++ ".get_or_insert_with(default_" ++ name ++ ");", fun self =>
    if self.isSet name then .ok self else .ok (self.setSlot name (default self))⟩

/-- Computes the defaults of omitted arguments. It emits a callback, so that a default sees all
supplied arguments, and the defaults declared before it. -/
def defaultValue : Plugin :=
  ⟨"default_value", fun name settings =>
    settings.defaultFn.map fun default => .callback (fillSlot name default)⟩

end Plugin

/-- Plugins with distinct names in registration order. -/
structure PluginSet where
  plugins : List Plugin
  distinct : (plugins.map Plugin.name).Nodup

namespace PluginSet

def empty : PluginSet :=
  ⟨[], List.nodup_nil⟩

instance : Inhabited PluginSet := ⟨empty⟩

def names (s : PluginSet) : List String :=
  s.plugins.map Plugin.name

/-- Whether a plugin with this name is registered. -/
def contains (s : PluginSet) (name : String) : Bool :=
  s.names.contains name

def size (s : PluginSet) : Nat :=
  s.plugins.length

/-- Registers a plugin behind the others, unless its name is taken. -/
def register (s : PluginSet) (p : Plugin) : PluginSet :=
  if h : s.contains p.name = true then s
  else ⟨s.plugins ++ [p], by
    rw [List.map_append, List.nodup_append]
    refine ⟨s.distinct, by simp, ?_⟩
    intro a ha b hb e
    have hb : b = p.name := by simpa using hb
    exact h (by simpa [contains, names, ← hb, ← e] using ha)⟩

/-- The fragments that the plugins emit for one declaration, in registration order. -/
def emitAll (s : PluginSet) (name : String) (settings : Settings) : List Fragment :=
  s.plugins.filterMap fun p => p.emit name settings

def standard : PluginSet :=
  ((empty.register .typeConstraint).register .variableSetter).register .defaultValue

@[ext] theorem ext {s t : PluginSet} (h : s.plugins = t.plugins) : s = t := by
  cases s; cases t; cases h; rfl

/-- A plugin is appended, or its name is taken and nothing changes. -/
theorem plugins_register (s : PluginSet) (p : Plugin) :
    (s.register p).plugins = if s.contains p.name then s.plugins else s.plugins ++ [p] := by
  rw [register]
  split <;> simp_all

def inspect (s : PluginSet) : String :=
  Inspect.sequence (s.names.map Text.quoted)

end PluginSet

end ClassForge
