import ClassForge.Class
import ClassForge.Proofs.Outcome

/-!
# Classes with the standard plugins

What the standard plugins make of declarations. Every class that is reached with them alone has one
type check and one assignment for each parameter in its body, and one default in its hook.

## Main definitions

- `Builder.Standard`, `Class.Standard` — what is reached with the standard plugins only
- `Parameter.body` — the statements for a parameter
- `Parameter.fallback?` — the callback for a parameter

## Main statements

- `Builder.Standard.statements_eq`, `Builder.Standard.callbacks_eq` — the fragments of a builder, read
  off its signature
- `Class.Standard.mixin_eq` — what is installed is what the builder generates

## Design notes

A plugin under the name of a standard one may be registered: the name is taken, so nothing changes.
-/

namespace ClassForge

/-- The builders that are reached from the standard one by declarations and tolerances. -/
inductive Builder.Standard : Builder → Prop
  | new : Standard .new
  | define {b d : Builder} {name : String} {settings : Settings} :
      Standard b → b.define name settings = .ok d → Standard d
  | register {b : Builder} {p : Plugin} :
      Standard b → p.name ∈ PluginSet.standard.names → Standard (b.register p)
  | withTolerance {b : Builder} (t : Tolerance) : Standard b → Standard (b.withTolerance t)

/-- The classes that are reached with the standard plugins only: root classes, subclasses at any
depth, declarations that succeed, and tolerances. -/
inductive Class.Standard : Class → Prop
  | root {b : Builder} (name : String) : b.Standard → Standard (.withBuilder name b)
  | subclass {c : Class} (name : String) : Standard c → Standard (c.subclass name)
  | param {c d : Class} {name : String} {settings : Settings} :
      Standard c → c.param name settings = .ok d → Standard d
  | option {c d : Class} {name : String} {settings : Settings} :
      Standard c → c.option name settings = .ok d → Standard d
  | register {c : Class} {p : Plugin} :
      Standard c → p.name ∈ PluginSet.standard.names → Standard (c.register p)
  | withTolerance {c : Class} (t : Tolerance) : Standard c → Standard (c.withTolerance t)

namespace Parameter

/-- The statements for a parameter: the type check, if it has a type, and the assignment. -/
def body (p : Parameter) : List Statement :=
  (p.settings.type.map (.coerce p.name)).toList ++ [.assign p.name]

/-- The callback for a parameter, if it has a default. -/
def fallback? (p : Parameter) : Option Callback :=
  p.settings.defaultFn.map (Plugin.fillSlot p.name)

end Parameter

namespace PluginSet

/-- The standard plugins emit the type check, the assignment and the default, in this order. -/
theorem emitAll_standard (name : String) (settings : Settings) :
    standard.emitAll name settings =
      (settings.type.map fun t => .statement (.coerce name t)).toList ++
        .statement (.assign name) ::
          (settings.defaultFn.map fun f => .callback (Plugin.fillSlot name f)).toList := by
  have hp : standard.plugins = [.typeConstraint, .variableSetter, .defaultValue] := by
    simp [standard, plugins_register, contains, names, empty, Plugin.typeConstraint,
      Plugin.variableSetter, Plugin.defaultValue]
  rw [emitAll, hp]
  cases ht : settings.type <;> cases hd : settings.defaultFn <;>
    simp [Plugin.typeConstraint, Plugin.variableSetter, Plugin.defaultValue, ht, hd]

theorem statements_emitAll_standard (p : Parameter) :
    (standard.emitAll p.name p.settings).filterMap (·.statement?) = p.body := by
  rw [emitAll_standard, Parameter.body]
  cases p.settings.type <;> cases p.settings.defaultFn <;> rfl

theorem callbacks_emitAll_standard (p : Parameter) :
    (standard.emitAll p.name p.settings).filterMap (·.callback?) = p.fallback?.toList := by
  rw [emitAll_standard, Parameter.fallback?]
  cases p.settings.type <;> cases p.settings.defaultFn <;> rfl

end PluginSet

namespace Builder

/-- A name that is taken is not registered. -/
theorem register_of_mem {b : Builder} {p : Plugin} (h : p.name ∈ b.plugins.names) :
    b.register p = b := by
  have hc : b.plugins.contains p.name = true := by simpa [PluginSet.contains] using h
  have : b.plugins.register p = b.plugins := PluginSet.ext (by simp [PluginSet.plugins_register, hc])
  simp [register, this]

namespace Standard

variable {b : Builder}

theorem plugins_eq (h : b.Standard) : b.plugins = .standard := by
  induction h with
  | new => rfl
  | define _ hd ih =>
    obtain ⟨s, _, rfl⟩ := Except.map_eq_ok_iff.1 hd
    exact ih
  | register _ hp ih => rwa [register_of_mem (ih.symm ▸ hp)]
  | withTolerance _ _ ih => exact ih

/-- The body has the statements for every parameter, in declaration order. -/
theorem statements_eq (h : b.Standard) :
    b.statements = b.signature.parameters.flatMap (·.body) := by
  induction h with
  | new => rfl
  | @define b _ name settings hb hd ih =>
    obtain ⟨s, hs, rfl⟩ := Except.map_eq_ok_iff.1 hd
    have hp := PluginSet.statements_emitAll_standard ⟨name, settings⟩
    rw [Signature.parameters_of_add hs, List.flatMap_append, ← ih, statements, statements,
      List.filterMap_append, hb.plugins_eq, hp, List.flatMap_singleton]
  | register hb hp ih => rwa [register_of_mem (hb.plugins_eq.symm ▸ hp)]
  | withTolerance _ _ ih => exact ih

/-- The hook has the default of every parameter that has one, in declaration order. -/
theorem callbacks_eq (h : b.Standard) :
    b.callbacks = b.signature.parameters.filterMap (·.fallback?) := by
  induction h with
  | new => rfl
  | @define b _ name settings hb hd ih =>
    obtain ⟨s, hs, rfl⟩ := Except.map_eq_ok_iff.1 hd
    have hp := PluginSet.callbacks_emitAll_standard ⟨name, settings⟩
    have hs' : [(⟨name, settings⟩ : Parameter)].filterMap (·.fallback?) =
        (Parameter.fallback? ⟨name, settings⟩).toList := by
      cases h : Parameter.fallback? ⟨name, settings⟩ <;> simp [h]
    rw [Signature.parameters_of_add hs, List.filterMap_append, ← ih, callbacks, callbacks,
      List.filterMap_append, hb.plugins_eq, hp, hs']
  | register hb hp ih => rwa [register_of_mem (hb.plugins_eq.symm ▸ hp)]
  | withTolerance _ _ ih => exact ih

end Standard

end Builder

namespace Class.Standard

variable {c : Class}

/-- The builder is reached with the standard plugins, and the mixin holds what it generates. -/
theorem builder_and_mixin (h : c.Standard) :
    c.builder.Standard ∧ c.mixin = c.builder.install .empty := by
  induction h with
  | root _ hb => exact ⟨hb, rfl⟩
  | subclass _ _ ih => exact ih
  | param _ hd ih | option _ hd ih =>
    obtain ⟨b, hb, rfl⟩ := Except.map_eq_ok_iff.1 hd
    exact ⟨ih.1.define hb, rfl⟩
  | @register c p _ hp ih =>
    have hr : c.builder.register p = c.builder :=
      Builder.register_of_mem (ih.1.plugins_eq.symm ▸ hp)
    simpa only [Class.register, hr] using ih
  | withTolerance t _ ih => exact ⟨ih.1.withTolerance t, rfl⟩

theorem builder_standard (h : c.Standard) : c.builder.Standard :=
  h.builder_and_mixin.1

/-- What is installed is what the builder generates. -/
theorem mixin_eq (h : c.Standard) : c.mixin = c.builder.install .empty :=
  h.builder_and_mixin.2

/-- An instance is made by binding the arguments, running the statements for all parameters, and
then computing the defaults. -/
theorem instantiate_eq (h : c.Standard) (args : Args) :
    c.instantiate args =
      c.builder.constructor.bind (.new c.name c.builder.readerNames) args >>= fun frame =>
      Statement.executeAll (c.builder.signature.parameters.flatMap (·.body)) frame >>= fun frame =>
      Callback.callAll (c.builder.signature.parameters.filterMap (·.fallback?)) frame.self := by
  rw [instantiate, h.mixin_eq, ← h.builder_standard.statements_eq,
    ← h.builder_standard.callbacks_eq]
  rfl

end Class.Standard

end ClassForge
