import ClassForge.Proofs.Builder.Changes
import ClassForge.Proofs.Builder.Text
import ClassForge.Proofs.Inheritance.History

/-!
# Classes in step

A class holds its declarations in its builder and what was generated from them in its mixin. Whatever
happens to a family of classes, the two halves of each of them stay in step, so that all that is told
from the builder holds of the constructor that runs.

## Main definitions

- `Class.InStep` — the mixin is the one that the builder installs
- `Class.Coherent` — what that means for source, readers and constructions
- `Builder.Raises` — the faults that fragments of plugins bring in

## Main statements

- `Operation.inStep_apply`, `Family.InStep.step` — what one operation and one action keep
- `History.coherent_of_run` — every class of every family is coherent

## Design notes

The registration of a plugin installs nothing, and need not: it generates nothing by itself. A subclass
takes over both halves, and a declaration that fails leaves both.
-/

namespace ClassForge

/-- The mixin of a class is the one that its builder installs where nothing was installed. -/
def Class.InStep (c : Class) : Prop :=
  c.mixin = c.builder.install .empty

def Family.InStep (f : Family) : Prop :=
  ∀ i c, f.class? i = some c → c.InStep

/-- A statement or a callback that a plugin has emitted fails with the fault. -/
def Builder.Raises (b : Builder) (f : Fault) : Prop :=
  (∃ source run frame, .statement (.custom source run) ∈ b.parts ∧ run frame = .error f) ∨
    ∃ k self, .callback k ∈ b.parts ∧ k.run self = .error f

/-- What is installed in a class, and what can be told from its builder. -/
structure Class.Coherent (c : Class) : Prop where
  mixin : c.mixin = c.builder.install .empty
  readers : c.mixin.readers.names =
    (c.builder.signature.parameters.filter (·.settings.hasReader)).map (·.name)
  constructor : c.mixin.constructor =
    some ⟨c.builder.signature, c.builder.statements, c.builder.tolerance⟩
  hook : c.mixin.hook = c.builder.callbacks
  /-- The source of a class, which is rendered from the builder, is the text of what is installed. -/
  source : c.mixin.source? = some c.source
  definesReader_iff (name : String) :
    c.definesReader name = true ↔ name ∈ c.builder.readerNames.names
  instantiate (args : Args) (r : Except Fault Instance) :
    c.instantiate args = r ↔ c.builder.Makes c.name args r
  /-- A constructor is always there. If it is said not to be, a plugin says so. -/
  installed (args : Args) (name : String) :
    c.instantiate args = .error (.notInstalled name) → c.builder.Raises (.notInstalled name)

/-! ### One operation -/

namespace Class

theorem inStep_withBuilder (name : String) (b : Builder) : (withBuilder name b).InStep := rfl

/-- An installation takes the place of whatever was installed. -/
theorem inStep_reload (c : Class) (b : Builder) : (c.reload b).InStep :=
  b.install_install c.mixin .empty

variable {c : Class}

theorem InStep.subclass (h : c.InStep) (name : String) : (c.subclass name).InStep := h

theorem InStep.register (h : c.InStep) (p : Plugin) : (c.register p).InStep := h

theorem InStep.define (h : c.InStep) (name : String) (settings : Settings) :
    ((c.define name settings).toOption.getD c).InStep := by
  rw [Class.define]
  cases c.builder.define name settings with
  | error f => exact h
  | ok b => exact c.inStep_reload b

end Class

theorem Operation.inStep_apply {c : Class} (h : c.InStep) (op : Operation) :
    (op.apply c).InStep := by
  cases op with
  | param name settings => exact h.define name (settings.option false)
  | option name settings => exact h.define name (settings.option true)
  | register p => exact h.register p
  | tolerance t => exact c.inStep_reload _

theorem Class.InStep.applyAll {c : Class} (h : c.InStep) (ops : List Operation) :
    (c.applyAll ops).InStep := by
  induction ops generalizing c with
  | nil => exact h
  | cons op ops ih => exact ih (op.inStep_apply h)

/-! ### Families -/

theorem Family.InStep.step {f : Family} (hf : f.InStep) (a : Action) : (f.step a).InStep := by
  intro i c hc
  obtain hi | rfl | hi := Nat.lt_trichotomy i f.length
  · rw [class?_step hi, Option.map_eq_some_iff] at hc
    obtain ⟨d, hd, rfl⟩ := hc
    exact (hf i d hd).applyAll _
  · -- The class that the action itself makes, if it makes one.
    cases a with
    | create name b =>
      rw [class?_create, Option.some_inj] at hc
      exact hc ▸ Class.inStep_withBuilder name b
    | subclass name p =>
      rw [class?_subclass, Option.map_eq_some_iff] at hc
      obtain ⟨d, hd, rfl⟩ := hc
      exact (hf p d hd).subclass name
    | on j op =>
      rw [class?_on] at hc
      cases hc
  · rw [class?_eq_none (by simp; omega)] at hc
    cases hc

theorem History.inStep_run (h : History) : h.run.InStep := by
  induction h using List.reverseRecOn with
  | nil => intro i c hc; cases hc
  | append_singleton h a ih => exact run_snoc h a ▸ ih.step a

/-! ### What follows for a class -/

theorem Statement.Does.exists_custom {s : Statement} {frame : Frame} {name : String}
    (h : s.Does frame (.error (.notInstalled name))) :
    ∃ source run, s = .custom source run ∧ run frame = .error (.notInstalled name) := by
  cases h with
  | custom runs => exact ⟨_, _, rfl, runs⟩

/-- Neither the binding of arguments nor the statements of the library say that there is no
constructor. -/
theorem Builder.Makes.raises {b : Builder} {className name : String} {args : Args}
    (h : b.Makes className args (.error (.notInstalled name))) : b.Raises (.notInstalled name) := by
  cases h with
  | refused refuses => cases refuses
  | body _ body =>
    obtain ⟨s, frame, hs, does⟩ := body.exists_of_error
    obtain ⟨source, run, rfl, hrun⟩ := does.exists_custom
    exact .inl ⟨source, run, frame, hs, hrun⟩
  | hook _ _ hook =>
    obtain ⟨k, self, hk, does⟩ := hook.exists_of_error
    exact .inr ⟨k, self, hk, does⟩

namespace Class.InStep

variable {c : Class}

theorem definesReader_iff (h : c.InStep) (name : String) :
    c.definesReader name = true ↔ name ∈ c.builder.readerNames.names := by
  rw [Class.definesReader, h]
  exact NameSet.contains_eq_true_iff

theorem instantiate_eq_iff (h : c.InStep) (args : Args) (r : Except Fault Instance) :
    c.instantiate args = r ↔ c.builder.Makes c.name args r := by
  rw [Class.instantiate, h, Builder.install_instantiate_eq_iff]

end Class.InStep

/-- Whatever was done to a family of classes, what is installed in each of them is what its builder
generates: the readers, the constructor and the hook. So its source shows the constructor that runs,
and there always is one. -/
theorem History.coherent_of_run {h : History} {i : Nat} {c : Class}
    (hc : h.run.class? i = some c) : c.Coherent := by
  have hs : c.InStep := h.inStep_run i c hc
  have hmixin : c.mixin = c.builder.install .empty := hs
  refine ⟨hmixin, ?_, ?_, ?_, ?_, hs.definesReader_iff, hs.instantiate_eq_iff, ?_⟩
  · rw [hmixin]
    exact c.builder.names_readerNames
  · rw [hmixin]
    rfl
  · rw [hmixin]
    rfl
  · rw [hmixin]
    exact c.builder.source?_install .empty
  · intro args name hfault
    exact ((hs.instantiate_eq_iff args _).1 hfault).raises

namespace History

/-- Wants every argument supplied, and mistakes an omitted one for a missing constructor. -/
def presence : Plugin :=
  ⟨"presence", fun name _ => some (.statement (.custom ("present(" ++ name ++ ")?;") fun frame =>
    if (frame.local? name).isSome then .ok frame else .error (.notInstalled frame.className)))⟩

/-- A class that registers a plugin behind its declarations. It applies to those of the subclass, the
first of which fails. -/
def workshop : History :=
  [.create "Base" (Builder.withoutPlugins.register .variableSetter), .on 0 (.param "a" .new),
    .on 0 (.register presence), .subclass "Leaf" 0, .on 3 (.param "a" .new),
    .on 3 (.option "b" ((Settings.new.defaultValue .nil).withReader false)),
    .on 3 (.tolerance .absorb)]

theorem coherent_workshop :
    ∃ c : Class, workshop.run.class? 3 = some c ∧ c.mixin.readers.names = ["a"] ∧
      c.builder.statements.map (·.source) = ["self.a = a;", "self.b = b;", "present(b)?;"] ∧
      (c.instantiate (.ofLists [.nil] [])).map (·.slots.toList) = .error (.notInstalled "Leaf") ∧
      c.Coherent := by
  obtain ⟨c, hc⟩ : ∃ c, workshop.run.class? 3 = some c := ⟨_, rfl⟩
  have h : (workshop.run.class? 3).map (fun c => (c.mixin.readers.names,
        c.builder.statements.map (·.source),
        (c.instantiate (.ofLists [.nil] [])).map (·.slots.toList))) =
      some (["a"], ["self.a = a;", "self.b = b;", "present(b)?;"],
        .error (.notInstalled "Leaf")) := rfl
  rw [hc, Option.map_some, Option.some_inj, Prod.mk.injEq, Prod.mk.injEq] at h
  obtain ⟨hreaders, hstatements, hfault⟩ := h
  exact ⟨c, hc, hreaders, hstatements, hfault, coherent_of_run hc⟩

end History

end ClassForge
