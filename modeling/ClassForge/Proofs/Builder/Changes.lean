import ClassForge.Builder
import ClassForge.Proofs.Builder.Pieces
import ClassForge.Proofs.Construction.Binding
import ClassForge.Proofs.OrderedMap.Repetition
import ClassForge.Proofs.Signature.Declaration
import Mathlib.Data.List.Induction
import Mathlib.Data.List.Infix

/-!
# The history of a builder

A builder is reached by registering plugins, declaring parameters and setting tolerances, in any
order. What it holds then, and what the mixin does that it installs, is read off that history.

## Main definitions

- `Builder.Start`, `Builder.Change` — where a history starts, and what happens in it
- `Builder.Start.run` — the builder that a history leaves
- `Builder.Start.active` — the plugins that are active after a history
- `Builder.Start.declarations` — the declarations that succeed
- `Builder.Makes` — what becomes of a call of the installed constructor

## Main statements

- `Builder.install_instantiate_eq_iff` — a call binds, then runs the statements, then the callbacks
- `Builder.Start.reflects_run` — a builder after its history

## Design notes

Nothing is known of a plugin but its name. One that has the name of an active plugin is without
effect, and the others apply to the declarations behind them.
-/

namespace ClassForge

namespace Builder

/-- The builders that histories start from. -/
inductive Start where
  | withoutPlugins
  | new

/-- One step in the history of a builder. -/
inductive Change where
  | register (p : Plugin)
  | define (p : Parameter)
  | tolerance (t : Tolerance)

namespace Change

def plugin? : Change → Option Plugin
  | register p => some p
  | _ => none

def tolerance? : Change → Option Tolerance
  | tolerance t => some t
  | _ => none

/-- The builder after a change. A declaration that fails leaves the builder as it was. -/
def apply (b : Builder) : Change → Builder
  | register p => b.register p
  | define p => (b.define p.name p.settings).toOption.getD b
  | tolerance t => b.withTolerance t

end Change

/-- A declaration that succeeds, with the plugins that are active when it is made. -/
structure Declaration where
  active : List Plugin
  parameter : Parameter

def Declaration.fragments (d : Declaration) : List Fragment :=
  d.active.filterMap fun p => p.emit d.parameter.name d.parameter.settings

namespace Start

def builder : Start → Builder
  | withoutPlugins => .withoutPlugins
  | new => .new

def plugins : Start → List Plugin
  | withoutPlugins => []
  | new => [.typeConstraint, .variableSetter, .defaultValue]

def run (start : Start) (h : List Change) : Builder :=
  h.foldl Change.apply start.builder

/-- The registered plugins in registration order, without those whose name was taken. -/
def active (start : Start) (h : List Change) : List Plugin :=
  (start.plugins ++ h.filterMap Change.plugin?).eraseDupsBy (·.name == ·.name)

/-- The declaration that a change is behind a history, if it is one and succeeds. -/
def declaration? (start : Start) (h : List Change) : Change → Option Declaration
  | .define p =>
    ((start.run h).define p.name p.settings).toOption.map fun _ => ⟨start.active h, p⟩
  | _ => none

/-- The declarations of a history that succeed, in order. -/
def declarations (start : Start) (h : List Change) : List Declaration :=
  (h.inits.zip h).filterMap fun (before, change) => start.declaration? before change

end Start

/-- The tolerance that was set last. -/
def lastTolerance (h : List Change) : Tolerance :=
  (h.filterMap Change.tolerance?).getLast?.getD .reject

/-- What becomes of a call of the constructor that a builder installs. -/
inductive Makes (b : Builder) (className : String) (args : Args) : Except Fault Instance → Prop
  /-- The arguments cannot be bound. -/
  | refused {f : Fault} (refuses : b.constructor.Refuses className args f) :
      Makes b className args (.error f)
  /-- A statement fails. -/
  | body {f : Fault} (accepts : b.constructor.Accepts args)
      (body : Fragment.Runs .statement Statement.Does b.parts
        (b.constructor.frame ⟨className, b.readerNames, ∅, none⟩ args) (.error f)) :
      Makes b className args (.error f)
  /-- All statements succeed, and the callbacks follow. -/
  | hook {frame : Frame} {r : Except Fault Instance} (accepts : b.constructor.Accepts args)
      (body : Fragment.Runs .statement Statement.Does b.parts
        (b.constructor.frame ⟨className, b.readerNames, ∅, none⟩ args) (.ok frame))
      (hook : Fragment.Runs .callback Callback.Does b.parts frame.self r) :
      Makes b className args r

/-- The state of a builder after a history. -/
structure Start.Reflects (start : Start) (h : List Change) (b : Builder) : Prop where
  plugins : b.plugins.plugins = start.active h
  parameters : b.signature.parameters = (start.declarations h).map (·.parameter)
  /-- Every plugin applies to the declarations that succeed behind its registration, and to no
  others. -/
  parts : b.parts = (start.declarations h).flatMap (·.fragments)
  /-- What is registered or declared later leaves these fragments alone. -/
  kept (later : List Change) : b.parts <+: (start.run (h ++ later)).parts
  tolerance : b.tolerance = lastTolerance h
  /-- Which declaration succeeds does not depend on the plugins. -/
  defines (p : Parameter) : (∃ d, b.define p.name p.settings = .ok d) ↔
    WellDeclared (b.signature.parameters ++ [p])
  instantiate (m : Mixin) (className : String) (args : Args) (r : Except Fault Instance) :
    (b.install m).instantiate className args = r ↔ b.Makes className args r

/-! ### The installed constructor -/

/-- A call of an installed constructor binds its arguments, then runs the statements and then the
callbacks, up to the first fault. -/
theorem install_instantiate_eq_iff {b : Builder} {m : Mixin} {className : String} {args : Args}
    {r : Except Fault Instance} :
    (b.install m).instantiate className args = r ↔ b.Makes className args r := by
  have hcall : (b.install m).instantiate className args =
      b.constructor.bind ⟨className, b.readerNames, ∅, none⟩ args >>= fun frame =>
      Statement.executeAll b.statements frame >>= fun frame =>
      Callback.callAll b.callbacks frame.self := rfl
  rw [hcall]
  -- `b.statements` and `b.callbacks` pick the pieces from `b.parts`, as `runs_statement_iff` and
  -- `runs_callback_iff` have it.
  constructor
  · rintro rfl
    rcases b.constructor.accepts_or_refuses className args with accepts | ⟨f, refuses⟩
    · rw [Constructor.bind_of_accepts accepts, Except.ok_bind]
      cases hbody : Statement.executeAll b.statements
          (b.constructor.frame ⟨className, b.readerNames, ∅, none⟩ args) with
      | error f => exact .body accepts (Fragment.runs_statement_iff.2 hbody)
      | ok frame =>
        exact .hook accepts (Fragment.runs_statement_iff.2 hbody)
          (Fragment.runs_callback_iff.2 rfl)
    · rw [Constructor.bind_of_refuses refuses]
      exact .refused refuses
  · intro h
    cases h with
    | refused refuses =>
      rw [Constructor.bind_of_refuses refuses]
      rfl
    | body accepts body =>
      have hbody : Statement.executeAll b.statements _ = _ := Fragment.runs_statement_iff.1 body
      rw [Constructor.bind_of_accepts accepts, Except.ok_bind, hbody]
      rfl
    | hook accepts body hook =>
      have hbody : Statement.executeAll b.statements _ = _ := Fragment.runs_statement_iff.1 body
      rw [Constructor.bind_of_accepts accepts, Except.ok_bind, hbody]
      exact Fragment.runs_callback_iff.1 hook

/-! ### One more change -/

/-- A declaration changes neither the plugins nor the tolerance. -/
theorem Change.apply_define (b : Builder) (p : Parameter) :
    (apply b (.define p)).plugins = b.plugins ∧ (apply b (.define p)).tolerance = b.tolerance := by
  rw [apply]
  cases hd : b.define p.name p.settings with
  | error f => exact ⟨rfl, rfl⟩
  | ok d =>
    obtain ⟨s, _, rfl⟩ := Except.map_eq_ok_iff.1 hd
    exact ⟨rfl, rfl⟩

theorem zip_inits_append_singleton {α : Type} (l : List α) (a : α) :
    (l ++ [a]).inits.zip (l ++ [a]) = l.inits.zip l ++ [(l, a)] := by
  induction l with
  | nil => rfl
  | cons b l ih =>
    simp only [List.cons_append, List.inits_cons, List.zip_cons_cons, List.zip_map_left, ih,
      List.map_append, List.map_cons, List.map_nil, Prod.map, id]

namespace Start

variable (start : Start) (h : List Change) (c : Change)

theorem run_append_singleton : start.run (h ++ [c]) = c.apply (start.run h) := by
  rw [run, List.foldl_append]
  rfl

theorem active_append_singleton :
    start.active (h ++ [c]) =
      match c.plugin? with
      | none => start.active h
      | some p =>
        if (start.active h).any (p.name == ·.name) then start.active h
        else start.active h ++ [p] := by
  rw [active, List.filterMap_append, ← List.append_assoc]
  cases hp : c.plugin? with
  | none =>
    rw [List.filterMap_cons_none hp, List.filterMap_nil, List.append_nil]
    rfl
  | some p =>
    rw [List.filterMap_cons_some hp, List.filterMap_nil, eraseDupsBy_append_singleton]
    rfl

theorem declarations_append_singleton :
    start.declarations (h ++ [c]) = start.declarations h ++ (start.declaration? h c).toList := by
  rw [declarations, zip_inits_append_singleton, List.filterMap_append]
  cases hc : start.declaration? h c <;> simp [declarations, hc]

theorem declarations_isPrefix_append (later : List Change) :
    start.declarations h <+: start.declarations (h ++ later) := by
  induction later using List.reverseRecOn with
  | nil => rw [List.append_nil]
  | append_singleton later c ih =>
    rw [← List.append_assoc, declarations_append_singleton]
    exact ih.trans (List.prefix_append ..)

/-! ### The whole history -/

theorem plugins_run : (start.run h).plugins.plugins = start.active h := by
  induction h using List.reverseRecOn with
  | nil => cases start <;> rfl
  | append_singleton h c ih =>
    rw [run_append_singleton, active_append_singleton]
    cases c with
    | register p =>
      have hc : (start.run h).plugins.contains p.name =
          (start.active h).any (p.name == ·.name) := by
        rw [← ih, PluginSet.contains, PluginSet.names, List.contains_map]
      rw [Change.apply, register, PluginSet.plugins_register, hc, ih]
      rfl
    | define p => exact (congrArg _ (Change.apply_define _ p).1).trans ih
    | tolerance t => exact ih

theorem parameters_and_parts_run :
    (start.run h).signature.parameters = (start.declarations h).map (·.parameter) ∧
      (start.run h).parts = (start.declarations h).flatMap (·.fragments) := by
  induction h using List.reverseRecOn with
  | nil => cases start <;> exact ⟨rfl, rfl⟩
  | append_singleton h c ih =>
    rw [run_append_singleton, declarations_append_singleton, List.map_append,
      List.flatMap_append, ← ih.1, ← ih.2]
    cases c with
    | register p | tolerance t => simp [Change.apply, declaration?, register, withTolerance]
    | define p =>
      rw [Change.apply, declaration?]
      cases hd : (start.run h).define p.name p.settings with
      | error f => simp [Except.toOption]
      | ok d =>
        -- By `plugins_run` the builder emits with the plugins that the history makes active.
        obtain ⟨s, hs, rfl⟩ := Except.map_eq_ok_iff.1 hd
        simp [Except.toOption, Signature.parameters_of_add hs, Declaration.fragments,
          PluginSet.emitAll, plugins_run]

theorem tolerance_run : (start.run h).tolerance = lastTolerance h := by
  induction h using List.reverseRecOn with
  | nil => cases start <;> rfl
  | append_singleton h c ih =>
    rw [run_append_singleton, lastTolerance, List.filterMap_append, List.getLast?_append]
    cases c with
    | register p => exact ih
    | define p => exact (Change.apply_define _ p).2.trans ih
    | tolerance t => rfl

/-- The active plugins of a builder are the registered ones, the first of each name. Its signature
and its fragments are those of the declarations that succeeded, each with what the plugins active at
its time emit, and its tolerance was set last. The mixin that it installs runs the statements among
the fragments before the callbacks. -/
theorem reflects_run : start.Reflects h (start.run h) where
  plugins := start.plugins_run h
  parameters := (start.parameters_and_parts_run h).1
  parts := (start.parameters_and_parts_run h).2
  kept later := by
    rw [(start.parameters_and_parts_run h).2, (start.parameters_and_parts_run _).2]
    exact (start.declarations_isPrefix_append h later).flatMap _
  tolerance := start.tolerance_run h
  defines p := by
    rw [← Signature.exists_add_eq_ok_iff, define]
    constructor
    · rintro ⟨d, hd⟩
      obtain ⟨s, hs, _⟩ := Except.map_eq_ok_iff.1 hd
      exact ⟨s, hs⟩
    · rintro ⟨s, hs⟩
      exact ⟨_, Except.map_eq_ok_iff.2 ⟨s, hs, rfl⟩⟩
  instantiate _ _ _ _ := install_instantiate_eq_iff

/-- Writes behind what the slot `"log"` holds. -/
def note (entry : String) (self : Instance) : Instance :=
  let entries := match self.slots.get? "log" with
    | some (.list entries) => entries
    | _ => []
  { self with slots := self.slots.insert "log" (.list (entries ++ [.str entry])) }

/-- Notes a parameter in the body, and wants it supplied. -/
def enter : Plugin :=
  ⟨"enter", fun name _ => some (.statement (.custom ("log.enter(" ++ name ++ ")?;") fun frame =>
    if (frame.locals.get? name).isSome then
      .ok { frame with self := note ("enter " ++ name) frame.self }
    else .error (.missingArgument frame.self.className name .keyword)))⟩

/-- Notes a parameter behind the body. -/
def leave : Plugin :=
  ⟨"leave", fun name _ => some (.callback ⟨"log.leave(" ++ name ++ ");", fun self =>
    .ok (note ("leave " ++ name) self)⟩)⟩

/-- Has the name of another plugin. -/
def impostor : Plugin :=
  ⟨"enter", fun name _ => some (.statement (.assign name))⟩

/-- The name `"a"` is declared twice, and a plugin is registered behind both declarations. -/
def ledger : List Change :=
  [.register enter, .register leave, .define ⟨"a", .new⟩, .register impostor, .define ⟨"a", .new⟩,
    .register .variableSetter, .define ⟨"b", Settings.new.defaultValue .nil⟩, .tolerance .absorb,
    .tolerance .ignore]

/-- Statements and callbacks alternate among the fragments, and both statements run before the first
callback. A statement that fails is the end of it. -/
theorem reflects_ledger :
    (withoutPlugins.run ledger).plugins.names = ["enter", "leave", "variable_setter"] ∧
      (withoutPlugins.run ledger).parts.map (·.source) =
        ["log.enter(a)?;", "log.leave(a);", "log.enter(b)?;", "log.leave(b);", "self.b = b;"] ∧
      (∃ self : Instance,
        self.slots.toList =
          [("log", .list [.str "enter a", .str "enter b", .str "leave a", .str "leave b"]),
            ("b", .int 2)] ∧
        (withoutPlugins.run ledger).Makes "Ledger" (.ofLists [.int 1, .int 2] []) (.ok self)) ∧
      (withoutPlugins.run ledger).Makes "Ledger" (.ofLists [.int 1] [])
        (.error (.missingArgument "Ledger" "b" .keyword)) := by
  have hmakes := (withoutPlugins.reflects_run ledger).instantiate .empty "Ledger"
  have hlog : (((withoutPlugins.run ledger).install .empty).instantiate "Ledger"
        (.ofLists [.int 1, .int 2] [])).map (·.slots.toList) =
      .ok [("log", .list [.str "enter a", .str "enter b", .str "leave a", .str "leave b"]),
        ("b", .int 2)] := rfl
  obtain ⟨self, hself, hslots⟩ := Except.map_eq_ok_iff.1 hlog
  exact ⟨rfl, rfl, ⟨self, hslots, (hmakes _ _).1 hself⟩, (hmakes _ _).1 rfl⟩

-- A plugin does nothing for what was declared before it.
example : ((withoutPlugins.run [.define ⟨"foo", .new⟩, .register .variableSetter,
    .define ⟨"bar", .new⟩]).parts.map (·.source)) = ["self.bar = bar;"] := by
  rfl

end Start

end Builder

end ClassForge
