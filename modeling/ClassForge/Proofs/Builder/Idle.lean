import ClassForge.Proofs.Builder.Changes

/-!
# Plugins that do nothing

A plugin may emit nothing at all, or only fragments that succeed and leave everything as it was, for
instance to show a line in rendered source. Wherever in the history of a builder such a plugin is
registered, the constructor does the same.

## Main definitions

- `Fragment.IsIdle`, `Plugin.IsIdle` — fragments and plugins that do nothing
- `List.AlikeBut` — lists that differ by elements of a kind
- `Builder.outcomes` — which declarations of a history succeed, and the faults of the others
- `Builder.Indistinct` — builders that install constructors of the same effect

## Main statements

- `List.AlikeBut.foldlM_eq` — a loop does not notice elements that do nothing
- `Builder.AlikeBut.apply` — builders that differ by an idle plugin still do so after a change
- `Builder.applyAll_register_of_isIdle` — an idle plugin can be registered at any point

## Design notes

Registered plugins are told apart by their names. A plugin of the same name that comes later would
not be registered any more, so that there must be none.
-/

namespace ClassForge

/-- A fragment that succeeds and changes nothing. -/
def Fragment.IsIdle : Fragment → Prop
  | statement s => ∀ f, s.execute f = .ok f
  | callback c => ∀ self, c.call self = .ok self

/-- A plugin that emits idle fragments only, or none. -/
def Plugin.IsIdle (p : Plugin) : Prop :=
  ∀ name settings, ∀ a ∈ p.emit name settings, a.IsIdle

end ClassForge

/-! ### Lists -/

namespace List

variable {α β ε σ : Type} {idle : α → Prop} {l l' r r' : List α}

/-- Lists that are the same but for idle elements in either of them. -/
inductive AlikeBut (idle : α → Prop) : List α → List α → Prop
  | nil : AlikeBut idle [] []
  | cons (a : α) {l l' : List α} (rest : AlikeBut idle l l') : AlikeBut idle (a :: l) (a :: l')
  | left {a : α} {l l' : List α} (isIdle : idle a) (rest : AlikeBut idle l l') :
      AlikeBut idle (a :: l) l'
  | right {a : α} {l l' : List α} (isIdle : idle a) (rest : AlikeBut idle l l') :
      AlikeBut idle l (a :: l')

namespace AlikeBut

theorem refl (idle : α → Prop) : ∀ l : List α, AlikeBut idle l l
  | [] => .nil
  | a :: l => .cons a (refl idle l)

theorem symm (h : AlikeBut idle l l') : AlikeBut idle l' l := by
  induction h with
  | nil => exact .nil
  | cons a _ ih => exact .cons a ih
  | left isIdle _ ih => exact .right isIdle ih
  | right isIdle _ ih => exact .left isIdle ih

theorem append (h : AlikeBut idle l l') (hr : AlikeBut idle r r') :
    AlikeBut idle (l ++ r) (l' ++ r') := by
  induction h with
  | nil => exact hr
  | cons a _ ih => exact .cons a ih
  | left isIdle _ ih => exact .left isIdle ih
  | right isIdle _ ih => exact .right isIdle ih

theorem append_left (h : AlikeBut idle l l') {a : α} (ha : idle a) : AlikeBut idle (l ++ [a]) l' := by
  have hlast : AlikeBut idle [a] [] := .left ha .nil
  simpa using h.append hlast

theorem mem_iff (h : AlikeBut idle l l') {a : α} (ha : ¬ idle a) : a ∈ l ↔ a ∈ l' := by
  have hne {b : α} (hb : idle b) : a ≠ b := fun he => ha (he ▸ hb)
  induction h with
  | nil => rfl
  | cons b _ ih => simp only [mem_cons, ih]
  | left isIdle _ ih => simp only [mem_cons, hne isIdle, ih, false_or]
  | right isIdle _ ih => simp only [mem_cons, hne isIdle, ih, false_or]

theorem filterMap {idle' : β → Prop} {f : α → Option β} (h : AlikeBut idle l l')
    (hf : ∀ a, idle a → ∀ b ∈ f a, idle' b) : AlikeBut idle' (l.filterMap f) (l'.filterMap f) := by
  induction h with
  | nil => exact .nil
  | cons a _ ih =>
    rw [filterMap_cons, filterMap_cons]
    split
    · exact ih
    · exact .cons _ ih
  | left isIdle _ ih =>
    rw [filterMap_cons]
    split
    · exact ih
    · next b hb => exact .left (hf _ isIdle b hb) ih
  | right isIdle _ ih =>
    rw [filterMap_cons]
    split
    · exact ih
    · next b hb => exact .right (hf _ isIdle b hb) ih

/-- A loop goes on from an idle element as if it had not been there. -/
theorem foldlM_eq {act : σ → α → Except ε σ} (h : AlikeBut idle l l')
    (hact : ∀ a, idle a → ∀ s, act s a = .ok s) (s : σ) : l.foldlM act s = l'.foldlM act s := by
  induction h generalizing s with
  | nil => rfl
  | cons a _ ih =>
    rw [foldlM_cons, foldlM_cons]
    cases act s a with
    | ok t => exact ih t
    | error e => rfl
  | left isIdle _ ih =>
    rw [foldlM_cons, hact _ isIdle]
    exact ih s
  | right isIdle _ ih =>
    rw [foldlM_cons, hact _ isIdle]
    exact ih s

end AlikeBut

end List

namespace ClassForge

namespace PluginSet

variable {s t : PluginSet} {p : Plugin}

theorem contains_iff {name : String} : s.contains name = true ↔ ∃ q ∈ s.plugins, q.name = name := by
  simp [contains, names]

theorem emitAll_alike (hp : p.IsIdle) (h : s.plugins.AlikeBut (· = p) t.plugins) (name : String)
    (settings : Settings) :
    (s.emitAll name settings).AlikeBut Fragment.IsIdle (t.emitAll name settings) := by
  apply h.filterMap
  rintro _ rfl
  exact hp name settings

theorem register_alike_self (h : s.plugins.AlikeBut (· = p) t.plugins) :
    (s.register p).plugins.AlikeBut (· = p) t.plugins := by
  rw [plugins_register]
  split
  · exact h
  · exact h.append_left rfl

/-- Whether another plugin can be registered does not hang on one that has not its name. -/
theorem register_alike {q : Plugin} (hq : q.name = p.name → q = p)
    (h : s.plugins.AlikeBut (· = p) t.plugins) :
    (s.register q).plugins.AlikeBut (· = p) (t.register q).plugins := by
  by_cases hname : q.name = p.name
  · obtain rfl := hq hname
    exact (register_alike_self (register_alike_self h).symm).symm
  · have hother {r : Plugin} (hr : r.name = q.name) : r ≠ p := by
      rintro rfl
      exact hname hr.symm
    have hcontains : s.contains q.name = t.contains q.name := by
      rw [Bool.eq_iff_iff, contains_iff, contains_iff]
      constructor
      · rintro ⟨r, hmem, hr⟩
        exact ⟨r, (h.mem_iff (hother hr)).1 hmem, hr⟩
      · rintro ⟨r, hmem, hr⟩
        exact ⟨r, (h.mem_iff (hother hr)).2 hmem, hr⟩
    rw [plugins_register, plugins_register, hcontains]
    split
    · exact h
    · exact h.append (.refl _ [q])

end PluginSet

namespace Builder

/-- What becomes of a change that is a declaration. -/
def Change.outcome? (b : Builder) : Change → Option (Except Fault Unit)
  | define p => some ((b.define p.name p.settings).map fun _ => ())
  | _ => none

def applyAll (b : Builder) (h : List Change) : Builder :=
  h.foldl Change.apply b

/-- What becomes of the declarations of a history, in order. -/
def outcomes (b : Builder) : List Change → List (Except Fault Unit)
  | [] => []
  | c :: h => (c.outcome? b).toList ++ (c.apply b).outcomes h

/-- The same parameters, readers and parameter list, and constructors that make the same instances or
fail with the same faults. -/
structure Indistinct (b b' : Builder) : Prop where
  signature : b.signature = b'.signature
  readerNames : b.readerNames = b'.readerNames
  parameterList : b.parameterList = b'.parameterList
  instantiate (m m' : Mixin) (className : String) (args : Args) :
    (b.install m).instantiate className args = (b'.install m').instantiate className args

/-- Builders that differ by the plugin `p` and by idle fragments. -/
structure AlikeBut (p : Plugin) (b b' : Builder) : Prop where
  signature : b.signature = b'.signature
  tolerance : b.tolerance = b'.tolerance
  plugins : b.plugins.plugins.AlikeBut (· = p) b'.plugins.plugins
  parts : b.parts.AlikeBut Fragment.IsIdle b'.parts

variable {b b' : Builder} {p : Plugin} {c : Change} {h : List Change}

theorem applyAll_append (b : Builder) (h h' : List Change) :
    b.applyAll (h ++ h') = (b.applyAll h).applyAll h' :=
  List.foldl_append

theorem outcomes_append (b : Builder) (h h' : List Change) :
    b.outcomes (h ++ h') = b.outcomes h ++ (b.applyAll h).outcomes h' := by
  induction h generalizing b with
  | nil => rfl
  | cons c h ih =>
    rw [List.cons_append, outcomes, outcomes, ih, List.append_assoc]
    rfl

namespace AlikeBut

/-- Whether a declaration succeeds is up to the signature. -/
theorem outcome?_eq (hb : b.AlikeBut p b') : c.outcome? b = c.outcome? b' := by
  cases c with
  | register q | tolerance t => rfl
  | define q =>
    rw [Change.outcome?, Change.outcome?, Builder.define, Builder.define, Except.map_map,
      Except.map_map, hb.signature]

theorem define (hp : p.IsIdle) (hb : b.AlikeBut p b') (q : Parameter) :
    (Change.apply b (.define q)).AlikeBut p (Change.apply b' (.define q)) := by
  rw [Change.apply, Change.apply, Builder.define, Builder.define, hb.signature]
  cases b'.signature.add q.name q.settings with
  | error f => exact hb
  | ok s =>
    have hparts := hb.parts.append (PluginSet.emitAll_alike hp hb.plugins q.name q.settings)
    exact ⟨rfl, hb.tolerance, hb.plugins, hparts⟩

theorem apply (hp : p.IsIdle) (hc : ∀ q, c = .register q → q.name = p.name → q = p)
    (hb : b.AlikeBut p b') : (c.apply b).AlikeBut p (c.apply b') := by
  cases c with
  | register q =>
    exact ⟨hb.signature, hb.tolerance, PluginSet.register_alike (hc q rfl) hb.plugins, hb.parts⟩
  | define q => exact hb.define hp q
  | tolerance t => exact ⟨hb.signature, rfl, hb.plugins, hb.parts⟩

theorem applyAll (hp : p.IsIdle) (hh : ∀ q, .register q ∈ h → q.name = p.name → q = p)
    (hb : b.AlikeBut p b') :
    b.outcomes h = b'.outcomes h ∧ (b.applyAll h).AlikeBut p (b'.applyAll h) := by
  induction h generalizing b b' with
  | nil => exact ⟨rfl, hb⟩
  | cons c h ih =>
    have hc : ∀ q, c = .register q → q.name = p.name → q = p := by
      rintro q rfl
      exact hh q List.mem_cons_self
    obtain ⟨houtcomes, hrest⟩ :=
      ih (fun q hq => hh q (List.mem_cons_of_mem c hq)) (hb.apply hp hc)
    refine ⟨?_, hrest⟩
    rw [outcomes, outcomes, hb.outcome?_eq, houtcomes]

theorem executeAll_eq (hb : b.AlikeBut p b') (f : Frame) :
    Statement.executeAll b.statements f = Statement.executeAll b'.statements f := by
  have hidle : ∀ a : Fragment, a.IsIdle → ∀ s ∈ a.statement?, Fragment.IsIdle (.statement s) := by
    rintro (s | c) ha t ht
    · cases ht
      exact ha
    · cases ht
  exact (hb.parts.filterMap hidle).foldlM_eq (fun s hs => hs) f

theorem callAll_eq (hb : b.AlikeBut p b') (self : Instance) :
    Callback.callAll b.callbacks self = Callback.callAll b'.callbacks self := by
  have hidle : ∀ a : Fragment, a.IsIdle → ∀ c ∈ a.callback?, Fragment.IsIdle (.callback c) := by
    rintro (s | c) ha d hd
    · cases hd
    · cases hd
      exact ha
  exact (hb.parts.filterMap hidle).foldlM_eq (fun c hc => hc) self

/-- Arguments are bound before the first statement runs. -/
theorem bind_eq (hb : b.AlikeBut p b') (self : Instance) (args : Args) :
    b.constructor.bind self args = b'.constructor.bind self args := by
  rw [constructor, constructor, hb.signature, hb.tolerance]
  rfl

theorem indistinct (hb : b.AlikeBut p b') : b.Indistinct b' := by
  have hreaders : b.readerNames = b'.readerNames := by
    rw [readerNames, readerNames, hb.signature]
  refine ⟨hb.signature, hreaders, ?_, fun m m' className args => ?_⟩
  · rw [parameterList, parameterList, hb.signature, hb.tolerance]
  · have hcall (d : Builder) (n : Mixin) : (d.install n).instantiate className args =
        d.constructor.bind (.new className d.readerNames) args >>= fun frame =>
        Statement.executeAll d.statements frame >>= fun frame =>
        Callback.callAll d.callbacks frame.self := rfl
    rw [hcall, hcall, hreaders, hb.bind_eq]
    simp only [hb.executeAll_eq, hb.callAll_eq]

end AlikeBut

/-- The registration of an idle plugin can be inserted into a history without any effect on which
declarations succeed, or on what the builder renders and constructs. No other plugin of its name may
be registered later. -/
theorem applyAll_register_of_isIdle {before after : List Change} (hp : p.IsIdle)
    (hname : ∀ q, .register q ∈ after → q.name = p.name → q = p) :
    b.outcomes (before ++ .register p :: after) = b.outcomes (before ++ after) ∧
      (b.applyAll (before ++ .register p :: after)).Indistinct (b.applyAll (before ++ after)) := by
  have hstart : ((b.applyAll before).register p).AlikeBut p (b.applyAll before) :=
    ⟨rfl, rfl, PluginSet.register_alike_self (.refl _ _), .refl _ _⟩
  obtain ⟨houtcomes, hrest⟩ := hstart.applyAll hp hname
  rw [outcomes_append, outcomes_append, applyAll_append, applyAll_append]
  exact ⟨congrArg (_ ++ ·) houtcomes, hrest.indistinct⟩

/-- Shows where the parameters begin. -/
def tracer : Plugin :=
  ⟨"trace", fun name _ => some (.statement (.custom ("trace!(" ++ name ++ ");") .ok))⟩

/-- Binds a list of what is bound. -/
def wrapper : Plugin :=
  ⟨"rebind", fun name _ => some (.statement (.custom (name ++ " = [" ++ name ++ "];") fun frame =>
    .ok (match frame.local? name with
      | some v => frame.bind name (.list [v])
      | none => frame)))⟩

def beforeTracer : List Change :=
  [.define ⟨"width", .new⟩, .register wrapper]

def behindTracer : List Change :=
  [.register .variableSetter, .define ⟨"height", .new⟩, .define ⟨"width", .new⟩]

/-- The constructor shows the plugin behind its registration, and beside it one that rebinds. -/
theorem outcomes_tracer :
    tracer.IsIdle ∧
      (∀ q, Change.register q ∈ behindTracer → q.name = tracer.name → q = tracer) ∧
      (new.applyAll (beforeTracer ++ .register tracer :: behindTracer)).statements.map (·.source) =
        ["self.width = width;", "self.height = height;", "height = [height];", "trace!(height);"] ∧
      new.outcomes (beforeTracer ++ .register tracer :: behindTracer) =
        [.ok (), .ok (), .error (.duplicateParameter "width")] ∧
      (new.applyAll (beforeTracer ++ .register tracer :: behindTracer)).Indistinct
        (new.applyAll (beforeTracer ++ behindTracer)) := by
  have hidle : tracer.IsIdle := by
    rintro name settings _ ⟨⟩ f
    rfl
  have hname : ∀ q, Change.register q ∈ behindTracer → q.name = tracer.name → q = tracer := by
    intro q hq he
    simp only [behindTracer, List.mem_cons, Change.register.injEq, reduceCtorEq, List.not_mem_nil,
      or_false] at hq
    subst hq
    exact absurd he (by decide)
  obtain ⟨houtcomes, hindistinct⟩ :
      new.outcomes (beforeTracer ++ .register tracer :: behindTracer) =
          new.outcomes (beforeTracer ++ behindTracer) ∧ _ :=
    applyAll_register_of_isIdle hidle hname
  exact ⟨hidle, hname, rfl, houtcomes.trans rfl, hindistinct⟩

end Builder

end ClassForge
