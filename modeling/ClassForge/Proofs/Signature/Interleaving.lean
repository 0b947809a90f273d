import ClassForge.Proofs.Construction.Result
import ClassForge.Proofs.Signature.Declaration

/-!
# The order of declarations of different kinds

Positional and keyword parameters can be declared in turn, or those of one kind before those of the
other. As long as the defaults are constants, nobody who constructs an instance can tell.

## Main definitions

- `Class.Declaration`, `Class.declareAll` — declarations, and a class after some of them
- `Class.Blank` — classes with the standard plugins, before any declaration
- `Parameter.Interleaved` — lists that interleave the same parameters of each kind
- `SameOutcome` — constructions that nobody can tell apart by what they make or report

## Main statements

- `Parameter.Interleaved.wellDeclared` — interleaved lists are well declared together
- `Constructor.bind_interleaved` — and their constructors bind alike
- `Class.Standard.slot?_eq_some_iff` — what slots hold if the defaults are constants
- `Class.declareAll_interleaved` — interleaved declarations make classes that behave alike

## Design notes

Of several arguments that their types reject, the fault names the one whose parameter is declared
first, and that depends on the order. Readers stand in declaration order too.
-/

namespace ClassForge

open Parameter (Fills acceptAll supplied)

/-- A default that is the same for all instances, if there is one. -/
def Settings.IsConstant (s : Settings) : Prop :=
  ∀ f, s.defaultFn = some f → ∃ v, ∀ self, f self = v

/-- The default is `w` for all instances. -/
def Settings.DefaultsTo (s : Settings) (w : Value) : Prop :=
  ∃ f, s.defaultFn = some f ∧ ∀ self, f self = w

namespace Class

/-- A declaration on a class. -/
inductive Declaration where
  | param (name : String) (settings : Settings)
  | option (name : String) (settings : Settings)

namespace Declaration

def isParam : Declaration → Bool
  | param .. => true
  | option .. => false

def isOption : Declaration → Bool
  | param .. => false
  | option .. => true

def settings : Declaration → Settings
  | param _ settings => settings
  | option _ settings => settings

/-- The parameter that a declaration adds. -/
def parameter : Declaration → Parameter
  | param name settings => ⟨name, settings.option false⟩
  | option name settings => ⟨name, settings.option true⟩

def apply (c : Class) : Declaration → Except Fault Class
  | param name settings => c.param name settings
  | option name settings => c.option name settings

end Declaration

/-- The class after some declarations, or the fault of the first one that fails. -/
def declareAll (c : Class) (ds : List Declaration) : Except Fault Class :=
  ds.foldlM Declaration.apply c

/-- A class with the standard plugins on which nothing has been declared. -/
structure Blank (c : Class) : Prop where
  standard : c.Standard
  parameters : c.builder.signature.parameters = []

end Class

/-- The same positional parameters in the same order, and the same keyword parameters in the same
order. -/
structure Parameter.Interleaved (ps qs : List Parameter) : Prop where
  positionals : ps.filter (·.isPositional) = qs.filter (·.isPositional)
  keywords : ps.filter (·.isKeyword) = qs.filter (·.isKeyword)

/-- Two instances with the same slots and unknown options, the same fault from the number or the names
of the arguments, or two arguments that their types reject. -/
inductive SameOutcome : Except Fault Instance → Except Fault Instance → Prop
  | made {self other : Instance} (slot? : ∀ name, self.slot? name = other.slot? name)
      (unknownOptions : self.unknownOptions = other.unknownOptions) :
      SameOutcome (.ok self) (.ok other)
  | missingArgument (className name : String) (kind : ParameterKind) :
      SameOutcome (.error (.missingArgument className name kind))
        (.error (.missingArgument className name kind))
  | tooManyArguments (className : String) (given expected : Nat) :
      SameOutcome (.error (.tooManyArguments className given expected))
        (.error (.tooManyArguments className given expected))
  | unknownOption (className name : String) :
      SameOutcome (.error (.unknownOption className name)) (.error (.unknownOption className name))
  | typeConstraint (className name name' : String) (v v' : Value) (reason reason' : String) :
      SameOutcome (.error (.typeConstraint className name v reason))
        (.error (.typeConstraint className name' v' reason'))

/-! ### Declarations -/

namespace Class

variable {c d : Class} {ds : List Declaration}

theorem Declaration.apply_eq_define (c : Class) (d : Declaration) :
    d.apply c = c.define d.parameter.name d.parameter.settings := by
  cases d <;> rfl

theorem grows_of_declareAll (h : c.declareAll ds = .ok d) :
    c.Grows (ds.map (·.parameter)) d := by
  induction ds generalizing c with
  | nil =>
    obtain rfl : c = d := Except.ok.inj h
    exact .refl c
  | cons a ds ih =>
    rw [declareAll, List.foldlM_cons] at h
    obtain ⟨b, hb, h⟩ := Except.bind_eq_ok_iff.1 h
    rw [a.apply_eq_define] at hb
    exact (Grows.of_define hb).trans (ih h)

theorem Standard.declareAll (hc : c.Standard) (h : c.declareAll ds = .ok d) : d.Standard := by
  induction ds generalizing c with
  | nil =>
    obtain rfl : c = d := Except.ok.inj h
    exact hc
  | cons a ds ih =>
    rw [Class.declareAll, List.foldlM_cons] at h
    obtain ⟨b, hb, hrest⟩ := Except.bind_eq_ok_iff.1 h
    cases a with
    | param name settings => exact ih (.param hc hb) hrest
    | option name settings => exact ih (.option hc hb) hrest

theorem exists_declareAll_iff :
    (∃ d, c.declareAll ds = .ok d) ↔
      WellDeclared (c.builder.signature.parameters ++ ds.map (·.parameter)) := by
  induction ds generalizing c with
  | nil =>
    rw [List.map_nil, List.append_nil]
    exact ⟨fun _ => c.builder.signature.wellDeclared, fun _ => ⟨c, rfl⟩⟩
  | cons a ds ih =>
    rw [declareAll, List.foldlM_cons, List.map_cons, List.append_cons, a.apply_eq_define]
    constructor
    · rintro ⟨d, hd⟩
      obtain ⟨b, hb, hd⟩ := Except.bind_eq_ok_iff.1 hd
      rw [← (Grows.of_define hb).parameters]
      exact ih.1 ⟨d, hd⟩
    · intro hw
      -- The checks of one declaration are those of the list up to it.
      obtain ⟨b, hb⟩ := exists_define_eq_ok_iff.2 hw.of_append
      rw [← (Grows.of_define hb).parameters] at hw
      obtain ⟨d, hd⟩ := ih.2 hw
      exact ⟨d, Except.bind_eq_ok_iff.2 ⟨b, hb, hd⟩⟩

end Class

/-! ### Interleaved parameters -/

namespace Parameter

theorem isKeyword_eq (p : Parameter) : p.isKeyword = !p.isPositional := by
  rw [isKeyword, isPositional]
  cases p.kind <;> rfl

namespace Interleaved

variable {ps qs : List Parameter}

theorem of_declarations {ds ds' : List Class.Declaration}
    (hparams : ds.filter (·.isParam) = ds'.filter (·.isParam))
    (hoptions : ds.filter (·.isOption) = ds'.filter (·.isOption)) :
    Interleaved (ds.map (·.parameter)) (ds'.map (·.parameter)) := by
  have hpositional : (fun d : Class.Declaration => d.parameter.isPositional) = (·.isParam) := by
    funext d
    cases d <;> rfl
  have hkeyword : (fun d : Class.Declaration => d.parameter.isKeyword) = (·.isOption) := by
    funext d
    cases d <;> rfl
  constructor
  · rw [List.filter_map, List.filter_map, Function.comp_def, hpositional, hparams]
  · rw [List.filter_map, List.filter_map, Function.comp_def, hkeyword, hoptions]

theorem symm (h : Interleaved ps qs) : Interleaved qs ps :=
  ⟨h.positionals.symm, h.keywords.symm⟩

theorem perm (h : Interleaved ps qs) : ps.Perm qs := by
  have hk := h.keywords
  simp only [isKeyword_eq] at hk
  have hps := List.filter_append_perm (·.isPositional) ps
  rw [h.positionals, hk] at hps
  exact hps.symm.trans (List.filter_append_perm (·.isPositional) qs)

theorem wellDeclared (h : Interleaved ps qs) (hw : WellDeclared ps) : WellDeclared qs where
  named p hp := hw.named p (h.perm.mem_iff.2 hp)
  distinct := (h.perm.map Parameter.name).nodup_iff.1 hw.distinct
  ordered := by
    -- Only positional parameters are asked for an order, so that of their sublist decides.
    have hlist (l : List Parameter) : (l.Pairwise fun p q => p.isPositional = true →
          p.hasDefault = true → q.isPositional = true → q.hasDefault = true) ↔
        (l.filter (·.isPositional)).Pairwise fun p q =>
          p.hasDefault = true → q.hasDefault = true := by
      rw [List.pairwise_filter]
      exact ⟨fun hl => hl.imp fun hpq hp hq hd => hpq hp hd hq,
        fun hl => hl.imp fun hpq hp hd hq => hpq hp hq hd⟩
    rw [hlist, ← h.positionals, ← hlist]
    exact hw.ordered

end Interleaved

end Parameter

namespace Signature

variable {s t : Signature} (h : Parameter.Interleaved s.parameters t.parameters)
include h

theorem positionals_interleaved : s.positionals = t.positionals := h.positionals

theorem keywords_interleaved : s.keywords = t.keywords := h.keywords

theorem argument?_interleaved (args : Args) : s.argument? args = t.argument? args := by
  funext p
  rw [argument?, argument?, positionalNames, positionalNames, positionals_interleaved h]

theorem undeclared_interleaved (args : Args) : s.undeclared args = t.undeclared args := by
  rw [undeclared, undeclared, keywordNames, keywordNames, keywords_interleaved h]

theorem parameterList_interleaved : s.parameterList = t.parameterList := by
  rw [parameterList, parameterList, positionals_interleaved h, keywords_interleaved h]

end Signature

namespace Constructor

variable {c d : Constructor} {args : Args}

theorem bind_interleaved
    (h : Parameter.Interleaved c.signature.parameters d.signature.parameters)
    (ht : c.tolerance = d.tolerance) (self : Instance) (args : Args) :
    c.bind self args = d.bind self args := by
  have hpositionals := Signature.positionals_interleaved h
  have hrequired : c.signature.requiredPositionals = d.signature.requiredPositionals := by
    rw [Signature.requiredPositionals, Signature.requiredPositionals, hpositionals]
  have hfirst : c.firstUnsupplied args = d.firstUnsupplied args := by
    rw [firstUnsupplied, firstUnsupplied, hpositionals]
  have hbindings : c.positionalBindings args = d.positionalBindings args := by
    rw [positionalBindings, positionalBindings, hpositionals]
  have htolerate (rest : OrderedMap Value) : c.tolerate self rest = d.tolerate self rest := by
    rw [tolerate, tolerate, ht]
  rw [bind, bind, hrequired, hfirst, hpositionals, hbindings, Signature.keywords_interleaved h]
  simp only [htolerate]

theorem refuses_interleaved
    (h : Parameter.Interleaved c.signature.parameters d.signature.parameters)
    (ht : c.tolerance = d.tolerance) {className : String} {f : Fault}
    (hf : c.Refuses className args f) : d.Refuses className args f := by
  have hc : c.bind (.new className ∅) args = .error f := bind_of_refuses hf
  rw [bind_interleaved h ht] at hc
  exact bind_eq_error_iff.1 hc

theorem accepts_interleaved
    (h : Parameter.Interleaved c.signature.parameters d.signature.parameters)
    (ht : c.tolerance = d.tolerance) (ha : c.Accepts args) : d.Accepts args := by
  have hc : c.bind (.new "" ∅) args = .ok _ := bind_of_accepts ha
  rw [bind_interleaved h ht] at hc
  exact (bind_eq_ok_iff.1 hc).1

end Constructor

/-! ### Slots -/

namespace Parameter

theorem mem_given_iff {l : List (Parameter × Value)} {given : List (String × Value)}
    (h : List.Forall₂ (fun x e => e.1 = x.1.name ∧ x.1.accept x.2 = .ok e.2) l given)
    {name : String} {w : Value} :
    (name, w) ∈ given ↔ ∃ p v, (p, v) ∈ l ∧ p.name = name ∧ p.accept v = .ok w := by
  induction h with
  | nil => simp
  | @cons x e l given hxe _ ih =>
    obtain ⟨p, v⟩ := x
    obtain ⟨n, u⟩ := e
    obtain ⟨rfl, hu⟩ := hxe
    simp only [List.mem_cons, Prod.mk.injEq, ih]
    constructor
    · rintro (⟨rfl, rfl⟩ | ⟨q, v', hmem, hname, haccept⟩)
      · exact ⟨p, v, .inl ⟨rfl, rfl⟩, rfl, hu⟩
      · exact ⟨q, v', .inr hmem, hname, haccept⟩
    · rintro ⟨q, v', ⟨rfl, rfl⟩ | hmem, rfl, haccept⟩
      · exact .inl ⟨rfl, Except.ok.inj (haccept.symm.trans hu)⟩
      · exact .inr ⟨q, v', hmem, rfl, haccept⟩

theorem Fills.mem_iff {self : Instance} {ps : List Parameter} {defaults : List (String × Value)}
    (h : Fills self ps defaults) (hconst : ∀ p ∈ ps, p.settings.IsConstant) {name : String}
    {w : Value} :
    (name, w) ∈ defaults ↔ ∃ p ∈ ps, p.name = name ∧ p.settings.DefaultsTo w := by
  induction h with
  | nil => simp
  | @cons self p f ps defaults hd _ ih =>
    -- The instance that the default is called on holds the slots set before, and is not looked at.
    obtain ⟨v, hv⟩ := hconst p List.mem_cons_self f hd
    rw [List.mem_cons, ih fun q hq => hconst q (List.mem_cons_of_mem p hq), List.exists_mem_cons_iff]
    refine or_congr_left ?_
    rw [Prod.mk.injEq, hv]
    constructor
    · rintro ⟨rfl, rfl⟩
      exact ⟨rfl, f, hd, hv⟩
    · rintro ⟨rfl, g, hg, hw⟩
      obtain rfl := Option.some.inj (hd.symm.trans hg)
      exact ⟨rfl, (hw self).symm.trans (hv self)⟩

end Parameter

/-! ### Constructions -/

namespace Class

/-- The type of some parameter rejects the argument for it. -/
def Rejects (c : Class) (args : Args) : Prop :=
  ∃ p ∈ c.builder.signature.parameters, ∃ v reason,
    c.builder.signature.argument? args p = some v ∧ p.accept v = .error reason

theorem Rejects.interleaved {c d : Class} {args : Args}
    (h : Parameter.Interleaved c.builder.signature.parameters d.builder.signature.parameters)
    (hr : c.Rejects args) : d.Rejects args := by
  obtain ⟨p, hp, v, reason, hv, hreject⟩ := hr
  rw [Signature.argument?_interleaved h] at hv
  exact ⟨p, h.perm.mem_iff.1 hp, v, reason, hv, hreject⟩

namespace Standard

variable {c d : Class} {args : Args} {self : Instance}

theorem instantiate_of_rejects (hc : c.Standard) (ha : c.builder.constructor.Accepts args)
    (hr : c.Rejects args) :
    ∃ name v reason, c.instantiate args = .error (.typeConstraint c.name name v reason) := by
  obtain ⟨p, hp, v, reason, hv, hreject⟩ := hr
  rw [hc.instantiate_of_accepts ha]
  cases hall : acceptAll c.name
      (supplied (c.builder.signature.argument? args) c.builder.signature.parameters) with
  | error f =>
    obtain ⟨_, q, _, w, why, _, _, _, _, rfl⟩ := Parameter.acceptAll_supplied_eq_error_iff.1 hall
    exact ⟨q.name, w, why, rfl⟩
  | ok given =>
    obtain ⟨e, _, _, haccept⟩ := Parameter.exists_mem_of_forall₂
      (Parameter.acceptAll_eq_ok_iff.1 hall) (Parameter.mem_supplied.2 ⟨hp, hv⟩)
    cases hreject.symm.trans haccept

theorem exists_instantiate (hc : c.Standard) (ha : c.builder.constructor.Accepts args)
    (hr : ¬ c.Rejects args) : ∃ self, c.instantiate args = .ok self := by
  rw [hc.instantiate_of_accepts ha]
  cases hall : acceptAll c.name
      (supplied (c.builder.signature.argument? args) c.builder.signature.parameters) with
  | error f =>
    obtain ⟨before, p, after, v, reason, hsplit, _, hv, hreject, rfl⟩ :=
      Parameter.acceptAll_supplied_eq_error_iff.1 hall
    exact absurd ⟨p, by simp [hsplit], v, reason, hv, hreject⟩ hr
  | ok given =>
    have hg := Parameter.acceptAll_eq_ok_iff.1 hall
    obtain ⟨defaults, _, hcall⟩ := callAll_setSlots_start ha
      (Parameter.map_fst_supplied ▸ Parameter.map_fst_of_forall₂ hg)
    exact ⟨_, hcall⟩

theorem slot?_eq_some_iff (hc : c.Standard)
    (hconst : ∀ p ∈ c.builder.signature.parameters, p.settings.IsConstant)
    (h : c.instantiate args = .ok self) {name : String} {w : Value} :
    self.slot? name = some w ↔ ∃ p ∈ c.builder.signature.parameters, p.name = name ∧
      ((∃ v, c.builder.signature.argument? args p = some v ∧ p.accept v = .ok w) ∨
        c.builder.signature.argument? args p = none ∧ p.settings.DefaultsTo w) := by
  obtain ⟨given, defaults, -, hlist, hgiven, hdefaults⟩ := hc.exists_setSlots_of_instantiate h
  have homitted : (name, w) ∈ defaults ↔
      ∃ p ∈ c.builder.signature.parameters.filter (c.builder.signature.argument? args · |>.isNone),
        p.name = name ∧ p.settings.DefaultsTo w :=
    hdefaults.mem_iff fun p hp => hconst p (List.mem_of_mem_filter hp)
  rw [Instance.slot?, OrderedMap.get?_eq_some_iff, hlist, List.mem_append,
    Parameter.mem_given_iff hgiven, homitted]
  simp only [Parameter.mem_supplied, List.mem_filter, Option.isNone_iff_eq_none]
  constructor
  · rintro (⟨p, v, ⟨hp, hv⟩, hname, haccept⟩ | ⟨p, ⟨hp, hnone⟩, hname, hdefault⟩)
    · exact ⟨p, hp, hname, .inl ⟨v, hv, haccept⟩⟩
    · exact ⟨p, hp, hname, .inr ⟨hnone, hdefault⟩⟩
  · rintro ⟨p, hp, hname, ⟨v, hv, haccept⟩ | ⟨hnone, hdefault⟩⟩
    · exact .inl ⟨p, v, ⟨hp, hv⟩, hname, haccept⟩
    · exact .inr ⟨p, ⟨hp, hnone⟩, hname, hdefault⟩

theorem unknownOptions_of_instantiate (hc : c.Standard) (h : c.instantiate args = .ok self) :
    self.unknownOptions =
      if c.tolerance = .absorb then some (c.builder.signature.undeclared args) else none := by
  obtain ⟨given, defaults, rfl, -⟩ := hc.exists_setSlots_of_instantiate h
  rfl

theorem sameOutcome_of_interleaved (hc : c.Standard) (hd : d.Standard) (hname : c.name = d.name)
    (ht : c.tolerance = d.tolerance)
    (h : Parameter.Interleaved c.builder.signature.parameters d.builder.signature.parameters)
    (hconst : ∀ p ∈ c.builder.signature.parameters, p.settings.IsConstant) (args : Args) :
    SameOutcome (c.instantiate args) (d.instantiate args) := by
  -- Binding takes the two calls the same way. Of what follows, only a type can fail.
  obtain ha | ⟨f, hf⟩ := c.builder.constructor.accepts_or_refuses c.name args
  · have ha' : d.builder.constructor.Accepts args := Constructor.accepts_interleaved h ht ha
    by_cases hr : c.Rejects args
    · obtain ⟨n, v, reason, hfault⟩ := hc.instantiate_of_rejects ha hr
      obtain ⟨n', v', reason', hfault'⟩ := hd.instantiate_of_rejects ha' (hr.interleaved h)
      rw [hfault, hfault', hname]
      exact .typeConstraint ..
    · obtain ⟨self, hself⟩ := hc.exists_instantiate ha hr
      obtain ⟨other, hother⟩ := hd.exists_instantiate ha' fun hr' => hr (hr'.interleaved h.symm)
      have hconst' : ∀ p ∈ d.builder.signature.parameters, p.settings.IsConstant :=
        fun p hp => hconst p (h.perm.mem_iff.2 hp)
      rw [hself, hother]
      refine .made (fun name => Option.ext fun w => ?_) ?_
      · rw [hc.slot?_eq_some_iff hconst hself, hd.slot?_eq_some_iff hconst' hother,
          Signature.argument?_interleaved h]
        simp only [h.perm.mem_iff]
      · rw [hc.unknownOptions_of_instantiate hself, hd.unknownOptions_of_instantiate hother, ht,
          Signature.undeclared_interleaved h]
  · have hf' : d.builder.constructor.Refuses d.name args f :=
      hname ▸ Constructor.refuses_interleaved h ht hf
    rw [hc.instantiate_of_refuses hf, hd.instantiate_of_refuses hf']
    cases hf with
    | missingPositional | missingKeyword => exact .missingArgument ..
    | tooMany => exact .tooManyArguments ..
    | unknownOption => exact .unknownOption ..

end Standard

theorem blank_new (name : String) : (new name).Blank where
  standard := .root name .new
  parameters := rfl

theorem Blank.withTolerance {c : Class} (hc : c.Blank) (t : Tolerance) : (c.withTolerance t).Blank where
  standard := hc.standard.withTolerance t
  parameters := hc.parameters

variable {root root' : Class} {ds ds' : List Declaration}

/-- In which order parameters of different kinds are declared decides neither whether the declarations
succeed, nor how the parameter list reads, nor what becomes of a call, if all defaults are constants. -/
theorem declareAll_interleaved (hroot : root.Blank) (hroot' : root'.Blank)
    (hname : root.name = root'.name) (htolerance : root.tolerance = root'.tolerance)
    (hparams : ds.filter (·.isParam) = ds'.filter (·.isParam))
    (hoptions : ds.filter (·.isOption) = ds'.filter (·.isOption))
    (hconst : ∀ d ∈ ds, d.settings.IsConstant) :
    ((∃ c, root.declareAll ds = .ok c) ↔ ∃ c, root'.declareAll ds' = .ok c) ∧
      ∀ c c', root.declareAll ds = .ok c → root'.declareAll ds' = .ok c' →
        c.builder.parameterList = c'.builder.parameterList ∧
          ∀ args, SameOutcome (c.instantiate args) (c'.instantiate args) := by
  have h := Parameter.Interleaved.of_declarations hparams hoptions
  refine ⟨?_, fun c c' hc hc' => ?_⟩
  · rw [exists_declareAll_iff, exists_declareAll_iff, hroot.parameters, hroot'.parameters]
    exact ⟨h.wellDeclared, h.symm.wellDeclared⟩
  · have hgrows := grows_of_declareAll hc
    have hgrows' := grows_of_declareAll hc'
    have hps : c.builder.signature.parameters = ds.map (·.parameter) := by
      rw [hgrows.parameters, hroot.parameters, List.nil_append]
    have hps' : c'.builder.signature.parameters = ds'.map (·.parameter) := by
      rw [hgrows'.parameters, hroot'.parameters, List.nil_append]
    rw [← hps, ← hps'] at h
    have hn : c.name = c'.name := hgrows.name.trans (hname.trans hgrows'.name.symm)
    have ht : c.tolerance = c'.tolerance :=
      hgrows.tolerance.trans (htolerance.trans hgrows'.tolerance.symm)
    have hconstant : ∀ p ∈ c.builder.signature.parameters, p.settings.IsConstant := by
      intro p hp
      rw [hps, List.mem_map] at hp
      obtain ⟨d, hd, rfl⟩ := hp
      cases d <;> exact hconst _ hd
    constructor
    · have hbuilder : c.builder.tolerance = c'.builder.tolerance := ht
      rw [Builder.parameterList, Builder.parameterList, Signature.parameterList_interleaved h,
        hbuilder]
    · exact (hroot.standard.declareAll hc).sameOutcome_of_interleaved
        (hroot'.standard.declareAll hc') hn ht h hconstant

namespace Declaration

def width : Declaration :=
  .param "width" (Settings.new.ofType .integer)

def height : Declaration :=
  .param "height" (Settings.new.defaultValue (.int 1))

def unit : Declaration :=
  .option "unit" ((Settings.new.ofType .string).defaultValue (.str "px"))

end Declaration

/-- In the two classes the slots are set in different orders. -/
theorem declareAll_interleaved_unit :
    ∃ c c' : Class,
      ((new "Box").withTolerance .absorb).declareAll [.width, .height, .unit] = .ok c ∧
      (withBuilder "Box" (Builder.new.withTolerance .absorb)).declareAll [.unit, .width, .height] =
        .ok c' ∧
      (c.instantiate (.ofLists [.int 2, .int 3] [("unit", .str "em")])).map (·.slots.toList) =
        .ok [("width", .int 2), ("height", .int 3), ("unit", .str "em")] ∧
      (c'.instantiate (.ofLists [.int 2, .int 3] [("unit", .str "em")])).map (·.slots.toList) =
        .ok [("unit", .str "em"), ("width", .int 2), ("height", .int 3)] ∧
      c.builder.parameterList = c'.builder.parameterList ∧
      ∀ args, SameOutcome (c.instantiate args) (c'.instantiate args) := by
  have hslots : (((new "Box").withTolerance .absorb).declareAll [.width, .height, .unit]).map
        (fun c => (c.instantiate (.ofLists [.int 2, .int 3] [("unit", .str "em")])).map
          (·.slots.toList)) =
      .ok (.ok [("width", .int 2), ("height", .int 3), ("unit", .str "em")]) := rfl
  have hslots' : ((withBuilder "Box" (Builder.new.withTolerance .absorb)).declareAll
          [.unit, .width, .height]).map
        (fun c => (c.instantiate (.ofLists [.int 2, .int 3] [("unit", .str "em")])).map
          (·.slots.toList)) =
      .ok (.ok [("unit", .str "em"), ("width", .int 2), ("height", .int 3)]) := rfl
  obtain ⟨c, hc, hslots⟩ := Except.map_eq_ok_iff.1 hslots
  obtain ⟨c', hc', hslots'⟩ := Except.map_eq_ok_iff.1 hslots'
  have hconst : ∀ d ∈ [Declaration.width, .height, .unit], d.settings.IsConstant := by
    intro d hd f hf
    simp only [List.mem_cons, List.not_mem_nil, or_false] at hd
    obtain rfl | rfl | rfl := hd
    · cases hf
    · exact ⟨.int 1, fun self => (congrFun (Option.some.inj hf) self).symm⟩
    · exact ⟨.str "px", fun self => (congrFun (Option.some.inj hf) self).symm⟩
  have hroot : ((new "Box").withTolerance .absorb).Blank := (blank_new "Box").withTolerance .absorb
  have hroot' : (withBuilder "Box" (Builder.new.withTolerance .absorb)).Blank :=
    ⟨.root "Box" (.withTolerance .absorb .new), rfl⟩
  have hparams : [Declaration.width, .height, .unit].filter (·.isParam) =
      [Declaration.unit, .width, .height].filter (·.isParam) := rfl
  have hoptions : [Declaration.width, .height, .unit].filter (·.isOption) =
      [Declaration.unit, .width, .height].filter (·.isOption) := rfl
  obtain ⟨hlist, hcalls⟩ :=
    (declareAll_interleaved hroot hroot' rfl rfl hparams hoptions hconst).2 c c' hc hc'
  exact ⟨c, c', hc, hc', hslots, hslots', hlist, hcalls⟩

end Class

end ClassForge
