import ClassForge.Proofs.Builder.Changes

/-!
# What a construction depends on

A constructor looks at the positional arguments of a call and at the keywords that it declares. In
which order the keywords were given makes no difference to it, nor do the others, as long as they are
dropped or there are none.

## Main definitions

- `Args.AgreeOn` — calls with the same positional arguments and the same values of some keywords
- `Signature.DeclaresAll` — no keyword of a call is undeclared

## Main statements

- `Constructor.bind_congr` — such calls are bound alike
- `Builder.install_instantiate_congr` — and make the same instance, or fail with the same fault
-/

namespace ClassForge

/-- The same positional arguments, and for each of some keywords the same argument or none. -/
structure Args.AgreeOn (names : List String) (a b : Args) : Prop where
  positional : a.positional = b.positional
  keyword : ∀ name ∈ names, a.keyword? name = b.keyword? name

namespace Signature

/-- Every keyword of a call names a keyword parameter. -/
def DeclaresAll (s : Signature) (args : Args) : Prop :=
  ∀ name ∈ args.keywords.keys, name ∈ s.keywordNames

theorem DeclaresAll.undeclared_eq {s : Signature} {args : Args} (h : s.DeclaresAll args) :
    s.undeclared args = ∅ := by
  apply OrderedMap.ext_toList
  rw [undeclared, OrderedMap.toList_filterKeys]
  refine List.filter_eq_nil_iff.2 fun e he => ?_
  have hk : e.1 ∈ args.keywords.keys := by
    rw [← OrderedMap.map_fst_toList]
    exact List.mem_map_of_mem he
  simpa using h e.1 hk

end Signature

namespace Constructor

variable {c : Constructor} {self : Instance} {a b : Args}

theorem locals_congr (h : a.AgreeOn c.signature.keywordNames b) : c.locals a = c.locals b := by
  have hk : c.keywordArguments a = c.keywordArguments b := by
    apply List.filterMap_congr
    intro p hp
    rw [h.keyword p.name (List.mem_map_of_mem hp)]
  rw [locals, locals, hk, positionalArguments, positionalArguments, h.positional]

theorem find?_isMissingFrom_congr (h : a.AgreeOn c.signature.keywordNames b) :
    c.signature.keywords.find? (·.isMissingFrom a.keywords) =
      c.signature.keywords.find? (·.isMissingFrom b.keywords) := by
  apply List.find?_congr
  intro p hp
  have hk : a.keywords.get? p.name = b.keywords.get? p.name :=
    h.keyword p.name (List.mem_map_of_mem hp)
  rw [Parameter.isMissingFrom, Parameter.isMissingFrom, OrderedMap.contains_eq_isSome_get?, hk,
    ← OrderedMap.contains_eq_isSome_get?]

/-- What is left over of the keywords is dropped, or there is nothing left over. -/
theorem tolerate_undeclared_congr
    (h : c.tolerance = .ignore ∨ c.signature.DeclaresAll a ∧ c.signature.DeclaresAll b) :
    c.tolerate self (c.signature.undeclared a) = c.tolerate self (c.signature.undeclared b) := by
  obtain hignore | ⟨ha, hb⟩ := h
  · rw [tolerate, tolerate, hignore]
  · rw [ha.undeclared_eq, hb.undeclared_eq]

theorem bind_congr (h : a.AgreeOn c.signature.keywordNames b)
    (hu : c.tolerance = .ignore ∨ c.signature.DeclaresAll a ∧ c.signature.DeclaresAll b) :
    c.bind self a = c.bind self b := by
  have hkeywords := find?_isMissingFrom_congr h
  have hlocals := locals_congr h
  have hrest : c.tolerate self (c.signature.undeclared a) =
      c.tolerate self (c.signature.undeclared b) := tolerate_undeclared_congr hu
  obtain ⟨vs, ks⟩ := a
  obtain ⟨ws, ls⟩ := b
  obtain rfl : vs = ws := h.positional
  by_cases few : vs.length < c.signature.required.length
  · rw [bind, bind, Signature.requiredPositionals_eq_length, if_pos few, if_pos few]
    rfl
  by_cases many : c.signature.positionals.length < vs.length
  · rw [bind, bind, Signature.requiredPositionals_eq_length, if_neg few, if_neg few, if_pos many,
      if_pos many]
  rw [bind_of_arity (Nat.not_lt.1 few) (Nat.not_lt.1 many), hkeywords, hlocals, hrest,
    bind_of_arity (Nat.not_lt.1 few) (Nat.not_lt.1 many)]

end Constructor

namespace Builder

/-- Whatever the plugins do with what is bound, calls that agree on the declared keywords have the same
outcome if their other keywords are dropped, or if they have none. -/
theorem install_instantiate_congr {b : Builder} {m : Mixin} {className : String} {args args' : Args}
    (hagree : args.AgreeOn b.signature.keywordNames args')
    (hundeclared : b.tolerance = .ignore ∨
      b.signature.DeclaresAll args ∧ b.signature.DeclaresAll args') :
    (b.install m).instantiate className args = (b.install m).instantiate className args' := by
  have hbind : b.constructor.bind (.new className b.readerNames) args =
      b.constructor.bind (.new className b.readerNames) args' :=
    Constructor.bind_congr hagree hundeclared
  show b.constructor.bind _ args >>= _ = b.constructor.bind _ args' >>= _
  exact congrArg (· >>= _) hbind

/-- Stores the names that are bound so far, in their order. -/
def recorder : Plugin :=
  ⟨"recorder", fun _ _ => some (.statement (.custom "self.bound = names();" fun frame =>
    .ok { frame with self := frame.self.setSlot "bound" (.ofList .str frame.locals.keys) }))⟩

def recording : Builder :=
  Start.new.run [.register recorder, .define ⟨"a", Settings.new.option true⟩,
    .define ⟨"b", Settings.new.option true⟩, .tolerance .ignore]

/-- The names are bound in declaration order for both calls, and `"y"` and `"z"` for neither. -/
theorem instantiate_recording :
    ∃ self : Instance,
      (recording.install .empty).instantiate "Log"
        (.ofLists [] [("b", .int 2), ("z", .nil), ("a", .int 1)]) = .ok self ∧
      self.slots.toList =
        [("a", .int 1), ("bound", .list [.str "a", .str "b"]), ("b", .int 2)] ∧
      (recording.install .empty).instantiate "Log"
        (.ofLists [] [("a", .int 1), ("y", .int 3), ("b", .int 2)]) = .ok self := by
  have h : ((recording.install .empty).instantiate "Log"
        (.ofLists [] [("b", .int 2), ("z", .nil), ("a", .int 1)])).map (·.slots.toList) =
      .ok [("a", .int 1), ("bound", .list [.str "a", .str "b"]), ("b", .int 2)] := rfl
  obtain ⟨self, hself, hslots⟩ := Except.map_eq_ok_iff.1 h
  have hagree : (Args.ofLists [] [("b", .int 2), ("z", .nil), ("a", .int 1)]).AgreeOn
      recording.signature.keywordNames (.ofLists [] [("a", .int 1), ("y", .int 3), ("b", .int 2)]) := by
    refine ⟨rfl, fun name hname => ?_⟩
    have hnames : recording.signature.keywordNames = ["a", "b"] := rfl
    rw [hnames] at hname
    simp only [List.mem_cons, List.not_mem_nil, or_false] at hname
    obtain rfl | rfl := hname <;> rfl
  refine ⟨self, hself, hslots, ?_⟩
  rw [← install_instantiate_congr hagree (.inl rfl), hself]

end Builder

end ClassForge
