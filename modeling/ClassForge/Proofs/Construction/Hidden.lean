import ClassForge.Proofs.Construction.Result

/-!
# Parameters without reader

What an instance shows does not depend on the values of the parameters that were declared without
reader, as long as no default of a readable parameter looks at them.

## Main definitions

- `Instance.AlikeBut` — instances that differ only in the values of some slots
- `DefaultFn.Overlooks` — a default that does not look at these values
- `Signature.DifferHidden` — calls that differ only in the values of hidden parameters
- `Instance.SameFace` — instances that cannot be told apart by their readers

## Main statements

- `Instance.AlikeBut.setSlots_given`, `Instance.AlikeBut.setSlots_defaults` — both loops of a
  construction keep instances alike
- `Class.Standard.sameFace_of_instantiate` — calls that differ only in hidden parameters make
  instances with the same face
-/

namespace ClassForge

open Parameter (Fills supplied)

/-- The names of the parameters that were declared without reader. -/
def Signature.hiddenNames (s : Signature) : List String :=
  (s.parameters.filter (!·.settings.hasReader)).map Parameter.name

/-- Two instances that differ in nothing but the values of the slots with some names. -/
structure Instance.AlikeBut (names : List String) (a b : Instance) : Prop where
  className : a.className = b.className
  readers : a.readers = b.readers
  unknownOptions : a.unknownOptions = b.unknownOptions
  keys : a.slots.keys = b.slots.keys
  slot? (name : String) (h : name ∉ names) : a.slot? name = b.slot? name

/-- A default that gives the same value for instances that differ only in these slots. -/
def DefaultFn.Overlooks (f : DefaultFn) (names : List String) : Prop :=
  ∀ a b : Instance, a.AlikeBut names b → f a = f b

/-- Two calls with as many positional arguments and the same keywords in the same order. Where their
values differ, they are those of a parameter without reader. -/
structure Signature.DifferHidden (s : Signature) (a b : Args) : Prop where
  length : a.positional.length = b.positional.length
  keys : a.keywords.keys = b.keywords.keys
  positional (i : Nat) : a.positional[i]? ≠ b.positional[i]? →
    ∃ p, s.positionals[i]? = some p ∧ p.settings.hasReader = false
  keyword (name : String) : a.keyword? name ≠ b.keyword? name →
    ∃ p ∈ s.keywords, p.name = name ∧ p.settings.hasReader = false

/-- What instances show to those who have only their readers. -/
structure Instance.SameFace (a b : Instance) : Prop where
  json : a.json = b.json
  prettyJson : a.prettyJson = b.prettyJson
  read (name : String) : a.read name = b.read name
  respondsTo (name : String) : a.respondsTo name = b.respondsTo name
  unknownOptions : a.unknownOptions = b.unknownOptions

/-! ### The arguments of two calls -/

namespace Signature

variable {s : Signature} {p : Parameter} {a b : Args}

theorem mem_hiddenNames (hp : p ∈ s.parameters) :
    p.name ∈ s.hiddenNames ↔ p.settings.hasReader = false := by
  rw [hiddenNames, List.mem_map]
  constructor
  · rintro ⟨q, hq, hname⟩
    obtain ⟨hq, hhidden⟩ := List.mem_filter.1 hq
    rw [eq_of_name_eq hq hp hname] at hhidden
    simpa using hhidden
  · intro hhidden
    exact ⟨p, List.mem_filter.2 ⟨hp, by simpa using hhidden⟩, rfl⟩

namespace DifferHidden

theorem isSome_argument? (h : s.DifferHidden a b) (p : Parameter) :
    (s.argument? a p).isSome = (s.argument? b p).isSome := by
  rw [argument?, argument?]
  cases p.kind with
  | positional => rw [Bool.eq_iff_iff, isSome_getElem?, isSome_getElem?, h.length]
  | keyword =>
    simp only [Args.keyword?, ← OrderedMap.contains_eq_isSome_get?, OrderedMap.contains, h.keys]

theorem argument?_eq (h : s.DifferHidden a b) (hp : p ∈ s.parameters)
    (hreader : p.settings.hasReader = true) : s.argument? a p = s.argument? b p := by
  by_contra hne
  suffices hq : ∃ q ∈ s.parameters, q.name = p.name ∧ q.settings.hasReader = false by
    obtain ⟨q, hq, hname, hhidden⟩ := hq
    rw [eq_of_name_eq hq hp hname, hreader] at hhidden
    cases hhidden
  rw [argument?, argument?] at hne
  cases hk : p.kind with
  | positional =>
    simp only [hk] at hne
    obtain ⟨q, hq, hhidden⟩ := h.positional _ hne
    have hmem : p.name ∈ s.positionalNames := List.mem_map_of_mem (mem_positionals.2 ⟨hp, hk⟩)
    have hname : s.positionalNames[s.positionalNames.idxOf p.name]? = some q.name := by
      rw [positionalNames, List.getElem?_map, ← positionalNames, hq]
      rfl
    rw [List.getElem?_idxOf hmem, Option.some_inj] at hname
    exact ⟨q, (mem_positionals.1 (List.mem_of_getElem? hq)).1, hname.symm, hhidden⟩
  | keyword =>
    simp only [hk] at hne
    obtain ⟨q, hq, hname, hhidden⟩ := h.keyword _ hne
    exact ⟨q, (mem_keywords.1 hq).1, hname, hhidden⟩

/-- An undeclared keyword has the same value in both calls, also if a hidden parameter passed by
position has its name. -/
theorem undeclared_eq (h : s.DifferHidden a b) : s.undeclared a = s.undeclared b := by
  rw [undeclared, undeclared]
  refine OrderedMap.ext_get? ?_ fun k _ => ?_
  · rw [OrderedMap.keys_filterKeys, OrderedMap.keys_filterKeys, h.keys]
  · rw [OrderedMap.get?_filterKeys, OrderedMap.get?_filterKeys]
    by_cases hk : k ∈ s.keywordNames
    · simp [hk]
    · have heq : a.keywords.get? k = b.keywords.get? k := by
        by_contra hne
        obtain ⟨q, hq, rfl, _⟩ := h.keyword k hne
        exact hk (List.mem_map_of_mem hq)
      rw [heq]

theorem omitted_eq (h : s.DifferHidden a b) (ps : List Parameter) :
    ps.filter (s.argument? a · |>.isNone) = ps.filter (s.argument? b · |>.isNone) := by
  refine List.filter_congr fun p _ => ?_
  rw [← Option.not_isSome, ← Option.not_isSome, h.isSome_argument? p]

end DifferHidden

end Signature

theorem Class.start_congr {c : Class} {a b : Args} (h : c.builder.signature.DifferHidden a b) :
    c.start a = c.start b := by
  rw [start, start, h.undeclared_eq]

/-! ### Two constructions -/

namespace Instance.AlikeBut

variable {names : List String} {a b : Instance} {ps : List Parameter}

theorem refl (names : List String) (a : Instance) : a.AlikeBut names a :=
  ⟨rfl, rfl, rfl, rfl, fun _ _ => rfl⟩

/-- One slot is set in both, to the same value unless it is one of the slots in which they may differ. -/
theorem setSlot (h : a.AlikeBut names b) {name : String} {v w : Value}
    (hv : name ∉ names → v = w) : (a.setSlot name v).AlikeBut names (b.setSlot name w) where
  className := h.className
  readers := h.readers
  unknownOptions := h.unknownOptions
  keys := by
    show (a.slots.insert name v).keys = (b.slots.insert name w).keys
    by_cases hmem : name ∈ a.slots.keys
    · rw [OrderedMap.keys_insert_of_mem hmem, OrderedMap.keys_insert_of_mem (h.keys ▸ hmem), h.keys]
    · rw [OrderedMap.keys_insert_of_not_mem hmem,
        OrderedMap.keys_insert_of_not_mem (h.keys ▸ hmem), h.keys]
  slot? other hother := by
    show (a.slots.insert name v).get? other = (b.slots.insert name w).get? other
    rw [OrderedMap.get?_insert, OrderedMap.get?_insert]
    by_cases hname : other = name
    · rw [if_pos hname, if_pos hname, hv (hname ▸ hother)]
    · rw [if_neg hname, if_neg hname]
      exact h.slot? other hother

/-- The slots of supplied parameters, of which the same ones are supplied to both. -/
theorem setSlots_given {x y : Parameter → Option Value} {given given' : List (String × Value)}
    (hsome : ∀ p ∈ ps, (x p).isSome = (y p).isSome)
    (heq : ∀ p ∈ ps, p.name ∉ names → x p = y p)
    (hx : List.Forall₂ (fun x e => e.1 = x.1.name ∧ x.1.accept x.2 = .ok e.2)
      (supplied x ps) given)
    (hy : List.Forall₂ (fun x e => e.1 = x.1.name ∧ x.1.accept x.2 = .ok e.2)
      (supplied y ps) given')
    (h : a.AlikeBut names b) : (a.setSlots given).AlikeBut names (b.setSlots given') := by
  induction ps generalizing a b given given' with
  | nil =>
    cases hx
    cases hy
    exact h
  | cons p ps ih =>
    have hsome' := fun q hq => hsome q (List.mem_cons_of_mem p hq)
    have heq' := fun q hq => heq q (List.mem_cons_of_mem p hq)
    have hp := hsome p List.mem_cons_self
    cases hxp : x p with
    | none =>
      have hyp : y p = none := by simpa [hxp] using hp
      rw [Parameter.supplied_cons_of_none hxp] at hx
      rw [Parameter.supplied_cons_of_none hyp] at hy
      exact ih hsome' heq' hx hy h
    | some v =>
      obtain ⟨w, hyp⟩ : ∃ w, y p = some w := Option.isSome_iff_exists.1 (by rw [← hp, hxp]; rfl)
      rw [Parameter.supplied_cons_of_some hxp] at hx
      rw [Parameter.supplied_cons_of_some hyp] at hy
      obtain ⟨⟨_, v'⟩, given, ⟨rfl, hv⟩, hxs, rfl⟩ := List.forall₂_cons_left_iff.1 hx
      obtain ⟨⟨_, w'⟩, given', ⟨rfl, hw⟩, hys, rfl⟩ := List.forall₂_cons_left_iff.1 hy
      -- A visible parameter has one argument, which passes its type with one result.
      rw [setSlots_cons, setSlots_cons]
      refine ih hsome' heq' hxs hys (h.setSlot fun hvisible => ?_)
      have hvw : v = w := by
        have he := heq p List.mem_cons_self hvisible
        rwa [hxp, hyp, Option.some_inj] at he
      exact Except.ok.inj (hv.symm.trans (hvw ▸ hw))

/-- The slots of omitted parameters, whose defaults are computed while the instances are alike. -/
theorem setSlots_defaults {defaults defaults' : List (String × Value)}
    (hf : ∀ p ∈ ps, p.name ∉ names → ∀ f, p.settings.defaultFn = some f →
      DefaultFn.Overlooks f names)
    (ha : Fills a ps defaults) (hb : Fills b ps defaults') (h : a.AlikeBut names b) :
    (a.setSlots defaults).AlikeBut names (b.setSlots defaults') := by
  induction ha generalizing b defaults' with
  | nil =>
    cases hb
    exact h
  | @cons a p f ps _ hd _ ih =>
    cases hb with
    | cons hd' hb =>
      obtain rfl := Option.some.inj (hd.symm.trans hd')
      rw [setSlots_cons, setSlots_cons]
      refine ih (fun q hq => hf q (List.mem_cons_of_mem p hq)) hb (h.setSlot fun hvisible => ?_)
      exact hf p List.mem_cons_self hvisible f hd a b h

/-- Slots that no reader shows are not part of the face. -/
theorem sameFace (h : a.AlikeBut names b) (hr : ∀ name ∈ a.readers.names, name ∉ names) :
    a.SameFace b := by
  have hrespond (name : String) : a.respondsTo name = b.respondsTo name := by
    rw [respondsTo, respondsTo, h.readers]
  have hjson : a.toJson = b.toJson := by
    rw [toJson, toJson, ← h.readers]
    refine congrArg Json.obj (List.map_congr_left fun name hname => ?_)
    rw [h.slot? name (hr name hname)]
  refine ⟨?_, ?_, ?_, hrespond, h.unknownOptions⟩
  · rw [json, json, hjson]
  · rw [prettyJson, prettyJson, hjson]
  · intro name
    rw [Instance.read, Instance.read, ← hrespond name, h.className]
    cases hname : a.respondsTo name with
    | false => rfl
    | true =>
      have hmem : name ∈ a.readers.names := NameSet.contains_eq_true_iff.1 hname
      rw [h.slot? name (hr name hmem)]

end Instance.AlikeBut

namespace Class.Standard

variable {c : Class} {args args' : Args} {self other : Instance}

/-- Two calls that differ only in the values of parameters without reader make instances that look the
same through their readers, in JSON and in their unknown options, unless the default of a readable
parameter lets one of these values out. -/
theorem sameFace_of_instantiate (hc : c.Standard)
    (hf : ∀ p ∈ c.builder.signature.parameters, p.settings.hasReader = true →
      ∀ f, p.settings.defaultFn = some f →
        DefaultFn.Overlooks f c.builder.signature.hiddenNames)
    (hargs : c.builder.signature.DifferHidden args args')
    (h : c.instantiate args = .ok self) (h' : c.instantiate args' = .ok other) :
    self.SameFace other := by
  have hvisible : ∀ p ∈ c.builder.signature.parameters,
      p.name ∉ c.builder.signature.hiddenNames → p.settings.hasReader = true := by
    intro p hp hn
    simpa [Signature.mem_hiddenNames hp] using hn
  obtain ⟨given, defaults, rfl, -, hgiven, hdefaults⟩ := hc.exists_setSlots_of_instantiate h
  obtain ⟨given', defaults', rfl, -, hgiven', hdefaults'⟩ := hc.exists_setSlots_of_instantiate h'
  rw [← hargs.omitted_eq, ← start_congr hargs] at hdefaults'
  rw [← start_congr hargs]
  have hstart := Instance.AlikeBut.refl c.builder.signature.hiddenNames (c.start args)
  have hbound := hstart.setSlots_given (fun p _ => hargs.isSome_argument? p)
    (fun p hp hn => hargs.argument?_eq hp (hvisible p hp hn)) hgiven hgiven'
  have hmade := hbound.setSlots_defaults
    (fun p hp hn => hf p (List.mem_of_mem_filter hp) (hvisible p (List.mem_of_mem_filter hp) hn))
    hdefaults hdefaults'
  refine hmade.sameFace fun name hname hhidden => ?_
  have hreaders : name ∈ c.builder.readerNames.names := hname
  rw [Builder.names_readerNames, List.mem_map] at hreaders
  obtain ⟨p, hp, rfl⟩ := hreaders
  obtain ⟨hp, hreader⟩ := List.mem_filter.1 hp
  rw [Signature.mem_hiddenNames hp, hreader] at hhidden
  cases hhidden

/-- A class with a hidden position, to which another hidden parameter defaults. -/
def account : Except Fault Class := do
  let c ← (Class.new "Account").param "pin" ((Settings.new.ofType .integer).withReader false)
  let c ← c.param "owner" Settings.new
  let c ← c.option "salt"
    ((Settings.new.defaultWith fun self => (self.slot? "pin").getD .nil).withReader false)
  c.option "label" (Settings.new.defaultWith fun self => (self.slot? "owner").getD .nil)

theorem standard_of_account (h : account = .ok c) : c.Standard := by
  obtain ⟨d, hd, h⟩ := Except.bind_eq_ok_iff.1 h
  obtain ⟨e, he, h⟩ := Except.bind_eq_ok_iff.1 h
  obtain ⟨f, hf, h⟩ := Except.bind_eq_ok_iff.1 h
  exact .option (.option (.param (.param (.root "Account" .new) hd) he) hf) h

/-- Two slots differ, and neither shows. -/
theorem sameFace_account :
    ∃ (c : Class) (self other : Instance), c.Standard ∧
      c.instantiate (.ofLists [.int 1, .str "ann"] []) = .ok self ∧
      self.slots.toList =
        [("pin", .int 1), ("owner", .str "ann"), ("salt", .int 1), ("label", .str "ann")] ∧
      c.instantiate (.ofLists [.int 2, .str "ann"] []) = .ok other ∧
      other.slots.toList =
        [("pin", .int 2), ("owner", .str "ann"), ("salt", .int 2), ("label", .str "ann")] ∧
      self.SameFace other := by
  let pin : Parameter := ⟨"pin", ((Settings.new.ofType .integer).withReader false).option false⟩
  let salt : DefaultFn := fun self => (self.slot? "pin").getD .nil
  let label : DefaultFn := fun self => (self.slot? "owner").getD .nil
  have h : account.map (fun c =>
        ((c.instantiate (.ofLists [.int 1, .str "ann"] [])).map (·.slots.toList),
          (c.instantiate (.ofLists [.int 2, .str "ann"] [])).map (·.slots.toList),
          c.builder.signature.parameters)) =
      .ok (.ok [("pin", .int 1), ("owner", .str "ann"), ("salt", .int 1), ("label", .str "ann")],
        .ok [("pin", .int 2), ("owner", .str "ann"), ("salt", .int 2), ("label", .str "ann")],
        [pin, ⟨"owner", Settings.new.option false⟩,
          ⟨"salt", ((Settings.new.defaultWith salt).withReader false).option true⟩,
          ⟨"label", (Settings.new.defaultWith label).option true⟩]) := rfl
  obtain ⟨c, hc, h⟩ := Except.map_eq_ok_iff.1 h
  obtain ⟨hresult, h⟩ := Prod.mk.inj h
  obtain ⟨hresult', hparameters⟩ := Prod.mk.inj h
  obtain ⟨self, hself, hslots⟩ := Except.map_eq_ok_iff.1 hresult
  obtain ⟨other, hother, hslots'⟩ := Except.map_eq_ok_iff.1 hresult'
  have hstandard := standard_of_account hc
  have hoverlooks : ∀ p ∈ c.builder.signature.parameters, p.settings.hasReader = true →
      ∀ f, p.settings.defaultFn = some f →
        DefaultFn.Overlooks f c.builder.signature.hiddenNames := by
    intro p hp hreader f hdefault
    rw [Signature.hiddenNames, hparameters]
    rw [hparameters] at hp
    simp only [List.mem_cons, List.not_mem_nil, or_false] at hp
    obtain rfl | rfl | rfl | rfl := hp
    · cases hreader
    · cases hdefault
    · cases hreader
    · obtain rfl : label = f := Option.some.inj hdefault
      intro a b hab
      simp only [label, hab.slot? "owner" (by decide)]
  have hargs : c.builder.signature.DifferHidden (.ofLists [.int 1, .str "ann"] [])
      (.ofLists [.int 2, .str "ann"] []) := by
    refine ⟨rfl, rfl, ?_, fun name hne => absurd rfl hne⟩
    intro i hne
    match i with
    | 0 => exact ⟨pin, by rw [Signature.positionals, hparameters]; rfl, rfl⟩
    | i + 1 => exact absurd rfl hne
  exact ⟨c, self, other, hstandard, hself, hslots, hother, hslots',
    hstandard.sameFace_of_instantiate hoverlooks hargs hself hother⟩

end Class.Standard

end ClassForge
