import ClassForge.Proofs.Construction.Result
import ClassForge.Proofs.Signature.Declaration

/-!
# Substituting subclasses

A subclass that adds only parameters with defaults takes every call that its parent takes, as long as
the call uses no keyword of its own, and makes of it what the parent makes, with more slots behind.

## Main definitions

- `Instance.Alike`, `DefaultFn.SeesSlots` — what a default may look at
- `Class.ExtendedBy` — the subclasses in question
- `Signature.Widens` — what they do to the signature

## Main statements

- `Signature.Widens.argument?_of_mem`, `Signature.Widens.argument?_of_extra` — the arguments of
  inherited and of further parameters
- `Callback.callAll_alike` — defaults run alike on parent and subclass
- `Class.Standard.instantiate_of_extendedBy` — the subclass stands in for its parent
-/

namespace ClassForge

/-- The same slots in the same order, and the same unknown options. -/
structure Instance.Alike (a b : Instance) : Prop where
  slots : a.slots = b.slots
  unknownOptions : a.unknownOptions = b.unknownOptions

/-- A default that depends on nothing of an instance but its slots and unknown options. -/
def DefaultFn.SeesSlots (f : DefaultFn) : Prop :=
  ∀ a b : Instance, a.Alike b → f a = f b

/-- The subclasses of a class, at any depth, whose own parameters all have defaults. -/
inductive Class.ExtendedBy (p : Class) : Class → Prop
  | subclass (name : String) : ExtendedBy p (p.subclass name)
  | deeper {c : Class} (name : String) : ExtendedBy p c → ExtendedBy p (c.subclass name)
  | param {c d : Class} {name : String} {settings : Settings} :
      ExtendedBy p c → settings.hasDefault = true → c.param name settings = .ok d → ExtendedBy p d
  | option {c d : Class} {name : String} {settings : Settings} :
      ExtendedBy p c → settings.hasDefault = true → c.option name settings = .ok d → ExtendedBy p d

/-! ### Signatures with further parameters -/

/-- A signature with further parameters, all of them with defaults. -/
structure Signature.Widens (s t : Signature) (extra : List Parameter) : Prop where
  parameters : t.parameters = s.parameters ++ extra
  optional : ∀ p ∈ extra, p.hasDefault = true

namespace Signature.Widens

variable {s t u : Signature} {extra more : List Parameter} {args : Args} {p : Parameter}

theorem refl (s : Signature) : s.Widens s [] :=
  ⟨by simp, by simp⟩

theorem trans (h : s.Widens t extra) (h' : t.Widens u more) : s.Widens u (extra ++ more) where
  parameters := by rw [h'.parameters, h.parameters, List.append_assoc]
  optional p hp := (List.mem_append.1 hp).elim (h.optional p) (h'.optional p)

theorem of_add {name : String} {settings : Settings} (hd : settings.hasDefault = true)
    (h : s.add name settings = .ok t) : s.Widens t [⟨name, settings⟩] where
  parameters := parameters_of_add h
  optional p hp := by rwa [List.mem_singleton.1 hp]

variable (h : s.Widens t extra)
include h

theorem positionals_eq : t.positionals = s.positionals ++ extra.filter (·.isPositional) := by
  rw [positionals, h.parameters, List.filter_append]
  rfl

theorem keywords_eq : t.keywords = s.keywords ++ extra.filter (·.isKeyword) := by
  rw [keywords, h.parameters, List.filter_append]
  rfl

theorem positionalNames_eq :
    t.positionalNames = s.positionalNames ++ (extra.filter (·.isPositional)).map Parameter.name := by
  rw [positionalNames, h.positionals_eq, List.map_append]
  rfl

theorem mem_keywordNames {name : String} (hn : name ∈ s.keywordNames) : name ∈ t.keywordNames := by
  rw [keywordNames, h.keywords_eq, List.map_append]
  exact List.mem_append_left _ hn

/-- No further argument is required. -/
theorem required_eq : t.required = s.required := by
  have hextra : (extra.filter (·.isPositional)).filter (·.settings.defaultFn.isNone) = [] := by
    rw [List.filter_eq_nil_iff]
    intro p hp
    simp [← Parameter.not_hasDefault, h.optional p (List.mem_of_mem_filter hp)]
  rw [required, h.positionals_eq, List.filter_append, hextra, List.append_nil]
  rfl

/-- An inherited parameter keeps its place. -/
theorem argument?_of_mem (hp : p ∈ s.parameters) : t.argument? args p = s.argument? args p := by
  rw [argument?, argument?]
  cases hk : p.kind with
  | keyword => rfl
  | positional =>
    have hmem : p.name ∈ s.positionalNames :=
      List.mem_map_of_mem (mem_positionals.2 ⟨hp, hk⟩)
    rw [h.positionalNames_eq, List.idxOf_append_of_mem hmem]

theorem not_mem_of_extra (hp : p ∈ extra) : p.name ∉ s.parameters.map Parameter.name := by
  have hw := t.wellDeclared
  rw [h.parameters] at hw
  exact hw.not_mem_of_append hp

/-- A call of the narrow signature leaves the further parameters out. -/
theorem argument?_of_extra (bounded : args.positional.length ≤ s.positionals.length)
    (declared : ∀ k ∈ args.keywords.keys, k ∈ s.keywordNames) (hp : p ∈ extra) :
    t.argument? args p = none := by
  have hfresh := h.not_mem_of_extra hp
  rw [argument?]
  cases hk : p.kind with
  | keyword =>
    have hkeyword : p.name ∉ s.keywordNames := fun hn =>
      hfresh ((List.filter_sublist.map Parameter.name).subset hn)
    exact OrderedMap.get?_eq_none_iff.2 fun hn => hkeyword (declared _ hn)
  | positional =>
    have hpositional : p.name ∉ s.positionalNames := fun hn =>
      hfresh ((List.filter_sublist.map Parameter.name).subset hn)
    have hlength : s.positionalNames.length = s.positionals.length := List.length_map _
    rw [h.positionalNames_eq, List.idxOf_append_of_notMem hpositional, List.getElem?_eq_none_iff]
    omega

theorem supplied_eq (bounded : args.positional.length ≤ s.positionals.length)
    (declared : ∀ k ∈ args.keywords.keys, k ∈ s.keywordNames) :
    Parameter.supplied (t.argument? args) t.parameters =
      Parameter.supplied (s.argument? args) s.parameters := by
  have hextra : Parameter.supplied (t.argument? args) extra = [] := by
    rw [Parameter.supplied, List.filterMap_eq_nil_iff]
    intro p hp
    rw [h.argument?_of_extra bounded declared hp]
    rfl
  have happend : Parameter.supplied (t.argument? args) t.parameters =
      Parameter.supplied (t.argument? args) s.parameters ++
        Parameter.supplied (t.argument? args) extra := by
    rw [h.parameters]
    exact List.filterMap_append
  rw [happend, hextra, List.append_nil]
  exact Parameter.supplied_congr fun p hp => h.argument?_of_mem hp

/-- Nothing is left over of the keywords either way. -/
theorem undeclared_eq (declared : ∀ k ∈ args.keywords.keys, k ∈ s.keywordNames) :
    t.undeclared args = s.undeclared args := by
  rw [undeclared, undeclared]
  apply OrderedMap.filterKeys_congr
  intro k hk
  have hs := declared k hk
  simp [hs, h.mem_keywordNames hs]

end Signature.Widens

/-- A call that uses no keywords but those of the narrow signature is accepted for the wide one too. -/
theorem Constructor.Accepts.widen {c d : Constructor} {extra : List Parameter} {args : Args}
    (hw : c.signature.Widens d.signature extra)
    (declared : ∀ k ∈ args.keywords.keys, k ∈ c.signature.keywordNames) (h : c.Accepts args) :
    d.Accepts args where
  enough := hw.required_eq ▸ h.enough
  bounded := by
    rw [hw.positionals_eq, List.length_append]
    exact Nat.le_add_right_of_le h.bounded
  complete := by
    rw [hw.keywords_eq, List.find?_append, h.complete, Option.none_or, List.find?_eq_none]
    intro p hp
    simp [Parameter.isMissingFrom, hw.optional p (List.mem_of_mem_filter hp)]
  known _ := by
    rw [List.find?_eq_none]
    intro k hk
    simp [hw.mem_keywordNames (declared k hk)]

namespace Class.ExtendedBy

variable {p c : Class}

theorem standard (h : p.ExtendedBy c) (hp : p.Standard) : c.Standard := by
  induction h with
  | subclass name => exact .subclass name hp
  | deeper name _ ih => exact .subclass name ih
  | param _ _ hd ih => exact .param ih hd
  | option _ _ hd ih => exact .option ih hd

theorem widens (h : p.ExtendedBy c) :
    c.tolerance = p.tolerance ∧
      ∃ extra, p.builder.signature.Widens c.builder.signature extra := by
  induction h with
  | subclass => exact ⟨rfl, [], .refl _⟩
  | deeper _ _ ih => exact ih
  | param _ hdefault hd ih | option _ hdefault hd ih =>
    obtain ⟨htolerance, extra, hw⟩ := ih
    obtain ⟨b, hb, rfl⟩ := Except.map_eq_ok_iff.1 hd
    obtain ⟨s, hs, rfl⟩ := Except.map_eq_ok_iff.1 hb
    refine ⟨htolerance, _, hw.trans (.of_add ?_ hs)⟩
    exact hdefault

end Class.ExtendedBy

/-! ### Instances that are alike -/

namespace Instance.Alike

variable {a b : Instance}

theorem setSlot (h : a.Alike b) (name : String) (v : Value) :
    (a.setSlot name v).Alike (b.setSlot name v) where
  slots := by rw [Instance.setSlot, Instance.setSlot, h.slots]
  unknownOptions := h.unknownOptions

theorem setSlots (h : a.Alike b) (slots : List (String × Value)) :
    (a.setSlots slots).Alike (b.setSlots slots) where
  slots := by rw [Instance.setSlots, Instance.setSlots, h.slots]
  unknownOptions := h.unknownOptions

/-- Filling a slot keeps instances alike. -/
theorem fillSlot (h : a.Alike b) (name : String) {f : DefaultFn} (hf : f.SeesSlots) :
    ∃ a' b', (Plugin.fillSlot name f).call a = .ok a' ∧ (Plugin.fillSlot name f).call b = .ok b' ∧
      a'.Alike b' := by
  have hset : b.isSet name = a.isSet name := by rw [isSet, isSet, h.slots]
  cases hs : a.isSet name with
  | true =>
    refine ⟨a, b, ?_, ?_, h⟩
    · simp [Plugin.fillSlot, Callback.call, hs]
    · simp [Plugin.fillSlot, Callback.call, hset, hs]
  | false =>
    refine ⟨a.setSlot name (f a), b.setSlot name (f b), ?_, ?_, ?_⟩
    · simp [Plugin.fillSlot, Callback.call, hs]
    · simp [Plugin.fillSlot, Callback.call, hset, hs]
    · rw [hf a b h]
      exact h.setSlot name (f b)

end Instance.Alike

namespace Callback

variable {ps : List Parameter} {a b : Instance}

theorem callAll_append (cs ds : List Callback) (self : Instance) :
    callAll (cs ++ ds) self = callAll cs self >>= callAll ds :=
  List.foldlM_append ..

/-- The defaults of the same parameters keep instances alike. -/
theorem callAll_alike
    (hf : ∀ p ∈ ps, ∀ f, p.settings.defaultFn = some f → DefaultFn.SeesSlots f) (h : a.Alike b) :
    ∃ a' b', callAll (ps.filterMap Parameter.fallback?) a = .ok a' ∧
      callAll (ps.filterMap Parameter.fallback?) b = .ok b' ∧ a'.Alike b' := by
  induction ps generalizing a b with
  | nil => exact ⟨a, b, rfl, rfl, h⟩
  | cons p ps ih =>
    have hrest := fun q hq => hf q (List.mem_cons_of_mem p hq)
    cases hdef : p.settings.defaultFn with
    | none =>
      rw [List.filterMap_cons_none (by rw [Parameter.fallback?, hdef]; rfl)]
      exact ih hrest h
    | some f =>
      rw [List.filterMap_cons_some (by rw [Parameter.fallback?, hdef]; rfl)]
      obtain ⟨a₁, b₁, ha, hb, h₁⟩ := h.fillSlot p.name (hf p List.mem_cons_self f hdef)
      obtain ⟨a₂, b₂, ha', hb', h₂⟩ := ih hrest h₁
      refine ⟨a₂, b₂, ?_, ?_, h₂⟩
      · rw [callAll, List.foldlM_cons, ha]
        exact ha'
      · rw [callAll, List.foldlM_cons, hb]
        exact hb'

/-- The defaults of further parameters put their slots behind those that are set. -/
theorem exists_callAll_fallback (hd : (ps.map Parameter.name).Nodup)
    (hdef : ∀ p ∈ ps, p.hasDefault = true) (self : Instance) :
    ∃ slots, callAll (ps.filterMap Parameter.fallback?) self = .ok (self.setSlots slots) ∧
      (self.setSlots slots).slots.toList = self.slots.toList ++ slots := by
  have hfill : ∀ p ∈ ps, self.isSet p.name = false → p.hasDefault = true :=
    fun p hp _ => hdef p hp
  obtain ⟨slots, hfills, hcall⟩ := callAll_fallback hd hfill
  refine ⟨slots, hcall, ?_⟩
  refine OrderedMap.toList_insertAll ?_
  rw [hfills.map_fst, List.nodup_append]
  refine ⟨self.slots.distinct, hd.sublist (List.filter_sublist.map _), ?_⟩
  intro name hset other hmem e
  obtain ⟨p, hp, rfl⟩ := List.mem_map.1 hmem
  have hunset : self.isSet p.name = false := by simpa using (List.mem_filter.1 hp).2
  rw [Instance.isSet, OrderedMap.contains_eq_true_iff.2 (e ▸ hset)] at hunset
  cases hunset

end Callback

namespace Class.Standard

variable {p c : Class} {args : Args} {self : Instance}

/-- A call that the parent takes, the subclass takes too, if all keywords are those of the parent. Its
instance begins with the slots of the parent's and has the same unknown options. -/
theorem instantiate_of_extendedBy (hp : p.Standard)
    (hf : ∀ q ∈ p.builder.signature.parameters, ∀ f, q.settings.defaultFn = some f →
      DefaultFn.SeesSlots f)
    (hc : p.ExtendedBy c)
    (declared : ∀ k ∈ args.keywords.keys, k ∈ p.builder.signature.keywordNames)
    (h : p.instantiate args = .ok self) :
    ∃ other, c.instantiate args = .ok other ∧ self.slots.toList <+: other.slots.toList ∧
      other.unknownOptions = self.unknownOptions := by
  obtain ⟨htolerance, extra, hw⟩ := hc.widens
  have ha := hp.accepts_of_instantiate h
  have ha' : c.builder.constructor.Accepts args := ha.widen hw declared
  rw [hp.instantiate_of_accepts ha, Except.bind_eq_ok_iff] at h
  obtain ⟨given, hgiven, hcall⟩ := h
  have hgiven' : Parameter.acceptAll c.name (Parameter.supplied
      (c.builder.signature.argument? args) c.builder.signature.parameters) = .ok given := by
    rw [hw.supplied_eq ha.bounded declared, Parameter.acceptAll_eq_ok_iff]
    exact Parameter.acceptAll_eq_ok_iff.1 hgiven
  -- Both start alike, and the defaults of the parent come first in both.
  have hstart : (p.start args).Alike (c.start args) :=
    ⟨rfl, by rw [start, start, htolerance, hw.undeclared_eq declared]⟩
  obtain ⟨a, b, hcalla, hcallb, hab⟩ := Callback.callAll_alike hf (hstart.setSlots given)
  obtain rfl : self = a := Except.ok.inj (hcall.symm.trans hcalla)
  have hnodup : (extra.map Parameter.name).Nodup := by
    have hd := c.builder.signature.wellDeclared.distinct
    rw [hw.parameters, List.map_append] at hd
    exact hd.of_append_right
  obtain ⟨slots, hextra, hslots⟩ := Callback.exists_callAll_fallback hnodup hw.optional b
  refine ⟨b.setSlots slots, ?_, ?_, hab.unknownOptions.symm⟩
  · rw [(hc.standard hp).instantiate_of_accepts ha', hgiven', Except.ok_bind, hw.parameters,
      List.filterMap_append, Callback.callAll_append, hcallb, Except.ok_bind, hextra]
  · rw [hslots, hab.slots]
    exact List.prefix_append _ _

/-- A class whose last option has another parameter as default. -/
def point : Except Fault Class := do
  let c ← (Class.new "Point").param "x" (Settings.new.ofType .integer)
  let c ← c.option "scale" Settings.new
  c.option "image" (Settings.new.defaultWith fun self => (self.slot? "x").getD .nil)

/-- A subclass with a default for the parent's slot and one for the name of the class. -/
def label (c : Class) : Except Fault Class := do
  let d ← (c.subclass "Label").param "y"
    (Settings.new.defaultWith fun self => (self.slot? "image").getD .nil)
  d.option "owner" (Settings.new.defaultWith fun self => .str self.className)

theorem extendedBy_of_label (h : label p = .ok c) : p.ExtendedBy c := by
  obtain ⟨d, hd, h⟩ := Except.bind_eq_ok_iff.1 h
  exact .option (.param (.subclass "Label") rfl hd) rfl h

theorem standard_of_point (h : point = .ok p) : p.Standard := by
  obtain ⟨d, hd, h⟩ := Except.bind_eq_ok_iff.1 h
  obtain ⟨e, he, h⟩ := Except.bind_eq_ok_iff.1 h
  exact .option (.option (.param (.root "Point" .new) hd) he) h

theorem instantiate_label :
    ∃ p c : Class, ∃ self other, p.Standard ∧ p.ExtendedBy c ∧
      p.instantiate (.ofLists [.int 7] [("scale", .int 2)]) = .ok self ∧
      self.slots.toList = [("x", .int 7), ("scale", .int 2), ("image", .int 7)] ∧
      c.instantiate (.ofLists [.int 7] [("scale", .int 2)]) = .ok other ∧
      self.slots.toList <+: other.slots.toList ∧ other.unknownOptions = self.unknownOptions := by
  let image : DefaultFn := fun self => (self.slot? "x").getD .nil
  have h : (point >>= fun p => (label p).map fun _ =>
        ((p.instantiate (.ofLists [.int 7] [("scale", .int 2)])).map (·.slots.toList),
          p.builder.signature.parameters)) =
      .ok (.ok [("x", .int 7), ("scale", .int 2), ("image", .int 7)],
        [⟨"x", (Settings.new.ofType .integer).option false⟩, ⟨"scale", Settings.new.option true⟩,
          ⟨"image", (Settings.new.defaultWith image).option true⟩]) := rfl
  obtain ⟨p, hp, h⟩ := Except.bind_eq_ok_iff.1 h
  obtain ⟨c, hc, h⟩ := Except.map_eq_ok_iff.1 h
  obtain ⟨hresult, hparameters⟩ := Prod.mk.inj h
  obtain ⟨self, hself, hslots⟩ := Except.map_eq_ok_iff.1 hresult
  have hstandard := standard_of_point hp
  have hextended := extendedBy_of_label hc
  have hsees : ∀ q ∈ p.builder.signature.parameters, ∀ f, q.settings.defaultFn = some f →
      DefaultFn.SeesSlots f := by
    intro q hq f hdef
    rw [hparameters] at hq
    simp only [List.mem_cons, List.not_mem_nil, or_false] at hq
    obtain rfl | rfl | rfl := hq
    · cases hdef
    · cases hdef
    · obtain rfl : image = f := Option.some.inj hdef
      intro a b hab
      simp only [image, Instance.slot?, hab.slots]
  have hdeclared : ∀ k ∈ (Args.ofLists [.int 7] [("scale", .int 2)]).keywords.keys,
      k ∈ p.builder.signature.keywordNames := by
    intro k hk
    obtain rfl : k = "scale" := List.mem_singleton.1 hk
    rw [Signature.keywordNames, Signature.keywords, hparameters]
    decide
  obtain ⟨other, hother, hpart, hunknown⟩ :=
    hstandard.instantiate_of_extendedBy hsees hextended hdeclared hself
  exact ⟨p, c, self, other, hstandard, hextended, hself, hslots, hother, hpart, hunknown⟩

end Class.Standard

end ClassForge
