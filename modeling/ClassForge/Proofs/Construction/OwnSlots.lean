import ClassForge.Proofs.Construction.Result

/-!
# Construction from an instance's own slots

A call that is made again with the values from the slots of its instance in place of the arguments has
the same outcome, if types accept the values that they give and leave them as they are.

## Main definitions

- `OrderedMap.mapWithKey` — other values, each from its key and the value before
- `Args.fedBack` — the call with the values that an instance holds
- `Parameter.Settled` — a parameter whose type does not change what it has accepted

## Main statements

- `Signature.argument?_fedBack`, `Signature.undeclared_fedBack` — what such a call supplies
- `Class.Standard.instantiate_fedBack` — it makes the same instance
-/

namespace ClassForge

namespace OrderedMap

variable {α β : Type}

/-- The map with other values, each of which comes from a key and the value that it had. -/
def mapWithKey (f : String → α → β) (m : OrderedMap α) : OrderedMap β :=
  tabulate m.keys m.distinct fun i => f (m.keys.get i) (m.value i)

@[simp] theorem keys_mapWithKey (f : String → α → β) (m : OrderedMap α) :
    (m.mapWithKey f).keys = m.keys := by
  rw [mapWithKey, tabulate_eq]

@[simp] theorem toList_mapWithKey (f : String → α → β) (m : OrderedMap α) :
    (m.mapWithKey f).toList = m.toList.map fun e => (e.1, f e.1 e.2) :=
  List.ext_getElem (by simp) (by simp [mapWithKey, tabulate_eq])

theorem get?_mapWithKey (f : String → α → β) (m : OrderedMap α) (key : String) :
    (m.mapWithKey f).get? key = (m.get? key).map (f key) := by
  apply Option.ext
  intro w
  rw [get?_eq_some_iff, toList_mapWithKey, List.mem_map, Option.map_eq_some_iff]
  constructor
  · rintro ⟨⟨key, v⟩, he, h⟩
    cases h
    exact ⟨v, get?_eq_some_iff.2 he, rfl⟩
  · rintro ⟨v, hv, rfl⟩
    exact ⟨(key, v), get?_eq_some_iff.1 hv, rfl⟩

end OrderedMap

/-- The value that an instance holds for a name, or another one if it holds none. -/
def Instance.slotOr (self : Instance) (name : String) (v : Value) : Value :=
  (self.slot? name).getD v

/-- The same call with the values that an instance holds in place of the arguments of parameters.
Undeclared keywords stay as they are. -/
def Args.fedBack (args : Args) (s : Signature) (self : Instance) : Args where
  positional := List.zipWith self.slotOr s.positionalNames args.positional
  keywords := args.keywords.mapWithKey fun name v =>
    if name ∈ s.keywordNames then self.slotOr name v else v

/-- The type of a parameter accepts what it gives and leaves it as it is. -/
def Parameter.Settled (p : Parameter) : Prop :=
  ∀ v w, p.accept v = .ok w → p.accept w = .ok w

/-! ### What the call supplies -/

namespace Signature

variable {s : Signature} {args : Args} {self : Instance} {p : Parameter}

/-- The same parameters are supplied, each with the value of its slot. -/
theorem argument?_fedBack (hp : p ∈ s.parameters) :
    s.argument? (args.fedBack s self) p = (s.argument? args p).map (self.slotOr p.name) := by
  rw [argument?, argument?]
  cases hk : p.kind with
  | positional =>
    have hname : p.name ∈ s.positionalNames := List.mem_map_of_mem (mem_positionals.2 ⟨hp, hk⟩)
    simp only [Args.fedBack, List.getElem?_zipWith, List.getElem?_idxOf hname]
    cases args.positional[s.positionalNames.idxOf p.name]? <;> rfl
  | keyword =>
    have hname : p.name ∈ s.keywordNames := List.mem_map_of_mem (mem_keywords.2 ⟨hp, hk⟩)
    simp only [Args.keyword?, Args.fedBack, OrderedMap.get?_mapWithKey, if_pos hname]

theorem undeclared_fedBack : s.undeclared (args.fedBack s self) = s.undeclared args := by
  refine OrderedMap.ext_get? (by simp [undeclared, Args.fedBack]) fun key hkey => ?_
  have hname : key ∉ s.keywordNames := by
    rw [undeclared, OrderedMap.keys_filterKeys] at hkey
    simpa using (List.mem_filter.1 hkey).2
  simp only [undeclared, OrderedMap.get?_filterKeys, Args.fedBack, OrderedMap.get?_mapWithKey,
    if_neg hname, Option.map_id']

end Signature

/-- Nothing that a constructor checks about a call is different. -/
theorem Constructor.Accepts.fedBack {c : Constructor} {args : Args} (h : c.Accepts args)
    (self : Instance) : c.Accepts (args.fedBack c.signature self) := by
  have hnames : c.signature.positionalNames.length = c.signature.positionals.length :=
    List.length_map _
  have hlength : (args.fedBack c.signature self).positional.length = args.positional.length := by
    rw [Args.fedBack, List.length_zipWith, hnames, Nat.min_eq_right h.bounded]
  have hkeys : (args.fedBack c.signature self).keywords.keys = args.keywords.keys :=
    OrderedMap.keys_mapWithKey ..
  refine ⟨hlength ▸ h.enough, hlength ▸ h.bounded, ?_, hkeys ▸ h.known⟩
  refine Eq.trans (List.find?_congr fun p _ => ?_) h.complete
  rw [Parameter.isMissingFrom, Parameter.isMissingFrom, OrderedMap.contains, OrderedMap.contains,
    hkeys]

namespace Parameter

variable {argument? : Parameter → Option Value} {ps : List Parameter}

theorem supplied_map (f : Parameter → Value → Value) :
    supplied (fun p => (argument? p).map (f p)) ps =
      (supplied argument? ps).map fun x => (x.1, f x.1 x.2) := by
  rw [supplied, supplied, List.map_filterMap]
  refine List.filterMap_congr fun p _ => ?_
  rw [Option.map_map, Option.map_map]
  rfl

/-- Settled parameters accept the values of their slots, which stay as they are. -/
theorem forall₂_slotOr {self : Instance} {l : List (Parameter × Value)}
    {given : List (String × Value)} (hsettled : ∀ x ∈ l, x.1.Settled)
    (hslot : ∀ e ∈ given, self.slot? e.1 = some e.2)
    (h : List.Forall₂ (fun x e => e.1 = x.1.name ∧ x.1.accept x.2 = .ok e.2) l given) :
    List.Forall₂ (fun x e => e.1 = x.1.name ∧ x.1.accept x.2 = .ok e.2)
      (l.map fun x => (x.1, self.slotOr x.1.name x.2)) given := by
  induction h with
  | nil => exact .nil
  | @cons x e l given hx _ ih =>
    obtain ⟨hname, haccept⟩ := hx
    have hvalue : self.slotOr x.1.name x.2 = e.2 := by
      rw [Instance.slotOr, ← hname, hslot e List.mem_cons_self]
      rfl
    refine .cons ⟨hname, ?_⟩ (ih (fun x hx => hsettled x (List.mem_cons_of_mem _ hx))
      fun e he => hslot e (List.mem_cons_of_mem _ he))
    show x.1.accept (self.slotOr x.1.name x.2) = .ok e.2
    rw [hvalue]
    exact hsettled x List.mem_cons_self x.2 e.2 haccept

end Parameter

/-! ### Construction -/

namespace Class.Standard

variable {c : Class} {args : Args} {self : Instance}

/-- The slots of an instance, given back to the constructor that made it, are all accepted and make
the same instance. -/
theorem instantiate_fedBack (hc : c.Standard)
    (hsettled : ∀ p ∈ c.builder.signature.parameters, p.Settled)
    (h : c.instantiate args = .ok self) :
    c.instantiate (args.fedBack c.builder.signature self) = .ok self := by
  have ha := hc.accepts_of_instantiate h
  obtain ⟨given, defaults, -, hlist, hgiven, -⟩ := hc.exists_setSlots_of_instantiate h
  have hslot : ∀ e ∈ given, self.slot? e.1 = some e.2 := fun e he =>
    OrderedMap.get?_eq_some_iff.2 (hlist ▸ List.mem_append_left _ he)
  rw [hc.instantiate_of_accepts ha, Parameter.acceptAll_eq_ok_iff.2 hgiven] at h
  have hsupplied : Parameter.supplied
        (c.builder.signature.argument? (args.fedBack c.builder.signature self))
        c.builder.signature.parameters =
      (Parameter.supplied (c.builder.signature.argument? args)
        c.builder.signature.parameters).map fun x => (x.1, self.slotOr x.1.name x.2) :=
    (Parameter.supplied_congr fun p hp => Signature.argument?_fedBack hp).trans
      (Parameter.supplied_map fun p => self.slotOr p.name)
  have hagain : Parameter.acceptAll c.name (Parameter.supplied
      (c.builder.signature.argument? (args.fedBack c.builder.signature self))
      c.builder.signature.parameters) = .ok given := by
    rw [hsupplied, Parameter.acceptAll_eq_ok_iff]
    refine Parameter.forall₂_slotOr (fun x hx => ?_) hslot hgiven
    exact hsettled x.1 (Parameter.mem_supplied.1 hx).1
  have hstart : c.start (args.fedBack c.builder.signature self) = c.start args := by
    rw [start, start, Signature.undeclared_fedBack]
  have hb : c.builder.constructor.Accepts (args.fedBack c.builder.signature self) := ha.fedBack self
  rw [hc.instantiate_of_accepts hb, hagain, hstart]
  exact h

end Class.Standard

end ClassForge
