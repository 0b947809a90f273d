import ClassForge.Proofs.Check.Accepts
import ClassForge.Proofs.Registry.Success

/-!
# Registries of checked manifests

What is left to go wrong once a manifest is checked, and which class it is held against.

## Main definitions

- `Declarations.Spoils` — a declaration that does not go with those before it
- `Manifest.OwnFault` — a fault of a class itself, and not of those that it extends

## Main statements

- `Manifest.Misdeclared.ownFault` — a declaration that is rejected is at fault itself
- `Manifest.ownFault_of_check` — there is no other fault once a manifest is checked
-/

namespace ClassForge

/-- A declaration, and why it cannot stand behind the given ones. -/
inductive Declarations.Spoils (ds : Declarations) : ParameterKind × ParameterDecl → Fault → Prop
  | duplicate {e : ParameterKind × ParameterDecl} (taken : e.2.name.value ∈ ds.names) :
      Spoils ds e (.duplicateParameter e.2.name.value)
  | order {p q : ParameterDecl} (defaulted : (.positional, q) ∈ ds) (optional : q.HasDefault)
      (required : ¬ p.HasDefault) :
      Spoils ds (.positional, p) (.invalidParameterOrder p.name.value q.name.value)

/-- What a signature rejects although its name is in order spoils the declarations. -/
theorem Signature.Rejects.spoils {s : Signature} {ds : Declarations}
    {e : ParameterKind × ParameterDecl} {f : Fault} (hs : s.parameters = ds.parameters)
    (hname : isParameterName e.2.name.value = true) (h : s.Rejects (e.2.parameter e.1) f) :
    ds.Spoils e f := by
  obtain ⟨kind, p⟩ := e
  obtain ⟨hidentifier, hreserved⟩ := isParameterName_eq_true_iff.1 hname
  cases h with
  | invalidName unnamed =>
    rw [show (p.parameter kind).name = p.name.value from rfl, hidentifier] at unnamed
    cases unnamed
  | reservedName reserved => exact absurd reserved hreserved
  | duplicate _ taken =>
    rw [hs, Declarations.map_name_parameters] at taken
    exact .duplicate taken
  | @order q _ _ positional required first =>
    obtain rfl : kind = .positional := positional
    obtain ⟨hq, hqpos⟩ := List.mem_filter.1 (List.mem_of_find?_eq_some first)
    rw [hs] at hq
    obtain ⟨⟨kind, q⟩, hmem, rfl⟩ := List.mem_map.1 hq
    obtain rfl : kind = .positional := Declarations.isPositional_parameter_iff.1 hqpos
    have hqdef : (q.parameter .positional).hasDefault = true := List.find?_some first
    refine .order hmem (ParameterDecl.hasDefault_parameter_iff.1 hqdef) ?_
    intro hp
    rw [ParameterDecl.hasDefault_parameter_iff.2 hp] at required
    cases required

namespace Manifest

/-- A class lists a parameter that does not go with what it inherits and lists before, and there is
nothing wrong with what the classes that it extends declare. -/
structure OwnFault (m : Manifest) (name : String) (p : ParameterDecl) (f : Fault) : Prop where
  own : ∃ d l before kind after, m.classes.get? name = some d ∧ m.Chain name l ∧
    d.declarations = before ++ (kind, p) :: after ∧
    Declarations.Consistent (l.declarations ++ before) ∧
    Declarations.Spoils (l.declarations ++ before) (kind, p) f
  ancestors : ∀ a, Relation.TransGen m.Extends name a → ∃ ds, m.Declares a ds ∧ ds.Consistent

variable {m : Manifest} {name : String}

/-- A class that is extended declares a first part of what is inherited from it. -/
theorem Chain.declares_of_transGen {l : Lineage} {a : String} (h : m.Chain name l)
    (ha : Relation.TransGen m.Extends name a) : ∃ ds, m.Declares a ds ∧ ds <+: l.declarations := by
  induction h with
  | root hd hp => exact absurd ha (not_transGen_of_root hd hp a)
  | @step name d e s l hd hp he hc ih =>
    have hx : m.Extends name s.value := ⟨d, s, hd, hp, rfl⟩
    rw [Lineage.declarations_cons]
    obtain rfl | ha := hx.transGen_iff.1 ha
    · exact ⟨_, ⟨e, l, he, hc, rfl⟩, List.prefix_rfl⟩
    · obtain ⟨ds, hds, hpart⟩ := ih ha
      exact ⟨ds, hds, hpart.trans (List.prefix_append _ _)⟩

theorem Misdeclared.ownFault {e : ManifestFault} (h : m.Misdeclared e)
    (hnames : ∀ a d, m.classes.get? a = some d →
      ∀ p ∈ d.parameters, isParameterName p.name.value = true) :
    ∃ name p f, e = .declaration name p.name.span f ∧ m.OwnFault name p f := by
  obtain ⟨hd, hl, hown, hs, hrejects⟩ := h
  rename_i name d l before after kind p s f
  have hp : p ∈ d.parameters :=
    ClassDecl.mem_parameters_of_mem_declarations (e := (kind, p)) (by simp [hown])
  have hearlier : Declarations.Consistent (l.declarations ++ before) := by
    rw [← Declarations.wellDeclared_parameters_iff, ← hs]
    exact s.wellDeclared
  have hspoils := hrejects.spoils (e := (kind, p)) hs (hnames name d hd p hp)
  refine ⟨name, p, f, rfl, ⟨d, l, before, kind, after, hd, hl, hown, hearlier, hspoils⟩, ?_⟩
  intro a ha
  obtain ⟨ds, hds, hpart⟩ := hl.declares_of_transGen ha
  exact ⟨ds, hds, hearlier.of_isPrefixOf (hpart.trans (List.prefix_append _ _))⟩

/-- Once a manifest is checked its classes fail on repeated and misplaced parameters only, and it is
the class with the parameter in its own lists that is named. -/
theorem ownFault_of_check {source : Source} {e : ManifestFault} (hc : m.check source = .ok ())
    (h : m.registry = .error e) :
    ∃ name p f, e = .declaration name p.name.span f ∧ m.OwnFault name p f := by
  have hclass : ∀ a d, m.classes.get? a = some d →
      (∀ parent, d.parent = some parent → parent.value ∈ m.classes.keys) ∧
        m.closing? a = none ∧ ∀ p ∈ d.parameters, p.check = .ok () := by
    intro a d hd
    exact (checkClass_eq_ok_iff.1 (check_eq_ok_iff.1 hc a d hd)).2
  have hparameter : ∀ a d, m.classes.get? a = some d → ∀ p ∈ d.parameters,
      isParameterName p.name.value = true ∧ p.Resolves := by
    intro a d hd p hp
    obtain ⟨hname, htype, -⟩ := ParameterDecl.check_eq_ok_iff.1 ((hclass a d hd).2.2 p hp)
    exact ⟨hname, htype⟩
  have hparents : ∀ a b, m.Extends a b → ∃ d, m.classes.get? b = some d := by
    rintro a _ ⟨d, s, hd, hs, rfl⟩
    exact OrderedMap.mem_keys_iff_get?.1 ((hclass a d hd).1 s hs)
  have hchain : ∀ a d, m.classes.get? a = some d → ∃ l, m.Chain a l := by
    intro a d hd
    exact exists_chain_of_closing? hparents hd (hclass a d hd).2.1
  have hmis : m.Misdeclared e :=
    misdeclared_of_registry (fun a d hd p hp => (hparameter a d hd p hp).2) hchain h
  exact hmis.ownFault fun a d hd p hp => (hparameter a d hd p hp).1

/-- A base with a required position behind an optional one. -/
def disordered : ClassDecl where
  parent := none
  tolerance := none
  params := [⟨⟨⟨40, 3⟩, "a"⟩, none, none, true, none⟩, ⟨⟨⟨60, 3⟩, "b"⟩, none, none, false, none⟩]
  options := []

/-- The derived class stands in front of its base, which is at fault. -/
def misplaced : Manifest :=
  ⟨.ofList [("Derived", derived), ("Base", disordered)]⟩

theorem toList_misplaced :
    misplaced.classes.toList = [("Derived", derived), ("Base", disordered)] := rfl

theorem check_misplaced (source : Source) : misplaced.check source = .ok () := by
  have hderived : misplaced.parent? "Derived" = some ⟨⟨0, 0⟩, "Base"⟩ := rfl
  have hbase : misplaced.parent? "Base" = none := rfl
  have hkeys : misplaced.classes.keys = ["Derived", "Base"] := rfl
  rw [check_eq_ok_iff]
  intro a d hd
  rw [OrderedMap.get?_eq_some_iff, toList_misplaced] at hd
  rw [checkClass_eq_ok_iff]
  obtain hd | hd := List.mem_pair.1 hd
  · obtain ⟨rfl, rfl⟩ := Prod.mk.inj hd
    refine ⟨rfl, by simp [derived, hkeys], ?_, ?_⟩
    · simp [closing?, closingFrom?, hkeys, hderived, hbase]
    · intro p hp
      obtain rfl := List.mem_singleton.1 hp
      rfl
  · obtain ⟨rfl, rfl⟩ := Prod.mk.inj hd
    refine ⟨rfl, by simp [disordered], ?_, ?_⟩
    · simp [closing?, closingFrom?, hbase]
    · intro p hp
      obtain rfl | rfl := List.mem_pair.1 hp <;> rfl

theorem registry_misplaced :
    misplaced.registry =
      .error (.declaration "Base" ⟨60, 3⟩ (.invalidParameterOrder "b" "a")) := by
  have hget : misplaced.classes.get? "Derived" = some derived := rfl
  have hchain : misplaced.Chain "Derived" [("Base", disordered)] :=
    .step hget (s := ⟨⟨0, 0⟩, "Base"⟩) rfl rfl (.root rfl rfl)
  have hbuild : misplaced.build "Derived" derived =
      derived.build "Derived" [("Base", disordered)] := by
    rw [build, (lineage_eq_ok_iff hget).2 hchain, Except.ok_bind]
  rw [registry_eq, direct, buildAll, toList_misplaced, List.mapM_cons, hbuild]
  rfl

/-- The base is named for what it lists, not the derived class that comes first. -/
theorem ownFault_misplaced :
    misplaced.check ⟨"", "classes.toml"⟩ = .ok () ∧
      misplaced.registry =
        .error (.declaration "Base" ⟨60, 3⟩ (.invalidParameterOrder "b" "a")) ∧
      ∃ p : ParameterDecl, p.name.span = ⟨60, 3⟩ ∧
        misplaced.OwnFault "Base" p (.invalidParameterOrder "b" "a") := by
  have hcheck := check_misplaced ⟨"", "classes.toml"⟩
  refine ⟨hcheck, registry_misplaced, ?_⟩
  obtain ⟨name, p, f, he, hown⟩ := ownFault_of_check hcheck registry_misplaced
  obtain ⟨rfl, hspan, rfl⟩ := ManifestFault.declaration.inj he
  exact ⟨p, hspan.symm, hown⟩

end Manifest

end ClassForge
