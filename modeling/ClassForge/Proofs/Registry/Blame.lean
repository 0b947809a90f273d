import ClassForge.Proofs.Registry.Classes
import ClassForge.Proofs.Signature.Declaration

/-!
# Declarations along a chain

What a class declares together with the classes of its chain, and which of its declarations is at fault
when it cannot be made from them.

## Main definitions

- `Declarations.Consistent` — the condition on declarations that are made one after another
- `Lineage.declarations` — the declarations along a lineage, from its far end
- `Manifest.Misdeclared` — the faults of single declarations

## Main statements

- `Declarations.wellDeclared_parameters_iff` — the condition is the one on parameters
- `Manifest.misdeclared_of_build` — a class with a chain fails on a single declaration only
-/

namespace ClassForge

/-- Declared parameters with their kinds, in order. -/
abbrev Declarations := List (ParameterKind × ParameterDecl)

/-- Whether a parameter has a default, be it the nil of an optional one. -/
def ParameterDecl.HasDefault (p : ParameterDecl) : Prop :=
  p.constant.isSome = true ∨ p.isOptional = true

theorem ParameterDecl.hasDefault_parameter_iff {p : ParameterDecl} {kind : ParameterKind} :
    (p.parameter kind).hasDefault = true ↔ p.HasDefault := by
  rw [HasDefault, Parameter.hasDefault, Settings.hasDefault, parameter]
  cases p.constant <;> cases p.isOptional <;> simp

namespace Declarations

def names (ds : Declarations) : List String :=
  ds.map (·.2.name.value)

def parameters (ds : Declarations) : List Parameter :=
  ds.map fun e => e.2.parameter e.1

/-- The condition on declarations that are made one after another. -/
structure Consistent (ds : Declarations) : Prop where
  named : ∀ e ∈ ds, isIdentifier e.2.name.value = true ∧ e.2.name.value ≠ hookName
  distinct : ds.names.Nodup
  /-- Behind a positional parameter with default every positional one has a default. -/
  ordered : ds.Pairwise fun e f =>
    e.1 = .positional → e.2.HasDefault → f.1 = .positional → f.2.HasDefault

variable {ds es : Declarations}

theorem parameters_append : parameters (ds ++ es) = ds.parameters ++ es.parameters :=
  List.map_append

theorem map_name_parameters : ds.parameters.map Parameter.name = ds.names :=
  List.map_map

theorem isPositional_parameter_iff {e : ParameterKind × ParameterDecl} :
    (e.2.parameter e.1).isPositional = true ↔ e.1 = .positional := by
  simp [Parameter.isPositional, Parameter.kind, ParameterDecl.parameter]

theorem wellDeclared_parameters_iff : WellDeclared ds.parameters ↔ ds.Consistent := by
  constructor
  · rintro ⟨hnamed, hdistinct, hordered⟩
    refine ⟨?_, map_name_parameters ▸ hdistinct, ?_⟩
    · intro e he
      exact isParameterName_eq_true_iff.1 (hnamed _ (List.mem_map_of_mem he))
    · refine (List.pairwise_map.1 hordered).imp ?_
      intro e f h
      simpa only [isPositional_parameter_iff, ParameterDecl.hasDefault_parameter_iff] using h
  · rintro ⟨hnamed, hdistinct, hordered⟩
    refine ⟨?_, map_name_parameters.symm ▸ hdistinct, ?_⟩
    · intro p hp
      obtain ⟨e, he, rfl⟩ := List.mem_map.1 hp
      exact isParameterName_eq_true_iff.2 (hnamed e he)
    · refine List.pairwise_map.2 (hordered.imp ?_)
      intro e f h
      simpa only [isPositional_parameter_iff, ParameterDecl.hasDefault_parameter_iff] using h

theorem Consistent.of_isPrefixOf (h : es.Consistent) (hp : ds <+: es) : ds.Consistent := by
  obtain ⟨rest, rfl⟩ := hp
  rw [← wellDeclared_parameters_iff, parameters_append] at h
  exact wellDeclared_parameters_iff.1 h.of_append

end Declarations

/-- The declarations along a lineage, those of its far end first. -/
def Lineage.declarations (l : Lineage) : Declarations :=
  l.reverse.flatMap fun e => e.2.declarations

theorem Lineage.declarations_cons (parent : String) (e : ClassDecl) (l : Lineage) :
    Lineage.declarations ((parent, e) :: l) = l.declarations ++ e.declarations := by
  simp [declarations]

/-- A class made along a chain has the parameters of all declarations there. -/
theorem ClassDecl.Describes.parameters_eq {d : ClassDecl} {name : String} {l : Lineage} {c : Class}
    (h : d.Describes name l c) :
    c.builder.signature.parameters = Declarations.parameters (l.declarations ++ d.declarations) := by
  obtain ⟨-, hparameters⟩ := ParameterDecl.forall₂_declares_iff.1 h.parameters
  rw [← hparameters, Declarations.parameters, Lineage.declarations, List.reverse_cons,
    List.flatMap_append, ← List.map_reverse, List.flatMap_map, List.flatMap_singleton]
  rfl

theorem ClassDecl.mem_parameters_of_mem_declarations {d : ClassDecl} {e : ParameterKind × ParameterDecl}
    (h : e ∈ d.declarations) : e.2 ∈ d.parameters := by
  obtain h | h := List.mem_append.1 h
  · obtain ⟨p, hp, rfl⟩ := List.mem_map.1 h
    exact List.mem_append_left _ hp
  · obtain ⟨p, hp, rfl⟩ := List.mem_map.1 h
    exact List.mem_append_right _ hp

/-! ### Declarations that fail -/

/-- A declaration with a known type fails on the parameters that the class has. -/
theorem ParameterDecl.rejects_of_declareOn {p : ParameterDecl} {kind : ParameterKind} {c : Class}
    {e : ManifestFault} (hr : p.Resolves) (h : p.declareOn kind c = .error e) :
    ∃ f, e = .declaration c.name p.name.span f ∧
      c.builder.signature.Rejects (p.parameter kind) f := by
  have hsettings : p.settings kind = .ok (p.parameter kind).settings :=
    settings_eq_ok_iff.2 ⟨hr, rfl⟩
  rw [declareOn, hsettings, Except.ok_bind, Except.mapError_eq_error_iff] at h
  obtain ⟨f, hf, rfl⟩ := h
  have hadd : c.builder.signature.add (p.parameter kind).name (p.parameter kind).settings =
      .error f :=
    Except.map_eq_error_iff.1 (Except.map_eq_error_iff.1 hf)
  exact ⟨f, rfl, Signature.rejects_of_add hadd⟩

/-- A class fails on one of its own declarations, behind those before it. -/
theorem ClassDecl.rejects_of_declareOn {d : ClassDecl} {c : Class} {e : ManifestFault}
    (hr : ∀ p ∈ d.parameters, p.Resolves) (h : d.declareOn c = .error e) :
    ∃ before kind p after, ∃ s : Signature, ∃ f, d.declarations = before ++ (kind, p) :: after ∧
      s.parameters = c.builder.signature.parameters ++ Declarations.parameters before ∧
      s.Rejects (p.parameter kind) f ∧ e = .declaration c.name p.name.span f := by
  obtain ⟨before, ⟨kind, p⟩, after, b, hsplit, hbefore, hfail⟩ :=
    Except.exists_of_foldlM_eq_error h
  have hp : p ∈ d.parameters :=
    mem_parameters_of_mem_declarations (e := (kind, p)) (by simp [hsplit])
  obtain ⟨f, rfl, hf⟩ := ParameterDecl.rejects_of_declareOn (hr p hp) hfail
  obtain ⟨hgrows, -⟩ := grows_of_foldlM hbefore
  obtain ⟨hname, -, hsignature, -⟩ := d.tolerate_eq c
  refine ⟨before, kind, p, after, b.builder.signature, f, hsplit, ?_, hf, ?_⟩
  · rw [hgrows.parameters, hsignature]
    rfl
  · rw [hgrows.name, hname]

namespace Manifest

/-- The faults of single declarations: a class rejects one of its own behind those that it inherits
and its own before that. -/
inductive Misdeclared (m : Manifest) : ManifestFault → Prop
  | intro {name : String} {d : ClassDecl} {l : Lineage} {before after : Declarations}
      {kind : ParameterKind} {p : ParameterDecl} {s : Signature} {f : Fault}
      (declared : m.classes.get? name = some d) (chain : m.Chain name l)
      (own : d.declarations = before ++ (kind, p) :: after)
      (earlier : s.parameters = Declarations.parameters (l.declarations ++ before))
      (rejects : s.Rejects (p.parameter kind) f) :
      Misdeclared m (.declaration name p.name.span f)

variable {m : Manifest} {name : String} {d : ClassDecl} {l : Lineage} {e : ManifestFault}

/-- The induction is on the chain: a class fails in making its parent, or on what it declares. -/
theorem misdeclared_of_build
    (hr : ∀ a e, m.classes.get? a = some e → ∀ p ∈ e.parameters, p.Resolves)
    (hd : m.classes.get? name = some d) (hl : m.Chain name l) (h : d.build name l = .error e) :
    m.Misdeclared e := by
  induction l generalizing name d with
  | nil =>
    obtain ⟨before, kind, p, after, s, f, hown, hs, hrejects, rfl⟩ :=
      ClassDecl.rejects_of_declareOn (hr name d hd) h
    exact .intro hd hl hown hs hrejects
  | cons parent l ih =>
    obtain ⟨parent, e'⟩ := parent
    obtain ⟨he', hparent⟩ : m.classes.get? parent = some e' ∧ m.Chain parent l := by
      cases hl with
      | step _ _ he hc => exact ⟨he, hc⟩
    obtain hfail | ⟨b, hb, hfail⟩ := Except.bind_eq_error_iff.1 h
    · exact ih he' hparent hfail
    · obtain ⟨before, kind, p, after, s, f, hown, hs, hrejects, rfl⟩ :=
        ClassDecl.rejects_of_declareOn (hr name d hd) hfail
      refine .intro hd hl hown ?_ hrejects
      have hinherited := (ClassDecl.describes_of_build hb).parameters_eq
      rw [hs, Lineage.declarations_cons, Declarations.parameters_append, ← hinherited]
      rfl

/-- When no registry can be made, the first class that fails does so alone. -/
theorem exists_build_of_registry (h : m.registry = .error e) :
    ∃ name d, m.classes.get? name = some d ∧ m.build name d = .error e := by
  rw [registry_eq, direct, Except.map_eq_error_iff] at h
  obtain ⟨⟨name, d⟩, hmem, hfail⟩ := Except.exists_of_mapM_eq_error h
  exact ⟨name, d, OrderedMap.get?_eq_some_iff.2 hmem, Except.map_eq_error_iff.1 hfail⟩

/-- Where every class has a chain and every type is known, single declarations are all that can fail. -/
theorem misdeclared_of_registry
    (hr : ∀ a e, m.classes.get? a = some e → ∀ p ∈ e.parameters, p.Resolves)
    (hc : ∀ a e, m.classes.get? a = some e → ∃ l, m.Chain a l) (h : m.registry = .error e) :
    m.Misdeclared e := by
  obtain ⟨name, d, hd, hfail⟩ := exists_build_of_registry h
  obtain ⟨l, hl⟩ := hc name d hd
  rw [build, (lineage_eq_ok_iff hd).2 hl, Except.ok_bind] at hfail
  exact misdeclared_of_build hr hd hl hfail

end Manifest

end ClassForge
