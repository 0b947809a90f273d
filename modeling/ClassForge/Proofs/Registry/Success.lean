import ClassForge.Proofs.Registry.Blame
import Mathlib.Data.Fintype.Card
import Mathlib.Data.Set.Finite.Basic

/-!
# When a registry is made

Which manifests can be made into classes, whether they were checked or not.

## Main definitions

- `Manifest.Declares` — what a class declares together with its chain
- `Manifest.Buildable` — the condition on a manifest

## Main statements

- `Manifest.exists_chain` — without cycles and missing parents every class has a chain
- `Manifest.registry_succeeds_iff` — a registry is made exactly then, in whatever order classes stand
-/

namespace ClassForge

namespace Manifest

/-- The declarations of a class behind all those that it inherits. -/
def Declares (m : Manifest) (name : String) (ds : Declarations) : Prop :=
  ∃ d l, m.classes.get? name = some d ∧ m.Chain name l ∧ l.declarations ++ d.declarations = ds

/-- The condition under which all classes of a manifest can be made. -/
structure Buildable (m : Manifest) : Prop where
  parents : ∀ a b, m.Extends a b → ∃ d, m.classes.get? b = some d
  acyclic : ∀ a, ¬ Relation.TransGen m.Extends a a
  types : ∀ a d, m.classes.get? a = some d → ∀ p ∈ d.parameters, p.Resolves
  consistent : ∀ a ds, m.Declares a ds → ds.Consistent

variable {m : Manifest} {name : String}

/-- There are finitely many classes, so without cycles the parents of each of them end. -/
theorem exists_chain (parents : ∀ a b, m.Extends a b → ∃ d, m.classes.get? b = some d)
    (acyclic : ∀ a, ¬ Relation.TransGen m.Extends a a) {d : ClassDecl}
    (hd : m.classes.get? name = some d) : ∃ l, m.Chain name l := by
  let Class := { a // a ∈ m.classes.keys }
  let Below : Class → Class → Prop := fun a b => Relation.TransGen m.Extends b.1 a.1
  have : Finite Class := (List.finite_toSet m.classes.keys).to_subtype
  have : IsTrans Class Below := ⟨fun a b c hab hbc => hbc.trans hab⟩
  have : Std.Irrefl Below := ⟨fun a => acyclic a.1⟩
  have hwf : WellFounded Below := Finite.wellFounded_of_trans_of_irrefl Below
  suffices h : ∀ a : Class, ∃ l, m.Chain a.1 l from h ⟨name, OrderedMap.mem_keys_of_get? hd⟩
  intro a
  induction a using hwf.induction with
  | _ a ih =>
    obtain ⟨d, hd⟩ := OrderedMap.mem_keys_iff_get?.1 a.2
    cases hp : d.parent with
    | none => exact ⟨[], .root hd hp⟩
    | some s =>
      have hx : m.Extends a.1 s.value := ⟨d, s, hd, hp, rfl⟩
      obtain ⟨e, he⟩ := parents _ _ hx
      obtain ⟨l, hl⟩ := ih ⟨s.value, OrderedMap.mem_keys_of_get? he⟩ (.single hx)
      exact ⟨_, .step hd hp he hl⟩

theorem Chain.declared_of_extends {l : Lineage} {b : String} (h : m.Chain name l)
    (hb : m.Extends name b) : ∃ d, m.classes.get? b = some d := by
  have hmem : b ∈ l.map Prod.fst := h.transGen_iff.1 (.single hb)
  exact OrderedMap.mem_keys_iff_get?.1 (h.subset_keys b hmem)

/-- What a class declares is well declared once the class is made. -/
theorem Makes.consistent {c : Class} {ds : Declarations} (h : m.Makes name c)
    (hds : m.Declares name ds) : ds.Consistent := by
  obtain ⟨d, l, hd, hl, hbuild⟩ := h
  obtain ⟨d', l', hd', hl', rfl⟩ := hds
  obtain rfl := Option.some.inj (hd.symm.trans hd')
  obtain rfl := hl.unique hl'
  rw [← Declarations.wellDeclared_parameters_iff,
    ← (ClassDecl.describes_of_build hbuild).parameters_eq]
  exact c.builder.signature.wellDeclared

theorem buildable_of_registry {r : Registry} (h : m.registry = .ok r) : m.Buildable := by
  obtain ⟨hkeys, hsound⟩ := sound_of_registry h
  have hmakes : ∀ a d, m.classes.get? a = some d → ∃ c, m.Makes a c := by
    intro a d hd
    obtain ⟨c, hc⟩ := OrderedMap.mem_keys_iff_get?.1 (hkeys ▸ OrderedMap.mem_keys_of_get? hd)
    exact ⟨c, hsound a c hc⟩
  refine ⟨?_, ?_, ?_, ?_⟩
  · intro a b hx
    obtain ⟨d, hd⟩ := declared_of_transGen (.single hx)
    obtain ⟨c, _, l, _, hl, _⟩ := hmakes a d hd
    exact hl.declared_of_extends hx
  · intro a hcycle
    obtain ⟨d, hd⟩ := declared_of_transGen hcycle
    obtain ⟨c, _, l, _, hl, _⟩ := hmakes a d hd
    exact hl.not_transGen hcycle
  · intro a d hd
    obtain ⟨c, d', l, hd', _, hbuild⟩ := hmakes a d hd
    obtain rfl := Option.some.inj (hd.symm.trans hd')
    exact (ClassDecl.describes_of_build hbuild).resolves
  · intro a ds hds
    have ⟨d, _, hd, _⟩ := hds
    obtain ⟨c, hc⟩ := hmakes a d hd
    exact hc.consistent hds

theorem Misdeclared.not_buildable {e : ManifestFault} (h : m.Misdeclared e) : ¬ m.Buildable := by
  intro hm
  obtain ⟨hd, hl, hown, hs, hrejects⟩ := h
  rename_i a d l before after kind p s f
  have hds := hm.consistent a _ ⟨d, l, hd, hl, rfl⟩
  have hpart : l.declarations ++ (before ++ [(kind, p)]) <+: l.declarations ++ d.declarations :=
    ⟨after, by simp [hown]⟩
  have hw := Declarations.wellDeclared_parameters_iff.2 (hds.of_isPrefixOf hpart)
  rw [← List.append_assoc, Declarations.parameters_append, ← hs] at hw
  exact hrejects.not_wellDeclared hw

theorem exists_registry_iff : (∃ r, m.registry = .ok r) ↔ m.Buildable := by
  constructor
  · rintro ⟨r, hr⟩
    exact buildable_of_registry hr
  · intro hm
    cases h : m.registry with
    | ok r => exact ⟨r, rfl⟩
    | error e =>
      have hchain : ∀ a d, m.classes.get? a = some d → ∃ l, m.Chain a l :=
        fun a d hd => exists_chain hm.parents hm.acyclic hd
      exact absurd hm (misdeclared_of_registry hm.types hchain h).not_buildable

/-! ### The order of the classes -/

section Order

variable {m' : Manifest}

theorem Chain.congr {l : Lineage} (hg : ∀ a, m'.classes.get? a = m.classes.get? a)
    (h : m'.Chain name l) : m.Chain name l := by
  induction h with
  | root hd hp => exact .root (hg _ ▸ hd) hp
  | step hd hp he _ ih => exact .step (hg _ ▸ hd) hp (hg _ ▸ he) ih

/-- The condition looks at classes by their names. -/
theorem Buildable.congr (hg : ∀ a, m'.classes.get? a = m.classes.get? a) (hm : m.Buildable) :
    m'.Buildable := by
  have hextends : m'.Extends = m.Extends := by
    funext a b
    rw [Extends, Extends, hg a]
  refine ⟨?_, hextends ▸ hm.acyclic, ?_, ?_⟩
  · intro a b hx
    rw [hg b]
    exact hm.parents a b (hextends ▸ hx)
  · intro a d hd
    exact hm.types a d (hg a ▸ hd)
  · rintro a ds ⟨d, l, hd, hl, rfl⟩
    exact hm.consistent a _ ⟨d, l, hg a ▸ hd, hl.congr hg, rfl⟩

theorem get?_of_perm (h : m'.classes.toList.Perm m.classes.toList) (a : String) :
    m'.classes.get? a = m.classes.get? a := by
  apply Option.ext
  intro d
  rw [OrderedMap.get?_eq_some_iff, OrderedMap.get?_eq_some_iff, h.mem_iff]

end Order

/-- A registry is made exactly when parents are declared and do not come back, types are known, and no
class repeats or disorders what it declares and inherits. The order of the classes is no matter. -/
theorem registry_succeeds_iff (m : Manifest) :
    ((∃ r, m.registry = .ok r) ↔ m.Buildable) ∧
      ∀ m' : Manifest, m'.classes.toList.Perm m.classes.toList →
        ((∃ r, m'.registry = .ok r) ↔ ∃ r, m.registry = .ok r) := by
  refine ⟨exists_registry_iff, ?_⟩
  intro m' hperm
  rw [exists_registry_iff, exists_registry_iff]
  constructor
  · exact Buildable.congr (get?_of_perm hperm.symm)
  · exact Buildable.congr (get?_of_perm hperm)

/-- The base, which keeps undeclared keywords and has an optional position. -/
def base : ClassDecl where
  parent := none
  tolerance := some .absorb
  params := [⟨⟨⟨0, 0⟩, "x"⟩, some ⟨⟨0, 0⟩, "integer"⟩, none, true, none⟩]
  options := []

def derived : ClassDecl where
  parent := some ⟨⟨0, 0⟩, "Base"⟩
  tolerance := none
  params := []
  options := [⟨⟨⟨0, 0⟩, "y"⟩, none, none, false, some false⟩]

def upsideDown : Manifest :=
  ⟨.ofList [("Derived", derived), ("Base", base)]⟩

theorem get?_derived : upsideDown.classes.get? "Derived" = some derived := rfl

theorem get?_base : upsideDown.classes.get? "Base" = some base := rfl

theorem chain_base : upsideDown.Chain "Base" [] :=
  .root get?_base rfl

theorem chain_derived : upsideDown.Chain "Derived" [("Base", base)] := by
  have hp : derived.parent = some ⟨⟨0, 0⟩, "Base"⟩ := rfl
  exact .step get?_derived hp get?_base chain_base

/-- The two classes of `upsideDown`, the base first. -/
def rightSideUp : Manifest :=
  ⟨.ofList [("Base", base), ("Derived", derived)]⟩

/-- Neither order of base and derived class is in the way of either. -/
theorem succeeds_rightSideUp :
    rightSideUp.classes.toList.Perm upsideDown.classes.toList ∧ upsideDown.Buildable ∧
      ∃ r, rightSideUp.registry = .ok r := by
  have hentries : upsideDown.classes.toList = [("Derived", derived), ("Base", base)] := rfl
  have hperm : rightSideUp.classes.toList.Perm upsideDown.classes.toList := List.Perm.swap ..
  have hregistry : ∃ r, upsideDown.registry = .ok r := by
    cases h : upsideDown.registry with
    | ok r => exact ⟨r, rfl⟩
    | error e =>
      obtain ⟨a, d, hd, hfail⟩ := exists_build_of_registry h
      rw [OrderedMap.get?_eq_some_iff, hentries] at hd
      obtain hd | hd := List.mem_pair.1 hd
      · obtain ⟨rfl, rfl⟩ := Prod.mk.inj hd
        rw [build, (lineage_eq_ok_iff get?_derived).2 chain_derived] at hfail
        cases hfail
      · obtain ⟨rfl, rfl⟩ := Prod.mk.inj hd
        rw [build, (lineage_eq_ok_iff get?_base).2 chain_base] at hfail
        cases hfail
  obtain ⟨hbuildable, horder⟩ := registry_succeeds_iff upsideDown
  exact ⟨hperm, hbuildable.1 hregistry, (horder rightSideUp hperm).2 hregistry⟩

end Manifest

end ClassForge
