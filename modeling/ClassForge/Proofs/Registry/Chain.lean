import Mathlib.Logic.Relation
import ClassForge.Manifest.Lineage
import ClassForge.Proofs.Outcome

/-!
# Chains of classes

The lineage of a declared class as a relation, without the walk that finds it.

## Main definitions

- `Manifest.Extends` — one class names another as its parent
- `Manifest.Chain` — the classes that a class extends, up to one that extends nothing

## Main statements

- `Manifest.Chain.transGen_iff` — a chain holds what a class extends, directly or through others
- `Manifest.Chain.not_transGen` — a class with a chain lies on no cycle
- `Manifest.lineage_eq_ok_iff` — the lineage of a class is its chain
-/

namespace ClassForge

/-- A class that extends another and declares nothing. -/
def ClassDecl.extending (parent : Spanned String) : ClassDecl where
  parent := some parent
  tolerance := none
  params := []
  options := []

namespace Manifest

/-- The class `a` is declared and names `b` as its parent, declared or not. -/
def Extends (m : Manifest) (a b : String) : Prop :=
  ∃ d s, m.classes.get? a = some d ∧ d.parent = some s ∧ s.value = b

/-- The declared class `name` extends the classes of a lineage, the last of which extends nothing. -/
inductive Chain (m : Manifest) : String → Lineage → Prop
  | root {name : String} {d : ClassDecl} :
      m.classes.get? name = some d → d.parent = none → Chain m name []
  | step {name : String} {d e : ClassDecl} {s : Spanned String} {l : Lineage} :
      m.classes.get? name = some d → d.parent = some s → m.classes.get? s.value = some e →
        Chain m s.value l → Chain m name ((s.value, e) :: l)

variable {m : Manifest} {name : String} {d : ClassDecl} {l : Lineage}

theorem extends_iff {a b : String} : m.Extends a b ↔ ∃ s, m.parent? a = some s ∧ s.value = b := by
  constructor
  · rintro ⟨d, s, hd, hs, rfl⟩
    exact ⟨s, Option.bind_eq_some_iff.2 ⟨d, hd, hs⟩, rfl⟩
  · rintro ⟨s, hs, rfl⟩
    obtain ⟨d, hd, hs⟩ := Option.bind_eq_some_iff.1 hs
    exact ⟨d, s, hd, hs, rfl⟩

theorem mem_keys_of_parent? {s : Spanned String} (h : m.parent? name = some s) :
    name ∈ m.classes.keys := by
  obtain ⟨d, hd, _⟩ := Option.bind_eq_some_iff.1 h
  exact OrderedMap.mem_keys_of_get? hd

/-- A class extends one class at most. -/
theorem Extends.right_unique {a b c : String} (hb : m.Extends a b) (hc : m.Extends a c) : b = c := by
  obtain ⟨d, s, hd, hs, rfl⟩ := hb
  obtain ⟨e, t, he, ht, rfl⟩ := hc
  have hde : d = e := Option.some.inj (hd.symm.trans he)
  subst hde
  have hst : s = t := Option.some.inj (hs.symm.trans ht)
  rw [hst]

/-- What a class extends is its parent and what the parent extends. -/
theorem Extends.transGen_iff {a p b : String} (h : m.Extends a p) :
    Relation.TransGen m.Extends a b ↔ b = p ∨ Relation.TransGen m.Extends p b := by
  rw [Relation.TransGen.head'_iff, ← Relation.reflTransGen_iff_eq_or_transGen]
  constructor
  · rintro ⟨q, hq, hqb⟩
    rwa [h.right_unique hq]
  · intro hpb
    exact ⟨p, h, hpb⟩

/-- A class without parent extends nothing. -/
theorem not_transGen_of_root (hd : m.classes.get? name = some d) (hp : d.parent = none) (b : String) :
    ¬ Relation.TransGen m.Extends name b := by
  intro h
  obtain ⟨_, ⟨e, s, he, hs, rfl⟩, _⟩ := Relation.TransGen.head'_iff.1 h
  obtain rfl := Option.some.inj (hd.symm.trans he)
  rw [hp] at hs
  cases hs

namespace Chain

theorem unique {l' : Lineage} (h : m.Chain name l) (h' : m.Chain name l') : l = l' := by
  induction h generalizing l' with
  | root hd hp =>
    cases h' with
    | root => rfl
    | step hd' hp' => simp_all
  | step hd hp he _ ih =>
    cases h' with
    | root hd' hp' => simp_all
    | step hd' hp' he' hc' =>
      obtain rfl := Option.some.inj (hd.symm.trans hd')
      obtain rfl := Option.some.inj (hp.symm.trans hp')
      obtain rfl := Option.some.inj (he.symm.trans he')
      rw [ih hc']

/-- Whatever a class extends stands in its chain, and nothing else does. -/
theorem transGen_iff {b : String} (h : m.Chain name l) :
    Relation.TransGen m.Extends name b ↔ b ∈ l.map Prod.fst := by
  induction h with
  | root hd hp => simp [not_transGen_of_root hd hp b]
  | step hd hp he _ ih =>
    have hx : m.Extends _ _ := ⟨_, _, hd, hp, rfl⟩
    rw [hx.transGen_iff, ih, List.map_cons, List.mem_cons]

/-- A class with a chain lies on no cycle. -/
theorem not_transGen (h : m.Chain name l) : ¬ Relation.TransGen m.Extends name name := by
  induction h with
  | root hd hp => exact not_transGen_of_root hd hp _
  | step hd hp he _ ih =>
    intro hc
    have hx : m.Extends _ _ := ⟨_, _, hd, hp, rfl⟩
    -- The cycle comes back to the parent too, which has a shorter chain.
    have hb := Relation.reflTransGen_iff_eq_or_transGen.2 (hx.transGen_iff.1 hc)
    exact ih (.tail' hb hx)

theorem not_mem (h : m.Chain name l) : name ∉ l.map Prod.fst :=
  fun hn => h.not_transGen (h.transGen_iff.2 hn)

/-- The walk finds a chain when none of its classes was met before. -/
theorem lineageFrom_eq {others : List String} (h : m.Chain name l)
    (hd : m.classes.get? name = some d) (ho : ∀ n ∈ l.map Prod.fst, n ∈ others) :
    m.lineageFrom name d others = .ok l := by
  induction h generalizing d others with
  | root hd' hp =>
    obtain rfl := Option.some.inj (hd'.symm.trans hd)
    rw [lineageFrom, hp]
  | @step name d' e s l hd' hp he hc ih =>
    obtain rfl := Option.some.inj (hd'.symm.trans hd)
    have hs : s.value ∈ others := ho _ (by simp)
    -- The parent is struck off, and does not come up again in its own chain.
    have hl : m.lineageFrom s.value e (others.erase s.value) = .ok l := by
      apply ih he
      intro n hn
      have hne : n ≠ s.value := fun h => hc.not_mem (h ▸ hn)
      exact (List.mem_erase_of_ne hne).2 (ho n (List.mem_cons_of_mem _ hn))
    rw [lineageFrom, hp]
    simp only [he, hs, hl, dite_true, Except.ok_map]

theorem mem_keys (h : m.Chain name l) : name ∈ m.classes.keys := by
  cases h with
  | root hd _ => exact OrderedMap.mem_keys_of_get? hd
  | step hd _ _ _ => exact OrderedMap.mem_keys_of_get? hd

/-- All classes of a chain are declared. -/
theorem subset_keys (h : m.Chain name l) : ∀ n ∈ l.map Prod.fst, n ∈ m.classes.keys := by
  induction h with
  | root => simp
  | step _ _ _ hc ih => simpa using ⟨hc.mem_keys, by simpa using ih⟩

end Chain

/-- What the walk finds is a chain. -/
theorem chain_of_lineageFrom {others : List String} (hd : m.classes.get? name = some d)
    (h : m.lineageFrom name d others = .ok l) : m.Chain name l := by
  fun_induction lineageFrom m name d others generalizing l with
  | case1 name d others hp =>
    cases h
    exact .root hd hp
  | case2 => cases h
  | case3 name d others s hp e he hs ih =>
    obtain ⟨l, hl, rfl⟩ := Except.map_eq_ok_iff.1 h
    exact .step hd hp he (ih he hl)
  | case4 => cases h

/-- The lineage of a class is its chain, if it has one. -/
theorem lineage_eq_ok_iff (hd : m.classes.get? name = some d) :
    m.lineage name d = .ok l ↔ m.Chain name l := by
  refine ⟨chain_of_lineageFrom hd, fun h => h.lineageFrom_eq hd ?_⟩
  intro n hn
  have hne : n ≠ name := fun e => h.not_mem (e ▸ hn)
  exact (List.mem_erase_of_ne hne).2 (h.subset_keys n hn)

end Manifest

end ClassForge
