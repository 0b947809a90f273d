import ClassForge.Manifest.Registry
import ClassForge.Proofs.Registry.Chain

/-!
# Registries without sharing

A registry makes each class once and keeps it for its subclasses. It gives what making every class
from its own lineage gives, the fault included, so the listing order of parents and children is of no
consequence.

## Main definitions

- `Manifest.build` — a class from its lineage alone
- `Manifest.Makes` — the class of a declared name
- `Manifest.Sound` — classes made so far, each of them as it would be made alone
- `Manifest.Adds` — how the making of a class behaves when others are made already

## Main statements

- `Manifest.buildClass_adds` — making a class is sound, and fails as making it alone does
- `Manifest.registry_eq` — a registry holds every class as made from its lineage
-/

namespace ClassForge

namespace Manifest

def build (m : Manifest) (name : String) (d : ClassDecl) : Except ManifestFault Class :=
  m.lineage name d >>= d.build name

/-- The class that a declared name stands for. -/
def Makes (m : Manifest) (name : String) (c : Class) : Prop :=
  ∃ d l, m.classes.get? name = some d ∧ m.Chain name l ∧ d.build name l = .ok c

/-- Every class made so far is the one that its name stands for. -/
def Sound (m : Manifest) (made : Registry) : Prop :=
  ∀ n c, made.get? n = some c → m.Makes n c

/-- How a registry goes on that is to hold what alone would come out as it does: the classes made so
far stay, and a fault is the same. -/
inductive Adds {α : Type} (m : Manifest) (made : Registry) (Holds : Registry → α → Prop) :
    Except ManifestFault α → Except ManifestFault Registry → Prop
  | ok {a : α} {made' : Registry} (kept : ∀ n c, made.get? n = some c → made'.get? n = some c)
      (sound : m.Sound made') (held : Holds made' a) : Adds m made Holds (.ok a) (.ok made')
  | error (e : ManifestFault) : Adds m made Holds (.error e) (.error e)

variable {m : Manifest} {name : String} {d : ClassDecl} {made : Registry} {building : List String}

theorem Makes.unique {c c' : Class} (h : m.Makes name c) (h' : m.Makes name c') : c = c' := by
  obtain ⟨d, l, hd, hl, hc⟩ := h
  obtain ⟨d', l', hd', hl', hc'⟩ := h'
  obtain rfl := Option.some.inj (hd.symm.trans hd')
  obtain rfl := hl.unique hl'
  exact Except.ok.inj (hc.symm.trans hc')

theorem Makes.mem_keys {c : Class} (h : m.Makes name c) : name ∈ m.classes.keys := by
  obtain ⟨d, l, hd, _⟩ := h
  exact OrderedMap.mem_keys_of_get? hd

theorem sound_empty : m.Sound ∅ := by
  intro n c h
  cases h

section Insert

variable {c : Class}

theorem Sound.insert (hs : m.Sound made) (hc : m.Makes name c) : m.Sound (made.insert name c) := by
  intro n b h
  rw [OrderedMap.get?_insert] at h
  split at h
  · next hn =>
    obtain rfl := Option.some.inj h
    exact hn ▸ hc
  · exact hs n b h

/-- A class that is put in its place hides no class made before. -/
theorem Sound.kept_insert (hs : m.Sound made) (hc : m.Makes name c) (n : String) (b : Class)
    (h : made.get? n = some b) : (made.insert name c).get? n = some b := by
  rw [OrderedMap.get?_insert]
  split
  · next hn =>
    subst hn
    rw [(hs n b h).unique hc]
  · exact h

end Insert

/-! ### The steps of the recursion -/

section Steps

variable {fresh : name ∉ building}

theorem buildClass_of_mem (h : made.contains name = true) :
    m.buildClass name building fresh made = .ok made := by
  rw [buildClass, if_pos h]

theorem buildClass_of_undeclared (hd : m.classes.get? name = none) :
    m.buildClass name building fresh made = .ok made := by
  rw [buildClass]
  split
  · rfl
  · split
    · rfl
    · simp_all

theorem buildClass_of_root (h : made.contains name = false) (hd : m.classes.get? name = some d)
    (hp : d.parent = none) :
    m.buildClass name building fresh made =
      (d.declareOn (.new name)).map (made.insert name) := by
  rw [buildClass, if_neg (by simp [h])]
  split
  · simp_all
  · next e he =>
    obtain rfl := Option.some.inj (hd.symm.trans he)
    rw [hp]

theorem buildClass_of_cycle {s : Spanned String} (h : made.contains name = false)
    (hd : m.classes.get? name = some d) (hp : d.parent = some s) (hs : s.value ∈ name :: building) :
    m.buildClass name building fresh made = .error (.inheritanceCycle name s.span) := by
  rw [buildClass, if_neg (by simp [h])]
  split
  · simp_all
  · next e he =>
    obtain rfl := Option.some.inj (hd.symm.trans he)
    simp only [hp, hs, dite_true]

theorem buildClass_of_parent {s : Spanned String} (h : made.contains name = false)
    (hd : m.classes.get? name = some d) (hp : d.parent = some s) (hs : s.value ∉ name :: building) :
    m.buildClass name building fresh made =
      m.buildClass s.value (name :: building) hs made >>= fun made =>
      match made.get? s.value with
      | none => .error (.unknownParent name s)
      | some c => (d.declareOn (c.subclass name)).map (made.insert name) := by
  rw [buildClass, if_neg (by simp [h])]
  split
  · simp_all
  · next e he =>
    obtain rfl := Option.some.inj (hd.symm.trans he)
    simp only [hp, hs, dite_false]
    rfl

end Steps

/-! ### One class -/

theorem declared_of_transGen {a b : String} (h : Relation.TransGen m.Extends a b) :
    ∃ d, m.classes.get? a = some d := by
  obtain ⟨_, ⟨d, _, hd, _⟩, _⟩ := Relation.TransGen.head'_iff.1 h
  exact ⟨d, hd⟩

/-- What comes out of the declarations of a class is put with the classes made so far. -/
theorem Sound.adds {made' : Registry} {x : Except ManifestFault Class} (hs : m.Sound made')
    (kept : ∀ n c, made.get? n = some c → made'.get? n = some c)
    (hx : ∀ c, x = .ok c → m.Makes name c) : m.Adds made (·.get? name = some ·) x (x.map (made'.insert name)) := by
  cases x with
  | error e => exact .error e
  | ok c =>
    have hc := hx c rfl
    refine .ok ?_ (hs.insert hc) ?_
    · intro n b h
      exact hs.kept_insert hc n b (kept n b h)
    · rw [OrderedMap.get?_insert, if_pos rfl]

/-- Behind its parent a class is made from the class of the parent alone. -/
theorem Adds.subclass {s : Spanned String} {e : ClassDecl} {x : Except ManifestFault Class}
    {r : Except ManifestFault Registry} (ha : m.Adds made (·.get? s.value = some ·) x r)
    (hd : m.classes.get? name = some d) (hp : d.parent = some s)
    (he : m.classes.get? s.value = some e) :
    m.Adds made (·.get? name = some ·) (x >>= fun c => d.declareOn (c.subclass name))
      (r >>= fun made =>
        match made.get? s.value with
        | none => .error (.unknownParent name s)
        | some c => (d.declareOn (c.subclass name)).map (made.insert name)) := by
  cases ha with
  | error f => exact .error f
  | @ok parent made' kept sound held =>
    rw [Except.ok_bind, Except.ok_bind, held]
    refine sound.adds kept ?_
    intro c hc
    obtain ⟨e', l, he', hl, hbuild⟩ := sound _ _ held
    obtain rfl := Option.some.inj (he.symm.trans he')
    refine ⟨d, (s.value, e) :: l, hd, .step hd hp he hl, ?_⟩
    rw [ClassDecl.build, hbuild]
    exact hc

section Class

variable {others : List String} {fresh : name ∉ building}

/-- A class that is made already is the one that its lineage gives. The classes that wait for it are
not in its lineage, as they lead to it. -/
theorem buildClass_adds_of_made (hd : m.classes.get? name = some d) (hs : m.Sound made)
    (hb : ∀ b ∈ building, Relation.TransGen m.Extends b name)
    (ho : ∀ n, n ∈ others ↔ n ∈ m.classes.keys ∧ n ∉ name :: building)
    (h : made.contains name = true) :
    m.Adds made (·.get? name = some ·) (m.lineageFrom name d others >>= d.build name)
      (m.buildClass name building fresh made) := by
  rw [OrderedMap.contains_eq_isSome_get?, Option.isSome_iff_exists] at h
  obtain ⟨c, hc⟩ := h
  obtain ⟨d', l, hd', hl, hbuild⟩ := hs name c hc
  obtain rfl := Option.some.inj (hd'.symm.trans hd)
  have hlineage : m.lineageFrom name d' others = .ok l := by
    apply hl.lineageFrom_eq hd
    intro n hn
    have hnext := hl.transGen_iff.2 hn
    refine (ho n).2 ⟨hl.subset_keys n hn, ?_⟩
    intro hmem
    obtain rfl | hmem := List.mem_cons.1 hmem
    · exact hl.not_mem hn
    · exact hl.not_transGen (hnext.trans (hb n hmem))
  rw [buildClass_of_mem (by simp [OrderedMap.contains_eq_isSome_get?, hc]), hlineage, Except.ok_bind,
    hbuild]
  exact .ok (fun _ _ h => h) hs hc

/-- A class that is not made yet comes out as from its lineage, whichever of its ancestors are made
already. The induction follows the walk along the lineage. -/
theorem buildClass_adds_of_new (hd : m.classes.get? name = some d) (hs : m.Sound made)
    (hb : ∀ b ∈ building, Relation.TransGen m.Extends b name) (hnodup : others.Nodup)
    (ho : ∀ n, n ∈ others ↔ n ∈ m.classes.keys ∧ n ∉ name :: building)
    (h : made.contains name = false) :
    m.Adds made (·.get? name = some ·) (m.lineageFrom name d others >>= d.build name)
      (m.buildClass name building fresh made) := by
  fun_induction lineageFrom m name d others generalizing building made with
  | case1 name d others hp =>
    rw [buildClass_of_root h hd hp, Except.ok_bind]
    refine hs.adds (fun _ _ h => h) ?_
    intro c hc
    exact ⟨d, [], hd, .root hd hp, hc⟩
  | case2 name d others s hp he =>
    -- Whatever waits for this class is declared, so the missing parent does not close a cycle.
    have hfresh : s.value ∉ name :: building := by
      intro hmem
      obtain rfl | hmem := List.mem_cons.1 hmem
      · simp_all
      · obtain ⟨e, he'⟩ := declared_of_transGen (hb _ hmem)
        simp_all
    have hnone : made.get? s.value = none := by
      apply Option.eq_none_iff_forall_not_mem.2
      intro c hc
      obtain ⟨e, _, he', _⟩ := hs _ c hc
      simp_all
    rw [buildClass_of_parent h hd hp hfresh, buildClass_of_undeclared he, Except.ok_bind, hnone]
    exact .error _
  | case3 name d others s hp e he hmem ih =>
    have hx : m.Extends name s.value := ⟨d, s, hd, hp, rfl⟩
    have hfresh : s.value ∉ name :: building := ((ho _).1 hmem).2
    have hb' : ∀ b ∈ name :: building, Relation.TransGen m.Extends b s.value := by
      intro b hmem
      obtain rfl | hmem := List.mem_cons.1 hmem
      · exact .single hx
      · exact (hb b hmem).tail hx
    have ho' : ∀ n, n ∈ others.erase s.value ↔
        n ∈ m.classes.keys ∧ n ∉ s.value :: name :: building := by
      intro n
      rw [hnodup.mem_erase_iff, ho, List.mem_cons (a := n) (b := s.value), not_or]
      exact and_left_comm
    -- The parent is made already, or the walk goes on from it.
    have ha : m.Adds made (·.get? s.value = some ·)
        (m.lineageFrom s.value e (others.erase s.value) >>= e.build s.value)
        (m.buildClass s.value (name :: building) hfresh made) := by
      cases hc : made.contains s.value with
      | true => exact buildClass_adds_of_made he hs hb' ho' hc
      | false => exact ih he hs hb' (hnodup.erase _) ho' hc
    have hsplit : (m.lineageFrom s.value e (others.erase s.value)).map ((s.value, e) :: ·) >>=
          d.build name =
        m.lineageFrom s.value e (others.erase s.value) >>= e.build s.value >>= fun c =>
          d.declareOn (c.subclass name) := by
      cases m.lineageFrom s.value e (others.erase s.value) <;> rfl
    rw [buildClass_of_parent h hd hp hfresh, hsplit]
    exact ha.subclass hd hp he
  | case4 name d others s hp e he hmem =>
    have hcycle : s.value ∈ name :: building := by
      refine Decidable.byContradiction fun hc => ?_
      exact hmem ((ho _).2 ⟨OrderedMap.mem_keys_of_get? he, hc⟩)
    rw [buildClass_of_cycle h hd hp hcycle]
    exact .error _

/-- Making a class with others at hand gives what its lineage gives. -/
theorem buildClass_adds (hd : m.classes.get? name = some d) (hs : m.Sound made) :
    m.Adds made (·.get? name = some ·) (m.build name d) (m.buildClass name [] List.not_mem_nil made) := by
  have hb : ∀ b ∈ ([] : List String), Relation.TransGen m.Extends b name := by simp
  have ho : ∀ n, n ∈ m.classes.keys.erase name ↔ n ∈ m.classes.keys ∧ n ∉ [name] := by
    intro n
    rw [m.classes.distinct.mem_erase_iff, List.mem_singleton, and_comm]
  cases h : made.contains name with
  | true => exact buildClass_adds_of_made hd hs hb ho h
  | false => exact buildClass_adds_of_new hd hs hb (m.classes.distinct.erase _) ho h

end Class

/-! ### All classes -/

/-- Classes from their lineages alone, up to the first fault. -/
def buildAll (m : Manifest) (es : List (String × ClassDecl)) :
    Except ManifestFault (List (String × Class)) :=
  es.mapM fun e => (m.build e.1 e.2).map (e.1, ·)

/-- Every class from its lineage alone, in the order of the manifest. -/
def direct (m : Manifest) : Except ManifestFault Registry :=
  (m.buildAll m.classes.toList).map .ofList

/-- Making classes one after another gives each of them as made alone, or the first fault. -/
theorem foldlM_buildClass_adds {es : List (String × ClassDecl)}
    (he : ∀ e ∈ es, m.classes.get? e.1 = some e.2) (hs : m.Sound made) :
    m.Adds made
      (fun r cs => cs.map Prod.fst = es.map Prod.fst ∧ ∀ c ∈ cs, r.get? c.1 = some c.2)
      (m.buildAll es)
      ((es.map Prod.fst).foldlM
        (fun made name => m.buildClass name [] List.not_mem_nil made) made) := by
  induction es generalizing made with
  | nil => exact .ok (fun _ _ h => h) hs ⟨rfl, by simp⟩
  | cons e es ih =>
    have hfirst := buildClass_adds (he e (List.mem_cons_self ..)) hs
    have hrest := fun e' he' => he e' (List.mem_cons_of_mem _ he')
    rw [buildAll, List.mapM_cons, List.map_cons, List.foldlM_cons]
    generalize m.build e.1 e.2 = x, m.buildClass e.1 [] List.not_mem_nil made = r at hfirst ⊢
    cases hfirst with
    | error f => exact .error f
    | @ok c made₁ kept₁ sound₁ held₁ =>
      have hnext := ih hrest sound₁
      rw [Except.ok_map, Except.ok_bind, Except.ok_bind, ← buildAll]
      generalize m.buildAll es = xs,
        (es.map Prod.fst).foldlM
          (fun made name => m.buildClass name [] List.not_mem_nil made) made₁ = r at hnext ⊢
      cases hnext with
      | error f => exact .error f
      | @ok cs made₂ kept₂ sound₂ held₂ =>
        refine .ok (fun n b h => kept₂ n b (kept₁ n b h)) sound₂ ⟨by simp [held₂.1], ?_⟩
        intro b hb
        obtain rfl | hb := List.mem_cons.1 hb
        · exact kept₂ _ _ held₁
        · exact held₂.2 b hb

/-- The registry has the classes that are made alone, in the order of the manifest. -/
theorem registry_adds (m : Manifest) :
    m.Adds ∅ (fun r cs => r.keys = m.classes.keys ∧ r.toList = cs)
      (m.buildAll m.classes.toList) m.registry := by
  have hget : ∀ e ∈ m.classes.toList, m.classes.get? e.1 = some e.2 := by
    intro e he
    exact OrderedMap.get?_eq_some_iff.2 he
  have ha := foldlM_buildClass_adds hget m.sound_empty
  rw [OrderedMap.map_fst_toList] at ha
  rw [registry]
  generalize m.buildAll m.classes.toList = xs,
    m.classes.keys.foldlM
      (fun made name => m.buildClass name [] List.not_mem_nil made) ∅ = r at ha ⊢
  cases ha with
  | error f => exact .error f
  | @ok cs made kept sound held =>
    obtain ⟨hkeys, hvalues⟩ := held
    have hmem : ∀ k, k ∈ made.keys ↔ k ∈ m.classes.keys := by
      intro k
      constructor
      · intro hk
        obtain ⟨c, hc⟩ := OrderedMap.mem_keys_iff_get?.1 hk
        exact (sound k c hc).mem_keys
      · intro hk
        rw [← hkeys] at hk
        obtain ⟨e, he, rfl⟩ := List.mem_map.1 hk
        exact OrderedMap.mem_keys_of_get? (hvalues e he)
    -- The classes were made in another order, but there is one for each name and no other.
    have hsorted := OrderedMap.keys_sort_idxOf m.classes.distinct hmem
    refine .ok (by simp [OrderedMap.get?_emptyCollection]) ?_ ⟨hsorted, ?_⟩
    · intro n c hc
      exact sound n c (by rwa [OrderedMap.get?_sort] at hc)
    · apply OrderedMap.toList_eq_of_get? (hsorted.trans hkeys.symm)
      intro e he
      rw [OrderedMap.get?_sort, hvalues e he]

/-- A registry holds every class as made from its lineage alone, and fails with the fault of the first
class that cannot be made so. -/
theorem registry_eq (m : Manifest) : m.registry = m.direct := by
  have ha := m.registry_adds
  rw [direct]
  generalize m.buildAll m.classes.toList = xs,
    m.registry = r at ha ⊢
  cases ha with
  | error f => rfl
  | ok kept sound held => rw [Except.ok_map, ← held.2, OrderedMap.ofList_toList]

/-- A registry has the declared names in the order of the manifest, each with its class. -/
theorem sound_of_registry {r : Registry} (h : m.registry = .ok r) :
    r.keys = m.classes.keys ∧ m.Sound r := by
  have ha := m.registry_adds
  generalize m.buildAll m.classes.toList = xs at ha
  rw [h] at ha
  cases ha with
  | ok kept sound held => exact ⟨held.1, sound⟩

end Manifest

end ClassForge
