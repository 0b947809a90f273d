import Mathlib.Data.Finset.Basic
import Mathlib.Data.Finset.Dedup
import ClassForge.Proofs.Registry.Direct

/-!
# The recursion over parents

Making a class makes its parent first, whatever the manifest says. All calls share one set of classes
under construction, which is looked at to find cycles. Here the calls are followed one by one: they
come to an end, and what they say about parents is so.

## Main definitions

- `Manifest.Builds` — one call with all calls within it
- `Manifest.BuildsAll` — the calls for some classes one after another
- `Manifest.Truthful` — what a fault about a parent says is so

## Main statements

- `Manifest.builds_iff` — every call ends, and leaves the shared set as it was
- `Manifest.Builds.truthful` — what is in the shared set leads to the class of the call, so that a
  parent in the set closes a cycle
- `Manifest.registry_ends` — a registry, or a truthful fault, comes of every manifest
-/

namespace ClassForge

namespace Manifest

open Relation (TransGen)

/-- A call for the class `name`. The classes under construction, `waiting`, and those made already are
shared by all calls, so they go in and come out. -/
inductive Builds (m : Manifest) : String → Finset String → Registry →
    Except ManifestFault (Finset String × Registry) → Prop
  | made {name : String} {waiting : Finset String} {made : Registry}
      (done : made.contains name = true) : Builds m name waiting made (.ok (waiting, made))
  | undeclared {name : String} {waiting : Finset String} {made : Registry}
      (fresh : made.contains name = false) (absent : m.classes.get? name = none) :
      Builds m name waiting made (.ok (waiting, made))
  | root {name : String} {waiting : Finset String} {made : Registry} {d : ClassDecl}
      (fresh : made.contains name = false) (declared : m.classes.get? name = some d)
      (parent : d.parent = none) :
      Builds m name waiting made
        ((d.declareOn (.new name)).map fun c => (waiting, made.insert name c))
  | cycle {name : String} {waiting : Finset String} {made : Registry} {d : ClassDecl}
      {s : Spanned String} (fresh : made.contains name = false)
      (declared : m.classes.get? name = some d) (parent : d.parent = some s)
      (closes : s.value ∈ insert name waiting) :
      Builds m name waiting made (.error (.inheritanceCycle name s.span))
  | parentFails {name : String} {waiting : Finset String} {made : Registry} {d : ClassDecl}
      {s : Spanned String} {e : ManifestFault} (fresh : made.contains name = false)
      (declared : m.classes.get? name = some d) (parent : d.parent = some s)
      (away : s.value ∉ insert name waiting)
      (call : Builds m s.value (insert name waiting) made (.error e)) :
      Builds m name waiting made (.error e)
  | parentMissing {name : String} {waiting waiting' : Finset String} {made made' : Registry}
      {d : ClassDecl} {s : Spanned String} (fresh : made.contains name = false)
      (declared : m.classes.get? name = some d) (parent : d.parent = some s)
      (away : s.value ∉ insert name waiting)
      (call : Builds m s.value (insert name waiting) made (.ok (waiting', made')))
      (missing : made'.get? s.value = none) :
      Builds m name waiting made (.error (.unknownParent name s))
  | subclass {name : String} {waiting waiting' : Finset String} {made made' : Registry}
      {d : ClassDecl} {s : Spanned String} {c : Class} (fresh : made.contains name = false)
      (declared : m.classes.get? name = some d) (parent : d.parent = some s)
      (away : s.value ∉ insert name waiting)
      (call : Builds m s.value (insert name waiting) made (.ok (waiting', made')))
      (found : made'.get? s.value = some c) :
      Builds m name waiting made
        ((d.declareOn (c.subclass name)).map fun b => (waiting'.erase name, made'.insert name b))

/-- The calls for some classes one after another, up to the first fault. -/
inductive BuildsAll (m : Manifest) : List String → Finset String → Registry →
    Except ManifestFault (Finset String × Registry) → Prop
  | done {waiting : Finset String} {made : Registry} :
      BuildsAll m [] waiting made (.ok (waiting, made))
  | fail {name : String} {names : List String} {waiting : Finset String} {made : Registry}
      {e : ManifestFault} (call : Builds m name waiting made (.error e)) :
      BuildsAll m (name :: names) waiting made (.error e)
  | next {name : String} {names : List String} {waiting waiting' : Finset String}
      {made made' : Registry} {r : Except ManifestFault (Finset String × Registry)}
      (call : Builds m name waiting made (.ok (waiting', made')))
      (rest : BuildsAll m names waiting' made' r) : BuildsAll m (name :: names) waiting made r

/-- What a fault about a parent says is so. The range is that of the parent of the named class. -/
def Truthful (m : Manifest) : ManifestFault → Prop
  | .inheritanceCycle name span =>
    TransGen m.Extends name name ∧ ∃ parent, m.parent? name = some parent ∧ parent.span = span
  | .unknownParent name parent =>
    m.parent? name = some parent ∧ m.classes.get? parent.value = none
  | _ => True

variable {m : Manifest} {name : String} {made : Registry} {waiting : Finset String}
  {building : List String} {r : Except ManifestFault (Finset String × Registry)}

/-! ### Calls come to an end -/

/-- The call that carries the classes it waits for is the call with the shared set. The induction is
on the recursion of the former. -/
theorem builds_buildClass (fresh : name ∉ building) :
    m.Builds name building.toFinset made
      ((m.buildClass name building fresh made).map (building.toFinset, ·)) := by
  fun_induction buildClass m name building fresh made with
  | case1 name building fresh h => exact .made h
  | case2 name building fresh h hd => exact .undeclared (Bool.eq_false_iff.2 h) hd
  | case3 name building fresh h d hd hp =>
    rw [Except.map_map]
    exact .root (Bool.eq_false_iff.2 h) hd hp
  | case4 name building fresh h d hd s hp hs =>
    exact .cycle (Bool.eq_false_iff.2 h) hd hp (by simpa using hs)
  | case5 name building fresh h d hd s hp hs ih =>
    have hnew := Bool.eq_false_iff.2 h
    have haway : s.value ∉ insert name building.toFinset := by simpa using hs
    rw [List.toFinset_cons] at ih
    cases hcall : m.buildClass s.value (name :: building) hs made with
    | error e =>
      rw [hcall] at ih
      exact .parentFails hnew hd hp haway ih
    | ok made' =>
      rw [hcall] at ih
      rw [Except.ok_bind]
      cases hget : made'.get? s.value with
      | none => exact .parentMissing hnew hd hp haway ih hget
      | some c =>
        have hsub := Builds.subclass hnew hd hp haway ih hget
        -- The name that was put into the set for the call is taken out again.
        rw [Finset.erase_insert (by simpa using fresh)] at hsub
        change m.Builds _ _ _ (((d.declareOn (c.subclass name)).map (made'.insert name)).map _)
        rwa [Except.map_map]

theorem Builds.eq_buildClass (h : m.Builds name waiting made r) (fresh : name ∉ building)
    (hw : waiting = building.toFinset) :
    (m.buildClass name building fresh made).map (waiting, ·) = r := by
  induction h generalizing building with
  | made done => rw [buildClass_of_mem done, Except.ok_map]
  | undeclared _ absent => rw [buildClass_of_undeclared absent, Except.ok_map]
  | @root name waiting made d new declared parent =>
    rw [buildClass_of_root new declared parent, Except.map_map]
  | cycle new declared parent closes =>
    rw [buildClass_of_cycle new declared parent (by simpa [hw] using closes)]
    rfl
  | @parentFails name waiting made d s e new declared parent away call ih =>
    have hs : s.value ∉ name :: building := by simpa [hw] using away
    have hcall := ih hs (by rw [hw, List.toFinset_cons])
    rw [buildClass_of_parent new declared parent hs, Except.map_eq_error_iff.1 hcall]
    rfl
  | @parentMissing name waiting waiting' made made' d s new declared parent away call missing ih =>
    have hs : s.value ∉ name :: building := by simpa [hw] using away
    obtain ⟨_, hcall, hmade⟩ := Except.map_eq_ok_iff.1 (ih hs (by rw [hw, List.toFinset_cons]))
    obtain ⟨rfl, rfl⟩ := Prod.mk.inj hmade
    rw [buildClass_of_parent new declared parent hs, hcall, Except.ok_bind, missing]
    rfl
  | @subclass name waiting waiting' made made' d s c new declared parent away call found ih =>
    have hs : s.value ∉ name :: building := by simpa [hw] using away
    obtain ⟨_, hcall, hmade⟩ := Except.map_eq_ok_iff.1 (ih hs (by rw [hw, List.toFinset_cons]))
    obtain ⟨rfl, rfl⟩ := Prod.mk.inj hmade
    rw [buildClass_of_parent new declared parent hs, hcall, Except.ok_bind, found,
      Finset.erase_insert (by simpa [hw] using fresh)]
    exact Except.map_map ..

/-- Every call ends, in one way only, and leaves the shared set as it was. -/
theorem builds_iff (fresh : name ∉ building) :
    m.Builds name building.toFinset made r ↔
      (m.buildClass name building fresh made).map (building.toFinset, ·) = r := by
  constructor
  · intro h
    exact h.eq_buildClass fresh rfl
  · rintro rfl
    exact builds_buildClass fresh

/-- The calls for all classes end, and the shared set is empty between them. -/
theorem buildsAll_iff {names : List String} :
    m.BuildsAll names ∅ made r ↔
      (names.foldlM (fun made name => m.buildClass name [] List.not_mem_nil made) made).map
        (∅, ·) = r := by
  have hcall : ∀ {name made r}, m.Builds name ∅ made r ↔
      (m.buildClass name [] List.not_mem_nil made).map (∅, ·) = r := builds_iff List.not_mem_nil
  induction names generalizing made r with
  | nil =>
    constructor
    · intro h
      cases h
      rfl
    · rintro rfl
      exact .done
  | cons name names ih =>
    rw [List.foldlM_cons]
    constructor
    · intro h
      cases h with
      | fail call => rw [Except.map_eq_error_iff.1 (hcall.1 call)]; rfl
      | next call rest =>
        obtain ⟨made', hmade, hpair⟩ := Except.map_eq_ok_iff.1 (hcall.1 call)
        obtain ⟨rfl, rfl⟩ := Prod.mk.inj hpair
        rw [hmade, Except.ok_bind]
        exact ih.1 rest
    · rintro rfl
      cases hmade : m.buildClass name [] List.not_mem_nil made with
      | error e => exact .fail (hcall.2 (by rw [hmade]; rfl))
      | ok made' =>
        rw [Except.ok_bind]
        exact .next (hcall.2 (by rw [hmade]; rfl)) (ih.2 rfl)

/-! ### Faults about parents -/

/-- Declarations say nothing about parents. -/
theorem truthful_of_declareOn {d : ClassDecl} {c : Class} {e : ManifestFault}
    (h : d.declareOn c = .error e) : m.Truthful e := by
  obtain ⟨_, ⟨kind, p⟩, _, b, _, _, hfail⟩ := Except.exists_of_foldlM_eq_error h
  obtain hsettings | ⟨s, _, hdefine⟩ := Except.bind_eq_error_iff.1 hfail
  · have htype : p.capability? = .error e := Except.map_eq_error_iff.1 hsettings
    rw [ParameterDecl.capability?] at htype
    split at htype
    · cases htype
    · split at htype
      · cases htype
      · cases htype
        trivial
  · obtain ⟨f, _, rfl⟩ := Except.mapError_eq_error_iff.1 hdefine
    trivial

theorem Builds.exists_made {d : ClassDecl} {waiting' : Finset String} {made' : Registry}
    (h : m.Builds name waiting made (.ok (waiting', made'))) (hd : m.classes.get? name = some d) :
    ∃ c, made'.get? name = some c := by
  have hinsert : ∀ {old : Registry} {c : Class}, (old.insert name c).get? name = some c := by
    intro old c
    rw [OrderedMap.get?_insert, if_pos rfl]
  generalize hr : Except.ok (waiting', made') = r at h
  cases h with
  | made done =>
    cases hr
    rwa [OrderedMap.contains_eq_isSome_get?, Option.isSome_iff_exists] at done
  | undeclared _ absent =>
    rw [absent] at hd
    cases hd
  | root =>
    obtain ⟨c, _, hpair⟩ := Except.map_eq_ok_iff.1 hr.symm
    cases hpair
    exact ⟨c, hinsert⟩
  | subclass =>
    obtain ⟨c, _, hpair⟩ := Except.map_eq_ok_iff.1 hr.symm
    cases hpair
    exact ⟨c, hinsert⟩
  | cycle => cases hr
  | parentFails => cases hr
  | parentMissing => cases hr

/-- The induction is on the calls. Every class under construction leads to the class of the call, as
each call but the first is for the parent of the class put in last. -/
theorem Builds.truthful {e : ManifestFault} (h : m.Builds name waiting made (.error e))
    (hw : ∀ n ∈ waiting, TransGen m.Extends n name) : m.Truthful e := by
  have hinsert : ∀ {name d s} {waiting : Finset String}, m.classes.get? name = some d →
      d.parent = some s → (∀ n ∈ waiting, TransGen m.Extends n name) →
      ∀ n ∈ insert name waiting, TransGen m.Extends n s.value := by
    intro name d s waiting hd hs hw n hn
    have hstep : m.Extends name s.value := ⟨d, s, hd, hs, rfl⟩
    obtain rfl | hn := Finset.mem_insert.1 hn
    · exact .single hstep
    · exact (hw n hn).tail hstep
  have hparent : ∀ {name d s}, m.classes.get? name = some d → d.parent = some s →
      m.parent? name = some s := by
    intro name d s hd hs
    exact Option.bind_eq_some_iff.2 ⟨d, hd, hs⟩
  generalize hr : Except.error e = r at h
  induction h with
  | made => cases hr
  | undeclared => cases hr
  | root => exact truthful_of_declareOn (Except.map_eq_error_iff.1 hr.symm)
  | @cycle name waiting made d s fresh declared parent closes =>
    cases hr
    have hstep : m.Extends name s.value := ⟨d, s, declared, parent, rfl⟩
    refine ⟨?_, s, hparent declared parent, rfl⟩
    -- The parent is under construction, so it is the class of the call or leads to it.
    obtain heq | hclose := Finset.mem_insert.1 closes
    · exact .single (heq ▸ hstep)
    · exact .head hstep (hw s.value hclose)
  | parentFails _ declared parent _ _ ih => exact ih (hinsert declared parent hw) hr
  | parentMissing _ declared parent _ call missing =>
    cases hr
    refine ⟨hparent declared parent, ?_⟩
    refine Option.eq_none_iff_forall_ne_some.2 ?_
    intro e he
    obtain ⟨c, hc⟩ := call.exists_made he
    rw [missing] at hc
    cases hc
  | subclass => exact truthful_of_declareOn (Except.map_eq_error_iff.1 hr.symm)

theorem BuildsAll.truthful {names : List String} {e : ManifestFault}
    (h : m.BuildsAll names ∅ made (.error e)) : m.Truthful e := by
  induction names generalizing made with
  | nil => cases h
  | cons name names ih =>
    cases h with
    | fail call => exact call.truthful (by simp)
    | next call rest =>
      obtain ⟨_, _, hpair⟩ := Except.map_eq_ok_iff.1 ((builds_iff List.not_mem_nil).1 call)
      cases hpair
      exact ih rest

theorem registry_of_buildsAll (h : m.BuildsAll m.classes.keys ∅ ∅ r) :
    m.registry = r.map fun s =>
      s.2.sort fun a b => m.classes.keys.idxOf a ≤ m.classes.keys.idxOf b := by
  have hregistry : m.registry = (m.classes.keys.foldlM
      (fun made name => m.buildClass name [] List.not_mem_nil made) ∅).map fun made =>
        made.sort fun a b => m.classes.keys.idxOf a ≤ m.classes.keys.idxOf b := rfl
  rw [hregistry, ← buildsAll_iff.1 h, Except.map_map]

/-- The recursion ends for every manifest, also for one that was never checked. A registry comes of it,
or a fault, and what the fault says about parents is so. -/
theorem registry_ends (m : Manifest) :
    (∃ r, (∀ r', m.BuildsAll m.classes.keys ∅ ∅ r' ↔ r' = r) ∧
        m.registry = r.map fun s =>
          s.2.sort fun a b => m.classes.keys.idxOf a ≤ m.classes.keys.idxOf b) ∧
      ∀ e, m.registry = .error e → m.Truthful e := by
  obtain ⟨r, hr⟩ : ∃ r, ∀ r', m.BuildsAll m.classes.keys ∅ ∅ r' ↔ r' = r :=
    ⟨_, fun r' => buildsAll_iff.trans eq_comm⟩
  have hregistry := registry_of_buildsAll ((hr r).2 rfl)
  refine ⟨⟨r, hr, hregistry⟩, ?_⟩
  intro e he
  have hfail : r = .error e := Except.map_eq_error_iff.1 (hregistry.symm.trans he)
  exact BuildsAll.truthful (hfail ▸ (hr r).2 rfl)

/-- The classes `B` and `C` extend one another, and `A` in front of them leads there. -/
def knotted : Manifest :=
  ⟨.ofList [("A", .extending ⟨⟨22, 25⟩, "B"⟩), ("B", .extending ⟨⟨49, 52⟩, "C"⟩),
    ("C", .extending ⟨⟨76, 79⟩, "B"⟩)]⟩

theorem registry_knotted : knotted.registry = .error (.inheritanceCycle "C" ⟨76, 79⟩) := by
  have hA : knotted.classes.get? "A" = some (.extending ⟨⟨22, 25⟩, "B"⟩) := rfl
  have hB : knotted.classes.get? "B" = some (.extending ⟨⟨49, 52⟩, "C"⟩) := rfl
  have hC : knotted.classes.get? "C" = some (.extending ⟨⟨76, 79⟩, "B"⟩) := rfl
  have hcall : knotted.Builds "A" ∅ ∅ (.error (.inheritanceCycle "C" ⟨76, 79⟩)) :=
    .parentFails rfl hA rfl (by decide)
      (.parentFails rfl hB rfl (by decide) (.cycle rfl hC rfl (by decide)))
  exact registry_of_buildsAll (.fail hcall)

/-- The class `A`, which is on no cycle, is not the one that is named. -/
theorem registry_ends_knotted :
    knotted.registry = .error (.inheritanceCycle "C" ⟨76, 79⟩) ∧
      knotted.Truthful (.inheritanceCycle "C" ⟨76, 79⟩) :=
  ⟨registry_knotted, (registry_ends knotted).2 _ registry_knotted⟩

end Manifest

end ClassForge
