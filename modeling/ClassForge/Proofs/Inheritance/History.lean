import ClassForge.Class
import Mathlib.Data.List.Induction

/-!
# Families of classes

Classes are made from builders and from one another, and declarations on them come in any order. Each
class is what one root class becomes under the operations that reached its line of ancestors in time.

## Main definitions

- `Operation`, `Action`, `History` — what is done to a class, and to a family of classes
- `History.run` — the family that a history leaves
- `History.operations` — the operations that a class has from its ancestors and of its own

## Main statements

- `History.class?_run` — the classes of a family, without inheritance
- `History.snapshot_of_run` — builder, mixin and ancestors of a class, and what leaves them alone

## Design notes

A class goes by the place in the history of the action that made it. An action on a class that was
never made does nothing, and so does a declaration that fails.
-/

namespace ClassForge

/-- What is done to a class once it is made. -/
inductive Operation where
  | param (name : String) (settings : Settings)
  | option (name : String) (settings : Settings)
  | register (p : Plugin)
  | tolerance (t : Tolerance)

/-- The class after an operation. A declaration that fails leaves the class as it was. -/
def Operation.apply (c : Class) : Operation → Class
  | .param name settings => (c.param name settings).toOption.getD c
  | .option name settings => (c.option name settings).toOption.getD c
  | .register p => c.register p
  | .tolerance t => c.withTolerance t

namespace Class

/-- The class after operations, the first one first. -/
def applyAll (c : Class) (ops : List Operation) : Class :=
  ops.foldl Operation.apply c

@[simp] theorem applyAll_nil (c : Class) : c.applyAll [] = c := rfl

theorem applyAll_append (c : Class) (ops ops' : List Operation) :
    c.applyAll (ops ++ ops') = (c.applyAll ops).applyAll ops' :=
  List.foldl_append

/-- The class under another name and below other ancestors. -/
def place (c : Class) (name : String) (ancestors : List String) : Class :=
  { c with name, ancestors }

/-- No operation looks at the place of a class. -/
theorem apply_place (c : Class) (op : Operation) (name : String) (ancestors : List String) :
    op.apply (c.place name ancestors) = (op.apply c).place name ancestors := by
  cases op with
  | param n s | option n s =>
    simp only [Operation.apply, param, option, define, place]
    cases c.builder.define n _ <;> rfl
  | register p => rfl
  | tolerance t => rfl

theorem applyAll_place (c : Class) (ops : List Operation) (name : String)
    (ancestors : List String) :
    (c.place name ancestors).applyAll ops = (c.applyAll ops).place name ancestors := by
  induction ops generalizing c with
  | nil => rfl
  | cons op ops ih =>
    have hc : (c.place name ancestors).applyAll (op :: ops) =
        (op.apply (c.place name ancestors)).applyAll ops := rfl
    rw [hc, apply_place, ih]
    rfl

end Class

/-- One step in the history of a family of classes. -/
inductive Action where
  | create (name : String) (b : Builder)
  | subclass (name : String) (parent : Nat)
  | on (i : Nat) (op : Operation)

/-- What an action does to the class made at `i`. -/
def Action.on? (i : Nat) : Action → Option Operation
  | .on j op => if j = i then some op else none
  | _ => none

/-- The name of the class that an action makes. -/
def Action.name? : Action → Option String
  | .create name _ => some name
  | .subclass name _ => some name
  | .on _ _ => none

/-- The builder of the root class that an action makes. -/
def Action.builder? : Action → Option Builder
  | .create _ b => some b
  | _ => none

/-- What each action has made, and what became of it. -/
abbrev Family := List (Option Class)

namespace Family

/-- The class made at `i`, if there is one. -/
def class? (f : Family) (i : Nat) : Option Class :=
  f[i]?.join

def step (f : Family) : Action → Family
  | .create name b => f ++ [some (.withBuilder name b)]
  | .subclass name parent => f ++ [(f.class? parent).map (·.subclass name)]
  | .on i op => f.modify i (·.map op.apply) ++ [none]

@[simp] theorem length_step (f : Family) (a : Action) : (f.step a).length = f.length + 1 := by
  cases a <;> simp [step]

theorem class?_eq_none {f : Family} {i : Nat} (h : f.length ≤ i) : f.class? i = none := by
  simp [class?, List.getElem?_eq_none h]

/-- An action changes the class that it is on, and no other. -/
theorem class?_step {f : Family} {i : Nat} (h : i < f.length) (a : Action) :
    (f.step a).class? i = (f.class? i).map (·.applyAll (a.on? i).toList) := by
  cases a with
  | create name b | subclass name p =>
    simp [step, class?, Action.on?, List.getElem?_append_left h]
  | on j op =>
    have hl : i < (f.modify j (·.map op.apply)).length := by simpa using h
    by_cases hj : j = i
    · subst hj
      simp [step, class?, Action.on?, List.getElem?_append_left hl, h, Class.applyAll]
    · simp [step, class?, Action.on?, List.getElem?_append_left hl, hj]

theorem class?_create (f : Family) (name : String) (b : Builder) :
    (f.step (.create name b)).class? f.length = some (.withBuilder name b) := by
  simp [step, class?]

theorem class?_subclass (f : Family) (name : String) (parent : Nat) :
    (f.step (.subclass name parent)).class? f.length = (f.class? parent).map (·.subclass name) := by
  simp [step, class?]

theorem class?_on (f : Family) (i : Nat) (op : Operation) :
    (f.step (.on i op)).class? f.length = none := by
  simp [step, class?]

end Family

/-- The actions on a family of classes, the first one first. -/
abbrev History := List Action

namespace History

def run (h : History) : Family :=
  h.foldl Family.step []

@[simp] theorem run_nil : run [] = [] := rfl

theorem run_snoc (h : History) (a : Action) : run (h ++ [a]) = h.run.step a := by
  simp [run]

@[simp] theorem length_run (h : History) : h.run.length = h.length := by
  induction h using List.reverseRecOn with
  | nil => rfl
  | append_singleton h a ih => simp [run_snoc, ih]

/-- The place of the action that made the superclass of the class made at `i`. -/
def parent? (h : History) (i : Nat) : Option Nat :=
  match h[i]? with
  | some (.subclass _ p) => if p < i then some p else none
  | _ => none

theorem parent?_lt {h : History} {i p : Nat} (hp : h.parent? i = some p) : p < i := by
  unfold parent? at hp
  split at hp
  · split at hp
    · simp_all
    · simp at hp
  · simp at hp

/-- The name of the class made at `i`. -/
def name (h : History) (i : Nat) : String :=
  (h[i]?.bind Action.name?).getD ""

/-- The places of parent, grandparent and so on. -/
def ancestry (h : History) (i : Nat) : List Nat :=
  match _h : h.parent? i with
  | none => []
  | some p => p :: h.ancestry p
termination_by i
decreasing_by exact parent?_lt _h

/-- The builder that the root class above the class made at `i` starts from. -/
def initial? (h : History) (i : Nat) : Option Builder :=
  match _h : h.parent? i with
  | some p => h.initial? p
  | none => h[i]?.bind Action.builder?
termination_by i
decreasing_by exact parent?_lt _h

/-- The operations on the class made at `i` itself, before the action at `t`. -/
def own (h : History) (i t : Nat) : List Operation :=
  ((h.take t).drop (i + 1)).filterMap (·.on? i)

/-- The operations that the class made at `i` has before the action at `t`: those that its parent had
when the class was made, and then its own. -/
def operations (h : History) (i t : Nat) : List Operation :=
  match _h : h.parent? i with
  | none => h.own i t
  | some p => h.operations p i ++ h.own i t
termination_by i
decreasing_by exact parent?_lt _h

section Lineage

variable {h : History} {i p : Nat}

theorem ancestry_of_root (hp : h.parent? i = none) : h.ancestry i = [] := by
  rw [ancestry]
  split <;> simp_all

theorem ancestry_of_parent (hp : h.parent? i = some p) : h.ancestry i = p :: h.ancestry p := by
  rw [ancestry]
  split <;> simp_all

theorem initial?_of_root (hp : h.parent? i = none) :
    h.initial? i = h[i]?.bind Action.builder? := by
  rw [initial?]
  split <;> simp_all

theorem initial?_of_parent (hp : h.parent? i = some p) : h.initial? i = h.initial? p := by
  rw [initial?]
  split <;> simp_all

theorem operations_of_root (hp : h.parent? i = none) (t : Nat) : h.operations i t = h.own i t := by
  rw [operations]
  split <;> simp_all

theorem operations_of_parent (hp : h.parent? i = some p) (t : Nat) :
    h.operations i t = h.operations p i ++ h.own i t := by
  rw [operations]
  split <;> simp_all

theorem lt_of_mem_ancestry {j : Nat} (hj : j ∈ h.ancestry i) : j < i := by
  induction i using Nat.strongRecOn with
  | ind i ih =>
    cases hp : h.parent? i with
    | none => simp [ancestry_of_root hp] at hj
    | some p =>
      have hpi := parent?_lt hp
      rw [ancestry_of_parent hp] at hj
      obtain rfl | hj := List.mem_cons.1 hj
      · exact hpi
      · exact Nat.lt_trans (ih p hpi hj) hpi

end Lineage

section Extension

variable {h : History} {i t : Nat}

theorem parent?_append (hi : i < h.length) (h' : History) : parent? (h ++ h') i = h.parent? i := by
  simp only [parent?, List.getElem?_append_left hi]

theorem name_append (hi : i < h.length) (h' : History) : name (h ++ h') i = h.name i := by
  simp only [name, List.getElem?_append_left hi]

theorem ancestry_append (hi : i < h.length) (h' : History) :
    ancestry (h ++ h') i = h.ancestry i := by
  induction i using Nat.strongRecOn with
  | ind i ih =>
    have ha := parent?_append hi h'
    cases hp : h.parent? i with
    | none => rw [ancestry_of_root hp, ancestry_of_root (ha.trans hp)]
    | some p =>
      have hpi := parent?_lt hp
      rw [ancestry_of_parent hp, ancestry_of_parent (ha.trans hp), ih p hpi (Nat.lt_trans hpi hi)]

theorem map_name_ancestry_append (hi : i < h.length) (h' : History) :
    (ancestry (h ++ h') i).map (name (h ++ h')) = (h.ancestry i).map h.name := by
  rw [ancestry_append hi]
  apply List.map_congr_left
  intro j hj
  exact name_append (Nat.lt_trans (lt_of_mem_ancestry hj) hi) h'

theorem initial?_append (hi : i < h.length) (h' : History) :
    initial? (h ++ h') i = h.initial? i := by
  induction i using Nat.strongRecOn with
  | ind i ih =>
    have ha := parent?_append hi h'
    cases hp : h.parent? i with
    | none => rw [initial?_of_root hp, initial?_of_root (ha.trans hp), List.getElem?_append_left hi]
    | some p =>
      have hpi := parent?_lt hp
      rw [initial?_of_parent hp, initial?_of_parent (ha.trans hp), ih p hpi (Nat.lt_trans hpi hi)]

theorem own_append (ht : t ≤ h.length) (h' : History) : own (h ++ h') i t = h.own i t := by
  rw [own, own, List.take_append_of_le_length ht]

/-- What happens from `t` on does not reach the operations before `t`. -/
theorem operations_append (hi : i < h.length) (ht : t ≤ h.length) (h' : History) :
    operations (h ++ h') i t = h.operations i t := by
  induction i using Nat.strongRecOn generalizing t with
  | ind i ih =>
    have ha := parent?_append hi h'
    cases hp : h.parent? i with
    | none => rw [operations_of_root hp, operations_of_root (ha.trans hp), own_append ht]
    | some p =>
      have hpi := parent?_lt hp
      rw [operations_of_parent hp, operations_of_parent (ha.trans hp), own_append ht,
        ih p hpi (Nat.lt_trans hpi hi) (Nat.le_of_lt hi)]

theorem own_snoc (hi : i < h.length) (a : Action) :
    own (h ++ [a]) i (h ++ [a]).length = h.own i h.length ++ (a.on? i).toList := by
  have ha : [a].filterMap (·.on? i) = (a.on? i).toList := by
    cases hc : a.on? i <;> simp [hc]
  rw [own, own, List.take_length, List.take_length, List.drop_append_of_le_length hi,
    List.filterMap_append, ha]

/-- The next action on a class is the last of its operations. -/
theorem operations_snoc (hi : i < h.length) (a : Action) :
    operations (h ++ [a]) i (h ++ [a]).length = h.operations i h.length ++ (a.on? i).toList := by
  have ha := parent?_append hi [a]
  cases hp : h.parent? i with
  | none => rw [operations_of_root hp, operations_of_root (ha.trans hp), own_snoc hi]
  | some p =>
    have hpi := parent?_lt hp
    rw [operations_of_parent hp, operations_of_parent (ha.trans hp), own_snoc hi,
      operations_append (Nat.lt_trans hpi hi) (Nat.le_of_lt hi), List.append_assoc]

/-- A class that was made just now has no operations of its own. -/
theorem own_length (a : Action) : own (h ++ [a]) h.length (h ++ [a]).length = [] := by
  rw [own, List.take_length, ← List.length_singleton (a := a), ← List.length_append,
    List.drop_length]
  rfl

end Extension

/-- What the class made at `i` comes to without inheritance: a root class with the same builder to
start from, under the operations that reached its line of ancestors in time. -/
def flat? (h : History) (i : Nat) : Option Class :=
  (h.initial? i).map fun b =>
    ((Class.withBuilder (h.name i) b).applyAll (h.operations i h.length)).place (h.name i)
      ((h.ancestry i).map h.name)

section Flattening

variable {h : History} {i : Nat}

theorem flat?_eq_none (hi : h.length ≤ i) : h.flat? i = none := by
  have hp : h.parent? i = none := by simp [parent?, List.getElem?_eq_none hi]
  simp [flat?, initial?_of_root hp, List.getElem?_eq_none hi]

/-- The next action does to the flat form of a class what it does to the class. -/
theorem flat?_snoc (hi : i < h.length) (a : Action) :
    flat? (h ++ [a]) i = (h.flat? i).map (·.applyAll (a.on? i).toList) := by
  rw [flat?, flat?, initial?_append hi, name_append hi, operations_snoc hi,
    map_name_ancestry_append hi, Option.map_map]
  congr 1
  funext b
  rw [Class.applyAll_append, Function.comp, Class.applyAll_place]

theorem flat?_create (name : String) (b : Builder) :
    flat? (h ++ [Action.create name b]) h.length = some (.withBuilder name b) := by
  have hp : parent? (h ++ [Action.create name b]) h.length = none := by simp [parent?]
  have hb : initial? (h ++ [Action.create name b]) h.length = some b := by
    simp [initial?_of_root hp, Action.builder?]
  have hn : History.name (h ++ [Action.create name b]) h.length = name := by
    simp [History.name, Action.name?]
  rw [flat?, hb, hn, operations_of_root hp, ancestry_of_root hp, own_length]
  rfl

/-- The flat form of a subclass is that of the parent so far, a level further down. -/
theorem flat?_subclass (name : String) (p : Nat) :
    flat? (h ++ [Action.subclass name p]) h.length = (h.flat? p).map (·.subclass name) := by
  have hn : History.name (h ++ [Action.subclass name p]) h.length = name := by
    simp [History.name, Action.name?]
  by_cases hp : p < h.length
  · -- All operations are those of the parent, whose flat form stands at another place.
    have hpa : parent? (h ++ [Action.subclass name p]) h.length = some p := by simp [parent?, hp]
    rw [flat?, hn, initial?_of_parent hpa, initial?_append hp, operations_of_parent hpa,
      operations_append hp (Nat.le_refl _), own_length, List.append_nil, ancestry_of_parent hpa,
      List.map_cons, map_name_ancestry_append hp, name_append hp, flat?, Option.map_map]
    congr 1
    funext b
    have hw : Class.withBuilder name b = (Class.withBuilder (h.name p) b).place name [] := rfl
    rw [hw, Class.applyAll_place]
    rfl
  · -- There is no class to make a subclass of.
    have hpa : parent? (h ++ [Action.subclass name p]) h.length = none := by simp [parent?, hp]
    have hb : initial? (h ++ [Action.subclass name p]) h.length = none := by
      simp [initial?_of_root hpa, Action.builder?]
    rw [flat?, hb, flat?_eq_none (Nat.le_of_not_lt hp)]
    rfl

theorem flat?_on (j : Nat) (op : Operation) :
    flat? (h ++ [Action.on j op]) h.length = none := by
  have hp : parent? (h ++ [Action.on j op]) h.length = none := by simp [parent?]
  have hb : initial? (h ++ [Action.on j op]) h.length = none := by
    simp [initial?_of_root hp, Action.builder?]
  rw [flat?, hb]
  rfl

end Flattening

/-- A family holds the flat forms of its classes. -/
theorem class?_run (h : History) (i : Nat) : h.run.class? i = h.flat? i := by
  induction h using List.reverseRecOn generalizing i with
  | nil => rw [flat?_eq_none (Nat.zero_le i)]; rfl
  | append_singleton h a ih =>
    have hl := length_run h
    rw [run_snoc]
    obtain hi | rfl | hi := Nat.lt_trichotomy i h.length
    · -- A class made before has one operation more, or none.
      rw [Family.class?_step (by omega), ih, flat?_snoc hi]
    · -- The class made just now, which a subclass has from the family so far.
      cases a with
      | create name b => rw [← hl, Family.class?_create, hl, flat?_create]
      | subclass name p => rw [← hl, Family.class?_subclass, hl, flat?_subclass, ih]
      | on j op => rw [← hl, Family.class?_on, hl, flat?_on]
    · rw [flat?_eq_none (by simp; omega), Family.class?_eq_none (by simp; omega)]

/-- Actions on other classes leave a class as it is. -/
theorem class?_run_append {h later : History} {i : Nat} (hi : i < h.length)
    (hl : ∀ a ∈ later, a.on? i = none) : (run (h ++ later)).class? i = h.run.class? i := by
  induction later using List.reverseRecOn with
  | nil => rw [List.append_nil]
  | append_singleton later a ih =>
    have ha : a.on? i = none := hl a (by simp)
    have hf : i < (run (h ++ later)).length := by simp; omega
    rw [← List.append_assoc, run_snoc, Family.class?_step hf, ha,
      ih fun b hb => hl b (List.mem_append_left _ hb)]
    exact Option.map_id'

/-- A class stands on its line of ancestors as it was when each subclass was made: its builder and its
mixin are those of one root class under the operations of that line, and nothing that happens to other
classes later on changes it. -/
theorem snapshot_of_run {h : History} {i : Nat} {c : Class}
    (hc : h.run.class? i = some c) :
    c.name = h.name i ∧ c.ancestors = (h.ancestry i).map h.name ∧
      (∃ b, h.initial? i = some b ∧
        c.builder =
          ((Class.withBuilder c.name b).applyAll (h.operations i h.length)).builder ∧
        c.mixin = ((Class.withBuilder c.name b).applyAll (h.operations i h.length)).mixin) ∧
      ∀ later : History, (∀ a ∈ later, a.on? i = none) → (run (h ++ later)).class? i = some c := by
  have hi : i < h.length := by
    by_contra hi
    rw [Family.class?_eq_none (by simpa using hi)] at hc
    cases hc
  have hf := hc
  rw [class?_run, flat?, Option.map_eq_some_iff] at hf
  obtain ⟨b, hb, rfl⟩ := hf
  refine ⟨rfl, rfl, ⟨b, hb, rfl, rfl⟩, ?_⟩
  intro later hl
  rw [class?_run_append hi hl, hc]

/-- A class with two subclasses and a class below one of them. Each of the three goes on changing after
it was subclassed, and one declaration fails. -/
def siblings : History :=
  [.create "Top" .new, .on 0 (.param "a" .new),
    .subclass "Left" 0, .subclass "Right" 0, .on 2 (.option "b" .new),
    .on 0 (.param "a" .new), .on 0 (.option "c" .new), .on 3 (.tolerance .absorb),
    .subclass "Leaf" 2, .on 2 (.option "d" .new), .on 8 (.tolerance .ignore)]

/-- The leaf has what its ancestors had when it came to be, and its own tolerance. -/
theorem snapshot_siblings :
    ∃ c : Class, siblings.run.class? 8 = some c ∧ c.ancestors = ["Left", "Top"] ∧
      c.builder = ((Class.withBuilder "Leaf" .new).applyAll
        [.param "a" .new, .option "b" .new, .tolerance .ignore]).builder ∧
      (run (siblings ++ [Action.on 2 (.param "e" .new)])).class? 8 = some c := by
  have hp8 : siblings.parent? 8 = some 2 := rfl
  have hp2 : siblings.parent? 2 = some 0 := rfl
  have hp0 : siblings.parent? 0 = none := rfl
  have hancestors : (siblings.ancestry 8).map siblings.name = ["Left", "Top"] := by
    rw [ancestry_of_parent hp8, ancestry_of_parent hp2, ancestry_of_root hp0]
    rfl
  have hinitial : siblings.initial? 8 = some .new := by
    rw [initial?_of_parent hp8, initial?_of_parent hp2, initial?_of_root hp0]
    rfl
  have hoperations : siblings.operations 8 siblings.length =
      [.param "a" .new, .option "b" .new, .tolerance .ignore] := by
    rw [operations_of_parent hp8, operations_of_parent hp2, operations_of_root hp0]
    rfl
  obtain ⟨c, hc⟩ : ∃ c, siblings.run.class? 8 = some c := ⟨_, rfl⟩
  obtain ⟨hn, ha, ⟨b, hb, hbuilder, -⟩, hlater⟩ := snapshot_of_run hc
  obtain rfl : Builder.new = b := Option.some.inj (hinitial.symm.trans hb)
  have hname : c.name = "Leaf" := hn
  rw [hname, hoperations] at hbuilder
  exact ⟨c, hc, ha.trans hancestors, hbuilder, hlater _ (by simp [Action.on?])⟩

end History

end ClassForge
