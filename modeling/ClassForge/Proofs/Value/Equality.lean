import ClassForge.Value
import Mathlib.Data.List.Forall2

/-!
# Parts and equality of values

Where the parts of a value are, what equality of two values says of their parts, and what sorting the
fields of all maps in a value leaves as it is.

## Main definitions

- `Value.Step`, `Value.at?` — the part of a value at a position
- `Value.EachFloat`, `Value.NaNFree` — what the floating-point numbers in a value are
- `Value.sortFields` — the value with the fields of all maps sorted by key

## Main statements

- `Value.equal_list_iff`, `Value.equal_map_iff` — equality of lists and maps, from that of their parts
- `Value.at?_sortFields` — sorted fields change no part but for the order of fields
-/

namespace ClassForge.Value

/-- The way from a value to one of its parts. -/
inductive Step where
  | item (i : Nat)
  | field (key : String)

/-- The item or the field that a step leads to. -/
def child? : Value → Step → Option Value
  | list items, .item i => items[i]?
  | map fields, .field key => fields.get? key
  | _, _ => none

/-- The part at a position. -/
def at? (v : Value) : List Step → Option Value
  | [] => some v
  | s :: path => (v.child? s).bind fun w => w.at? path

/-- The floating-point numbers in a value have a property, at whatever depth. -/
def EachFloat (P : Binary64 → Prop) (v : Value) : Prop :=
  ∀ path x, v.at? path = some (float x) → P x

/-- No part is a NaN, at whatever depth. -/
def NaNFree (v : Value) : Prop :=
  ∀ path x, v.at? path = some (float x) → x.isNaN = false

mutual

/-- The value with the fields of all maps sorted by key. -/
def sortFields : Value → Value
  | nil => nil
  | bool b => bool b
  | int i => int i
  | float x => float x
  | str s => str s
  | list items => list (sortItems items)
  | map ⟨keys, distinct, value⟩ =>
    map ((⟨keys, distinct, fun i => sortFields (value i)⟩ : OrderedMap Value).sort (· ≤ ·))

/-- The items of a list with sorted fields. -/
def sortItems : List Value → List Value
  | [] => []
  | v :: vs => sortFields v :: sortItems vs

end

variable {v w : Value} {as bs items : List Value} {m n fields : OrderedMap Value}
  {P : Binary64 → Prop}

/-! ### Equality -/

theorem equalItems_iff :
    equalItems as bs = true ↔ List.Forall₂ (fun v w => v.equal w = true) as bs := by
  induction as generalizing bs with
  | nil => cases bs <;> simp [equalItems]
  | cons a as ih => cases bs <;> simp [equalItems, ih]

theorem equal_list_iff :
    (list as).equal (list bs) = true ↔ List.Forall₂ (fun v w => v.equal w = true) as bs := by
  rw [equal, equalItems_iff]

/-- Maps are equal when they have as many fields and each field of one has an equal in the other. -/
theorem equal_map_iff :
    (map m).equal (map n) = true ↔ m.keys.length = n.keys.length ∧
      ∀ key v, m.get? key = some v → ∃ w, n.get? key = some w ∧ v.equal w = true := by
  rw [equal, Bool.and_eq_true, beq_iff_eq, List.all_eq_true]
  refine and_congr_right fun _ => ⟨fun h key v hv => ?_, fun h i _ => ?_⟩
  · obtain ⟨i, rfl, rfl⟩ := OrderedMap.exists_of_get? hv
    have hi := h i (List.mem_finRange i)
    split at hi
    next w hw => exact ⟨w, hw, hi⟩
    next => cases hi
  · obtain ⟨w, hw, hvw⟩ := h _ _ (m.get?_keys i)
    rw [hw]
    exact hvw

/-! ### The floating-point numbers in a value -/

theorem eachFloat_of_child? (hv : ∀ x, v = float x → P x)
    (hs : ∀ s w, v.child? s = some w → w.EachFloat P) : v.EachFloat P := by
  intro path x h
  cases path with
  | nil => exact hv x (Option.some.inj h)
  | cons s path =>
    obtain ⟨w, hw, hx⟩ := Option.bind_eq_some_iff.1 h
    exact hs s w hw path x hx

/-- A value without parts is the only floating-point number in it, if it is one. -/
theorem eachFloat_of_child?_eq_none (hv : ∀ x, v = float x → P x) (hs : ∀ s, v.child? s = none) :
    v.EachFloat P := by
  refine eachFloat_of_child? hv fun s w hw => ?_
  rw [hs] at hw
  cases hw

theorem EachFloat.child? (h : v.EachFloat P) {s : Step} (hw : v.child? s = some w) :
    w.EachFloat P := by
  intro path x hx
  refine h (s :: path) x ?_
  rw [at?, hw, Option.bind_some, hx]

theorem eachFloat_list (h : ∀ v ∈ items, v.EachFloat P) : (list items).EachFloat P := by
  refine eachFloat_of_child? (fun x hx => by cases hx) fun s w hw => ?_
  cases s with
  | item i => exact h w (List.mem_of_getElem? hw)
  | field key => cases hw

theorem eachFloat_map (h : ∀ key v, fields.get? key = some v → v.EachFloat P) :
    (map fields).EachFloat P := by
  refine eachFloat_of_child? (fun x hx => by cases hx) fun s w hw => ?_
  cases s with
  | item i => cases hw
  | field key => exact h key w hw

theorem EachFloat.item (h : (list items).EachFloat P) (hv : v ∈ items) : v.EachFloat P := by
  obtain ⟨i, hi⟩ := List.mem_iff_getElem?.1 hv
  exact h.child? (s := .item i) hi

theorem EachFloat.value (h : (map fields).EachFloat P) (i : Fin fields.keys.length) :
    (fields.value i).EachFloat P :=
  h.child? (s := .field fields.keys[i]) (fields.get?_keys i)

/-! ### Sorted fields -/

theorem sortItems_eq_map (items : List Value) : sortItems items = items.map sortFields := by
  induction items with
  | nil => rfl
  | cons v vs ih => rw [sortItems, ih, List.map_cons]

theorem sortFields_list (items : List Value) :
    (list items).sortFields = list (items.map sortFields) := by
  rw [sortFields, sortItems_eq_map]

theorem sortFields_map (fields : OrderedMap Value) :
    (map fields).sortFields = map ((fields.map sortFields).sort (· ≤ ·)) := by
  rw [OrderedMap.map, OrderedMap.tabulate_eq, sortFields]

theorem get?_sort_map_sortFields (fields : OrderedMap Value) (key : String) :
    ((fields.map sortFields).sort (· ≤ ·)).get? key = (fields.get? key).map sortFields := by
  rw [OrderedMap.get?_sort, OrderedMap.get?_map]

@[simp] theorem kind_sortFields (v : Value) : v.sortFields.kind = v.kind := by
  cases v <;> rfl

theorem child?_sortFields (v : Value) (s : Step) :
    v.sortFields.child? s = (v.child? s).map sortFields := by
  cases v with
  | list items =>
    rw [sortFields_list]
    cases s with
    | item i => exact List.getElem?_map
    | field key => rfl
  | map fields =>
    rw [sortFields_map]
    cases s with
    | item i => rfl
    | field key => exact get?_sort_map_sortFields fields key
  | nil | bool | int | float | str => rfl

/-- The parts of a value with sorted fields are those of the value, with sorted fields. -/
theorem at?_sortFields (v : Value) (path : List Step) :
    v.sortFields.at? path = (v.at? path).map sortFields := by
  induction path generalizing v with
  | nil => rfl
  | cons s path ih =>
    rw [at?, at?, child?_sortFields]
    cases v.child? s with
    | none => rfl
    | some w => exact ih w

end ClassForge.Value
