import ClassForge.Proofs.Value.Equality
import Mathlib.Data.List.Perm.Subperm

/-!
# Equality of values as a partial equivalence

Two values are equal exactly if the same positions lead to a part in both, and the two parts at each
position have the same head: they are of one kind, scalars are equal, lists have the same length and
maps the same keys. Positions name fields by their keys, so the order of fields does not come in at any
depth. Equality is symmetric and transitive because heads are, and the NaNs in a value are what keeps
it from being equal to itself.

## Main definitions

- `Value.SameHead` — values that are equal if their items and fields are
- `Value.EqualChildren` — values whose items and fields are equal, each to the one in its place

## Main statements

- `Value.equal_map_iff_keys` — maps are equal if they have the same keys and equal values for each
- `Value.equal_iff_sameHead` — equality from the heads of the parts at all positions
- `Value.equal_sortFields_left` — sorted fields make no difference
- `Value.equal_partialEquivalence` — the laws of equality
-/

namespace ClassForge

/-- Two maps with as many keys, of which one has all keys of the other, have the same keys. -/
theorem OrderedMap.length_eq_and_subset_iff {α : Type} {m n : OrderedMap α} :
    m.keys.length = n.keys.length ∧ m.keys ⊆ n.keys ↔ ∀ key, key ∈ m.keys ↔ key ∈ n.keys := by
  rw [← List.perm_ext_iff_of_nodup m.distinct n.distinct]
  constructor
  · rintro ⟨hlength, hsubset⟩
    exact (m.distinct.subperm hsubset).perm_of_length_le (Nat.le_of_eq hlength.symm)
  · exact fun h => ⟨h.length_eq, h.subset⟩

namespace Value

/-- Values of one kind that are equal if their items and fields are. -/
inductive SameHead : Value → Value → Prop where
  | nil : SameHead nil nil
  | bool (b : Bool) : SameHead (bool b) (bool b)
  | int (i : Int64) : SameHead (int i) (int i)
  | float {x y : Binary64} (h : x.equal y = true) : SameHead (float x) (float y)
  | str (s : String) : SameHead (str s) (str s)
  | list {as bs : List Value} (h : as.length = bs.length) : SameHead (list as) (list bs)
  | map {m n : OrderedMap Value} (h : ∀ key, key ∈ m.keys ↔ key ∈ n.keys) :
    SameHead (map m) (map n)

/-- One step leads to a part in both values or in none, and the two parts are equal. -/
def EqualChildren (v w : Value) : Prop :=
  ∀ s, Option.Rel (fun v w => v.equal w = true) (v.child? s) (w.child? s)

variable {u v w : Value} {as bs : List Value} {m n : OrderedMap Value}

/-! ### Heads -/

namespace SameHead

theorem symm (h : SameHead v w) : SameHead w v := by
  cases h with
  | nil => exact .nil
  | bool b => exact .bool b
  | int i => exact .int i
  | float h => exact .float (Binary64.equal_comm _ _ ▸ h)
  | str s => exact .str s
  | list h => exact .list h.symm
  | map h => exact .map fun key => (h key).symm

theorem trans (h : SameHead u v) (h' : SameHead v w) : SameHead u w := by
  cases h with
  | nil | bool | int | str => exact h'
  | float h =>
    cases h' with
    | float h' => exact .float (Binary64.equal_trans h h')
  | list h =>
    cases h' with
    | list h' => exact .list (h.trans h')
  | map h =>
    cases h' with
    | map h' => exact .map fun key => (h key).trans (h' key)

/-- Only a NaN has another head than itself. -/
theorem self_iff : SameHead v v ↔ ∀ x, v = Value.float x → x.isNaN = false := by
  constructor
  · rintro h x rfl
    cases h with
    | float h => simpa [Binary64.equal_self] using h
  · intro h
    cases v with
    | nil => exact .nil
    | bool b => exact .bool b
    | int i => exact .int i
    | float x => exact .float (by rw [Binary64.equal_self, h x rfl]; rfl)
    | str s => exact .str s
    | list items => exact .list rfl
    | map fields => exact .map fun _ => Iff.rfl

end SameHead

/-! ### One step -/

/-- Maps are equal when they have the same keys, in whatever order, and equal values for each. -/
theorem equal_map_iff_keys :
    (map m).equal (map n) = true ↔ (∀ key, key ∈ m.keys ↔ key ∈ n.keys) ∧
      ∀ key v w, m.get? key = some v → n.get? key = some w → v.equal w = true := by
  rw [equal_map_iff, ← OrderedMap.length_eq_and_subset_iff, and_assoc]
  refine and_congr_right fun _ => ⟨fun h => ⟨fun key hkey => ?_, fun key v w hv hw => ?_⟩, ?_⟩
  · obtain ⟨v, hv⟩ := OrderedMap.mem_keys_iff_get?.1 hkey
    obtain ⟨w, hw, -⟩ := h key v hv
    exact OrderedMap.mem_keys_of_get? hw
  · obtain ⟨w', hw', hequal⟩ := h key v hv
    obtain rfl : w' = w := Option.some.inj (hw'.symm.trans hw)
    exact hequal
  · rintro ⟨hsubset, hequal⟩ key v hv
    obtain ⟨w, hw⟩ := OrderedMap.mem_keys_iff_get?.1 (hsubset (OrderedMap.mem_keys_of_get? hv))
    exact ⟨w, hw, hequal key v w hv hw⟩

theorem sameHead_of_equal (h : v.equal w = true) : SameHead v w := by
  cases v <;> cases w
  case nil.nil => exact .nil
  case float.float =>
    rw [equal] at h
    exact .float h
  case list.list => exact .list (equal_list_iff.1 h).length_eq
  case map.map => exact .map (equal_map_iff_keys.1 h).1
  case bool.bool =>
    rw [equal, beq_iff_eq] at h
    exact h ▸ .bool _
  case int.int =>
    rw [equal, beq_iff_eq] at h
    exact h ▸ .int _
  case str.str =>
    rw [equal, beq_iff_eq] at h
    exact h ▸ .str _
  -- what remains are values of two kinds
  all_goals simp [equal] at h

theorem equalChildren_list_iff (hlength : as.length = bs.length) :
    EqualChildren (list as) (list bs) ↔ List.Forall₂ (fun v w => v.equal w = true) as bs := by
  rw [List.forall₂_iff_get]
  constructor
  · refine fun h => ⟨hlength, fun i ha hb => ?_⟩
    have hi := h (.item i)
    rw [child?, child?, List.getElem?_eq_getElem ha, List.getElem?_eq_getElem hb] at hi
    cases hi with
    | some hi => exact hi
  · rintro ⟨-, h⟩ s
    cases s with
    | field key => exact .none
    | item i =>
      rw [child?, child?]
      by_cases hi : i < as.length
      · rw [List.getElem?_eq_getElem hi, List.getElem?_eq_getElem (hlength ▸ hi)]
        exact .some (h i hi (hlength ▸ hi))
      · have hi := Nat.not_lt.1 hi
        rw [List.getElem?_eq_none hi, List.getElem?_eq_none (hlength ▸ hi)]
        exact .none

theorem equalChildren_map_iff (hkeys : ∀ key, key ∈ m.keys ↔ key ∈ n.keys) :
    EqualChildren (map m) (map n) ↔
      ∀ key v w, m.get? key = some v → n.get? key = some w → v.equal w = true := by
  constructor
  · intro h key v w hv hw
    have hkey := h (.field key)
    rw [child?, child?, hv, hw] at hkey
    cases hkey with
    | some hkey => exact hkey
  · intro h s
    cases s with
    | item i => exact .none
    | field key =>
      rw [child?, child?]
      by_cases hkey : key ∈ m.keys
      · obtain ⟨v, hv⟩ := OrderedMap.mem_keys_iff_get?.1 hkey
        obtain ⟨w, hw⟩ := OrderedMap.mem_keys_iff_get?.1 ((hkeys key).1 hkey)
        rw [hv, hw]
        exact .some (h key v w hv hw)
      · have hkey' := mt (hkeys key).2 hkey
        rw [OrderedMap.get?_eq_none_iff.2 hkey, OrderedMap.get?_eq_none_iff.2 hkey']
        exact .none

/-- Values are equal if they have the same head and equal parts behind it. -/
theorem equal_iff_equalChildren : v.equal w = true ↔ SameHead v w ∧ EqualChildren v w := by
  constructor
  · intro h
    have hhead := sameHead_of_equal h
    refine ⟨hhead, ?_⟩
    cases hhead with
    | nil | bool | int | float | str => exact fun _ => .none
    | list hlength => exact (equalChildren_list_iff hlength).2 (equal_list_iff.1 h)
    | map hkeys => exact (equalChildren_map_iff hkeys).2 (equal_map_iff_keys.1 h).2
  · rintro ⟨hhead, hchildren⟩
    cases hhead with
    | nil => rfl
    | bool | int | str => rw [equal, beq_self_eq_true]
    | float h => rwa [equal]
    | list hlength => exact equal_list_iff.2 ((equalChildren_list_iff hlength).1 hchildren)
    | map hkeys =>
      exact equal_map_iff_keys.2 ⟨hkeys, (equalChildren_map_iff hkeys).1 hchildren⟩

/-! ### All positions -/

/-- To show a property of all values it is enough to derive it for each from the parts one step
behind it. -/
theorem child_induction {motive : Value → Prop}
    (step : ∀ v : Value, (∀ s w, v.child? s = some w → motive w) → motive v) (v : Value) :
    motive v := by
  induction v using Value.induction with
  | nil | bool | int | float | str => exact step _ nofun
  | list items ih =>
    refine step _ fun s w hw => ?_
    cases s with
    | item i => exact ih w (List.mem_of_getElem? hw)
    | field key => cases hw
  | map fields ih =>
    refine step _ fun s w hw => ?_
    cases s with
    | item i => cases hw
    | field key =>
      obtain ⟨i, -, rfl⟩ := OrderedMap.exists_of_get? hw
      exact ih i

/-- The parts of equal values have the same heads. -/
theorem sameHead_at? (h : v.equal w = true) (path : List Step) :
    Option.Rel SameHead (v.at? path) (w.at? path) := by
  induction path generalizing v w with
  | nil => exact .some (sameHead_of_equal h)
  | cons s path ih =>
    have hs := (equal_iff_equalChildren.1 h).2 s
    rw [at?, at?]
    generalize v.child? s = a, w.child? s = b at hs
    cases hs with
    | none => exact .none
    | some h => exact ih h

/-- Values are equal if the same positions lead to parts in both, and these have the same heads. -/
theorem equal_iff_sameHead :
    v.equal w = true ↔ ∀ path, Option.Rel SameHead (v.at? path) (w.at? path) := by
  refine ⟨sameHead_at?, fun h => ?_⟩
  induction v using child_induction generalizing w with
  | step v ih =>
    have hhead : SameHead v w := by
      cases h [] with
      | some hhead => exact hhead
    refine equal_iff_equalChildren.2 ⟨hhead, fun s => ?_⟩
    have hs : ∀ path, Option.Rel SameHead ((v.child? s).bind (·.at? path))
        ((w.child? s).bind (·.at? path)) := fun path => h (s :: path)
    cases hv : v.child? s with
    | none =>
      rw [hv] at hs
      cases hw : w.child? s with
      | none => exact .none
      | some b =>
        rw [hw] at hs
        cases hs []
    | some a =>
      rw [hv] at hs
      cases hw : w.child? s with
      | none =>
        rw [hw] at hs
        cases hs []
      | some b =>
        rw [hw] at hs
        exact .some (ih s a hv hs)

/-! ### The laws -/

theorem equal_symm (h : v.equal w = true) : w.equal v = true := by
  refine equal_iff_sameHead.2 fun path => ?_
  have hpath := sameHead_at? h path
  generalize v.at? path = a, w.at? path = b at hpath
  cases hpath with
  | none => exact .none
  | some h => exact .some h.symm

theorem equal_trans (h : u.equal v = true) (h' : v.equal w = true) : u.equal w = true := by
  refine equal_iff_sameHead.2 fun path => ?_
  have hpath := sameHead_at? h path
  have hpath' := sameHead_at? h' path
  generalize u.at? path = a, v.at? path = b, w.at? path = c at hpath hpath'
  cases hpath with
  | none =>
    cases hpath' with
    | none => exact .none
  | some h =>
    cases hpath' with
    | some h' => exact .some (h.trans h')

theorem equal_self_iff : v.equal v = true ↔ v.NaNFree := by
  rw [equal_iff_sameHead]
  constructor
  · intro h path x hx
    have hpath := h path
    rw [hx] at hpath
    cases hpath with
    | some hhead => exact SameHead.self_iff.1 hhead x rfl
  · intro h path
    cases hpath : v.at? path with
    | none => exact .none
    | some a => exact .some (SameHead.self_iff.2 fun x hx => h path x (hx ▸ hpath))

theorem sameHead_sortFields_iff : SameHead v.sortFields w ↔ SameHead v w := by
  cases v with
  | nil | bool | int | float | str => exact Iff.rfl
  | list items =>
    have h : SameHead (list items).sortFields (list items) := by
      rw [sortFields_list]
      exact .list (List.length_map _)
    exact ⟨h.symm.trans, h.trans⟩
  | map fields =>
    have h : SameHead (map fields).sortFields (map fields) := by
      rw [sortFields_map]
      refine .map fun key => ?_
      rw [OrderedMap.mem_keys_iff_get?, get?_sort_map_sortFields, OrderedMap.mem_keys_iff_get?]
      simp
    exact ⟨h.symm.trans, h.trans⟩

/-- The order of fields does not count. -/
theorem equal_sortFields_left (v w : Value) : v.sortFields.equal w = v.equal w := by
  rw [Bool.eq_iff_iff, equal_iff_sameHead, equal_iff_sameHead]
  refine forall_congr' fun path => ?_
  rw [at?_sortFields]
  generalize v.at? path = a, w.at? path = b
  cases a <;> cases b
  case some.some =>
    rw [Option.map_some, Option.rel_some_some, Option.rel_some_some]
    exact sameHead_sortFields_iff
  all_goals simp

/-- A value without NaN equals the one with sorted fields. -/
theorem equal_sortFields (h : v.NaNFree) : v.sortFields.equal v = true := by
  rw [equal_sortFields_left]
  exact equal_self_iff.2 h

/-- Equality is symmetric and transitive, and a value equals itself if and only if none of its parts is
a NaN. Maps are equal if they have the same keys and equal values for each. So it is at every depth: all
that counts is which positions lead to a part and what head each part has, and the fields of all maps
may be sorted. -/
theorem equal_partialEquivalence :
    (∀ v w : Value, v.equal w = w.equal v) ∧
    (∀ u v w : Value, u.equal v = true → v.equal w = true → u.equal w = true) ∧
    (∀ v : Value, v.equal v = true ↔ v.NaNFree) ∧
    (∀ m n : OrderedMap Value, (map m).equal (map n) = true ↔
      (∀ key, key ∈ m.keys ↔ key ∈ n.keys) ∧
        ∀ key v w, m.get? key = some v → n.get? key = some w → v.equal w = true) ∧
    (∀ v w : Value,
      v.equal w = true ↔ ∀ path, Option.Rel SameHead (v.at? path) (w.at? path)) ∧
    ∀ v w : Value, v.sortFields.equal w.sortFields = v.equal w := by
  have hcomm : ∀ v w : Value, v.equal w = w.equal v := fun v w =>
    Bool.eq_iff_iff.2 ⟨equal_symm, equal_symm⟩
  refine ⟨hcomm, fun _ _ _ => equal_trans, fun _ => equal_self_iff, fun _ _ => equal_map_iff_keys,
    fun _ _ => equal_iff_sameHead, fun v w => ?_⟩
  rw [equal_sortFields_left, hcomm, equal_sortFields_left, hcomm]

/-- The two zeros, and fields in other orders, on two levels. -/
theorem equal_reordered :
    let u : Value := .map (.ofList [("a", .float ⟨0⟩),
      ("b", .list [.map (.ofList [("x", .int 1), ("y", .nil)])])])
    let v : Value := .map (.ofList [("b", .list [.map (.ofList [("y", .nil), ("x", .int 1)])]),
      ("a", .float ⟨0x8000000000000000⟩)])
    let w : Value := .map (.ofList [("a", .float ⟨0x8000000000000000⟩),
      ("b", .list [.map (.ofList [("y", .nil), ("x", .int 1)])])])
    u.equal v = true ∧ v.equal w = true ∧ u.equal w = true :=
  have huv := by decide
  have hvw := by decide
  ⟨huv, hvw, equal_partialEquivalence.2.1 _ _ _ huv hvw⟩

end Value

end ClassForge
