import ClassForge.Proofs.Json.Reader
import ClassForge.Proofs.Json.Sorted
import ClassForge.Proofs.Value.Equivalence
import ClassForge.Value.Json

/-!
# The two readings of a text

Reading a JSON text kind by kind, and taking the value of its document with sorted objects, come to
the same values but for the order of map fields.

## Main definitions

- `Value.Agree` — values of which one has the fields of the other, sorted

## Main statements

- `Value.ofJson?_eq` — the first kind that a document can be read as is the kind of its value
- `Value.ofJson_sorted` — the value of a sorted document
- `Value.naNFree_of_read?` — no text holds a NaN
- `Value.agree_of_naNFree` — the two values of a text agree, whatever reader made a document of it
- `Value.readJson?_agree` — so do both readings of a text
-/

namespace ClassForge.Value

/-! ### Values of documents -/

theorem ofJson_arr (items : List Json) : ofJson (.arr items) = list (items.map ofJson) := by
  have h : ofJsonItems items = items.map ofJson := by
    induction items with
    | nil => rfl
    | cons j js ih => rw [ofJsonItems, ih, List.map_cons]
  rw [ofJson, h]

theorem ofJson_obj (members : List (String × Json)) :
    ofJson (.obj members) = map (OrderedMap.ofList (members.map fun m => (m.1, ofJson m.2))) := by
  have h : ofJsonMembers members = members.map fun m => (m.1, ofJson m.2) := by
    induction members with
    | nil => rfl
    | cons m ms ih => rw [ofJsonMembers, ih, List.map_cons]
  rw [ofJson, h]

theorem ofJsonItems?_eq {items : List Json} (h : ∀ j ∈ items, ofJson? j = some (ofJson j)) :
    ofJsonItems? items = some (items.map ofJson) := by
  induction items with
  | nil => rfl
  | cons j js ih =>
    obtain ⟨hj, hjs⟩ := List.forall_mem_cons.1 h
    rw [ofJsonItems?, hj, ih hjs]
    rfl

theorem ofJsonMembers?_eq {members : List (String × Json)}
    (h : ∀ m ∈ members, ofJson? m.2 = some (ofJson m.2)) :
    ofJsonMembers? members = some (members.map fun m => (m.1, ofJson m.2)) := by
  induction members with
  | nil => rfl
  | cons m ms ih =>
    obtain ⟨hm, hms⟩ := List.forall_mem_cons.1 h
    rw [ofJsonMembers?, hm, ih hms]
    rfl

theorem int64?_num (n : Json.Number) : (Json.num n).int64? = n.toInt64? := by
  cases n with
  | natural n =>
    have h63 : Nat.pow 2 63 = Int64.maxValue.toInt.toNat + 1 := rfl
    rw [Json.int64?, Json.Number.toInt64?, h63]
    simp only [Nat.lt_succ_iff]
  | negative i => rfl
  | float x => rfl

theorem binary64?_num (n : Json.Number) : (Json.num n).binary64? = some n.toBinary64 := by
  cases n <;> rfl

/-- The first kind that a document can be read as is the kind of its value, and the value is the
same. So every document can be read. -/
theorem ofJson?_eq (j : Json) : ofJson? j = some (ofJson j) := by
  induction j using Json.induction with
  | null => rfl
  | bool b => rfl
  | num n =>
    rw [ofJson?.eq_def, int64?_num, binary64?_num, ofJson]
    cases n.toInt64? <;> rfl
  | str s => rfl
  | arr items ih =>
    rw [ofJson_arr, ofJson?, ofJsonItems?_eq ih]
    rfl
  | obj members ih =>
    rw [ofJson_obj, ofJson?, ofJsonMembers?_eq ih]
    rfl

/-! ### Values of sorted documents -/

/-- The value of a sorted document is the value of the document with sorted fields. -/
theorem ofJson_sorted (j : Json) : ofJson j.sorted = (ofJson j).sortFields := by
  induction j using Json.induction with
  | null => rfl
  | bool b => rfl
  | num n =>
    rw [Json.sorted, ofJson]
    cases n.toInt64? <;> rfl
  | str s => rfl
  | arr items ih =>
    rw [Json.sorted_arr, ofJson_arr, ofJson_arr, sortFields_list, List.map_map, List.map_map]
    exact congrArg list (List.map_congr_left ih)
  | obj members ih =>
    have hvalues : members.map (fun m => (m.1, ofJson m.2.sorted)) =
        members.map fun m => (m.1, (ofJson m.2).sortFields) :=
      List.map_congr_left fun m hm => by rw [ih m hm]
    rw [Json.sorted_obj, ofJson_obj, ofJson_obj, sortFields_map, Json.map_sortMembers,
      Json.ofList_sortMembers, OrderedMap.map_ofList, List.map_map, List.map_map]
    exact congrArg (fun es => map ((OrderedMap.ofList es).sort (· ≤ ·))) hvalues

theorem naNFree_num {n : Json.Number} (h : n.toBinary64.isNaN = false) :
    (ofJson (.num n)).NaNFree := by
  refine eachFloat_of_child? (fun x hx => ?_) fun s w hw => ?_
  · rw [ofJson] at hx
    split at hx
    · cases hx
    · cases hx
      exact h
  · rw [ofJson] at hw
    split at hw <;> cases hw

/-- No text holds a NaN. -/
theorem naNFree_of_read? {s : List Char} {j : Json} (h : Json.read? s = some j) :
    (ofJson j).NaNFree := by
  refine Json.of_read? (P := fun j => (ofJson j).NaNFree) ⟨?_, ?_, ?_⟩ ?_ h
  · intro s
    exact eachFloat_of_child?_eq_none nofun fun _ => rfl
  · intro items hitems
    rw [ofJson_arr]
    exact eachFloat_list (List.forall_mem_map.2 hitems)
  · intro members hmembers
    rw [ofJson_obj]
    refine eachFloat_map fun key v hv => ?_
    obtain ⟨m, hm, he⟩ := List.mem_map.1 (OrderedMap.mem_of_get?_ofList hv)
    cases he
    exact hmembers m hm
  · rintro j (_ | _ | hn)
    · exact eachFloat_of_child?_eq_none nofun fun _ => rfl
    · exact eachFloat_of_child?_eq_none nofun fun _ => rfl
    · exact naNFree_num (Json.isNaN_of_value? hn)

/-! ### The two readings -/

/-- Values that are equal and have parts of the same kind at each position. One is the other with
the fields of all maps sorted, so that they differ in nothing but the order of fields. -/
structure Agree (v w : Value) : Prop where
  equal : (v == w) = true
  kind : ∀ path, (v.at? path).map Value.kind = (w.at? path).map Value.kind
  sorted : v = w.sortFields

theorem agree_sortFields {v : Value} (h : v.NaNFree) : Agree v.sortFields v where
  equal := equal_sortFields h
  kind path := by
    rw [at?_sortFields, Option.map_map]
    exact congrArg (fun f => (v.at? path).map f) (funext kind_sortFields)
  sorted := rfl

/-- Whatever documents are read from texts, their values agree unless there is a NaN among them. -/
theorem agree_of_naNFree {read? : String → Option Json}
    (h : ∀ text j, read? text = some j → (ofJson j).NaNFree) (text : String) :
    Option.Rel Agree ((read? text).map fun j => ofJson j.sorted) ((read? text).bind ofJson?) := by
  cases hj : read? text with
  | none => exact .none
  | some j =>
    rw [Option.map_some, Option.bind_some, ofJson?_eq, ofJson_sorted]
    exact .some (agree_sortFields (h text j hj))

/-- Both readings refuse the texts that are no documents, and the two values of a document agree. -/
theorem readJson?_agree (text : String) :
    Option.Rel Agree (readJsonSorted? text) (readJson? text) :=
  agree_of_naNFree (fun _ _ => naNFree_of_read?) text

/-- A key is repeated, a zero has a sign, and an integer needs 64 bits without sign. -/
def oddDocument : String :=
  "\x7b\"b\": 1, \"a\": [-0, 7], \"b\": 9223372036854775808\x7d"

/-- The last value of the key counts, at its first position or in its sorted one. Both readings take the
zero and the large integer for floating-point numbers. -/
theorem readJson?_agree_oddDocument :
    ∃ v w, readJsonSorted? oddDocument = some v ∧ readJson? oddDocument = some w ∧ Agree v w ∧
      v.json = "\x7b\"a\":[-0.0,7],\"b\":9.223372036854776e+18\x7d" ∧
      w.json = "\x7b\"b\":9.223372036854776e+18,\"a\":[-0.0,7]\x7d" := by
  have hsorted : (readJsonSorted? oddDocument).map json =
      some "\x7b\"a\":[-0.0,7],\"b\":9.223372036854776e+18\x7d" := by decide +kernel
  have hread : (readJson? oddDocument).map json =
      some "\x7b\"b\":9.223372036854776e+18,\"a\":[-0.0,7]\x7d" := by decide +kernel
  obtain ⟨v, hv, hvjson⟩ := Option.map_eq_some_iff.1 hsorted
  obtain ⟨w, hw, hwjson⟩ := Option.map_eq_some_iff.1 hread
  have hagree := readJson?_agree oddDocument
  rw [hv, hw] at hagree
  cases hagree with
  | some hagree => exact ⟨v, w, hv, hw, hagree, hvjson, hwjson⟩

end ClassForge.Value
