import ClassForge.Proofs.Json.RoundTrip
import ClassForge.Proofs.Value.Readings

/-!
# Values through JSON

The JSON text of a value is read back as the value, except that a floating-point number is read as its
own text is. Nothing in a text says which kind a value has, and still every part keeps its kind.

## Main definitions

- `Value.depth` — how deeply lists and maps nest
- `Value.FloatFree`, `Value.Finite` — no part is a floating-point number, or all those are finite
- `Value.mapFloats` — the value with each floating-point number replaced
- `Value.SameForm` — values of one kind, that are equal unless they are numbers with a fraction

## Main statements

- `Value.ofJson_toJson` — the value of the document of a value
- `Value.read?_write_toJson` — the document that the text of a value holds
- `Value.exists_ofJson?_of_readsBack` — the text of a value is read back, whatever the format
- `Value.readJson?_json` — so is the compact text

## Design notes

Of the texts nothing is used but that documents are read back from them, up to their floating-point
numbers.
-/

namespace ClassForge.Value

mutual

/-- The number of lists and maps around the innermost value. -/
def depth : Value → Nat
  | list items => depthItems items + 1
  | map ⟨_, _, value⟩ => (List.ofFn fun i => depth (value i)).foldr max 0 + 1
  | nil => 0
  | bool _ => 0
  | int _ => 0
  | float _ => 0
  | str _ => 0

/-- The largest depth among the items of a list. -/
def depthItems : List Value → Nat
  | [] => 0
  | v :: vs => max (depth v) (depthItems vs)

end

/-- No part is a floating-point number. -/
def FloatFree : Value → Prop :=
  EachFloat fun _ => False

/-- All floating-point numbers in a value are finite. -/
def Finite : Value → Prop :=
  EachFloat fun x => x.isFinite = true

mutual

/-- The value with each floating-point number replaced. -/
def mapFloats (f : Binary64 → Binary64) : Value → Value
  | nil => nil
  | bool b => bool b
  | int i => int i
  | float x => float (f x)
  | str s => str s
  | list items => list (mapFloatsItems f items)
  | map ⟨keys, distinct, value⟩ => map ⟨keys, distinct, fun i => mapFloats f (value i)⟩

/-- The items of a list with each floating-point number replaced. -/
def mapFloatsItems (f : Binary64 → Binary64) : List Value → List Value
  | [] => []
  | v :: vs => mapFloats f v :: mapFloatsItems f vs

end

/-- Values of one kind. Lists are of one length and maps have the same keys in the same order, and
everything else but floating-point numbers is equal. -/
inductive SameForm : Value → Value → Prop where
  | nil : SameForm nil nil
  | bool (b : Bool) : SameForm (bool b) (bool b)
  | int (i : Int64) : SameForm (int i) (int i)
  | float (x y : Binary64) : SameForm (float x) (float y)
  | str (s : String) : SameForm (str s) (str s)
  | list {as bs : List Value} (h : as.length = bs.length) : SameForm (list as) (list bs)
  | map {m n : OrderedMap Value} (h : m.keys = n.keys) : SameForm (map m) (map n)

variable {v : Value} {F : Json.Format} {f : Binary64 → Binary64}

/-! ### Documents of values -/

theorem toJson_list (items : List Value) : (list items).toJson = .arr (items.map toJson) := by
  have h : toJsonItems items = items.map toJson := by
    induction items with
    | nil => rfl
    | cons v vs ih => rw [toJsonItems, ih, List.map_cons]
  rw [toJson, h]

theorem toJson_map (fields : OrderedMap Value) :
    (map fields).toJson = .obj (fields.toList.map fun e => (e.1, e.2.toJson)) := by
  rw [← OrderedMap.toList_map, OrderedMap.map, OrderedMap.tabulate_eq, toJson]
  rfl

/-- A value in a map is the value of a field. -/
theorem forall_mem_toList {fields : OrderedMap Value} (P : Value → Prop)
    (h : ∀ i, P (fields.value i)) : ∀ e ∈ fields.toList, P e.2 := by
  intro e he
  obtain ⟨i, -, hi⟩ := OrderedMap.exists_of_get? (OrderedMap.get?_eq_some_iff.2 he)
  exact hi ▸ h i

/-- A function that keeps all values of a map keeps its entries. -/
theorem map_toList_eq_self {fields : OrderedMap Value} {f : Value → Value}
    (h : ∀ i, f (fields.value i) = fields.value i) :
    fields.toList.map (fun e => (e.1, f e.2)) = fields.toList :=
  have hvalue := forall_mem_toList (fun v => f v = v) h
  calc fields.toList.map (fun e => (e.1, f e.2)) = fields.toList.map id :=
        List.map_congr_left fun e he => Prod.ext rfl (hvalue e he)
    _ = fields.toList := List.map_id _

theorem toNat_toUInt64_lt {i : Int64} (h : 0 ≤ i.toInt) : i.toUInt64.toNat < Nat.pow 2 63 := by
  have hle : 0 ≤ i := Int64.le_iff_toInt_le.2 h
  have hlt := i.toInt_lt
  have hnat : i.toNatClampNeg = i.toInt.toNat := rfl
  have h63 : Nat.pow 2 63 = 9223372036854775808 := rfl
  rw [Int64.toNat_toUInt64_of_le hle, hnat, h63]
  omega

/-- The document of a value has the value. -/
theorem ofJson_toJson (v : Value) : ofJson v.toJson = v := by
  induction v using Value.induction with
  | nil => rfl
  | bool b => rfl
  | int i =>
    rw [toJson]
    split
    next h => rfl
    next h =>
      rw [ofJson, Json.Number.toInt64?, if_pos (toNat_toUInt64_lt (Int.not_lt.1 h))]
      rfl
  | float x => rfl
  | str s => rfl
  | list items ih =>
    rw [toJson_list, ofJson_arr, List.map_map]
    exact congrArg list ((List.map_congr_left ih).trans (List.map_id items))
  | map fields ih =>
    have hentries := map_toList_eq_self (f := fun v => ofJson v.toJson) ih
    rw [toJson_map, ofJson_obj, List.map_map]
    exact congrArg map ((congrArg OrderedMap.ofList hentries).trans (OrderedMap.ofList_toList fields))

theorem depth_toJson (v : Value) : v.toJson.depth = v.depth := by
  induction v using Value.induction with
  | nil | bool | float | str => rfl
  | int i => rfl
  | list items ih =>
    have h : Json.depthItems (items.map toJson) = depthItems items := by
      induction items with
      | nil => rfl
      | cons v vs ihs =>
        obtain ⟨hv, hvs⟩ := List.forall_mem_cons.1 ih
        rw [List.map_cons, Json.depthItems, depthItems, hv, ihs hvs]
    rw [toJson_list, Json.depth, depth, h]
  | map fields ih =>
    have h : ∀ members : List (String × Json),
        Json.depthMembers members = (members.map fun m => m.2.depth).foldr max 0 := by
      intro members
      induction members with
      | nil => rfl
      | cons m ms ihs => rw [Json.depthMembers, ihs, List.map_cons, List.foldr_cons]
    obtain ⟨keys, distinct, value⟩ := fields
    have hdepths : (keys.zip (List.ofFn fun i => toJson (value i))).map (fun m => m.2.depth) =
        List.ofFn fun i => depth (value i) := by
      refine List.ext_getElem (by simp) fun i h₁ h₂ => ?_
      simp [ih]
    rw [toJson, Json.depth, depth, h, hdepths]

/-! ### Other floating-point numbers -/

theorem mapFloats_list (f : Binary64 → Binary64) (items : List Value) :
    (list items).mapFloats f = list (items.map (mapFloats f)) := by
  have h : mapFloatsItems f items = items.map (mapFloats f) := by
    induction items with
    | nil => rfl
    | cons v vs ih => rw [mapFloatsItems, ih, List.map_cons]
  rw [mapFloats, h]

theorem mapFloats_map (f : Binary64 → Binary64) (fields : OrderedMap Value) :
    (map fields).mapFloats f = map (fields.map (mapFloats f)) := by
  rw [OrderedMap.map, OrderedMap.tabulate_eq, mapFloats]

theorem toJson_mapFloats (f : Binary64 → Binary64) (v : Value) :
    (v.mapFloats f).toJson = v.toJson.mapNumbers (Json.Number.mapFloat f) := by
  induction v using Value.induction with
  | nil | bool | float | str => rfl
  | int i =>
    rw [mapFloats, toJson]
    split <;> rfl
  | list items ih =>
    rw [mapFloats_list, toJson_list, toJson_list, Json.mapNumbers, Json.mapNumbersItems_eq,
      List.map_map, List.map_map]
    exact congrArg Json.arr (List.map_congr_left ih)
  | map fields ih =>
    have hvalue := forall_mem_toList
      (fun v => (v.mapFloats f).toJson = v.toJson.mapNumbers (Json.Number.mapFloat f)) ih
    rw [mapFloats_map, toJson_map, toJson_map, Json.mapNumbers, Json.mapNumbersMembers_eq,
      OrderedMap.toList_map, List.map_map, List.map_map]
    exact congrArg Json.obj (List.map_congr_left fun e he => Prod.ext rfl (hvalue e he))

theorem child?_mapFloats (f : Binary64 → Binary64) (v : Value) (s : Step) :
    (v.mapFloats f).child? s = (v.child? s).map (mapFloats f) := by
  cases v with
  | list items =>
    rw [mapFloats_list]
    cases s with
    | item i => exact List.getElem?_map
    | field key => rfl
  | map fields =>
    rw [mapFloats_map]
    cases s with
    | item i => rfl
    | field key => exact OrderedMap.get?_map _ _ _
  | nil | bool | int | float | str => rfl

/-- The parts of the new value are made from those of the old one. -/
theorem at?_mapFloats (f : Binary64 → Binary64) (v : Value) (path : List Step) :
    (v.mapFloats f).at? path = (v.at? path).map (mapFloats f) := by
  induction path generalizing v with
  | nil => rfl
  | cons s path ih =>
    rw [at?, at?, child?_mapFloats]
    cases v.child? s with
    | none => rfl
    | some w => exact ih w

theorem sameForm_mapFloats (f : Binary64 → Binary64) (v : Value) : SameForm v (v.mapFloats f) := by
  cases v with
  | nil => exact .nil
  | bool b => exact .bool b
  | int i => exact .int i
  | float x => exact .float x _
  | str s => exact .str s
  | list items =>
    rw [mapFloats_list]
    exact .list (List.length_map _).symm
  | map fields =>
    rw [mapFloats_map]
    exact .map (OrderedMap.keys_map _ _).symm

theorem mapFloats_of_floatFree (h : v.FloatFree) : v.mapFloats f = v := by
  induction v using Value.induction with
  | nil | bool | int | str => rfl
  | float x => exact (h [] x rfl).elim
  | list items ih =>
    rw [mapFloats_list]
    exact congrArg list
      ((List.map_congr_left fun v hv => ih v hv (EachFloat.item h hv)).trans (List.map_id items))
  | map fields ih =>
    have hentries : (fields.map (mapFloats f)).toList = fields.toList := by
      rw [OrderedMap.toList_map]
      exact map_toList_eq_self fun i => ih i (EachFloat.value h i)
    rw [mapFloats_map, OrderedMap.ext_toList hentries]

/-! ### The text of a value -/

theorem isPlain_toJson (h : v.Finite) : v.toJson.IsPlain := by
  induction v using Value.induction with
  | nil => exact .null
  | bool b => exact .bool b
  | int i =>
    rw [toJson]
    split
    next hneg => exact .num hneg
    next => exact .num trivial
  | float x => exact .num (h [] x rfl)
  | str s => exact .str s
  | list items ih =>
    rw [toJson_list]
    exact .arr (List.forall_mem_map.2 fun v hv => ih v hv (EachFloat.item h hv))
  | map fields ih =>
    rw [toJson_map]
    have hvalue := forall_mem_toList (fun v => v.toJson.IsPlain) fun i => ih i (EachFloat.value h i)
    exact .obj (List.forall_mem_map.2 hvalue)

/-- The text of a value holds the document of the value, up to floating-point numbers. -/
theorem read?_write_toJson (hF : F.ReadsBack f) (hfinite : v.Finite)
    (hdepth : v.depth ≤ Json.depthLimit) :
    F.read? (F.write v.toJson) = some (v.mapFloats f).toJson := by
  rw [hF _ (isPlain_toJson hfinite) (by rwa [depth_toJson]), toJson_mapFloats]

/-- The text of a value is read back kind by kind, in every format that reads documents back. Each
part has the form of the part of the value at its position, and a part without floating-point numbers
is that part. -/
theorem exists_ofJson?_of_readsBack (hF : F.ReadsBack f) (v : Value) (hfinite : v.Finite)
    (hdepth : v.depth ≤ Json.depthLimit) :
    ∃ w, (F.read? (F.write v.toJson)).bind ofJson? = some w ∧
      (∀ path, Option.Rel SameForm (v.at? path) (w.at? path)) ∧
      ∀ path u, v.at? path = some u → u.FloatFree → w.at? path = some u := by
  refine ⟨v.mapFloats f, ?_, fun path => ?_, fun path u hu hfree => ?_⟩
  · rw [read?_write_toJson hF hfinite hdepth, Option.bind_some, ofJson?_eq, ofJson_toJson]
  · rw [at?_mapFloats]
    cases v.at? path with
    | none => exact .none
    | some u => exact .some (sameForm_mapFloats f u)
  · rw [at?_mapFloats, hu, Option.map_some, mapFloats_of_floatFree hfree]

/-- The text of a value is read back kind by kind. Each part has the form of the part of the value at
its position, and a part without floating-point numbers is that part. -/
theorem readJson?_json (v : Value) (hfinite : v.Finite) (hdepth : v.depth ≤ 127) :
    ∃ w, readJson? v.json = some w ∧
      (∀ path, Option.Rel SameForm (v.at? path) (w.at? path)) ∧
      ∀ path u, v.at? path = some u → u.FloatFree → w.at? path = some u :=
  exists_ofJson?_of_readsBack Json.Format.readsBack_compact v hfinite hdepth

/-- A list of numbers, texts and empty parts whose kinds are easily confused. -/
def lookAlikes : Value :=
  list [float ⟨0x8000000000000000⟩, float ⟨0x4341C37937E08000⟩, float ⟨0x7FEFFFFFFFFFFFFF⟩,
    int Int64.minValue, str "1e16", nil, list [],
    map (OrderedMap.ofList [("b", list [int 1]), ("", str "null")])]

theorem finite_lookAlikes : lookAlikes.Finite := by
  have hscalar : ∀ {v : Value}, (∀ x, v = float x → x.isFinite = true) → (∀ s, v.child? s = none) →
      v.Finite := eachFloat_of_child?_eq_none
  have hmap : (map (OrderedMap.ofList [("b", list [int 1]), ("", str "null")])).Finite := by
    refine eachFloat_map fun key v hv => ?_
    obtain h | h : (key, v) = ("b", list [int 1]) ∨ (key, v) = ("", str "null") := by
      simpa using OrderedMap.mem_of_get?_ofList hv
    · cases h
      exact eachFloat_list (List.forall_mem_singleton.2 (hscalar nofun fun _ => rfl))
    · cases h
      exact hscalar nofun fun _ => rfl
  refine eachFloat_list ?_
  simp only [List.forall_mem_cons]
  refine ⟨hscalar ?_ fun _ => rfl, hscalar ?_ fun _ => rfl, hscalar ?_ fun _ => rfl,
    hscalar nofun fun _ => rfl, hscalar nofun fun _ => rfl, hscalar nofun fun _ => rfl,
    eachFloat_list (List.forall_mem_nil _), hmap, List.forall_mem_nil _⟩
  all_goals
    rintro x ⟨⟩
    decide

theorem readJson?_json_lookAlikes : lookAlikes.Finite ∧ lookAlikes.depth ≤ 127 ∧
    ∃ w, readJson? lookAlikes.json = some w ∧
      (∀ path, Option.Rel SameForm (lookAlikes.at? path) (w.at? path)) ∧
      ∀ path u, lookAlikes.at? path = some u → u.FloatFree → w.at? path = some u :=
  have hdepth : lookAlikes.depth ≤ 127 := by decide
  ⟨finite_lookAlikes, hdepth, readJson?_json lookAlikes finite_lookAlikes hdepth⟩

end ClassForge.Value
