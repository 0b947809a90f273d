/-!
# Ordered maps

A map from texts to values that remembers the order in which its keys were first inserted. Keyword
arguments, instance slots, map values and manifest tables are all of this type.

## Main definitions

- `OrderedMap α` — distinct keys in order, and a value for the position of each key
- `OrderedMap.toList` — the entries in order, the view that all operations are described by
- `OrderedMap.tabulate` — a map from its keys and its value function
- `OrderedMap.get?`, `insert`, `erase`, `ofList` — look-up, update and construction
- `OrderedMap.sort` — the same entries in another order

## Main statements

- `ext_toList` — a map is determined by its entries
- `get?_insert`, `get?_erase` — look-up after an update
- `keys_insert_of_mem`, `keys_insert_of_not_mem` — a key keeps its first position
- `get?_map`, `map_ofList` — look-up and construction with other values

## Design notes

The values are a function on key positions, so the proof that keys are distinct does not mention
them. This is what lets `Value` nest maps of values inside itself and still carry the invariant.
Operations make that function with `tabulate`, so that each value is computed once.
-/

namespace ClassForge

/-- Entries with distinct keys, in the order of first insertion. -/
structure OrderedMap (α : Type) where
  /-- The keys, first inserted first. -/
  keys : List String
  /-- No key occurs twice. -/
  distinct : keys.Nodup
  /-- The value that belongs to the key at each position. -/
  value : Fin keys.length → α

namespace OrderedMap

variable {α β : Type}

/-- The values, in the order of their keys. -/
def values (m : OrderedMap α) : List α :=
  List.ofFn m.value

def toList (m : OrderedMap α) : List (String × α) :=
  m.keys.zip m.values

def size (m : OrderedMap α) : Nat :=
  m.keys.length

def isEmpty (m : OrderedMap α) : Bool :=
  m.keys.isEmpty

/-- Whether `key` has an entry. -/
def contains (m : OrderedMap α) (key : String) : Bool :=
  m.keys.contains key

/-- The value of `key`, if it has one. -/
def get? (m : OrderedMap α) (key : String) : Option α :=
  (m.keys.finIdxOf? key).map m.value

def empty : OrderedMap α :=
  ⟨[], List.nodup_nil, fun i => i.elim0⟩

instance : EmptyCollection (OrderedMap α) := ⟨empty⟩

instance : Inhabited (OrderedMap α) := ⟨empty⟩

/-- The map with the given keys and values, each of which is computed and kept. -/
def tabulate (keys : List String) (distinct : keys.Nodup) (value : Fin keys.length → α) :
    OrderedMap α :=
  let stored := Array.ofFn value
  have size : keys.length = stored.size := Array.size_ofFn.symm
  ⟨keys, distinct, fun i => stored[i.cast size]⟩

theorem tabulate_eq (keys : List String) (distinct : keys.Nodup) (value : Fin keys.length → α) :
    tabulate keys distinct value = ⟨keys, distinct, value⟩ := by
  simp [tabulate]

/-- The map with the given entries, whose keys are already distinct. -/
def ofDistinct (entries : List (String × α)) (h : (entries.map Prod.fst).Nodup) : OrderedMap α :=
  let stored := entries.toArray
  have size : (entries.map Prod.fst).length = stored.size := List.length_map Prod.fst
  tabulate (entries.map Prod.fst) h fun i => stored[i.cast size].2

@[simp] theorem length_toList (m : OrderedMap α) : m.toList.length = m.keys.length := by
  simp [toList, values]

@[simp] theorem getElem_toList (m : OrderedMap α) (i : Nat) (h : i < m.toList.length) :
    m.toList[i] =
      (m.keys.get ⟨i, length_toList m ▸ h⟩, m.value ⟨i, length_toList m ▸ h⟩) := by
  simp [toList, values]

@[simp] theorem map_fst_toList (m : OrderedMap α) : m.toList.map Prod.fst = m.keys :=
  List.ext_getElem (by simp) (by simp)

/-- A new value for a key changes no key. -/
theorem map_fst_replace (entries : List (String × α)) (key : String) (v : α) :
    (entries.map fun e => if e.1 = key then (e.1, v) else e).map Prod.fst =
      entries.map Prod.fst := by
  rw [List.map_map]
  refine List.map_congr_left fun e _ => ?_
  simp only [Function.comp]
  split <;> rfl

/-- Sets the value of `key`. A key that is present keeps its position, a new one goes last. -/
def insert (m : OrderedMap α) (key : String) (value : α) : OrderedMap α :=
  if h : key ∈ m.keys then
    ofDistinct (m.toList.map fun e => if e.1 = key then (e.1, value) else e) <| by
      rw [map_fst_replace, map_fst_toList]
      exact m.distinct
  else
    ofDistinct (m.toList ++ [(key, value)]) <| by
      rw [List.map_append, map_fst_toList]
      exact List.nodup_append.2 ⟨m.distinct, by simp, by
        intro a ha b hb
        have hb : b = key := by simpa using hb
        exact fun e => h (hb ▸ e ▸ ha)⟩

/-- Keeps the entries whose key satisfies `p`, in order. -/
def filterKeys (m : OrderedMap α) (p : String → Bool) : OrderedMap α :=
  ofDistinct (m.toList.filter fun e => p e.1) <|
    List.Pairwise.sublist (List.filter_sublist.map Prod.fst) (map_fst_toList m ▸ m.distinct)

/-- Removes the entry of `key`. The other entries keep their order. -/
def erase (m : OrderedMap α) (key : String) : OrderedMap α :=
  m.filterKeys (· ≠ key)

def insertAll (m : OrderedMap α) (entries : List (String × α)) : OrderedMap α :=
  entries.foldl (fun m e => m.insert e.1 e.2) m

/-- The map built by inserting the entries from left to right: a repeated key keeps its first
position and takes its last value. -/
def ofList (entries : List (String × α)) : OrderedMap α :=
  empty.insertAll entries

/-- The entries in the order of their keys by `le`, equal ones in the order that they had. -/
def sort (m : OrderedMap α) (le : String → String → Bool) : OrderedMap α :=
  ofDistinct (m.toList.mergeSort fun a b => le a.1 b.1) <|
    ((List.mergeSort_perm m.toList _).map Prod.fst).nodup_iff.2 (map_fst_toList m ▸ m.distinct)

/-- Applies `f` to every value. -/
def map (f : α → β) (m : OrderedMap α) : OrderedMap β :=
  tabulate m.keys m.distinct fun i => f (m.value i)

/-! ### The view by entries -/

@[simp] theorem map_snd_toList (m : OrderedMap α) : m.toList.map Prod.snd = m.values :=
  List.ext_getElem (by simp [values]) (by simp [values])

/-- A map is determined by its entries in order. -/
theorem ext_toList {m n : OrderedMap α} (h : m.toList = n.toList) : m = n := by
  obtain ⟨ks, hk, f⟩ := m
  obtain ⟨ls, hl, g⟩ := n
  have hkeys : ks = ls := by simpa using congrArg (List.map Prod.fst) h
  subst hkeys
  have hvalues : List.ofFn f = List.ofFn g := by
    simpa [values] using congrArg (List.map Prod.snd) h
  have hvalue : f = g := funext fun i => by
    simpa using congrArg (·[i.1]?) hvalues
  subst hvalue
  rfl

@[simp] theorem keys_emptyCollection : (∅ : OrderedMap α).keys = [] := rfl

@[simp] theorem toList_empty : (empty : OrderedMap α).toList = [] := rfl

@[simp] theorem toList_ofDistinct (entries : List (String × α))
    (h : (entries.map Prod.fst).Nodup) : (ofDistinct entries h).toList = entries :=
  List.ext_getElem (by simp [ofDistinct, tabulate_eq]) (by simp [ofDistinct, tabulate_eq])

@[simp] theorem toList_filterKeys (m : OrderedMap α) (p : String → Bool) :
    (m.filterKeys p).toList = m.toList.filter fun e => p e.1 :=
  toList_ofDistinct ..

@[simp] theorem toList_erase (m : OrderedMap α) (key : String) :
    (m.erase key).toList = m.toList.filter fun e => e.1 ≠ key :=
  toList_filterKeys ..

@[simp] theorem toList_sort (m : OrderedMap α) (le : String → String → Bool) :
    (m.sort le).toList = m.toList.mergeSort fun a b => le a.1 b.1 :=
  toList_ofDistinct ..

@[simp] theorem toList_map (f : α → β) (m : OrderedMap α) :
    (m.map f).toList = m.toList.map fun e => (e.1, f e.2) :=
  List.ext_getElem (by simp [map, tabulate_eq]) (by simp [map, tabulate_eq])

/-! ### Look-up -/

theorem get?_eq_none_iff {m : OrderedMap α} {key : String} :
    m.get? key = none ↔ key ∉ m.keys := by
  simp [get?]

@[simp] theorem contains_eq_true_iff {m : OrderedMap α} {key : String} :
    m.contains key = true ↔ key ∈ m.keys := by
  simp [contains]

/-- A key holds a value exactly when the pair is an entry. -/
theorem get?_eq_some_iff {m : OrderedMap α} {key : String} {v : α} :
    m.get? key = some v ↔ (key, v) ∈ m.toList := by
  rw [List.mem_iff_getElem]
  simp only [get?, Option.map_eq_some_iff, List.finIdxOf?_eq_some_iff]
  constructor
  · rintro ⟨i, ⟨hi, _⟩, rfl⟩
    refine ⟨i, by simp, ?_⟩
    simp [← hi]
  · rintro ⟨i, hi, he⟩
    have hi' : i < m.keys.length := by simpa using hi
    rw [getElem_toList, Prod.mk.injEq, List.get_eq_getElem] at he
    refine ⟨⟨i, hi'⟩, ⟨he.1, fun j hj hjk => ?_⟩, he.2⟩
    have hjk : m.keys[j.1] = m.keys[i] := hjk.trans he.1.symm
    have := (List.getElem_inj m.distinct).1 hjk
    exact absurd hj (by simp [Fin.lt_def, this])

theorem mem_keys_of_get? {m : OrderedMap α} {key : String} {v : α} (h : m.get? key = some v) :
    key ∈ m.keys := by
  rw [← map_fst_toList]
  exact List.mem_map.2 ⟨_, get?_eq_some_iff.1 h, rfl⟩

theorem mem_keys_iff_get? {m : OrderedMap α} {key : String} :
    key ∈ m.keys ↔ ∃ v, m.get? key = some v := by
  constructor
  · intro h
    refine Option.ne_none_iff_exists'.1 fun hn => ?_
    exact get?_eq_none_iff.1 hn h
  · rintro ⟨v, h⟩
    exact mem_keys_of_get? h

theorem contains_eq_isSome_get? (m : OrderedMap α) (key : String) :
    m.contains key = (m.get? key).isSome := by
  rw [Bool.eq_iff_iff, contains_eq_true_iff, Option.isSome_iff_ne_none, ne_eq, get?_eq_none_iff,
    Decidable.not_not]

/-- The entries, read off the keys and the look-up. -/
theorem toList_eq_of_get? {m : OrderedMap α} {entries : List (String × α)}
    (hk : m.keys = entries.map Prod.fst) (hv : ∀ e ∈ entries, m.get? e.1 = some e.2) :
    m.toList = entries := by
  have hl : m.toList.length = entries.length := by simp [hk]
  refine List.ext_getElem hl fun i hi hi' => ?_
  have hkey : m.toList[i].1 = entries[i].1 := by
    simp [hk]
  have hget : m.get? entries[i].1 = some m.toList[i].2 :=
    get?_eq_some_iff.2 (hkey ▸ List.getElem_mem hi)
  have hvalue : entries[i].2 = m.toList[i].2 :=
    Option.some.inj ((hv _ (List.getElem_mem hi')).symm.trans hget)
  exact Prod.ext hkey hvalue.symm

/-- A map is determined by its keys in order and their values. -/
theorem ext_get? {m n : OrderedMap α} (hk : m.keys = n.keys)
    (hv : ∀ k ∈ n.keys, m.get? k = n.get? k) : m = n := by
  apply ext_toList
  refine toList_eq_of_get? (by rw [hk, map_fst_toList]) fun e he => ?_
  have hn : n.get? e.1 = some e.2 := get?_eq_some_iff.2 he
  rw [hv e.1 (mem_keys_of_get? hn), hn]

theorem get?_keys (m : OrderedMap α) (i : Fin m.keys.length) :
    m.get? m.keys[i] = some (m.value i) := by
  rw [get?_eq_some_iff, List.mem_iff_getElem]
  exact ⟨i, by simp, by simp⟩

theorem exists_of_get? {m : OrderedMap α} {key : String} {v : α} (h : m.get? key = some v) :
    ∃ i, m.keys[i] = key ∧ m.value i = v := by
  obtain ⟨i, hi, rfl⟩ := Option.map_eq_some_iff.1 h
  exact ⟨i, (List.finIdxOf?_eq_some_iff.1 hi).1, rfl⟩

@[simp] theorem get?_empty (key : String) : (empty : OrderedMap α).get? key = none := rfl

@[simp] theorem get?_emptyCollection (key : String) : (∅ : OrderedMap α).get? key = none := rfl

/-! ### Insertion and removal -/

theorem toList_insert_of_mem {m : OrderedMap α} {key : String} (h : key ∈ m.keys) (v : α) :
    (m.insert key v).toList = m.toList.map fun e => if e.1 = key then (e.1, v) else e := by
  rw [insert, dif_pos h, toList_ofDistinct]

theorem toList_insert_of_not_mem {m : OrderedMap α} {key : String} (h : key ∉ m.keys) (v : α) :
    (m.insert key v).toList = m.toList ++ [(key, v)] := by
  rw [insert, dif_neg h, toList_ofDistinct]

/-- A key that is present keeps its position. -/
theorem keys_insert_of_mem {m : OrderedMap α} {key : String} (h : key ∈ m.keys) (v : α) :
    (m.insert key v).keys = m.keys := by
  rw [← map_fst_toList, toList_insert_of_mem h, map_fst_replace, map_fst_toList]

/-- A new key goes last. -/
theorem keys_insert_of_not_mem {m : OrderedMap α} {key : String} (h : key ∉ m.keys) (v : α) :
    (m.insert key v).keys = m.keys ++ [key] := by
  rw [← map_fst_toList, toList_insert_of_not_mem h, List.map_append, map_fst_toList]
  rfl

@[simp] theorem mem_keys_insert {m : OrderedMap α} {key other : String} {v : α} :
    other ∈ (m.insert key v).keys ↔ other ∈ m.keys ∨ other = key := by
  by_cases h : key ∈ m.keys
  · rw [keys_insert_of_mem h]
    exact ⟨.inl, fun o => o.elim id (· ▸ h)⟩
  · simp [keys_insert_of_not_mem h]

/-- Insertion changes the value of one key. -/
theorem get?_insert (m : OrderedMap α) (key other : String) (v : α) :
    (m.insert key v).get? other = if other = key then some v else m.get? other := by
  apply Option.ext
  intro w
  rw [get?_eq_some_iff]
  by_cases h : key ∈ m.keys
  · rw [toList_insert_of_mem h, List.mem_map]
    split
    next ho =>
      subst ho
      constructor
      · rintro ⟨⟨k, x⟩, hm, he⟩
        split at he
        · simp_all
        · simp_all
      · intro hw
        obtain ⟨x, hx⟩ : ∃ x, (other, x) ∈ m.toList := by
          have hk : other ∈ m.toList.map Prod.fst := (map_fst_toList m).symm ▸ h
          obtain ⟨⟨k, x⟩, hx, rfl⟩ := List.mem_map.1 hk
          exact ⟨x, hx⟩
        exact ⟨(other, x), hx, by simp_all⟩
    next ho =>
      rw [get?_eq_some_iff]
      constructor
      · rintro ⟨⟨k, x⟩, hm, he⟩
        split at he <;> simp_all
      · intro hm
        exact ⟨_, hm, by simp [ho]⟩
  · rw [toList_insert_of_not_mem h, List.mem_append, ← get?_eq_some_iff]
    split
    next ho =>
      subst ho
      simp [get?_eq_none_iff.2 h, eq_comm]
    next ho => simp [ho]

/-- Storing the value that a key has already changes nothing. -/
theorem insert_of_get? {m : OrderedMap α} {key : String} {v : α} (h : m.get? key = some v) :
    m.insert key v = m := by
  apply ext_toList
  rw [toList_insert_of_mem (mem_keys_of_get? h)]
  refine (List.map_congr_left ?_).trans (List.map_id m.toList)
  rintro ⟨k, w⟩ hm
  by_cases hk : k = key
  · subst hk
    have hw : m.get? k = some w := get?_eq_some_iff.2 hm
    have : w = v := Option.some.inj (hw.symm.trans h)
    simp [this]
  · simp [hk]

/-- Removing a key that is absent changes nothing. -/
theorem erase_of_not_mem {m : OrderedMap α} {key : String} (h : key ∉ m.keys) :
    m.erase key = m := by
  apply ext_toList
  rw [toList_erase, List.filter_eq_self]
  rintro ⟨k, w⟩ hm
  have hk : k ∈ m.keys := mem_keys_of_get? (get?_eq_some_iff.2 hm)
  simpa using fun e : k = key => h (e ▸ hk)

/-- Removal makes one key absent. -/
theorem get?_erase (m : OrderedMap α) (key other : String) :
    (m.erase key).get? other = if other = key then none else m.get? other := by
  apply Option.ext
  intro w
  rw [get?_eq_some_iff, toList_erase, List.mem_filter]
  split
  next h => simp [h]
  next h => simp [h, get?_eq_some_iff]

/-! ### New values -/

@[simp] theorem keys_map (f : α → β) (m : OrderedMap α) : (m.map f).keys = m.keys := by
  rw [map, tabulate_eq]

theorem get?_map (f : α → β) (m : OrderedMap α) (key : String) :
    (m.map f).get? key = (m.get? key).map f := by
  rw [map, tabulate_eq]
  simp [get?, Option.map_map, Function.comp_def]

theorem map_insert (f : α → β) (m : OrderedMap α) (key : String) (v : α) :
    (m.insert key v).map f = (m.map f).insert key (f v) := by
  apply ext_toList
  by_cases h : key ∈ m.keys
  · have hmap : key ∈ (m.map f).keys := (keys_map f m).symm ▸ h
    rw [toList_map, toList_insert_of_mem h, toList_insert_of_mem hmap, toList_map, List.map_map,
      List.map_map]
    refine List.map_congr_left fun e _ => ?_
    simp only [Function.comp_apply]
    split <;> rfl
  · have hmap : key ∉ (m.map f).keys := (keys_map f m).symm ▸ h
    rw [toList_map, toList_insert_of_not_mem h, toList_insert_of_not_mem hmap, toList_map,
      List.map_append]
    rfl

/-! ### Filters -/

/-- A filter depends on what it says of the keys that are present. -/
theorem filterKeys_congr {m : OrderedMap α} {p q : String → Bool} (h : ∀ k ∈ m.keys, p k = q k) :
    m.filterKeys p = m.filterKeys q := by
  apply ext_toList
  rw [toList_filterKeys, toList_filterKeys]
  refine List.filter_congr fun e he => h e.1 ?_
  exact mem_keys_of_get? (get?_eq_some_iff.2 he)

theorem get?_filterKeys (m : OrderedMap α) (p : String → Bool) (key : String) :
    (m.filterKeys p).get? key = if p key then m.get? key else none := by
  apply Option.ext
  intro v
  rw [get?_eq_some_iff, toList_filterKeys, List.mem_filter, ← get?_eq_some_iff]
  split
  next h => simp [h]
  next h => simp [h]

theorem filterKeys_eq_self {m : OrderedMap α} {p : String → Bool} (h : ∀ k ∈ m.keys, p k = true) :
    m.filterKeys p = m := by
  apply ext_toList
  rw [toList_filterKeys, List.filter_eq_self]
  exact fun e he => h e.1 (mem_keys_of_get? (get?_eq_some_iff.2 he))

theorem filterKeys_erase (m : OrderedMap α) (key : String) (p : String → Bool) :
    (m.erase key).filterKeys p = m.filterKeys fun k => p k && k ≠ key := by
  apply ext_toList
  simp [List.filter_filter]

theorem filterKeys_not_mem_cons (m : OrderedMap α) (key : String) (ks : List String) :
    m.filterKeys (· ∉ key :: ks) = (m.erase key).filterKeys (· ∉ ks) := by
  rw [filterKeys_erase]
  apply filterKeys_congr
  intro k _
  rw [Bool.eq_iff_iff]
  simp only [Bool.and_eq_true, decide_eq_true_eq, List.mem_cons, not_or, and_comm]

@[simp] theorem keys_filterKeys (m : OrderedMap α) (p : String → Bool) :
    (m.filterKeys p).keys = m.keys.filter p := by
  rw [← map_fst_toList, toList_filterKeys, ← map_fst_toList m, List.filter_map]
  rfl

/-! ### Sorting -/

@[simp] theorem keys_sort (m : OrderedMap α) (le : String → String → Bool) :
    (m.sort le).keys = m.keys.mergeSort le := by
  rw [← map_fst_toList, toList_sort, ← map_fst_toList m]
  exact List.map_mergeSort fun _ _ _ _ => rfl

@[simp] theorem get?_sort (m : OrderedMap α) (le : String → String → Bool) (key : String) :
    (m.sort le).get? key = m.get? key := by
  apply Option.ext
  intro v
  rw [get?_eq_some_iff, get?_eq_some_iff, toList_sort]
  exact (List.mergeSort_perm _ _).mem_iff

/-- Sorting by the positions in a list without repetitions that has the same keys gives that list. -/
theorem keys_sort_idxOf {m : OrderedMap α} {ks : List String} (hd : ks.Nodup)
    (h : ∀ k, k ∈ m.keys ↔ k ∈ ks) :
    (m.sort fun a b => ks.idxOf a ≤ ks.idxOf b).keys = ks := by
  rw [keys_sort]
  have hp : (m.keys.mergeSort fun a b => ks.idxOf a ≤ ks.idxOf b).Perm ks :=
    (List.mergeSort_perm _ _).trans ((List.perm_ext_iff_of_nodup m.distinct hd).2 h)
  have hsorted : (m.keys.mergeSort fun a b => ks.idxOf a ≤ ks.idxOf b).Pairwise
      fun a b => ks.idxOf a ≤ ks.idxOf b := by
    refine (List.pairwise_mergeSort ?_ ?_ m.keys).imp (by simp)
    · simp only [decide_eq_true_eq]
      intro a b c
      omega
    · simp only [Bool.or_eq_true, decide_eq_true_eq]
      intro a b
      omega
  have hlist : ks.Pairwise fun a b => ks.idxOf a ≤ ks.idxOf b := by
    rw [List.pairwise_iff_getElem]
    intro i j hi hj hij
    rw [hd.idxOf_getElem, hd.idxOf_getElem]
    exact Nat.le_of_lt hij
  refine List.Perm.eq_of_pairwise ?_ hsorted hlist hp
  intro a b ha hb hab hba
  have ha : ks.idxOf a < ks.length := List.idxOf_lt_length_of_mem (hp.subset ha)
  have hb : ks.idxOf b < ks.length := List.idxOf_lt_length_of_mem hb
  rw [← List.getElem_idxOf ha, ← List.getElem_idxOf hb]
  simp only [Nat.le_antisymm hab hba]

/-! ### Several insertions -/

@[simp] theorem insertAll_nil (m : OrderedMap α) : m.insertAll [] = m := rfl

@[simp] theorem insertAll_cons (m : OrderedMap α) (e : String × α) (entries : List (String × α)) :
    m.insertAll (e :: entries) = (m.insert e.1 e.2).insertAll entries := rfl

theorem insertAll_append (m : OrderedMap α) (es fs : List (String × α)) :
    m.insertAll (es ++ fs) = (m.insertAll es).insertAll fs :=
  List.foldl_append

/-- Entries with distinct new keys are appended. -/
theorem toList_insertAll {m : OrderedMap α} {entries : List (String × α)}
    (h : (m.keys ++ entries.map Prod.fst).Nodup) :
    (m.insertAll entries).toList = m.toList ++ entries := by
  induction entries generalizing m with
  | nil => simp
  | cons e entries ih =>
    have hk : e.1 ∉ m.keys := fun hk =>
      (List.nodup_append.1 h).2.2 _ hk e.1 (by simp) rfl
    rw [insertAll_cons, ih (by simpa [keys_insert_of_not_mem hk] using h),
      toList_insert_of_not_mem hk, List.append_assoc, List.singleton_append]

theorem keys_insertAll {m : OrderedMap α} {entries : List (String × α)}
    (h : (m.keys ++ entries.map Prod.fst).Nodup) :
    (m.insertAll entries).keys = m.keys ++ entries.map Prod.fst := by
  rw [← map_fst_toList, toList_insertAll h, List.map_append, map_fst_toList]

/-- Entries with distinct keys are all that the map of them holds. -/
theorem toList_ofList {entries : List (String × α)} (h : (entries.map Prod.fst).Nodup) :
    (ofList entries).toList = entries := by
  rw [ofList, toList_insertAll (by simpa [empty] using h), toList_empty, List.nil_append]

/-- The map of the entries of a map is that map. -/
theorem ofList_toList (m : OrderedMap α) : ofList m.toList = m :=
  ext_toList (toList_ofList ((map_fst_toList m).symm ▸ m.distinct))

theorem map_insertAll (f : α → β) (m : OrderedMap α) (entries : List (String × α)) :
    (m.insertAll entries).map f = (m.map f).insertAll (entries.map fun e => (e.1, f e.2)) := by
  induction entries generalizing m with
  | nil => rfl
  | cons e entries ih => rw [insertAll_cons, ih, map_insert, List.map_cons, insertAll_cons]

theorem map_ofList (f : α → β) (entries : List (String × α)) :
    (ofList entries).map f = ofList (entries.map fun e => (e.1, f e.2)) := by
  have hempty : (empty : OrderedMap α).map f = empty := ext_toList (by rw [toList_map]; rfl)
  rw [ofList, map_insertAll, hempty, ofList]

theorem mem_of_get?_insertAll {m : OrderedMap α} {entries : List (String × α)} {key : String} {v : α}
    (h : (m.insertAll entries).get? key = some v) : m.get? key = some v ∨ (key, v) ∈ entries := by
  induction entries generalizing m with
  | nil => exact .inl h
  | cons e entries ih =>
    obtain h | h := ih h
    · rw [get?_insert] at h
      split at h
      next hkey =>
        cases h
        exact .inr (hkey ▸ List.mem_cons_self)
      next => exact .inl h
    · exact .inr (List.mem_cons_of_mem e h)

/-- What a key has is from one of the entries. -/
theorem mem_of_get?_ofList {entries : List (String × α)} {key : String} {v : α}
    (h : (ofList entries).get? key = some v) : (key, v) ∈ entries := by
  obtain h | h := mem_of_get?_insertAll h
  · cases h
  · exact h

end OrderedMap

end ClassForge
