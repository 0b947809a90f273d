import ClassForge.Toml.Datum

/-!
# The values of data

Which dynamic value stands for a datum of a document, kind by kind.

## Main definitions

- `Toml.Datum.Converts` — a datum and its value

## Main statements

- `Toml.Datum.toValue_eq_iff` — every datum has one value, which is the one that is computed
-/

namespace ClassForge.Toml.Datum

/-- The value of a datum, with one case for each kind of datum. -/
inductive Converts : Datum → Value → Prop
  | string (s : String) : Converts (.string s) (.str s)
  | integer (i : Int64) : Converts (.integer i) (.int i)
  | float (x : Binary64) : Converts (.float x) (.float x)
  | boolean (b : Bool) : Converts (.boolean b) (.bool b)
  /-- A date-time becomes its text. -/
  | dateTime (d : DateTime) : Converts (.dateTime d) (.str (String.ofList d.text))
  /-- An array becomes the list of the values of its items. -/
  | array {items : List Datum} {vs : List Value} (length : vs.length = items.length)
      (each : ∀ (i : Nat) d v, items[i]? = some d → vs[i]? = some v → Converts d v) :
      Converts (.array items) (.list vs)
  /-- A table becomes the map with the same keys in the same order. -/
  | table {fields : OrderedMap Datum} {m : OrderedMap Value} (keys : m.keys = fields.keys)
      (each : ∀ key d v, fields.get? key = some d → m.get? key = some v → Converts d v) :
      Converts (.table fields) (.map m)

theorem converts_toValue (d : Datum) : d.Converts d.toValue := by
  induction d using Datum.induction with
  | string s => exact .string s
  | integer i => exact .integer i
  | float x => exact .float x
  | boolean b => exact .boolean b
  | dateTime d => exact .dateTime d
  | array items ih =>
    rw [toValue_array]
    refine .array (List.length_map _) fun i d v hd hv => ?_
    rw [List.getElem?_map, hd] at hv
    obtain rfl : d.toValue = v := Option.some.inj hv
    exact ih d (List.mem_of_getElem? hd)
  | table fields ih =>
    rw [toValue_table]
    refine .table (OrderedMap.keys_map ..) fun key d v hd hv => ?_
    rw [OrderedMap.get?_map, hd] at hv
    obtain rfl : d.toValue = v := Option.some.inj hv
    obtain ⟨i, -, rfl⟩ := OrderedMap.exists_of_get? hd
    exact ih i

theorem Converts.eq_toValue {d : Datum} {v : Value} (h : d.Converts v) : v = d.toValue := by
  induction h with
  | string | integer | float | boolean | dateTime => rfl
  | @array items vs length each ih =>
    rw [toValue_array, Value.list.injEq]
    refine List.ext_getElem (by rw [length, List.length_map]) fun i hv hd => ?_
    rw [List.length_map] at hd
    rw [List.getElem_map]
    exact ih i _ _ (List.getElem?_eq_getElem hd) (List.getElem?_eq_getElem hv)
  | @table fields m keys each ih =>
    rw [toValue_table, Value.map.injEq]
    refine OrderedMap.ext_get? (by rw [keys, OrderedMap.keys_map]) fun key hkey => ?_
    rw [OrderedMap.keys_map] at hkey
    obtain ⟨d, hd⟩ := OrderedMap.mem_keys_iff_get?.1 hkey
    obtain ⟨v, hv⟩ := OrderedMap.mem_keys_iff_get?.1 (keys ▸ hkey)
    rw [OrderedMap.get?_map, hd, hv, ih key d v hd hv, Option.map_some]

/-- A datum has one value. -/
theorem toValue_eq_iff {d : Datum} {v : Value} : d.toValue = v ↔ d.Converts v :=
  ⟨fun h => h ▸ d.converts_toValue, fun h => h.eq_toValue.symm⟩

end ClassForge.Toml.Datum
