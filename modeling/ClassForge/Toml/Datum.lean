import ClassForge.Toml.Table
import ClassForge.Value

/-!
# TOML data

What a document says, without the places where it says it.

## Main definitions

- `Toml.Datum` — a value of a document without places
- `Toml.Item.datum?` — the datum of an item, if all numbers and date-times inside have a value
- `Toml.Section.datum?` — the datum of a whole document
- `Toml.Datum.toValue` — the dynamic value of a datum, in which date-times are texts
- `Toml.Datum.induction` — induction over the items and fields nested in a datum

## Design notes

A table whose first key is `$__toml_private_datetime` stands for the date-time whose text is the
value of that key, whatever else the table holds. Only the root table may have this key for itself.
-/

namespace ClassForge.Toml

/-- A value of a document without places. -/
inductive Datum where
  | string (s : String)
  | integer (i : Int64)
  | float (x : Binary64)
  | boolean (b : Bool)
  | dateTime (d : DateTime)
  | array (items : List Datum)
  | table (fields : OrderedMap Datum)

namespace Datum

instance : Inhabited Datum := ⟨boolean false⟩

/-- To show a property of all data it is enough to derive it for an array from its items and for a
table from its field values. -/
@[elab_as_elim]
theorem induction {motive : Datum → Prop} (string : ∀ s, motive (.string s))
    (integer : ∀ i, motive (.integer i)) (float : ∀ x, motive (.float x))
    (boolean : ∀ b, motive (.boolean b)) (dateTime : ∀ d, motive (.dateTime d))
    (array : ∀ items : List Datum, (∀ d ∈ items, motive d) → motive (.array items))
    (table : ∀ fields : OrderedMap Datum, (∀ i, motive (fields.value i)) → motive (.table fields))
    (d : Datum) : motive d :=
  @Datum.rec motive (fun items => ∀ d ∈ items, motive d)
    (fun fields => ∀ i, motive (fields.value i))
    string integer float boolean dateTime array table (by simp)
    (fun _ _ hd tl => List.forall_mem_cons.2 ⟨hd, tl⟩) (fun _ _ _ h => h) d

mutual

def toValue : Datum → Value
  | string s => .str s
  | integer i => .int i
  | float x => .float x
  | boolean b => .bool b
  | dateTime d => .str (String.ofList d.text)
  | array items => .list (toValues items)
  | table ⟨keys, distinct, value⟩ => .map (.tabulate keys distinct fun i => toValue (value i))

/-- The dynamic values of the items of an array. -/
def toValues : List Datum → List Value
  | [] => []
  | d :: ds => toValue d :: toValues ds

end

theorem toValues_eq_map (items : List Datum) : toValues items = items.map toValue := by
  induction items with
  | nil => rfl
  | cons d items ih => rw [toValues, ih, List.map_cons]

theorem toValue_array (items : List Datum) : toValue (array items) = .list (items.map toValue) := by
  rw [toValue, toValues_eq_map]

theorem toValue_table (fields : OrderedMap Datum) :
    toValue (table fields) = .map (fields.map toValue) := by
  obtain ⟨keys, distinct, value⟩ := fields
  rw [toValue, OrderedMap.map]

end Datum

/-- The key that makes its table stand for a date-time. -/
def dateTimeKey : String :=
  "$__toml_private_datetime"

namespace Item

/-- The date-time whose text an item is. -/
def dateTime? : Item → Option DateTime
  | string s => DateTime.read? s.toList
  | _ => none

/-- What stands for a date-time: the value of the first key, if that is the key of date-times. -/
def stamp? : List (Spanned String × Spanned Item) → Option Item
  | [] => none
  | (key, v) :: _ => if key.value = dateTimeKey then some v.value else none

mutual

def datum? : Item → Option Datum
  | string s => some (.string s)
  | integer i => some (.integer i)
  | float x => some (.float x)
  | unrepresentable => none
  | boolean b => some (.boolean b)
  | dateTime d => some (.dateTime d)
  | array _ items => (data? items).map .array
  | table ⟨_, entries⟩ =>
    match stamp? entries with
    | some stamp => stamp.dateTime?.map .dateTime
    | none => (fields? entries).map fun fields => .table (.ofList fields)

/-- The data of the items of an array. -/
def data? : List (Spanned Item) → Option (List Datum)
  | [] => some []
  | ⟨_, i⟩ :: rest => do return (← datum? i) :: (← data? rest)

/-- The data of the entries of a table. -/
def fields? : List (Spanned String × Spanned Item) → Option (List (String × Datum))
  | [] => some []
  | (⟨_, key⟩, ⟨_, i⟩) :: rest => do return (key, ← datum? i) :: (← fields? rest)

end

end Item

/-- The datum of a document with the given root table. -/
def Section.datum? (t : Section) : Option Datum :=
  (Item.fields? t.entries).map fun fields => .table (.ofList fields)

end ClassForge.Toml
