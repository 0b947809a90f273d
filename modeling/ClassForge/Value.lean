import ClassForge.Binary64
import ClassForge.OrderedMap

/-!
# Values

The dynamically typed values that constructors receive and instances hold.

## Main definitions

- `Value` — nil, booleans, 64-bit integers, floating-point numbers, texts, lists and maps
- `Value.kind` — the name of a value's kind
- `Value.equal` — equality of values, also written `==`
- `Value.induction` — induction over the items and fields nested in a value

## Design notes

Equality is that of the kinds inside: a NaN equals nothing, the two zeros are equal, and maps are
equal when each has the other's keys with equal values, in whatever order.
-/

namespace ClassForge

/-- A dynamically typed value. -/
inductive Value where
  /-- The absent value. It is distinct from an argument that was never supplied. -/
  | nil
  | bool (b : Bool)
  | int (i : Int64)
  | float (x : Binary64)
  | str (s : String)
  | list (items : List Value)
  | map (fields : OrderedMap Value)

namespace Value

instance : Inhabited Value := ⟨nil⟩

/-- To show a property of all values it is enough to derive it for a list from its items and for a
map from its field values. -/
@[elab_as_elim]
theorem induction {motive : Value → Prop} (nil : motive .nil) (bool : ∀ b, motive (.bool b))
    (int : ∀ i, motive (.int i)) (float : ∀ x, motive (.float x)) (str : ∀ s, motive (.str s))
    (list : ∀ items : List Value, (∀ v ∈ items, motive v) → motive (.list items))
    (map : ∀ fields : OrderedMap Value, (∀ i, motive (fields.value i)) → motive (.map fields))
    (v : Value) : motive v :=
  @Value.rec motive (fun items => ∀ v ∈ items, motive v)
    (fun fields => ∀ i, motive (fields.value i))
    nil bool int float str list map (by simp)
    (fun _ _ hd tl => List.forall_mem_cons.2 ⟨hd, tl⟩) (fun _ _ _ h => h) v

def kind : Value → String
  | nil => "nil"
  | bool _ => "bool"
  | int _ => "integer"
  | float _ => "float"
  | str _ => "string"
  | list _ => "list"
  | map _ => "map"

/-- The integer that an integer value holds. -/
def asInt : Value → Option Int64
  | int i => some i
  | _ => none

/-- The text that a text value holds. -/
def asStr : Value → Option String
  | str s => some s
  | _ => none

mutual

def equal : Value → Value → Bool
  | nil, nil => true
  | bool a, bool b => a == b
  | int a, int b => a == b
  | float a, float b => a.equal b
  | str a, str b => a == b
  | list as, list bs => equalItems as bs
  | map ⟨keys, _, value⟩, map other =>
    keys.length == other.keys.length && (List.finRange keys.length).all fun i =>
      match other.get? keys[i] with
      | some w => equal (value i) w
      | none => false
  | _, _ => false

def equalItems : List Value → List Value → Bool
  | [], [] => true
  | a :: as, b :: bs => equal a b && equalItems as bs
  | _, _ => false

end

instance : BEq Value := ⟨equal⟩

/-- The value of an optional one: nil for none. -/
def ofOption {α : Type} (f : α → Value) : Option α → Value
  | none => nil
  | some a => f a

/-- The list of the values of some items. -/
def ofList {α : Type} (f : α → Value) (items : List α) : Value :=
  list (items.map f)

end Value

end ClassForge
