import ClassForge.Decimal.Layout
import ClassForge.Text.Inspect
import ClassForge.Text.Integer
import ClassForge.Value

/-!
# Texts of values

Two one-line texts of a value: one for people, as in error messages, and one that also names the
kind of every value inside.

## Main definitions

- `Value.display` — for people: `[1, "a", nil]`
- `Value.inspect` — with kinds: `List([Int(1), Str("a"), Nil])`
-/

namespace ClassForge.Value

def boolText (b : Bool) : String :=
  if b then "true" else "false"

def intText (i : Int64) : String :=
  String.ofList (Text.integer i.toInt)

def floatText (x : Binary64) : String :=
  String.ofList (Layout.display.write x)

mutual

/-- The text of a value for people. Texts inside are quoted, keys of maps are not. -/
def display : Value → String
  | nil => "nil"
  | bool b => boolText b
  | int i => intText i
  | float x => floatText x
  | str s => Text.quoted s
  | list items => Inspect.sequence (displayItems items)
  | map ⟨keys, _, value⟩ => Inspect.table (keys.zip (List.ofFn fun i => display (value i)))

/-- The texts of the items of a list. -/
def displayItems : List Value → List String
  | [] => []
  | v :: vs => display v :: displayItems vs

end

mutual

/-- The text of a value with the kind of every value inside. -/
def inspect : Value → String
  | nil => "Nil"
  | bool b => Inspect.tagged "Bool" [boolText b]
  | int i => Inspect.tagged "Int" [intText i]
  | float x => Inspect.tagged "Float" [floatText x]
  | str s => Inspect.tagged "Str" [Text.quoted s]
  | list items => Inspect.tagged "List" [Inspect.sequence (inspectItems items)]
  | map ⟨keys, _, value⟩ =>
    Inspect.tagged "Map" [Inspect.table
      ((keys.map Text.quoted).zip (List.ofFn fun i => inspect (value i)))]

/-- The texts of the items of a list. -/
def inspectItems : List Value → List String
  | [] => []
  | v :: vs => inspect v :: inspectItems vs

end

end ClassForge.Value
