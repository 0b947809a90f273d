import ClassForge.Json.Reader
import ClassForge.Json.Writer
import ClassForge.Value

/-!
# Values as JSON

A value is written as the JSON document of the same shape, without a mark of its kind. A text is read
in one of two ways: as a document with sorted objects, whose value is then taken, or by finding out
for each part of the document which kind of value it can be.

## Main definitions

- `Value.toJson`, `Value.json` — the document and the compact text of a value
- `Value.ofJson` — the value of a document
- `Value.ofJson?` — the value of the first kind that a document can be read as
- `Value.readJson?`, `Value.readJsonSorted?` — the two readings of a text
-/

namespace ClassForge.Value

mutual

def toJson : Value → Json
  | nil => .null
  | bool b => .bool b
  | int i => .num (if i.toInt < 0 then .negative i else .natural i.toUInt64)
  | float x => .num (.float x)
  | str s => .str s
  | list items => .arr (toJsonItems items)
  | map ⟨keys, _, value⟩ => .obj (keys.zip (List.ofFn fun i => toJson (value i)))

/-- The documents of the items of a list. -/
def toJsonItems : List Value → List Json
  | [] => []
  | v :: vs => toJson v :: toJsonItems vs

end

/-- The compact JSON text of a value. -/
def json (v : Value) : String :=
  String.ofList v.toJson.write

mutual

/-- The value of a document. A map has its fields in the order of the document; of a repeated key the
first place and the last value count. -/
def ofJson : Json → Value
  | .null => nil
  | .bool b => bool b
  | .num n =>
    match n.toInt64? with
    | some i => int i
    | none => float n.toBinary64
  | .str s => str s
  | .arr items => list (ofJsonItems items)
  | .obj members => map (OrderedMap.ofList (ofJsonMembers members))

/-- The values of the items of an array. -/
def ofJsonItems : List Json → List Value
  | [] => []
  | j :: js => ofJson j :: ofJsonItems js

/-- The values of the members of an object. -/
def ofJsonMembers : List (String × Json) → List (String × Value)
  | [] => []
  | (s, j) :: ms => (s, ofJson j) :: ofJsonMembers ms

end

mutual

/-- The value of the first kind, from nil to maps, that a document can be read as. Nothing in a
document says which kind is meant. -/
def ofJson? (j : Json) : Option Value :=
  (j.null?.map fun _ => nil) <|> j.bool?.map bool <|> j.int64?.map int <|> j.binary64?.map float <|>
    j.string?.map str <|>
    (match j with
      | .arr items => (ofJsonItems? items).map list
      | _ => none) <|>
    (match j with
      | .obj members => (ofJsonMembers? members).map fun entries => map (OrderedMap.ofList entries)
      | _ => none)

/-- The values of the items of an array, if each of them can be read. -/
def ofJsonItems? : List Json → Option (List Value)
  | [] => some []
  | j :: js => do return (← ofJson? j) :: (← ofJsonItems? js)

/-- The values of the members of an object, if each of them can be read. -/
def ofJsonMembers? : List (String × Json) → Option (List (String × Value))
  | [] => some []
  | (s, j) :: ms => do return (s, ← ofJson? j) :: (← ofJsonMembers? ms)

end

/-- Reads a JSON text kind by kind, with map fields in the order of the text. -/
def readJson? (text : String) : Option Value := do
  ofJson? (← Json.read? text.toList)

/-- Reads a JSON text as a document with sorted objects, and takes the value of that. -/
def readJsonSorted? (text : String) : Option Value :=
  (Json.read? text.toList).map fun j => ofJson j.sorted

end ClassForge.Value
