import ClassForge.Text.Quoted

/-!
# Inspection texts

One-line texts that show the inner structure of a value, for reading by a person.

## Main definitions

- `Inspect.record` — a named record, `Name { field: text, field: text }`
- `Inspect.tagged` — a named tuple, `Name(text, text)`
- `Inspect.sequence`, `Inspect.group`, `Inspect.table` — `[a, b]`, `{a, b}` and `{key: a, key: b}`
- `Inspect.optional` — `None` or `Some(text)`
-/

namespace ClassForge.Inspect

/-- Texts separated by a comma and a space. -/
def commaSeparated (items : List String) : String :=
  ", ".intercalate items

def record (name : String) (fields : List (String × String)) : String :=
  name ++ " \x7b " ++ commaSeparated (fields.map fun f => f.1 ++ ": " ++ f.2) ++ " \x7d"

def tagged (name : String) (items : List String) : String :=
  name ++ "(" ++ commaSeparated items ++ ")"

def sequence (items : List String) : String :=
  "[" ++ commaSeparated items ++ "]"

def group (items : List String) : String :=
  "\x7b" ++ commaSeparated items ++ "\x7d"

def table (entries : List (String × String)) : String :=
  group (entries.map fun e => e.1 ++ ": " ++ e.2)

def optional : Option String → String
  | none => "None"
  | some text => tagged "Some" [text]

end ClassForge.Inspect
