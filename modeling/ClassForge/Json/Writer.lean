import ClassForge.Decimal.Layout
import ClassForge.Json
import ClassForge.Text.Integer

/-!
# Writing JSON documents

## Main definitions

- `Json.write` — the compact text: no blanks
- `Json.writePretty` — the text with one item or member per line, indented by two spaces a level

## Design notes

A string escapes the quote, the backslash and the control characters of ASCII, and nothing else.
A NaN and the infinities are written as `null`.
-/

namespace ClassForge.Json

/-- How a character is written inside a string. -/
def escape (c : Char) : List Char :=
  match c with
  | '"' => ['\\', '"']
  | '\\' => ['\\', '\\']
  | '\x08' => ['\\', 'b']
  | '\x0c' => ['\\', 'f']
  | '\n' => ['\\', 'n']
  | '\r' => ['\\', 'r']
  | '\t' => ['\\', 't']
  | c =>
    if c.toNat < 0x20 then
      ['\\', 'u', '0', '0', (c.toNat / 16).digitChar, (c.toNat % 16).digitChar]
    else [c]

def writeString (s : String) : List Char :=
  '"' :: (s.toList.flatMap escape ++ ['"'])

def writeNumber : Number → List Char
  | .natural n => Nat.toDigits 10 n.toNat
  | .negative i => Text.integer i.toInt
  | .float x => Layout.json.write x

def commaSeparated : List (List Char) → List Char
  | [] => []
  | [s] => s
  | s :: rest => s ++ ',' :: commaSeparated rest

mutual

def write : Json → List Char
  | null => "null".toList
  | bool true => "true".toList
  | bool false => "false".toList
  | num n => writeNumber n
  | str s => writeString s
  | arr items => '[' :: (commaSeparated (writeItems items) ++ [']'])
  | obj members => '{' :: (commaSeparated (writeMembers members) ++ ['}'])

/-- The compact texts of the items of an array. -/
def writeItems : List Json → List (List Char)
  | [] => []
  | j :: js => write j :: writeItems js

/-- The compact texts of the members of an object. -/
def writeMembers : List (String × Json) → List (List Char)
  | [] => []
  | (s, j) :: ms => (writeString s ++ ':' :: write j) :: writeMembers ms

end

/-- A line break and the indentation of a level. -/
def newLine (level : Nat) : List Char :=
  '\n' :: List.replicate (2 * level) ' '

/-- Texts between brackets, each on a line of its own one level deeper, or nothing between them. -/
def bracketed (level : Nat) (opening closing : Char) (items : List (List Char)) : List Char :=
  if items.isEmpty then [opening, closing]
  else opening :: (commaSeparated (items.map (newLine (level + 1) ++ ·)) ++ newLine level ++ [closing])

mutual

/-- The text of a document at a level of indentation. -/
def writePretty (level : Nat) : Json → List Char
  | arr items => bracketed level '[' ']' (writePrettyItems (level + 1) items)
  | obj members => bracketed level '{' '}' (writePrettyMembers (level + 1) members)
  | null => write null
  | bool b => write (bool b)
  | num n => write (num n)
  | str s => write (str s)

/-- The texts of the items of an array. -/
def writePrettyItems (level : Nat) : List Json → List (List Char)
  | [] => []
  | j :: js => writePretty level j :: writePrettyItems level js

/-- The texts of the members of an object. -/
def writePrettyMembers (level : Nat) : List (String × Json) → List (List Char)
  | [] => []
  | (s, j) :: ms =>
    (writeString s ++ ':' :: ' ' :: writePretty level j) :: writePrettyMembers level ms

end

end ClassForge.Json
