import ClassForge.Binary64
import ClassForge.Text.Search
import ClassForge.Toml.DateTime

/-!
# TOML documents

A document as a tree in which every key and every value knows where it stands in the text.

## Main definitions

- `Spanned` — something with its range of bytes
- `Toml.Item` — a value of a document
- `Toml.Table` — entries in order, and how the table came about

## Design notes

A text may be known for a number and still have no value, because it is more than the type holds. It
stands in the document as `Item.unrepresentable` and does no harm where nobody reads it.
-/

namespace ClassForge

/-- Something that stands in a text, with its range. -/
structure Spanned (α : Type) where
  span : Text.Span
  value : α

namespace Toml

/-- How a table came about, which decides what may extend it. -/
inductive TableOrigin where
  /-- The root, or a header of its own. -/
  | header
  /-- The header of a table inside it. -/
  | implied
  /-- A dotted key. -/
  | dotted
  /-- Braces. -/
  | inline
deriving DecidableEq

/-- How an array came about. -/
inductive ArrayOrigin where
  /-- Brackets. -/
  | literal
  /-- Headers in double brackets. -/
  | headers
deriving DecidableEq

/-- A table whose values are of type `ι`. -/
structure Table (ι : Type) where
  origin : TableOrigin
  entries : List (Spanned String × Spanned ι)

/-- A value of a document. -/
inductive Item where
  | string (s : String)
  | integer (i : Int64)
  | float (x : Binary64)
  /-- A number without value: beyond the integers of 64 bits or the finite floating-point numbers, the
  mark of a base without digits, or a decimal integer that goes wrong behind an underscore. -/
  | unrepresentable
  | boolean (b : Bool)
  | dateTime (d : DateTime)
  | array (origin : ArrayOrigin) (items : List (Spanned Item))
  | table (t : Table Item)

instance : Inhabited Item := ⟨.boolean false⟩

namespace Table

variable {ι : Type}

def empty (origin : TableOrigin) : Table ι :=
  ⟨origin, []⟩

def find? (t : Table ι) (key : String) : Option (Spanned ι) :=
  (t.entries.find? fun e => e.1.value == key).map Prod.snd

def push (t : Table ι) (key : Spanned String) (v : Spanned ι) : Table ι :=
  { t with entries := t.entries ++ [(key, v)] }

/-- Changes the value of a key where it stands. -/
def replace (t : Table ι) (key : String) (v : Spanned ι) : Table ι :=
  { t with entries := t.entries.map fun e => if e.1.value == key then (e.1, v) else e }

def remove (t : Table ι) (key : String) : Table ι :=
  { t with entries := t.entries.filter fun e => e.1.value != key }

end Table

end Toml

end ClassForge
