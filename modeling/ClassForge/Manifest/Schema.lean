import ClassForge.Decimal.Layout
import ClassForge.Manifest
import ClassForge.Value.Display

/-!
# The schema of manifests

Which documents are manifests, and what is wrong with those that are not.

## Main definitions

- `Mismatch` — how a document departs from the schema, and `Mismatch.message`
- `RecordForm` — the fields of a record, and `RecordForm.read`
- `Manifest.ofDocument` — the manifest that a document holds

## Design notes

The fields of a record are read in the order of the document and the first mismatch counts. Fields
that are missing are noticed last. A record may also be an array of its fields in the order in which
they are declared; items beyond them are not looked at.
-/

namespace ClassForge

open Toml (Item)

/-- How a document departs from the schema. -/
inductive Mismatch where
  /-- A record has no such field. -/
  | unknownField (name : String) (expected : List String)
  /-- A choice has no such alternative. -/
  | unknownVariant (name : String) (expected : List String)
  /-- A record lacks a field. -/
  | missingField (name : String)
  /-- A value is of the wrong kind. -/
  | invalidType (found expected : String)
  /-- An array ends before a field that a record needs. -/
  | tooShort (expected : String)
  /-- A choice is neither a text nor a table. -/
  | noChoice
  /-- A table that makes a choice has none or several keys. -/
  | severalChoices
  /-- An alternative is given a content, and has none. -/
  | content
  /-- A value holds a number or a date-time without value. -/
  | noDatum

namespace Mismatch

def ticked (s : String) : String :=
  "`" ++ s ++ "`"

/-- The list of what would have been right. -/
def expectedText : List String → String
  | [] => "there are no fields"
  | [a] => "expected " ++ ticked a
  | [a, b] => "expected " ++ ticked a ++ " or " ++ ticked b
  | names => "expected one of " ++ ", ".intercalate (names.map ticked)

def message : Mismatch → String
  | unknownField name expected =>
    "unknown field " ++ ticked name ++ ", " ++ expectedText expected
  | unknownVariant name expected =>
    "unknown variant " ++ ticked name ++ ", " ++ expectedText expected
  | missingField name => "missing field " ++ ticked name
  | invalidType found expected => "invalid type: " ++ found ++ ", expected " ++ expected
  | tooShort expected => "invalid length, expected " ++ expected
  | noChoice => "wanted string or table"
  | severalChoices => "wanted exactly 1 element"
  | content => "expected an empty table"
  | noDatum => "a number or a date-time without value"

end Mismatch

/-- What is read from a document, or the first mismatch and where it is. -/
abbrev Reading (α : Type) := Except (Spanned Mismatch) α

namespace Schema

/-- What a value is called when something else was expected. -/
def describe : Item → String
  | .string s => "string " ++ Text.quoted s
  | .integer i => "integer " ++ Mismatch.ticked (Value.intText i)
  | .float x => "floating point " ++ Mismatch.ticked (String.ofList (Layout.plain.write x))
  | .unrepresentable => "number without value"
  | .boolean b => "boolean " ++ Mismatch.ticked (Value.boolText b)
  | .array .. => "sequence"
  | .table _ | .dateTime _ => "map"

/-- The value is of the wrong kind. -/
def refuse {α : Type} (v : Spanned Item) (expected : String) : Reading α :=
  .error ⟨v.span, .invalidType (describe v.value) expected⟩

def text (v : Spanned Item) : Reading (Spanned String) :=
  match v.value with
  | .string s => .ok ⟨v.span, s⟩
  | _ => refuse v "a string"

def datum (v : Spanned Item) : Reading Toml.Datum :=
  match v.value.datum? with
  | some d => .ok d
  | none => .error ⟨v.span, .noDatum⟩

def boolean (v : Spanned Item) : Reading Bool :=
  match v.value with
  | .boolean b => .ok b
  | _ => refuse v "a boolean"

/-- The items of an array, each read by `item`. -/
def sequence {α : Type} (item : Spanned Item → Reading α) (v : Spanned Item) : Reading (List α) :=
  match v.value with
  | .array _ items => items.mapM item
  | _ => refuse v "a sequence"

/-- A field of a record of type `ρ`: its name, and how its value enters the record. -/
structure Field (ρ : Type) where
  name : String
  read : ρ → Spanned Item → Reading ρ

/-- How a record is read: what it is called, its fields in order, and the record before any of them
is read. -/
structure RecordForm (ρ : Type) where
  title : String
  fields : List (Field ρ)
  blank : ρ

namespace RecordForm

variable {ρ : Type}

def names (f : RecordForm ρ) : List String :=
  f.fields.map (·.name)

def readEntry (f : RecordForm ρ) (r : ρ) (entry : Spanned String × Spanned Item) : Reading ρ :=
  match f.fields.find? (·.name == entry.1.value) with
  | some field => field.read r entry.2
  | none => .error ⟨entry.1.span, .unknownField entry.1.value f.names⟩

/-- Reads a record from a table, or from the array of its fields. -/
def read (f : RecordForm ρ) (v : Spanned Item) : Reading ρ :=
  match v.value with
  | .table t => t.entries.foldlM f.readEntry f.blank
  | .array _ items => (f.fields.zip items).foldlM (fun r e => e.1.read r e.2) f.blank
  | .dateTime _ => .error ⟨v.span, .unknownField Toml.dateTimeKey f.names⟩
  | _ => refuse v f.title

end RecordForm

/-- The fields of a parameter, as far as they were read. -/
structure ParameterFields where
  name : Option (Spanned String)
  type : Option (Spanned String)
  constant : Option Toml.Datum
  isOptional : Bool
  reader : Option Bool

def parameterForm : RecordForm ParameterFields where
  title := "struct ParamDecl"
  fields := [
    ⟨"name", fun r v => do return { r with name := some (← text v) }⟩,
    ⟨"type", fun r v => do return { r with type := some (← text v) }⟩,
    ⟨"default", fun r v => do return { r with constant := some (← datum v) }⟩,
    ⟨"optional", fun r v => do return { r with isOptional := ← boolean v }⟩,
    ⟨"reader", fun r v => do return { r with reader := some (← boolean v) }⟩]
  blank := ⟨none, none, none, false, none⟩

/-- What is wrong with a parameter without name. -/
def nameless : Item → Mismatch
  | .array .. => .tooShort parameterForm.title
  | _ => .missingField "name"

/-- A parameter. It has a name at least. -/
def parameter (v : Spanned Item) : Reading ParameterDecl := do
  let r ← parameterForm.read v
  match r.name with
  | some name => return ⟨name, r.type, r.constant, r.isOptional, r.reader⟩
  | none => throw ⟨v.span, nameless v.value⟩

/-- The alternatives for the treatment of undeclared keywords. -/
def tolerances : List (String × Tolerance) :=
  [("reject", .reject), ("ignore", .ignore), ("absorb", .absorb)]

/-- The treatment of undeclared keywords with a name. -/
def toleranceNamed (name : Spanned String) : Reading Tolerance :=
  match tolerances.lookup name.value with
  | some t => .ok t
  | none => .error ⟨name.span, .unknownVariant name.value (tolerances.map Prod.fst)⟩

/-- Whether a value is an empty table or array. -/
def isEmpty : Item → Bool
  | .table t => t.entries.isEmpty
  | .array _ items => items.isEmpty
  | _ => false

/-- The treatment of undeclared keywords: its name, or a table with the name as only key. -/
def tolerance (v : Spanned Item) : Reading Tolerance :=
  match v.value with
  | .string s => toleranceNamed ⟨v.span, s⟩
  | .table ⟨_, [(name, content)]⟩ => do
    let t ← toleranceNamed name
    if isEmpty content.value then return t else throw ⟨content.span, .content⟩
  | .table _ => .error ⟨v.span, .severalChoices⟩
  | _ => .error ⟨v.span, .noChoice⟩

def classForm : RecordForm ClassDecl where
  title := "struct ClassDecl"
  fields := [
    ⟨"extends", fun r v => do return { r with parent := some (← text v) }⟩,
    ⟨"tolerant", fun r v => do return { r with tolerance := some (← tolerance v) }⟩,
    ⟨"params", fun r v => do return { r with params := ← sequence parameter v }⟩,
    ⟨"options", fun r v => do return { r with options := ← sequence parameter v }⟩]
  blank := ⟨none, none, [], []⟩

def classes (v : Spanned Item) : Reading (OrderedMap ClassDecl) :=
  match v.value with
  | .table t => do
    let entries ← t.entries.mapM fun e => do return (e.1.value, ← classForm.read e.2)
    return .ofList entries
  | .dateTime d => refuse ⟨v.span, .string (String.ofList d.text)⟩ classForm.title
  | _ => refuse v "a map"

def manifestForm : RecordForm Manifest where
  title := "struct Manifest"
  fields := [⟨"classes", fun _ v => do return ⟨← classes v⟩⟩]
  blank := ⟨∅⟩

end Schema

def Manifest.ofDocument (t : Toml.Table Item) : Reading Manifest :=
  t.entries.foldlM Schema.manifestForm.readEntry Schema.manifestForm.blank

end ClassForge
