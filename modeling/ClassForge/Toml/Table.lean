import ClassForge.Toml.Node

/-!
# Extending tables

How the statements of a document build up its tables. A table that was defined once is not defined
again: headers extend only tables that headers of inner tables implied, dotted keys only tables that
dotted keys made, and neither extends a table in braces.

## Main definitions

- `Toml.extend?` — changes the table that a path leads to, making the tables on the way
- `Toml.assign?` — the value of a dotted key
- `Toml.Layer`, `Toml.Layer.enter?`, `Toml.Layer.leave?` — the tables below headers
-/

namespace ClassForge.Toml

abbrev Section := Table Item

/-- The parts of a key, outermost first. -/
abbrev Path := List (Spanned String)

/-- Whether a table came about without being defined itself. -/
def TableOrigin.isImplicit : TableOrigin → Bool
  | implied | dotted => true
  | header | inline => false

/-- Applies `f` to the table inside an item that a path goes through: a table that may be extended,
or the last table below headers in double brackets. -/
def Item.through? (f : Section → Option Section) (isDotted : Bool) : Item → Option Item
  | table t =>
    if t.origin = .inline ∨ (isDotted ∧ t.origin.isImplicit = false) then none
    else (f t).map table
  | array .headers items =>
    match items.getLast? with
    | some ⟨span, table t⟩ => (f t).map fun t => array .headers (items.dropLast ++ [⟨span, table t⟩])
    | _ => none
  | _ => none

/-- Applies `f` to the table that a path leads to. A table that is missing on the way is made, by a
dotted key if `isDotted`, else by a header. -/
def extend? (f : Section → Option Section) (isDotted : Bool) : Path → Section → Option Section
  | [], t => f t
  | key :: path, t =>
    match t.find? key.value with
    | none =>
      (extend? f isDotted path (.empty (if isDotted then .dotted else .implied))).map fun child =>
        t.push key ⟨key.span, .table child⟩
    | some ⟨span, item⟩ =>
      (item.through? (extend? f isDotted path) isDotted).map fun item =>
        t.replace key.value ⟨span, item⟩

/-- Sets a key that has no value yet. `viaDots` tells whether a dotted key led to the table, which
must then have come about by dotted keys. -/
def set? (viaDots : Bool) (key : Spanned String) (v : Spanned Item) (t : Section) :
    Option Section :=
  if (t.origin == .dotted) != viaDots then none
  else match t.find? key.value with
    | some _ => none
    | none => some (t.push key v)

/-- Sets the value of a key with the given parts before its last one. -/
def assign? (path : Path) (key : Spanned String) (v : Spanned Item) (t : Section) :
    Option Section :=
  extend? (set? (!path.isEmpty) key v) (!path.isEmpty) path t

/-- A header: the parts of its name before the last one, the last one, whether it has double
brackets, and its range. -/
structure Header where
  path : Path
  key : Spanned String
  isArray : Bool
  span : Text.Span

/-- A document in the making: the tables whose headers have ended, and the table whose entries are
being read, with its header unless it is the root. -/
structure Layer where
  root : Section
  current : Section
  header : Option Header

namespace Layer

def start : Layer :=
  ⟨.empty .header, .empty .header, none⟩

/-- Puts the current table behind the others of an array below headers in double brackets. -/
def append? (h : Header) (current parent : Section) : Option Section :=
  match parent.find? h.key.value with
  | none => some (parent.push h.key ⟨h.span, .array .headers [⟨h.span, .table current⟩]⟩)
  | some ⟨span, .array .headers items⟩ =>
    some (parent.replace h.key.value
      ⟨span, .array .headers (items ++ [⟨h.span, .table current⟩])⟩)
  | some _ => none

/-- Ends the current table: it goes to its place in the root. -/
def leave? (l : Layer) : Option Section :=
  match l.header with
  | none => some l.current
  | some h =>
    if h.isArray then extend? (append? h l.current) false h.path l.root
    else extend? (fun parent => some (parent.push h.key ⟨h.span, .table l.current⟩)) false h.path
      l.root

/-- The table that a path leads to, as far as it was made already. -/
def parentOf (root : Section) : Path → Section
  | [] => root
  | key :: path =>
    match root.find? key.value with
    | some ⟨_, .table t⟩ => parentOf t path
    | some ⟨_, .array .headers items⟩ =>
      match items.getLast? with
      | some ⟨_, .table t⟩ => parentOf t path
      | _ => .empty .header
    | _ => .empty .header

/-- Ends the current table and begins the one of a header. A table that inner headers implied before
is taken out of its place and goes on. -/
def enter? (l : Layer) (h : Header) : Option Layer := do
  let root ← l.leave?
  if h.isArray then return ⟨root, .empty .header, some h⟩
  else match (parentOf root h.path).find? h.key.value with
    | none => return ⟨root, .empty .header, some h⟩
    | some ⟨_, .table ⟨.implied, entries⟩⟩ =>
      let root ← extend? (fun parent => some (parent.remove h.key.value)) false h.path root
      return ⟨root, ⟨.header, entries⟩, some h⟩
    | some _ => none

/-- Sets the value of a key in the current table. -/
def assign? (l : Layer) (path : Path) (key : Spanned String) (v : Spanned Item) : Option Layer :=
  (Toml.assign? path key v l.current).map fun current => { l with current }

end Layer

end ClassForge.Toml
