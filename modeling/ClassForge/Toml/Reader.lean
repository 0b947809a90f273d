import ClassForge.Toml.Datum
import ClassForge.Toml.Number
import ClassForge.Toml.Text

/-!
# Reading TOML documents

A document is read statement by statement: headers, and keys with values.

## Main definitions

- `Toml.key?` — a dotted key
- `Toml.value?` — a value with its range
- `Toml.statement?` — a header or an assignment
- `Toml.read?` — the root table of the document that a text holds

## Design notes

A position in the text is known from the length of what is left, so the functions only pass the
remaining text on, and `total`, the length of all of it. Their fuel is more than the number of
characters, of which every round takes at least one. Arrays and tables in braces may nest 80 deep,
and a key may have 80 parts. Inside braces a line may end wherever a blank may stand between a key,
its equals sign and its value, but not inside a dotted key.
-/

namespace ClassForge.Toml

open Text (Span byteLength)

/-- The range between two positions, each given by the text behind it. -/
def between (total : Nat) (s rest : List Char) : Span :=
  ⟨total - byteLength s, total - byteLength rest⟩

/-- Drops blanks, line breaks and comments. `none` at a character that no comment may hold. -/
def gap? (inComment : Bool) : List Char → Option (List Char)
  | [] => some []
  | '\r' :: '\n' :: rest => gap? false rest
  | '\n' :: rest => gap? false rest
  | c :: rest =>
    if inComment then if isForbidden c then none else gap? true rest
    else if c == '#' then gap? true rest
    else if isBlank c then gap? false rest
    else some (c :: rest)

/-- Drops blanks and a comment up to the end of the line. `none` if anything else stands there. -/
def lineEnd? (inComment : Bool) : List Char → Option (List Char)
  | [] => some []
  | '\r' :: '\n' :: rest => some rest
  | '\n' :: rest => some rest
  | c :: rest =>
    if inComment then if isForbidden c then none else lineEnd? true rest
    else if c == '#' then lineEnd? true rest
    else if isBlank c then lineEnd? false rest
    else none

def skipBlanks (s : List Char) : List Char :=
  s.dropWhile isBlank

/-- Whether `c` may stand in a key without quotes. -/
def isBareKey (c : Char) : Bool :=
  c.isAlphanum || c == '_' || c == '-'

/-- A part of a key: in quotes, or bare. -/
def keyPart? : List Char → Option (List Char × List Char)
  | '"' :: s => basic? s
  | '\x27' :: s => literal? s
  | s =>
    let name := s.takeWhile isBareKey
    if name.isEmpty then none else some (name, s.dropWhile isBareKey)

/-- A dotted key with at most as many parts as `limit` says, and the rest behind blanks. -/
def parts? (total : Nat) : (limit : Nat) → List Char → Option (Path × List Char)
  | 0, _ => none
  | limit + 1, s => do
    let (name, rest) ← keyPart? s
    let part : Spanned String := ⟨between total s rest, String.ofList name⟩
    match skipBlanks rest with
    | '.' :: rest =>
      let (path, rest) ← parts? total limit (skipBlanks rest)
      return (part :: path, rest)
    | rest => return ([part], rest)

/-- How deeply arrays and tables in braces may nest, and how many parts a key may have. -/
def depthLimit : Nat := 80

/-- A dotted key, and the rest behind blanks. -/
def key? (total : Nat) (s : List Char) : Option (Path × List Char) :=
  parts? total depthLimit s

/-- Whether `c` ends a word of a value without quotes and brackets. -/
def endsWord (c : Char) : Bool :=
  isBlank c || c == ',' || c == '=' || c == '[' || c == ']' || c == '{' || c == '}' || c == '#' ||
    c == '\n' || c == '\r'

/-- Whether a word of the same value stands behind blanks. -/
def hasWord (s : List Char) : Bool :=
  match s.dropWhile isBlank with
  | [] => false
  | c :: _ => !(endsWord c || c == '.' || c == '"' || c == '\x27')

/-- The text of a value without quotes and brackets, which is one word or several with the blanks
between them, and the rest. -/
def scalarText : List Char → List Char × List Char
  | [] => ([], [])
  | c :: s =>
    if endsWord c && !(isBlank c && hasWord s) then ([], c :: s)
    else
      let (text, rest) := scalarText s
      (c :: text, rest)

def numberItem {ν : Type} (f : ν → Item) (n : Option ν) : Item :=
  n.elim .unrepresentable f

/-- The value of a text without quotes and brackets. -/
def scalar? (text : List Char) : Option Item :=
  if text = "true".toList then some (.boolean true)
  else if text = "false".toList then some (.boolean false)
  else ((integer? text).map (numberItem .integer)).or <| ((float? text).map (numberItem .float)).or <|
    (DateTime.read? text).map .dateTime

def stringItem (r : Option (List Char × List Char)) : Option (Item × List Char) :=
  r.map fun (s, rest) => (.string (String.ofList s), rest)

mutual

/-- A value with its range. `depth` is how deeply it may still nest. -/
def value? (total : Nat) : (fuel depth : Nat) → List Char → Option (Spanned Item × List Char)
  | 0, _, _ => none
  | fuel + 1, depth, s => do
    let (item, rest) ← (match s with
      | '"' :: '"' :: '"' :: s => stringItem (multiBasic? s)
      | '"' :: s => stringItem (basic? s)
      | '\x27' :: '\x27' :: '\x27' :: s => stringItem (multiLiteral? s)
      | '\x27' :: s => stringItem (literal? s)
      | '[' :: s =>
        match depth with
        | 0 => none
        | depth + 1 => do
          let (items, rest) ← items? total fuel depth (← gap? false s)
          return (Item.array .literal items, rest)
      | '{' :: s =>
        match depth with
        | 0 => none
        | depth + 1 => do
          let (entries, rest) ← entries? total fuel depth (← gap? false s)
          let t ← entries.foldlM (fun t (path, key, v) => assign? path key v t) (.empty .inline)
          return (Item.table t, rest)
      | s =>
        let (text, rest) := scalarText s
        (scalar? text).map (·, rest) : Option (Item × List Char))
    return (⟨between total s rest, item⟩, rest)

/-- The items of an array up to its closing bracket. -/
def items? (total : Nat) : (fuel depth : Nat) → List Char →
    Option (List (Spanned Item) × List Char)
  | 0, _, _ => none
  | _, _, ']' :: rest => some ([], rest)
  | fuel + 1, depth, s => do
    let (v, rest) ← value? total fuel depth s
    match ← gap? false rest with
    | ',' :: rest =>
      let (items, rest) ← items? total fuel depth (← gap? false rest)
      return (v :: items, rest)
    | ']' :: rest => return ([v], rest)
    | _ => none

/-- The assignments in braces up to the closing one. -/
def entries? (total : Nat) : (fuel depth : Nat) → List Char →
    Option (List (Path × Spanned String × Spanned Item) × List Char)
  | 0, _, _ => none
  | _, _, '}' :: rest => some ([], rest)
  | fuel + 1, depth, s => do
    let (path, rest) ← key? total s
    let key ← path.getLast?
    match ← gap? false rest with
    | '=' :: rest =>
      let (v, rest) ← value? total fuel depth (← gap? false rest)
      match ← gap? false rest with
      | ',' :: rest =>
        let (entries, rest) ← entries? total fuel depth (← gap? false rest)
        return ((path.dropLast, key, v) :: entries, rest)
      | '}' :: rest => return ([(path.dropLast, key, v)], rest)
      | _ => none
    | _ => none

end

/-- A statement of a document. -/
inductive Statement where
  | header (h : Header)
  | assignment (path : Path) (key : Spanned String) (v : Spanned Item)

/-- A header at the front behind its opening brackets, whose text starts at `s`. -/
def header? (total : Nat) (isArray : Bool) (s inside : List Char) :
    Option (Statement × List Char) := do
  let (path, rest) ← key? total (skipBlanks inside)
  let key ← path.getLast?
  let rest ← match isArray, rest with
    | false, ']' :: rest => some rest
    | true, ']' :: ']' :: rest => some rest
    | _, _ => none
  return (.header ⟨path.dropLast, key, isArray, between total s rest⟩, rest)

def statement? (total fuel : Nat) : List Char → Option (Statement × List Char)
  | '[' :: '[' :: s => header? total true ('[' :: '[' :: s) s
  | '[' :: s => header? total false ('[' :: s) s
  | s => do
    let (path, rest) ← key? total s
    let key ← path.getLast?
    match rest with
    | '=' :: rest =>
      let (v, rest) ← value? total fuel depthLimit (skipBlanks rest)
      return (.assignment path.dropLast key v, rest)
    | _ => none

/-- What a statement does to the document. -/
def Layer.apply? (l : Layer) : Statement → Option Layer
  | .header h => l.enter? h
  | .assignment path key v => l.assign? path key v

/-- The document with the statements of a text, one a line. -/
def statements? (total fuel : Nat) : (rounds : Nat) → Layer → List Char → Option Layer
  | 0, _, _ => none
  | rounds + 1, l, s => do
    match ← gap? false s with
    | [] => some l
    | s =>
      let (statement, rest) ← statement? total fuel s
      statements? total fuel rounds (← l.apply? statement) (← lineEnd? false rest)

/-- Drops a byte order mark at the front. -/
def dropMark : List Char → List Char
  | '\ufeff' :: s => s
  | s => s

/-- The root table of the document that a text holds. -/
def read? (s : List Char) : Option Section := do
  let fuel := 2 * s.length + 2
  (← statements? (byteLength s) fuel fuel .start (dropMark s)).leave?

/-- The value of the document that a text holds. -/
def readValue? (text : String) : Option Value :=
  ((read? text.toList).bind Section.datum?).map Datum.toValue

end ClassForge.Toml
