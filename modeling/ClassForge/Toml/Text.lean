import ClassForge.Json.Token

/-!
# TOML strings

The four spellings of a string. Each reading starts behind the opening quotes and gives the content
and what follows the closing quotes.

## Main definitions

- `Toml.basic?`, `Toml.literal?` — strings on one line, with and without escapes
- `Toml.multiBasic?`, `Toml.multiLiteral?` — strings over several lines

## Design notes

Of a string over several lines, a line break right behind the opening quotes is dropped, and every
other line break stands for itself: a carriage return with a line feed stays both. A carriage return
without one may not occur. One or two quotes may stand right before the closing ones.
-/

namespace ClassForge.Toml

/-- Whether `c` is a control character that may not stand in a document. -/
def isForbidden (c : Char) : Bool :=
  (c.toNat < 0x20 && c != '\t') || c.toNat == 0x7F

/-- Whether `c` is a blank within a line. -/
def isBlank (c : Char) : Bool :=
  c == ' ' || c == '\t'

def charOfHex? (digits : List Char) : Option Char :=
  (digits.foldlM (fun n c => (Json.hexDigit? c).map (16 * n + ·)) 0).bind fun n =>
    if n.isValidChar then some (Char.ofNat n) else none

/-- The character that a backslash and a letter stand for. -/
def shortEscape? : Char → Option Char
  | 'b' => some '\x08'
  | 't' => some '\t'
  | 'n' => some '\n'
  | 'f' => some '\x0c'
  | 'r' => some '\r'
  | 'e' => some '\x1b'
  | '"' => some '"'
  | '\\' => some '\\'
  | _ => none

/-- Puts a character before the content of a string. -/
def cons? (c : Option Char) (r : Option (List Char × List Char)) :
    Option (List Char × List Char) := do
  let (s, rest) ← r
  return ((← c) :: s, rest)

def basic? : List Char → Option (List Char × List Char)
  | [] => none
  | '"' :: rest => some ([], rest)
  | '\\' :: 'x' :: a :: b :: rest => cons? (charOfHex? [a, b]) (basic? rest)
  | '\\' :: 'u' :: a :: b :: c :: d :: rest => cons? (charOfHex? [a, b, c, d]) (basic? rest)
  | '\\' :: 'U' :: a :: b :: c :: d :: e :: f :: g :: h :: rest =>
    cons? (charOfHex? [a, b, c, d, e, f, g, h]) (basic? rest)
  | '\\' :: c :: rest => cons? (shortEscape? c) (basic? rest)
  | c :: rest => if isForbidden c then none else cons? (some c) (basic? rest)

def literal? : List Char → Option (List Char × List Char)
  | [] => none
  | '\x27' :: rest => some ([], rest)
  | c :: rest => if isForbidden c then none else cons? (some c) (literal? rest)

/-- Whether only blanks stand before the end of the line. -/
def endsLine (s : List Char) : Bool :=
  match s.dropWhile isBlank with
  | '\n' :: _ => true
  | '\r' :: '\n' :: _ => true
  | _ => false

/-- A string in three double quotes, behind its first line break. While `skipping`, blanks and line
breaks are left out: they follow a backslash at the end of a line. -/
def multiBasicBody? : (skipping : Bool) → List Char → Option (List Char × List Char)
  | _, [] => none
  | skipping, '\r' :: '\n' :: rest =>
    if skipping then multiBasicBody? true rest
    else cons? (some '\r') (cons? (some '\n') (multiBasicBody? false rest))
  | skipping, '\n' :: rest =>
    if skipping then multiBasicBody? true rest else cons? (some '\n') (multiBasicBody? false rest)
  | _, '"' :: '"' :: '"' :: '"' :: '"' :: rest => some (['"', '"'], rest)
  | _, '"' :: '"' :: '"' :: '"' :: rest => some (['"'], rest)
  | _, '"' :: '"' :: '"' :: rest => some ([], rest)
  | _, '\\' :: 'x' :: a :: b :: rest => cons? (charOfHex? [a, b]) (multiBasicBody? false rest)
  | _, '\\' :: 'u' :: a :: b :: c :: d :: rest =>
    cons? (charOfHex? [a, b, c, d]) (multiBasicBody? false rest)
  | _, '\\' :: 'U' :: a :: b :: c :: d :: e :: f :: g :: h :: rest =>
    cons? (charOfHex? [a, b, c, d, e, f, g, h]) (multiBasicBody? false rest)
  | _, '\\' :: c :: rest =>
    if endsLine (c :: rest) then multiBasicBody? true (c :: rest)
    else cons? (shortEscape? c) (multiBasicBody? false rest)
  | skipping, c :: rest =>
    if isForbidden c || c == '\\' then none
    else if skipping && isBlank c then multiBasicBody? true rest
    else cons? (some c) (multiBasicBody? false rest)

/-- A string in three single quotes, behind its first line break. -/
def multiLiteralBody? : List Char → Option (List Char × List Char)
  | [] => none
  | '\r' :: '\n' :: rest => cons? (some '\r') (cons? (some '\n') (multiLiteralBody? rest))
  | '\n' :: rest => cons? (some '\n') (multiLiteralBody? rest)
  | '\x27' :: '\x27' :: '\x27' :: '\x27' :: '\x27' :: rest => some (['\x27', '\x27'], rest)
  | '\x27' :: '\x27' :: '\x27' :: '\x27' :: rest => some (['\x27'], rest)
  | '\x27' :: '\x27' :: '\x27' :: rest => some ([], rest)
  | c :: rest => if isForbidden c then none else cons? (some c) (multiLiteralBody? rest)

/-- Drops a line break at the front. -/
def dropLineBreak : List Char → List Char
  | '\n' :: rest => rest
  | '\r' :: '\n' :: rest => rest
  | s => s

def multiBasic? (s : List Char) : Option (List Char × List Char) :=
  multiBasicBody? false (dropLineBreak s)

def multiLiteral? (s : List Char) : Option (List Char × List Char) :=
  multiLiteralBody? (dropLineBreak s)

end ClassForge.Toml
