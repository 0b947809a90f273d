import ClassForge.Text.Search

/-!
# Manifest sources

The text of a manifest and its file name, as far as messages need them.

## Main definitions

- `Source` — text and file name
- `Source.classHeader?` — where the header of a class names it
-/

namespace ClassForge

open Text

/-- The text of a manifest and the name of its file. -/
structure Source where
  text : String
  filename : String

namespace Source

/-- What precedes the name in a class header. -/
def headerStart : List Char :=
  "[classes.".toList

/-- A class header with the name between two copies of `quote`. -/
def headerText (name quote : List Char) : List Char :=
  headerStart ++ quote ++ name ++ quote ++ [']']

/-- The range of the name in the leftmost header that has it between two copies of `quote`. -/
def quotedHeader? (text name quote : List Char) : Option Span :=
  (find? (headerText name quote) text).map fun start =>
    let start := start + byteLength headerStart + byteLength quote
    ⟨start, start + byteLength name⟩

/-- The ways to write a name in a header, in the order in which they are tried: bare, and in both
kinds of quotes. -/
def headerQuotes : List (List Char) :=
  [[], ['"'], ['\x27']]

/-- The range of a class name in its table header, if it has one. -/
def classHeader? (s : Source) (name : String) : Option Span :=
  headerQuotes.findSome? (quotedHeader? s.text.toList name.toList)

end Source

end ClassForge
