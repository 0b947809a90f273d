import ClassForge.Text.Unprintable
import ClassForge.Text.GraphemeExtend

/-!
# Quoted text

The readable form of a text: between double quotes, with an escape for each character that would
end the text, break the line or not show.

## Main definitions

- `Text.isIllegible` — whether a character would not show
- `Text.escape` — the readable form of one character
- `Text.quoted` — the readable form of a text

## Design notes

A single quote stands for itself. A character without a form of its own, or one that is drawn on
the character before it, is written by its code point as `\u{...}` with no leading zeros.
-/

namespace ClassForge.Text

/-- Whether `c` is a filler: a letter of Hangul that stands for a missing one and is not drawn. -/
def isFiller (c : Char) : Bool :=
  c == '\u115f' || c == '\u1160' || c == '\u3164' || c == '\uffa0'

/-- Whether `c` is a sound mark of halfwidth Katakana. The two extend the character before them and
are still drawn beside it. -/
def isSoundMark (c : Char) : Bool :=
  c == '\uff9e' || c == '\uff9f'

/-- Whether `c` would not show inside quotes, or only as a part of the character before it. -/
def isIllegible (c : Char) : Bool :=
  isUnprintable c || isFiller c || (isGraphemeExtend c && !isSoundMark c)

/-- A character written by its code point in hexadecimal. -/
def codePointEscape (c : Char) : List Char :=
  ['\\', 'u', '{'] ++ Nat.toDigits 16 c.toNat ++ ['}']

/-- How a character is written inside quotes. -/
def escape (c : Char) : List Char :=
  match c with
  | '\x00' => ['\\', '0']
  | '\t' => ['\\', 't']
  | '\r' => ['\\', 'r']
  | '\n' => ['\\', 'n']
  | '"' => ['\\', '"']
  | '\\' => ['\\', '\\']
  | c =>
    if c.toNat < 0x7F && 0x20 ≤ c.toNat then [c]
    else if isIllegible c then codePointEscape c
    else [c]

def quoted (s : String) : String :=
  String.ofList ('"' :: (s.toList.flatMap escape ++ ['"']))

end ClassForge.Text
