/-!
# White space

The 25 characters with the Unicode property `White_Space`, and the removal of such characters from
both ends of a text.

## Main definitions

- `Text.isWhiteSpace` — membership in the property
- `Text.trim` — a text without leading and trailing white space
-/

namespace ClassForge.Text

/-- Whether `c` has the property `White_Space`. -/
def isWhiteSpace (c : Char) : Bool :=
  let n := c.toNat
  (9 ≤ n && n ≤ 13) || n == 0x20 || n == 0x85 || n == 0xA0 || n == 0x1680 ||
    (0x2000 ≤ n && n ≤ 0x200A) || n == 0x2028 || n == 0x2029 || n == 0x202F || n == 0x205F ||
    n == 0x3000

def trimStart (s : List Char) : List Char :=
  s.dropWhile isWhiteSpace

def trim (s : List Char) : List Char :=
  (trimStart (trimStart s).reverse).reverse

end ClassForge.Text
