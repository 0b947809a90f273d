/-!
# Names of parameters

## Main definitions

- `isIdentifier` — whether a text can name a parameter, its reader and its slot
- `hookName` — the one identifier that is reserved
- `isParameterName` — an identifier that is not reserved
-/

namespace ClassForge

/-- Whether `c` may begin an identifier. -/
def isIdentifierStart (c : Char) : Bool :=
  c.isAlpha || c == '_'

/-- Whether `c` may continue an identifier. -/
def isIdentifierPart (c : Char) : Bool :=
  c.isAlphanum || c == '_'

/-- Whether the characters are an ASCII letter or underscore followed by ASCII letters, digits and
underscores. -/
def isIdentifierText : List Char → Bool
  | [] => false
  | c :: rest => isIdentifierStart c && rest.all isIdentifierPart

/-- Whether a text can name a parameter, its reader and its slot. -/
def isIdentifier (name : String) : Bool :=
  isIdentifierText name.toList

/-- The name of the hook that runs after every constructor body. -/
def hookName : String :=
  "__after_initialize__"

/-- Whether a text is an identifier and not the name of the hook. -/
def isParameterName (name : String) : Bool :=
  isIdentifier name && name != hookName

end ClassForge
