import ClassForge.Text.WhiteSpace
import ClassForge.Value.Display

/-!
# Type capabilities

A type capability validates the value passed for a parameter, and may replace it by another.

## Main definitions

- `Capability` — a name and a check
- `Capability.any`, `integer`, `float`, `string`, `bool`, `coercibleInteger` — the base types
- `Capability.optional`, `Capability.oneOf` — types made from a type and from a list of values
- `Capability.lookup?` — the type that a text names
-/

namespace ClassForge

/-- A named check of values. -/
structure Capability where
  name : String
  /-- The value to use instead of the given one, or the reason why that is rejected. -/
  check : Value → Except String Value

namespace Capability

def any : Capability :=
  ⟨"any", .ok⟩

def ofKind (kind : String) : Capability :=
  ⟨kind, fun v =>
    if v.kind = kind then .ok v else .error ("expected " ++ kind ++ ", got " ++ v.kind)⟩

def integer : Capability :=
  ofKind "integer"

def float : Capability :=
  ofKind "float"

def string : Capability :=
  ofKind "string"

def bool : Capability :=
  ofKind "bool"

/-- The reason why a value is no integer. -/
def notCoercible (what : String) : String :=
  "cannot coerce " ++ what ++ " to integer"

/-- The least 64-bit integer, as a floating-point number. -/
def lowest : Binary64 :=
  .ofInt Int64.minValue.toInt

/-- The floating-point number nearest to the greatest 64-bit integer, which is the number above it. -/
def highest : Binary64 :=
  .ofInt Int64.maxValue.toInt

/-- Accepts integers, floating-point numbers without fractional part, and texts that hold an integer
between white space, and gives the 64-bit integer. -/
def coercibleInteger : Capability :=
  ⟨"coercible_integer", fun
    | .int i => .ok (.int i)
    | .float x =>
      if x.isIntegral && lowest.le x && x.lt highest then .ok (.int x.toInt64)
      else .error (notCoercible (Value.float x).kind)
    | .str s =>
      match Text.integer64? (Text.trim s.toList) with
      | some i => .ok (.int i)
      | none => .error (notCoercible (Value.str s).display)
    | v => .error (notCoercible v.kind)⟩

/-- Accepts nil besides what `inner` accepts. -/
def optional (inner : Capability) : Capability :=
  ⟨inner.name ++ "?", fun
    | .nil => .ok .nil
    | v => inner.check v⟩

/-- Accepts the values that are equal to a listed one. -/
def oneOf (values : List Value) : Capability :=
  ⟨"one_of", fun v =>
    if values.any (·.equal v) then .ok v
    else .error (v.display ++ " is not one of the allowed values")⟩

def base? (name : String) : Option Capability :=
  match name with
  | "any" => some any
  | "integer" => some integer
  | "float" => some float
  | "string" => some string
  | "bool" => some bool
  | "coercible_integer" => some coercibleInteger
  | _ => none

/-- The type that a text names which is given from its end: each question mark at the end makes the
type before it optional. -/
def lookupReversed : List Char → Option Capability
  | '?' :: rest => (lookupReversed rest).map optional
  | name => base? (String.ofList name.reverse)

def lookup? (name : String) : Option Capability :=
  lookupReversed name.toList.reverse

def inspect (c : Capability) : String :=
  Inspect.tagged "Type" [Text.quoted c.name]

end Capability

end ClassForge
