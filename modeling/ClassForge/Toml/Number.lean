import ClassForge.Binary64
import ClassForge.Capability
import ClassForge.Json.Token
import ClassForge.Text.Integer

/-!
# TOML numbers

## Main definitions

- `Toml.ungroup?` — digits with single underscores between them
- `Toml.integer?` — decimal, hexadecimal, octal and binary integers
- `Toml.float?` — floating-point numbers, rounded to the nearest

## Design notes

Whether a text is a number and whether the number has a value are two questions: `integer?` and
`float?` give `none` for a text that is no number, and `some none` for a number without value. These
are integers beyond 64 bits, floating-point numbers beyond the finite ones, the mark of a base
without digits, and decimal integers that go wrong behind an underscore. A text is known for a decimal
integer as soon as an underscore follows its first digits, and from there on only the places of the
underscores are looked at.
-/

namespace ClassForge.Toml

/-- The digits of a text in which single underscores may stand between two digits. -/
def ungroup? (isDigit : Char → Bool) : List Char → Option (List Char)
  | [] => none
  | [c] => if isDigit c then some [c] else none
  | c :: '_' :: rest => if isDigit c then (ungroup? isDigit rest).map (c :: ·) else none
  | c :: rest => if isDigit c then (ungroup? isDigit rest).map (c :: ·) else none

/-- The digits before the point of a number, without superfluous leading zeros. -/
def decimalDigits? (s : List Char) : Option (List Char) :=
  (ungroup? Char.isDigit s).bind fun digits =>
    if digits.head? = some '0' ∧ digits.length ≠ 1 then none else some digits

/-- The number that digits make in a base. -/
def ofDigits (base : Nat) (digits : List Char) : Nat :=
  digits.foldl (fun n c => base * n + (Json.hexDigit? c).getD 0) 0

/-- Whether `c` is a digit in a base up to sixteen. -/
def isDigitIn (base : Nat) (c : Char) : Bool :=
  (Json.hexDigit? c).any (· < base)

/-- A number in a base other than ten, behind its mark. Without digits it has no value. -/
def inBase? (base : Nat) (s : List Char) : Option (Option Int64) :=
  if s.isEmpty then some none
  else (ungroup? (isDigitIn base) s).map fun digits => int64? (Int.ofNat (ofDigits base digits))

/-- A sign at the front: whether it is a minus, and the rest. -/
def splitSign : List Char → Bool × List Char
  | '-' :: s => (true, s)
  | '+' :: s => (false, s)
  | s => (false, s)

/-- The text without its underscores, each of which has digits of some base beside it. The text begins
with a digit. -/
def withoutUnderscores? : List Char → Option (List Char)
  | [] => some []
  | c :: '_' :: s =>
    if isDigitIn 16 c && s.head?.any (isDigitIn 16) then (withoutUnderscores? s).map (c :: ·)
    else none
  | c :: s => (withoutUnderscores? s).map (c :: ·)

/-- Whether `c` shows that a text is a floating-point number or a date-time. -/
def isForeignToIntegers (c : Char) : Bool :=
  c == '.' || c == 'e' || c == 'E' || c == ' '

/-- Whether a text is known for a decimal integer without sign: it has a digit at least, and nothing
else before an underscore. -/
def isDecimal (s : List Char) : Bool :=
  s.head?.any Char.isDigit &&
    match s.dropWhile Char.isDigit with
    | [] => true
    | '_' :: rest => !rest.any isForeignToIntegers
    | _ => false

/-- The decimal integer without sign that a text holds, and its value. -/
def decimal? (s : List Char) : Option (Option Nat) :=
  if isDecimal s = false ∨ (s.head? = some '0' ∧ s.length ≠ 1) then none
  else (withoutUnderscores? s).map fun digits =>
    if digits.all Char.isDigit then some (Nat.ofDigitChars 10 digits 0) else none

/-- The integer that a text holds, and its value. -/
def integer? : List Char → Option (Option Int64)
  | '0' :: 'x' :: s => inBase? 16 s
  | '0' :: 'o' :: s => inBase? 8 s
  | '0' :: 'b' :: s => inBase? 2 s
  | s =>
    let (isNegative, s) := splitSign s
    (decimal? s).map fun n? => n?.bind fun n =>
      int64? (if isNegative then -Int.ofNat n else Int.ofNat n)

/-- Whether `c` begins an exponent. -/
def isExponentMark (c : Char) : Bool :=
  c == 'e' || c == 'E'

/-- The power of ten behind the mark of an exponent. -/
def exponent? (s : List Char) : Option Int :=
  let (isNegative, s) := splitSign s
  (ungroup? Char.isDigit s).map fun digits =>
    let n := Int.ofNat (Nat.ofDigitChars 10 digits 0)
    if isNegative then -n else n

/-- The number of a sign, digits before and behind the point, and a power of ten. `none` if it is too
large. -/
def finite? (isNegative : Bool) (whole fraction : List Char) (power : Int) : Option Binary64 :=
  let x := Binary64.ofDecimal isNegative (Nat.ofDigitChars 10 (whole ++ fraction) 0)
    (power - Int.ofNat fraction.length)
  if x.isFinite then some x else none

/-- The floating-point number behind a sign, and its value. -/
def unsignedFloat? (isNegative : Bool) (s : List Char) : Option (Option Binary64) := do
  let whole ← decimalDigits? (s.takeWhile fun c => c != '.' && !isExponentMark c)
  match s.dropWhile fun c => c != '.' && !isExponentMark c with
  | '.' :: s =>
    let fraction ← ungroup? Char.isDigit (s.takeWhile (!isExponentMark ·))
    match s.dropWhile (!isExponentMark ·) with
    | [] => return finite? isNegative whole fraction 0
    | _ :: s => return finite? isNegative whole fraction (← exponent? s)
  | _ :: s => return finite? isNegative whole [] (← exponent? s)
  | [] => none

def nanBits : Nat :=
  Binary64.infinityBits + Nat.pow 2 51

/-- The floating-point number that a text holds, and its value. -/
def float? (s : List Char) : Option (Option Binary64) :=
  let (isNegative, s) := splitSign s
  let sign := if isNegative then Nat.pow 2 63 else 0
  if s = "inf".toList then some (some ⟨UInt64.ofNat (sign + Binary64.infinityBits)⟩)
  else if s = "nan".toList then some (some ⟨UInt64.ofNat (sign + nanBits)⟩)
  else unsignedFloat? isNegative s

end ClassForge.Toml
