import ClassForge.Decimal.Shortest

/-!
# Number layouts

How a floating-point number is written: its shortest digits with a decimal point among them, or
with a power of ten behind them when the number is very large or very small.

## Main definitions

- `Layout` — the decisions of one number format
- `Layout.display`, `Layout.plain` — the formats for people, with exponents and without
- `Layout.json` — the format of JSON texts
- `Layout.write` — the text of a number

## Design notes

A text always tells a floating-point number from an integer: it holds a point or an exponent.
-/

namespace ClassForge

/-- The decisions of a format for floating-point numbers. -/
structure Layout where
  /-- Whether a number is written without an exponent when its decimal point has the given position,
  counted from the first digit. -/
  isPositional : Int → Bool
  /-- Whether a positive exponent carries its sign. -/
  signedExponent : Bool
  /-- Which of two equally near digit sequences is taken. -/
  tie : Tie
  /-- The text of a NaN. -/
  nan : List Char
  /-- The text of the positive infinity. -/
  infinity : List Char
  /-- The text of the negative infinity. -/
  negativeInfinity : List Char

namespace Layout

/-- The format for people: positional from `0.0001` up to `1e16`. -/
def display : Layout :=
  ⟨fun point => -3 ≤ point && point ≤ 16, false, .up, "NaN".toList, "inf".toList, "-inf".toList⟩

/-- The format of JSON texts: positional from `0.00001` up to `1e16`, and no number for NaN and
infinities. -/
def json : Layout :=
  ⟨fun point => -4 ≤ point && point ≤ 16, true, .even, "null".toList, "null".toList, "null".toList⟩

/-- The format of numbers in complaints about documents: always positional. -/
def plain : Layout :=
  { display with isPositional := fun _ => true }

/-- Digits with the point before the digit with index `point`. -/
def positional (digits : List Char) (point : Int) : List Char :=
  if point ≤ 0 then ['0', '.'] ++ List.replicate (-point).toNat '0' ++ digits
  else if digits.length ≤ point.toNat then
    digits ++ List.replicate (point.toNat - digits.length) '0' ++ ['.', '0']
  else digits.take point.toNat ++ ['.'] ++ digits.drop point.toNat

/-- Digits with the point behind the first one, and a power of ten. -/
def exponential (l : Layout) (digits : List Char) (power : Int) : List Char :=
  let fraction := digits.drop 1
  digits.take 1 ++ (if fraction.isEmpty then [] else '.' :: fraction) ++ ['e'] ++
    (if power < 0 then ['-'] else if l.signedExponent then ['+'] else []) ++
    Nat.toDigits 10 power.natAbs

/-- The text of the magnitude of a finite number. -/
def magnitude (l : Layout) (x : Binary64) : List Char :=
  if x.isZero then ['0', '.', '0']
  else
    let d := Decimal.shortest l.tie x
    let digits := Nat.toDigits 10 d.digits
    let point := d.exponent + digits.length
    if l.isPositional point then positional digits point
    else l.exponential digits (point - 1)

def write (l : Layout) (x : Binary64) : List Char :=
  if x.isNaN then l.nan
  else if !x.isFinite then if x.isNegative then l.negativeInfinity else l.infinity
  else (if x.isNegative then ['-'] else []) ++ l.magnitude x

end Layout

end ClassForge
