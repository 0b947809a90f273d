import ClassForge.Json

/-!
# JSON numbers

The value of a number literal. A literal without fraction and exponent is an integer if 64 bits hold
it; any other literal is a floating-point number.

## Main definitions

- `Json.Literal` — a number literal split into its digits
- `Json.Literal.value?` — its value, unless it is too large for a floating-point number
- `Json.scaled?` — a significand times a power of ten

## Design notes

A floating-point literal is not rounded once: its significand is rounded first, and then its
product or quotient with the rounded power of ten. Digits are gathered into the significand as long
as it fits into 64 bits; the others only count as powers of ten, or not at all behind the point. So
a literal may differ in the last bit from the number nearest to it.
-/

namespace ClassForge.Json

/-- A number literal, split. All texts hold decimal digits. -/
structure Literal where
  isNegative : Bool
  whole : List Char
  /-- The digits behind the point, if there is one. -/
  fraction : Option (List Char)
  /-- Whether the exponent is negative, and its digits, if there is one. -/
  exponent : Option (Bool × List Char)

def digit (c : Char) : Nat :=
  c.toNat - '0'.toNat

/-- Appends digits to a significand as long as it fits into 64 bits. Gives the significand and the
number of digits that are left. -/
def gather (significand : Nat) : List Char → Nat × Nat
  | [] => (significand, 0)
  | d :: ds =>
    if significand * 10 + digit d < Nat.pow 2 64 then gather (significand * 10 + digit d) ds
    else (significand, ds.length + 1)

/-- The floating-point number nearest to a power of ten. -/
def powerOfTen (n : Nat) : Binary64 :=
  Binary64.ofNat (Nat.pow 10 n)

/-- The largest exponent whose power of ten is a floating-point number. -/
def largestPower : Int := 308

/-- A number times a power of ten, unless that is infinite. Smaller powers than the table of powers
has are taken in steps. -/
def scaled? (x : Binary64) (power : Int) : Option Binary64 :=
  if power.natAbs ≤ largestPower then
    if 0 ≤ power then
      let y := x.mul (powerOfTen power.toNat)
      if y.isFinite then some y else none
    else some (x.div (powerOfTen (-power).toNat))
  else if x.isZero then some x
  else if 0 ≤ power then none
  else scaled? (x.div (powerOfTen largestPower.toNat)) (power + largestPower)
termination_by (-power).toNat
decreasing_by simp only [largestPower]; omega

/-- The floating-point number of a significand, a power of ten and a sign. -/
def float? (isNegative : Bool) (significand : Nat) (power : Int) : Option Binary64 :=
  (scaled? (Binary64.ofNat significand) power).map fun x => if isNegative then x.neg else x

/-- The integer of a significand and a sign. A negative zero and integers below the 64-bit range
are floating-point numbers. -/
def integer (isNegative : Bool) (significand : Nat) : Number :=
  if !isNegative then .natural (UInt64.ofNat significand)
  else if significand = 0 || Nat.pow 2 63 < significand then .float (Binary64.ofNat significand).neg
  else .negative (Int64.ofInt (-(significand : Int)))

/-- Exponents beyond this one are not computed with. -/
def exponentLimit : Nat := Nat.pow 2 31 - 1

/-- The value of a literal. `none` if it is too large for a floating-point number. -/
def Literal.value? (l : Literal) : Option Number :=
  let (significand, dropped) := gather 0 l.whole
  match l.fraction, l.exponent with
  | none, none =>
    if dropped = 0 then some (integer l.isNegative significand)
    else (float? l.isNegative significand dropped).map .float
  | fraction, exponent =>
    let digits := fraction.getD []
    let (significand, left) := gather significand digits
    let power : Int := (dropped : Int) - ((digits.length - left : Nat) : Int)
    match exponent with
    | none => (float? l.isNegative significand power).map .float
    | some (isNegative, exponentDigits) =>
      let n := Nat.ofDigitChars 10 exponentDigits 0
      if n ≤ exponentLimit then
        (float? l.isNegative significand (if isNegative then power - n else power + n)).map .float
      else if significand ≠ 0 && !isNegative then none
      else (float? l.isNegative 0 0).map .float

end ClassForge.Json
