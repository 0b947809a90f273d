/-!
# Binary floating-point numbers

The 64-bit binary floating-point numbers, given by their bits. A finite number is, up to its sign,
a natural mantissa times a power of two.

## Main definitions

- `Binary64` — a number by its 64 bits: sign, 11 bits of exponent, 52 bits of fraction
- `Binary64.mantissa`, `Binary64.exponent` — the magnitude of a finite number
- `Binary64.equal` — numeric equality: the two zeros are equal, and no number equals a NaN
- `Binary64.lt`, `Binary64.le` — the order of the numbers
- `Binary64.isIntegral`, `Binary64.toInt64` — numbers without fractional part, and the integer of 64
  bits that a number is cut to
- `Binary64.ofRatio` — the nearest number to a fraction, a tie going to the even mantissa
- `Binary64.mul`, `Binary64.div` — correctly rounded product and quotient of finite numbers

## Design notes

All of it is exact arithmetic on natural numbers, so that statements about every bit pattern can be
proved.
-/

namespace ClassForge

/-- A floating-point number, given by its bits. -/
structure Binary64 where
  bits : UInt64
deriving DecidableEq

namespace Binary64

instance : Inhabited Binary64 := ⟨⟨0⟩⟩

def isNegative (x : Binary64) : Bool :=
  Nat.pow 2 63 ≤ x.bits.toNat

def biased (x : Binary64) : Nat :=
  x.bits.toNat / Nat.pow 2 52 % Nat.pow 2 11

def fraction (x : Binary64) : Nat :=
  x.bits.toNat % Nat.pow 2 52

/-- Whether `x` is neither infinite nor a NaN. -/
def isFinite (x : Binary64) : Bool :=
  x.biased != 2047

/-- Whether `x` is not a number. -/
def isNaN (x : Binary64) : Bool :=
  x.biased == 2047 && x.fraction != 0

/-- Whether `x` is one of the two zeros. -/
def isZero (x : Binary64) : Bool :=
  x.biased == 0 && x.fraction == 0

/-- The mantissa of a finite number, with the leading bit of a normal number. -/
def mantissa (x : Binary64) : Nat :=
  if x.biased = 0 then x.fraction else Nat.pow 2 52 + x.fraction

/-- The exponent of a finite number: its magnitude is `mantissa * 2 ^ exponent`. -/
def exponent (x : Binary64) : Int :=
  if x.biased = 0 then -1074 else (x.biased : Int) - 1075

/-- Numeric equality. -/
def equal (x y : Binary64) : Bool :=
  !x.isNaN && !y.isNaN && (x == y || (x.isZero && y.isZero))

/-- The bits without the sign. -/
def magnitudeBits (x : Binary64) : Nat :=
  x.bits.toNat % Nat.pow 2 63

/-- The place of `x` in the order of the numbers, the same for both zeros. -/
def rank (x : Binary64) : Int :=
  if x.isNegative then -(x.magnitudeBits : Int) else x.magnitudeBits

/-- Whether `x` is less than `y`. A NaN is not, nor is anything less than a NaN. -/
def lt (x y : Binary64) : Bool :=
  !x.isNaN && !y.isNaN && x.rank < y.rank

/-- Whether `x` is less than or equal to `y`. -/
def le (x y : Binary64) : Bool :=
  !x.isNaN && !y.isNaN && x.rank ≤ y.rank

/-- The magnitude of a finite number as a fraction. -/
def ratio (x : Binary64) : Nat × Nat :=
  if 0 ≤ x.exponent then (x.mantissa * Nat.pow 2 x.exponent.toNat, 1)
  else (x.mantissa, Nat.pow 2 (-x.exponent).toNat)

/-- Whether `x` is finite and has no fractional part. -/
def isIntegral (x : Binary64) : Bool :=
  x.isFinite && x.ratio.1 % x.ratio.2 == 0

/-- The integer next to a finite number on the way to zero. -/
def truncate (x : Binary64) : Int :=
  if x.isNegative then -((x.ratio.1 / x.ratio.2 : Nat) : Int) else (x.ratio.1 / x.ratio.2 : Nat)

/-- The 64-bit integer next to `x` on the way to zero. Numbers beyond the range go to its ends, and a
NaN to zero. -/
def toInt64 (x : Binary64) : Int64 :=
  if x.isNaN then 0
  else if x.isFinite && Int64.minValue.toInt ≤ x.truncate && x.truncate ≤ Int64.maxValue.toInt then
    Int64.ofInt x.truncate
  else if x.isNegative then Int64.minValue
  else Int64.maxValue

def infinityBits : Nat :=
  2047 * Nat.pow 2 52

/-- `num / den` rounded to an integer, a tie going to the even one. -/
def roundHalfEven (num den : Nat) : Nat :=
  let q := num / den
  let r := num % den
  if 2 * r < den then q
  else if den < 2 * r then q + 1
  else if q % 2 = 0 then q else q + 1

/-- The exponent at which the mantissa of a positive `num / den` has 53 bits before rounding, or
the least exponent if that is larger. -/
def scale (num den : Nat) : Int :=
  let guess : Int := max (-1074) ((num.log2 : Int) - den.log2 - 52)
  let q := (num * Nat.pow 2 (-guess).toNat) / (den * Nat.pow 2 guess.toNat)
  if q < Nat.pow 2 52 && -1074 < guess then guess - 1 else guess

/-- The number nearest to `num / den`, negative if `negative`. A tie goes to the even mantissa, and
a magnitude beyond the largest number to infinity. -/
def ofRatio (negative : Bool) (num den : Nat) : Binary64 :=
  let sign := if negative then Nat.pow 2 63 else 0
  if num = 0 then ⟨UInt64.ofNat sign⟩
  else
    let e := scale num den
    let m := roundHalfEven (num * Nat.pow 2 (-e).toNat) (den * Nat.pow 2 e.toNat)
    let magnitude := (e + 1074).toNat * Nat.pow 2 52 + m
    ⟨UInt64.ofNat (sign + min magnitude infinityBits)⟩

/-- The number nearest to a natural number. -/
def ofNat (n : Nat) : Binary64 :=
  ofRatio false n 1

/-- The number nearest to an integer. -/
def ofInt (i : Int) : Binary64 :=
  ofRatio (i < 0) i.natAbs 1

def neg (x : Binary64) : Binary64 :=
  ⟨x.bits ^^^ 0x8000000000000000⟩

/-- The product of two finite numbers, rounded. -/
def mul (x y : Binary64) : Binary64 :=
  ofRatio (x.isNegative != y.isNegative) (x.ratio.1 * y.ratio.1) (x.ratio.2 * y.ratio.2)

/-- The quotient of two finite numbers, rounded, of which the second is not zero. -/
def div (x y : Binary64) : Binary64 :=
  ofRatio (x.isNegative != y.isNegative) (x.ratio.1 * y.ratio.2) (x.ratio.2 * y.ratio.1)

/-- The number nearest to `digits * 10 ^ power`, negative if `negative`. Powers so large or small
that the result is infinite or zero are not computed. -/
def ofDecimal (negative : Bool) (digits : Nat) (power : Int) : Binary64 :=
  let length : Int := digits.log2 / 4
  if digits = 0 then ofRatio negative 0 1
  else if 310 < power + length then ⟨UInt64.ofNat ((if negative then Nat.pow 2 63 else 0) + infinityBits)⟩
  else if power + ((digits.log2 : Nat) : Int) < -340 then ofRatio negative 0 1
  else ofRatio negative (digits * Nat.pow 10 power.toNat) (Nat.pow 10 (-power).toNat)

/-- A NaN equals nothing, itself included. -/
theorem equal_self (x : Binary64) : x.equal x = !x.isNaN := by
  simp [equal]

/-- Numeric equality does not depend on the order of its operands. -/
theorem equal_comm (x y : Binary64) : x.equal y = y.equal x := by
  rw [Bool.eq_iff_iff]
  simp only [equal, Bool.and_eq_true, Bool.or_eq_true, beq_iff_eq]
  constructor <;> rintro ⟨⟨hx, hy⟩, h⟩ <;>
    exact ⟨⟨hy, hx⟩, h.elim (fun h => .inl h.symm) fun h => .inr ⟨h.2, h.1⟩⟩

/-- Numbers that are equal to the same number are equal. -/
theorem equal_trans {x y z : Binary64} (hxy : x.equal y = true) (hyz : y.equal z = true) :
    x.equal z = true := by
  simp only [equal, Bool.and_eq_true, Bool.or_eq_true, beq_iff_eq] at hxy hyz ⊢
  obtain ⟨⟨hx, -⟩, rfl | ⟨hxzero, hyzero⟩⟩ := hxy
  · exact hyz
  · obtain ⟨⟨-, hz⟩, rfl | ⟨-, hzzero⟩⟩ := hyz
    · exact ⟨⟨hx, hz⟩, .inr ⟨hxzero, hyzero⟩⟩
    · exact ⟨⟨hx, hz⟩, .inr ⟨hxzero, hzzero⟩⟩

end Binary64

end ClassForge
