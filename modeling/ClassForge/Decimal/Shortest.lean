import ClassForge.Binary64

/-!
# Shortest decimals

The decimal with the fewest digits among those that round to a given floating-point number.

## Main definitions

- `Decimal` — a natural number times a power of ten
- `Rounding` — the reals that round to a number, as an interval around it
- `Tie` — which of two equally near decimals is taken
- `Decimal.shortest` — the selection

## Design notes

For one digit, two digits and so on, the two neighbours of the number among the decimals with that
many digits are tested against the interval. The first grid with a hit wins, of two hits the nearer
one. If any decimal of a grid lies in the interval, so does one of those two neighbours.
-/

namespace ClassForge

/-- The number `digits * 10 ^ exponent`. -/
structure Decimal where
  digits : Nat
  exponent : Int
deriving DecidableEq

/-- The choice between two decimals that are equally near. -/
inductive Tie where
  /-- The one whose last digit is even. -/
  | even
  /-- The larger one. -/
  | up
deriving DecidableEq

/-- The interval of the reals that round to a positive number. All three fields are numerators over
`den`. -/
structure Rounding where
  low : Nat
  value : Nat
  high : Nat
  den : Nat
  /-- Whether the ends belong to the interval. -/
  closed : Bool

/-- The reals that round to the magnitude of `x`. The gap below a power of two is half as wide as
the gap above it, the least one excepted. -/
def Binary64.rounding (x : Binary64) : Rounding :=
  let m := x.mantissa
  let q := x.exponent - 2
  let up := Nat.pow 2 q.toNat
  let gap := if x.fraction = 0 && 1 < x.biased then 1 else 2
  ⟨(4 * m - gap) * up, 4 * m * up, (4 * m + 2) * up, Nat.pow 2 (-q).toNat, m % 2 = 0⟩

namespace Decimal

/-- The number of decimal digits of `n`. -/
def length (n : Nat) : Nat :=
  (Nat.toDigits 10 n).length

/-- The least `k` with `num / den < 10 ^ k`. -/
def pointPosition (num den : Nat) : Int :=
  let k : Int := (length num : Int) - length den
  if num * Nat.pow 10 (-k).toNat < den * Nat.pow 10 k.toNat then k else k + 1

/-- The decimal with unit `10 ^ power` that lies in the interval, if there is one: of two the one
nearer to the value. -/
def onGrid (tie : Tie) (r : Rounding) (power : Int) : Option Decimal :=
  let unit := Nat.pow 10 power.toNat * r.den
  let scale := Nat.pow 10 (-power).toNat
  let below := r.value * scale / unit
  let inside (c : Nat) : Bool :=
    if r.closed then r.low * scale ≤ c * unit && c * unit ≤ r.high * scale
    else r.low * scale < c * unit && c * unit < r.high * scale
  let middle := (2 * below + 1) * unit
  let twice := 2 * (r.value * scale)
  match inside below, inside (below + 1) with
  | false, false => none
  | true, false => some ⟨below, power⟩
  | false, true => some ⟨below + 1, power⟩
  | true, true =>
    if twice < middle then some ⟨below, power⟩
    else if middle < twice then some ⟨below + 1, power⟩
    else match tie with
      | .up => some ⟨below + 1, power⟩
      | .even => some ⟨if below % 2 = 0 then below else below + 1, power⟩

/-- Removes up to `n` trailing zeros. -/
def trimZeros : Nat → Decimal → Decimal
  | 0, d => d
  | n + 1, d => if d.digits % 10 = 0 then trimZeros n ⟨d.digits / 10, d.exponent + 1⟩ else d

/-- The decimal with the fewest digits that rounds to the magnitude of a finite number other than
zero. Seventeen digits always suffice. -/
def shortest (tie : Tie) (x : Binary64) : Decimal :=
  let r := x.rounding
  let k := pointPosition r.value r.den
  let found := (List.range 17).findSome? fun n => onGrid tie r (k - ((n + 1 : Nat) : Int))
  trimZeros 17 (found.getD ⟨0, 0⟩)

end Decimal

end ClassForge
