/-!
# Decimal integers

Integers as texts: an optional sign before one or more decimal digits.

## Main definitions

- `int64?` — the 64-bit integer equal to an integer
- `Text.integer` — the text of an integer, without a sign unless it is negative
- `Text.natural?`, `Text.integer?` — reading a text that holds nothing but a number
- `Text.integer64?` — reading a number digit by digit as long as 64 bits hold it

## Main statements

- `int64?_eq_some_iff` — which integers fit into 64 bits
- `natural?_toDigits`, `integer?_integer` — a number is read back from its text
-/

namespace ClassForge

/-- The 64-bit integer equal to `i`, if there is one. -/
def int64? (i : Int) : Option Int64 :=
  if Int64.minValue.toInt ≤ i ∧ i ≤ Int64.maxValue.toInt then some (Int64.ofInt i) else none

theorem int64?_eq_some_iff {i : Int} {n : Int64} : int64? i = some n ↔ n.toInt = i := by
  have hmax : Int64.maxValue.toInt = 9223372036854775807 := rfl
  rw [int64?, hmax]
  split
  next h =>
    rw [Option.some_inj]
    constructor
    · rintro rfl
      exact Int64.toInt_ofInt_of_le (by simpa using h.1) (by simpa using Int.lt_add_one_of_le h.2)
    · rintro rfl
      exact Int64.ofInt_toInt n
  next h =>
    simp only [reduceCtorEq, false_iff]
    rintro rfl
    exact h ⟨by simpa using n.le_toInt, Int.le_of_lt_add_one (by simpa using n.toInt_lt)⟩

namespace Text

def integer (i : Int) : List Char :=
  if i < 0 then '-' :: Nat.toDigits 10 i.natAbs else Nat.toDigits 10 i.natAbs

def natural? (s : List Char) : Option Nat :=
  if s ≠ [] ∧ s.all Char.isDigit then some (Nat.ofDigitChars 10 s 0) else none

/-- Reads decimal digits behind an optional sign. -/
def integer? : List Char → Option Int
  | '-' :: s => (natural? s).map fun n : Nat => -Int.ofNat n
  | '+' :: s => (natural? s).map Int.ofNat
  | s => (natural? s).map Int.ofNat

/-- The number that one more digit makes of the digits before it. The digits of a negative number
count downwards. `none` if `c` is no digit, or if 64 bits do not hold the number. -/
def appendDigit? (isNegative : Bool) (i : Int64) (c : Char) : Option Int64 := do
  let tens ← int64? (i.toInt * 10)
  let digit := Int.ofNat (c.toNat - '0'.toNat)
  if c.isDigit then int64? (if isNegative then tens.toInt - digit else tens.toInt + digit) else none

/-- Reads the digits of a 64-bit integer, of which there is at least one. -/
def digits64? (isNegative : Bool) (s : List Char) : Option Int64 :=
  if s.isEmpty then none else s.foldlM (appendDigit? isNegative) 0

/-- Reads a 64-bit integer: decimal digits behind an optional sign. -/
def integer64? : List Char → Option Int64
  | '-' :: s => digits64? true s
  | '+' :: s => digits64? false s
  | s => digits64? false s

theorem all_isDigit_toDigits (n : Nat) : (Nat.toDigits 10 n).all Char.isDigit = true :=
  List.all_eq_true.2 fun _ => Nat.isDigit_of_mem_toDigits (by decide) (by decide)

@[simp] theorem natural?_toDigits (n : Nat) : natural? (Nat.toDigits 10 n) = some n := by
  rw [natural?, if_pos ⟨Nat.toDigits_ne_nil, all_isDigit_toDigits n⟩,
    Nat.ofDigitChars_toDigits (by decide) (by decide)]

/-- Digits without a sign are read as a natural number. -/
theorem integer?_of_isDigit {s : List Char} (h : s.all Char.isDigit = true) :
    integer? s = (natural? s).map Int.ofNat := by
  match s, h with
  | [], _ => rfl
  | c :: s, h =>
    have hc : c.isDigit = true := by simp_all
    unfold integer?
    split
    next heq => exact absurd ((List.cons.inj heq).1 ▸ hc) (by decide)
    next heq => exact absurd ((List.cons.inj heq).1 ▸ hc) (by decide)
    next => rfl

@[simp] theorem integer?_integer (i : Int) : integer? (integer i) = some i := by
  rw [integer]
  split
  next h =>
    rw [integer?, natural?_toDigits, Option.map_some]
    exact congrArg some (by simp only [Int.ofNat_eq_natCast]; omega)
  next h =>
    rw [integer?_of_isDigit (all_isDigit_toDigits _), natural?_toDigits, Option.map_some]
    exact congrArg some (by simp only [Int.ofNat_eq_natCast]; omega)

end Text

end ClassForge
