import ClassForge.Binary64
import Mathlib.Algebra.Order.Archimedean.Basic
import Mathlib.Algebra.Order.Field.Power
import Mathlib.Data.Nat.Bitwise
import Mathlib.Data.Rat.Cast.Order
import Mathlib.Tactic.FieldSimp
import Mathlib.Tactic.Linarith
import Mathlib.Tactic.NormNum
import Mathlib.Tactic.Positivity
import Mathlib.Tactic.Ring

/-!
# Exact values of floating-point numbers

A finite number is a rational number, and the order of the numbers is the order of their values.

## Main definitions

- `Binary64.ofMagnitudeBits` — the magnitude that bits without sign stand for
- `Binary64.magnitude`, `Binary64.toRat` — the exact value of a finite number

## Main statements

- `Binary64.isNaN_eq_false_iff` — the numbers are those up to the infinities
- `Binary64.strictMono_ofMagnitudeBits` — more bits, greater magnitude
- `Binary64.lt_eq_true_iff`, `Binary64.le_eq_true_iff` — comparisons compare exact values
- `Binary64.toRat_eq_intCast_iff` — when the exact value is an integer, and which one
-/

namespace ClassForge.Binary64

/-- The magnitude that bits without sign stand for. From the second binade on the leading bit of the
mantissa is the last bit of the exponent. -/
def ofMagnitudeBits (n : Nat) : ℚ :=
  (n - (max (n / Nat.pow 2 52) 1 - 1) * Nat.pow 2 52 : Nat) *
    2 ^ ((max (n / Nat.pow 2 52) 1 : Nat) - 1075 : ℤ)

/-- The exact magnitude of a finite number. -/
def magnitude (x : Binary64) : ℚ :=
  x.mantissa * 2 ^ x.exponent

/-- The exact value of a finite number. -/
def toRat (x : Binary64) : ℚ :=
  if x.isNegative then -x.magnitude else x.magnitude

variable {x y : Binary64}

theorem pow_two_52 : Nat.pow 2 52 = 4503599627370496 := rfl

theorem pow_two_63 : Nat.pow 2 63 = 9223372036854775808 := rfl

/-! ### Numbers and NaN -/

theorem isNaN_eq_false_iff {x : Binary64} : x.isNaN = false ↔ x.magnitudeBits ≤ infinityBits := by
  have h11 : Nat.pow 2 11 = 2048 := rfl
  simp only [isNaN, biased, fraction, magnitudeBits, infinityBits, pow_two_52, h11, pow_two_63,
    Bool.and_eq_false_iff, beq_eq_false_iff_ne, bne_eq_false_iff_eq]
  omega

theorem isNaN_of_isFinite {x : Binary64} (h : x.isFinite = true) : x.isNaN = false := by
  have hb : x.biased ≠ 2047 := bne_iff_ne.1 h
  simp [isNaN, hb]

theorem magnitudeBits_signed (negative : Bool) {m : Nat} (h : m ≤ infinityBits) :
    magnitudeBits ⟨UInt64.ofNat ((if negative then Nat.pow 2 63 else 0) + m)⟩ = m := by
  simp only [infinityBits, pow_two_52] at h
  rw [magnitudeBits, UInt64.toNat_ofNat', pow_two_63]
  split <;> omega

theorem isNaN_ofRatio (negative : Bool) (num den : Nat) :
    (ofRatio negative num den).isNaN = false := by
  rw [isNaN_eq_false_iff, ofRatio]
  -- the bits behind the sign are cut off at those of infinity
  split
  · have hzero := magnitudeBits_signed negative (Nat.zero_le infinityBits)
    rw [Nat.add_zero] at hzero
    rw [hzero]
    exact Nat.zero_le _
  · rw [magnitudeBits_signed negative (Nat.min_le_right _ _)]
    exact Nat.min_le_right _ _

theorem magnitudeBits_neg (x : Binary64) : x.neg.magnitudeBits = x.magnitudeBits := by
  have h : (0x8000000000000000 : UInt64).toNat = 2 ^ 63 := rfl
  rw [magnitudeBits, magnitudeBits, neg, UInt64.toNat_xor, h, Nat.pow_eq, Nat.xor_mod_two_pow,
    Nat.mod_self, Nat.xor_zero]

theorem isNaN_neg {x : Binary64} (h : x.isNaN = false) : x.neg.isNaN = false := by
  rw [isNaN_eq_false_iff, magnitudeBits_neg]
  exact isNaN_eq_false_iff.1 h

/-! ### Magnitudes by their bits -/

theorem biased_eq (x : Binary64) : x.biased = x.magnitudeBits / Nat.pow 2 52 := by
  have h11 : Nat.pow 2 11 = 2048 := rfl
  rw [biased, magnitudeBits, pow_two_52, pow_two_63, h11]
  omega

theorem fraction_eq (x : Binary64) : x.fraction = x.magnitudeBits % Nat.pow 2 52 := by
  rw [fraction, magnitudeBits, pow_two_52, pow_two_63]
  omega

theorem magnitude_eq (x : Binary64) : x.magnitude = ofMagnitudeBits x.magnitudeBits := by
  rw [magnitude, mantissa, exponent, ofMagnitudeBits, biased_eq, fraction_eq]
  split
  next h =>
    have hm : x.magnitudeBits % Nat.pow 2 52 = x.magnitudeBits :=
      Nat.mod_eq_of_lt ((Nat.div_eq_zero_iff_lt (by decide)).1 h)
    rw [h, hm]
    norm_num
  next h =>
    have hmax : max (x.magnitudeBits / Nat.pow 2 52) 1 = x.magnitudeBits / Nat.pow 2 52 :=
      Nat.max_eq_left (Nat.one_le_iff_ne_zero.2 h)
    have hm : Nat.pow 2 52 + x.magnitudeBits % Nat.pow 2 52 =
        x.magnitudeBits - (x.magnitudeBits / Nat.pow 2 52 - 1) * Nat.pow 2 52 := by
      rw [pow_two_52] at *
      omega
    rw [hmax, hm]

theorem ofMagnitudeBits_zero : ofMagnitudeBits 0 = 0 := by
  simp [ofMagnitudeBits]

/-- More bits, greater magnitude. -/
theorem strictMono_ofMagnitudeBits : StrictMono ofMagnitudeBits := by
  refine strictMono_nat_of_lt_succ fun n => ?_
  rw [ofMagnitudeBits, ofMagnitudeBits, pow_two_52]
  by_cases h : max ((n + 1) / 4503599627370496) 1 = max (n / 4503599627370496) 1
  · -- within a binade the mantissa grows
    rw [h]
    refine mul_lt_mul_of_pos_right ?_ (zpow_pos two_pos _)
    exact_mod_cast (by omega : n - (max (n / 4503599627370496) 1 - 1) * 4503599627370496 <
      n + 1 - (max (n / 4503599627370496) 1 - 1) * 4503599627370496)
  · -- at its end the mantissa is halved and the exponent grows
    obtain ⟨b, hb⟩ : ∃ b, max (n / 4503599627370496) 1 = b := ⟨_, rfl⟩
    have hb' : max ((n + 1) / 4503599627370496) 1 = b + 1 := by omega
    have hm : n - (b - 1) * 4503599627370496 = 9007199254740991 := by omega
    have hm' : n + 1 - (b + 1 - 1) * 4503599627370496 = 4503599627370496 := by omega
    have he : (((b + 1 : Nat) : ℤ) - 1075) = ((b : ℤ) - 1075) + 1 := by push_cast; ring
    rw [hb, hb', hm, hm', he, zpow_add_one₀ two_ne_zero]
    have := zpow_pos (two_pos : (0 : ℚ) < 2) ((b : ℤ) - 1075)
    push_cast
    linarith

theorem ofMagnitudeBits_nonneg (n : Nat) : 0 ≤ ofMagnitudeBits n :=
  ofMagnitudeBits_zero ▸ strictMono_ofMagnitudeBits.monotone (Nat.zero_le n)

theorem magnitude_nonneg (x : Binary64) : 0 ≤ x.magnitude :=
  magnitude_eq x ▸ ofMagnitudeBits_nonneg _

/-! ### The order of the numbers -/

/-- The order of the numbers is that of their exact values. -/
theorem rank_lt_iff (x y : Binary64) : x.rank < y.rank ↔ x.toRat < y.toRat := by
  have hlt : ∀ m n, ofMagnitudeBits m < ofMagnitudeBits n ↔ m < n :=
    fun _ _ => strictMono_ofMagnitudeBits.lt_iff_lt
  have hx := ofMagnitudeBits_nonneg x.magnitudeBits
  have hy := ofMagnitudeBits_nonneg y.magnitudeBits
  have hx' := hlt 0 x.magnitudeBits
  have hy' := hlt 0 y.magnitudeBits
  rw [ofMagnitudeBits_zero] at hx' hy'
  rw [rank, rank, toRat, toRat, magnitude_eq, magnitude_eq]
  split <;> split
  · rw [neg_lt_neg_iff, neg_lt_neg_iff, hlt, Nat.cast_lt]
  · -- a negative number is less than another one unless both are zeros
    constructor
    · intro h
      obtain h | h : 0 < x.magnitudeBits ∨ 0 < y.magnitudeBits := by omega
      · have := hx'.2 h
        linarith
      · have := hy'.2 h
        linarith
    · intro h
      by_contra hn
      have h0 : x.magnitudeBits = 0 ∧ y.magnitudeBits = 0 := by omega
      simp [h0.1, h0.2, ofMagnitudeBits_zero] at h
  · constructor
    · omega
    · intro h
      linarith
  · rw [Nat.cast_lt, hlt]

theorem rank_le_iff (x y : Binary64) : x.rank ≤ y.rank ↔ x.toRat ≤ y.toRat := by
  rw [← not_lt, rank_lt_iff, not_lt]

theorem lt_eq_true_iff (hx : x.isFinite = true) (hy : y.isFinite = true) :
    x.lt y = true ↔ x.toRat < y.toRat := by
  rw [lt, isNaN_of_isFinite hx, isNaN_of_isFinite hy, ← rank_lt_iff]
  simp

theorem le_eq_true_iff (hx : x.isFinite = true) (hy : y.isFinite = true) :
    x.le y = true ↔ x.toRat ≤ y.toRat := by
  rw [le, isNaN_of_isFinite hx, isNaN_of_isFinite hy, ← rank_le_iff]
  simp

/-! ### Integers -/

theorem ratio_pos (x : Binary64) : 0 < x.ratio.2 := by
  rw [ratio]
  split
  · exact Nat.one_pos
  · exact Nat.pow_pos two_pos

/-- The fraction of a number has its magnitude. -/
theorem magnitude_mul_ratio (x : Binary64) : x.magnitude * x.ratio.2 = x.ratio.1 := by
  rw [magnitude, ratio]
  split
  next h =>
    obtain ⟨n, hn⟩ := Int.eq_ofNat_of_zero_le h
    simp [hn]
  next h =>
    obtain ⟨n, hn⟩ := Int.eq_ofNat_of_zero_le (Int.neg_nonneg_of_nonpos (not_le.1 h).le)
    have he : x.exponent = -(n : Int) := by omega
    simp [he]

theorem magnitude_eq_natCast_iff {n : Nat} :
    x.magnitude = n ↔ x.ratio.2 ∣ x.ratio.1 ∧ x.ratio.1 / x.ratio.2 = n := by
  have hpos : (x.ratio.2 : ℚ) ≠ 0 := Nat.cast_ne_zero.2 x.ratio_pos.ne'
  have hmul := x.magnitude_mul_ratio
  constructor
  · intro h
    have heq : x.ratio.1 = n * x.ratio.2 := by
      rw [h] at hmul
      exact_mod_cast hmul.symm
    exact ⟨heq ▸ Nat.dvd_mul_left .., heq ▸ Nat.mul_div_cancel n x.ratio_pos⟩
  · rintro ⟨hdvd, hdiv⟩
    have heq : x.ratio.1 = n * x.ratio.2 := by rw [← hdiv, Nat.div_mul_cancel hdvd]
    rw [heq, Nat.cast_mul] at hmul
    exact mul_right_cancel₀ hpos hmul

theorem magnitude_eq_intCast_iff {i : Int} :
    x.magnitude = i ↔ x.ratio.2 ∣ x.ratio.1 ∧ ((x.ratio.1 / x.ratio.2 : Nat) : Int) = i := by
  constructor
  · intro h
    have hi : 0 ≤ i := by
      have := h ▸ x.magnitude_nonneg
      exact_mod_cast this
    obtain ⟨n, rfl⟩ := Int.eq_ofNat_of_zero_le hi
    obtain ⟨hdvd, hdiv⟩ := magnitude_eq_natCast_iff.1 (by exact_mod_cast h)
    exact ⟨hdvd, congrArg _ hdiv⟩
  · rintro ⟨hdvd, rfl⟩
    exact_mod_cast magnitude_eq_natCast_iff.2 ⟨hdvd, rfl⟩

/-- The exact value is an integer when there is no fractional part, and then it is the truncated
value. -/
theorem toRat_eq_intCast_iff (hx : x.isFinite = true) {i : Int} :
    x.toRat = i ↔ x.isIntegral = true ∧ x.truncate = i := by
  have hdvd : x.isIntegral = true ↔ x.ratio.2 ∣ x.ratio.1 := by
    rw [isIntegral, hx, Bool.true_and, beq_iff_eq, Nat.dvd_iff_mod_eq_zero]
  rw [toRat, truncate, hdvd]
  split
  · have hneg : -x.magnitude = i ↔ x.magnitude = (-i : Int) := by
      rw [neg_eq_iff_eq_neg, Int.cast_neg]
    rw [hneg, magnitude_eq_intCast_iff, neg_eq_iff_eq_neg]
  · exact magnitude_eq_intCast_iff

end ClassForge.Binary64
