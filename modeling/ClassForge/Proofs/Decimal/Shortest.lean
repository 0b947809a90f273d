import ClassForge.Decimal.Shortest
import ClassForge.Proofs.Binary64.Rounding

/-!
# The size of shortest decimals

The shortest decimal of a number lies in the interval of the reals that round to the number, so it is
at most half a unit of the last place above it.

## Main definitions

- `Decimal.toRat` — the value of a decimal

## Main statements

- `Decimal.mem_of_onGrid` — the decimal that is taken from a grid lies in the interval
- `Decimal.toRat_shortest_le` — the shortest decimal is not above the interval
- `Decimal.toRat_shortest_lt` — how far below the largest power of two the shortest decimals are
-/

namespace ClassForge

/-- The value of a decimal. -/
def Decimal.toRat (d : Decimal) : ℚ :=
  d.digits * 10 ^ d.exponent

namespace Decimal

variable {tie : Tie} {r : Rounding} {x : Binary64} {d : Decimal} {power : Int}

/-- A multiple of a unit that is not above the end of the interval. -/
theorem mul_zpow_le_of_mul_le (hden : r.den ≠ 0) {c : Nat}
    (h : c * (Nat.pow 10 power.toNat * r.den) ≤ r.high * Nat.pow 10 (-power).toNat) :
    (c : ℚ) * 10 ^ power ≤ r.high / r.den := by
  have hpos : (0 : ℚ) < r.den := Nat.cast_pos.2 (Nat.pos_of_ne_zero hden)
  rw [le_div_iff₀ hpos]
  have hq : (c : ℚ) * ((Nat.pow 10 power.toNat : Nat) * r.den) ≤
      r.high * (Nat.pow 10 (-power).toNat : Nat) := by exact_mod_cast h
  obtain ⟨n, rfl | rfl⟩ := power.eq_nat_or_neg
  · simp at hq ⊢
    linarith
  · simp at hq ⊢
    rw [← div_eq_mul_inv, div_mul_eq_mul_div, div_le_iff₀ (by positivity)]
    exact hq

theorem mem_of_inside {closed : Bool} {low n high : Nat}
    (h : (if closed then low ≤ n && n ≤ high else low < n && n < high : Bool) = true) :
    low ≤ n ∧ n ≤ high := by
  split at h
  · obtain ⟨hlow, hhigh⟩ := Bool.and_eq_true_iff.1 h
    exact ⟨of_decide_eq_true hlow, of_decide_eq_true hhigh⟩
  · obtain ⟨hlow, hhigh⟩ := Bool.and_eq_true_iff.1 h
    exact ⟨(of_decide_eq_true hlow).le, (of_decide_eq_true hhigh).le⟩

/-- The decimal that is taken from a grid lies in the interval. -/
theorem mem_of_onGrid (h : onGrid tie r power = some d) : ∃ c, d = ⟨c, power⟩ ∧
    r.low * Nat.pow 10 (-power).toNat ≤ c * (Nat.pow 10 power.toNat * r.den) ∧
      c * (Nat.pow 10 power.toNat * r.den) ≤ r.high * Nat.pow 10 (-power).toNat := by
  -- whichever neighbour is taken was found inside
  simp only [onGrid] at h
  split at h
  next => cases h
  next hbelow _ =>
    cases h
    exact ⟨_, rfl, mem_of_inside hbelow⟩
  next habove =>
    cases h
    exact ⟨_, rfl, mem_of_inside habove⟩
  next hbelow habove =>
    split at h
    · cases h
      exact ⟨_, rfl, mem_of_inside hbelow⟩
    · split at h
      · cases h
        exact ⟨_, rfl, mem_of_inside habove⟩
      · split at h
        · cases h
          exact ⟨_, rfl, mem_of_inside habove⟩
        · cases h
          refine ⟨_, rfl, ?_⟩
          split
          · exact mem_of_inside hbelow
          · exact mem_of_inside habove

theorem toRat_le_of_onGrid (hden : r.den ≠ 0) (h : onGrid tie r power = some d) :
    d.toRat ≤ r.high / r.den := by
  obtain ⟨c, rfl, -, hc⟩ := mem_of_onGrid h
  exact mul_zpow_le_of_mul_le hden hc

theorem digits_ne_zero_of_onGrid (hlow : r.low ≠ 0) (h : onGrid tie r power = some d) :
    d.digits ≠ 0 := by
  obtain ⟨c, rfl, hc, -⟩ := mem_of_onGrid h
  rintro rfl
  rw [Nat.zero_mul, Nat.le_zero, Nat.mul_eq_zero] at hc
  exact hc.elim hlow (Nat.pow_pos (by decide)).ne'

theorem toRat_trimZeros (n : Nat) (d : Decimal) : (trimZeros n d).toRat = d.toRat := by
  induction n generalizing d with
  | zero => rfl
  | succ n ih =>
    rw [trimZeros]
    split
    next h =>
      have hd : d.digits = d.digits / 10 * 10 := by omega
      rw [ih, toRat, toRat, zpow_add_one₀ (by norm_num)]
      conv_rhs => rw [hd]
      push_cast
      ring
    next => rfl

theorem digits_trimZeros_ne_zero (n : Nat) (h : d.digits ≠ 0) : (trimZeros n d).digits ≠ 0 := by
  induction n generalizing d with
  | zero => exact h
  | succ n ih =>
    rw [trimZeros]
    split
    · exact ih (by dsimp only; omega)
    · exact h

theorem den_rounding (x : Binary64) : x.rounding.den ≠ 0 :=
  (Nat.pow_pos two_pos).ne'

theorem low_rounding_ne_zero (hx : x.isZero = false) : x.rounding.low ≠ 0 := by
  have hm : x.mantissa ≠ 0 := by
    rw [Binary64.isZero, Bool.and_eq_false_iff, beq_eq_false_iff_ne, beq_eq_false_iff_ne] at hx
    rw [Binary64.mantissa, Binary64.pow_two_52]
    split <;> omega
  refine Nat.mul_ne_zero ?_ (Nat.pow_pos two_pos).ne'
  split <;> omega

/-- The upper end of the interval is half a unit of the last place above the number. -/
theorem high_div_den_rounding (x : Binary64) :
    (x.rounding.high : ℚ) / x.rounding.den = x.magnitude + 2 ^ x.exponent / 2 := by
  have h : (x.rounding.high : ℚ) / x.rounding.den = (4 * x.mantissa + 2) * 2 ^ (x.exponent - 2) := by
    obtain ⟨n, hn | hn⟩ := (x.exponent - 2).eq_nat_or_neg
    · simp [Binary64.rounding, hn]
    · simp [Binary64.rounding, hn, div_eq_mul_inv]
  rw [h, Binary64.magnitude, zpow_sub₀ two_ne_zero]
  field_simp
  ring

/-- The shortest decimal is not above the interval of the reals that round to the number. -/
theorem toRat_shortest_le (tie : Tie) (x : Binary64) :
    (shortest tie x).toRat ≤ x.magnitude + 2 ^ x.exponent / 2 := by
  rw [← high_div_den_rounding, shortest, toRat_trimZeros]
  generalize hfound : List.findSome? _ _ = found
  cases found with
  | none =>
    simp only [Option.getD_none, toRat, Nat.cast_zero, zero_mul]
    positivity
  | some d =>
    obtain ⟨n, -, hn⟩ := List.exists_of_findSome?_eq_some hfound
    exact toRat_le_of_onGrid (den_rounding x) hn

/-- The shortest decimal is not zero. If no decimal were found, it would be a zero with a fixed
exponent. -/
theorem shortest_ne_zero_or (tie : Tie) (hx : x.isZero = false) :
    (shortest tie x).digits ≠ 0 ∨ shortest tie x = ⟨0, 17⟩ := by
  rw [shortest]
  generalize hfound : List.findSome? _ _ = found
  cases found with
  | none => exact .inr rfl
  | some d =>
    obtain ⟨n, -, hn⟩ := List.exists_of_findSome?_eq_some hfound
    exact .inl (digits_trimZeros_ne_zero 17 (digits_ne_zero_of_onGrid (low_rounding_ne_zero hx) hn))

/-- The rounding interval, and with it the shortest decimal, does not depend on the sign. -/
theorem shortest_congr (tie : Tie) {x y : Binary64} (h : x.magnitudeBits = y.magnitudeBits) :
    shortest tie x = shortest tie y := by
  have hr : x.rounding = y.rounding := by
    simp only [Binary64.rounding, Binary64.mantissa, Binary64.exponent, Binary64.biased_eq,
      Binary64.fraction_eq, h]
  rw [shortest, shortest, hr]

/-- The shortest decimals are so far below the largest power of two that three more roundings do not
reach it, except for the three largest numbers. -/
theorem toRat_shortest_lt (tie : Tie) (h : x.magnitudeBits ≤ Binary64.infinityBits - 4) :
    (shortest tie x).toRat * Binary64.slack ^ 3 < Binary64.overflow := by
  have hmagnitude : x.magnitude ≤ (2 ^ 53 - 4) * 2 ^ (971 : Int) := by
    have hb : max ((Binary64.infinityBits - 4) / Nat.pow 2 52) 1 = 2046 := by decide
    have hm : Binary64.infinityBits - 4 - (2046 - 1) * Nat.pow 2 52 = 2 ^ 53 - 4 := by decide
    have htop : Binary64.ofMagnitudeBits (Binary64.infinityBits - 4) =
        (2 ^ 53 - 4) * 2 ^ (971 : Int) := by
      rw [Binary64.ofMagnitudeBits, hb, hm]
      norm_num
    rw [← htop, Binary64.magnitude_eq]
    exact Binary64.strictMono_ofMagnitudeBits.monotone h
  have hexponent : x.exponent ≤ 971 := by
    rw [Binary64.exponent, Binary64.biased_eq, Binary64.pow_two_52]
    rw [Binary64.infinityBits, Binary64.pow_two_52] at h
    split <;> omega
  have hunit : (2 : ℚ) ^ x.exponent ≤ 2 ^ (971 : Int) := zpow_le_zpow_right₀ one_le_two hexponent
  have hslack : 0 < Binary64.slack := by
    rw [Binary64.slack]
    positivity
  have h971 : (0 : ℚ) < 2 ^ (971 : Int) := zpow_pos two_pos _
  calc (shortest tie x).toRat * Binary64.slack ^ 3
      ≤ ((2 ^ 53 - 4 + 1 / 2) * 2 ^ (971 : Int)) * Binary64.slack ^ 3 := by
        refine mul_le_mul_of_nonneg_right ?_ (pow_pos hslack 3).le
        linarith [toRat_shortest_le tie x]
    _ = (2 ^ 53 - 4 + 1 / 2) * Binary64.slack ^ 3 * 2 ^ (971 : Int) := by ring
    _ < 2 ^ 53 * 2 ^ (971 : Int) := by
        refine mul_lt_mul_of_pos_right ?_ h971
        rw [Binary64.slack]
        norm_num
    _ = Binary64.overflow := by
        rw [← zpow_natCast, ← zpow_add₀ two_ne_zero, Binary64.overflow]
        norm_num

end Decimal

end ClassForge
