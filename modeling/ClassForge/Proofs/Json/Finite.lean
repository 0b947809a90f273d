import ClassForge.Json.Number
import ClassForge.Proofs.Binary64.Rounding

/-!
# Literals of finite numbers

A literal whose magnitude stays below the largest power of two, with room for the three roundings of
its reading, is read as a floating-point number.

## Main definitions

- `Json.Literal.toRat` — the magnitude that a literal denotes
- `Json.Literal.IsFloat` — the literals that are no integers and have parts of moderate size

## Main statements

- `Json.gather_mul_le`, `Json.gather_of_lt` — a significand is not above the number of all digits
- `Json.exists_scaled?_of_lt` — when scaling gives a finite number
- `Json.Literal.value?_eq` — the value of a literal that is no integer
- `Json.Literal.exists_value?_eq_float` — when a literal is read as a floating-point number
-/

namespace ClassForge.Json

open Binary64 (slack overflow)

variable {s : Nat} {ds : List Char}

/-! ### Significands -/

/-- Digits that are left out count as zeros at most. -/
theorem gather_mul_le (s : Nat) (ds : List Char) :
    (gather s ds).2 ≤ ds.length ∧
      (gather s ds).1 * Nat.pow 10 (gather s ds).2 ≤ Nat.ofDigitChars 10 ds s := by
  induction ds generalizing s with
  | nil => exact ⟨Nat.le_refl _, (Nat.mul_one _).le⟩
  | cons d ds ih =>
    rw [gather]
    split
    · obtain ⟨hleft, hle⟩ := ih (s * 10 + digit d)
      refine ⟨hleft.trans (Nat.le_succ _), ?_⟩
      rwa [Nat.ofDigitChars_cons, Nat.mul_comm 10]
    · refine ⟨Nat.le_refl _, ?_⟩
      rw [Nat.ofDigitChars_eq_ofDigitChars_zero, Nat.mul_comm]
      exact Nat.le_add_right _ _

/-- No digit is left out of a number of 64 bits. -/
theorem gather_of_lt (h : Nat.ofDigitChars 10 ds s < Nat.pow 2 64) :
    gather s ds = (Nat.ofDigitChars 10 ds s, 0) := by
  induction ds generalizing s with
  | nil => rfl
  | cons d ds ih =>
    have heq : s * 10 + digit d = 10 * s + (d.toNat - '0'.toNat) := by rw [digit, Nat.mul_comm]
    rw [Nat.ofDigitChars_cons] at h ⊢
    rw [gather, heq, if_pos, ih h]
    -- more digits make no smaller number
    refine lt_of_le_of_lt ?_ h
    rw [Nat.ofDigitChars_eq_ofDigitChars_zero]
    exact Nat.le_add_right_of_le (Nat.le_mul_of_pos_left _ (Nat.pow_pos (by decide)))

/-! ### Scaling -/

/-- A negative power of ten makes a number smaller, so that it stays finite. -/
theorem exists_scaled?_of_neg {x : Binary64} {p : Int} (hp : p < 0) : ∃ y, scaled? x p = some y := by
  fun_induction scaled? x p with
  | case1 | case2 => omega
  | case3 => exact ⟨_, rfl⟩
  | case4 => exact ⟨_, rfl⟩
  | case5 => omega
  | case6 x p hlarge hzero hneg ih =>
    rw [largestPower] at *
    exact ih (by omega)

theorem magnitude_powerOfTen_le (n : Nat) : (powerOfTen n).magnitude ≤ 10 ^ n * slack := by
  have h := Binary64.magnitude_ofNat_le (Nat.pow 10 n)
  rw [powerOfTen]
  exact_mod_cast h

/-- Powers of ten beyond the largest one are greater than all finite numbers. -/
theorem le_largestPower_of_lt {n : Nat} (h : (10 : ℚ) ^ n < overflow) : n ≤ 308 := by
  have hcast : ∀ k m : Nat, Nat.pow 2 k ≤ Nat.pow 10 m → (2 : ℚ) ^ k ≤ 10 ^ m := by
    intro k m hkm
    exact_mod_cast hkm
  have hpow : overflow ≤ 10 ^ 309 :=
    (zpow_ofNat 2 1024).trans_le (hcast 1024 309 (by decide +kernel))
  rw [← not_lt]
  intro hn
  exact absurd h (not_lt.2 (hpow.trans (pow_le_pow_right₀ (by norm_num) hn)))

/-- Significand and power of ten are rounded, and then their product is. -/
theorem isFinite_mul_powerOfTen {s n : Nat} (h : (s : ℚ) * 10 ^ n * slack ^ 3 < overflow) :
    ((Binary64.ofNat s).mul (powerOfTen n)).isFinite = true := by
  have hslack : 0 ≤ slack := zero_le_one.trans Binary64.one_le_slack
  have hprod : (Binary64.ofNat s).magnitude * (powerOfTen n).magnitude ≤
      s * slack * (10 ^ n * slack) :=
    mul_le_mul (Binary64.magnitude_ofNat_le s) (magnitude_powerOfTen_le n)
      (Binary64.magnitude_nonneg _) (mul_nonneg (Nat.cast_nonneg s) hslack)
  rw [Binary64.isFinite_iff]
  calc ((Binary64.ofNat s).mul (powerOfTen n)).magnitude
      ≤ max ((Binary64.ofNat s).magnitude * (powerOfTen n).magnitude) 1 * slack :=
        Binary64.magnitude_mul_le _ _
    _ ≤ max (s * slack * (10 ^ n * slack)) 1 * slack :=
        mul_le_mul_of_nonneg_right (max_le_max_right 1 hprod) hslack
    _ = max (s * 10 ^ n * slack ^ 3) slack := by
        rw [max_mul_of_nonneg _ _ hslack, one_mul]
        ring_nf
    _ < overflow := max_lt h Binary64.slack_lt_overflow

theorem exists_scaled?_of_lt {s : Nat} {p : Int}
    (h : (s : ℚ) * 10 ^ p * slack ^ 3 < overflow) :
    ∃ y, scaled? (Binary64.ofNat s) p = some y := by
  obtain hp | hp := lt_or_ge p 0
  · exact exists_scaled?_of_neg hp
  obtain ⟨n, rfl⟩ := Int.eq_ofNat_of_zero_le hp
  rw [zpow_natCast] at h
  by_cases hn : n ≤ 308
  · have hsmall : ((n : Int).natAbs : Int) ≤ largestPower := by
      rw [largestPower]
      omega
    rw [scaled?, if_pos hsmall, if_pos hp]
    exact ⟨_, if_pos (isFinite_mul_powerOfTen h)⟩
  · have hs : s = 0 := by
      by_contra hs
      refine hn (le_largestPower_of_lt (lt_of_le_of_lt ?_ h))
      calc (10 : ℚ) ^ n ≤ s * 10 ^ n :=
            le_mul_of_one_le_left (by positivity) (Nat.one_le_cast.2 (Nat.pos_of_ne_zero hs))
        _ ≤ s * 10 ^ n * slack ^ 3 :=
            le_mul_of_one_le_right (by positivity) (one_le_pow₀ Binary64.one_le_slack)
    have hlarge : ¬ ((n : Int).natAbs : Int) ≤ largestPower := by
      rw [largestPower]
      omega
    have hzero : (Binary64.ofNat s).isZero = true := by
      rw [hs]
      decide
    rw [scaled?, if_neg hlarge, if_pos hzero]
    exact ⟨_, rfl⟩

theorem exists_float?_of_lt {isNegative : Bool} {s : Nat} {p : Int}
    (h : (s : ℚ) * 10 ^ p * slack ^ 3 < overflow) :
    ∃ y, float? isNegative s p = some y := by
  obtain ⟨y, hy⟩ := exists_scaled?_of_lt h
  exact ⟨_, by rw [float?, hy, Option.map_some]⟩

/-! ### Literals -/

/-- The number that an exponent denotes. -/
def signedExponent : Bool × List Char → Int
  | (true, ds) => -(Nat.ofDigitChars 10 ds 0 : Int)
  | (false, ds) => Nat.ofDigitChars 10 ds 0

/-- The magnitude that a literal denotes. -/
def Literal.toRat (l : Literal) : ℚ :=
  Nat.ofDigitChars 10 (l.whole ++ l.fraction.getD []) 0 *
    10 ^ (l.exponent.elim 0 signedExponent - (l.fraction.getD []).length)

/-- A literal with a fraction or an exponent. Its whole part fits into 64 bits, and its exponent is
not beyond the limit. -/
structure Literal.IsFloat (l : Literal) : Prop where
  form : l.fraction ≠ none ∨ l.exponent ≠ none
  whole : Nat.ofDigitChars 10 l.whole 0 < Nat.pow 2 64
  exponent : ∀ e, l.exponent = some e → signedExponent e ≤ exponentLimit

variable {l : Literal}

/-- The significand that is gathered, times its power of ten, is not above the magnitude. -/
theorem Literal.gathered_le (l : Literal) {significand left : Nat}
    (h : gather (Nat.ofDigitChars 10 l.whole 0) (l.fraction.getD []) = (significand, left)) :
    (significand : ℚ) * 10 ^ (l.exponent.elim 0 signedExponent -
      (((l.fraction.getD []).length - left : Nat) : Int)) ≤ l.toRat := by
  obtain ⟨hleft, hle⟩ := gather_mul_le (Nat.ofDigitChars 10 l.whole 0) (l.fraction.getD [])
  rw [h, ← Nat.ofDigitChars_append, Nat.pow_eq] at hle
  rw [h] at hleft
  have hpower : l.exponent.elim 0 signedExponent - (((l.fraction.getD []).length - left : Nat) : Int) =
      left + (l.exponent.elim 0 signedExponent - (l.fraction.getD []).length) := by omega
  rw [hpower, zpow_add₀ (by norm_num), zpow_natCast, ← mul_assoc, Literal.toRat]
  refine mul_le_mul_of_nonneg_right ?_ (zpow_nonneg (by norm_num) _)
  exact_mod_cast hle

/-- The value of a literal from its significand. Too small a number is taken for zero. -/
theorem Literal.value?_eq (hl : l.IsFloat) {significand left : Nat}
    (hgather : gather (Nat.ofDigitChars 10 l.whole 0) (l.fraction.getD []) = (significand, left)) :
    l.value? = (if -(exponentLimit : Int) ≤ l.exponent.elim 0 signedExponent then
      float? l.isNegative significand (l.exponent.elim 0 signedExponent -
        (((l.fraction.getD []).length - left : Nat) : Int))
      else float? l.isNegative 0 0).map .float := by
  simp only [value?, gather_of_lt hl.whole]
  split
  next hfraction hexponent => exact absurd hfraction (hl.form.resolve_right (not_not.2 hexponent))
  next =>
    rw [hgather]
    dsimp only
    split
    next hexponent =>
      rw [hexponent, Option.elim_none, if_pos (by omega)]
      rfl
    next isNegative ds hexponent =>
      have hlimit := hl.exponent _ hexponent
      rw [hexponent, Option.elim_some]
      cases isNegative with
      | true =>
        have he : signedExponent (true, ds) = -(Nat.ofDigitChars 10 ds 0 : Int) := rfl
        have hpower : ((0 : Nat) : Int) - (((l.fraction.getD []).length - left : Nat) : Int) -
            (Nat.ofDigitChars 10 ds 0 : Int) =
          -(Nat.ofDigitChars 10 ds 0 : Int) - (((l.fraction.getD []).length - left : Nat) : Int) := by
          omega
        have hiff : -(exponentLimit : Int) ≤ -(Nat.ofDigitChars 10 ds 0 : Int) ↔
            Nat.ofDigitChars 10 ds 0 ≤ exponentLimit := by omega
        rw [he, if_pos rfl, hpower]
        simp only [hiff]
        split
        · rfl
        · simp
      | false =>
        have he : signedExponent (false, ds) = (Nat.ofDigitChars 10 ds 0 : Int) := rfl
        have hpower : ((0 : Nat) : Int) - (((l.fraction.getD []).length - left : Nat) : Int) +
            (Nat.ofDigitChars 10 ds 0 : Int) =
          (Nat.ofDigitChars 10 ds 0 : Int) - (((l.fraction.getD []).length - left : Nat) : Int) := by
          omega
        have hlow : -(exponentLimit : Int) ≤ (Nat.ofDigitChars 10 ds 0 : Int) := by omega
        rw [he, Nat.cast_le] at hlimit
        rw [he, if_neg Bool.false_ne_true, hpower, if_pos hlimit, if_pos hlow]

/-- A literal is read as a floating-point number if there is room for three roundings. -/
theorem Literal.exists_value?_eq_float (hl : l.IsFloat) (h : l.toRat * slack ^ 3 < overflow) :
    ∃ y, l.value? = some (.float y) := by
  obtain ⟨⟨significand, left⟩, hgather⟩ :
      ∃ g, gather (Nat.ofDigitChars 10 l.whole 0) (l.fraction.getD []) = g := ⟨_, rfl⟩
  have hzero : ((0 : Nat) : ℚ) * 10 ^ (0 : Int) * slack ^ 3 < overflow := by
    rw [Nat.cast_zero, zero_mul, zero_mul]
    exact zero_lt_one.trans_le (Binary64.one_le_slack.trans Binary64.slack_lt_overflow.le)
  have hslack : 0 ≤ slack ^ 3 := pow_nonneg (zero_le_one.trans Binary64.one_le_slack) 3
  have hle := (mul_le_mul_of_nonneg_right (l.gathered_le hgather) hslack).trans_lt h
  rw [Literal.value?_eq hl hgather]
  split
  · obtain ⟨y, hy⟩ := exists_float?_of_lt hle
    exact ⟨y, by rw [hy, Option.map_some]⟩
  · obtain ⟨y, hy⟩ := exists_float?_of_lt hzero
    exact ⟨y, by rw [hy, Option.map_some]⟩

end ClassForge.Json
