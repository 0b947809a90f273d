import ClassForge.Proofs.Binary64.Magnitude

/-!
# How far rounding goes up

The nearest number to a fraction is hardly greater than the fraction, so a product of moderate numbers
is finite.

## Main definitions

- `Binary64.slack` — the largest factor by which rounding increases a fraction that is at least one
- `Binary64.overflow` — the least power of two that is too large for a finite number

## Main statements

- `Binary64.scale_spec` — the mantissa before rounding has 53 bits, or the exponent is the least one
- `Binary64.ofMagnitudeBits_mul_add` — the bits of a mantissa and an exponent stand for their product
- `Binary64.magnitude_ofRatio_le`, `Binary64.magnitude_mul_le` — bounds of rounded results
- `Binary64.isFinite_iff` — the finite numbers are those below that power of two
-/

namespace ClassForge.Binary64

/-- The largest factor by which rounding increases a fraction that is at least one. -/
def slack : ℚ :=
  1 + 1 / 2 ^ 53

/-- The least power of two that is too large for a finite number. -/
def overflow : ℚ :=
  2 ^ (1024 : Int)

theorem one_le_slack : 1 ≤ slack := by
  rw [slack]
  norm_num

theorem slack_lt_overflow : slack < overflow :=
  calc slack < 2 := by
        rw [slack]
        norm_num
    _ = 2 ^ (1 : Int) := (zpow_one 2).symm
    _ ≤ overflow := zpow_le_zpow_right₀ one_le_two (by decide)

variable {num den : Nat} {x y : Binary64}

/-! ### The exponent of a result -/

/-- A fraction divided by a power of two, as numerator and denominator. -/
theorem div_zpow_eq (num den : Nat) (e : Int) :
    ((num * Nat.pow 2 (-e).toNat : Nat) : ℚ) / (den * Nat.pow 2 e.toNat : Nat) =
      num / den / 2 ^ e := by
  obtain ⟨n, rfl | rfl⟩ := e.eq_nat_or_neg
  · simp [div_div]
  · simp [mul_div_right_comm]

/-- The bits of two numbers tell their quotient up to a factor of two. -/
theorem div_lt_zpow (hnum : num ≠ 0) (hden : den ≠ 0) :
    (2 : ℚ) ^ ((num.log2 : Int) - den.log2 - 1) < num / den ∧
      (num : ℚ) / den < 2 ^ ((num.log2 : Int) - den.log2 + 1) := by
  have hpos : (0 : ℚ) < den := Nat.cast_pos.2 (Nat.pos_of_ne_zero hden)
  have hnum₁ : (2 : ℚ) ^ num.log2 ≤ num := by exact_mod_cast Nat.log2_self_le hnum
  have hnum₂ : (num : ℚ) < 2 ^ (num.log2 + 1) := by exact_mod_cast Nat.lt_log2_self
  have hden₁ : (2 : ℚ) ^ den.log2 ≤ den := by exact_mod_cast Nat.log2_self_le hden
  have hden₂ : (den : ℚ) < 2 ^ (den.log2 + 1) := by exact_mod_cast Nat.lt_log2_self
  constructor
  · rw [lt_div_iff₀ hpos]
    calc (2 : ℚ) ^ ((num.log2 : Int) - den.log2 - 1) * den
        < 2 ^ ((num.log2 : Int) - den.log2 - 1) * 2 ^ (den.log2 + 1) :=
          mul_lt_mul_of_pos_left hden₂ (zpow_pos two_pos _)
      _ = 2 ^ num.log2 := by
          rw [← zpow_natCast, ← zpow_natCast, ← zpow_add₀ two_ne_zero]
          congr 1
          push_cast
          ring
      _ ≤ num := hnum₁
  · rw [div_lt_iff₀ hpos]
    calc (num : ℚ) < 2 ^ (num.log2 + 1) := hnum₂
      _ = 2 ^ ((num.log2 : Int) - den.log2 + 1) * 2 ^ den.log2 := by
          rw [← zpow_natCast, ← zpow_natCast, ← zpow_add₀ two_ne_zero]
          congr 1
          push_cast
          ring
      _ ≤ 2 ^ ((num.log2 : Int) - den.log2 + 1) * den :=
          mul_le_mul_of_nonneg_left hden₁ (zpow_pos two_pos _).le

/-- What the quotient of scaled numbers is less than. -/
theorem scaled_div_lt_iff (hden : den ≠ 0) (e : Int) (k : Nat) :
    num * Nat.pow 2 (-e).toNat / (den * Nat.pow 2 e.toNat) < k ↔ (num : ℚ) / den / 2 ^ e < k := by
  have hpos : 0 < den * Nat.pow 2 e.toNat :=
    Nat.mul_pos (Nat.pos_of_ne_zero hden) (Nat.pow_pos two_pos)
  rw [← div_zpow_eq, Nat.div_lt_iff_lt_mul hpos, div_lt_iff₀ (Nat.cast_pos.2 hpos), ← Nat.cast_mul,
    Nat.cast_lt]

/-- The mantissa before rounding has 53 bits, or the exponent is the least one and it has fewer. -/
theorem scale_spec (hnum : num ≠ 0) (hden : den ≠ 0) :
    -1074 ≤ scale num den ∧ (num : ℚ) / den / 2 ^ scale num den < 2 ^ 53 ∧
      (scale num den = -1074 ∨ 2 ^ 52 ≤ (num : ℚ) / den / 2 ^ scale num den) := by
  obtain ⟨hlow, hhigh⟩ := div_lt_zpow hnum hden
  obtain ⟨g, hg⟩ : ∃ g : Int, max (-1074) ((num.log2 : Int) - den.log2 - 52) = g := ⟨_, rfl⟩
  have hlt : (num : ℚ) / den / 2 ^ g < 2 ^ 53 := by
    rw [div_lt_iff₀ (zpow_pos two_pos g), ← zpow_natCast, ← zpow_add₀ two_ne_zero]
    exact hhigh.trans_le (zpow_le_zpow_right₀ one_le_two (by push_cast; omega))
  have h52 : ((Nat.pow 2 52 : Nat) : ℚ) = 2 ^ 52 := by norm_num
  simp only [scale, hg, Bool.and_eq_true, decide_eq_true_eq, scaled_div_lt_iff hden, h52]
  split
  next h =>
    -- the guess was one too large
    have hge : 2 ^ 51 ≤ (num : ℚ) / den / 2 ^ g := by
      rw [le_div_iff₀ (zpow_pos two_pos g), ← zpow_natCast, ← zpow_add₀ two_ne_zero]
      exact (zpow_le_zpow_right₀ one_le_two (by push_cast; omega)).trans hlow.le
    have hdouble : (num : ℚ) / den / 2 ^ (g - 1) = 2 * ((num : ℚ) / den / 2 ^ g) := by
      rw [zpow_sub_one₀ two_ne_zero]
      field_simp
    rw [hdouble]
    refine ⟨by omega, by linarith [h.1], .inr (by linarith)⟩
  next h =>
    refine ⟨by omega, hlt, ?_⟩
    by_cases hmin : g = -1074
    · exact .inl hmin
    · exact .inr (not_lt.1 fun hq => h ⟨hq, by omega⟩)

/-! ### Rounding to integers -/

theorem roundHalfEven_mem (num den : Nat) :
    num / den ≤ roundHalfEven num den ∧ roundHalfEven num den ≤ num / den + 1 := by
  rw [roundHalfEven]
  split
  · omega
  · split
    · omega
    · split <;> omega

theorem two_mul_roundHalfEven_le (num : Nat) (hden : den ≠ 0) :
    2 * (roundHalfEven num den * den) ≤ 2 * num + den := by
  have hdiv := Nat.div_add_mod num den
  have hmod := Nat.mod_lt num (Nat.pos_of_ne_zero hden)
  have hmul : den * (num / den) = num / den * den := Nat.mul_comm ..
  rw [roundHalfEven]
  split
  · omega
  · rw [apply_ite (fun q => 2 * (q * den) ≤ 2 * num + den), Nat.add_mul]
    split
    · omega
    · rw [apply_ite (fun q => 2 * (q * den) ≤ 2 * num + den), Nat.add_mul]
      split <;> omega

/-- The bits of a mantissa and an exponent stand for their product. A mantissa of 54 bits carries over
into the exponent. -/
theorem ofMagnitudeBits_mul_add {e : Int} {m : Nat} (he : -1074 ≤ e) (hm : m ≤ Nat.pow 2 53)
    (h : e = -1074 ∨ Nat.pow 2 52 ≤ m) :
    ofMagnitudeBits ((e + 1074).toNat * Nat.pow 2 52 + m) = m * 2 ^ e := by
  have h53 : Nat.pow 2 53 = 9007199254740992 := rfl
  obtain ⟨k, hk⟩ : ∃ k, (e + 1074).toNat = k := ⟨_, rfl⟩
  have hek : e = (k : Int) - 1074 := by omega
  rw [h53] at hm
  rw [pow_two_52] at h
  rw [ofMagnitudeBits, hk, hek, pow_two_52]
  obtain hlt | hlt | rfl : m < 4503599627370496 ∨ 4503599627370496 ≤ m ∧ m < 9007199254740992 ∨
      m = 9007199254740992 := by omega
  · have hk0 : k = 0 := by omega
    have hb : max ((k * 4503599627370496 + m) / 4503599627370496) 1 = 1 := by omega
    rw [hb, hk0]
    norm_num
  · have hb : max ((k * 4503599627370496 + m) / 4503599627370496) 1 = k + 1 := by omega
    have hm' : k * 4503599627370496 + m - (k + 1 - 1) * 4503599627370496 = m := by omega
    rw [hb, hm']
    congr 2
    push_cast
    ring
  · have hb : max ((k * 4503599627370496 + 9007199254740992) / 4503599627370496) 1 = k + 2 := by omega
    have hm' : k * 4503599627370496 + 9007199254740992 - (k + 2 - 1) * 4503599627370496 =
        4503599627370496 := by omega
    have he' : ((k + 2 : Nat) : Int) - 1075 = (k : Int) - 1074 + 1 := by push_cast; ring
    rw [hb, hm', he', zpow_add_one₀ two_ne_zero]
    push_cast
    ring

/-! ### Bounds of results -/

theorem magnitude_ofRatio_zero (negative : Bool) (den : Nat) :
    (ofRatio negative 0 den).magnitude = 0 := by
  have h := magnitudeBits_signed negative (Nat.zero_le infinityBits)
  rw [Nat.add_zero] at h
  rw [magnitude_eq, ofRatio, if_pos rfl, h, ofMagnitudeBits_zero]

/-- Rounding at a scale adds half a unit of this scale at most. -/
theorem roundHalfEven_mul_le (num : Nat) (hden : den ≠ 0) (e : Int) :
    (roundHalfEven (num * Nat.pow 2 (-e).toNat) (den * Nat.pow 2 e.toNat) : ℚ) * 2 ^ e ≤
      num / den + 2 ^ e / 2 := by
  obtain ⟨m, hm⟩ :
      ∃ m, roundHalfEven (num * Nat.pow 2 (-e).toNat) (den * Nat.pow 2 e.toNat) = m := ⟨_, rfl⟩
  have hscale : (0 : ℚ) < 2 ^ e := zpow_pos two_pos e
  have hpos : 0 < den * Nat.pow 2 e.toNat :=
    Nat.mul_pos (Nat.pos_of_ne_zero hden) (Nat.pow_pos two_pos)
  have hposq : (0 : ℚ) < (den * Nat.pow 2 e.toNat : Nat) := Nat.cast_pos.2 hpos
  have h : ((2 * (m * (den * Nat.pow 2 e.toNat)) : Nat) : ℚ) ≤
      (2 * (num * Nat.pow 2 (-e).toNat) + den * Nat.pow 2 e.toNat : Nat) :=
    Nat.cast_le.2 (hm ▸ two_mul_roundHalfEven_le _ hpos.ne')
  rw [Nat.cast_mul, Nat.cast_mul m, Nat.cast_add, Nat.cast_mul 2 (num * _)] at h
  have hm' : (m : ℚ) ≤ num / den / 2 ^ e + 1 / 2 := by
    rw [← div_zpow_eq, div_add' _ _ _ hposq.ne', le_div_iff₀ hposq]
    push_cast at h ⊢
    linarith
  rw [hm]
  calc (m : ℚ) * 2 ^ e
    _ ≤ (num / den / 2 ^ e + 1 / 2) * 2 ^ e := mul_le_mul_of_nonneg_right hm' hscale.le
    _ = num / den + 2 ^ e / 2 := by field_simp

/-- The least scale is small beside one, and any other beside what it is for. -/
theorem half_scale_le {q : ℚ} {e : Int} (h : e = -1074 ∨ 2 ^ 52 ≤ q / 2 ^ e) :
    (2 : ℚ) ^ e / 2 ≤ max q 1 / 2 ^ 53 := by
  rcases h with hmin | hge
  · have hle : (2 : ℚ) ^ e ≤ 2 ^ (-52 : Int) := zpow_le_zpow_right₀ one_le_two (by omega)
    rw [zpow_neg, zpow_ofNat] at hle
    have hmax := le_max_right q 1
    linarith
  · rw [le_div_iff₀ (zpow_pos two_pos e)] at hge
    have := le_max_left q 1
    linarith

theorem magnitude_ofRatio_le (negative : Bool) (num : Nat) (hden : den ≠ 0) :
    (ofRatio negative num den).magnitude ≤ max ((num : ℚ) / den) 1 * slack := by
  by_cases hnum : num = 0
  · rw [hnum, magnitude_ofRatio_zero, slack]
    positivity
  obtain ⟨hmin, hlt, hge⟩ := scale_spec hnum hden
  obtain ⟨e, he⟩ : ∃ e, scale num den = e := ⟨_, rfl⟩
  have hround := roundHalfEven_mul_le num hden e
  obtain ⟨hfloor, hceil⟩ := roundHalfEven_mem (num * Nat.pow 2 (-e).toNat) (den * Nat.pow 2 e.toNat)
  obtain ⟨m, hm⟩ :
      ∃ m, roundHalfEven (num * Nat.pow 2 (-e).toNat) (den * Nat.pow 2 e.toNat) = m := ⟨_, rfl⟩
  rw [he] at hmin hlt hge
  rw [hm] at hround hfloor hceil
  have hm53 : m ≤ Nat.pow 2 53 := by
    have := (scaled_div_lt_iff hden e (Nat.pow 2 53)).2 (by exact_mod_cast hlt)
    omega
  have hm52 : e = -1074 ∨ Nat.pow 2 52 ≤ m := by
    refine hge.imp_right fun hge => le_trans ?_ hfloor
    exact not_lt.1 fun h =>
      absurd ((scaled_div_lt_iff hden e _).1 h) (not_lt.2 (by exact_mod_cast hge))
  have hbits : (ofRatio negative num den).magnitudeBits ≤ (e + 1074).toNat * Nat.pow 2 52 + m := by
    simp only [ofRatio, if_neg hnum, he, hm, magnitudeBits_signed negative (Nat.min_le_right _ _)]
    exact Nat.min_le_left _ _
  calc (ofRatio negative num den).magnitude
      ≤ ofMagnitudeBits ((e + 1074).toNat * Nat.pow 2 52 + m) :=
        magnitude_eq _ ▸ strictMono_ofMagnitudeBits.monotone hbits
    _ = m * 2 ^ e := ofMagnitudeBits_mul_add hmin hm53 hm52
    _ ≤ num / den + 2 ^ e / 2 := hround
    _ ≤ max ((num : ℚ) / den) 1 + max ((num : ℚ) / den) 1 / 2 ^ 53 :=
        add_le_add (le_max_left _ _) (half_scale_le hge)
    _ = max ((num : ℚ) / den) 1 * slack := by rw [slack]; ring

theorem magnitude_eq_div (x : Binary64) : x.magnitude = x.ratio.1 / x.ratio.2 :=
  eq_div_of_mul_eq (Nat.cast_ne_zero.2 x.ratio_pos.ne') x.magnitude_mul_ratio

theorem magnitude_mul_le (x y : Binary64) :
    (x.mul y).magnitude ≤ max (x.magnitude * y.magnitude) 1 * slack := by
  have h := magnitude_ofRatio_le (x.isNegative != y.isNegative) (x.ratio.1 * y.ratio.1)
    (Nat.mul_pos x.ratio_pos y.ratio_pos).ne'
  rw [magnitude_eq_div x, magnitude_eq_div y, div_mul_div_comm]
  exact_mod_cast h

theorem magnitude_ofNat_le (n : Nat) : (ofNat n).magnitude ≤ n * slack := by
  obtain rfl | hn := Nat.eq_zero_or_pos n
  · rw [ofNat, magnitude_ofRatio_zero, Nat.cast_zero, zero_mul]
  · have h := magnitude_ofRatio_le false n Nat.one_ne_zero
    have hmax : max ((n : ℚ) / (1 : Nat)) 1 = n := by
      rw [Nat.cast_one, div_one, max_eq_left]
      exact Nat.one_le_cast.2 hn
    rwa [hmax] at h

/-! ### Finite numbers -/

theorem ofMagnitudeBits_infinityBits : ofMagnitudeBits infinityBits = overflow := by
  have hb : max (infinityBits / Nat.pow 2 52) 1 = 2047 := by decide
  have hm : infinityBits - (2047 - 1) * Nat.pow 2 52 = Nat.pow 2 52 := by decide
  rw [ofMagnitudeBits, hb, hm, Nat.pow_eq, Nat.cast_pow, Nat.cast_two, ← zpow_natCast,
    ← zpow_add₀ two_ne_zero, overflow]
  norm_num

theorem isFinite_iff (x : Binary64) : x.isFinite = true ↔ x.magnitude < overflow := by
  have hlt : x.magnitudeBits < Nat.pow 2 63 := Nat.mod_lt _ (by decide)
  rw [magnitude_eq, ← ofMagnitudeBits_infinityBits, strictMono_ofMagnitudeBits.lt_iff_lt, isFinite,
    bne_iff_ne, biased_eq, infinityBits]
  rw [pow_two_63] at hlt
  rw [pow_two_52]
  omega

end ClassForge.Binary64
