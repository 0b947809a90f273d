import ClassForge.Json.Writer
import ClassForge.Proofs.Decimal.Shortest
import ClassForge.Proofs.Json.Finite
import ClassForge.Proofs.Json.Literal

/-!
# Written numbers

The text of a number is the text of a literal, and the value of that literal is a number of the same
kind: the same integer, or a floating-point number.

## Main definitions

- `Json.Pointed` — digits on both sides of a point
- `Json.exponentialLiteral` — the literal of a number that is written with an exponent
- `Json.readBack`, `Json.Number.mapFloat` — what the text of a number is read as

## Main statements

- `Json.exists_pointed`, `Json.text_exponentialLiteral` — the two forms of a text
- `Json.isFloatText_write` — the text of a finite number is read as a floating-point number
- `Json.exists_literal` — the literal of a number
-/

namespace ClassForge.Json

open Binary64 (slack overflow)

variable {digits : List Char} {x : Binary64} {point power : Int}

/-! ### Digits -/

theorem ofDigitChars_lt {ds : List Char} (h : ∀ c ∈ ds, c.isDigit = true) :
    Nat.ofDigitChars 10 ds 0 < 10 ^ ds.length := by
  induction ds with
  | nil => decide
  | cons c ds ih =>
    obtain ⟨hc, hds⟩ := List.forall_mem_cons.1 h
    have hdigit : c.toNat - '0'.toNat < 10 := by
      have h09 : 48 ≤ c.toNat ∧ c.toNat ≤ 57 := by
        simpa [Char.isDigit, UInt32.le_iff_toNat_le] using hc
      have h0 : '0'.toNat = 48 := rfl
      omega
    have hlt := ih hds
    rw [Nat.ofDigitChars_cons, Nat.ofDigitChars_eq_ofDigitChars_zero, Nat.mul_zero, Nat.zero_add,
      List.length_cons, Nat.pow_succ]
    calc 10 ^ ds.length * (c.toNat - '0'.toNat) + Nat.ofDigitChars 10 ds 0
        < 10 ^ ds.length * (c.toNat - '0'.toNat) + 10 ^ ds.length := Nat.add_lt_add_left hlt _
      _ = 10 ^ ds.length * (c.toNat - '0'.toNat + 1) := (Nat.mul_succ _ _).symm
      _ ≤ 10 ^ ds.length * 10 := Nat.mul_le_mul_left _ hdigit

/-- Sixteen digits fit into 64 bits. -/
theorem ofDigitChars_lt_of_length_le {ds : List Char} (h : ∀ c ∈ ds, c.isDigit = true)
    (hlength : ds.length ≤ 16) : Nat.ofDigitChars 10 ds 0 < Nat.pow 2 64 :=
  calc Nat.ofDigitChars 10 ds 0 < 10 ^ ds.length := ofDigitChars_lt h
    _ ≤ 10 ^ 16 := Nat.pow_le_pow_right (by decide) hlength
    _ ≤ Nat.pow 2 64 := by decide

theorem isDigit_replicate_zero (n : Nat) : ∀ c ∈ List.replicate n '0', c.isDigit = true := by
  intro c hc
  rw [List.eq_of_mem_replicate hc]
  rfl

/-! ### Texts without exponent -/

/-- The digits before and behind a point make a literal, whose whole part is short. -/
structure Pointed (whole fraction : List Char) : Prop where
  isDigits_whole : IsDigits whole
  leading : whole.head? = some '0' → whole = ['0']
  length_le : whole.length ≤ 16
  isDigits_fraction : IsDigits fraction

theorem Pointed.wellFormed {whole fraction : List Char} (h : Pointed whole fraction)
    (isNegative : Bool) : Literal.WellFormed ⟨isNegative, whole, some fraction, none⟩ where
  whole := h.isDigits_whole
  leading := h.leading
  fraction := by
    rintro ds ⟨⟩
    exact h.isDigits_fraction
  exponent := nofun

theorem Pointed.isFloat {whole fraction : List Char} (h : Pointed whole fraction)
    (isNegative : Bool) : Literal.IsFloat ⟨isNegative, whole, some fraction, none⟩ where
  form := .inl nofun
  whole := ofDigitChars_lt_of_length_le h.isDigits_whole.isDigit h.length_le
  exponent := nofun

/-- A zero has one digit on either side of the point. -/
theorem pointed_zero : Pointed ['0'] ['0'] :=
  ⟨⟨by decide, by simp⟩, fun _ => rfl, by decide, ⟨by decide, by simp⟩⟩

/-- Zeros stand between the point and the digits. -/
theorem pointed_pad_left (hdigits : IsDigits digits) (n : Nat) :
    Pointed ['0'] (List.replicate n '0' ++ digits) := by
  refine ⟨pointed_zero.isDigits_whole, fun _ => rfl, by decide, by simp [hdigits.ne_nil],
    fun c hc => ?_⟩
  exact (List.mem_append.1 hc).elim (isDigit_replicate_zero _ c) (hdigits.isDigit c)

/-- Zeros stand between the digits and the point. -/
theorem pointed_pad_right (hdigits : IsDigits digits) (hleading : digits.head? ≠ some '0') {n : Nat}
    (hn : digits.length + n ≤ 16) : Pointed (digits ++ List.replicate n '0') ['0'] := by
  refine ⟨⟨by simp [hdigits.ne_nil], fun c hc => ?_⟩, fun hzero => absurd ?_ hleading, ?_,
    pointed_zero.isDigits_fraction⟩
  · exact (List.mem_append.1 hc).elim (hdigits.isDigit c) (isDigit_replicate_zero _ c)
  · rwa [List.head?_append_of_ne_nil _ hdigits.ne_nil] at hzero
  · rwa [List.length_append, List.length_replicate]

/-- The point stands among the digits. -/
theorem pointed_split (hdigits : IsDigits digits) (hleading : digits.head? ≠ some '0') {n : Nat}
    (hpos : 0 < n) (hn : n < digits.length) (hshort : n ≤ 16) :
    Pointed (digits.take n) (digits.drop n) := by
  have htake : digits.take n ≠ [] := by
    rw [← List.length_pos_iff, List.length_take]
    omega
  have hdrop : digits.drop n ≠ [] := by
    rw [← List.length_pos_iff, List.length_drop]
    omega
  refine ⟨⟨htake, fun c hc => hdigits.isDigit c (List.mem_of_mem_take hc)⟩,
    fun hzero => absurd ?_ hleading, ?_,
    ⟨hdrop, fun c hc => hdigits.isDigit c (List.mem_of_mem_drop hc)⟩⟩
  · rwa [← List.take_append_drop n digits, List.head?_append_of_ne_nil _ htake]
  · rw [List.length_take]
    omega

/-- Wherever the point is, there are digits on both sides of it, and they denote the same number as
the digits alone. -/
theorem exists_pointed (hdigits : IsDigits digits) (hleading : digits.head? ≠ some '0')
    (hpoint : point ≤ 16) : ∃ whole fraction, Pointed whole fraction ∧
      Layout.positional digits point = whole ++ '.' :: fraction ∧
      (Nat.ofDigitChars 10 (whole ++ fraction) 0 : ℚ) * 10 ^ (-(fraction.length : Int)) =
        Nat.ofDigitChars 10 digits 0 * 10 ^ (point - digits.length) := by
  have hpos := List.length_pos_iff.2 hdigits.ne_nil
  rw [Layout.positional]
  split
  next h =>
    refine ⟨['0'], List.replicate (-point).toNat '0' ++ digits, pointed_pad_left hdigits _, by simp,
      ?_⟩
    have hvalue : Nat.ofDigitChars 10 (['0'] ++ (List.replicate (-point).toNat '0' ++ digits)) 0 =
        Nat.ofDigitChars 10 digits 0 := by
      simp [Nat.ofDigitChars_append, Nat.ofDigitChars_cons, Nat.ofDigitChars_replicate_zero]
    have hpower : -((List.replicate (-point).toNat '0' ++ digits).length : Int) =
        point - digits.length := by
      rw [List.length_append, List.length_replicate]
      omega
    rw [hvalue, hpower]
  next h =>
    split
    next hlength =>
      refine ⟨digits ++ List.replicate (point.toNat - digits.length) '0', ['0'],
        pointed_pad_right hdigits hleading (by omega), by simp, ?_⟩
      have hvalue : Nat.ofDigitChars 10
          (digits ++ List.replicate (point.toNat - digits.length) '0' ++ ['0']) 0 =
          10 * (10 ^ (point.toNat - digits.length) * Nat.ofDigitChars 10 digits 0) := by
        simp [Nat.ofDigitChars_append, Nat.ofDigitChars_cons, Nat.ofDigitChars_replicate_zero]
      have hpower : point - digits.length = (point.toNat - digits.length : Nat) := by omega
      rw [hvalue, hpower, zpow_natCast, List.length_singleton, Nat.cast_one, zpow_neg_one]
      push_cast
      field_simp
    next hlength =>
      refine ⟨digits.take point.toNat, digits.drop point.toNat,
        pointed_split hdigits hleading (by omega) (by omega) (by omega), by simp, ?_⟩
      have hpower : -((digits.drop point.toNat).length : Int) = point - digits.length := by
        rw [List.length_drop]
        omega
      rw [List.take_append_drop, hpower]

/-! ### Texts with exponent -/

/-- The literal of a number that is written with an exponent. -/
def exponentialLiteral (isNegative : Bool) (digits : List Char) (power : Int) : Literal where
  isNegative := isNegative
  whole := digits.take 1
  fraction := if (digits.drop 1).isEmpty then none else some (digits.drop 1)
  exponent := some (power < 0, Nat.toDigits 10 power.natAbs)

theorem text_exponentialLiteral (isNegative : Bool) (digits : List Char) (power : Int) :
    (exponentialLiteral isNegative digits power).text =
      signText isNegative ++ Layout.json.exponential digits power := by
  have hfraction : fractionText (exponentialLiteral isNegative digits power).fraction =
      if (digits.drop 1).isEmpty then [] else '.' :: digits.drop 1 := by
    rw [exponentialLiteral]
    split <;> rfl
  have hexponent : exponentText (exponentialLiteral isNegative digits power).exponent =
      'e' :: (if power < 0 then '-' else '+') :: Nat.toDigits 10 power.natAbs := by
    rw [exponentialLiteral, exponentText]
    simp only [decide_eq_true_eq]
  have hsign : (if power < 0 then ['-'] else if Layout.json.signedExponent then ['+'] else []) =
      [if power < 0 then '-' else '+'] := by
    rw [if_pos (show Layout.json.signedExponent = true from rfl)]
    split <;> rfl
  rw [Literal.text, hfraction, hexponent, Layout.exponential, hsign]
  simp [exponentialLiteral]

theorem signedExponent_toDigits (power : Int) :
    signedExponent (power < 0, Nat.toDigits 10 power.natAbs) = power := by
  by_cases h : power < 0 <;>
    simp only [h, decide_true, decide_false, signedExponent, Nat.ofDigitChars_ten_toDigits] <;> omega

theorem wellFormed_exponentialLiteral (isNegative : Bool) (hdigits : IsDigits digits) (power : Int) :
    (exponentialLiteral isNegative digits power).WellFormed := by
  obtain ⟨c, ds, rfl⟩ := List.exists_cons_of_ne_nil hdigits.ne_nil
  obtain ⟨hc, hds⟩ := List.forall_mem_cons.1 hdigits.isDigit
  refine ⟨⟨by simp [exponentialLiteral], by simpa [exponentialLiteral] using hc⟩, ?_, ?_, ?_⟩
  · intro h
    obtain rfl := Option.some.inj h
    rfl
  · intro fraction h
    simp only [exponentialLiteral] at h
    split at h
    next => cases h
    next hne =>
      cases h
      exact ⟨by simpa using hne, hds⟩
  · rintro e ⟨⟩
    exact isDigits_toDigits _

theorem isFloat_exponentialLiteral (isNegative : Bool) (hdigits : IsDigits digits)
    (hpower : power ≤ exponentLimit) : (exponentialLiteral isNegative digits power).IsFloat := by
  refine ⟨.inr nofun, ofDigitChars_lt_of_length_le ?_ ?_, ?_⟩
  · exact fun c hc => hdigits.isDigit c (List.mem_of_mem_take hc)
  · rw [exponentialLiteral, List.length_take]
    omega
  · rintro e ⟨⟩
    rwa [signedExponent_toDigits]

theorem fraction_exponentialLiteral (isNegative : Bool) (digits : List Char) (power : Int) :
    (exponentialLiteral isNegative digits power).fraction.getD [] = digits.drop 1 := by
  rw [exponentialLiteral]
  split
  next h => exact (List.isEmpty_iff.1 h).symm
  next => rfl

theorem exponent_exponentialLiteral (isNegative : Bool) (digits : List Char) (power : Int) :
    (exponentialLiteral isNegative digits power).exponent.elim 0 signedExponent = power :=
  signedExponent_toDigits power

/-- The digits behind the first one count in the exponent. -/
theorem toRat_exponentialLiteral (isNegative : Bool) (hdigits : IsDigits digits) (power : Int) :
    (exponentialLiteral isNegative digits power).toRat =
      Nat.ofDigitChars 10 digits 0 * 10 ^ (power + 1 - digits.length) := by
  have hpos := List.length_pos_iff.2 hdigits.ne_nil
  have hpower : power - ((digits.drop 1).length : Int) = power + 1 - digits.length := by
    rw [List.length_drop]
    omega
  have hwhole : (exponentialLiteral isNegative digits power).whole = digits.take 1 := rfl
  rw [Literal.toRat, fraction_exponentialLiteral, exponent_exponentialLiteral, hpower, hwhole,
    List.take_append_drop]

/-- All digits count if 64 bits hold them. -/
theorem value?_exponentialLiteral (isNegative : Bool) (hdigits : IsDigits digits)
    (hlt : Nat.ofDigitChars 10 digits 0 < Nat.pow 2 64) (hlow : 0 ≤ power)
    (hpower : power ≤ exponentLimit) : (exponentialLiteral isNegative digits power).value? =
      (float? isNegative (Nat.ofDigitChars 10 digits 0) (power + 1 - digits.length)).map .float := by
  have hpos := List.length_pos_iff.2 hdigits.ne_nil
  have happend : Nat.ofDigitChars 10 (digits.drop 1) (Nat.ofDigitChars 10 (digits.take 1) 0) =
      Nat.ofDigitChars 10 digits 0 := by
    rw [← Nat.ofDigitChars_append, List.take_append_drop]
  have hgather : gather (Nat.ofDigitChars 10 (exponentialLiteral isNegative digits power).whole 0)
      ((exponentialLiteral isNegative digits power).fraction.getD []) =
        (Nat.ofDigitChars 10 digits 0, 0) := by
    rw [fraction_exponentialLiteral, ← happend]
    exact gather_of_lt (happend ▸ hlt)
  have hexponent : power - ((digits.drop 1).length - 0 : Nat) = power + 1 - digits.length := by
    rw [List.length_drop]
    omega
  rw [Literal.value?_eq (isFloat_exponentialLiteral isNegative hdigits hpower) hgather,
    fraction_exponentialLiteral, exponent_exponentialLiteral, if_pos (by omega), hexponent]
  rfl

/-! ### The text of a floating-point number -/

theorem write_of_isFinite (hx : x.isFinite = true) :
    Layout.json.write x = signText x.isNegative ++ Layout.json.magnitude x := by
  have hnan := Binary64.isNaN_of_isFinite hx
  simp [Layout.write, hnan, hx, signText]

theorem magnitude_of_not_isZero (hx : x.isZero = false) {d : Decimal}
    (hd : Decimal.shortest .even x = d) : Layout.json.magnitude x =
      if Layout.json.isPositional (d.exponent + (Nat.toDigits 10 d.digits).length) then
        Layout.positional (Nat.toDigits 10 d.digits) (d.exponent + (Nat.toDigits 10 d.digits).length)
      else Layout.json.exponential (Nat.toDigits 10 d.digits)
        (d.exponent + (Nat.toDigits 10 d.digits).length - 1) := by
  subst hd
  simp only [Layout.magnitude, hx, Bool.false_eq_true, if_false]
  rfl

/-- The first digit of a decimal tells its size. -/
theorem zpow_le_toRat {d : Decimal} (hd : d.digits ≠ 0) :
    (10 : ℚ) ^ (d.exponent + (Nat.toDigits 10 d.digits).length - 1) ≤ d.toRat := by
  have hle : 10 ^ ((Nat.toDigits 10 d.digits).length - 1) ≤ d.digits := by
    obtain h | h := Nat.eq_zero_or_pos ((Nat.toDigits 10 d.digits).length - 1)
    · rw [h]
      exact Nat.one_le_iff_ne_zero.2 hd
    · rw [← not_lt, ← Nat.length_toDigits_le_iff (by decide) h]
      omega
  have hpos := Nat.length_toDigits_pos (b := 10) (n := d.digits)
  have hpower : d.exponent + (Nat.toDigits 10 d.digits).length - 1 =
      ((Nat.toDigits 10 d.digits).length - 1 : Nat) + d.exponent := by omega
  rw [hpower, zpow_add₀ (by norm_num), zpow_natCast, Decimal.toRat]
  exact mul_le_mul_of_nonneg_right (by exact_mod_cast hle) (zpow_nonneg (by norm_num) _)

theorem power_le_exponentLimit {d : Decimal} (hd : d.digits ≠ 0) (hlt : d.toRat < overflow) :
    d.exponent + (Nat.toDigits 10 d.digits).length - 1 ≤ exponentLimit := by
  have hlimit : (exponentLimit : Int) = 2147483647 := rfl
  obtain hneg | hpos := lt_or_ge (d.exponent + (Nat.toDigits 10 d.digits).length - 1) 0
  · omega
  · obtain ⟨n, hn⟩ := Int.eq_ofNat_of_zero_le hpos
    have h := (zpow_le_toRat hd).trans_lt hlt
    rw [hn, zpow_natCast] at h
    have := le_largestPower_of_lt h
    omega

/-- Whether a text is that of a literal whose value is a floating-point number. -/
def IsFloatText (s : List Char) : Prop :=
  ∃ l : Literal, l.WellFormed ∧ l.text = s ∧ ∃ y, l.value? = some (.float y)

theorem Pointed.isFloatText {whole fraction : List Char} (h : Pointed whole fraction)
    (isNegative : Bool)
    (hlt : (Nat.ofDigitChars 10 (whole ++ fraction) 0 : ℚ) * 10 ^ (-(fraction.length : Int)) *
      slack ^ 3 < overflow) : IsFloatText (signText isNegative ++ (whole ++ '.' :: fraction)) := by
  refine ⟨_, h.wellFormed isNegative, ?_, Literal.exists_value?_eq_float (h.isFloat isNegative) ?_⟩
  · simp [Literal.text, fractionText, exponentText]
  · simpa [Literal.toRat] using hlt

/-- A decimal that leaves room for three roundings is read back as a floating-point number, in either
form of its text. -/
theorem isFloatText_of_lt {d : Decimal} (isNegative : Bool) (hd : d.digits ≠ 0 ∨ d = ⟨0, 17⟩)
    (hlt : d.toRat * slack ^ 3 < overflow)
    (hshortest : Decimal.shortest .even x = d) (hzero : x.isZero = false) :
    IsFloatText (signText isNegative ++ Layout.json.magnitude x) := by
  have hdigits := isDigits_toDigits d.digits
  rw [magnitude_of_not_isZero hzero hshortest]
  split
  next hpoint =>
    have hne : d.digits ≠ 0 := by
      refine hd.resolve_right ?_
      rintro rfl
      exact absurd hpoint (by decide)
    have hle : d.exponent + (Nat.toDigits 10 d.digits).length ≤ 16 := by
      simpa [Layout.json] using (Bool.and_eq_true_iff.1 hpoint).2
    obtain ⟨whole, fraction, hparts, htext, hvalue⟩ :=
      exists_pointed hdigits (head?_toDigits hne) hle
    rw [htext]
    refine hparts.isFloatText isNegative ?_
    rwa [hvalue, Nat.ofDigitChars_ten_toDigits, Int.add_sub_cancel]
  next =>
    have hpower : d.exponent + (Nat.toDigits 10 d.digits).length - 1 ≤ exponentLimit := by
      obtain hne | rfl := hd
      · refine power_le_exponentLimit hne (lt_of_le_of_lt ?_ hlt)
        exact le_mul_of_one_le_right (mul_nonneg (Nat.cast_nonneg _) (zpow_nonneg (by norm_num) _))
          (one_le_pow₀ Binary64.one_le_slack)
      · decide
    refine ⟨_, wellFormed_exponentialLiteral isNegative hdigits _, text_exponentialLiteral .., ?_⟩
    refine Literal.exists_value?_eq_float (isFloat_exponentialLiteral isNegative hdigits hpower) ?_
    rwa [toRat_exponentialLiteral isNegative hdigits, Nat.ofDigitChars_ten_toDigits,
      Int.sub_add_cancel, Int.add_sub_cancel]

/-- The three largest numbers have no room for three roundings, but their decimals are read back. -/
theorem exists_scaled?_of_largest (hx : x.isFinite = true)
    (h : Binary64.infinityBits - 4 < x.magnitudeBits) :
    ∃ s, Decimal.shortest .even x = ⟨s, 292⟩ ∧ (Nat.toDigits 10 s).length = 17 ∧ s < Nat.pow 2 64 ∧
      ∃ y, scaled? (Binary64.ofNat s) 292 = some y := by
  have hlt : x.magnitudeBits < Binary64.infinityBits := by
    rw [Binary64.isFinite_iff, Binary64.magnitude_eq, ← Binary64.ofMagnitudeBits_infinityBits] at hx
    exact Binary64.strictMono_ofMagnitudeBits.lt_iff_lt.1 hx
  have hscaled : ∀ s, ((Binary64.ofNat s).mul (powerOfTen 292)).isFinite = true →
      ∃ y, scaled? (Binary64.ofNat s) 292 = some y := by
    intro s hs
    rw [scaled?, if_pos (by decide), if_pos (by decide)]
    exact ⟨_, if_pos hs⟩
  have hshortest : ∀ m, m ≤ Binary64.infinityBits → x.magnitudeBits = m →
      Decimal.shortest .even x = Decimal.shortest .even ⟨UInt64.ofNat m⟩ := by
    intro m hm hxm
    refine Decimal.shortest_congr .even (hxm.trans ?_)
    have := Binary64.magnitudeBits_signed false hm
    rw [if_neg Bool.false_ne_true, Nat.zero_add] at this
    exact this.symm
  have hbits : Binary64.infinityBits = 9218868437227405312 := rfl
  obtain h | h | h : x.magnitudeBits = Binary64.infinityBits - 1 ∨
      x.magnitudeBits = Binary64.infinityBits - 2 ∨ x.magnitudeBits = Binary64.infinityBits - 3 := by
    omega
  · refine ⟨17976931348623157, (hshortest _ (by omega) h).trans ?_, ?_, ?_, hscaled _ ?_⟩ <;>
      decide +kernel
  · refine ⟨17976931348623155, (hshortest _ (by omega) h).trans ?_, ?_, ?_, hscaled _ ?_⟩ <;>
      decide +kernel
  · refine ⟨17976931348623153, (hshortest _ (by omega) h).trans ?_, ?_, ?_, hscaled _ ?_⟩ <;>
      decide +kernel

theorem isFloatText_of_largest (hx : x.isFinite = true) (hzero : x.isZero = false)
    (h : Binary64.infinityBits - 4 < x.magnitudeBits) (isNegative : Bool) :
    IsFloatText (signText isNegative ++ Layout.json.magnitude x) := by
  obtain ⟨s, hs, hlength, hlt, y, hy⟩ := exists_scaled?_of_largest hx h
  have hdigits := isDigits_toDigits s
  have htext : Layout.json.magnitude x = Layout.json.exponential (Nat.toDigits 10 s) 308 := by
    rw [magnitude_of_not_isZero hzero hs, hlength]
    exact if_neg (by decide : ¬ Layout.json.isPositional 309 = true)
  rw [htext]
  refine ⟨_, wellFormed_exponentialLiteral isNegative hdigits _, text_exponentialLiteral .., ?_⟩
  have hpower : (308 : Int) + 1 - (17 : Nat) = 292 := rfl
  rw [value?_exponentialLiteral isNegative hdigits (by rwa [Nat.ofDigitChars_ten_toDigits]) (by decide)
    (by decide), Nat.ofDigitChars_ten_toDigits, hlength, hpower, float?, hy]
  exact ⟨_, rfl⟩

/-- The text of a finite number is that of a literal whose value is a floating-point number. -/
theorem isFloatText_write (hx : x.isFinite = true) : IsFloatText (Layout.json.write x) := by
  rw [write_of_isFinite hx]
  cases hzero : x.isZero with
  | true =>
    have hmagnitude : Layout.json.magnitude x = ['0'] ++ '.' :: ['0'] := by
      rw [Layout.magnitude, if_pos hzero]
      rfl
    rw [hmagnitude]
    refine pointed_zero.isFloatText _ ?_
    have hvalue : Nat.ofDigitChars 10 (['0'] ++ ['0']) 0 = 0 := by decide
    rw [hvalue, Nat.cast_zero, zero_mul, zero_mul]
    exact zero_lt_one.trans_le (Binary64.one_le_slack.trans Binary64.slack_lt_overflow.le)
  | false =>
    obtain h | h := le_or_gt x.magnitudeBits (Binary64.infinityBits - 4)
    · exact isFloatText_of_lt _ (Decimal.shortest_ne_zero_or .even hzero)
        (Decimal.toRat_shortest_lt .even h) rfl hzero
    · exact isFloatText_of_largest hx hzero h _

/-! ### The text of a number -/

/-- A floating-point number as its text is read. -/
def readBack (x : Binary64) : Binary64 :=
  match (literal? (Layout.json.write x)).bind fun r => r.1.value? with
  | some (.float y) => y
  | _ => x

/-- The number with a floating-point number replaced. -/
def Number.mapFloat (f : Binary64 → Binary64) : Number → Number
  | float x => float (f x)
  | n => n

/-- The numbers that have a text of their own, and are of one kind only. -/
def Number.IsPlain : Number → Prop
  | natural _ => True
  | negative i => i.toInt < 0
  | float x => x.isFinite = true

theorem ends_nil : Ends [] :=
  nofun

/-- The text of a finite number is read as a floating-point number. -/
theorem exists_literal_readBack (hx : x.isFinite = true) : ∃ l : Literal, l.WellFormed ∧
    l.text = Layout.json.write x ∧ l.value? = some (.float (readBack x)) := by
  obtain ⟨l, hl, htext, y, hy⟩ := isFloatText_write hx
  have hread : literal? (Layout.json.write x) = some (l, []) := by
    rw [← htext, ← List.append_nil l.text]
    exact literal?_text hl ends_nil
  refine ⟨l, hl, htext, ?_⟩
  rw [readBack, hread, Option.bind_some]
  simp only [hy]

theorem wellFormed_integer (isNegative : Bool) (n : Nat) :
    Literal.WellFormed ⟨isNegative, Nat.toDigits 10 n, none, none⟩ where
  whole := isDigits_toDigits n
  leading h := by
    obtain rfl | hn := eq_or_ne n 0
    · rfl
    · exact absurd h (head?_toDigits hn)
  fraction := nofun
  exponent := nofun

theorem value?_integer (isNegative : Bool) {n : Nat} (hn : n < Nat.pow 2 64) :
    Literal.value? ⟨isNegative, Nat.toDigits 10 n, none, none⟩ = some (integer isNegative n) := by
  have hgather : gather 0 (Nat.toDigits 10 n) = (n, 0) := by
    have h : Nat.ofDigitChars 10 (Nat.toDigits 10 n) 0 < Nat.pow 2 64 :=
      Nat.ofDigitChars_ten_toDigits.symm ▸ hn
    rw [gather_of_lt h, Nat.ofDigitChars_ten_toDigits]
  rw [Literal.value?, hgather]
  rfl

/-- The text of a plain number is that of a literal, whose value is the number read back. -/
theorem exists_literal {n : Number} (hn : n.IsPlain) : ∃ l : Literal, l.WellFormed ∧
    l.text = writeNumber n ∧ l.value? = some (n.mapFloat readBack) := by
  cases n with
  | natural n =>
    have hlt : n.toNat < Nat.pow 2 64 := n.toNat_lt
    refine ⟨_, wellFormed_integer false n.toNat, ?_, ?_⟩
    · simp [Literal.text, signText, fractionText, exponentText, writeNumber]
    · rw [value?_integer false hlt, integer, Bool.not_false, if_pos rfl, UInt64.ofNat_toNat]
      rfl
  | negative i =>
    have hneg : i.toInt < 0 := hn
    have hmin : -9223372036854775808 ≤ i.toInt := i.le_toInt
    have h63 : Nat.pow 2 63 = 9223372036854775808 := rfl
    have h64 : Nat.pow 2 64 = 18446744073709551616 := rfl
    refine ⟨_, wellFormed_integer true i.toInt.natAbs, ?_, ?_⟩
    · simp [Literal.text, signText, fractionText, exponentText, writeNumber, Text.integer, hneg]
    · have hzero : i.toInt.natAbs ≠ 0 := by omega
      have hsmall : ¬ Nat.pow 2 63 < i.toInt.natAbs := by omega
      have habs : -(i.toInt.natAbs : Int) = i.toInt := by omega
      rw [value?_integer true (by omega), integer, habs, Int64.ofInt_toInt]
      simp [hzero, hsmall, Number.mapFloat]
  | float x => exact exists_literal_readBack hn

end ClassForge.Json
