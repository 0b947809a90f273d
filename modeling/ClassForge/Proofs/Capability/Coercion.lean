import ClassForge.Capability
import ClassForge.Proofs.Binary64.Magnitude
import ClassForge.Proofs.Text.Numeral

/-!
# Coercion to integers

The type of coercible integers accepts a value exactly when the value holds a 64-bit integer, and
gives that integer.

## Main definitions

- `Value.Holds` — the integer that a value of any kind holds, of whatever size

## Main statements

- `Capability.inRange_iff` — the two comparisons with floating-point numbers check the exact range
- `Capability.coercibleInteger_exact` — which values are accepted, and with which result
-/

namespace ClassForge

/-- The integer that a value holds: an integer itself, a finite floating-point number whose exact
value is an integer, or a text that is a numeral between white space. -/
inductive Value.Holds : Value → Int → Prop where
  | int (i : Int64) : Holds (.int i) i.toInt
  | float {x : Binary64} {i : Int} (hfinite : x.isFinite = true) (hvalue : x.toRat = i) :
    Holds (.float x) i
  | str {s : String} {t : List Char} {i : Int} (hpadded : Text.Padded s.toList t)
    (hnumeral : Text.Numeral t i) : Holds (.str s) i

theorem Value.holds_float_iff {x : Binary64} {i : Int} :
    (Value.float x).Holds i ↔ x.isFinite = true ∧ x.toRat = i := by
  constructor
  · rintro (_ | ⟨hfinite, hvalue⟩)
    exact ⟨hfinite, hvalue⟩
  · exact fun h => .float h.1 h.2

namespace Capability

variable {x : Binary64} {s : String} {v w : Value}

/-! ### Floating-point numbers -/

theorem lowest_eq : lowest = ⟨0xC3E0000000000000⟩ := by decide

theorem highest_eq : highest = ⟨0x43E0000000000000⟩ := by decide

theorem toRat_lowest : lowest.toRat = Int64.minValue.toInt := by
  have hsign : lowest.isNegative = true := by rw [lowest_eq]; rfl
  have hmantissa : lowest.mantissa = 4503599627370496 := by rw [lowest_eq]; rfl
  have hexponent : lowest.exponent = 11 := by rw [lowest_eq]; rfl
  have hmin : Int64.minValue.toInt = -9223372036854775808 := rfl
  rw [Binary64.toRat, if_pos hsign, Binary64.magnitude, hmantissa, hexponent, hmin]
  norm_num

/-- The floating-point number nearest to the greatest 64-bit integer is one more than that. -/
theorem toRat_highest : highest.toRat = Int64.maxValue.toInt + 1 := by
  have hsign : highest.isNegative = false := by rw [highest_eq]; rfl
  have hmantissa : highest.mantissa = 4503599627370496 := by rw [highest_eq]; rfl
  have hexponent : highest.exponent = 11 := by rw [highest_eq]; rfl
  have hmax : Int64.maxValue.toInt = 9223372036854775807 := rfl
  rw [Binary64.toRat, hsign, Binary64.magnitude, hmantissa, hexponent, hmax]
  norm_num

/-- The two comparisons let exactly the 64-bit range pass. -/
theorem inRange_iff {i : Int} (hx : x.isFinite = true) (hi : x.toRat = i) :
    lowest.le x = true ∧ x.lt highest = true ↔
      Int64.minValue.toInt ≤ i ∧ i ≤ Int64.maxValue.toInt := by
  have hlowest : lowest.isFinite = true := by rw [lowest_eq]; rfl
  have hhighest : highest.isFinite = true := by rw [highest_eq]; rfl
  rw [Binary64.le_eq_true_iff hlowest hx, Binary64.lt_eq_true_iff hx hhighest, toRat_lowest,
    toRat_highest, hi, Int.cast_le, ← Int.cast_one, ← Int.cast_add, Int.cast_lt, Int.lt_add_one_iff]

theorem toInt64_eq (hx : x.isFinite = true) (hmin : Int64.minValue.toInt ≤ x.truncate)
    (hmax : x.truncate ≤ Int64.maxValue.toInt) : x.toInt64 = Int64.ofInt x.truncate := by
  rw [Binary64.toInt64, Binary64.isNaN_of_isFinite hx, hx, decide_eq_true hmin, decide_eq_true hmax]
  rfl

theorem check_float_eq_ok_iff :
    coercibleInteger.check (.float x) = .ok w ↔
      ∃ i : Int64, w = .int i ∧ (Value.float x).Holds i.toInt := by
  simp only [coercibleInteger]
  constructor
  · intro h
    split at h
    next hcheck =>
      simp only [Bool.and_eq_true, and_assoc] at hcheck
      obtain ⟨hintegral, hrange⟩ := hcheck
      have hx : x.isFinite = true := (Bool.and_eq_true_iff.1 hintegral).1
      have hvalue : x.toRat = x.truncate := (Binary64.toRat_eq_intCast_iff hx).2 ⟨hintegral, rfl⟩
      have hrange := (inRange_iff hx hvalue).1 hrange
      have hint : (Int64.ofInt x.truncate).toInt = x.truncate :=
        int64?_eq_some_iff.1 (if_pos hrange)
      rw [toInt64_eq hx hrange.1 hrange.2] at h
      refine ⟨_, (Except.ok.inj h).symm, ?_⟩
      rw [hint]
      exact .float hx hvalue
    next => cases h
  · rintro ⟨i, rfl, h⟩
    obtain ⟨hx, hvalue⟩ := Value.holds_float_iff.1 h
    obtain ⟨hintegral, htruncate⟩ := (Binary64.toRat_eq_intCast_iff hx).1 hvalue
    have hrange : Int64.minValue.toInt ≤ i.toInt ∧ i.toInt ≤ Int64.maxValue.toInt :=
      ⟨i.minValue_le_toInt, i.toInt_le⟩
    obtain ⟨hle, hlt⟩ := (inRange_iff hx hvalue).2 hrange
    rw [← htruncate] at hrange
    rw [hintegral, hle, hlt, toInt64_eq hx hrange.1 hrange.2, htruncate, Int64.ofInt_toInt]
    rfl

/-! ### Texts -/

theorem check_str_eq_ok_iff :
    coercibleInteger.check (.str s) = .ok w ↔
      ∃ i : Int64, w = .int i ∧ (Value.str s).Holds i.toInt := by
  have hholds : ∀ i : Int64, (Value.str s).Holds i.toInt ↔
      Text.integer64? (Text.trim s.toList) = some i := by
    intro i
    rw [Text.integer64?_eq_some_iff]
    constructor
    · rintro (_ | _ | ⟨hpadded, hnumeral⟩)
      exact hpadded.trim_eq (fun _ => hnumeral.isWhiteSpace_eq_false) ▸ hnumeral
    · exact .str (Text.padded_trim _)
  simp only [coercibleInteger, hholds]
  split
  next i hi => simp [hi, eq_comm]
  next hnone => simp [hnone]

/-! ### All values -/

/-- A value is accepted when it holds a 64-bit integer, which is then the result. So the decimal text
of an integer is turned into it. -/
theorem coercibleInteger_exact :
    (∀ v w : Value, coercibleInteger.check v = .ok w ↔
      ∃ i : Int64, w = .int i ∧ v.Holds i.toInt) ∧
    ∀ i : Int64, coercibleInteger.check (.str (Value.intText i)) = .ok (.int i) := by
  constructor
  · intro v w
    cases v with
    | float x => exact check_float_eq_ok_iff
    | str s => exact check_str_eq_ok_iff
    | int i =>
      constructor
      · intro h
        exact ⟨i, (Except.ok.inj h).symm, .int i⟩
      · rintro ⟨j, rfl, h⟩
        generalize hj : j.toInt = k at h
        cases h
        rw [Int64.toInt_inj.1 hj]
        rfl
    | nil | bool | list | map =>
      constructor
      · exact nofun
      · rintro ⟨i, -, h⟩
        cases h
  · intro i
    refine check_str_eq_ok_iff.2
      ⟨i, rfl, .str ⟨[], [], ?_, nofun, nofun⟩ (Text.numeral_integer i.toInt)⟩
    simp [Value.intText]

end Capability

end ClassForge
