import ClassForge.Text.Integer
import ClassForge.Text.WhiteSpace

/-!
# Numerals

A numeral is one or more decimal digits behind an optional sign. Reading it digit by digit, with a
check of the range at each digit, gives the number that it denotes if that is in range.

## Main definitions

- `Text.Numeral` — the numerals and what they denote
- `Text.Padded` — a text between white space

## Main statements

- `Text.integer64?_eq_some_iff` — the texts that are read as a 64-bit integer
- `Text.padded_trim`, `Text.Padded.trim_eq` — what is left of a text without white space at its ends
- `Text.numeral_integer` — the decimal text of an integer denotes it
-/

namespace ClassForge.Text

/-- Texts of decimal digits behind an optional sign, and the integers that they denote. -/
inductive Numeral : List Char → Int → Prop where
  | unsigned {ds : List Char} (hne : ds ≠ []) (hds : ∀ c ∈ ds, c.isDigit = true) :
    Numeral ds (Nat.ofDigitChars 10 ds 0)
  | plus {ds : List Char} (hne : ds ≠ []) (hds : ∀ c ∈ ds, c.isDigit = true) :
    Numeral ('+' :: ds) (Nat.ofDigitChars 10 ds 0)
  | minus {ds : List Char} (hne : ds ≠ []) (hds : ∀ c ∈ ds, c.isDigit = true) :
    Numeral ('-' :: ds) (-(Nat.ofDigitChars 10 ds 0 : Int))

/-- Whether `s` is `t` between white space. -/
def Padded (s t : List Char) : Prop :=
  ∃ before after, s = before ++ t ++ after ∧ (∀ c ∈ before, isWhiteSpace c = true) ∧
    ∀ c ∈ after, isWhiteSpace c = true

variable {s t : List Char} {i : Int} {n : Int64}

/-! ### Reading digit by digit -/

/-- A number of digits counts downwards behind a minus. -/
def signed (isNegative : Bool) (n : Nat) : Int :=
  if isNegative then -(n : Int) else n

/-- A number farther from zero than one out of range is out of range. -/
theorem int64?_signed_eq_none {isNegative : Bool} {m n : Nat} (hmn : m ≤ n)
    (hm : int64? (signed isNegative m) = none) : int64? (signed isNegative n) = none := by
  have hmin : Int64.minValue.toInt = -9223372036854775808 := rfl
  have hmax : Int64.maxValue.toInt = 9223372036854775807 := rfl
  simp only [int64?, hmin, hmax, signed, ite_eq_right_iff, reduceCtorEq, imp_false] at hm ⊢
  split <;> simp_all <;> omega

/-- One more digit, and one check for both steps. -/
theorem appendDigit?_eq {isNegative : Bool} {i : Int64} {m : Nat} {c : Char}
    (hi : i.toInt = signed isNegative m) :
    appendDigit? isNegative i c =
      if c.isDigit then int64? (signed isNegative (10 * m + (c.toNat - '0'.toNat))) else none := by
  have htens : i.toInt * 10 = signed isNegative (10 * m) := by
    rw [hi, signed, signed]
    split <;> omega
  rw [appendDigit?, htens]
  cases h : int64? (signed isNegative (10 * m)) with
  | none =>
    rw [int64?_signed_eq_none (Nat.le_add_right ..) h, ite_self]
    rfl
  | some tens =>
    rw [Option.bind_eq_bind, Option.bind_some, int64?_eq_some_iff.1 h, signed, signed]
    cases isNegative with
    | true =>
      have hsub : -((10 * m : Nat) : Int) - Int.ofNat (c.toNat - '0'.toNat) =
          -((10 * m + (c.toNat - '0'.toNat) : Nat) : Int) := by
        rw [Int.ofNat_eq_natCast, Int.natCast_add]
        omega
      simp only [if_true, hsub]
    | false => rfl

theorem foldlM_appendDigit?_eq_some_iff {isNegative : Bool} {i r : Int64} {m : Nat}
    (hi : i.toInt = signed isNegative m) :
    s.foldlM (appendDigit? isNegative) i = some r ↔
      (∀ c ∈ s, c.isDigit = true) ∧ r.toInt = signed isNegative (Nat.ofDigitChars 10 s m) := by
  induction s generalizing i m with
  | nil =>
    rw [List.foldlM_nil, Nat.ofDigitChars_nil, ← hi, Int64.toInt_inj]
    exact ⟨fun h => ⟨List.forall_mem_nil _, (Option.some.inj h).symm⟩,
      fun h => congrArg some h.2.symm⟩
  | cons c s ih =>
    rw [List.foldlM_cons, appendDigit?_eq hi, Nat.ofDigitChars_cons, List.forall_mem_cons]
    by_cases hc : c.isDigit = true
    · rw [if_pos hc]
      cases h : int64? (signed isNegative (10 * m + (c.toNat - '0'.toNat))) with
      | none =>
        -- later digits do not bring the number back into the range
        have hle : 10 * m + (c.toNat - '0'.toNat) ≤
            Nat.ofDigitChars 10 s (10 * m + (c.toNat - '0'.toNat)) := by
          rw [Nat.ofDigitChars_eq_ofDigitChars_zero]
          exact Nat.le_add_right_of_le (Nat.le_mul_of_pos_left _ (Nat.pow_pos (by decide)))
        have hnone := int64?_signed_eq_none hle h
        refine ⟨nofun, fun ⟨_, hr⟩ => ?_⟩
        rw [int64?_eq_some_iff.2 hr] at hnone
        cases hnone
      | some j =>
        rw [Option.bind_eq_bind, Option.bind_some, ih (int64?_eq_some_iff.1 h)]
        simp [hc]
    · rw [if_neg hc]
      exact ⟨nofun, fun h => absurd h.1.1 hc⟩

theorem digits64?_eq_some_iff {isNegative : Bool} :
    digits64? isNegative s = some n ↔ s ≠ [] ∧ (∀ c ∈ s, c.isDigit = true) ∧
      n.toInt = signed isNegative (Nat.ofDigitChars 10 s 0) := by
  have hzero : (0 : Int64).toInt = signed isNegative 0 := by cases isNegative <;> rfl
  rw [digits64?]
  split
  next h => simp_all
  next h =>
    rw [foldlM_appendDigit?_eq_some_iff hzero]
    simp_all

/-- The texts that are read as a 64-bit integer are its numerals. -/
theorem integer64?_eq_some_iff : integer64? s = some n ↔ Numeral s n.toInt := by
  constructor
  · intro h
    unfold integer64? at h
    split at h <;> obtain ⟨hne, hds, hn⟩ := digits64?_eq_some_iff.1 h <;> rw [hn]
    · exact .minus hne hds
    · exact .plus hne hds
    · exact .unsigned hne hds
  · intro h
    generalize hi : n.toInt = i at h
    cases h with
    | plus hne hds | minus hne hds => exact digits64?_eq_some_iff.2 ⟨hne, hds, hi⟩
    | unsigned hne hds =>
      have hs : integer64? s = digits64? false s := by
        unfold integer64?
        split
        · exact absurd (hds '-' List.mem_cons_self) (by decide)
        · exact absurd (hds '+' List.mem_cons_self) (by decide)
        · rfl
      rw [hs]
      exact digits64?_eq_some_iff.2 ⟨hne, hds, hi⟩

/-- The decimal text of an integer denotes it. -/
theorem numeral_integer (i : Int) : Numeral (integer i) i := by
  have hdigits : ∀ n : Nat, ∀ c ∈ Nat.toDigits 10 n, c.isDigit = true := fun n =>
    List.all_eq_true.1 (all_isDigit_toDigits n)
  have hvalue : Nat.ofDigitChars 10 (Nat.toDigits 10 i.natAbs) 0 = i.natAbs :=
    Nat.ofDigitChars_toDigits (by decide) (by decide)
  rw [integer]
  split
  · have h := Numeral.minus Nat.toDigits_ne_nil (hdigits i.natAbs)
    rwa [hvalue, show -(i.natAbs : Int) = i by omega] at h
  · have h := Numeral.unsigned Nat.toDigits_ne_nil (hdigits i.natAbs)
    rwa [hvalue, show (i.natAbs : Int) = i by omega] at h

/-! ### White space -/

theorem isWhiteSpace_of_isDigit {c : Char} (h : c.isDigit = true) : isWhiteSpace c = false := by
  have hc : 48 ≤ c.toNat ∧ c.toNat ≤ 57 := by
    simpa [Char.isDigit, UInt32.le_iff_toNat_le] using h
  simp [isWhiteSpace]
  omega

/-- A numeral holds no white space. -/
theorem Numeral.isWhiteSpace_eq_false (h : Numeral s i) {c : Char} (hc : c ∈ s) :
    isWhiteSpace c = false := by
  cases h with
  | unsigned _ hds => exact isWhiteSpace_of_isDigit (hds c hc)
  | plus _ hds | minus _ hds =>
    obtain rfl | hc := List.mem_cons.1 hc
    · rfl
    · exact isWhiteSpace_of_isDigit (hds c hc)

theorem padded_trim (s : List Char) : Padded s (trim s) := by
  have hfront : ∀ s : List Char, s = s.takeWhile isWhiteSpace ++ trimStart s := fun s =>
    List.takeWhile_append_dropWhile.symm
  have hwhite : ∀ s : List Char, ∀ c ∈ s.takeWhile isWhiteSpace, isWhiteSpace c = true :=
    fun s => List.all_eq_true.1 List.all_takeWhile
  refine ⟨s.takeWhile isWhiteSpace, ((trimStart s).reverse.takeWhile isWhiteSpace).reverse, ?_,
    hwhite s, fun c hc => hwhite _ c (List.mem_reverse.1 hc)⟩
  have hback := congrArg List.reverse (hfront (trimStart s).reverse)
  rw [List.reverse_reverse, List.reverse_append] at hback
  rw [trim, List.append_assoc, ← hback]
  exact hfront s

theorem trimStart_append {l : List Char} (hl : ∀ c ∈ l, isWhiteSpace c = true) (r : List Char) :
    trimStart (l ++ r) = trimStart r :=
  List.dropWhile_append_of_pos hl

theorem trimStart_cons {c : Char} (hc : isWhiteSpace c = false) (r : List Char) :
    trimStart (c :: r) = c :: r :=
  List.dropWhile_cons_of_neg (by simp [hc])

/-- White space at the ends is what trimming takes away, if there is none elsewhere. -/
theorem Padded.trim_eq (h : Padded s t) (ht : ∀ c ∈ t, isWhiteSpace c = false) : trim s = t := by
  obtain ⟨before, after, rfl, hbefore, hafter⟩ := h
  have hreverse : ∀ {l : List Char} {b : Bool}, (∀ c ∈ l, isWhiteSpace c = b) →
      ∀ c ∈ l.reverse, isWhiteSpace c = b :=
    fun hl c hc => hl c (List.mem_reverse.1 hc)
  rw [trim, List.append_assoc, trimStart_append hbefore]
  cases t with
  | nil =>
    have hnone : trimStart after = [] := by simpa [trimStart] using trimStart_append hafter []
    rw [List.nil_append, hnone]
    rfl
  | cons c t =>
    have hlast : trimStart (c :: t).reverse = (c :: t).reverse := by
      cases hr : (c :: t).reverse with
      | nil => rfl
      | cons d r => exact trimStart_cons (hreverse ht d (hr ▸ List.mem_cons_self)) r
    rw [List.cons_append, trimStart_cons (ht c List.mem_cons_self), ← List.cons_append,
      List.reverse_append, trimStart_append (hreverse hafter), hlast, List.reverse_reverse]

end ClassForge.Text
