import ClassForge.Toml.Reader

/-!
# Characters of values without quotes

Of the texts that are values without quotes and brackets, only a decimal integer that goes wrong
behind an underscore may hold a quote, and this one has no point.

## Main definitions

- `Toml.Quoteless` — a text without quotes

## Main statements

- `Toml.quoteless_of_scalar?` — a value with a point has no quote
- `Toml.scalar?_table` — a value does not begin with the letter `c`
-/

namespace ClassForge.Toml

/-- Whether a text holds no quote of either kind. -/
def Quoteless (s : List Char) : Prop :=
  ∀ d ∈ s, d ≠ '"' ∧ d ≠ '\x27'

instance : DecidablePred Quoteless := fun s =>
  s.decidableBAll _

variable {n base : Nat} {c : Char} {s t rest : List Char}

@[simp] theorem quoteless_nil : Quoteless [] := by
  simp [Quoteless]

@[simp] theorem quoteless_cons : Quoteless (c :: s) ↔ (c ≠ '"' ∧ c ≠ '\x27') ∧ Quoteless s := by
  simp [Quoteless]

@[simp] theorem quoteless_append : Quoteless (s ++ t) ↔ Quoteless s ∧ Quoteless t := by
  simp only [Quoteless, List.forall_mem_append]

/-- What is taken off at the front may be looked at by itself. -/
theorem Quoteless.of_span {p : Char → Bool} (h : Quoteless (s.takeWhile p))
    (h' : Quoteless (s.dropWhile p)) : Quoteless s := by
  rw [← List.takeWhile_append_dropWhile (p := p) (l := s)]
  exact quoteless_append.2 ⟨h, h'⟩

/-- What stops `dropWhile` is of the other kind. -/
theorem eq_false_of_dropWhile_eq_cons {p : Char → Bool} (h : s.dropWhile p = c :: t) :
    p c = false := by
  simpa [h] using List.head?_dropWhile_not p s

/-- Digits are no quotes. -/
theorem quoteless_of_isDigit (h : ∀ d ∈ s, d.isDigit = true) : Quoteless s := by
  intro d hd
  constructor <;> rintro rfl <;> exact absurd (h _ hd) (by decide)

/-! ### Numbers -/

/-- What stands between digits is an underscore. -/
theorem isDigit_of_ungroup? {p : Char → Bool} (h : ungroup? p s = some t) :
    ∀ d ∈ s, p d = true ∨ d = '_' := by
  fun_induction ungroup? p s generalizing t with
  | case1 | case3 | case5 | case7 => cases h
  | case2 d hd => simp [hd]
  | case4 | case6 =>
    next hd ih =>
    obtain ⟨u, hu, _⟩ := Option.map_eq_some_iff.1 h
    simpa [hd] using ih hu

theorem ungroup?_cons_eq_none {p : Char → Bool} (hc : p c = false) :
    ungroup? p (c :: s) = none := by
  unfold ungroup?
  split <;> simp_all

theorem quoteless_of_ungroup? (h : ungroup? Char.isDigit s = some t) : Quoteless s := by
  intro d hd
  constructor <;> rintro rfl <;> simpa using isDigit_of_ungroup? h _ hd

/-- A sign is neither a point nor a quote. -/
theorem mem_splitSign (hc : c ≠ '-' ∧ c ≠ '+') : c ∈ (splitSign s).2 ↔ c ∈ s := by
  unfold splitSign
  split <;> simp [hc]

theorem quoteless_splitSign : Quoteless (splitSign s).2 ↔ Quoteless s := by
  unfold splitSign
  split <;> simp

theorem point_notMem_of_inBase? {i : Option Int64} (h : inBase? base s = some i) : '.' ∉ s := by
  unfold inBase? at h
  split at h
  next he => simp [List.isEmpty_iff.1 he]
  next =>
    obtain ⟨digits, hd, _⟩ := Option.map_eq_some_iff.1 h
    intro hp
    simpa [isDigitIn, Json.hexDigit?] using isDigit_of_ungroup? hd _ hp

theorem point_notMem_of_isDecimal (h : isDecimal s = true) : '.' ∉ s := by
  intro hp
  rw [← List.takeWhile_append_dropWhile (p := Char.isDigit) (l := s), List.mem_append] at hp
  rcases hp with hp | hp
  · exact absurd (List.all_eq_true.1 List.all_takeWhile _ hp) (by decide)
  · simp only [isDecimal, Bool.and_eq_true] at h
    have h := h.2
    split at h
    next he => simp [he] at hp
    next rest he =>
      have hf : ∀ d ∈ rest, isForeignToIntegers d = false := by simpa using h
      have hp : '.' ∈ rest := by simpa [he] using hp
      exact absurd (hf _ hp) (by decide)
    next => cases h

theorem isDecimal_of_decimal? {k : Option Nat} (h : decimal? s = some k) : isDecimal s = true := by
  unfold decimal? at h
  split at h
  next => cases h
  next hd => simpa using fun he => hd (.inl he)

/-- An integer has no point. -/
theorem point_notMem_of_integer? {i : Option Int64} (h : integer? s = some i) : '.' ∉ s := by
  unfold integer? at h
  split at h
  · simpa using point_notMem_of_inBase? h
  · simpa using point_notMem_of_inBase? h
  · simpa using point_notMem_of_inBase? h
  · obtain ⟨k, hk, _⟩ := Option.map_eq_some_iff.1 h
    rw [← mem_splitSign (by decide)]
    exact point_notMem_of_isDecimal (isDecimal_of_decimal? hk)

theorem quoteless_of_exponent? {e : Int} (h : exponent? s = some e) : Quoteless s := by
  obtain ⟨digits, hd, _⟩ := Option.map_eq_some_iff.1 h
  exact quoteless_splitSign.1 (quoteless_of_ungroup? hd)

/-- The mark of an exponent is no quote. -/
theorem quoteless_of_isExponentMark (hc : isExponentMark c = true) {e : Int}
    (h : exponent? s = some e) : Quoteless (c :: s) := by
  refine quoteless_cons.2 ⟨?_, quoteless_of_exponent? h⟩
  constructor <;> rintro rfl <;> cases hc

theorem quoteless_of_unsignedFloat? {isNegative : Bool} {x : Option Binary64}
    (h : unsignedFloat? isNegative s = some x) : Quoteless s := by
  obtain ⟨whole, hw, h⟩ := Option.bind_eq_some_iff.1 h
  obtain ⟨digits, hd, _⟩ := Option.bind_eq_some_iff.1 hw
  refine .of_span (quoteless_of_ungroup? hd) ?_
  split at h
  next s' he =>
    obtain ⟨fraction, hf, h⟩ := Option.bind_eq_some_iff.1 h
    suffices Quoteless s' by simpa [he] using this
    refine .of_span (quoteless_of_ungroup? hf) ?_
    split at h
    next he => simp [he]
    next mark s'' he =>
      obtain ⟨e, hx, _⟩ := Option.bind_eq_some_iff.1 h
      have hm : isExponentMark mark = true := by simpa using eq_false_of_dropWhile_eq_cons he
      exact he ▸ quoteless_of_isExponentMark hm hx
  next mark s' hp he =>
    obtain ⟨e, hx, _⟩ := Option.bind_eq_some_iff.1 h
    have hm : isExponentMark mark = true := by
      have := eq_false_of_dropWhile_eq_cons he
      simp_all
    exact he ▸ quoteless_of_isExponentMark hm hx
  next => cases h

theorem quoteless_of_float? {x : Option Binary64} (h : float? s = some x) : Quoteless s := by
  rw [← quoteless_splitSign]
  simp only [float?] at h
  split at h
  next he =>
    rw [he]
    decide
  next =>
    split at h
    next he =>
      rw [he]
      decide
    next => exact quoteless_of_unsignedFloat? h

/-! ### Dates and times -/

theorem quoteless_of_fixedDigits? {v : Nat} (h : fixedDigits? n s = some (v, rest))
    (hr : Quoteless rest) : Quoteless s := by
  obtain ⟨v', hv, h⟩ := Option.bind_eq_some_iff.1 h
  obtain ⟨_, h⟩ := Option.ite_none_right_eq_some.1 h
  cases h
  have hd : ∀ d ∈ s.take n, d.isDigit = true :=
    List.all_eq_true.1 (Option.ite_none_right_eq_some.1 hv).1.2
  rw [← List.take_append_drop n s]
  exact quoteless_append.2 ⟨quoteless_of_isDigit hd, hr⟩

theorem quoteless_of_char? (h : char? c s = some rest) (hc : c ≠ '"' ∧ c ≠ '\x27')
    (hr : Quoteless rest) : Quoteless s := by
  unfold char? at h
  split at h
  next =>
    obtain ⟨hd, h⟩ := Option.ite_none_right_eq_some.1 h
    cases h
    exact quoteless_cons.2 ⟨hd ▸ hc, hr⟩
  next => cases h

theorem quoteless_of_date {d : Date} (h : Date.read? s = some (d, rest)) (hr : Quoteless rest) :
    Quoteless s := by
  obtain ⟨⟨year, s₁⟩, h₁, h⟩ := Option.bind_eq_some_iff.1 h
  obtain ⟨s₂, h₂, h⟩ := Option.bind_eq_some_iff.1 h
  obtain ⟨⟨month, s₃⟩, h₃, h⟩ := Option.bind_eq_some_iff.1 h
  obtain ⟨s₄, h₄, h⟩ := Option.bind_eq_some_iff.1 h
  obtain ⟨⟨day, s₅⟩, h₅, h⟩ := Option.bind_eq_some_iff.1 h
  obtain ⟨_, h⟩ := Option.ite_none_right_eq_some.1 h
  cases h
  refine quoteless_of_fixedDigits? h₁ (quoteless_of_char? h₂ (by decide) ?_)
  refine quoteless_of_fixedDigits? h₃ (quoteless_of_char? h₄ (by decide) ?_)
  exact quoteless_of_fixedDigits? h₅ hr

theorem quoteless_of_seconds? {v : Nat × Nat} (h : seconds? s = some (v, rest))
    (hr : Quoteless rest) : Quoteless s := by
  unfold seconds? at h
  split at h
  next s =>
    obtain ⟨⟨second, s₁⟩, h₁, h⟩ := Option.bind_eq_some_iff.1 h
    suffices Quoteless s₁ by simpa using quoteless_of_fixedDigits? h₁ this
    dsimp only at h
    split at h
    next s₂ =>
      obtain ⟨_, h⟩ := Option.ite_none_left_eq_some.1 h
      cases h
      have hd : ∀ d ∈ s₂.takeWhile Char.isDigit, d.isDigit = true :=
        List.all_eq_true.1 List.all_takeWhile
      simpa using Quoteless.of_span (quoteless_of_isDigit hd) hr
    next =>
      cases h
      exact hr
  next =>
    cases h
    exact hr

theorem quoteless_of_time {t : Time} (h : Time.read? s = some (t, rest)) (hr : Quoteless rest) :
    Quoteless s := by
  obtain ⟨⟨hour, s₁⟩, h₁, h⟩ := Option.bind_eq_some_iff.1 h
  obtain ⟨s₂, h₂, h⟩ := Option.bind_eq_some_iff.1 h
  obtain ⟨⟨minute, s₃⟩, h₃, h⟩ := Option.bind_eq_some_iff.1 h
  obtain ⟨⟨_, s₄⟩, h₄, h⟩ := Option.bind_eq_some_iff.1 h
  obtain ⟨_, h⟩ := Option.ite_none_right_eq_some.1 h
  cases h
  refine quoteless_of_fixedDigits? h₁ (quoteless_of_char? h₂ (by decide) ?_)
  exact quoteless_of_fixedDigits? h₃ (quoteless_of_seconds? h₄ hr)

theorem quoteless_of_offsetMinutes? (h : offsetMinutes? s = some n) : Quoteless s := by
  obtain ⟨⟨hours, s₁⟩, h₁, h⟩ := Option.bind_eq_some_iff.1 h
  obtain ⟨s₂, h₂, h⟩ := Option.bind_eq_some_iff.1 h
  obtain ⟨⟨minutes, s₃⟩, h₃, h⟩ := Option.bind_eq_some_iff.1 h
  obtain ⟨he, _⟩ := Option.ite_none_right_eq_some.1 h
  have he : s₃ = [] := by simp_all
  refine quoteless_of_fixedDigits? h₁ (quoteless_of_char? h₂ (by decide) ?_)
  exact quoteless_of_fixedDigits? h₃ (by simp [he])

theorem quoteless_of_ofParts? {d : Date} {t : Time} {r : DateTime}
    (h : DateTime.ofParts? d t s = some r) : Quoteless s := by
  unfold DateTime.ofParts? at h
  split at h
  · exact quoteless_nil
  · decide
  · decide
  · obtain ⟨n, hn, _⟩ := Option.map_eq_some_iff.1 h
    simpa using quoteless_of_offsetMinutes? hn
  · obtain ⟨n, hn, _⟩ := Option.map_eq_some_iff.1 h
    simpa using quoteless_of_offsetMinutes? hn
  · cases h

theorem quoteless_of_dateTime {r : DateTime} (h : DateTime.read? s = some r) : Quoteless s := by
  unfold DateTime.read? at h
  split at h
  next d hd => exact quoteless_of_date hd quoteless_nil
  next d c rest hd =>
    obtain ⟨hc, h⟩ := Option.ite_none_right_eq_some.1 h
    obtain ⟨⟨t, s₁⟩, h₁, h⟩ := Option.bind_eq_some_iff.1 h
    have hq : c ≠ '"' ∧ c ≠ '\x27' := by
      constructor <;> rintro rfl <;> cases hc
    have hr := quoteless_of_time h₁ (quoteless_of_ofParts? h)
    exact quoteless_of_date hd (quoteless_cons.2 ⟨hq, hr⟩)
  next =>
    obtain ⟨⟨t, s₁⟩, h₁, h⟩ := Option.bind_eq_some_iff.1 h
    obtain ⟨he, _⟩ := Option.ite_none_right_eq_some.1 h
    exact quoteless_of_time h₁ (by simp [List.isEmpty_iff.1 he])

/-! ### Values -/

/-- A value without quotes around it has no quotes inside either, if it has a point. -/
theorem quoteless_of_scalar? {i : Item} (h : scalar? s = some i) (hp : '.' ∈ s) : Quoteless s := by
  unfold scalar? at h
  split at h
  next he =>
    rw [he]
    decide
  split at h
  next he =>
    rw [he]
    decide
  next =>
    rcases Option.or_eq_some_iff.1 h with h | ⟨_, h⟩
    · obtain ⟨k, hk, _⟩ := Option.map_eq_some_iff.1 h
      exact absurd hp (point_notMem_of_integer? hk)
    rcases Option.or_eq_some_iff.1 h with h | ⟨_, h⟩
    · obtain ⟨x, hx, _⟩ := Option.map_eq_some_iff.1 h
      exact quoteless_of_float? hx
    · obtain ⟨r, hr, _⟩ := Option.map_eq_some_iff.1 h
      exact quoteless_of_dateTime hr

/-- No value without quotes begins with `c`, as the names of class headers do. -/
theorem scalar?_table (s : List Char) : scalar? ('c' :: s) = none := by
  have hd : ∀ n, fixedDigits? (n + 1) ('c' :: s) = none := by
    intro n
    simp [fixedDigits?, Text.natural?]
  have hi : integer? ('c' :: s) = none := by
    simp [integer?, splitSign, decimal?, isDecimal]
  have hf : float? ('c' :: s) = none := by
    have hc : isExponentMark 'c' = false := rfl
    have hu : ∀ t, ungroup? Char.isDigit ('c' :: t) = none := fun _ => ungroup?_cons_eq_none rfl
    simp [float?, splitSign, unsignedFloat?, decimalDigits?, hc, hu]
  simp [scalar?, hi, hf, DateTime.read?, Date.read?, Time.read?, hd]

end ClassForge.Toml
