import ClassForge.Json.Token
import ClassForge.Text.Integer

/-!
# Number literals and their texts

A literal is read back from its text, whatever follows that cannot be a part of it.

## Main definitions

- `Json.IsDigits`, `Json.Literal.WellFormed` — what the parts of a literal are
- `Json.Literal.text` — the text of a literal whose exponent carries its sign
- `Json.Ends` — what may follow a literal

## Main statements

- `Json.literal?_text`, `Json.token?_text` — a literal is read back
-/

namespace ClassForge.Json

/-- One or more decimal digits. -/
structure IsDigits (ds : List Char) : Prop where
  ne_nil : ds ≠ []
  isDigit : ∀ c ∈ ds, c.isDigit = true

/-- The parts of a literal are digits, and there is no superfluous zero at the front. -/
structure Literal.WellFormed (l : Literal) : Prop where
  whole : IsDigits l.whole
  leading : l.whole.head? = some '0' → l.whole = ['0']
  fraction : ∀ ds, l.fraction = some ds → IsDigits ds
  exponent : ∀ e, l.exponent = some e → IsDigits e.2

def signText (isNegative : Bool) : List Char :=
  if isNegative then ['-'] else []

def fractionText : Option (List Char) → List Char
  | none => []
  | some ds => '.' :: ds

def exponentText : Option (Bool × List Char) → List Char
  | none => []
  | some (isNegative, ds) => 'e' :: (if isNegative then '-' else '+') :: ds

/-- The text of a literal, with the sign of a positive exponent. -/
def Literal.text (l : Literal) : List Char :=
  signText l.isNegative ++ (l.whole ++ (fractionText l.fraction ++ exponentText l.exponent))

/-- Whether a literal ends in front of `rest`. -/
def Ends (rest : List Char) : Prop :=
  ∀ c, rest.head? = some c → c.isDigit = false ∧ c ≠ '.' ∧ c ≠ 'e' ∧ c ≠ 'E'

variable {ds rest : List Char} {l : Literal}

theorem isDigits_toDigits (n : Nat) : IsDigits (Nat.toDigits 10 n) :=
  ⟨Nat.toDigits_ne_nil, List.all_eq_true.1 (Text.all_isDigit_toDigits n)⟩

/-! ### Reading the parts -/

theorem digits?_append (h : IsDigits ds) (hrest : ∀ c, rest.head? = some c → c.isDigit = false) :
    digits? (ds ++ rest) = some (ds, rest) := by
  have hnone : rest.takeWhile Char.isDigit = [] ∧ rest.dropWhile Char.isDigit = rest := by
    cases rest with
    | nil => exact ⟨rfl, rfl⟩
    | cons c rest => simp [hrest c rfl]
  simp only [digits?, List.takeWhile_append_of_pos h.isDigit, List.dropWhile_append_of_pos h.isDigit,
    hnone, List.append_nil]
  simp [h.ne_nil]

theorem whole?_append (h : IsDigits ds) (hleading : ds.head? = some '0' → ds = ['0'])
    (hrest : ∀ c, rest.head? = some c → c.isDigit = false) :
    whole? (ds ++ rest) = some (ds, rest) := by
  unfold whole?
  split
  next r heq =>
    obtain ⟨c, ds, rfl⟩ := List.exists_cons_of_ne_nil h.ne_nil
    obtain ⟨rfl, rfl⟩ := List.cons.inj heq
    have hnil : ds = [] := (List.cons.inj (hleading rfl)).2
    subst hnil
    refine if_neg ?_
    cases rest with
    | nil => decide
    | cons c rest => simp [hrest c rfl]
  next => exact digits?_append h hrest

theorem fraction?_append {fraction : Option (List Char)}
    (h : ∀ ds, fraction = some ds → IsDigits ds)
    (hrest : ∀ c, rest.head? = some c → c.isDigit = false ∧ c ≠ '.') :
    fraction? (fractionText fraction ++ rest) = some (fraction, rest) := by
  cases fraction with
  | none =>
    rw [fractionText, List.nil_append]
    unfold fraction?
    split
    · exact absurd rfl (hrest _ rfl).2
    · rfl
  | some ds =>
    rw [fractionText, List.cons_append, fraction?,
      digits?_append (h ds rfl) fun c hc => (hrest c hc).1]
    rfl

theorem exponent?_append {exponent : Option (Bool × List Char)}
    (h : ∀ e, exponent = some e → IsDigits e.2) (hrest : Ends rest) :
    exponent? (exponentText exponent ++ rest) = some (exponent, rest) := by
  cases exponent with
  | none =>
    rw [exponentText, List.nil_append]
    unfold exponent?
    split
    · exact absurd rfl (hrest _ rfl).2.2.1
    · exact absurd rfl (hrest _ rfl).2.2.2
    · rfl
  | some e =>
    obtain ⟨isNegative, ds⟩ := e
    have hdigits := digits?_append (h _ rfl) fun c hc => (hrest c hc).1
    cases isNegative <;>
      · simp only [exponentText, List.cons_append, Bool.false_eq_true, if_true, if_false, exponent?,
          exponentDigits?, hdigits, Option.map_some]

/-! ### Reading a literal -/

theorem head?_exponentText (hrest : Ends rest) (exponent : Option (Bool × List Char)) (c : Char)
    (hc : (exponentText exponent ++ rest).head? = some c) : c.isDigit = false ∧ c ≠ '.' := by
  cases exponent with
  | none => exact (hrest c hc).imp_right And.left
  | some e =>
    obtain rfl := Option.some.inj hc
    decide

theorem head?_fractionText (hrest : Ends rest) (fraction : Option (List Char))
    (exponent : Option (Bool × List Char)) (c : Char)
    (hc : (fractionText fraction ++ (exponentText exponent ++ rest)).head? = some c) :
    c.isDigit = false := by
  cases fraction with
  | none => exact (head?_exponentText hrest exponent c hc).1
  | some ds =>
    obtain rfl := Option.some.inj hc
    decide

theorem unsigned?_append (h : l.WellFormed) (hrest : Ends rest) :
    unsigned? l.isNegative
        (l.whole ++ (fractionText l.fraction ++ (exponentText l.exponent ++ rest))) =
      some (l, rest) := by
  simp only [unsigned?, whole?_append h.whole h.leading (head?_fractionText hrest _ _),
    fraction?_append h.fraction (head?_exponentText hrest _), exponent?_append h.exponent hrest,
    Option.bind_eq_bind, Option.bind_some]
  rfl

/-- A literal is read back from its text. -/
theorem literal?_text (h : l.WellFormed) (hrest : Ends rest) :
    literal? (l.text ++ rest) = some (l, rest) := by
  have hunsigned := unsigned?_append h hrest
  simp only [Literal.text, List.append_assoc]
  cases hneg : l.isNegative with
  | true =>
    rw [hneg] at hunsigned
    exact hunsigned
  | false =>
    rw [hneg] at hunsigned
    rw [signText, if_neg Bool.false_ne_true, List.nil_append]
    unfold literal?
    split
    next s heq =>
      -- a digit is no sign
      obtain ⟨c, ds, hw⟩ := List.exists_cons_of_ne_nil h.whole.ne_nil
      have hc := h.whole.isDigit c (hw ▸ List.mem_cons_self)
      rw [hw, List.cons_append] at heq
      exact absurd ((List.cons.inj heq).1 ▸ hc) (by decide)
    next => exact hunsigned

/-- A literal begins with a sign or a digit. -/
theorem exists_text_eq_cons (h : l.WellFormed) :
    ∃ c s, l.text = c :: s ∧ (c = '-' ∨ c.isDigit = true) := by
  rw [Literal.text, signText]
  split
  · exact ⟨_, _, rfl, .inl rfl⟩
  · obtain ⟨c, ds, hw⟩ := List.exists_cons_of_ne_nil h.whole.ne_nil
    rw [hw]
    exact ⟨c, _, rfl, .inr (h.whole.isDigit c (hw ▸ List.mem_cons_self))⟩

/-- The token of a literal is its value. -/
theorem token?_text (h : l.WellFormed) (hrest : Ends rest) :
    token? (l.text ++ rest) = l.value?.map fun n => (.scalar (.num n), rest) := by
  obtain ⟨c, s, hs, hc⟩ := exists_text_eq_cons h
  have hread := literal?_text h hrest
  rw [hs, List.cons_append] at hread ⊢
  unfold token?
  split
  case h_11 => rw [hread, Option.bind_some]
  all_goals
    next heq =>
    obtain ⟨rfl, -⟩ := List.cons.inj heq
    exact absurd hc (by decide)

theorem isBlank_eq_false {c : Char} (h : c = '-' ∨ c.isDigit = true) : isBlank c = false := by
  rw [← Bool.not_eq_true, isBlank]
  intro hne
  simp only [Bool.or_eq_true, beq_iff_eq] at hne
  obtain ((rfl | rfl) | rfl) | rfl := hne <;> exact absurd h (by decide)

/-- The decimal text of a number has no superfluous zero. -/
theorem head?_toDigits {n : Nat} (hn : n ≠ 0) : (Nat.toDigits 10 n).head? ≠ some '0' := by
  induction n using Nat.strongRecOn with
  | ind n ih =>
    rw [Nat.toDigits_eq_if (by decide)]
    split
    next h =>
      have hone : ∀ d < 10, d ≠ 0 → [d.digitChar].head? ≠ some '0' := by decide
      exact hone n h hn
    next h =>
      have htens : n / 10 ≠ 0 := by omega
      obtain ⟨c, ds, hds⟩ := List.exists_cons_of_ne_nil (Nat.toDigits_ne_nil (n := n / 10) (b := 10))
      have hc := ih (n / 10) (by omega) htens
      rw [hds] at hc ⊢
      exact hc

end ClassForge.Json
