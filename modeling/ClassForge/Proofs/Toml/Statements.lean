import ClassForge.Proofs.Toml.Passage

/-!
# The statements of a document

A document is read statement by statement, each at the start of a line. A bracket with the letter
`c` behind it that stands outside of comments and strings belongs to one of the headers.

## Main definitions

- `Toml.ComesTo` — the statements that reading comes to
- `Toml.HasStatement` — the statements of a document
- `Toml.Indented` — a place with nothing but blanks before it in its line

## Main statements

- `Toml.exists_statement_of_outside` — such a bracket opens a statement
- `Toml.HasStatement.indented` — a statement begins a line
-/

namespace ClassForge.Toml

open Text (byteLength)

/-- Whether reading the lines of `s₀` comes to the statement `st`, at the front of `s`. -/
inductive ComesTo (total fuel : Nat) (s : List Char) (st : Statement) : List Char → Prop
  | here {s₀ rest : List Char} (hg : gap? false s₀ = some s)
      (h : statement? total fuel s = some (st, rest)) : ComesTo total fuel s st s₀
  | next {s₀ s₁ s₂ rest : List Char} {st₁ : Statement} (hg : gap? false s₀ = some s₁)
      (h : statement? total fuel s₁ = some (st₁, rest)) (hl : lineEnd? false rest = some s₂)
      (ht : ComesTo total fuel s st s₂) : ComesTo total fuel s st s₀

/-- Whether `st` is a statement of the document that `text` holds, and stands at the front of `s`,
an end of the text. -/
def HasStatement (text s : List Char) (st : Statement) : Prop :=
  ComesTo (byteLength text) (2 * text.length + 2) s st (dropMark text)

variable {total fuel : Nat} {st : Statement} {p s s₀ t text rest : List Char}

/-! ### Brackets outside of comments and strings -/

/-- In a text that is read to its end, a bracket outside that has `c` behind it is the first or the
second character of a statement. -/
theorem exists_comesTo_of_outside {rounds : Nat} {l l' : Layer}
    (h : statements? total fuel rounds l s₀ = some l') (ho : Outside s₀ t) (ht : ['[', 'c'] <+: t) :
    ∃ s st, ComesTo total fuel s st s₀ ∧ (s = t ∨ s = '[' :: t) := by
  induction rounds generalizing l s₀ with
  | zero => cases h
  | succ rounds ih =>
    obtain ⟨s, hg, h⟩ := Option.bind_eq_some_iff.1 h
    have ho := (passes_of_gap? hg).outside_of_outside ho ht
    split at h
    next =>
      rw [List.suffix_nil.1 (suffix_of_outside ho)] at ht
      cases List.prefix_nil.1 ht
    next =>
      obtain ⟨⟨st, rest⟩, hs, h⟩ := Option.bind_eq_some_iff.1 h
      obtain ⟨l₁, _, h⟩ := Option.bind_eq_some_iff.1 h
      obtain ⟨s₂, hl, h⟩ := Option.bind_eq_some_iff.1 h
      rcases statement_cases hs ho ht with he | he | ho
      · exact ⟨s, st, .here hg hs, .inl he⟩
      · exact ⟨s, st, .here hg hs, .inr he⟩
      · have ho := (passes_of_lineEnd? hl).outside_of_outside ho ht
        obtain ⟨s', st', hc, he⟩ := ih h ho
        exact ⟨s', st', .next hg hs hl hc, he⟩

theorem exists_statement_of_outside {root : Section} (h : read? text = some root)
    (ho : Outside (dropMark text) t) (ht : ['[', 'c'] <+: t) :
    ∃ s st, HasStatement text s st ∧ (s = t ∨ s = '[' :: t) := by
  obtain ⟨l, hl, _⟩ := Option.bind_eq_some_iff.1 h
  exact exists_comesTo_of_outside hl ho ht

/-! ### Lines -/

/-- Whether a place begins a line. The first line of a text may have a byte order mark before it. -/
def StartsLine (before : List Char) : Prop :=
  before = [] ∨ before = ['\ufeff'] ∨ ['\n'] <:+ before

/-- Whether nothing but blanks are before a place in its line. -/
def Indented (before : List Char) : Prop :=
  ∃ lines blanks, before = lines ++ blanks ∧ StartsLine lines ∧ ∀ d ∈ blanks, isBlank d = true

theorem StartsLine.indented (h : StartsLine p) : Indented p :=
  ⟨p, [], by simp, h, by simp⟩

theorem startsLine_append (p : List Char) : StartsLine (p ++ ['\n']) :=
  .inr (.inr (List.suffix_append p ['\n']))

theorem Indented.append {d : Char} (h : Indented p) (hd : isBlank d = true) :
    Indented (p ++ [d]) := by
  obtain ⟨lines, blanks, rfl, hl, hb⟩ := h
  refine ⟨lines, blanks ++ [d], by simp, hl, ?_⟩
  simpa [or_imp, forall_and, hd] using hb

/-- In the first line only a byte order mark may stand before the blanks. -/
theorem Indented.isBlank_of_notMem (h : Indented p) (hn : '\n' ∉ p) :
    ∀ d ∈ p, isBlank d = true ∨ d = '\ufeff' := by
  obtain ⟨lines, blanks, rfl, hl, hb⟩ := h
  intro d hd
  rcases List.mem_append.1 hd with hd | hd
  · rcases hl with rfl | rfl | hl
    · cases hd
    · exact .inr (List.mem_singleton.1 hd)
    · exact absurd (List.mem_append_left _ (hl.subset List.mem_cons_self)) hn
  · exact .inl (hb d hd)

/-- Dropping blanks, line breaks and comments leads to a place with only blanks before it in its
line, unless it leads to the end of the text. -/
theorem indented_of_gap? {inComment : Bool} (h : gap? inComment s₀ = some s) (hs : s ≠ [])
    (hp : inComment = false → Indented p) : ∃ q, p ++ s₀ = q ++ s ∧ Indented q := by
  fun_induction gap? inComment s₀ generalizing p with
  | case1 =>
    cases h
    exact absurd rfl hs
  | case2 _ r ih =>
    have hl : Indented (p ++ ['\r', '\n']) := by
      simpa using (startsLine_append (p ++ ['\r'])).indented
    simpa using ih h fun _ => hl
  | case3 _ r ih => simpa using ih h fun _ => (startsLine_append p).indented
  | case4 => cases h
  | case5 d r _ _ _ ih => simpa using @ih (p ++ [d]) h (by simp)
  | case6 _ d r _ _ _ _ ih => simpa using @ih (p ++ [d]) h (by simp)
  | case7 inComment d r _ _ hi _ hb ih =>
    simpa using ih h fun _ => (hp (by simpa using hi)).append hb
  | case8 inComment d r _ _ hi =>
    cases h
    exact ⟨p, rfl, hp (by simpa using hi)⟩

theorem startsLine_of_lineEnd? {inComment : Bool} (h : lineEnd? inComment s = some rest)
    (hr : rest ≠ []) : ∃ q, p ++ s = q ++ rest ∧ StartsLine q := by
  fun_induction lineEnd? inComment s generalizing p with
  | case1 =>
    cases h
    exact absurd rfl hr
  | case2 =>
    cases h
    exact ⟨p ++ ['\r', '\n'], by simp, by simpa using startsLine_append (p ++ ['\r'])⟩
  | case3 =>
    cases h
    exact ⟨p ++ ['\n'], by simp, startsLine_append p⟩
  | case4 | case8 => cases h
  | case5 d r _ _ _ ih => simpa using @ih (p ++ [d]) h
  | case6 _ d r _ _ _ _ ih => simpa using @ih (p ++ [d]) h
  | case7 _ d r _ _ _ _ _ ih => simpa using @ih (p ++ [d]) h

theorem statement?_nil : statement? total fuel [] = none :=
  rfl

theorem ComesTo.ne_nil (h : ComesTo total fuel s st s₀) : s₀ ≠ [] := by
  rintro rfl
  cases h with
  | here hg h | next hg h =>
    cases hg
    cases statement?_nil.symm.trans h

theorem ComesTo.indented (h : ComesTo total fuel s st s₀) (hp : StartsLine p) :
    ∃ q, p ++ s₀ = q ++ s ∧ Indented q := by
  induction h generalizing p with
  | here hg h =>
    refine indented_of_gap? hg ?_ fun _ => hp.indented
    rintro rfl
    cases statement?_nil.symm.trans h
  | @next s₀ s₁ s₂ rest st₁ hg h hl ht ih =>
    obtain ⟨w₁, rfl⟩ : s₁ <:+ s₀ := suffix_of_outside (passes_of_gap? (c := 'c') hg).outside
    obtain ⟨w₂, rfl⟩ := suffix_of_statement? h
    obtain ⟨q, he, hq⟩ := startsLine_of_lineEnd? (p := p ++ w₁ ++ w₂) hl ht.ne_nil
    simpa [← he] using ih hq

theorem ComesTo.statement? (h : ComesTo total fuel s st s₀) :
    ∃ rest, statement? total fuel s = some (st, rest) := by
  induction h with
  | here _ h => exact ⟨_, h⟩
  | next _ _ _ _ ih => exact ih

theorem HasStatement.statement? (h : HasStatement text s st) :
    ∃ rest, statement? (byteLength text) (2 * text.length + 2) s = some (st, rest) :=
  ComesTo.statement? h

/-- Only blanks stand before a statement in its line. -/
theorem HasStatement.indented (h : HasStatement text s st) :
    ∃ before, text = before ++ s ∧ Indented before := by
  have hm : ∃ p, StartsLine p ∧ text = p ++ dropMark text := by
    unfold dropMark
    split
    · exact ⟨['\ufeff'], .inr (.inl rfl), rfl⟩
    · exact ⟨[], .inl rfl, rfl⟩
  obtain ⟨p, hp, he⟩ := hm
  rw [he]
  exact ComesTo.indented h hp

end ClassForge.Toml
