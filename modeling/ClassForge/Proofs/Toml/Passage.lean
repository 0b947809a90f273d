import ClassForge.Proofs.Toml.Outside
import ClassForge.Proofs.Toml.Scalar

/-!
# What readers pass

A reader that succeeds goes from a place outside of comments and strings to another one, and in
between does not come to a bracket with the letter `c` behind it, unless this is the header of a
table that it reads: no value begins with this letter.

## Main statements

- `Toml.passes_of_gap?`, `Toml.passes_of_lineEnd?` — blanks and comments
- `Toml.passes_or_of_key?` — keys, if what follows cannot go on with them
- `Toml.passes_of_value?` — values
- `Toml.statement_cases` — statements
-/

namespace ClassForge.Toml

open Text (Span)

variable {c : Char} {total fuel depth : Nat} {s t rest : List Char}

/-! ### Blanks and comments -/

theorem isWordChar_of_isBlank (h : isBlank c = true) : isWordChar c = false := by
  simp [isWordChar, endsWord, h]

theorem Passes.blank {d : Char} (h : isBlank d = true) (s : List Char) : Passes c (d :: s) s :=
  .mark (isWordChar_of_isBlank h) (by constructor <;> rintro rfl <;> cases h) s

/-- A comment leads to the end of its line. -/
theorem Passes.comment (h : Passes c (s.dropWhile (· != '\n')) rest) : Passes c ('#' :: s) rest :=
  .trans (.step (by decide) rfl) h

/-- A line break leads to the next line, also from inside a comment. -/
theorem Passes.lineBreak (inComment : Bool) (h : Passes c s rest) :
    Passes c (if inComment then ('\n' :: s).dropWhile (· != '\n') else '\n' :: s) rest := by
  have hn : Passes c ('\n' :: s) rest := .trans (.mark rfl (by decide) s) h
  cases inComment with
  | true => exact hn
  | false => exact hn

theorem Passes.longLineBreak (inComment : Bool) (h : Passes c s rest) :
    Passes c (if inComment then ('\r' :: '\n' :: s).dropWhile (· != '\n') else '\r' :: '\n' :: s)
      rest := by
  cases inComment with
  | true => exact .lineBreak true h
  | false => exact .trans (.mark rfl (by decide) _) (.lineBreak false h)

theorem passes_of_gap?_aux {inComment : Bool} (h : gap? inComment s = some rest) :
    Passes c (if inComment then s.dropWhile (· != '\n') else s) rest := by
  fun_induction gap? inComment s with
  | case1 =>
    cases h
    simpa using Passes.refl _
  | case2 inComment s ih => exact .longLineBreak inComment (ih h)
  | case3 inComment s ih => exact .lineBreak inComment (ih h)
  | case4 => cases h
  | case5 d s _ hn _ ih =>
    have hd : d ≠ '\n' := hn
    simpa [hd] using ih h
  | case6 inComment d s _ _ hi hd ih =>
    obtain rfl : d = '#' := by simpa using hd
    simpa [hi] using Passes.comment (ih h)
  | case7 inComment d s _ _ hi _ hb ih =>
    simpa [hi] using Passes.trans (.blank hb s) (ih h)
  | case8 inComment d s _ _ hi =>
    cases h
    simpa [hi] using Passes.refl _

theorem passes_of_gap? (h : gap? false s = some rest) : Passes c s rest :=
  passes_of_gap?_aux h

theorem passes_of_lineEnd?_aux {inComment : Bool} (h : lineEnd? inComment s = some rest) :
    Passes c (if inComment then s.dropWhile (· != '\n') else s) rest := by
  fun_induction lineEnd? inComment s with
  | case1 =>
    cases h
    simpa using Passes.refl _
  | case2 inComment s =>
    cases h
    exact .longLineBreak inComment (.refl rest)
  | case3 inComment s =>
    cases h
    exact .lineBreak inComment (.refl rest)
  | case4 | case8 => cases h
  | case5 d s _ hn _ ih =>
    have hd : d ≠ '\n' := hn
    simpa [hd] using ih h
  | case6 inComment d s _ _ hi hd ih =>
    obtain rfl : d = '#' := by simpa using hd
    simpa [hi] using Passes.comment (ih h)
  | case7 inComment d s _ _ hi _ hb ih =>
    simpa [hi] using Passes.trans (.blank hb s) (ih h)

theorem passes_of_lineEnd? (h : lineEnd? false s = some rest) : Passes c s rest :=
  passes_of_lineEnd?_aux h

theorem passes_skipBlanks (s : List Char) : Passes c s (skipBlanks s) := by
  induction s with
  | nil => exact .refl _
  | cons d s ih =>
    by_cases hd : isBlank d = true
    · simpa [skipBlanks, hd] using Passes.trans (.blank hd s) ih
    · simpa [skipBlanks, hd] using Passes.refl _

/-! ### Keys -/

/-- Whether a text goes on with a word. -/
def GoesOn (s : List Char) : Prop :=
  ∃ d s', s = d :: s' ∧ isWordChar d = true

theorem not_goesOn_cons {d : Char} (hd : isWordChar d = false) (s : List Char) :
    ¬ GoesOn (d :: s) := by
  rintro ⟨d', s', h, hd'⟩
  cases h
  simp [hd] at hd'

theorem isWordChar_of_isBareKey (h : isBareKey c = true) : isWordChar c = true := by
  rw [← Bool.not_eq_false]
  intro hw
  have hc : c ∈ [' ', '\t', ',', '=', '[', ']', '{', '}', '#', '\n', '\r', '.'] := by
    simp only [isWordChar, endsWord, isBlank, Bool.not_eq_false', Bool.or_eq_true, beq_iff_eq] at hw
    simpa only [List.mem_cons, List.not_mem_nil, or_false, or_assoc] using hw
  have hd : ∀ d ∈ [' ', '\t', ',', '=', '[', ']', '{', '}', '#', '\n', '\r', '.'],
      isBareKey d = false := by simp [isBareKey]
  exact Bool.false_ne_true ((hd c hc).symm.trans h)

/-- The word of a bare key ends where the key does, if it does not go on. -/
theorem dropWhile_isWordChar (h : ¬ GoesOn (s.dropWhile isBareKey)) :
    s.dropWhile isWordChar = s.dropWhile isBareKey := by
  induction s with
  | nil => rfl
  | cons d s ih =>
    by_cases hd : isBareKey d = true
    · rw [List.dropWhile_cons_of_pos hd] at h ⊢
      rw [List.dropWhile_cons_of_pos (isWordChar_of_isBareKey hd), ih h]
    · rw [List.dropWhile_cons_of_neg hd] at h ⊢
      exact List.dropWhile_cons_of_neg fun hw => h ⟨d, s, rfl, hw⟩

/-- Behind an empty string a third quote opens a string over several lines. -/
theorem passes_or_of_keyPart? (h : keyPart? s = some (t, rest)) :
    Passes c s rest ∨ GoesOn rest := by
  unfold keyPart? at h
  split at h
  next s =>
    by_cases hq : ∃ s', s = '"' :: '"' :: s'
    · obtain ⟨s', rfl⟩ := hq
      cases h
      exact .inr ⟨'"', s', rfl, rfl⟩
    · refine .inl (.step (by decide) ?_)
      simp only [not_exists] at hq
      simp [skip?, h]
  next s =>
    by_cases hq : ∃ s', s = '\x27' :: '\x27' :: s'
    · obtain ⟨s', rfl⟩ := hq
      cases h
      exact .inr ⟨'\x27', s', rfl, rfl⟩
    · refine .inl (.step (by decide) ?_)
      simp only [not_exists] at hq
      simp [skip?, h]
  next hd hl =>
    obtain ⟨hn, h⟩ := Option.ite_none_left_eq_some.1 h
    cases h
    by_cases hg : GoesOn (s.dropWhile isBareKey)
    · exact .inr hg
    cases s with
    | nil => exact absurd rfl hn
    | cons d s =>
      by_cases hb : isBareKey d = true
      · have hq : d ≠ '"' ∧ d ≠ '\x27' := by
          constructor <;> rintro rfl <;> cases hb
        have ho : d ≠ '[' := by
          rintro rfl
          cases hb
        rw [List.dropWhile_cons_of_pos hb] at hg ⊢
        rw [← dropWhile_isWordChar hg]
        exact .inl (.step ho (skip?_word (isWordChar_of_isBareKey hb) hq s))
      · simp [hb] at hn

/-- What goes on with a word does so in front of its blanks only. -/
theorem GoesOn.skipBlanks (h : GoesOn s) : skipBlanks s = s := by
  obtain ⟨d, s', rfl, hd⟩ := h
  refine List.dropWhile_cons_of_neg fun hb => ?_
  simp [isWordChar_of_isBlank hb] at hd

theorem GoesOn.gap? (h : GoesOn s) : gap? false s = some s := by
  obtain ⟨d, s', rfl, hd⟩ := h
  have hl : d ≠ '\r' ∧ d ≠ '\n' ∧ d ≠ '#' := by
    refine ⟨?_, ?_, ?_⟩ <;> rintro rfl <;> cases hd
  have hb : isBlank d = false := by
    rw [← Bool.not_eq_true]
    intro hb
    simp [isWordChar_of_isBlank hb] at hd
  simp [Toml.gap?, hl, hb]

theorem passes_or_of_parts? {limit : Nat} {path : Path}
    (h : parts? total limit s = some (path, rest)) : Passes c s rest ∨ GoesOn rest := by
  induction limit generalizing s path with
  | zero => cases h
  | succ limit ih =>
    obtain ⟨⟨name, s₁⟩, h₁, h⟩ := Option.bind_eq_some_iff.1 h
    dsimp only at h
    split at h
    next s₂ he =>
      obtain ⟨⟨path', s₃⟩, h₃, h⟩ := Option.bind_eq_some_iff.1 h
      cases h
      refine (ih h₃).imp_left fun hp => ?_
      rcases passes_or_of_keyPart? (c := c) h₁ with h₁ | hg
      · have hs := he ▸ passes_skipBlanks (c := c) s₁
        exact ((h₁.trans hs).trans (.mark rfl (by decide) s₂)).trans
          ((passes_skipBlanks s₂).trans hp)
      · rw [hg.skipBlanks] at he
        exact absurd (he ▸ hg) (not_goesOn_cons rfl s₂)
    next s₂ he =>
      cases h
      rcases passes_or_of_keyPart? (c := c) h₁ with h₁ | hg
      · exact .inl (h₁.trans (passes_skipBlanks s₁))
      · exact .inr (hg.skipBlanks.symm ▸ hg)

theorem passes_or_of_key? {path : Path} (h : key? total s = some (path, rest)) :
    Passes c s rest ∨ GoesOn rest :=
  passes_or_of_parts? h

/-- What an equals sign follows does not go on with a word. -/
theorem passes_of_equals {path : Path} (h : key? total s = some (path, t))
    (he : gap? false t = some ('=' :: rest)) : Passes c s rest := by
  have hs : Passes c s t := by
    refine (passes_or_of_key? h).resolve_right fun hg => ?_
    obtain rfl : t = '=' :: rest := Option.some_inj.1 (hg.gap?.symm.trans he)
    exact not_goesOn_cons rfl rest hg
  exact (hs.trans (passes_of_gap? he)).trans (.mark rfl (by decide) rest)

/-! ### Values -/

theorem endsWord_of_isWordChar (h : isWordChar c = true) : endsWord c = false := by
  simp only [isWordChar, Bool.not_eq_true', Bool.or_eq_false_iff] at h
  exact h.1

/-- A word in front is part of a value without quotes. -/
theorem scalarText_word {w : List Char} (hw : ∀ d ∈ w, isWordChar d = true) (s : List Char) :
    scalarText (w ++ s) = (w ++ (scalarText s).1, (scalarText s).2) := by
  induction w with
  | nil => rfl
  | cons d w ih =>
    obtain ⟨hd, hw⟩ := List.forall_mem_cons.1 hw
    simp [scalarText, endsWord_of_isWordChar hd, ih hw]

/-- Whether a text does not begin with a quote. -/
def Unquoted (s : List Char) : Prop :=
  ∀ d s', s = d :: s' → d ≠ '"' ∧ d ≠ '\x27'

theorem unquoted_of_hasWord (h : hasWord s = true) : Unquoted s := by
  rintro d s' rfl
  constructor <;> rintro rfl <;> cases h

/-- A value without quotes is passed word by word. Behind a point it does not go on with a quote. -/
theorem passes_scalarText {s : List Char} (hq : Unquoted s)
    (hp : '.' ∈ (scalarText s).1 → Quoteless (scalarText s).1) : Passes c s (scalarText s).2 := by
  cases s with
  | nil => exact .refl _
  | cons d s =>
    rw [scalarText] at hp ⊢
    split
    next => exact .refl _
    next he =>
    rw [if_neg he] at hp
    by_cases hb : isBlank d = true
    · have hs : hasWord s = true := by simpa [endsWord, hb] using he
      refine .trans (.blank hb s) (passes_scalarText (unquoted_of_hasWord hs) fun h => ?_)
      exact (quoteless_cons.1 (hp (List.mem_cons_of_mem d h))).2
    by_cases hd : d = '.'
    · have ht := (quoteless_cons.1 (hp (hd ▸ List.mem_cons_self))).2
      have hs : Unquoted s := by
        rintro q s' rfl
        constructor <;> rintro rfl <;> simp [scalarText, endsWord, isBlank] at ht
      exact .trans (.mark (hd ▸ rfl) (hd ▸ by decide) s) (passes_scalarText hs fun _ => ht)
    · have hw : isWordChar d = true := by
        simpa [isWordChar, hd, hb] using he
      have hl : (s.dropWhile isWordChar).length < s.length + 1 :=
        Nat.lt_succ_of_le (List.dropWhile_suffix isWordChar).length_le
      have hs : Unquoted (s.dropWhile isWordChar) := by
        intro q s' he
        have := eq_false_of_dropWhile_eq_cons he
        constructor <;> rintro rfl <;> cases this
      have hall : ∀ e ∈ s.takeWhile isWordChar, isWordChar e = true :=
        List.all_eq_true.1 List.all_takeWhile
      have ht := scalarText_word hall (s.dropWhile isWordChar)
      rw [List.takeWhile_append_dropWhile] at ht
      rw [ht] at hp ⊢
      have ho : d ≠ '[' := by
        rintro rfl
        cases hw
      refine .trans (.step ho (skip?_word hw (hq d s rfl) s)) (passes_scalarText hs fun h => ?_)
      have h' := hp (List.mem_cons_of_mem d (List.mem_append_right _ h))
      exact (quoteless_append.1 (quoteless_cons.1 h').2).2
termination_by s.length

theorem passes_of_scalar? {i : Item} (hq : Unquoted s) (h : scalar? (scalarText s).1 = some i) :
    Passes c s (scalarText s).2 :=
  passes_scalarText hq (quoteless_of_scalar? h)

/-- No value begins with `c`. -/
theorem value?_table (s : List Char) : value? total fuel depth ('c' :: s) = none := by
  cases fuel with
  | zero => rfl
  | succ fuel =>
    have hc : scalarText ('c' :: s) = ('c' :: (scalarText s).1, (scalarText s).2) := rfl
    simp [value?, hc, scalar?_table]

theorem items?_table (s : List Char) : items? total fuel depth ('c' :: s) = none := by
  cases fuel with
  | zero => rfl
  | succ fuel => simp [items?, value?_table]

/-- A string is skipped as a whole. -/
theorem passes_of_stringItem {d : Char} {r : Option (List Char × List Char)} {i : Item}
    (hd : d ≠ '[') (hr : skip? (d :: s) = r.map Prod.snd) (h : stringItem r = some (i, rest)) :
    Passes c (d :: s) rest := by
  obtain ⟨⟨t, rest'⟩, rfl, h⟩ := Option.map_eq_some_iff.1 h
  cases h
  exact .step hd hr

/-- Whether what values, items and assignments in braces take with so much fuel is passed. -/
structure PassesValues (total fuel : Nat) : Prop where
  value {depth : Nat} {s rest : List Char} {v : Spanned Item} :
    value? total fuel depth s = some (v, rest) → Passes 'c' s rest
  items {depth : Nat} {s rest : List Char} {items : List (Spanned Item)} :
    items? total fuel depth s = some (items, rest) → Passes 'c' s rest
  entries {depth : Nat} {s rest : List Char}
    {entries : List (Path × Spanned String × Spanned Item)} :
    entries? total fuel depth s = some (entries, rest) → Passes 'c' s rest

namespace PassesValues

theorem value_succ (hp : PassesValues total fuel) {v : Spanned Item}
    (h : value? total (fuel + 1) depth s = some (v, rest)) : Passes 'c' s rest := by
  unfold value? at h
  obtain ⟨⟨item, rest'⟩, hi, h⟩ := Option.bind_eq_some_iff.1 h
  cases h
  split at hi
  next => exact passes_of_stringItem (by decide) rfl hi
  next hq => exact passes_of_stringItem (by decide) (by simp [skip?]) hi
  next => exact passes_of_stringItem (by decide) rfl hi
  next hq => exact passes_of_stringItem (by decide) (by simp [skip?]) hi
  next s =>
    cases depth with
    | zero => cases hi
    | succ depth =>
      obtain ⟨s₁, h₁, hi⟩ := Option.bind_eq_some_iff.1 hi
      obtain ⟨⟨items, s₂⟩, h₂, hi⟩ := Option.bind_eq_some_iff.1 hi
      cases hi
      -- An item would begin with the letter behind the bracket.
      have hc : ∀ u, s ≠ 'c' :: u := by
        rintro u rfl
        cases h₁
        simp [items?_table] at h₂
      exact .trans (.bracket hc) ((passes_of_gap? h₁).trans (hp.items h₂))
  next s =>
    cases depth with
    | zero => cases hi
    | succ depth =>
      obtain ⟨s₁, h₁, hi⟩ := Option.bind_eq_some_iff.1 hi
      obtain ⟨⟨entries, s₂⟩, h₂, hi⟩ := Option.bind_eq_some_iff.1 hi
      obtain ⟨t, _, hi⟩ := Option.bind_eq_some_iff.1 hi
      cases hi
      exact .trans (.mark rfl (by decide) s) ((passes_of_gap? h₁).trans (hp.entries h₂))
  next hd _ hl _ _ =>
    obtain ⟨item', hs, hi⟩ := Option.map_eq_some_iff.1 hi
    cases hi
    have hq : Unquoted s := by
      rintro d s' rfl
      constructor <;> rintro rfl
      · exact hd _ rfl
      · exact hl _ rfl
    exact passes_of_scalar? hq hs

theorem items_succ (hp : PassesValues total fuel) {items : List (Spanned Item)}
    (h : items? total (fuel + 1) depth s = some (items, rest)) : Passes 'c' s rest := by
  unfold items? at h
  split at h
  next => cases h
  next =>
    cases h
    exact .mark rfl (by decide) _
  next fuel' heq hs =>
    cases heq
    obtain ⟨⟨v, s₁⟩, h₁, h⟩ := Option.bind_eq_some_iff.1 h
    obtain ⟨s₂, h₂, h⟩ := Option.bind_eq_some_iff.1 h
    have hv := (hp.value h₁).trans (passes_of_gap? h₂)
    split at h
    next s₃ =>
      obtain ⟨s₄, h₄, h⟩ := Option.bind_eq_some_iff.1 h
      obtain ⟨⟨items', s₅⟩, h₅, h⟩ := Option.bind_eq_some_iff.1 h
      cases h
      exact (hv.trans (.mark rfl (by decide) s₃)).trans ((passes_of_gap? h₄).trans (hp.items h₅))
    next s₃ =>
      cases h
      exact hv.trans (.mark rfl (by decide) _)
    next => cases h

theorem entries_succ (hp : PassesValues total fuel)
    {entries : List (Path × Spanned String × Spanned Item)}
    (h : entries? total (fuel + 1) depth s = some (entries, rest)) : Passes 'c' s rest := by
  unfold entries? at h
  split at h
  next => cases h
  next =>
    cases h
    exact .mark rfl (by decide) _
  next fuel' heq hs =>
    cases heq
    obtain ⟨⟨path, s₁⟩, h₁, h⟩ := Option.bind_eq_some_iff.1 h
    obtain ⟨key, hk, h⟩ := Option.bind_eq_some_iff.1 h
    obtain ⟨s₂, h₂, h⟩ := Option.bind_eq_some_iff.1 h
    split at h
    next s₃ =>
      obtain ⟨s₄, h₄, h⟩ := Option.bind_eq_some_iff.1 h
      obtain ⟨⟨v, s₅⟩, h₅, h⟩ := Option.bind_eq_some_iff.1 h
      obtain ⟨s₆, h₆, h⟩ := Option.bind_eq_some_iff.1 h
      have hk := (passes_of_equals (c := 'c') h₁ h₂).trans (passes_of_gap? h₄)
      have hv := hk.trans ((hp.value h₅).trans (passes_of_gap? h₆))
      split at h
      next s₇ =>
        obtain ⟨s₈, h₈, h⟩ := Option.bind_eq_some_iff.1 h
        obtain ⟨⟨entries', s₉⟩, h₉, h⟩ := Option.bind_eq_some_iff.1 h
        cases h
        exact (hv.trans (.mark rfl (by decide) s₇)).trans
          ((passes_of_gap? h₈).trans (hp.entries h₉))
      next s₇ =>
        cases h
        exact hv.trans (.mark rfl (by decide) _)
      next => cases h
    next => cases h

end PassesValues

theorem passesValues (total fuel : Nat) : PassesValues total fuel := by
  induction fuel with
  | zero => exact ⟨nofun, nofun, nofun⟩
  | succ fuel ih => exact ⟨ih.value_succ, ih.items_succ, ih.entries_succ⟩

/-- The way behind a value. -/
theorem passes_of_value? {v : Spanned Item} (h : value? total fuel depth s = some (v, rest)) :
    Passes 'c' s rest :=
  (passesValues total fuel).value h

/-! ### Statements -/

/-- What closes a header. -/
def closing (isArray : Bool) : List Char :=
  if isArray then [']', ']'] else [']']

/-- A header holds a key between its brackets. -/
theorem exists_of_header? {isArray : Bool} {inside : List Char} {st : Statement}
    (h : header? total isArray s inside = some (st, rest)) :
    ∃ path key, key? total (skipBlanks inside) = some (path, closing isArray ++ rest) ∧
      path.getLast? = some key ∧
      st = .header ⟨path.dropLast, key, isArray, between total s rest⟩ := by
  obtain ⟨⟨path, s₁⟩, h₁, h⟩ := Option.bind_eq_some_iff.1 h
  obtain ⟨key, hk, h⟩ := Option.bind_eq_some_iff.1 h
  dsimp only at h
  split at h
  next =>
    cases h
    exact ⟨path, key, h₁, hk, rfl⟩
  next =>
    cases h
    exact ⟨path, key, h₁, hk, rfl⟩
  next => cases h

theorem passes_of_header? {isArray : Bool} {inside : List Char} {st : Statement}
    (h : header? total isArray s inside = some (st, rest)) : Passes c inside rest := by
  obtain ⟨path, key, hk, _, _⟩ := exists_of_header? h
  have hb : ∀ u, Passes c (']' :: u) u := .mark rfl (by decide)
  refine (passes_skipBlanks inside).trans ?_
  cases isArray with
  | false =>
    exact ((passes_or_of_key? hk).resolve_right (not_goesOn_cons rfl _)).trans (hb _)
  | true =>
    exact ((passes_or_of_key? hk).resolve_right (not_goesOn_cons rfl _)).trans
      ((hb _).trans (hb _))

/-- Behind the brackets of a header everything is passed. -/
theorem exists_passes_of_statement? {st : Statement}
    (h : statement? total fuel s = some (st, rest)) :
    ∃ opening ∈ [[], ['['], ['[', '[']], ∃ u, s = opening ++ u ∧ Passes 'c' u rest := by
  unfold statement? at h
  split at h
  next inside => exact ⟨['[', '['], by simp, inside, rfl, passes_of_header? h⟩
  next inside _ => exact ⟨['['], by simp, inside, rfl, passes_of_header? h⟩
  next =>
    obtain ⟨⟨path, s₁⟩, h₁, h⟩ := Option.bind_eq_some_iff.1 h
    obtain ⟨key, hk, h⟩ := Option.bind_eq_some_iff.1 h
    split at h
    next s₂ _ =>
      obtain ⟨⟨v, s₃⟩, h₃, h⟩ := Option.bind_eq_some_iff.1 h
      cases h
      have hv := (passes_skipBlanks s₂).trans (passes_of_value? h₃)
      exact ⟨[], by simp, _, rfl, (passes_of_equals h₁ rfl).trans hv⟩
    next => cases h

theorem suffix_of_statement? {st : Statement} (h : statement? total fuel s = some (st, rest)) :
    rest <:+ s := by
  obtain ⟨opening, _, u, rfl, hp⟩ := exists_passes_of_statement? h
  exact (suffix_of_outside hp.outside).trans (List.suffix_append opening u)

/-- A bracket outside of comments and strings that has `c` behind it opens the statement, or is the
second one of it, or lies behind the statement. -/
theorem statement_cases {st : Statement} (h : statement? total fuel s = some (st, rest))
    (ho : Outside s t) (ht : ['[', 'c'] <+: t) : s = t ∨ s = '[' :: t ∨ Outside rest t := by
  have hb : ∀ {u}, Outside ('[' :: u) t → '[' :: u = t ∨ Outside u t := by
    intro u ho
    rcases Relation.ReflTransGen.cases_head ho with he | ⟨v, hv, ho⟩
    · exact .inl he
    · cases hv
      exact .inr ho
  obtain ⟨opening, hm, u, rfl, hp⟩ := exists_passes_of_statement? h
  simp only [List.mem_cons, List.not_mem_nil, or_false] at hm
  rcases hm with rfl | rfl | rfl
  · exact .inr (.inr (hp.outside_of_outside ho ht))
  · rcases hb ho with rfl | ho
    · exact .inl rfl
    · exact .inr (.inr (hp.outside_of_outside ho ht))
  · rcases hb ho with rfl | ho
    · exact .inl rfl
    rcases hb ho with rfl | ho
    · exact .inr (.inl rfl)
    · exact .inr (.inr (hp.outside_of_outside ho ht))

end ClassForge.Toml
