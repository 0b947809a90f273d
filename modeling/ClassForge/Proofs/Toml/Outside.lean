import ClassForge.Toml.Reader
import Mathlib.Logic.Relation

/-!
# Outside of comments and strings

The places of a document that stand neither in a comment nor in a string, as far as the text alone
tells. Comments, strings and words are skipped as a whole: a quote inside a word, such as the one of
`1_0"`, opens no string.

## Main definitions

- `Toml.skip?` — what follows the comment, the string, the word or else the character at the front
- `Toml.Outside` — a place outside of comments and strings
- `Toml.Passes` — a way over such places that does not come to a bracket with a given character
  behind it

## Main statements

- `Toml.Passes.outside` — what lies outside lies behind such a way, if it has that bracket in front
- `Toml.suffix_of_outside` — a place is an end of the text
-/

namespace ClassForge.Toml

open Relation

/-- Whether `c` goes on with a word: a bare key, or a value without quotes and brackets up to its
first point or blank. -/
def isWordChar (c : Char) : Bool :=
  !(endsWord c || c == '.')

/-- What follows the comment, the string, the word or else the single character at the front. -/
def skip? : List Char → Option (List Char)
  | [] => none
  | '#' :: s => some (s.dropWhile (· != '\n'))
  | '"' :: '"' :: '"' :: s => (multiBasic? s).map Prod.snd
  | '"' :: s => (basic? s).map Prod.snd
  | '\x27' :: '\x27' :: '\x27' :: s => (multiLiteral? s).map Prod.snd
  | '\x27' :: s => (literal? s).map Prod.snd
  | c :: s => some (if isWordChar c then s.dropWhile isWordChar else s)

/-- Whether `t`, an end of `s`, begins outside of the comments and strings of `s`. -/
def Outside : List Char → List Char → Prop :=
  ReflTransGen fun s t => skip? s = some t

/-- Whether skipping leads from `s` to `t`, and on the way never to a bracket with `c` behind it. -/
def Passes (c : Char) : List Char → List Char → Prop :=
  ReflTransGen fun s t => ¬ ['[', c] <+: s ∧ skip? s = some t

variable {c : Char} {s t rest : List Char}

/-! ### What a string leaves -/

/-- A character before the content of a string changes nothing behind the string. -/
theorem exists_of_cons? {c : Option Char} {r : Option (List Char × List Char)}
    (h : cons? c r = some (t, rest)) : ∃ u, r = some (u, rest) := by
  obtain ⟨⟨u, rest'⟩, hr, h⟩ := Option.bind_eq_some_iff.1 h
  obtain ⟨c, _, h⟩ := Option.bind_eq_some_iff.1 h
  cases h
  exact ⟨u, hr⟩

theorem suffix_of_basic? (h : basic? s = some (t, rest)) : rest <:+ s := by
  fun_induction basic? s generalizing t with
  | case1 | case7 => cases h
  | case2 r =>
    cases h
    exact List.suffix_cons _ _
  | case3 | case4 | case5 | case6 | case8 =>
    next ih =>
    obtain ⟨u, hu⟩ := exists_of_cons? h
    simp [List.suffix_cons_iff, ih hu]

theorem suffix_of_literal? (h : literal? s = some (t, rest)) : rest <:+ s := by
  fun_induction literal? s generalizing t with
  | case1 | case3 => cases h
  | case2 r =>
    cases h
    exact List.suffix_cons _ _
  | case4 c r _ _ ih =>
    obtain ⟨u, hu⟩ := exists_of_cons? h
    exact (ih hu).trans (List.suffix_cons c r)

theorem suffix_of_multiBasicBody? {skipping : Bool}
    (h : multiBasicBody? skipping s = some (t, rest)) : rest <:+ s := by
  fun_induction multiBasicBody? skipping s generalizing t with
  | case1 | case14 => cases h
  | case2 | case4 | case12 | case15 =>
    next ih => exact (ih h).trans (by simp [List.suffix_cons_iff])
  | case3 =>
    next ih =>
    obtain ⟨u, hu⟩ := exists_of_cons? h
    obtain ⟨v, hv⟩ := exists_of_cons? hu
    simp [List.suffix_cons_iff, ih hv]
  | case6 | case7 | case8 =>
    cases h
    simp [List.suffix_cons_iff]
  | case5 | case9 | case10 | case11 | case13 | case16 =>
    next ih =>
    obtain ⟨u, hu⟩ := exists_of_cons? h
    simp [List.suffix_cons_iff, ih hu]

theorem suffix_of_multiLiteralBody? (h : multiLiteralBody? s = some (t, rest)) : rest <:+ s := by
  fun_induction multiLiteralBody? s generalizing t with
  | case1 | case7 => cases h
  | case2 _ ih =>
    obtain ⟨u, hu⟩ := exists_of_cons? h
    obtain ⟨v, hv⟩ := exists_of_cons? hu
    simp [List.suffix_cons_iff, ih hv]
  | case4 | case5 | case6 =>
    cases h
    simp [List.suffix_cons_iff]
  | case3 | case8 =>
    next ih =>
    obtain ⟨u, hu⟩ := exists_of_cons? h
    simp [List.suffix_cons_iff, ih hu]

theorem dropLineBreak_suffix (s : List Char) : dropLineBreak s <:+ s := by
  unfold dropLineBreak
  split <;> simp [List.suffix_cons_iff]

/-! ### Skipping -/

theorem suffix_of_skip? (h : skip? s = some t) : t <:+ s := by
  unfold skip? at h
  split at h
  · cases h
  · cases h
    exact (List.dropWhile_suffix _).trans (List.suffix_cons _ _)
  · obtain ⟨⟨u, r⟩, hu, rfl⟩ := Option.map_eq_some_iff.1 h
    have := (suffix_of_multiBasicBody? hu).trans (dropLineBreak_suffix _)
    simp [List.suffix_cons_iff, this]
  · obtain ⟨⟨u, r⟩, hu, rfl⟩ := Option.map_eq_some_iff.1 h
    exact (suffix_of_basic? hu).trans (List.suffix_cons _ _)
  · obtain ⟨⟨u, r⟩, hu, rfl⟩ := Option.map_eq_some_iff.1 h
    have := (suffix_of_multiLiteralBody? hu).trans (dropLineBreak_suffix _)
    simp [List.suffix_cons_iff, this]
  · obtain ⟨⟨u, r⟩, hu, rfl⟩ := Option.map_eq_some_iff.1 h
    exact (suffix_of_literal? hu).trans (List.suffix_cons _ _)
  · cases h
    split
    · exact (List.dropWhile_suffix _).trans (List.suffix_cons _ _)
    · exact List.suffix_cons _ _

theorem suffix_of_outside (h : Outside s t) : t <:+ s := by
  induction h with
  | refl => exact List.suffix_refl s
  | tail _ h ih => exact (suffix_of_skip? h).trans ih

/-- A character that neither is part of a word nor opens a comment is skipped alone. -/
theorem skip?_mark {d : Char} (hw : isWordChar d = false) (hd : d ≠ '#') (s : List Char) :
    skip? (d :: s) = some s := by
  have hq : d ≠ '"' ∧ d ≠ '\x27' := by
    constructor <;> rintro rfl <;> cases hw
  simp [skip?, hw, hq]

/-- A word is skipped as a whole. -/
theorem skip?_word {d : Char} (hw : isWordChar d) (hq : d ≠ '"' ∧ d ≠ '\x27') (s : List Char) :
    skip? (d :: s) = some (s.dropWhile isWordChar) := by
  have hd : d ≠ '#' := by
    rintro rfl
    cases hw
  simp [skip?, hw, hq]

/-! ### Ways over places outside -/

namespace Passes

theorem refl (s : List Char) : Passes c s s :=
  ReflTransGen.refl

theorem trans {u : List Char} (h : Passes c s t) (h' : Passes c t u) : Passes c s u :=
  ReflTransGen.trans h h'

theorem outside (h : Passes c s t) : Outside s t :=
  h.lift id fun _ _ h => h.2

/-- A step from a place that is no bracket. -/
theorem step {d : Char} (hd : d ≠ '[') (h : skip? (d :: s) = some t) : Passes c (d :: s) t :=
  .single ⟨fun hp => hd (List.cons_prefix_cons.1 hp).1.symm, h⟩

/-- A bracket with another character behind it may be passed. -/
theorem bracket (h : ∀ u, s ≠ c :: u) : Passes c ('[' :: s) s := by
  refine .single ⟨?_, skip?_mark rfl (by decide) s⟩
  rintro ⟨u, hu⟩
  exact h u (List.cons.inj hu).2.symm

theorem mark {d : Char} (hw : isWordChar d = false) (hd : d ≠ '[' ∧ d ≠ '#') (s : List Char) :
    Passes c (d :: s) s :=
  step hd.1 (skip?_mark hw hd.2 s)

/-- The bracket that a way does not come to lies behind it. -/
theorem outside_of_outside (h : Passes c s rest) (ho : Outside s t) (ht : ['[', c] <+: t) :
    Outside rest t := by
  induction h using ReflTransGen.head_induction_on with
  | refl => exact ho
  | head h _ ih =>
    refine ih ?_
    rcases ReflTransGen.cases_head ho with rfl | ⟨u, hu, ho⟩
    · exact absurd ht h.1
    · rwa [Option.some_inj.1 (h.2.symm.trans hu)]

end Passes

end ClassForge.Toml
