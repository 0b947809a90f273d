import ClassForge.Text.Search

/-!
# Occurrences of texts

Where a text stands in another is a range of bytes, and a search in characters has to count them. A
range that spells a text begins and ends between two characters, so that the two views agree.

## Main definitions

- `Text.Span.behind` — the range of a text behind another one
- `Text.Span.Spells` — a range of bytes that holds the bytes of a text
- `Text.Span.OnBoundaries` — a range that cuts no character
- `Text.Occurs` — a text that some range spells
- `Text.Span.Leftmost` — the first range that spells a text

## Main statements

- `Text.Span.spells_iff` — ranges that spell a text, by what stands before and behind them
- `Text.find?_eq_none_iff_not_occurs` — a search fails on texts that do not occur
- `Text.find?_eq_some_iff_leftmost` — a search finds the leftmost occurrence

## Design notes

The bytes of the empty text stand everywhere, also inside of a character. What is searched for here
is not empty.
-/

namespace ClassForge.Text

variable {needle l before after : List Char} {s t : String} {n : Nat}

/-! ### Occurrences in characters -/

theorem find?_eq_none_iff : find? needle l = none ↔ ¬needle <:+: l := by
  induction l with
  | nil => simp [find?]
  | cons c l ih =>
    rw [find?, List.infix_cons_iff, ← List.isPrefixOf_iff_prefix]
    split <;> simp_all

theorem find?_append_self (needle after : List Char) : find? needle (needle ++ after) = some 0 := by
  have hp := List.isPrefixOf_iff_prefix.2 (List.prefix_append needle after)
  cases h : needle ++ after with
  | nil => rw [find?, (List.append_eq_nil_iff.1 h).1, List.isEmpty_nil, if_pos rfl]
  | cons c l => rw [find?, if_pos (h ▸ hp)]

/-- What is found stands no further right than any other occurrence. -/
theorem le_of_find? (h : find? needle (before ++ needle ++ after) = some n) :
    n ≤ byteLength before := by
  induction before generalizing n with
  | nil =>
    rw [List.nil_append, find?_append_self] at h
    exact Option.some.inj h ▸ Nat.le_refl 0
  | cons c before ih =>
    rw [List.cons_append, List.cons_append, find?] at h
    split at h
    next => exact Option.some.inj h ▸ Nat.zero_le _
    next =>
      obtain ⟨m, hm, rfl⟩ := Option.map_eq_some_iff.1 h
      exact Nat.add_le_add_left (ih hm) _

/-- The bytes that are counted are those of the text. -/
theorem utf8ByteSize_ofList (l : List Char) : (String.ofList l).utf8ByteSize = byteLength l := by
  induction l with
  | nil => rfl
  | cons c l ih =>
    rw [String.ofList_cons, String.utf8ByteSize_append, String.utf8ByteSize_singleton, ih,
      byteLength]

theorem byteLength_toList (s : String) : byteLength s.toList = s.utf8ByteSize := by
  rw [← utf8ByteSize_ofList, String.ofList_toList]

/-! ### Occurrences in bytes -/

/-- The range of `t` in a text that goes on with it behind `before`. -/
def Span.behind (before t : String) : Span :=
  ⟨before.utf8ByteSize, before.utf8ByteSize + t.utf8ByteSize⟩

/-- Whether the bytes of `s` in a range are those of `t`. -/
structure Span.Spells (r : Span) (s t : String) : Prop where
  start_le : r.start ≤ r.stop
  stop_le : r.stop ≤ s.utf8ByteSize
  bytes : s.toByteArray.extract r.start r.stop = t.toByteArray

/-- Whether a range begins and ends between two characters of `s`, or at an end of `s`. -/
def Span.OnBoundaries (r : Span) (s : String) : Prop :=
  String.Pos.Raw.IsValid s ⟨r.start⟩ ∧ String.Pos.Raw.IsValid s ⟨r.stop⟩

/-- Whether some range of `s` spells `t`. -/
def Occurs (t s : String) : Prop :=
  ∃ r : Span, r.Spells s t

/-- Whether a range is the first one of `s` that spells `t`. -/
def Span.Leftmost (r : Span) (s t : String) : Prop :=
  r.Spells s t ∧ ∀ r' : Span, r'.Spells s t → r.start ≤ r'.start

namespace Span

variable {r : Span}

theorem Spells.stop_eq (h : r.Spells s t) : r.stop = r.start + t.utf8ByteSize := by
  have hsize := congrArg ByteArray.size h.bytes
  rw [ByteArray.size_extract, String.size_toByteArray, String.size_toByteArray,
    Nat.min_eq_left h.stop_le] at hsize
  have := h.start_le
  omega

theorem spells_behind (before t after : String) :
    (behind before t).Spells (before ++ t ++ after) t where
  start_le := Nat.le_add_right _ _
  stop_le := by simp [behind]
  bytes := by
    rw [String.append_assoc, String.toByteArray_append, String.toByteArray_append]
    have h := ByteArray.extract_append_size_add (a := before.toByteArray)
      (b := t.toByteArray ++ after.toByteArray) (i := 0) (j := t.utf8ByteSize)
    exact h.trans (ByteArray.extract_append_eq_left String.size_toByteArray.symm)

theorem onBoundaries_behind (before t after : String) :
    (behind before t).OnBoundaries (before ++ t ++ after) := by
  constructor
  · exact String.Pos.Raw.isValid_iff_exists_append.2
      ⟨before, t ++ after, String.append_assoc, rfl⟩
  · exact String.Pos.Raw.isValid_iff_exists_append.2
      ⟨before ++ t, after, rfl, String.Pos.Raw.ext (String.utf8ByteSize_append).symm⟩

/-- A text that is not empty has whole characters, so that a range with its bytes cuts none. -/
theorem Spells.onBoundaries (h : r.Spells s t) (ht : t ≠ "") : r.OnBoundaries s := by
  have hvalid : (s.toByteArray.extract r.start r.stop).IsValidUTF8 := h.bytes ▸ t.isValidUTF8
  have hstart : (⟨r.start⟩ : String.Pos.Raw) ≤ ⟨r.stop⟩ := h.start_le
  obtain he | hb := (String.Pos.Raw.isValidUTF8_extract_iff _ _ hstart h.stop_le).1 hvalid
  · have hstop : r.start = r.stop := congrArg String.Pos.Raw.byteIdx he
    have hsize : t.utf8ByteSize = 0 := by
      have := h.stop_eq
      omega
    exact absurd (String.utf8ByteSize_eq_zero_iff.1 hsize) ht
  · exact hb

/-- The bytes of a text are those before a range, in it and behind it. -/
theorem Spells.toByteArray_eq (h : r.Spells s t) :
    s.toByteArray = s.toByteArray.extract 0 r.start ++
      (t.toByteArray ++ s.toByteArray.extract r.stop s.utf8ByteSize) := by
  have hle : r.start ≤ s.utf8ByteSize := Nat.le_trans h.start_le h.stop_le
  calc s.toByteArray
    _ = s.toByteArray.extract 0 s.utf8ByteSize := ByteArray.extract_zero_size.symm
    _ = s.toByteArray.extract 0 r.start ++ (s.toByteArray.extract r.start r.stop ++
          s.toByteArray.extract r.stop s.utf8ByteSize) := by
      rw [ByteArray.extract_eq_extract_append_extract r.start (Nat.zero_le _) hle,
        ByteArray.extract_eq_extract_append_extract r.stop h.start_le h.stop_le]
    _ = _ := by rw [h.bytes]

/-- The ranges that spell a text are those of its occurrences in characters. -/
theorem spells_iff (ht : t ≠ "") :
    r.Spells s t ↔ ∃ before after, s = before ++ t ++ after ∧ r = behind before t := by
  constructor
  · intro h
    -- The bytes before the range and those behind it are texts, since it cuts no character.
    obtain ⟨hstart, hstop⟩ := h.onBoundaries ht
    let before := String.ofByteArray _ hstart.isValidUTF8_extract_zero
    let after := String.ofByteArray _ hstop.isValidUTF8_extract_utf8ByteSize
    have hs : s = before ++ t ++ after := by
      rw [← String.toByteArray_inj, String.append_assoc, String.toByteArray_append,
        String.toByteArray_append]
      exact h.toByteArray_eq
    have hbefore : before.utf8ByteSize = r.start := by
      rw [← String.size_toByteArray, ByteArray.size_extract, String.size_toByteArray,
        Nat.min_eq_left (Nat.le_trans h.start_le h.stop_le), Nat.sub_zero]
    exact ⟨before, after, hs, by rw [behind, hbefore, ← h.stop_eq]⟩
  · rintro ⟨before, after, rfl, rfl⟩
    exact spells_behind before t after

/-- An occurrence in characters, with the range that it takes. -/
theorem spells_of_toList_eq (h : s.toList = before ++ t.toList ++ after) :
    Span.Spells ⟨byteLength before, byteLength before + t.utf8ByteSize⟩ s t := by
  have hs : s = .ofList before ++ t ++ .ofList after := by
    rw [← String.toList_inj, h]
    simp only [String.toList_append, String.toList_ofList]
  rw [← utf8ByteSize_ofList, hs]
  exact spells_behind _ _ _

end Span

theorem occurs_iff_infix (ht : t ≠ "") : Occurs t s ↔ t.toList <:+: s.toList := by
  constructor
  · rintro ⟨r, hr⟩
    obtain ⟨before, after, rfl, -⟩ := (Span.spells_iff ht).1 hr
    exact ⟨before.toList, after.toList, by simp⟩
  · rintro ⟨before, after, h⟩
    exact ⟨_, Span.spells_of_toList_eq h.symm⟩

/-- A search fails on the texts that do not occur. -/
theorem find?_eq_none_iff_not_occurs (ht : t ≠ "") :
    find? t.toList s.toList = none ↔ ¬Occurs t s := by
  rw [find?_eq_none_iff, occurs_iff_infix ht]

theorem leftmost_of_find? (ht : t ≠ "") (h : find? t.toList s.toList = some n) :
    Span.Leftmost ⟨n, n + t.utf8ByteSize⟩ s t := by
  constructor
  · obtain ⟨before, after, hs, rfl⟩ := exists_of_find? h
    exact Span.spells_of_toList_eq hs
  · intro r hr
    obtain ⟨before, after, rfl, rfl⟩ := (Span.spells_iff ht).1 hr
    rw [String.toList_append, String.toList_append] at h
    exact Nat.le_trans (le_of_find? h) (Nat.le_of_eq (byteLength_toList before))

/-- A search finds the start of the leftmost occurrence. -/
theorem find?_eq_some_iff_leftmost (ht : t ≠ "") :
    find? t.toList s.toList = some n ↔ Span.Leftmost ⟨n, n + t.utf8ByteSize⟩ s t := by
  refine ⟨leftmost_of_find? ht, fun h => ?_⟩
  cases hf : find? t.toList s.toList with
  | none => exact absurd ⟨_, h.1⟩ ((find?_eq_none_iff_not_occurs ht).1 hf)
  | some m =>
    have hm := leftmost_of_find? ht hf
    have hle : m ≤ n := hm.2 _ h.1
    exact congrArg some (Nat.le_antisymm hle (h.2 _ hm.1))

end ClassForge.Text
