/-!
# Searching texts

Positions in a text count the bytes of its UTF-8 form.

## Main definitions

- `Text.Span` — a range of bytes
- `Text.byteLength` — the number of bytes of a text
- `Text.find?` — the position of the leftmost occurrence of a text in another
-/

namespace ClassForge.Text

/-- A range of bytes, from `start` up to and without `stop`. -/
structure Span where
  start : Nat
  stop : Nat
deriving DecidableEq, Inhabited

/-- The number of bytes in a range. -/
def Span.length (s : Span) : Nat :=
  s.stop - s.start

/-- The number of bytes of a text. -/
def byteLength : List Char → Nat
  | [] => 0
  | c :: rest => c.utf8Size + byteLength rest

/-- The position of the leftmost occurrence of `needle`. -/
def find? (needle : List Char) : List Char → Option Nat
  | [] => if needle.isEmpty then some 0 else none
  | c :: rest =>
    if needle.isPrefixOf (c :: rest) then some 0
    else (find? needle rest).map (c.utf8Size + ·)

@[simp] theorem byteLength_append (s t : List Char) :
    byteLength (s ++ t) = byteLength s + byteLength t := by
  induction s with
  | nil => simp [byteLength]
  | cons c s ih => simp [byteLength, ih, Nat.add_assoc]

/-- A position that is found is one where the text occurs. -/
theorem exists_of_find? {needle s : List Char} {n : Nat} (h : find? needle s = some n) :
    ∃ before after, s = before ++ needle ++ after ∧ byteLength before = n := by
  induction s generalizing n with
  | nil =>
    simp only [find?, List.isEmpty_iff, Option.ite_none_right_eq_some, Option.some_inj] at h
    obtain ⟨rfl, rfl⟩ := h
    exact ⟨[], [], rfl, rfl⟩
  | cons c s ih =>
    rw [find?] at h
    split at h
    next hp =>
      obtain ⟨after, ha⟩ := List.isPrefixOf_iff_prefix.1 hp
      exact ⟨[], after, by simp [ha], by simpa [byteLength] using h⟩
    next =>
      obtain ⟨m, hm, rfl⟩ := Option.map_eq_some_iff.1 h
      obtain ⟨before, after, rfl, rfl⟩ := ih hm
      exact ⟨c :: before, after, rfl, rfl⟩

end ClassForge.Text
