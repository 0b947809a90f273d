/-!
# Cutting texts

## Main definitions

- `Text.cut?` — a text cut in two at a character

## Main statements

- `Text.cut?_append` — the cut is at the first occurrence
- `Text.eq_append_of_cut?` — a cut takes out nothing but the character
-/

namespace ClassForge.Text

/-- What stands before and behind the first occurrence of a character. -/
def cut? (mark : Char) : List Char → Option (List Char × List Char)
  | [] => none
  | c :: rest =>
    if c = mark then some ([], rest)
    else (cut? mark rest).map fun (before, behind) => (c :: before, behind)

/-- The cut is at the first occurrence. -/
theorem cut?_append {mark : Char} {before : List Char} (h : mark ∉ before) (behind : List Char) :
    cut? mark (before ++ mark :: behind) = some (before, behind) := by
  induction before with
  | nil => simp [cut?]
  | cons c before ih =>
    have hc : c ≠ mark := fun e => h (e ▸ List.mem_cons_self)
    simp [cut?, hc, ih fun hm => h (List.mem_cons_of_mem c hm)]

/-- A cut takes out nothing but the character. -/
theorem eq_append_of_cut? {mark : Char} {s before behind : List Char}
    (h : cut? mark s = some (before, behind)) : s = before ++ mark :: behind := by
  induction s generalizing before with
  | nil => simp [cut?] at h
  | cons c s ih =>
    rw [cut?] at h
    split at h
    next hc =>
      obtain ⟨rfl, rfl⟩ := by simpa using h
      rw [hc, List.nil_append]
    next =>
      obtain ⟨⟨b, a⟩, hb, he⟩ := Option.map_eq_some_iff.1 h
      obtain ⟨rfl, rfl⟩ := by simpa using he
      rw [ih hb, List.cons_append]

end ClassForge.Text
