import Mathlib.Data.List.Basic

/-!
# Taking apart what was put together

Two texts that are written from items in one way are equal only if the items are, when what stands
between the items cannot be part of one.

## Main statements

- `List.append_inj_of_all` — a part of one kind before another that begins with another kind
- `String.join_append_inj` — items each with an end mark
- `String.intercalate_inj` — items with separators between them
-/

namespace List

variable {α β : Type}

/-- The front parts are of a kind, and what follows begins with something of another kind. -/
theorem append_inj_of_all {p : α → Bool} {a b r s : List α} (ha : ∀ x ∈ a, p x = true)
    (hb : ∀ x ∈ b, p x = true) (hr : ∀ x ∈ r.head?, p x = false) (hs : ∀ x ∈ s.head?, p x = false)
    (h : a ++ r = b ++ s) : a = b ∧ r = s := by
  have hnone : ∀ {l : List α}, (∀ x ∈ l.head?, p x = false) → l.takeWhile p = [] := by
    intro l hl
    cases l with
    | nil => rfl
    | cons x l => simp [hl x rfl]
  have hwhile := congrArg (takeWhile p) h
  rw [takeWhile_append_of_pos ha, takeWhile_append_of_pos hb, hnone hr, hnone hs, append_nil,
    append_nil] at hwhile
  subst hwhile
  exact ⟨rfl, append_cancel_left h⟩

theorem eq_of_map_eq {f : α → β} {l l' : List α} (hf : ∀ a ∈ l, ∀ b ∈ l', f a = f b → a = b)
    (h : l.map f = l'.map f) : l = l' := by
  induction l generalizing l' with
  | nil => rw [map_eq_nil_iff.1 h.symm]
  | cons a l ih =>
    obtain ⟨b, l', rfl, hab, hl⟩ := map_eq_cons_iff.1 h.symm
    rw [hf a (mem_cons_self ..) b (mem_cons_self ..) hab.symm,
      ih (fun x hx y hy => hf x (mem_cons_of_mem a hx) y (mem_cons_of_mem b hy)) hl.symm]

end List

namespace String

variable {p : Char → Bool} {a b r s sep : String} {c : Char} {l l' : List String}

theorem append_inj_of_all (ha : ∀ x ∈ a.toList, p x = true) (hb : ∀ x ∈ b.toList, p x = true)
    (hr : ∀ x ∈ r.toList.head?, p x = false) (hs : ∀ x ∈ s.toList.head?, p x = false)
    (h : a ++ r = b ++ s) : a = b ∧ r = s := by
  rw [← toList_inj, toList_append, toList_append] at h
  obtain ⟨hab, hrs⟩ := List.append_inj_of_all ha hb hr hs h
  exact ⟨toList_inj.1 hab, toList_inj.1 hrs⟩

/-- The end mark `sep` begins with a character that no item has. -/
theorem join_append_inj (hsep : sep.toList.head? = some c) (hl : ∀ s ∈ l, c ∉ s.toList)
    (hl' : ∀ s ∈ l', c ∉ s.toList)
    (h : String.join (l.map (· ++ sep)) = String.join (l'.map (· ++ sep))) : l = l' := by
  have hne : ∀ {s t : String}, s ++ sep ++ t ≠ "" := by
    intro s t he
    have hsep' : sep = "" := by simp_all
    simp [hsep'] at hsep
  have hother : ∀ {s : String}, c ∉ s.toList → ∀ x ∈ s.toList, (x != c) = true := by
    intro s hs x hx
    simpa using fun hxc : x = c => hs (hxc ▸ hx)
  have hfirst : ∀ {t : String}, ∀ x ∈ (sep ++ t).toList.head?, (x != c) = false := by
    intro t x hx
    rw [toList_append, List.head?_append, hsep] at hx
    have hxc : c = x := Option.some.inj hx
    simp [hxc]
  -- The induction is on both lists. The first item of each ends where `c` comes up first.
  induction l generalizing l' with
  | nil =>
    cases l' with
    | nil => rfl
    | cons b l' => exact absurd h.symm (by simpa [join_cons] using hne)
  | cons a l ih =>
    cases l' with
    | nil => exact absurd h (by simpa [join_cons] using hne)
    | cons b l' =>
      obtain ⟨ha, hl⟩ := List.forall_mem_cons.1 hl
      obtain ⟨hb, hl'⟩ := List.forall_mem_cons.1 hl'
      rw [List.map_cons, List.map_cons, join_cons, join_cons, append_assoc, append_assoc] at h
      obtain ⟨hab, hrest⟩ := append_inj_of_all (hother ha) (hother hb) hfirst hfirst h
      rw [hab, ih hl hl' ((append_right_inj sep).1 hrest)]

theorem intercalate_append_self (hne : l ≠ []) :
    sep.intercalate l ++ sep = String.join (l.map (· ++ sep)) := by
  induction l with
  | nil => exact absurd rfl hne
  | cons a l ih =>
    cases l with
    | nil => simp
    | cons b l =>
      rw [intercalate_cons_of_ne_nil (by simp), append_assoc, ih (by simp), List.map_cons (a := a),
        join_cons]

theorem intercalate_eq_empty_iff (hl : ∀ s ∈ l, s ≠ "") : sep.intercalate l = "" ↔ l = [] := by
  cases l with
  | nil => simp
  | cons a l =>
    have ha := hl a (by simp)
    cases l with
    | nil => simpa using ha
    | cons b l => simp [ha]

/-- The separator begins with a character that no item has. Without items the text is empty, so that
no item may be. -/
theorem intercalate_inj (hsep : sep.toList.head? = some c) (hl : ∀ s ∈ l, s ≠ "" ∧ c ∉ s.toList)
    (hl' : ∀ s ∈ l', s ≠ "" ∧ c ∉ s.toList) (h : sep.intercalate l = sep.intercalate l') :
    l = l' := by
  have hempty : l = [] ↔ l' = [] := by
    rw [← intercalate_eq_empty_iff (fun s hs => (hl s hs).1), h,
      intercalate_eq_empty_iff fun s hs => (hl' s hs).1]
  by_cases hnil : l = []
  · rw [hnil, hempty.1 hnil]
  · -- With one more separator at its end the text has one behind every item.
    have hjoin := congrArg (· ++ sep) h
    simp only [intercalate_append_self hnil, intercalate_append_self (mt hempty.2 hnil)] at hjoin
    exact join_append_inj hsep (fun s hs => (hl s hs).2) (fun s hs => (hl' s hs).2) hjoin

theorem not_mem_toList_intercalate (hsep : c ∉ sep.toList) (hl : ∀ s ∈ l, c ∉ s.toList) :
    c ∉ (sep.intercalate l).toList := by
  induction l with
  | nil => simp
  | cons a l ih =>
    obtain ⟨ha, hl⟩ := List.forall_mem_cons.1 hl
    cases l with
    | nil => simpa using ha
    | cons b l =>
      rw [intercalate_cons_of_ne_nil (by simp), toList_append, toList_append]
      simp only [List.mem_append, ha, hsep, ih hl, or_self, not_false_iff]

end String
