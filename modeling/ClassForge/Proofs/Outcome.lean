/-!
# Computations that may fail

How the outcome of a composed computation is put together from those of its parts.

## Main statements

- `Except.bind_eq_ok_iff`, `Except.bind_eq_error_iff` — one computation behind another
- `Except.map_eq_ok_iff`, `Except.map_eq_error_iff` — a function applied to the result
- `Except.forM_eq_ok_iff`, `Except.exists_of_forM_eq_error`, `Except.exists_of_mapM_eq_error`,
  `Except.exists_of_foldlM_eq_error` — one computation after another, for the items of a list
-/

namespace Except

variable {ε α β γ : Type}

@[simp] theorem ok_bind (a : α) (f : α → Except ε β) : ok a >>= f = f a := rfl

@[simp] theorem error_bind (e : ε) (f : α → Except ε β) : error e >>= f = error e := rfl

theorem throw_eq_error (e : ε) : (throw e : Except ε α) = error e := rfl

theorem pure_eq_ok (a : α) : (pure a : Except ε α) = ok a := rfl

@[simp] theorem ok_map (f : α → β) (a : α) : (ok a : Except ε α).map f = ok (f a) := rfl

@[simp] theorem error_map (f : α → β) (e : ε) : (error e : Except ε α).map f = error e := rfl

@[simp] theorem ok_mapError {δ : Type} (f : ε → δ) (a : α) :
    (ok a : Except ε α).mapError f = ok a := rfl

@[simp] theorem error_mapError {δ : Type} (f : ε → δ) (e : ε) :
    (error e : Except ε α).mapError f = error (f e) := rfl

@[simp] theorem map_map (x : Except ε α) (f : α → β) (g : β → γ) :
    (x.map f).map g = x.map fun a => g (f a) := by
  cases x <;> rfl

theorem map_bind (x : Except ε α) (f : α → β) (g : β → Except ε γ) :
    x.map f >>= g = x >>= fun a => g (f a) := by
  cases x <;> rfl

theorem bind_eq_ok_iff {x : Except ε α} {f : α → Except ε β} {b : β} :
    x >>= f = ok b ↔ ∃ a, x = ok a ∧ f a = ok b := by
  cases x <;> simp

theorem bind_eq_error_iff {x : Except ε α} {f : α → Except ε β} {e : ε} :
    x >>= f = error e ↔ x = error e ∨ ∃ a, x = ok a ∧ f a = error e := by
  cases x <;> simp

theorem map_eq_ok_iff {x : Except ε α} {f : α → β} {b : β} :
    x.map f = ok b ↔ ∃ a, x = ok a ∧ f a = b := by
  cases x <;> simp

theorem map_eq_error_iff {x : Except ε α} {f : α → β} {e : ε} :
    x.map f = error e ↔ x = error e := by
  cases x <;> simp

theorem mapError_eq_ok_iff {δ : Type} {x : Except ε α} {f : ε → δ} {a : α} :
    x.mapError f = ok a ↔ x = ok a := by
  cases x <;> simp

theorem mapError_eq_error_iff {δ : Type} {x : Except ε α} {f : ε → δ} {d : δ} :
    x.mapError f = error d ↔ ∃ e, x = error e ∧ f e = d := by
  cases x <;> simp

/-! ### The items of a list -/

theorem forM_eq_ok_iff {f : α → Except ε Unit} {l : List α} :
    forM l f = ok () ↔ ∀ a ∈ l, f a = ok () := by
  induction l with
  | nil => simp [pure_eq_ok]
  | cons a l ih =>
    rw [List.forM_cons, bind_eq_ok_iff, ih, List.forall_mem_cons]
    constructor
    · rintro ⟨_, ha, hl⟩
      exact ⟨ha, hl⟩
    · rintro ⟨ha, hl⟩
      exact ⟨_, ha, hl⟩

/-- A check that fails does so at one item, and those before it are in order. -/
theorem exists_of_forM_eq_error {f : α → Except ε Unit} {l : List α} {e : ε}
    (h : forM l f = error e) :
    ∃ before a after, l = before ++ a :: after ∧ (∀ b ∈ before, f b = ok ()) ∧ f a = error e := by
  induction l with
  | nil => cases h
  | cons a l ih =>
    rw [List.forM_cons, bind_eq_error_iff] at h
    obtain ha | ⟨_, ha, hl⟩ := h
    · exact ⟨[], a, l, rfl, by simp, ha⟩
    · obtain ⟨before, a', after, rfl, hbefore, he⟩ := ih hl
      exact ⟨a :: before, a', after, rfl, List.forall_mem_cons.2 ⟨ha, hbefore⟩, he⟩

theorem exists_of_mapM_eq_error {f : α → Except ε β} {l : List α} {e : ε}
    (h : l.mapM f = error e) : ∃ a ∈ l, f a = error e := by
  induction l with
  | nil => cases h
  | cons a l ih =>
    rw [List.mapM_cons, bind_eq_error_iff] at h
    obtain ha | ⟨b, _, h⟩ := h
    · exact ⟨a, by simp, ha⟩
    · obtain hl | ⟨bs, _, h⟩ := bind_eq_error_iff.1 h
      · obtain ⟨c, hc, he⟩ := ih hl
        exact ⟨c, List.mem_cons_of_mem a hc, he⟩
      · cases h

/-- A loop that fails does so at one item, and went well on those before it. -/
theorem exists_of_foldlM_eq_error {f : β → α → Except ε β} {l : List α} {b : β} {e : ε}
    (h : l.foldlM f b = error e) :
    ∃ before a after c, l = before ++ a :: after ∧ before.foldlM f b = ok c ∧ f c a = error e := by
  induction l generalizing b with
  | nil => cases h
  | cons a l ih =>
    rw [List.foldlM_cons, bind_eq_error_iff] at h
    obtain ha | ⟨c, hc, hl⟩ := h
    · exact ⟨[], a, l, b, rfl, rfl, ha⟩
    · obtain ⟨before, a', after, d, rfl, hd, he⟩ := ih hl
      refine ⟨a :: before, a', after, d, rfl, ?_, he⟩
      rw [List.foldlM_cons, hc, ok_bind, hd]

end Except
