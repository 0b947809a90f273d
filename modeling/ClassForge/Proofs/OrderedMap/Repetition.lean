import ClassForge.OrderedMap
import Mathlib.Data.List.Induction

/-!
# Repeated keys

The map of some entries has each key at its first position, with its last value.

## Main statements

- `eraseDupsBy_append_singleton` — one more element of a list in which the first of like ones counts
- `OrderedMap.keys_ofList` — the keys in the order of their first positions
- `OrderedMap.get?_ofList` — the last value of a key
-/

namespace ClassForge

variable {α : Type}

/-- One more element joins those that are kept, unless one of these is like it. -/
theorem eraseDupsBy_append_singleton (like : α → α → Bool) (l : List α) (a : α) :
    (l ++ [a]).eraseDupsBy like =
      if (l.eraseDupsBy like).any (like a) then l.eraseDupsBy like
      else l.eraseDupsBy like ++ [a] := by
  -- The induction is on the loop, which holds in reverse what is kept.
  suffices ∀ kept, List.eraseDupsBy.loop like (l ++ [a]) kept =
      if (List.eraseDupsBy.loop like l kept).any (like a) then List.eraseDupsBy.loop like l kept
      else List.eraseDupsBy.loop like l kept ++ [a] from this []
  induction l with
  | nil =>
    intro kept
    cases hlike : kept.any (like a) <;> simp [List.eraseDupsBy.loop, hlike]
  | cons b l ih =>
    intro kept
    rw [List.cons_append, List.eraseDupsBy.loop, List.eraseDupsBy.loop]
    cases kept.any (like b) with
    | true => exact ih kept
    | false => exact ih (b :: kept)

namespace OrderedMap

theorem ofList_append_singleton (entries : List (String × α)) (e : String × α) :
    ofList (entries ++ [e]) = (ofList entries).insert e.1 e.2 := by
  rw [ofList, insertAll_append, insertAll_cons, insertAll_nil]
  rfl

/-- A repeated key keeps its first position. -/
theorem keys_ofList (entries : List (String × α)) :
    (ofList entries).keys = (entries.map Prod.fst).eraseDups := by
  induction entries using List.reverseRecOn with
  | nil => rfl
  | append_singleton entries e ih =>
    rw [ofList_append_singleton, List.map_append, List.map_singleton, List.eraseDups,
      eraseDupsBy_append_singleton, ← List.eraseDups, ← ih]
    by_cases h : e.1 ∈ (ofList entries).keys
    · rw [keys_insert_of_mem h, if_pos (by simpa using h)]
    · rw [keys_insert_of_not_mem h, if_neg (by simpa using h)]

/-- A repeated key takes its last value. -/
theorem get?_ofList (entries : List (String × α)) (key : String) :
    (ofList entries).get? key = entries.reverse.lookup key := by
  induction entries using List.reverseRecOn with
  | nil => rfl
  | append_singleton entries e ih =>
    rw [ofList_append_singleton, get?_insert, ih, List.reverse_append, List.reverse_singleton,
      List.singleton_append, List.lookup_cons]
    by_cases h : key = e.1
    · rw [if_pos h, beq_iff_eq.2 h]
    · rw [if_neg h, beq_eq_false_iff_ne.2 h]

end OrderedMap

end ClassForge
