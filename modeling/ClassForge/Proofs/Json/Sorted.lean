import ClassForge.Json
import ClassForge.OrderedMap

/-!
# Sorted documents

Inserting members one after another at the place that their key has sorts them as the map of all of
them is sorted, in which a repeated key has its last value.

## Main statements

- `Json.sorted_arr`, `Json.sorted_obj` — the sorted document of an array and of an object
- `Json.ofList_sortMembers` — the map of sorted members is the sorted map of the members
-/

namespace ClassForge.Json

theorem sorted_arr (items : List Json) : (arr items).sorted = arr (items.map sorted) := by
  have h : sortedItems items = items.map sorted := by
    induction items with
    | nil => rfl
    | cons j js ih => rw [sortedItems, ih, List.map_cons]
  rw [sorted, h]

theorem sorted_obj (members : List (String × Json)) :
    (obj members).sorted = obj (sortMembers (members.map fun m => (m.1, m.2.sorted))) := by
  have h : sortedMembers members = members.map fun m => (m.1, m.2.sorted) := by
    induction members with
    | nil => rfl
    | cons m ms ih => rw [sortedMembers, ih, List.map_cons]
  rw [sorted, h]

/-! ### Sorted members -/

section Members

variable {α β : Type} {key : String} {a : α} {e : String × α} {es : List (String × α)}

/-- The keys are in strictly ascending order. -/
def Ascending (es : List (String × α)) : Prop :=
  es.Pairwise fun e f => e.1 < f.1

theorem insertMember_of_lt (h : key < e.1) :
    insertMember key a (e :: es) = (key, a) :: e :: es := by
  rw [insertMember, if_pos h]

theorem insertMember_self : insertMember e.1 a (e :: es) = (e.1, a) :: es := by
  rw [insertMember, if_neg (String.lt_irrefl _), if_pos rfl]

theorem insertMember_of_gt (h : e.1 < key) :
    insertMember key a (e :: es) = e :: insertMember key a es := by
  have hne : key ≠ e.1 := fun heq => String.lt_irrefl _ (heq ▸ h)
  rw [insertMember, if_neg (String.lt_asymm h), if_neg hne]

/-- A key goes in front of another, is that one, or goes behind it. -/
theorem key_trichotomy (s t : String) : s < t ∨ s = t ∨ t < s := by
  by_cases hlt : s < t
  · exact .inl hlt
  · by_cases hgt : t < s
    · exact .inr (.inr hgt)
    · exact .inr (.inl (String.le_antisymm (String.not_lt.1 hgt) (String.not_lt.1 hlt)))

theorem map_insertMember (f : α → β) (key : String) (a : α) (es : List (String × α)) :
    (insertMember key a es).map (fun e => (e.1, f e.2)) =
      insertMember key (f a) (es.map fun e => (e.1, f e.2)) := by
  induction es with
  | nil => rfl
  | cons e es ih =>
    rw [insertMember, List.map_cons, insertMember]
    split
    · rfl
    · split
      · rfl
      · rw [List.map_cons, ih]

/-- Members are sorted without regard to their values. -/
theorem map_sortMembers (f : α → β) (es : List (String × α)) :
    (sortMembers es).map (fun e => (e.1, f e.2)) = sortMembers (es.map fun e => (e.1, f e.2)) := by
  rw [sortMembers, sortMembers, List.foldl_map]
  refine (List.foldl_hom (List.map fun e : String × α => (e.1, f e.2)) fun es e => ?_).symm
  exact (map_insertMember f e.1 e.2 es).symm

/-- A new key adds a member. -/
theorem insertMember_of_not_mem (h : key ∉ es.map Prod.fst) :
    (insertMember key a es).Perm (es ++ [(key, a)]) := by
  refine List.Perm.trans ?_ (List.perm_append_singleton _ _).symm
  induction es with
  | nil => exact .refl _
  | cons e es ih =>
    obtain ⟨hne, hes⟩ := not_or.1 fun o => h (List.mem_cons.2 o)
    obtain hlt | heq | hgt := key_trichotomy key e.1
    · rw [insertMember_of_lt hlt]
    · exact absurd heq hne
    · rw [insertMember_of_gt hgt]
      exact ((ih hes).cons e).trans (.swap ..)

/-- A key that is present keeps its place and gets the value. -/
theorem insertMember_of_mem (hs : Ascending es) (h : key ∈ es.map Prod.fst) :
    insertMember key a es = es.map fun e => if e.1 = key then (e.1, a) else e := by
  induction es with
  | nil => cases h
  | cons e es ih =>
    obtain ⟨hlt, hs⟩ := List.pairwise_cons.1 hs
    have hne : ∀ f ∈ es, f.1 ≠ e.1 := fun f hf heq => String.lt_irrefl _ (heq ▸ hlt f hf)
    rw [List.map_cons]
    obtain rfl | h := List.mem_cons.1 h
    · have hrest : (es.map fun f => if f.1 = e.1 then (f.1, a) else f) = es :=
        (List.map_congr_left fun f hf => if_neg (hne f hf)).trans (List.map_id es)
      rw [insertMember_self, if_pos rfl, hrest]
    · obtain ⟨f, hf, rfl⟩ := List.mem_map.1 h
      rw [insertMember_of_gt (hlt f hf), if_neg (hne f hf).symm, ih hs h]

theorem mem_insertMember (h : e ∈ insertMember key a es) : e.1 = key ∨ e ∈ es := by
  induction es with
  | nil =>
    obtain rfl := List.mem_singleton.1 h
    exact .inl rfl
  | cons f es ih =>
    rw [insertMember] at h
    split at h
    · obtain rfl | h := List.mem_cons.1 h
      · exact .inl rfl
      · exact .inr h
    · split at h
      · obtain rfl | h := List.mem_cons.1 h
        · exact .inl rfl
        · exact .inr (List.mem_cons_of_mem _ h)
      · obtain rfl | h := List.mem_cons.1 h
        · exact .inr List.mem_cons_self
        · exact (ih h).imp_right (List.mem_cons_of_mem _)

theorem Ascending.insertMember (hs : Ascending es) : Ascending (insertMember key a es) := by
  induction es with
  | nil => exact List.pairwise_singleton ..
  | cons e es ih =>
    obtain ⟨hlt, hs'⟩ := List.pairwise_cons.1 hs
    obtain h | rfl | h := key_trichotomy key e.1
    · rw [insertMember_of_lt h]
      refine List.pairwise_cons.2 ⟨List.forall_mem_cons.2 ⟨h, fun f hf => ?_⟩, hs⟩
      exact String.lt_trans h (hlt f hf)
    · rw [insertMember_self]
      exact List.pairwise_cons.2 ⟨hlt, hs'⟩
    · rw [insertMember_of_gt h]
      refine List.pairwise_cons.2 ⟨fun f hf => ?_, ih hs'⟩
      obtain hkey | hf := mem_insertMember hf
      · exact hkey ▸ h
      · exact hlt f hf

theorem perm_insertMember {m : OrderedMap α} (hs : Ascending es) (h : es.Perm m.toList) :
    (insertMember key a es).Perm (m.insert key a).toList := by
  have hkeys : (es.map Prod.fst).Perm m.keys := m.map_fst_toList ▸ h.map Prod.fst
  by_cases hkey : key ∈ m.keys
  · rw [insertMember_of_mem hs (hkeys.mem_iff.2 hkey), OrderedMap.toList_insert_of_mem hkey]
    exact h.map _
  · rw [OrderedMap.toList_insert_of_not_mem hkey]
    exact (insertMember_of_not_mem fun hmem => hkey (hkeys.mem_iff.1 hmem)).trans (h.append_right _)

/-- Sorted members are the entries of the map of the members, in ascending order. -/
theorem sortMembers_spec (es : List (String × α)) :
    Ascending (sortMembers es) ∧ (sortMembers es).Perm (OrderedMap.ofList es).toList := by
  -- what one insertion keeps, from any start on
  suffices h : ∀ (sorted : List (String × α)) (m : OrderedMap α), Ascending sorted →
      sorted.Perm m.toList →
      Ascending (es.foldl (fun sorted e => Json.insertMember e.1 e.2 sorted) sorted) ∧
        (es.foldl (fun sorted e => Json.insertMember e.1 e.2 sorted) sorted).Perm
          (m.insertAll es).toList from
    h [] .empty .nil (.refl _)
  induction es with
  | nil => exact fun sorted m hs hp => ⟨hs, hp⟩
  | cons e es ih => exact fun sorted m hs hp => ih _ _ hs.insertMember (perm_insertMember hs hp)

/-- The map of sorted members is the sorted map of the members. -/
theorem ofList_sortMembers (es : List (String × α)) :
    OrderedMap.ofList (sortMembers es) = (OrderedMap.ofList es).sort (· ≤ ·) := by
  obtain ⟨hs, hp⟩ := sortMembers_spec es
  have hkeys : ((sortMembers es).map Prod.fst).Perm (OrderedMap.ofList es).keys :=
    OrderedMap.map_fst_toList (OrderedMap.ofList es) ▸ hp.map Prod.fst
  have hlist : (OrderedMap.ofList (sortMembers es)).toList = sortMembers es :=
    OrderedMap.toList_ofList (hkeys.nodup_iff.2 (OrderedMap.ofList es).distinct)
  apply OrderedMap.ext_get?
  · -- both lists of keys ascend
    rw [OrderedMap.keys_sort, ← OrderedMap.map_fst_toList, hlist]
    have hascending : ((sortMembers es).map Prod.fst).Pairwise (· ≤ ·) :=
      List.pairwise_map.2 (hs.imp fun h => String.not_lt.1 (String.lt_asymm h))
    have hmerge : ((OrderedMap.ofList es).keys.mergeSort (· ≤ ·)).Pairwise (· ≤ ·) := by
      refine (List.pairwise_mergeSort ?_ ?_ _).imp of_decide_eq_true
      · simp only [decide_eq_true_eq]
        exact fun _ _ _ => String.le_trans
      · simp only [Bool.or_eq_true, decide_eq_true_eq]
        exact String.le_total
    exact List.Perm.eq_of_pairwise (fun _ _ _ _ => String.le_antisymm) hascending hmerge
      (hkeys.trans (List.mergeSort_perm ..).symm)
  · intro key _
    apply Option.ext
    intro a
    rw [OrderedMap.get?_sort, OrderedMap.get?_eq_some_iff, OrderedMap.get?_eq_some_iff, hlist]
    exact hp.mem_iff

end Members

end ClassForge.Json
