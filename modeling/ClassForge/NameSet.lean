/-!
# Name sets

Distinct names that remember the order in which they were first added. The readers of an instance
form such a set.

## Main definitions

- `NameSet` — distinct names in order
- `NameSet.insert`, `NameSet.ofList` — adding one name, and a list of names from left to right
-/

namespace ClassForge

/-- Distinct names, first added first. -/
structure NameSet where
  /-- The names in order. -/
  names : List String
  /-- No name occurs twice. -/
  distinct : names.Nodup

namespace NameSet

def empty : NameSet :=
  ⟨[], List.nodup_nil⟩

instance : EmptyCollection NameSet := ⟨empty⟩

instance : Inhabited NameSet := ⟨empty⟩

/-- Whether `name` was added. -/
def contains (s : NameSet) (name : String) : Bool :=
  s.names.contains name

def size (s : NameSet) : Nat :=
  s.names.length

/-- Adds `name` at the end, unless it is present. -/
def insert (s : NameSet) (name : String) : NameSet :=
  if h : name ∈ s.names then s
  else ⟨s.names ++ [name], List.nodup_append.2 ⟨s.distinct, by simp, by
    intro a ha b hb
    have hb : b = name := by simpa using hb
    exact fun e => h (hb ▸ e ▸ ha)⟩⟩

/-- The set of the listed names: each keeps the position of its first occurrence. -/
def ofList (names : List String) : NameSet :=
  names.foldl insert empty

@[ext] theorem ext {s t : NameSet} (h : s.names = t.names) : s = t := by
  cases s; cases t; cases h; rfl

@[simp] theorem contains_eq_true_iff {s : NameSet} {name : String} :
    s.contains name = true ↔ name ∈ s.names := by
  simp [contains]

@[simp] theorem mem_names_insert {s : NameSet} {name other : String} :
    other ∈ (s.insert name).names ↔ other ∈ s.names ∨ other = name := by
  rw [insert]
  split
  next h => exact ⟨.inl, fun o => o.elim id (· ▸ h)⟩
  next h => simp

theorem names_insert_of_not_mem {s : NameSet} {name : String} (h : name ∉ s.names) :
    (s.insert name).names = s.names ++ [name] := by
  rw [insert, dif_neg h]

/-- Names that are distinct already are kept as they are. -/
theorem names_ofList {names : List String} (h : names.Nodup) : (ofList names).names = names := by
  suffices ∀ (s : NameSet) (l : List String), (s.names ++ l).Nodup →
      (l.foldl insert s).names = s.names ++ l by
    simpa [ofList, empty] using this empty names (by simpa [empty] using h)
  intro s l hl
  induction l generalizing s with
  | nil => simp
  | cons n l ih =>
    have hn : n ∉ s.names := fun hn =>
      (List.nodup_append.1 hl).2.2 n hn n (by simp) rfl
    rw [List.foldl_cons, ih _ (by rw [names_insert_of_not_mem hn]; simpa using hl),
      names_insert_of_not_mem hn, List.append_assoc, List.singleton_append]

end NameSet

end ClassForge
