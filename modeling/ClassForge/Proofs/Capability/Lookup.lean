import ClassForge.Capability
import Mathlib.Logic.Function.Iterate

/-!
# Types by name

A text names a type exactly if it is the name of a base type with any number of question marks behind
it. The type has that text as its name, and question marks make no difference to it but for nil.

## Main definitions

- `Capability.bases` — the types that are named without question marks
- `Capability.marks` — so many question marks
- `Capability.IsNamed` — the texts that name a type

## Main statements

- `Capability.lookup?_eq_some_iff` — which types are named by which texts
- `Capability.name_optional_iterate`, `Capability.check_optional_iterate_of_ne_nil` — what question
  marks do to the name of a type and to its check
- `Capability.lookup?_resolves` — which texts name a type, and what the type does
-/

namespace ClassForge.Capability

/-- The types that a name without question marks stands for. -/
def bases : List Capability :=
  [any, integer, float, string, bool, coercibleInteger]

def marks (k : Nat) : String :=
  String.ofList (List.replicate k '?')

/-- A type is named by the name of a base type with question marks behind it, each of which makes it
optional. -/
def IsNamed (c : Capability) (n : String) : Prop :=
  ∃ b ∈ bases, ∃ k, n = b.name ++ marks k ∧ c = optional^[k] b

variable {b c : Capability} {k : Nat} {n : String}

/-! ### Base types -/

theorem forall_mem_bases {P : Capability → Prop} :
    (∀ b ∈ bases, P b) ↔
      P any ∧ P integer ∧ P float ∧ P string ∧ P bool ∧ P coercibleInteger := by
  simp [bases]

theorem base?_eq_some_iff : base? n = some b ↔ b ∈ bases ∧ b.name = n := by
  have hname : ∀ b ∈ bases, base? b.name = some b :=
    forall_mem_bases.2 ⟨rfl, rfl, rfl, rfl, rfl, rfl⟩
  constructor
  · intro h
    unfold base? at h
    split at h <;> cases h <;> exact ⟨by simp [bases], rfl⟩
  · rintro ⟨hb, rfl⟩
    exact hname b hb

/-- The name of a base type does not end in a question mark. -/
theorem not_marked_of_mem_bases (hb : b ∈ bases) (rest : List Char) :
    b.name.toList.reverse ≠ '?' :: rest := by
  have hlast : ∀ b ∈ bases, b.name.toList.reverse.head? ≠ some '?' :=
    forall_mem_bases.2 (by decide)
  intro h
  exact hlast b hb (by rw [h]; rfl)

/-- A base type that accepts nil keeps it. -/
theorem eq_nil_of_check_nil {w : Value} (hb : b ∈ bases) (h : b.check .nil = .ok w) : w = .nil := by
  have hnil : ∀ b ∈ bases, b.check .nil = .ok w → w = .nil :=
    forall_mem_bases.2 ⟨fun h => (Except.ok.inj h).symm, nofun, nofun, nofun, nofun, nofun⟩
  exact hnil b hb h

/-! ### Question marks -/

theorem lookupReversed_marks (k : Nat) {name : List Char} (h : ∀ rest, name ≠ '?' :: rest) :
    lookupReversed (List.replicate k '?' ++ name) =
      (base? (String.ofList name.reverse)).map optional^[k] := by
  induction k with
  | zero =>
    rw [List.replicate_zero, List.nil_append, Function.iterate_zero, Option.map_id]
    unfold lookupReversed
    split
    next rest => exact absurd rfl (h rest)
    next => rfl
  | succ k ih =>
    rw [List.replicate_succ, List.cons_append, lookupReversed, ih, Option.map_map,
      Function.iterate_succ']

theorem exists_of_lookupReversed {cs : List Char} (h : lookupReversed cs = some c) :
    ∃ b ∈ bases, ∃ k, cs = List.replicate k '?' ++ b.name.toList.reverse ∧ c = optional^[k] b := by
  fun_induction lookupReversed cs generalizing c with
  | case1 rest ih =>
    obtain ⟨inner, hinner, rfl⟩ := Option.map_eq_some_iff.1 h
    obtain ⟨b, hb, k, rfl, rfl⟩ := ih hinner
    refine ⟨b, hb, k + 1, rfl, ?_⟩
    rw [Function.iterate_succ_apply']
  | case2 cs =>
    obtain ⟨hb, hname⟩ := base?_eq_some_iff.1 h
    refine ⟨c, hb, 0, ?_, rfl⟩
    rw [hname]
    simp

/-- The texts that name a type, and the types that they name. -/
theorem lookup?_eq_some_iff : lookup? n = some c ↔ c.IsNamed n := by
  constructor
  · intro h
    obtain ⟨b, hb, k, hn, rfl⟩ := exists_of_lookupReversed h
    refine ⟨b, hb, k, ?_, rfl⟩
    rw [← String.toList_inj, ← List.reverse_inj, hn]
    simp [marks]
  · rintro ⟨b, hb, k, rfl, rfl⟩
    have hreverse : (b.name ++ marks k).toList.reverse =
        List.replicate k '?' ++ b.name.toList.reverse := by simp [marks]
    have hbase : base? b.name = some b := base?_eq_some_iff.2 ⟨hb, rfl⟩
    rw [lookup?, hreverse, lookupReversed_marks k (not_marked_of_mem_bases hb),
      List.reverse_reverse, String.ofList_toList, hbase, Option.map_some]

theorem name_optional_iterate (b : Capability) (k : Nat) :
    (optional^[k] b).name = b.name ++ marks k := by
  induction k with
  | zero => simp [marks]
  | succ k ih =>
    rw [Function.iterate_succ_apply', optional, ih, String.append_assoc]
    refine congrArg (b.name ++ ·) (String.toList_inj.1 ?_)
    simp [marks, List.replicate_succ']

theorem check_optional_nil (c : Capability) : (optional c).check .nil = .ok .nil := rfl

theorem check_optional_of_ne_nil (c : Capability) {v : Value} (h : v ≠ .nil) :
    (optional c).check v = c.check v := by
  cases v with
  | nil => exact absurd rfl h
  | bool | int | float | str | list | map => rfl

theorem check_optional_iterate_nil (b : Capability) (h : 0 < k) :
    (optional^[k] b).check .nil = .ok .nil := by
  obtain ⟨k, rfl⟩ := Nat.exists_eq_succ_of_ne_zero (Nat.ne_of_gt h)
  rw [Function.iterate_succ_apply', check_optional_nil]

theorem check_optional_iterate_of_ne_nil (b : Capability) (k : Nat) {v : Value} (h : v ≠ .nil) :
    (optional^[k] b).check v = b.check v := by
  induction k with
  | zero => rfl
  | succ k ih => rw [Function.iterate_succ_apply', check_optional_of_ne_nil _ h, ih]

/-- What a base type accepts is still accepted behind question marks, with the same result. -/
theorem check_optional_iterate_eq_ok (hb : b ∈ bases) (k : Nat) {v w : Value}
    (h : b.check v = .ok w) : (optional^[k] b).check v = .ok w := by
  obtain rfl | hk := Nat.eq_zero_or_pos k
  · exact h
  by_cases hv : v = .nil
  · subst hv
    rw [check_optional_iterate_nil b hk, eq_nil_of_check_nil hb h]
  · rw [check_optional_iterate_of_ne_nil b k hv, h]

/-- A text names a type if and only if it is one of six words with any number of question marks behind
it. The type has the text as its name. Without question marks it is the base type of the word, and with
them it keeps nil and does with all other values what the base type does, so that it accepts at least
as much. -/
theorem lookup?_resolves (n : String) :
    ((∃ c, lookup? n = some c) ↔
      ∃ word ∈ ["any", "integer", "float", "string", "bool", "coercible_integer"],
        ∃ k, n = word ++ marks k) ∧
    (∀ c, lookup? n = some c → c.name = n) ∧
    ∀ b ∈ bases, ∀ k, n = b.name ++ marks k → ∃ c, lookup? n = some c ∧ (k = 0 → c = b) ∧
      (0 < k → c.check .nil = .ok .nil ∧ (∀ v, v ≠ .nil → c.check v = b.check v) ∧
        ∀ v w, b.check v = .ok w → c.check v = .ok w) := by
  refine ⟨⟨?_, ?_⟩, ?_, ?_⟩
  · rintro ⟨c, h⟩
    obtain ⟨b, hb, k, hn, -⟩ := lookup?_eq_some_iff.1 h
    exact ⟨b.name, List.mem_map_of_mem hb, k, hn⟩
  · rintro ⟨word, hword, k, hn⟩
    obtain ⟨b, hb, rfl⟩ : ∃ b ∈ bases, b.name = word := List.mem_map.1 hword
    exact ⟨optional^[k] b, lookup?_eq_some_iff.2 ⟨b, hb, k, hn, rfl⟩⟩
  · intro c h
    obtain ⟨b, -, k, rfl, rfl⟩ := lookup?_eq_some_iff.1 h
    exact name_optional_iterate b k
  · intro b hb k hn
    refine ⟨optional^[k] b, lookup?_eq_some_iff.2 ⟨b, hb, k, hn, rfl⟩, ?_, fun hk => ?_⟩
    · rintro rfl
      rfl
    · exact ⟨check_optional_iterate_nil b hk, fun v => check_optional_iterate_of_ne_nil b k,
        fun v w => check_optional_iterate_eq_ok hb k⟩

/-- Two question marks behind the only base type that may replace a value. -/
theorem lookup?_resolves_twice :
    ∃ c, lookup? "coercible_integer??" = some c ∧ c.name = "coercible_integer??" ∧
      c.check .nil = .ok .nil ∧ c.check (.str " 42 ") = .ok (.int 42) ∧
      c.check (.bool true) = .error "cannot coerce bool to integer" := by
  obtain ⟨-, hname, hresolves⟩ := lookup?_resolves "coercible_integer??"
  have hb : coercibleInteger ∈ bases := by simp [bases]
  obtain ⟨c, hc, -, hmarked⟩ := hresolves coercibleInteger hb 2 (by decide)
  obtain ⟨hnil, hother, haccepts⟩ := hmarked (by decide)
  exact ⟨c, hc, hname c hc, hnil, haccepts _ _ rfl, hother (.bool true) nofun⟩

end ClassForge.Capability
