import ClassForge.Manifest.Check
import ClassForge.Proofs.Registry.Classes

/-!
# What a check accepts

The check of a manifest taken apart: what it asks of each class and of each parameter.

## Main statements

- `ParameterDecl.check_eq_ok_iff`, `Manifest.checkClass_eq_ok_iff`, `Manifest.check_eq_ok_iff` — the
  check of a parameter, of a class and of a manifest
- `Manifest.exists_chain_of_closing?` — when following the parents ends, they are a chain
-/

namespace ClassForge

open Except (throw_eq_error pure_eq_ok)

theorem ParameterDecl.check_eq_ok_iff {p : ParameterDecl} :
    p.check = .ok () ↔
      isParameterName p.name.value = true ∧ p.Resolves ∧
        ¬ (p.isOptional = true ∧ p.constant.isSome = true) := by
  rw [check, Resolves]
  cases isParameterName p.name.value with
  | false => simp [throw_eq_error]
  | true =>
    cases p.type with
    | none => simp [throw_eq_error, pure_eq_ok]
    | some type =>
      cases h : Capability.lookup? type.value <;> simp [h, throw_eq_error, pure_eq_ok]

namespace Manifest

variable {m : Manifest} {source : Source} {name : String} {d : ClassDecl}

theorem checkClass_eq_ok_iff :
    m.checkClass source name d = .ok () ↔
      isIdentifier name = true ∧
        (∀ parent, d.parent = some parent → parent.value ∈ m.classes.keys) ∧
        m.closing? name = none ∧ ∀ p ∈ d.parameters, p.check = .ok () := by
  rw [checkClass, ← Except.forM_eq_ok_iff]
  cases isIdentifier name with
  | false => simp [throw_eq_error]
  | true =>
    cases d.parent with
    | none => cases m.closing? name <;> simp [throw_eq_error]
    | some parent =>
      by_cases hp : parent.value ∈ m.classes.keys
      · have hc : m.classes.contains parent.value = true := OrderedMap.contains_eq_true_iff.2 hp
        cases m.closing? name <;> simp [throw_eq_error, hp, hc]
      · have hc : m.classes.contains parent.value = false := by
          rwa [← Bool.not_eq_true, OrderedMap.contains_eq_true_iff]
        simp [throw_eq_error, hp, hc]

theorem check_eq_ok_iff :
    m.check source = .ok () ↔
      ∀ name d, m.classes.get? name = some d → m.checkClass source name d = .ok () := by
  rw [check, List.forM_eq_forM, Except.forM_eq_ok_iff]
  constructor
  · intro h name d hd
    exact h (name, d) (OrderedMap.get?_eq_some_iff.1 hd)
  · rintro h ⟨name, d⟩ he
    exact h name d (OrderedMap.get?_eq_some_iff.2 he)

/-- The parents that are followed to the end are a chain. The induction follows the walk. -/
theorem exists_chain_of_closing?
    (parents : ∀ a b, m.Extends a b → ∃ d, m.classes.get? b = some d)
    (hd : m.classes.get? name = some d) (h : m.closing? name = none) : ∃ l, m.Chain name l := by
  suffices ∀ start current unseen e, m.classes.get? current = some e →
      m.closingFrom? start current unseen = none → ∃ l, m.Chain current l from this _ _ _ d hd h
  intro start current unseen e he h
  fun_induction closingFrom? m start current unseen generalizing e with
  | case1 current unseen hp =>
    rw [parent?, he] at hp
    exact ⟨[], .root he hp⟩
  | case2 current unseen s hp _ ih =>
    rw [parent?, he] at hp
    obtain ⟨f, hf⟩ := parents current s.value ⟨e, s, he, hp, rfl⟩
    obtain ⟨l, hl⟩ := ih f hf h
    exact ⟨_, .step he hp hf hl⟩
  | case3 => cases h

end Manifest

end ClassForge
