import ClassForge.Proofs.Check.Cycles

/-!
# Valid manifests

Which manifests pass the check.

## Main definitions

- `ParameterDecl.Valid`, `Manifest.Valid` — the conditions on a parameter and on a manifest

## Main statements

- `Manifest.closing?_eq_none_of_acyclic` — without cycles the parents of every class end
- `Manifest.check_succeeds_iff` — the check comes to an end, and accepts exactly what is valid

## Design notes

The only loop of the check without a bound of its own is that along the parents of a class, and
`Manifest.Follows` is that loop. A walk that leaves the declared classes ends there.
-/

namespace ClassForge

/-- The condition on a declared parameter, wherever it stands. -/
structure ParameterDecl.Valid (p : ParameterDecl) : Prop where
  identifier : isIdentifier p.name.value = true
  unreserved : p.name.value ≠ hookName
  type : ∀ type, p.type = some type → ∃ c, Capability.lookup? type.value = some c
  /-- A parameter with a constant default is not optional besides. -/
  default : ¬ (p.constant.isSome = true ∧ p.isOptional = true)

theorem ParameterDecl.check_eq_ok_iff_valid {p : ParameterDecl} : p.check = .ok () ↔ p.Valid := by
  have htype : p.Resolves ↔
      ∀ type, p.type = some type → ∃ c, Capability.lookup? type.value = some c := by
    simp only [Resolves, Option.isSome_iff_exists]
  rw [check_eq_ok_iff, isParameterName_eq_true_iff, htype, and_comm (a := p.isOptional = true)]
  constructor
  · rintro ⟨⟨hidentifier, hunreserved⟩, htype, hdefault⟩
    exact ⟨hidentifier, hunreserved, htype, hdefault⟩
  · rintro ⟨hidentifier, hunreserved, htype, hdefault⟩
    exact ⟨⟨hidentifier, hunreserved⟩, htype, hdefault⟩

namespace Manifest

open Relation (TransGen)

/-- The condition on a manifest. -/
structure Valid (m : Manifest) : Prop where
  named : ∀ a d, m.classes.get? a = some d → isIdentifier a = true
  parents : ∀ a b, m.Extends a b → ∃ d, m.classes.get? b = some d
  acyclic : ∀ a, ¬ TransGen m.Extends a a
  parameters : ∀ a d, m.classes.get? a = some d → ∀ p ∈ d.params ++ d.options, p.Valid

variable {m : Manifest} {source : Source}

theorem closing?_eq_none_of_acyclic (acyclic : ∀ a, ¬ TransGen m.Extends a a) (name : String) :
    m.closing? name = none := by
  rw [closing?_eq_none_iff]
  rintro ⟨a, _, hcycle⟩
  exact acyclic a hcycle

theorem Valid.check (h : m.Valid) : m.check source = .ok () := by
  rw [check_eq_ok_iff]
  intro a d hd
  refine checkClass_eq_ok_iff.2 ⟨h.named a d hd, ?_, closing?_eq_none_of_acyclic h.acyclic a, ?_⟩
  · intro s hs
    exact OrderedMap.mem_keys_iff_get?.2 (h.parents a s.value ⟨d, s, hd, hs, rfl⟩)
  · intro p hp
    exact ParameterDecl.check_eq_ok_iff_valid.2 (h.parameters a d hd p hp)

theorem valid_of_check (h : m.check source = .ok ()) : m.Valid := by
  have hclass := fun a d hd => checkClass_eq_ok_iff.1 (check_eq_ok_iff.1 h a d hd)
  refine ⟨fun a d hd => (hclass a d hd).1, ?_, ?_, ?_⟩
  · rintro a _ ⟨d, s, hd, hs, rfl⟩
    exact OrderedMap.mem_keys_iff_get?.1 ((hclass a d hd).2.1 s hs)
  · intro a hcycle
    obtain ⟨d, hd⟩ := declared_of_transGen hcycle
    exact closing?_eq_none_iff.1 (hclass a d hd).2.2.1 ⟨a, .refl, hcycle⟩
  · intro a d hd p hp
    exact ParameterDecl.check_eq_ok_iff_valid.1 ((hclass a d hd).2.2.2 p hp)

/-- Whatever name the check starts from, following parents comes to an end, to the one that it goes by,
and the check accepts exactly the valid manifests. -/
theorem check_succeeds_iff (m : Manifest) (source : Source) :
    (∀ name r, m.Follows name name [] r ↔ m.closing? name = r) ∧
      (m.check source = .ok () ↔ m.Valid) := by
  refine ⟨?_, valid_of_check, Valid.check⟩
  intro name r
  exact follows_iff

end Manifest

end ClassForge
