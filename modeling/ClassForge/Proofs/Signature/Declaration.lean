import ClassForge.Class
import ClassForge.Proofs.Outcome

/-!
# Single declarations

When a signature takes one more declaration, with which fault it refuses one, and what becomes of the
class on which the declaration was made.

## Main definitions

- `Signature.Rejects` — the faults of a declaration
- `Class.Grows` — a class with further parameters

## Main statements

- `Signature.rejects_of_add` — a declaration fails with the first thing that is wrong with it
- `Signature.exists_add_eq_ok_iff`, `Class.exists_define_eq_ok_iff` — it succeeds exactly when the
  parameters stay well declared
-/

namespace ClassForge

theorem isParameterName_eq_true_iff {name : String} :
    isParameterName name = true ↔ isIdentifier name = true ∧ name ≠ hookName := by
  simp [isParameterName]

namespace WellDeclared

variable {ps qs : List Parameter}

theorem of_append (h : WellDeclared (ps ++ qs)) : WellDeclared ps where
  named q hq := h.named q (List.mem_append_left qs hq)
  distinct := h.distinct.sublist ((List.sublist_append_left ps qs).map Parameter.name)
  ordered := h.ordered.sublist (List.sublist_append_left ps qs)

theorem not_mem_of_append {p : Parameter} (h : WellDeclared (ps ++ qs)) (hp : p ∈ qs) :
    p.name ∉ ps.map Parameter.name := by
  have hdistinct := h.distinct
  rw [List.map_append, List.nodup_append] at hdistinct
  intro hps
  exact hdistinct.2.2 _ hps _ (List.mem_map_of_mem hp) rfl

end WellDeclared

namespace Signature

/-- The fault of a declaration that a signature does not take. The name is looked at first, then
whether it is taken, and the order of positional parameters last. -/
inductive Rejects (s : Signature) (p : Parameter) : Fault → Prop
  | invalidName (unnamed : isIdentifier p.name = false) : Rejects s p (.invalidName p.name)
  | reservedName (reserved : p.name = hookName) : Rejects s p (.reservedName p.name)
  | duplicate (named : isParameterName p.name = true)
      (taken : p.name ∈ s.parameters.map Parameter.name) :
      Rejects s p (.duplicateParameter p.name)
  | order {q : Parameter} (named : isParameterName p.name = true)
      (fresh : p.name ∉ s.parameters.map Parameter.name)
      (positional : p.kind = .positional) (required : p.hasDefault = false)
      (first : s.positionals.find? (·.hasDefault) = some q) :
      Rejects s p (.invalidParameterOrder p.name q.name)

variable {s : Signature} {p : Parameter} {f : Fault}

theorem contains_eq_true_iff {name : String} :
    s.contains name = true ↔ name ∈ s.parameters.map Parameter.name := by
  simp [contains]

theorem blocking?_eq_some_iff {settings : Settings} {q : Parameter} :
    s.blocking? settings = some q ↔
      settings.kind = .positional ∧ settings.hasDefault = false ∧
        s.positionals.find? (·.hasDefault) = some q := by
  rw [blocking?]
  split
  · next h => simp [h.1, h.2]
  · next h =>
    constructor
    · intro hq
      cases hq
    · rintro ⟨hkind, hdef, -⟩
      exact absurd ⟨hkind, hdef⟩ h

theorem rejects_of_add (h : s.add p.name p.settings = .error f) : s.Rejects p f := by
  rw [add] at h
  split at h
  · next hidentifier =>
    cases h
    exact .invalidName hidentifier
  next hidentifier =>
  split at h
  · next hreserved =>
    cases h
    exact .reservedName hreserved
  next hreserved =>
  have hname : isParameterName p.name = true :=
    isParameterName_eq_true_iff.2 ⟨by simpa using hidentifier, hreserved⟩
  split at h
  · next htaken =>
    cases h
    exact .duplicate hname (contains_eq_true_iff.1 htaken)
  next hfresh =>
  split at h
  · next q hq =>
    cases h
    obtain ⟨hkind, hdef, hfirst⟩ := blocking?_eq_some_iff.1 hq
    exact .order hname (fun hc => hfresh (contains_eq_true_iff.2 hc)) hkind hdef hfirst
  · cases h

/-- What is refused would spoil the parameters. -/
theorem Rejects.not_wellDeclared (h : s.Rejects p f) : ¬ WellDeclared (s.parameters ++ [p]) := by
  intro hw
  have hname := hw.named p (by simp)
  cases h with
  | invalidName unnamed =>
    rw [(isParameterName_eq_true_iff.1 hname).1] at unnamed
    cases unnamed
  | reservedName reserved => exact (isParameterName_eq_true_iff.1 hname).2 reserved
  | duplicate _ taken => exact hw.not_mem_of_append (by simp) taken
  | @order q _ _ positional required first =>
    obtain ⟨hq, hqpos⟩ := List.mem_filter.1 (List.mem_of_find?_eq_some first)
    have hqdef : q.hasDefault = true := List.find?_some first
    have hpos : p.isPositional = true := by simpa [Parameter.isPositional] using positional
    -- The default of `q` calls for one of `p`.
    have hdef := (List.pairwise_append.1 hw.ordered).2.2 q hq p (by simp) hqpos hqdef hpos
    rw [required] at hdef
    cases hdef

theorem exists_add_eq_ok_iff :
    (∃ t, s.add p.name p.settings = .ok t) ↔ WellDeclared (s.parameters ++ [p]) := by
  constructor
  · rintro ⟨t, ht⟩
    have hparameters : t.parameters = s.parameters ++ [p] := parameters_of_add ht
    rw [← hparameters]
    exact t.wellDeclared
  · intro hw
    cases h : s.add p.name p.settings with
    | ok t => exact ⟨t, rfl⟩
    | error f => exact absurd hw (rejects_of_add h).not_wellDeclared

end Signature

/-! ### Classes -/

/-- The second class is the first one with further parameters behind its own. -/
structure Class.Grows (c : Class) (ps : List Parameter) (c' : Class) : Prop where
  name : c'.name = c.name
  ancestors : c'.ancestors = c.ancestors
  tolerance : c'.tolerance = c.tolerance
  parameters : c'.builder.signature.parameters = c.builder.signature.parameters ++ ps

namespace Class.Grows

theorem refl (c : Class) : c.Grows [] c :=
  ⟨rfl, rfl, rfl, by simp⟩

theorem trans {c c' c'' : Class} {ps qs : List Parameter} (h : c.Grows ps c')
    (h' : c'.Grows qs c'') : c.Grows (ps ++ qs) c'' where
  name := h'.name.trans h.name
  ancestors := h'.ancestors.trans h.ancestors
  tolerance := h'.tolerance.trans h.tolerance
  parameters := by rw [h'.parameters, h.parameters, List.append_assoc]

/-- A declaration adds its parameter. -/
theorem of_define {c c' : Class} {name : String} {settings : Settings}
    (h : c.define name settings = .ok c') : c.Grows [⟨name, settings⟩] c' := by
  obtain ⟨b, hb, rfl⟩ := Except.map_eq_ok_iff.1 h
  obtain ⟨s, hs, rfl⟩ := Except.map_eq_ok_iff.1 hb
  exact ⟨rfl, rfl, rfl, Signature.parameters_of_add hs⟩

end Class.Grows

theorem Class.exists_define_eq_ok_iff {c : Class} {p : Parameter} :
    (∃ d, c.define p.name p.settings = .ok d) ↔
      WellDeclared (c.builder.signature.parameters ++ [p]) := by
  rw [← Signature.exists_add_eq_ok_iff]
  constructor
  · rintro ⟨d, hd⟩
    obtain ⟨b, hb, _⟩ := Except.map_eq_ok_iff.1 hd
    obtain ⟨s, hs, _⟩ := Except.map_eq_ok_iff.1 hb
    exact ⟨s, hs⟩
  · rintro ⟨s, hs⟩
    exact ⟨_, Except.map_eq_ok_iff.2 ⟨_, Except.map_eq_ok_iff.2 ⟨s, hs, rfl⟩, rfl⟩⟩

end ClassForge
