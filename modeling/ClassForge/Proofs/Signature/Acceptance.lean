import ClassForge.Proofs.Construction.Binding
import ClassForge.Proofs.Signature.Declaration

/-!
# Lists of declarations

Which declarations a signature takes one after another, what it holds behind them, and where it stops
at others.

## Main definitions

- `Signature.declared` — the parameters that some declarations are of
- `Signature.Holds` — a signature that has taken some declarations
- `Signature.Stops` — the first declaration that is refused

## Main statements

- `Signature.add_eq_error_iff` — with which fault a declaration is refused
- `Signature.addAll_eq_ok_iff`, `Signature.addAll_eq_error_iff` — what becomes of several ones
- `Signature.addAll_empty` — a signature takes the well-declared lists and no others
-/

namespace ClassForge.Signature

def declared (ds : List (String × Settings)) : List Parameter :=
  ds.map fun d => ⟨d.1, d.2⟩

/-- The parameters are those declared, in order. -/
structure Holds (s : Signature) (ds : List (String × Settings)) : Prop where
  parameters : s.parameters = declared ds
  distinct : (s.parameters.map Parameter.name).Nodup
  /-- The positional parameters without default come before the others. -/
  requiredFirst : s.required <+: s.positionals

/-- The declarations before one are taken, and that one is refused. -/
inductive Stops : List (String × Settings) → Fault → Prop
  | at {before after : List (String × Settings)} {d : String × Settings} {s : Signature} {f : Fault}
      (taken : s.Holds before) (refused : s.Rejects ⟨d.1, d.2⟩ f) : Stops (before ++ d :: after) f

variable {s t : Signature} {p : Parameter} {f : Fault} {ds es : List (String × Settings)}

/-! ### One declaration -/

theorem contains_eq_false_iff {name : String} :
    s.contains name = false ↔ name ∉ s.parameters.map Parameter.name := by
  rw [← contains_eq_true_iff, Bool.not_eq_true]

/-- The faults exclude each other. -/
theorem add_of_rejects (h : s.Rejects p f) : s.add p.name p.settings = .error f := by
  rw [add]
  cases h with
  | invalidName unnamed => rw [dif_pos unnamed]
  | reservedName reserved =>
    have hidentifier : isIdentifier p.name ≠ false := by
      rw [reserved]
      decide
    rw [dif_neg hidentifier, dif_pos reserved]
  | duplicate named taken =>
    obtain ⟨hidentifier, hfree⟩ := isParameterName_eq_true_iff.1 named
    rw [dif_neg (by simp [hidentifier]), dif_neg hfree, dif_pos (contains_eq_true_iff.2 taken)]
  | order named fresh positional required first =>
    obtain ⟨hidentifier, hfree⟩ := isParameterName_eq_true_iff.1 named
    have hcontains := contains_eq_false_iff.2 fresh
    have hblocking := blocking?_eq_some_iff.2 ⟨positional, required, first⟩
    rw [dif_neg (by simp [hidentifier]), dif_neg hfree, dif_neg (by simp [hcontains])]
    split
    · next q hq => rw [Option.some.inj (hblocking.symm.trans hq)]
    · next hnone => cases hblocking.symm.trans hnone

theorem add_eq_error_iff : s.add p.name p.settings = .error f ↔ s.Rejects p f :=
  ⟨rejects_of_add, add_of_rejects⟩

/-! ### Several declarations -/

theorem addAll_cons (d : String × Settings) :
    s.addAll (d :: ds) = s.add d.1 d.2 >>= fun t => t.addAll ds := by
  rw [addAll, List.foldlM_cons]
  rfl

theorem addAll_append : s.addAll (ds ++ es) = s.addAll ds >>= fun t => t.addAll es := by
  rw [addAll, List.foldlM_append]
  rfl

theorem parameters_of_addAll (h : s.addAll ds = .ok t) :
    t.parameters = s.parameters ++ declared ds := by
  induction ds generalizing s with
  | nil =>
    obtain rfl : s = t := Except.ok.inj h
    rw [declared, List.map_nil, List.append_nil]
  | cons d ds ih =>
    rw [addAll_cons] at h
    obtain ⟨u, hu, h⟩ := Except.bind_eq_ok_iff.1 h
    rw [ih h, parameters_of_add hu, List.append_assoc]
    rfl

/-- The checks of one declaration after another are those of the whole list. -/
theorem exists_addAll_iff :
    (∃ t, s.addAll ds = .ok t) ↔ WellDeclared (s.parameters ++ declared ds) := by
  induction ds generalizing s with
  | nil =>
    rw [declared, List.map_nil, List.append_nil]
    exact ⟨fun _ => s.wellDeclared, fun _ => ⟨s, rfl⟩⟩
  | cons d ds ih =>
    rw [addAll_cons, declared, List.map_cons, List.append_cons]
    constructor
    · rintro ⟨t, ht⟩
      obtain ⟨u, hu, ht⟩ := Except.bind_eq_ok_iff.1 ht
      rw [← parameters_of_add hu]
      exact ih.1 ⟨t, ht⟩
    · intro hw
      obtain ⟨u, hu⟩ := exists_add_eq_ok_iff.2 hw.of_append
      rw [← parameters_of_add hu] at hw
      obtain ⟨t, ht⟩ := ih.2 hw
      exact ⟨t, Except.bind_eq_ok_iff.2 ⟨u, hu, ht⟩⟩

theorem addAll_eq_ok_iff : s.addAll ds = .ok t ↔ t.parameters = s.parameters ++ declared ds := by
  constructor
  · exact parameters_of_addAll
  · intro h
    obtain ⟨u, hu⟩ := exists_addAll_iff.2 (h ▸ t.wellDeclared)
    obtain rfl : t = u := ext (h.trans (parameters_of_addAll hu).symm)
    exact hu

theorem addAll_eq_error_iff :
    s.addAll ds = .error f ↔
      ∃ before d after t, ds = before ++ d :: after ∧ s.addAll before = .ok t ∧
        t.Rejects ⟨d.1, d.2⟩ f := by
  constructor
  · intro h
    obtain ⟨before, d, after, t, rfl, ht, hd⟩ := Except.exists_of_foldlM_eq_error h
    exact ⟨before, d, after, t, rfl, ht, (add_eq_error_iff (p := ⟨d.1, d.2⟩)).1 hd⟩
  · rintro ⟨before, d, after, t, rfl, ht, hd⟩
    have hadd : t.add d.1 d.2 = .error f := add_eq_error_iff.2 hd
    rw [addAll_append, ht, Except.ok_bind, addAll_cons, hadd, Except.error_bind]

/-! ### Starting from nothing -/

theorem required_isPrefix_positionals : s.required <+: s.positionals := by
  have hfront : ∀ p ∈ s.positionals.take s.required.length,
      p.settings.defaultFn.isNone = true := by
    intro p hp
    obtain ⟨i, hi, rfl⟩ := List.mem_take_iff_getElem.1 hp
    obtain ⟨hreq, hlen⟩ := Nat.lt_min.1 hi
    rw [← Parameter.not_hasDefault, (s.hasDefault_positionals i hlen).2 hreq, Bool.not_false]
  have hback : ∀ p ∈ s.positionals.drop s.required.length,
      ¬ p.settings.defaultFn.isNone = true := by
    intro p hp
    obtain ⟨i, hi, rfl⟩ := List.mem_drop_iff_getElem.1 hp
    rw [← Parameter.not_hasDefault, Bool.not_eq_true', s.hasDefault_positionals]
    omega
  have hrequired : s.required = s.positionals.take s.required.length :=
    calc s.required
        = (s.positionals.take s.required.length ++
            s.positionals.drop s.required.length).filter (·.settings.defaultFn.isNone) := by
          rw [List.take_append_drop]
          rfl
      _ = s.positionals.take s.required.length := by
          rw [List.filter_append, List.filter_eq_self.2 hfront, List.filter_eq_nil_iff.2 hback,
            List.append_nil]
  rw [hrequired]
  exact List.take_prefix ..

theorem addAll_empty_eq_ok_iff : empty.addAll ds = .ok s ↔ s.Holds ds := by
  rw [addAll_eq_ok_iff]
  exact ⟨fun h => ⟨h, s.wellDeclared.distinct, required_isPrefix_positionals⟩, fun h => h.parameters⟩

/-- Declarations succeed one after another exactly when their names are distinct identifiers that are
not reserved and no positional parameter without default stands behind one with default. The
signature then holds them in order. The first declaration that fails does so with what is wrong with
it, which tells the parameter that has its name or the first one with default. -/
theorem addAll_empty (ds : List (String × Settings)) :
    ((∃ s, empty.addAll ds = .ok s) ↔ WellDeclared (declared ds)) ∧
      (∀ s, empty.addAll ds = .ok s ↔ s.Holds ds) ∧
      ∀ f, empty.addAll ds = .error f ↔ Stops ds f := by
  refine ⟨exists_addAll_iff, fun s => addAll_empty_eq_ok_iff, fun f => ?_⟩
  rw [addAll_eq_error_iff]
  constructor
  · rintro ⟨before, d, after, t, rfl, ht, hd⟩
    exact .at (addAll_empty_eq_ok_iff.1 ht) hd
  · rintro ⟨ht, hd⟩
    exact ⟨_, _, _, _, rfl, addAll_empty_eq_ok_iff.2 ht, hd⟩

-- Keywords may stand anywhere, but the last declaration comes too late.
example : empty.addAll [("foo", Settings.new.defaultValue .nil), ("bar", Settings.new.option true),
    ("baz", .new)] = .error (.invalidParameterOrder "baz" "foo") := by
  rfl

end ClassForge.Signature
