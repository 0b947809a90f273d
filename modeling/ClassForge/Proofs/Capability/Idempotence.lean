import ClassForge.Proofs.Capability.Lookup
import ClassForge.Proofs.Construction.OwnSlots

/-!
# Types leave what they have accepted

The types made from base types and lists of values accept each value that they give, and give it again.
All but coercible integers give the very value that they are asked about. So an instance whose
parameters have such types is made again from its own slots.

## Main definitions

- `Capability.MadeFrom` — the types made from a base type or from a list of values

## Main statements

- `Capability.MadeFrom.check_eq_ok` — what such a type gives
- `Capability.check_idempotent` — such types are idempotent, and constructions with them too
-/

namespace ClassForge.Capability

/-- The types that are made from a base type or from a list of values by making them optional, however
often. The second argument is what they are made from. -/
inductive MadeFrom : Capability → Capability → Prop where
  | base {b : Capability} (h : b ∈ bases) : MadeFrom b b
  | oneOf (values : List Value) : MadeFrom (oneOf values) (oneOf values)
  | optional {c b : Capability} (h : MadeFrom c b) : MadeFrom (optional c) b

variable {b c : Capability} {v w : Value}

theorem eq_of_check_ofKind {kind : String} (h : (ofKind kind).check v = .ok w) : w = v := by
  simp only [ofKind] at h
  split at h
  next => exact (Except.ok.inj h).symm
  next => cases h

/-- Accepted values are those that equal a listed one, and they are not replaced by it. -/
theorem eq_of_check_oneOf {values : List Value} (h : (oneOf values).check v = .ok w) : w = v := by
  simp only [oneOf] at h
  split at h
  next => exact (Except.ok.inj h).symm
  next => cases h

theorem exists_int_of_check_coercibleInteger (h : coercibleInteger.check v = .ok w) :
    ∃ i, w = .int i := by
  simp only [coercibleInteger] at h
  split at h
  next i => exact ⟨i, (Except.ok.inj h).symm⟩
  next x =>
    split at h
    next => exact ⟨_, (Except.ok.inj h).symm⟩
    next => cases h
  next s =>
    split at h
    next i _ => exact ⟨i, (Except.ok.inj h).symm⟩
    next => cases h
  next => cases h

theorem eq_of_check_of_mem_bases (hb : b ∈ bases) (hne : b ≠ coercibleInteger)
    (h : b.check v = .ok w) : w = v := by
  have hsame : ∀ b ∈ bases, b ≠ coercibleInteger → b.check v = .ok w → w = v :=
    forall_mem_bases.2 ⟨fun _ h => (Except.ok.inj h).symm, fun _ => eq_of_check_ofKind,
      fun _ => eq_of_check_ofKind, fun _ => eq_of_check_ofKind, fun _ => eq_of_check_ofKind,
      fun hne => absurd rfl hne⟩
  exact hsame b hb hne h

namespace MadeFrom

/-- The value that a type gives it accepts, and leaves as it is. Only coercible integers give another
value than the one they are asked about. -/
theorem check_eq_ok (hc : MadeFrom c b) (h : c.check v = .ok w) :
    c.check w = .ok w ∧ (b ≠ coercibleInteger → w = v) := by
  induction hc generalizing v with
  | @base b hb =>
    by_cases hcoercible : b = coercibleInteger
    · subst hcoercible
      obtain ⟨i, rfl⟩ := exists_int_of_check_coercibleInteger h
      exact ⟨rfl, fun hne => absurd rfl hne⟩
    · obtain rfl := eq_of_check_of_mem_bases hb hcoercible h
      exact ⟨h, fun _ => rfl⟩
  | oneOf values =>
    obtain rfl := eq_of_check_oneOf h
    exact ⟨h, fun _ => rfl⟩
  | @optional c b _ ih =>
    by_cases hv : v = .nil
    · subst hv
      obtain rfl := Except.ok.inj ((check_optional_nil c).symm.trans h)
      exact ⟨rfl, fun _ => rfl⟩
    · rw [check_optional_of_ne_nil c hv] at h
      obtain ⟨hagain, heq⟩ := ih h
      refine ⟨?_, heq⟩
      by_cases hw : w = .nil
      · subst hw
        exact check_optional_nil c
      · rw [check_optional_of_ne_nil c hw, hagain]

end MadeFrom

/-- All types of parameters, if they have any, are made from base types and lists of values. -/
theorem settled_of_madeFrom {p : Parameter}
    (h : ∀ type, p.settings.type = some type → ∃ b, MadeFrom type b) : p.Settled := by
  intro v w haccept
  rw [Parameter.accept] at haccept ⊢
  cases htype : p.settings.type with
  | none => rfl
  | some type =>
    obtain ⟨b, hb⟩ := h type htype
    rw [htype] at haccept
    exact (hb.check_eq_ok haccept).1

/-- A type that is made from a base type or a list of values accepts what it gives and gives it again,
and unless it is made from coercible integers, it gives the value that it is asked about. So an instance
of a class whose parameters have such types, or none, is made again from its own slots. -/
theorem check_idempotent :
    (∀ c b v w, MadeFrom c b → c.check v = .ok w →
      c.check w = .ok w ∧ (b ≠ coercibleInteger → w = v)) ∧
    ∀ (c : Class) (args : Args) (self : Instance), c.Standard →
      (∀ p ∈ c.builder.signature.parameters, ∀ type, p.settings.type = some type →
        ∃ b, MadeFrom type b) →
      c.instantiate args = .ok self →
      c.instantiate (args.fedBack c.builder.signature self) = .ok self :=
  ⟨fun _ _ _ _ hc => hc.check_eq_ok, fun _ _ _ hstandard htypes =>
    hstandard.instantiate_fedBack fun p hp => settled_of_madeFrom (htypes p hp)⟩

/-- A class with a parameter that is turned into an integer, and one whose default is that integer. -/
def gauge : Except Fault Class := do
  let c ← (Class.new "Gauge").param "size" (Settings.new.ofType (optional coercibleInteger))
  c.option "limit" (Settings.new.defaultWith fun self => (self.slot? "size").getD .nil)

theorem standard_of_gauge {c : Class} (h : gauge = .ok c) : c.Standard := by
  obtain ⟨d, hd, h⟩ := Except.bind_eq_ok_iff.1 h
  exact .option (.param (.root "Gauge" .new) hd) h

/-- A text is given first, and the integer that it was turned into is given back. -/
theorem check_idempotent_gauge :
    ∃ (c : Class) (self : Instance), c.Standard ∧
      (optional coercibleInteger).check (.str " 42 ") = .ok (.int 42) ∧
      (optional coercibleInteger).check (.int 42) = .ok (.int 42) ∧
      c.instantiate (.ofLists [.str " 42 "] []) = .ok self ∧
      self.slots.toList = [("size", .int 42), ("limit", .int 42)] ∧
      c.instantiate ((Args.ofLists [.str " 42 "] []).fedBack c.builder.signature self) =
        .ok self := by
  let limit : DefaultFn := fun self => (self.slot? "size").getD .nil
  have h : gauge.map (fun c =>
        ((c.instantiate (.ofLists [.str " 42 "] [])).map (·.slots.toList),
          c.builder.signature.parameters)) =
      .ok (.ok [("size", .int 42), ("limit", .int 42)],
        [⟨"size", (Settings.new.ofType (optional coercibleInteger)).option false⟩,
          ⟨"limit", (Settings.new.defaultWith limit).option true⟩]) := rfl
  obtain ⟨c, hc, h⟩ := Except.map_eq_ok_iff.1 h
  obtain ⟨hresult, hparameters⟩ := Prod.mk.inj h
  obtain ⟨self, hself, hslots⟩ := Except.map_eq_ok_iff.1 hresult
  have hmade : MadeFrom (optional coercibleInteger) coercibleInteger :=
    .optional (.base (by simp [bases]))
  have htypes : ∀ p ∈ c.builder.signature.parameters, ∀ type, p.settings.type = some type →
      ∃ b, MadeFrom type b := by
    intro p hp type htype
    rw [hparameters] at hp
    simp only [List.mem_cons, List.not_mem_nil, or_false] at hp
    obtain rfl | rfl := hp
    · exact ⟨_, Option.some.inj htype ▸ hmade⟩
    · cases htype
  have hcheck : (optional coercibleInteger).check (.str " 42 ") = .ok (.int 42) := rfl
  have hstandard := standard_of_gauge hc
  exact ⟨c, self, hstandard, hcheck, (check_idempotent.1 _ _ _ _ hmade hcheck).1, hself, hslots,
    check_idempotent.2 c _ self hstandard htypes hself⟩

end ClassForge.Capability
