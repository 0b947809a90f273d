import ClassForge.Constructor
import ClassForge.Proofs.Outcome
import Mathlib.Data.List.Find
import Mathlib.Data.List.Nodup

/-!
# The binding of arguments

Which calls a constructor accepts, what it binds for them, and with which fault it refuses the others.

## Main definitions

- `Signature.required` — the positional parameters for which there has to be an argument
- `Signature.argument?` — the argument that a call supplies for a parameter
- `Constructor.Accepts` — the condition on a call
- `Constructor.Refuses` — the faults of the other calls
- `Constructor.frame` — what is bound for an accepted call

## Main statements

- `Constructor.takeKeywords_eq` — what the keyword parameters take, and what they leave
- `Constructor.bind_eq_ok_iff`, `Constructor.bind_eq_error_iff` — the outcome of binding
- `Constructor.local?_frame` — a parameter is bound to its argument, if it was supplied
-/

namespace ClassForge

namespace Signature

/-- The names of the parameters passed by position. -/
def positionalNames (s : Signature) : List String :=
  s.positionals.map Parameter.name

/-- The names of the parameters passed by keyword. -/
def keywordNames (s : Signature) : List String :=
  s.keywords.map Parameter.name

/-- The positional parameters without default. -/
def required (s : Signature) : List Parameter :=
  s.positionals.filter (·.settings.defaultFn.isNone)

/-- The argument that a call supplies for a parameter: the one at its position among the positional
parameters, or the one with its name. -/
def argument? (s : Signature) (args : Args) (p : Parameter) : Option Value :=
  match p.kind with
  | .positional => args.positional[s.positionalNames.idxOf p.name]?
  | .keyword => args.keyword? p.name

/-- The supplied keywords that name no parameter passed by keyword, in the order of the call. -/
def undeclared (s : Signature) (args : Args) : OrderedMap Value :=
  args.keywords.filterKeys (· ∉ s.keywordNames)

end Signature

/-- Whether a parameter has neither a default nor an argument among the given keywords. -/
def Parameter.isMissingFrom (p : Parameter) (keywords : OrderedMap Value) : Bool :=
  !p.hasDefault && !keywords.contains p.name

namespace Constructor

/-- The supplied arguments of positional parameters, in declaration order. -/
def positionalArguments (c : Constructor) (args : Args) : List (String × Value) :=
  c.signature.positionalNames.zip args.positional

/-- The supplied arguments of keyword parameters, in declaration order. -/
def keywordArguments (c : Constructor) (args : Args) : List (String × Value) :=
  c.signature.keywords.filterMap fun p => (args.keyword? p.name).map (p.name, ·)

def locals (c : Constructor) (args : Args) : OrderedMap Value :=
  .ofList (c.positionalArguments args ++ c.keywordArguments args)

/-- A call that a constructor accepts. -/
structure Accepts (c : Constructor) (args : Args) : Prop where
  /-- No positional parameter without default is left without argument. -/
  enough : c.signature.required.length ≤ args.positional.length
  /-- Every positional argument has a parameter. -/
  bounded : args.positional.length ≤ c.signature.positionals.length
  /-- No keyword parameter without default is left without argument. -/
  complete : c.signature.keywords.find? (·.isMissingFrom args.keywords) = none
  /-- Every keyword has a parameter, or need not have one. -/
  known : c.tolerance = .reject → args.keywords.keys.find? (· ∉ c.signature.keywordNames) = none

/-- The fault of a call that is not accepted. Each case holds when those before it do not apply. -/
inductive Refuses (c : Constructor) (className : String) (args : Args) : Fault → Prop
  /-- The first positional parameter without argument has no default. -/
  | missingPositional {p : Parameter}
      (few : args.positional.length < c.signature.required.length)
      (first : c.signature.positionals[args.positional.length]? = some p)
      (required : p.hasDefault = false) :
      Refuses c className args (.missingArgument className p.name .positional)
  /-- There are more positional arguments than positional parameters. -/
  | tooMany
      (enough : c.signature.required.length ≤ args.positional.length)
      (many : c.signature.positionals.length < args.positional.length) :
      Refuses c className args
        (.tooManyArguments className args.positional.length c.signature.positionals.length)
  /-- The first keyword parameter in declaration order that has neither default nor argument. -/
  | missingKeyword {p : Parameter}
      (enough : c.signature.required.length ≤ args.positional.length)
      (bounded : args.positional.length ≤ c.signature.positionals.length)
      (first : c.signature.keywords.find? (·.isMissingFrom args.keywords) = some p) :
      Refuses c className args (.missingArgument className p.name .keyword)
  /-- The first keyword in the order of the call that names no keyword parameter. -/
  | unknownOption {name : String}
      (enough : c.signature.required.length ≤ args.positional.length)
      (bounded : args.positional.length ≤ c.signature.positionals.length)
      (complete : c.signature.keywords.find? (·.isMissingFrom args.keywords) = none)
      (strict : c.tolerance = .reject)
      (first : args.keywords.keys.find? (· ∉ c.signature.keywordNames) = some name) :
      Refuses c className args (.unknownOption className name)

/-- The state in which the body of a constructor starts for an accepted call. -/
def frame (c : Constructor) (self : Instance) (args : Args) : Frame where
  locals := c.locals args
  self := if c.tolerance = .absorb then
      { self with unknownOptions := some (c.signature.undeclared args) }
    else self

end Constructor

/-! ### Positional parameters -/

theorem Parameter.not_hasDefault (p : Parameter) : (!p.hasDefault) = p.settings.defaultFn.isNone :=
  Option.not_isSome _

namespace Signature

variable (s : Signature)

theorem nodup_positionalNames : s.positionalNames.Nodup :=
  s.wellDeclared.distinct.sublist (List.filter_sublist.map _)

theorem nodup_keywordNames : s.keywordNames.Nodup :=
  s.wellDeclared.distinct.sublist (List.filter_sublist.map _)

/-- Behind a positional parameter with default all have one. -/
theorem pairwise_positionals :
    s.positionals.Pairwise fun p q => p.hasDefault = true → q.hasDefault = true := by
  rw [positionals, List.pairwise_filter]
  exact s.wellDeclared.ordered.imp fun h hp hq hd => h hp hd hq

/-- In a list in which behind an element with `p` all have it, those without `p` come first. -/
theorem getElem_of_pairwise {α : Type} {p : α → Bool} {l : List α}
    (h : l.Pairwise fun a b => p a = true → p b = true) (i : Nat) (hi : i < l.length) :
    p l[i] = false ↔ i < l.countP (!p ·) := by
  induction l generalizing i with
  | nil => simp at hi
  | cons a l ih =>
    obtain ⟨ha, hl⟩ := List.pairwise_cons.1 h
    cases hp : p a with
    | true =>
      have hall : ∀ b ∈ a :: l, p b = true := List.forall_mem_cons.2 ⟨hp, fun b hb => ha b hb hp⟩
      have hc : (a :: l).countP (!p ·) = 0 := by
        rw [List.countP_eq_zero]
        intro b hb
        simp [hall b hb]
      simp [hc, hall _ (List.getElem_mem hi)]
    | false =>
      rw [List.countP_cons_of_pos (by simp [hp])]
      cases i with
      | zero => simp [hp]
      | succ i => simpa using ih hl i (by simpa using hi)

theorem requiredPositionals_eq_length : s.requiredPositionals = s.required.length := by
  simp only [requiredPositionals, required, Parameter.not_hasDefault, List.countP_eq_length_filter]

/-- The positional parameters without default are the first ones. -/
theorem hasDefault_positionals (i : Nat) (hi : i < s.positionals.length) :
    s.positionals[i].hasDefault = false ↔ i < s.required.length := by
  rw [← requiredPositionals_eq_length]
  exact getElem_of_pairwise s.pairwise_positionals i hi

theorem length_required_le : s.required.length ≤ s.positionals.length :=
  List.length_filter_le ..

end Signature

/-! ### Keyword parameters -/

/-- Another keyword is no matter for a parameter. -/
theorem Parameter.isMissingFrom_erase {p : Parameter} {name : String} (h : p.name ≠ name)
    (keywords : OrderedMap Value) :
    p.isMissingFrom (keywords.erase name) = p.isMissingFrom keywords := by
  rw [isMissingFrom, isMissingFrom, OrderedMap.contains_eq_isSome_get?, OrderedMap.get?_erase,
    if_neg h, ← OrderedMap.contains_eq_isSome_get?]

namespace Constructor

/-- One keyword parameter after another takes its argument. The first one without default for which
there is none is missing. What remains are the keywords with other names. -/
theorem takeKeywords_eq (className : String) {ps : List Parameter} (hd : (ps.map Parameter.name).Nodup)
    (locals rest : OrderedMap Value) :
    takeKeywords className ps locals rest =
      match ps.find? (·.isMissingFrom rest) with
      | some p => .error (.missingArgument className p.name .keyword)
      | none => .ok
        (locals.insertAll (ps.filterMap fun p => (rest.get? p.name).map (p.name, ·)),
          rest.filterKeys (· ∉ ps.map Parameter.name)) := by
  induction ps generalizing locals rest with
  | nil => simp [takeKeywords, OrderedMap.filterKeys_eq_self]
  | cons p ps ih =>
    rw [List.map_cons, List.nodup_cons] at hd
    obtain ⟨hp, hd⟩ := hd
    have hne : ∀ q ∈ ps, q.name ≠ p.name := fun q hq e => hp (e ▸ List.mem_map_of_mem hq)
    rw [takeKeywords, List.map_cons, OrderedMap.filterKeys_not_mem_cons]
    cases hv : rest.get? p.name with
    | some v =>
      have hc : rest.contains p.name = true :=
        OrderedMap.contains_eq_true_iff.2 (OrderedMap.mem_keys_of_get? hv)
      -- What is erased here has none of the names still to come.
      have hm : ∀ q ∈ ps, q.isMissingFrom (rest.erase p.name) = q.isMissingFrom rest :=
        fun q hq => Parameter.isMissingFrom_erase (hne q hq) rest
      have hf : (ps.filterMap fun q => ((rest.erase p.name).get? q.name).map (q.name, ·)) =
          ps.filterMap fun q => (rest.get? q.name).map (q.name, ·) := by
        apply List.filterMap_congr
        intro q hq
        rw [OrderedMap.get?_erase, if_neg (hne q hq)]
      rw [List.find?_cons_of_neg (by simp [Parameter.isMissingFrom, hc]),
        List.filterMap_cons_some (by rw [hv]; rfl), OrderedMap.insertAll_cons, ← hf]
      simpa only [List.find?_congr hm] using ih hd (locals.insert p.name v) (rest.erase p.name)
    | none =>
      have hk : p.name ∉ rest.keys := OrderedMap.get?_eq_none_iff.1 hv
      have hc : rest.contains p.name = false := by
        rw [OrderedMap.contains_eq_isSome_get?, hv, Option.isSome_none]
      cases hdef : p.hasDefault with
      | false =>
        rw [List.find?_cons_of_pos (by simp [Parameter.isMissingFrom, hc, hdef])]
        rfl
      | true =>
        rw [List.find?_cons_of_neg (by simp [Parameter.isMissingFrom, hdef]),
          List.filterMap_cons_none (by rw [hv]; rfl), OrderedMap.erase_of_not_mem hk]
        exact ih hd locals rest

/-! ### The outcome of binding -/

variable {c : Constructor} {self : Instance} {args : Args}

/-- The tolerance applied to the keywords that no parameter took. -/
theorem tolerate_undeclared (h : c.tolerance = .reject →
      args.keywords.keys.find? (· ∉ c.signature.keywordNames) = none) :
    c.tolerate self (c.signature.undeclared args) = .ok (c.frame self args).self := by
  rw [tolerate, frame]
  cases ht : c.tolerance with
  | reject =>
    have hk : (c.signature.undeclared args).keys = [] := by
      rw [Signature.undeclared, OrderedMap.keys_filterKeys, ← List.head?_eq_none_iff,
        List.head?_filter]
      exact h ht
    simp [hk]
  | ignore => rfl
  | absorb => rfl

/-- Binding behind the checks of the number of positional arguments. -/
theorem bind_of_arity (enough : c.signature.required.length ≤ args.positional.length)
    (bounded : args.positional.length ≤ c.signature.positionals.length) :
    c.bind self args =
      match c.signature.keywords.find? (·.isMissingFrom args.keywords) with
      | some p => .error (.missingArgument self.className p.name .keyword)
      | none => (c.tolerate self (c.signature.undeclared args)).map (⟨c.locals args, ·⟩) := by
  have hl : c.locals args =
      (OrderedMap.ofList (c.positionalBindings args)).insertAll (c.keywordArguments args) :=
    OrderedMap.insertAll_append ..
  rw [bind, Signature.requiredPositionals_eq_length, if_neg (Nat.not_lt.2 enough),
    if_neg (Nat.not_lt.2 bounded), takeKeywords_eq _ c.signature.nodup_keywordNames, hl]
  cases c.signature.keywords.find? (·.isMissingFrom args.keywords) with
  | some p => rfl
  | none =>
    show (c.tolerate self (c.signature.undeclared args) >>= _) = _
    cases c.tolerate self (c.signature.undeclared args) <;> rfl

/-- An accepted call is bound. -/
theorem bind_of_accepts (h : c.Accepts args) : c.bind self args = .ok (c.frame self args) := by
  rw [bind_of_arity h.enough h.bounded, h.complete, tolerate_undeclared h.known]
  rfl

/-- A call that is refused fails with the fault for which it is. -/
theorem bind_of_refuses {f : Fault} (h : c.Refuses self.className args f) :
    c.bind self args = .error f := by
  cases h with
  | missingPositional few first _ =>
    rw [bind, Signature.requiredPositionals_eq_length, if_pos few, firstUnsupplied, first]
    rfl
  | tooMany enough many =>
    rw [bind, Signature.requiredPositionals_eq_length, if_neg (Nat.not_lt.2 enough), if_pos many]
  | missingKeyword enough bounded first =>
    rw [bind_of_arity enough bounded, first]
  | unknownOption enough bounded complete strict first =>
    rename_i name
    obtain ⟨rest, hk⟩ : ∃ rest, (c.signature.undeclared args).keys = name :: rest := by
      rw [Signature.undeclared, OrderedMap.keys_filterKeys, ← List.head?_eq_some_iff,
        List.head?_filter]
      exact first
    rw [bind_of_arity enough bounded, complete, tolerate, strict, hk]
    rfl

/-- Every call is accepted or refused. That positional parameters without default come first is why
the first one without argument has none when there are too few arguments. -/
theorem accepts_or_refuses (c : Constructor) (className : String) (args : Args) :
    c.Accepts args ∨ ∃ f, c.Refuses className args f := by
  by_cases few : args.positional.length < c.signature.required.length
  · have hl := Nat.lt_of_lt_of_le few c.signature.length_required_le
    exact .inr ⟨_, .missingPositional few (List.getElem?_eq_getElem hl)
      ((c.signature.hasDefault_positionals _ hl).2 few)⟩
  have enough := Nat.not_lt.1 few
  by_cases many : c.signature.positionals.length < args.positional.length
  · exact .inr ⟨_, .tooMany enough many⟩
  have bounded := Nat.not_lt.1 many
  cases complete : c.signature.keywords.find? (·.isMissingFrom args.keywords) with
  | some p => exact .inr ⟨_, .missingKeyword enough bounded complete⟩
  | none =>
    by_cases strict : c.tolerance = .reject
    · cases first : args.keywords.keys.find? (· ∉ c.signature.keywordNames) with
      | some name => exact .inr ⟨_, .unknownOption enough bounded complete strict first⟩
      | none => exact .inl ⟨enough, bounded, complete, fun _ => first⟩
    · exact .inl ⟨enough, bounded, complete, fun h => absurd h strict⟩

theorem bind_eq_ok_iff {frame : Frame} :
    c.bind self args = .ok frame ↔ c.Accepts args ∧ c.frame self args = frame := by
  constructor
  · intro h
    rcases c.accepts_or_refuses self.className args with ha | ⟨f, hf⟩
    · exact ⟨ha, Except.ok.inj ((bind_of_accepts ha).symm.trans h)⟩
    · cases (bind_of_refuses hf).symm.trans h
  · rintro ⟨ha, rfl⟩
    exact bind_of_accepts ha

theorem bind_eq_error_iff {f : Fault} :
    c.bind self args = .error f ↔ c.Refuses self.className args f := by
  refine ⟨fun h => ?_, bind_of_refuses⟩
  rcases c.accepts_or_refuses self.className args with ha | ⟨g, hg⟩
  · cases (bind_of_accepts ha).symm.trans h
  · exact Except.error.inj ((bind_of_refuses hg).symm.trans h) ▸ hg

theorem Accepts.not_refuses (h : c.Accepts args) {className : String} {f : Fault} :
    ¬ c.Refuses className args f := fun hf => by
  have ha : c.bind (.new className ∅) args = .ok _ := bind_of_accepts h
  have hr : c.bind (.new className ∅) args = .error f := bind_of_refuses hf
  cases ha.symm.trans hr

end Constructor

/-! ### What is bound -/

namespace Signature

variable {s : Signature} {p q : Parameter}

/-- A name belongs to one parameter. -/
theorem eq_of_name_eq (hp : p ∈ s.parameters) (hq : q ∈ s.parameters) (h : p.name = q.name) :
    p = q :=
  List.inj_on_of_nodup_map s.wellDeclared.distinct hp hq h

theorem mem_positionals : p ∈ s.positionals ↔ p ∈ s.parameters ∧ p.kind = .positional := by
  simp [positionals, Parameter.isPositional]

theorem mem_keywords : p ∈ s.keywords ↔ p ∈ s.parameters ∧ p.kind = .keyword := by
  simp [keywords, Parameter.isKeyword]

theorem not_mem_keywordNames (hp : p ∈ s.positionals) : p.name ∉ s.keywordNames := by
  intro h
  obtain ⟨q, hq, hn⟩ := List.mem_map.1 h
  have hp := mem_positionals.1 hp
  have hq := mem_keywords.1 hq
  rw [eq_of_name_eq hq.1 hp.1 hn, hp.2] at hq
  cases hq.2

end Signature

namespace Constructor

variable {c : Constructor} {args : Args}

theorem mem_positionalArguments {name : String} {v : Value} :
    (name, v) ∈ c.positionalArguments args ↔
      ∃ i : Nat, c.signature.positionalNames[i]? = some name ∧ args.positional[i]? = some v := by
  rw [positionalArguments, List.mem_iff_getElem?]
  simp only [List.getElem?_zip_eq_some]

theorem mem_keywordArguments {name : String} {v : Value} :
    (name, v) ∈ c.keywordArguments args ↔
      name ∈ c.signature.keywordNames ∧ args.keyword? name = some v := by
  simp only [keywordArguments, List.mem_filterMap, Option.map_eq_some_iff, Prod.mk.injEq,
    Signature.keywordNames, List.mem_map]
  constructor
  · rintro ⟨p, hp, w, hw, rfl, rfl⟩
    exact ⟨⟨p, hp, rfl⟩, hw⟩
  · rintro ⟨⟨p, hp, rfl⟩, hv⟩
    exact ⟨p, hp, v, hv, rfl, rfl⟩

theorem map_fst_positionalArguments :
    ((c.positionalArguments args).map Prod.fst).Sublist c.signature.positionalNames := by
  suffices ∀ (names : List String) (vs : List Value), ((names.zip vs).map Prod.fst).Sublist names from
    this _ _
  intro names
  induction names with
  | nil => simp
  | cons n names ih =>
    intro vs
    cases vs with
    | nil => exact List.nil_sublist _
    | cons v vs => exact (ih vs).cons_cons n

theorem map_fst_keywordArguments :
    ((c.keywordArguments args).map Prod.fst).Sublist c.signature.keywordNames := by
  rw [keywordArguments, Signature.keywordNames]
  induction c.signature.keywords with
  | nil => exact .slnil
  | cons p ps ih =>
    cases hv : args.keyword? p.name with
    | some v => simpa [hv] using ih.cons_cons p.name
    | none => simpa [hv] using ih.cons p.name

/-- The names under which arguments are bound are distinct. -/
theorem nodup_bindings :
    ((c.positionalArguments args ++ c.keywordArguments args).map Prod.fst).Nodup := by
  rw [List.map_append, List.nodup_append]
  refine ⟨c.signature.nodup_positionalNames.sublist map_fst_positionalArguments,
    c.signature.nodup_keywordNames.sublist map_fst_keywordArguments, ?_⟩
  intro a ha b hb e
  obtain ⟨p, hp, rfl⟩ := List.mem_map.1 (map_fst_positionalArguments.subset ha)
  exact Signature.not_mem_keywordNames hp (e ▸ map_fst_keywordArguments.subset hb)

/-- A parameter is bound to its argument, if it was supplied. -/
theorem local?_frame {self : Instance} {p : Parameter} (hp : p ∈ c.signature.parameters) :
    (c.frame self args).local? p.name = c.signature.argument? args p := by
  apply Option.ext
  intro v
  rw [Frame.local?, frame, locals, OrderedMap.get?_eq_some_iff,
    OrderedMap.toList_ofList nodup_bindings, List.mem_append, mem_positionalArguments,
    mem_keywordArguments, Signature.argument?]
  cases hk : p.kind with
  | positional =>
    have hmem : p ∈ c.signature.positionals := Signature.mem_positionals.2 ⟨hp, hk⟩
    have hname : p.name ∈ c.signature.positionalNames := List.mem_map_of_mem hmem
    constructor
    · rintro (⟨i, hi, hv⟩ | ⟨hn, _⟩)
      · obtain ⟨hlt, hi⟩ := List.getElem?_eq_some_iff.1 hi
        rw [← hi, c.signature.nodup_positionalNames.idxOf_getElem i hlt]
        exact hv
      · exact absurd hn (Signature.not_mem_keywordNames hmem)
    · exact fun hv => .inl ⟨_, List.getElem?_idxOf hname, hv⟩
  | keyword =>
    have hmem : p ∈ c.signature.keywords := Signature.mem_keywords.2 ⟨hp, hk⟩
    constructor
    · rintro (⟨i, hi, _⟩ | ⟨_, hv⟩)
      · obtain ⟨q, hq, hn⟩ := List.mem_map.1 (List.mem_of_getElem? hi)
        have hname : p.name ∈ c.signature.keywordNames := List.mem_map_of_mem hmem
        exact absurd (hn ▸ hname) (Signature.not_mem_keywordNames hq)
      · exact hv
    · exact fun hv => .inr ⟨List.mem_map_of_mem hmem, hv⟩

/-- A parameter without argument in an accepted call has a default. -/
theorem Accepts.hasDefault (h : c.Accepts args) {p : Parameter}
    (hp : p ∈ c.signature.parameters) (ha : c.signature.argument? args p = none) :
    p.hasDefault = true := by
  rw [Signature.argument?] at ha
  cases hk : p.kind with
  | positional =>
    simp only [hk, List.getElem?_eq_none_iff] at ha
    obtain ⟨i, hi, rfl⟩ := List.getElem_of_mem (Signature.mem_positionals.2 ⟨hp, hk⟩)
    have hidx : c.signature.positionalNames.idxOf c.signature.positionals[i].name = i := by
      have hl : i < c.signature.positionalNames.length := by simpa [Signature.positionalNames]
      simpa [Signature.positionalNames] using
        c.signature.nodup_positionalNames.idxOf_getElem i hl
    -- Its position is behind the arguments, and so behind those without default.
    have hle : c.signature.required.length ≤ i := hidx ▸ h.enough.trans ha
    rw [← Bool.not_eq_false, c.signature.hasDefault_positionals i hi]
    exact Nat.not_lt.2 hle
  | keyword =>
    simp only [hk] at ha
    have hm := List.find?_eq_none.1 h.complete p (Signature.mem_keywords.2 ⟨hp, hk⟩)
    have hc : args.keywords.contains p.name = false := by
      rw [OrderedMap.contains_eq_isSome_get?]
      exact Option.isSome_eq_false_iff.2 (Option.isNone_iff_eq_none.2 ha)
    simpa [Parameter.isMissingFrom, hc] using hm

end Constructor

end ClassForge
