import ClassForge.Proofs.Builder.Text
import ClassForge.Proofs.Text.Separation

/-!
# Formal parameter lists

What a formal parameter list says about parameters, and that it can be read off the text again.

## Main definitions

- `Formal` — what the item of a parameter says about it
- `Formal.items` — the items for some parameters, the catch-all last
- `Builder.SameFormals` — builders between which a formal parameter list makes no difference

## Main statements

- `Constructor.formals_eq` — the items of a constructor
- `Formal.text_inj` — an item tells what it is written from
- `Formal.items_inj` — so do all items together, but for the places of the keywords
- `Formal.intercalate_inj` — and so does their text
- `Builder.parameterList_eq_iff`, `Builder.parameterList_tells` — what the text tells of a builder
-/

namespace ClassForge

theorem isIdentifierPart_of_mem {name : String} (h : isIdentifier name = true) :
    ∀ c ∈ name.toList, isIdentifierPart c = true := by
  rw [isIdentifier] at h
  cases hl : name.toList with
  | nil => simp
  | cons c rest =>
    rw [hl, isIdentifierText, Bool.and_eq_true, List.all_eq_true] at h
    have hc : isIdentifierPart c = true := by
      have hstart := h.1
      rw [isIdentifierStart, Bool.or_eq_true] at hstart
      rw [isIdentifierPart, Bool.or_eq_true, Char.isAlphanum, Bool.or_eq_true]
      exact hstart.imp_left .inl
    exact List.forall_mem_cons.2 ⟨hc, h.2⟩

theorem not_mem_of_isIdentifier {name : String} {c : Char} (h : isIdentifier name = true)
    (hc : isIdentifierPart c = false) : c ∉ name.toList := by
  intro hmem
  rw [isIdentifierPart_of_mem h c hmem] at hc
  cases hc

theorem ne_empty_of_isIdentifier {name : String} (h : isIdentifier name = true) : name ≠ "" := by
  rintro rfl
  revert h
  decide

/-- What can be no part of an identifier ends it. -/
theorem isIdentifier_append_inj {name name' r s : String} (h : isIdentifier name = true)
    (h' : isIdentifier name' = true) (hr : ∀ c ∈ r.toList.head?, isIdentifierPart c = false)
    (hs : ∀ c ∈ s.toList.head?, isIdentifierPart c = false) (he : name ++ r = name' ++ s) :
    name = name' ∧ r = s :=
  String.append_inj_of_all (isIdentifierPart_of_mem h) (isIdentifierPart_of_mem h') hr hs he

/-- Separators are no part of an identifier, and may have anything behind them. -/
theorem isIdentifier_append_append_inj {name name' sep sep' r s : String} {c c' : Char}
    (h : isIdentifier name = true) (h' : isIdentifier name' = true)
    (hsep : sep.toList.head? = some c) (hsep' : sep'.toList.head? = some c')
    (hc : isIdentifierPart c = false) (hc' : isIdentifierPart c' = false)
    (he : name ++ (sep ++ r) = name' ++ (sep' ++ s)) : name = name' ∧ sep ++ r = sep' ++ s := by
  refine isIdentifier_append_inj h h' ?_ ?_ he
  · simpa [hsep] using hc
  · simpa [hsep'] using hc'

/-- What the item of a parameter in a formal parameter list says about it. -/
structure Formal where
  name : String
  kind : ParameterKind
  hasDefault : Bool
deriving DecidableEq

def Parameter.formal (p : Parameter) : Formal :=
  ⟨p.name, p.kind, p.hasDefault⟩

namespace Formal

def mark : ParameterKind → Bool → String
  | .positional, false => ""
  | .positional, true => " = " ++ Parameter.placeholder
  | .keyword, false => ":"
  | .keyword, true => ": " ++ Parameter.placeholder

def text (f : Formal) : String :=
  f.name ++ mark f.kind f.hasDefault

/-- The positional ones first. -/
def regroup (fs : List Formal) : List Formal :=
  fs.filter (·.kind == .positional) ++ fs.filter (·.kind == .keyword)

/-- The items of a formal parameter list, the catch-all last. -/
def items (fs : List Formal) (t : Tolerance) : List String :=
  (regroup fs).map text ++ t.catchAll.toList

variable {f g : Formal} {fs gs : List Formal} {t u : Tolerance}

theorem mem_regroup : f ∈ regroup fs ↔ f ∈ fs := by
  rw [regroup, List.mem_append, List.mem_filter, List.mem_filter, ← and_or_left]
  cases f.kind <;> simp

/-! ### Single items -/

theorem mark_inj {k k' : ParameterKind} {d d' : Bool} (h : mark k d = mark k' d') :
    k = k' ∧ d = d' := by
  cases k <;> cases d <;> cases k' <;> cases d' <;> first | exact ⟨rfl, rfl⟩ | (revert h; decide)

theorem text_inj (hf : isIdentifier f.name = true) (hg : isIdentifier g.name = true)
    (h : f.text = g.text) : f = g := by
  have hmark : ∀ k d, ∀ c ∈ (mark k d).toList.head?, isIdentifierPart c = false := by
    intro k d
    cases k <;> cases d <;> simp [mark] <;> decide
  obtain ⟨hname, hrest⟩ := isIdentifier_append_inj hf hg (hmark _ _) (hmark _ _) h
  obtain ⟨hkind, hdefault⟩ := mark_inj hrest
  cases f
  cases g
  cases hname
  cases hkind
  cases hdefault
  rfl

/-- Besides those of identifiers an item has few characters. -/
theorem not_mem_text {c : Char} (hf : isIdentifier f.name = true) (hc : isIdentifierPart c = false)
    (hother : c ∉ [' ', '=', ':']) : c ∉ f.text.toList := by
  have hmark : ∀ k d, ∀ c ∈ (mark k d).toList, isIdentifierPart c = true ∨ c ∈ [' ', '=', ':'] := by
    intro k d
    cases k <;> cases d <;> simp [mark, Parameter.placeholder] <;> decide
  rw [text, String.toList_append, List.mem_append, not_or]
  refine ⟨not_mem_of_isIdentifier hf hc, ?_⟩
  intro hmem
  obtain hpart | hpart := hmark _ _ c hmem
  · rw [hpart] at hc
    cases hc
  · exact hother hpart

theorem text_ne_empty (hf : isIdentifier f.name = true) : f.text ≠ "" := by
  simp [text, ne_empty_of_isIdentifier hf]

/-! ### All items -/

section Items

variable (hfs : ∀ f ∈ fs, isIdentifier f.name = true) (hgs : ∀ g ∈ gs, isIdentifier g.name = true)
include hfs

/-- No item is empty, and what stands between them or ends their line is in none. -/
theorem mem_items {s : String} (hs : s ∈ items fs t) :
    s ≠ "" ∧ ',' ∉ s.toList ∧ '\n' ∉ s.toList := by
  rw [items, List.mem_append] at hs
  obtain hs | hs := hs
  · obtain ⟨f, hmem, rfl⟩ := List.mem_map.1 hs
    have hf := hfs f (mem_regroup.1 hmem)
    exact ⟨text_ne_empty hf, not_mem_text hf (by decide) (by decide),
      not_mem_text hf (by decide) (by decide)⟩
  · have hrest : s = "**" := by
      cases t <;> simp [Tolerance.catchAll] at hs <;> exact hs
    rw [hrest]
    decide

include hgs

theorem items_inj (h : items fs t = items gs u) :
    regroup fs = regroup gs ∧ t.catchAll = u.catchAll := by
  -- The catch-all reads like no parameter, so it is where the items of parameters end.
  have hparameter : ∀ {fs : List Formal}, (∀ f ∈ fs, isIdentifier f.name = true) →
      ∀ s ∈ (regroup fs).map text, (s != "**") = true := by
    intro fs hfs s hs
    obtain ⟨f, hmem, rfl⟩ := List.mem_map.1 hs
    have hstar : '*' ∉ f.text.toList :=
      not_mem_text (hfs f (mem_regroup.1 hmem)) (by decide) (by decide)
    rw [bne_iff_ne]
    intro he
    rw [he] at hstar
    exact hstar (by decide)
  have hcatchAll : ∀ t : Tolerance, ∀ s ∈ t.catchAll.toList.head?, (s != "**") = false := by
    intro t
    cases t <;> decide
  obtain ⟨htexts, hrest⟩ :=
    List.append_inj_of_all (hparameter hfs) (hparameter hgs) (hcatchAll t) (hcatchAll u) h
  refine ⟨List.eq_of_map_eq ?_ htexts, by simpa using congrArg List.head? hrest⟩
  intro f hf g hg
  exact text_inj (hfs f (mem_regroup.1 hf)) (hgs g (mem_regroup.1 hg))

theorem intercalate_inj (h : ", ".intercalate (items fs t) = ", ".intercalate (items gs u)) :
    regroup fs = regroup gs ∧ t.catchAll = u.catchAll := by
  have hitem : ∀ {fs : List Formal} {t : Tolerance}, (∀ f ∈ fs, isIdentifier f.name = true) →
      ∀ s ∈ items fs t, s ≠ "" ∧ ',' ∉ s.toList := by
    intro fs t hfs s hs
    obtain ⟨hne, hcomma, _⟩ := mem_items hfs hs
    exact ⟨hne, hcomma⟩
  have hcomma : ", ".toList.head? = some ',' := by decide
  exact items_inj hfs hgs (String.intercalate_inj hcomma (hitem hfs) (hitem hgs) h)

end Items

end Formal

theorem Parameter.render_eq (p : Parameter) : p.render = p.formal.text := by
  rw [render, Formal.text, formal]
  cases p.kind <;> cases p.hasDefault <;> simp [Formal.mark, String.append_assoc]

theorem Constructor.formals_eq (c : Constructor) :
    c.formals = Formal.items (c.signature.parameters.map Parameter.formal) c.tolerance := by
  have hgroup : ∀ k : ParameterKind,
      (c.signature.parameters.map Parameter.formal).filter (·.kind == k) =
        (c.signature.parameters.filter (·.kind == k)).map Parameter.formal := by
    intro k
    rw [List.filter_map]
    rfl
  rw [formals, Formal.items, Formal.regroup, hgroup, hgroup, ← List.map_append, List.map_map]
  congr 1
  exact List.map_congr_left fun p _ => p.render_eq

theorem Tolerance.catchAll_eq_iff {t u : Tolerance} :
    t.catchAll = u.catchAll ↔ (t = .reject ↔ u = .reject) := by
  cases t <;> cases u <;> simp [catchAll]

/-! ### Equal parameter lists -/

namespace Formal

theorem filter_regroup (fs : List Formal) (k : ParameterKind) :
    (regroup fs).filter (·.kind == k) = fs.filter (·.kind == k) := by
  have hkind : ∀ k' : ParameterKind, (fun f : Formal => f.kind == k && f.kind == k') =
      fun f => if k = k' then f.kind == k else false := by
    intro k'
    funext f
    cases f.kind <;> cases k <;> cases k' <;> rfl
  rw [regroup, List.filter_append, List.filter_filter, List.filter_filter, hkind, hkind]
  cases k <;> simp

theorem regroup_eq_iff {fs gs : List Formal} :
    regroup fs = regroup gs ↔ ∀ k, fs.filter (·.kind == k) = gs.filter (·.kind == k) := by
  constructor
  · intro h k
    rw [← filter_regroup, h, filter_regroup]
  · intro h
    rw [regroup, regroup, h, h]

/-- Items of one kind, from their names and whether they have defaults. -/
def ofKind (k : ParameterKind) (x : String × Bool) : Formal :=
  ⟨x.1, k, x.2⟩

theorem ofKind_injective (k : ParameterKind) : Function.Injective (ofKind k) := by
  intro x y h
  injection h with hname _ hdefault
  exact Prod.ext hname hdefault

end Formal

theorem Parameter.filter_map_formal (ps : List Parameter) (k : ParameterKind) :
    (ps.map formal).filter (·.kind == k) =
      ((ps.filter (·.kind == k)).map fun p => (p.name, p.hasDefault)).map (Formal.ofKind k) := by
  rw [List.filter_map, List.map_map]
  refine List.map_congr_left fun p hp => ?_
  have hkind : p.kind = k := by simpa [formal] using (List.mem_filter.1 hp).2
  rw [formal, hkind]
  rfl

namespace Builder

/-- The same parameters of each kind in order, as far as their names and the presence of defaults go,
and both or neither reject unknown options. -/
structure SameFormals (b b' : Builder) : Prop where
  positionals : (b.signature.positionals.map fun p => (p.name, p.hasDefault)) =
    b'.signature.positionals.map fun p => (p.name, p.hasDefault)
  keywords : (b.signature.keywords.map fun p => (p.name, p.hasDefault)) =
    b'.signature.keywords.map fun p => (p.name, p.hasDefault)
  rejects : b.tolerance = .reject ↔ b'.tolerance = .reject

variable {b b' : Builder}

theorem isIdentifier_of_mem_formals :
    ∀ f ∈ b.signature.parameters.map Parameter.formal, isIdentifier f.name = true := by
  intro f hf
  obtain ⟨p, hp, rfl⟩ := List.mem_map.1 hf
  have hname := b.signature.wellDeclared.named p hp
  rw [isParameterName, Bool.and_eq_true] at hname
  exact hname.1

theorem parameterList_eq_iff : b.parameterList = b'.parameterList ↔ b.SameFormals b' := by
  have hlist (d : Builder) : d.parameterList = ", ".intercalate
      (Formal.items (d.signature.parameters.map Parameter.formal) d.tolerance) := by
    rw [parameterList_eq, Constructor.formals_eq]
    rfl
  have hgroup (d : Builder) (k : ParameterKind) := Parameter.filter_map_formal d.signature.parameters k
  constructor
  · intro h
    rw [hlist, hlist] at h
    obtain ⟨hformals, hcatchAll⟩ :=
      Formal.intercalate_inj isIdentifier_of_mem_formals isIdentifier_of_mem_formals h
    have hkind (k : ParameterKind) := Formal.regroup_eq_iff.1 hformals k
    simp only [hgroup, (Formal.ofKind_injective _).list_map.eq_iff] at hkind
    exact ⟨hkind .positional, hkind .keyword, Tolerance.catchAll_eq_iff.1 hcatchAll⟩
  · intro h
    have hkind : ∀ k, (b.signature.parameters.map Parameter.formal).filter (·.kind == k) =
        (b'.signature.parameters.map Parameter.formal).filter (·.kind == k) := by
      intro k
      rw [hgroup, hgroup]
      cases k with
      | positional => exact congrArg _ h.positionals
      | keyword => exact congrArg _ h.keywords
    rw [hlist, hlist, Formal.items, Formal.items, Formal.regroup_eq_iff.2 hkind,
      Tolerance.catchAll_eq_iff.2 h.rejects]

/-- A parameter list tells the parameters of each kind with their names and whether they have
defaults, and whether unknown options are rejected. No parameter reads like the catch-all, and the
list is empty only if there is nothing to tell. -/
theorem parameterList_tells (b b' : Builder) :
    (b.parameterList = b'.parameterList ↔ b.SameFormals b') ∧
      (∀ p ∈ b.signature.parameters, ∀ t : Tolerance, t.catchAll ≠ some p.render) ∧
      (b.parameterList = "" ↔ b.signature.parameters = [] ∧ b.tolerance = .reject) := by
  refine ⟨parameterList_eq_iff, fun p hp t ht => ?_, ?_⟩
  · have hstar : '*' ∉ p.render.toList := by
      rw [p.render_eq]
      exact Formal.not_mem_text (isIdentifier_of_mem_formals _ (List.mem_map_of_mem hp)) (by decide)
        (by decide)
    have hrender : p.render = "**" := by
      cases t <;> simp [Tolerance.catchAll] at ht <;> exact ht.symm
    rw [hrender] at hstar
    exact hstar (by decide)
  · have hempty : withoutPlugins.parameterList = "" := rfl
    rw [← hempty, parameterList_eq_iff]
    constructor
    · intro h
      have hpositionals : b.signature.positionals = [] := List.map_eq_nil_iff.1 h.positionals
      have hkeywords : b.signature.keywords = [] := List.map_eq_nil_iff.1 h.keywords
      refine ⟨List.eq_nil_iff_forall_not_mem.2 fun p hp => ?_, h.rejects.2 rfl⟩
      have hpositional := List.filter_eq_nil_iff.1 hpositionals p hp
      have hkeyword := List.filter_eq_nil_iff.1 hkeywords p hp
      rw [Parameter.isPositional] at hpositional
      rw [Parameter.isKeyword] at hkeyword
      cases hkind : p.kind <;> simp [hkind] at hpositional hkeyword
    · rintro ⟨hnone, hreject⟩
      have hsignature : b.signature = withoutPlugins.signature := Signature.ext hnone
      exact ⟨by rw [hsignature], by rw [hsignature], iff_of_true hreject rfl⟩

end Builder

end ClassForge
