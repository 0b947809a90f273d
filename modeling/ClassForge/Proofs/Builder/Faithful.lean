import Mathlib.Data.List.Nodup
import ClassForge.Proofs.Capability.Lookup
import ClassForge.Proofs.Construction.Standard
import ClassForge.Proofs.Signature.Declaration
import ClassForge.Proofs.Signature.Formals

/-!
# What rendered source tells

The rendered source of a builder with the standard plugins tells what the parameters are, up to the
checks of their types and the values of their defaults, and nothing else.

## Main definitions

- `Outline` — what rendered source says about a parameter
- `Outline.page` — the lines of rendered source, written from outlines

## Main statements

- `Builder.Standard.source_eq` — rendered source is written from the outlines of the parameters
- `Outline.page_inj` — outlines can be read off the lines that are written from them
- `Builder.source_eq_iff` — equal texts come of equal outlines only

## Design notes

The lines of a section differ from those behind it in their first characters, whatever the names of
parameters. The order of declaration is that of the assignments in the body, and the other sections
are held against it by the names, which are distinct.
-/

namespace ClassForge

/-- What rendered source says about a parameter. -/
structure Outline extends Formal where
  typeName : Option String
  hasReader : Bool
deriving DecidableEq

def Parameter.outline (p : Parameter) : Outline :=
  ⟨p.formal, p.settings.type.map (·.name), p.settings.hasReader⟩

namespace Outline

def check (name typeName : String) : String :=
  name ++ " = " ++ typeName ++ "(" ++ name ++ ")?;"

def assignment (name : String) : String :=
  "self." ++ name ++ " = " ++ name ++ ";"

/-- The lines for a parameter in the body of the constructor. -/
def body (o : Outline) : List String :=
  (o.typeName.map (check o.name)).toList ++ [assignment o.name]

def fallback (o : Outline) : String :=
  "self." ++ o.name ++ ".get_or_insert_with(default_" ++ o.name ++ ");"

/-- The names of the parameters that get a reader. -/
def readers (os : List Outline) : List String :=
  (os.filter (·.hasReader)).map (·.name)

def header (os : List Outline) (t : Tolerance) : String :=
  "fn initialize(" ++ ", ".intercalate (Formal.items (os.map (·.toFormal)) t) ++ ") \x7b"

/-- The lines of rendered source. -/
def page (os : List Outline) (t : Tolerance) : List String :=
  (readers os).map Builder.readerSource ++ (if (readers os).isEmpty then [] else [""]) ++
    [header os t] ++ (os.flatMap body ++ [Builder.hookCall]).map (Code.fourSpaces ++ ·) ++
    ["\x7d", "", Builder.hookHeader] ++
    ((os.filter (·.hasDefault)).map fallback).map (Code.fourSpaces ++ ·) ++ ["\x7d"]

/-- What is asked of outlines that are to be read off a text. -/
structure Legible (os : List Outline) : Prop where
  named : ∀ o ∈ os, isIdentifier o.name = true
  distinct : (os.map (·.name)).Nodup
  /-- The name of a type stands on one line. -/
  typed : ∀ o ∈ os, ∀ type, o.typeName = some type → '\n' ∉ type.toList

end Outline

/-! ### Rendered source from outlines -/

theorem Parameter.map_source_body (p : Parameter) :
    p.body.map (·.source) = p.outline.body := by
  rw [body, Outline.body, outline]
  cases p.settings.type <;> rfl

theorem Parameter.map_source_fallback? (p : Parameter) :
    p.fallback?.map (·.source) = if p.hasDefault then some p.outline.fallback else none := by
  rw [fallback?, hasDefault, Settings.hasDefault]
  cases p.settings.defaultFn <;> rfl

namespace Builder.Standard

variable {b : Builder}

theorem lines_eq (h : b.Standard) (m : Mixin) :
    (b.install m).lines b.constructor =
      Outline.page (b.signature.parameters.map Parameter.outline) b.tolerance := by
  have hreaders : b.readerNames.names =
      Outline.readers (b.signature.parameters.map Parameter.outline) := by
    rw [names_readerNames, Outline.readers, List.filter_map, List.map_map]
    rfl
  have hheader : "fn initialize(" ++ ", ".intercalate b.constructor.formals ++ ") \x7b" =
      Outline.header (b.signature.parameters.map Parameter.outline) b.tolerance := by
    rw [Constructor.formals_eq, Outline.header, List.map_map]
    rfl
  have hbody : b.statements.map (·.source) =
      (b.signature.parameters.map Parameter.outline).flatMap Outline.body := by
    rw [h.statements_eq, List.map_flatMap, List.flatMap_map]
    simp only [Parameter.map_source_body]
  have hhook : b.callbacks.map (·.source) =
      ((b.signature.parameters.map Parameter.outline).filter (·.hasDefault)).map
        Outline.fallback := by
    rw [h.callbacks_eq, List.map_filterMap, List.filter_map, List.map_map,
      ← List.filterMap_eq_map, List.filterMap_filter]
    simp only [Parameter.map_source_fallback?]
    rfl
  have hinstalled : (b.install m).lines b.constructor =
      b.readerNames.names.map readerSource ++ (if b.readerNames.names.isEmpty then [] else [""]) ++
        ["fn initialize(" ++ ", ".intercalate b.constructor.formals ++ ") \x7b"] ++
        (b.statements.map (·.source) ++ [hookCall]).map (Code.fourSpaces ++ ·) ++
        ["\x7d", "", hookHeader] ++ (b.callbacks.map (·.source)).map (Code.fourSpaces ++ ·) ++
        ["\x7d"] := by
    rw [List.map_map]
    rfl
  rw [hinstalled, hreaders, hheader, hbody, hhook, Outline.page]

theorem source_eq (h : b.Standard) :
    b.source = String.join
      ((Outline.page (b.signature.parameters.map Parameter.outline) b.tolerance).map (· ++ "\n")) := by
  have hinstalled := b.source?_install .empty
  rw [Mixin.source?, install, Option.map_some, Option.some_inj] at hinstalled
  rw [← hinstalled, ← h.lines_eq .empty]
  rfl

end Builder.Standard

/-! ### Outlines from the lines -/

namespace Outline

variable {o : Outline} {os os' : List Outline} {t t' : Tolerance} {name name' : String}

section Lines

variable (h : isIdentifier name = true) (h' : isIdentifier name' = true)
include h h'

theorem readerSource_inj (he : Builder.readerSource name = Builder.readerSource name') :
    name = name' := by
  simp only [Builder.readerSource, String.append_assoc, String.append_right_inj] at he
  exact (isIdentifier_append_append_inj h h' rfl rfl (by decide) (by decide) he).1

theorem assignment_inj (he : assignment name = assignment name') : name = name' := by
  simp only [assignment, String.append_assoc, String.append_right_inj] at he
  exact (isIdentifier_append_append_inj h h' rfl rfl (by decide) (by decide) he).1

theorem check_inj {type type' : String} (he : check name type = check name' type') :
    name = name' ∧ type = type' := by
  simp only [check, String.append_assoc] at he
  obtain ⟨rfl, hrest⟩ := isIdentifier_append_append_inj h h' rfl rfl (by decide) (by decide) he
  rw [String.append_right_inj, String.append_left_inj] at hrest
  exact ⟨rfl, hrest⟩

end Lines

/-- A type check is no assignment, also that of a parameter with the name `self`. -/
theorem check_ne_assignment {type : String} (h : isIdentifier name = true) :
    check name type ≠ assignment name' := by
  intro he
  have hself : assignment name' = "self" ++ ("." ++ (name' ++ (" = " ++ (name' ++ ";")))) := by
    simp [assignment, ← String.append_assoc]
  rw [hself, check] at he
  simp only [String.append_assoc] at he
  obtain ⟨_, hrest⟩ :=
    isIdentifier_append_append_inj h (by decide) rfl rfl (by decide) (by decide) he
  have hhead := congrArg (fun s : String => s.toList.head?) hrest
  simp at hhead

theorem flatMap_body_inj (h : ∀ o ∈ os, isIdentifier o.name = true)
    (h' : ∀ o ∈ os', isIdentifier o.name = true) (he : os.flatMap body = os'.flatMap body) :
    os.map (fun o => (o.name, o.typeName)) = os'.map fun o => (o.name, o.typeName) := by
  -- The induction is on both lists. From the first line on it is clear how many lines the first
  -- outline of each has.
  induction os generalizing os' with
  | nil =>
    cases os' with
    | nil => rfl
    | cons o' os' => simp [body] at he
  | cons o os ih =>
    cases os' with
    | nil => simp [body] at he
    | cons o' os' =>
      obtain ⟨ho, hos⟩ := List.forall_mem_cons.1 h
      obtain ⟨ho', hos'⟩ := List.forall_mem_cons.1 h'
      rw [List.flatMap_cons, List.flatMap_cons, body, body] at he
      have hlines : o.name = o'.name ∧ o.typeName = o'.typeName ∧
          os.flatMap body = os'.flatMap body := by
        cases htype : o.typeName <;> cases htype' : o'.typeName <;> rw [htype, htype'] at he
        · obtain ⟨hline, hrest⟩ := List.cons.inj he
          exact ⟨assignment_inj ho ho' hline, rfl, hrest⟩
        · exact absurd (List.cons.inj he).1.symm (check_ne_assignment ho')
        · exact absurd (List.cons.inj he).1 (check_ne_assignment ho)
        · obtain ⟨hline, hrest⟩ := List.cons.inj he
          obtain ⟨hname, htypes⟩ := check_inj ho ho' hline
          exact ⟨hname, congrArg some htypes, (List.cons.inj hrest).2⟩
      obtain ⟨hname, htype, hrest⟩ := hlines
      rw [List.map_cons, List.map_cons, hname, htype, ih hos hos' hrest]

theorem sections_of_page (he : page os t = page os' t') :
    (readers os).map Builder.readerSource = (readers os').map Builder.readerSource ∧
      header os t = header os' t' ∧ os.flatMap body = os'.flatMap body := by
  simp only [page, List.append_assoc] at he
  -- Readers begin with `p`, the line behind them does not.
  have hreader : ∀ {names : List String}, ∀ s ∈ names.map Builder.readerSource,
      (s.toList.head? == some 'p') = true := by
    intro names s hs
    obtain ⟨name, _, rfl⟩ := List.mem_map.1 hs
    simp [Builder.readerSource]
  have hgap : ∀ {os : List Outline} {t : Tolerance} {rest : List String},
      ∀ s ∈ ((if (readers os).isEmpty then [] else [""]) ++ ([header os t] ++ rest)).head?,
      (s.toList.head? == some 'p') = false := by
    intro os t rest
    cases (readers os).isEmpty <;> simp [header]
  -- The body is indented, the line behind it is not.
  have hindented : ∀ {ls : List String}, ∀ s ∈ ls.map (Code.fourSpaces ++ ·),
      (s.toList.head? == some ' ') = true := by
    intro ls s hs
    obtain ⟨line, _, rfl⟩ := List.mem_map.1 hs
    simp [Code.fourSpaces]
  obtain ⟨hreaders, hrest⟩ := List.append_inj_of_all hreader hreader hgap hgap he
  have hempty : (readers os).isEmpty = (readers os').isEmpty := by
    simpa using congrArg List.isEmpty hreaders
  rw [hempty, List.append_cancel_left_eq] at hrest
  obtain ⟨hheader, hrest⟩ := List.cons.inj hrest
  obtain ⟨hlines, -⟩ :=
    List.append_inj_of_all hindented hindented (by simp) (by simp) hrest
  have hbody : os.flatMap body ++ [Builder.hookCall] = os'.flatMap body ++ [Builder.hookCall] :=
    List.eq_of_map_eq (fun a _ b _ => (String.append_right_inj _).1) hlines
  exact ⟨hreaders, hheader, List.append_cancel_right hbody⟩

theorem Legible.eq_of_name (h : Legible os) {o₁ o₂ : Outline} (h₁ : o₁ ∈ os) (h₂ : o₂ ∈ os)
    (he : o₁.name = o₂.name) : o₁ = o₂ :=
  List.inj_on_of_nodup_map h.distinct h₁ h₂ he

theorem Legible.hasReader_iff (h : Legible os) (ho : o ∈ os) :
    o.hasReader = true ↔ o.name ∈ readers os := by
  rw [readers, List.mem_map]
  constructor
  · intro hreader
    exact ⟨o, List.mem_filter.2 ⟨ho, hreader⟩, rfl⟩
  · rintro ⟨o', ho', hname⟩
    obtain ⟨ho', hreader⟩ := List.mem_filter.1 ho'
    rwa [h.eq_of_name ho' ho hname] at hreader

theorem page_inj (h : Legible os) (h' : Legible os') (he : page os t = page os' t') :
    os = os' ∧ t.catchAll = t'.catchAll := by
  obtain ⟨hreaders, hheader, hbody⟩ := sections_of_page he
  have hnamed : ∀ {os : List Outline}, Legible os → ∀ n ∈ readers os, isIdentifier n = true := by
    intro os h n hn
    obtain ⟨o, ho, rfl⟩ := List.mem_map.1 hn
    exact h.named o (List.mem_filter.1 ho).1
  have hnames : readers os = readers os' :=
    List.eq_of_map_eq (fun a ha b hb => readerSource_inj (hnamed h a ha) (hnamed h' b hb)) hreaders
  have hformal : ∀ {os : List Outline}, Legible os →
      ∀ f ∈ os.map (·.toFormal), isIdentifier f.name = true := by
    intro os h f hf
    obtain ⟨o, ho, rfl⟩ := List.mem_map.1 hf
    exact h.named o ho
  rw [header, header, String.append_left_inj, String.append_right_inj] at hheader
  obtain ⟨hformals, hcatchAll⟩ := Formal.intercalate_inj (hformal h) (hformal h') hheader
  refine ⟨List.eq_of_map_eq ?_ (flatMap_body_inj h.named h'.named hbody), hcatchAll⟩
  intro o ho o' ho' hpair
  obtain ⟨hname, htype⟩ := Prod.mk.inj hpair
  -- The item of `o` is that of an outline with its name, and `o'` is the only one.
  have hitem : o.toFormal = o'.toFormal := by
    have hmem : o.toFormal ∈ os'.map (·.toFormal) := by
      rw [← Formal.mem_regroup, ← hformals, Formal.mem_regroup]
      exact List.mem_map_of_mem ho
    obtain ⟨o₂, ho₂, hitem⟩ := List.mem_map.1 hmem
    have hname₂ : o₂.name = o'.name := (congrArg Formal.name hitem).trans hname
    rw [← hitem, h'.eq_of_name ho₂ ho' hname₂]
  have hreader : o.hasReader = o'.hasReader := by
    rw [Bool.eq_iff_iff, h.hasReader_iff ho, h'.hasReader_iff ho', hnames, hname]
  cases o
  cases o'
  cases hitem
  cases htype
  cases hreader
  rfl

/-! ### Lines from the text -/

namespace Legible

variable (h : Legible os)
include h

theorem newline_not_mem_name (ho : o ∈ os) : '\n' ∉ o.name.toList :=
  not_mem_of_isIdentifier (h.named o ho) (by decide)

theorem newline_not_mem_header : '\n' ∉ (header os t).toList := by
  have hitems : '\n' ∉ (", ".intercalate (Formal.items (os.map (·.toFormal)) t)).toList := by
    refine String.not_mem_toList_intercalate (by decide) ?_
    intro s hs
    refine (Formal.mem_items ?_ hs).2.2
    intro f hf
    obtain ⟨o, ho, rfl⟩ := List.mem_map.1 hf
    exact h.named o ho
  rw [header, String.toList_append, String.toList_append, List.mem_append, List.mem_append, not_or,
    not_or]
  exact ⟨⟨by decide, hitems⟩, by decide⟩

theorem newline_not_mem_body (ho : o ∈ os) : ∀ s ∈ o.body, '\n' ∉ s.toList := by
  have hname := h.newline_not_mem_name ho
  intro s hs
  rw [body, List.mem_append] at hs
  obtain hs | hs := hs
  · obtain ⟨type, htype, rfl⟩ := Option.map_eq_some_iff.1 (Option.mem_toList.1 hs)
    simp [check, hname, h.typed o ho type htype]
  · rw [List.mem_singleton.1 hs]
    simp [assignment, hname]

theorem newline_not_mem_page : ∀ s ∈ page os t, '\n' ∉ s.toList := by
  have hindented : ∀ {l : List String}, (∀ s ∈ l, '\n' ∉ s.toList) →
      ∀ s ∈ l.map (Code.fourSpaces ++ ·), '\n' ∉ s.toList := by
    intro l hl s hs
    obtain ⟨line, hline, rfl⟩ := List.mem_map.1 hs
    simp [Code.fourSpaces, hl line hline]
  intro s hs
  simp only [page, List.append_assoc, List.mem_append] at hs
  obtain hreader | hgap | hheader | hbody | hbetween | hhook | hclose := hs
  · obtain ⟨n, hn, rfl⟩ := List.mem_map.1 hreader
    obtain ⟨o, ho, rfl⟩ := List.mem_map.1 hn
    simp [Builder.readerSource, h.newline_not_mem_name (List.mem_filter.1 ho).1]
  · have hblank : s = "" := by
      revert hgap
      cases (readers os).isEmpty <;> simp
    simp [hblank]
  · rw [List.mem_singleton.1 hheader]
    exact h.newline_not_mem_header
  · refine hindented ?_ s hbody
    intro line hline
    obtain hline | hline := List.mem_append.1 hline
    · obtain ⟨o, ho, hline⟩ := List.mem_flatMap.1 hline
      exact h.newline_not_mem_body ho line hline
    · rw [List.mem_singleton.1 hline]
      decide
  · revert s
    decide
  · refine hindented ?_ s hhook
    intro line hline
    obtain ⟨o, ho, rfl⟩ := List.mem_map.1 hline
    simp [fallback, h.newline_not_mem_name (List.mem_filter.1 ho).1]
  · rw [List.mem_singleton.1 hclose]
    decide

end Legible

end Outline

/-! ### Rendered source -/

theorem Capability.newline_not_mem_of_lookupReversed {cs : List Char} {type : Capability}
    (h : lookupReversed cs = some type) : '\n' ∉ type.name.toList := by
  obtain ⟨b, hb, k, -, rfl⟩ := exists_of_lookupReversed h
  have hbase : ∀ b ∈ bases, '\n' ∉ b.name.toList := forall_mem_bases.2 (by decide)
  have hmarks : '\n' ∉ (marks k).toList := by simp [marks]
  rw [name_optional_iterate, String.toList_append, List.mem_append]
  exact not_or.2 ⟨hbase b hb, hmarks⟩

namespace Builder

/-- All types of parameters, if they have any, are looked up by name. -/
def LooksUpTypes (b : Builder) : Prop :=
  ∀ p ∈ b.signature.parameters, ∀ type, p.settings.type = some type →
    ∃ name, Capability.lookup? name = some type

variable {b b' : Builder}

theorem LooksUpTypes.legible (h : b.LooksUpTypes) :
    Outline.Legible (b.signature.parameters.map Parameter.outline) where
  named := by
    intro o ho
    obtain ⟨p, hp, rfl⟩ := List.mem_map.1 ho
    exact (isParameterName_eq_true_iff.1 (b.signature.wellDeclared.named p hp)).1
  distinct := by
    rw [List.map_map]
    exact b.signature.wellDeclared.distinct
  typed := by
    intro o ho typeName hname
    obtain ⟨p, hp, rfl⟩ := List.mem_map.1 ho
    obtain ⟨type, htype, rfl⟩ := Option.map_eq_some_iff.1 hname
    obtain ⟨_, hlookup⟩ := h p hp type htype
    exact Capability.newline_not_mem_of_lookupReversed hlookup

/-- Two builders with the standard plugins have the same rendered source exactly if their parameters
have the same outlines in the same order, and both or neither refuse undeclared keywords. -/
theorem source_eq_iff (hb : b.Standard) (hb' : b'.Standard) (htypes : b.LooksUpTypes)
    (htypes' : b'.LooksUpTypes) :
    b.source = b'.source ↔
      b.signature.parameters.map Parameter.outline =
          b'.signature.parameters.map Parameter.outline ∧
        (b.tolerance = .reject ↔ b'.tolerance = .reject) := by
  have hl := htypes.legible
  have hl' := htypes'.legible
  rw [hb.source_eq, hb'.source_eq, ← Tolerance.catchAll_eq_iff]
  constructor
  · intro h
    refine Outline.page_inj hl hl' ?_
    exact String.join_append_inj rfl hl.newline_not_mem_page hl'.newline_not_mem_page h
  · rintro ⟨houtlines, hcatchAll⟩
    simp only [Outline.page, Outline.header, Formal.items, houtlines, hcatchAll]

/-- A typed position and an option with default, under names that the generated text uses as well. -/
def clash (default : Value) (t : Tolerance) : Except Fault Builder := do
  let b ← Builder.new.define "self" (Settings.new.ofType .integer)
  let b ← b.define "UNDEFINED" ((Settings.new.defaultValue default).option true)
  return b.withTolerance t

theorem standard_of_clash {default : Value} {t : Tolerance} (h : clash default t = .ok b) :
    b.Standard := by
  obtain ⟨c, hc, h⟩ := Except.bind_eq_ok_iff.1 h
  obtain ⟨d, hd, h⟩ := Except.bind_eq_ok_iff.1 h
  cases h
  exact .withTolerance t (.define (.define .new hc) hd)

theorem parameters_clash (default : Value) (t : Tolerance) :
    (clash default t).map (fun b => (b.signature.parameters, b.tolerance)) =
      .ok ([⟨"self", Settings.new.ofType .integer⟩,
        ⟨"UNDEFINED", (Settings.new.defaultValue default).option true⟩], t) := rfl

/-- Neither the value of a default nor what becomes of undeclared keywords can be told, but whether
they are refused can. -/
theorem source_clash :
    ∃ b b' b'' : Builder, clash (.int 1) .ignore = .ok b ∧ clash .nil .absorb = .ok b' ∧
      clash .nil .reject = .ok b'' ∧ b.source = b'.source ∧ b.source ≠ b''.source := by
  have hmake : ∀ default t, ∃ b, clash default t = .ok b ∧ b.Standard ∧ b.LooksUpTypes ∧
      b.signature.parameters.map Parameter.outline =
        [⟨⟨"self", .positional, false⟩, some "integer", true⟩,
          ⟨⟨"UNDEFINED", .keyword, true⟩, none, true⟩] ∧ b.tolerance = t := by
    intro default t
    obtain ⟨b, hb, h⟩ := Except.map_eq_ok_iff.1 (parameters_clash default t)
    obtain ⟨hparameters, ht⟩ := Prod.mk.inj h
    refine ⟨b, hb, standard_of_clash hb, ?_, by rw [hparameters]; rfl, ht⟩
    intro p hp type htype
    rw [hparameters] at hp
    obtain rfl | rfl := List.mem_pair.1 hp
    · cases htype
      exact ⟨"integer", rfl⟩
    · cases htype
  obtain ⟨b, hb, hstandard, htypes, houtlines, ht⟩ := hmake (.int 1) .ignore
  obtain ⟨b', hb', hstandard', htypes', houtlines', ht'⟩ := hmake .nil .absorb
  obtain ⟨b'', hb'', hstandard'', htypes'', houtlines'', ht''⟩ := hmake .nil .reject
  refine ⟨b, b', b'', hb, hb', hb'', ?_, ?_⟩
  · rw [source_eq_iff hstandard hstandard' htypes htypes', houtlines, houtlines', ht, ht']
    exact ⟨rfl, by decide⟩
  · rw [ne_eq, source_eq_iff hstandard hstandard'' htypes htypes'', ht, ht'']
    rintro ⟨_, hreject⟩
    cases hreject.2 rfl

end Builder

end ClassForge
