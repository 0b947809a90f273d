import ClassForge.Proofs.Capability.Lookup
import ClassForge.Proofs.Registry.Direct
import ClassForge.Proofs.Signature.Declaration
import ClassForge.Proofs.Toml.Conversion
import Mathlib.Data.List.Forall2

/-!
# The classes of a registry

What a class of a registry is, read off the declarations along its chain.

## Main definitions

- `ParameterDecl.Defaults`, `ParameterDecl.Declares` — the default and the parameter that a declaration
  is for
- `ParameterDecl.parameter` — that parameter, computed
- `ClassDecl.Describes` — a class as the declarations along its chain describe it

## Main statements

- `ClassDecl.describes_of_build` — a class made along a chain is as the chain describes it
- `Manifest.describes_of_registry` — so are all classes of a registry
-/

namespace ClassForge

namespace ParameterDecl

/-- The default of a declared parameter: the value of its constant if it has one, else nil if it is
optional. -/
inductive Defaults (p : ParameterDecl) : Option DefaultFn → Prop
  | constant {d : Toml.Datum} {v : Value} (constant : p.constant = some d) (converts : d.Converts v) :
      Defaults p (some fun _ => v)
  | optional (constant : p.constant = none) (optional : p.isOptional = true) :
      Defaults p (some fun _ => .nil)
  | required (constant : p.constant = none) (required : p.isOptional = false) : Defaults p none

/-- The parameter is as a declaration of the given kind says. -/
structure Declares (p : ParameterDecl) (kind : ParameterKind) (q : Parameter) : Prop where
  name : q.name = p.name.value
  kind : q.settings.kind = kind
  type : Option.Rel (fun text c => Capability.IsNamed c text.value) p.type q.settings.type
  reader : q.settings.reader = p.reader
  default : p.Defaults q.settings.defaultFn

/-- The parameter that a declaration stands for. Its default is the constant one if there is one, and
nil for an optional parameter. -/
def parameter (kind : ParameterKind) (p : ParameterDecl) : Parameter where
  name := p.name.value
  settings := {
    kind
    defaultFn := (p.constant.map Toml.Datum.toValue <|> if p.isOptional then some Value.nil else none).map
      fun v _ => v
    type := p.type.bind fun type => Capability.lookup? type.value
    reader := p.reader }

/-- The name of the type, if there is one, names a type. -/
def Resolves (p : ParameterDecl) : Prop :=
  ∀ type, p.type = some type → (Capability.lookup? type.value).isSome

theorem default?_eq (p : ParameterDecl) :
    p.default? =
      (p.constant.map Toml.Datum.toValue <|> if p.isOptional then some Value.nil else none) := by
  rw [default?]
  cases p.constant <;> rfl

theorem capability?_eq_ok_iff {p : ParameterDecl} {type : Option Capability} :
    p.capability? = .ok type ↔
      p.Resolves ∧ (p.type.bind fun type => Capability.lookup? type.value) = type := by
  rw [capability?, Resolves]
  cases p.type with
  | none => simp
  | some t => cases h : Capability.lookup? t.value <;> simp [h]

theorem settings_eq_ok_iff {p : ParameterDecl} {kind : ParameterKind} {s : Settings} :
    p.settings kind = .ok s ↔ p.Resolves ∧ (p.parameter kind).settings = s := by
  rw [settings, Except.map_eq_ok_iff, parameter, default?_eq]
  constructor
  · rintro ⟨type, htype, rfl⟩
    obtain ⟨hr, rfl⟩ := capability?_eq_ok_iff.1 htype
    exact ⟨hr, rfl⟩
  · rintro ⟨hr, rfl⟩
    exact ⟨_, capability?_eq_ok_iff.2 ⟨hr, rfl⟩, rfl⟩

theorem defaults_iff {p : ParameterDecl} {f : Option DefaultFn} :
    p.Defaults f ↔ (p.default?.map fun v _ => v) = f := by
  rw [default?]
  constructor
  · intro h
    cases h with
    | constant constant converts => rw [constant, ← Toml.Datum.toValue_eq_iff.2 converts]; rfl
    | optional constant optional => rw [constant, optional]; rfl
    | required constant required => rw [constant, required]; rfl
  · rintro rfl
    cases hconstant : p.constant with
    | some d => exact .constant hconstant (Toml.Datum.toValue_eq_iff.1 rfl)
    | none =>
      cases hoptional : p.isOptional with
      | true => exact .optional hconstant hoptional
      | false => exact .required hconstant hoptional

theorem rel_type_iff {p : ParameterDecl} {type : Option Capability} :
    Option.Rel (fun text c => Capability.IsNamed c text.value) p.type type ↔
      p.Resolves ∧ (p.type.bind fun text => Capability.lookup? text.value) = type := by
  rw [Resolves]
  cases p.type with
  | none => cases type <;> simp
  | some text =>
    cases type with
    | none => simp [Option.isSome_iff_ne_none]
    | some c => simp +contextual [← Capability.lookup?_eq_some_iff]

theorem declares_iff {p : ParameterDecl} {kind : ParameterKind} {q : Parameter} :
    p.Declares kind q ↔ p.Resolves ∧ p.parameter kind = q := by
  constructor
  · rintro ⟨hname, hkind, htype, hreader, hdefault⟩
    obtain ⟨hr, htype⟩ := rel_type_iff.1 htype
    rw [defaults_iff, default?_eq] at hdefault
    obtain ⟨name, kind, f, type, reader⟩ := q
    refine ⟨hr, ?_⟩
    rw [parameter, hdefault, htype, ← hname, ← hkind, ← hreader]
  · rintro ⟨hr, rfl⟩
    exact ⟨rfl, rfl, rel_type_iff.2 ⟨hr, rfl⟩, rfl, defaults_iff.2 (by rw [default?_eq]; rfl)⟩

/-- The declared parameters of several declarations. -/
theorem forall₂_declares_iff {ds : List (ParameterKind × ParameterDecl)} {qs : List Parameter} :
    List.Forall₂ (fun d q => d.2.Declares d.1 q) ds qs ↔
      (∀ d ∈ ds, d.2.Resolves) ∧ (ds.map fun d => d.2.parameter d.1) = qs := by
  simp only [declares_iff]
  rw [List.forall₂_and_left, ← List.forall₂_eq_eq_eq, List.forall₂_map_left_iff]

end ParameterDecl

namespace Class.Grows

theorem of_declareOn {c c' : Class} {p : ParameterDecl} {kind : ParameterKind}
    (h : p.declareOn kind c = .ok c') : c.Grows [p.parameter kind] c' ∧ p.Resolves := by
  rw [ParameterDecl.declareOn] at h
  obtain ⟨s, hs, h⟩ := Except.bind_eq_ok_iff.1 h
  obtain ⟨hr, rfl⟩ := ParameterDecl.settings_eq_ok_iff.1 hs
  exact ⟨of_define (Except.mapError_eq_ok_iff.1 h), hr⟩

end Class.Grows

namespace ClassDecl

/-- The class is as the declarations along its chain describe it. -/
structure Describes (d : ClassDecl) (name : String) (l : Lineage) (c : Class) : Prop where
  name : c.name = name
  ancestors : c.ancestors = l.map Prod.fst
  /-- The parameters are those declared from the far end of the chain down to the class itself, in each
  class first those for positions. -/
  parameters : List.Forall₂ (fun (p : ParameterKind × ParameterDecl) q => p.2.Declares p.1 q)
    ((d :: l.map Prod.snd).reverse.flatMap fun e =>
      e.params.map (.positional, ·) ++ e.options.map (.keyword, ·))
    c.builder.signature.parameters
  /-- The nearest tolerance counts. -/
  tolerance : c.tolerance = ((d :: l.map Prod.snd).findSome? (·.tolerance)).getD .reject

theorem grows_of_foldlM {ds : List (ParameterKind × ParameterDecl)} {c c' : Class}
    (h : ds.foldlM (fun c p => p.2.declareOn p.1 c) c = .ok c') :
    c.Grows (ds.map fun p => p.2.parameter p.1) c' ∧ ∀ p ∈ ds, p.2.Resolves := by
  induction ds generalizing c with
  | nil =>
    obtain rfl : c = c' := Except.ok.inj h
    exact ⟨.refl c, by simp⟩
  | cons p ds ih =>
    rw [List.foldlM_cons] at h
    obtain ⟨b, hb, h⟩ := Except.bind_eq_ok_iff.1 h
    obtain ⟨hfirst, hp⟩ := Class.Grows.of_declareOn hb
    obtain ⟨hrest, hds⟩ := ih h
    exact ⟨hfirst.trans hrest, List.forall_mem_cons.2 ⟨hp, hds⟩⟩

theorem tolerate_eq (d : ClassDecl) (c : Class) :
    (d.tolerate c).name = c.name ∧ (d.tolerate c).ancestors = c.ancestors ∧
      (d.tolerate c).builder.signature = c.builder.signature ∧
      (d.tolerate c).tolerance = d.tolerance.getD c.tolerance := by
  rw [tolerate]
  cases d.tolerance <;> exact ⟨rfl, rfl, rfl, rfl⟩

/-- The declarations of a class make one tolerance and all of its parameters. -/
theorem grows_of_declareOn {d : ClassDecl} {c c' : Class} (h : d.declareOn c = .ok c') :
    ∃ qs, List.Forall₂ (fun p q => p.2.Declares p.1 q) d.declarations qs ∧
      (d.tolerate c).Grows qs c' := by
  obtain ⟨hgrows, hresolves⟩ := grows_of_foldlM h
  exact ⟨_, ParameterDecl.forall₂_declares_iff.2 ⟨hresolves, rfl⟩, hgrows⟩

/-- A class made along a chain is as the chain describes it. The induction is on the chain, whose
head is the parent. -/
theorem describes_of_build {d : ClassDecl} {name : String} {l : Lineage} {c : Class}
    (h : d.build name l = .ok c) : d.Describes name l c := by
  induction l generalizing d name c with
  | nil =>
    obtain ⟨qs, hdeclares, hgrows⟩ := grows_of_declareOn h
    obtain ⟨hname, hancestors, hsignature, htolerance⟩ := d.tolerate_eq (.new name)
    refine ⟨hgrows.name.trans hname, hgrows.ancestors.trans hancestors, ?_, ?_⟩
    · have hempty : (Class.new name).builder.signature.parameters = [] := rfl
      rw [hgrows.parameters, hsignature, hempty, List.nil_append]
      simpa [declarations] using hdeclares
    · rw [hgrows.tolerance, htolerance]
      cases hd : d.tolerance with
      | none =>
        simp only [List.map_nil, List.findSome?_cons, hd, List.findSome?_nil]
        rfl
      | some t => simp [hd]
  | cons e rest ih =>
    obtain ⟨parent, e⟩ := e
    obtain ⟨b, hb, h⟩ := Except.bind_eq_ok_iff.1 h
    have hparent := ih hb
    obtain ⟨qs, hdeclares, hgrows⟩ := grows_of_declareOn h
    obtain ⟨hname, hancestors, hsignature, htolerance⟩ := d.tolerate_eq (b.subclass name)
    refine ⟨hgrows.name.trans hname, ?_, ?_, ?_⟩
    · rw [hgrows.ancestors, hancestors, List.map_cons, ← hparent.ancestors, ← hparent.name]
      rfl
    · have hinherited : (b.subclass name).builder.signature = b.builder.signature := rfl
      rw [hgrows.parameters, hsignature, hinherited]
      simpa [declarations] using List.rel_append hparent.parameters hdeclares
    · have hinherited : (b.subclass name).tolerance = b.tolerance := rfl
      rw [hgrows.tolerance, htolerance, hinherited, hparent.tolerance]
      cases hd : d.tolerance <;> simp [hd]

theorem Describes.resolves {d : ClassDecl} {name : String} {l : Lineage} {c : Class}
    (h : d.Describes name l c) : ∀ p ∈ d.parameters, p.Resolves := by
  obtain ⟨hresolves, -⟩ := ParameterDecl.forall₂_declares_iff.1 h.parameters
  intro p hp
  obtain hp | hp := List.mem_append.1 hp
  · exact hresolves (.positional, p) (by simp [hp])
  · exact hresolves (.keyword, p) (by simp [hp])

end ClassDecl

namespace Manifest

/-- A registry has the classes of the manifest in their order, and each class is as the declarations
along its chain describe it, wherever in the manifest they stand. -/
theorem describes_of_registry {m : Manifest} {r : Registry} (h : m.registry = .ok r) :
    r.keys = m.classes.keys ∧
      ∀ name d, m.classes.get? name = some d →
        ∃ l c, m.Chain name l ∧ r.get? name = some c ∧ d.Describes name l c := by
  obtain ⟨hkeys, hsound⟩ := sound_of_registry h
  refine ⟨hkeys, ?_⟩
  intro name d hd
  obtain ⟨c, hc⟩ := OrderedMap.mem_keys_iff_get?.1 (hkeys ▸ OrderedMap.mem_keys_of_get? hd)
  obtain ⟨d', l, hd', hl, hbuild⟩ := hsound name c hc
  obtain rfl := Option.some.inj (hd.symm.trans hd')
  exact ⟨l, c, hl, hc, ClassDecl.describes_of_build hbuild⟩

/-- A constant with an array, a date-time and a table inside. -/
def details : Toml.Datum :=
  .table (.ofList [
    ("sizes", .array [.integer 4, .float ⟨0x4004000000000000⟩, .boolean true]),
    ("since", .dateTime (.instant ⟨2024, 2, 29⟩ ⟨7, 32, 0, 500000000⟩ (.minutes (-420)))),
    ("of", .table (.ofList [("metal", .string "steel")]))])

def part : ClassDecl where
  parent := none
  tolerance := some .absorb
  params := [⟨⟨⟨0, 0⟩, "code"⟩, some ⟨⟨0, 0⟩, "string"⟩, none, false, none⟩]
  options := [⟨⟨⟨0, 0⟩, "details"⟩, none, some details, false, some false⟩]

def bolt : ClassDecl where
  parent := some ⟨⟨0, 0⟩, "Part"⟩
  tolerance := none
  params := [⟨⟨⟨0, 0⟩, "length"⟩, some ⟨⟨0, 0⟩, "coercible_integer?"⟩, none, true, none⟩]
  options := [⟨⟨⟨0, 0⟩, "unit"⟩, none, some (.string "mm"), false, none⟩]

/-- The class that is extended stands behind the other one. -/
def stock : Manifest :=
  ⟨.ofList [("Bolt", bolt), ("Part", part)]⟩

theorem get?_bolt : stock.classes.get? "Bolt" = some bolt := rfl

theorem get?_part : stock.classes.get? "Part" = some part := rfl

theorem chain_part : stock.Chain "Part" [] :=
  .root get?_part rfl

theorem chain_bolt : stock.Chain "Bolt" [("Part", part)] := by
  have hparent : bolt.parent = some ⟨⟨0, 0⟩, "Part"⟩ := rfl
  exact .step get?_bolt hparent get?_part chain_part

theorem toValue_details :
    details.toValue = .map (.ofList [
      ("sizes", .list [.int 4, .float ⟨0x4004000000000000⟩, .bool true]),
      ("since", .str "2024-02-29T07:32:00.5-07:00"),
      ("of", .map (.ofList [("metal", .str "steel")]))]) := by
  simp only [details, Toml.Datum.toValue_table, Toml.Datum.toValue_array, OrderedMap.map_ofList,
    List.map_cons, List.map_nil]
  rfl

theorem exists_registry_stock : ∃ r, stock.registry = .ok r := by
  have hbolt : stock.build "Bolt" bolt = bolt.build "Bolt" [("Part", part)] := by
    rw [build, (lineage_eq_ok_iff get?_bolt).2 chain_bolt, Except.ok_bind]
  have hpart : stock.build "Part" part = part.build "Part" [] := by
    rw [build, (lineage_eq_ok_iff get?_part).2 chain_part, Except.ok_bind]
  have hentries : stock.classes.toList = [("Bolt", bolt), ("Part", part)] := rfl
  rw [registry_eq, direct, buildAll, hentries, List.mapM_cons, List.mapM_cons, hbolt, hpart]
  exact ⟨_, rfl⟩

/-- The derived class has the parameters of its base in front of its own, each with what is declared
for it. The constant of the base is converted down to the innermost table. -/
theorem describes_stock :
    ∃ r : Registry, stock.registry = .ok r ∧ r.keys = ["Bolt", "Part"] ∧
      ∃ c, r.get? "Bolt" = some c ∧ c.ancestors = ["Part"] ∧ c.tolerance = .absorb ∧
        (c.builder.signature.parameters.map fun q =>
            (q.name, q.settings.kind, q.settings.type.map (·.name), q.settings.reader)) =
          [("code", .positional, some "string", none), ("details", .keyword, none, some false),
            ("length", .positional, some "coercible_integer?", none),
            ("unit", .keyword, none, none)] ∧
        ∀ self, (c.builder.signature.parameters.map fun q =>
            q.settings.defaultFn.map fun default => default self) =
          [none,
            some (.map (.ofList [
              ("sizes", .list [.int 4, .float ⟨0x4004000000000000⟩, .bool true]),
              ("since", .str "2024-02-29T07:32:00.5-07:00"),
              ("of", .map (.ofList [("metal", .str "steel")]))])),
            some .nil,
            some (.str "mm")] := by
  obtain ⟨r, hr⟩ := exists_registry_stock
  obtain ⟨hkeys, hclasses⟩ := describes_of_registry hr
  obtain ⟨l, c, hl, hc, hd⟩ := hclasses "Bolt" bolt rfl
  obtain rfl := hl.unique chain_bolt
  obtain ⟨-, hparameters⟩ := ParameterDecl.forall₂_declares_iff.1 hd.parameters
  refine ⟨r, hr, hkeys, c, hc, hd.ancestors, hd.tolerance, ?_, fun self => ?_⟩
  · rw [← hparameters]
    rfl
  · rw [← hparameters, ← toValue_details]
    rfl

end Manifest

end ClassForge
