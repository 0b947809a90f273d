import ClassForge.Command
import ClassForge.Proofs.OrderedMap.Repetition
import ClassForge.Proofs.Outcome
import ClassForge.Proofs.Value.RoundTrip

/-!
# Arguments on the command line

Values that are written as JSON on a command line arrive as they are, and so do texts that are no JSON.

## Main definitions

- `Construction.Given` — a value or a text that is given on a command line
- `Construction.ofGiven` — the request with the texts of what is given
- `Construction.ofGivenIn`, `Construction.valueIn` — the same for any format of documents
- `Args.built` — arguments put together one by one
- `Construction.Arrives` — what arguments hold of given values and pairs

## Main statements

- `Construction.valueIn_textIn` — the value of the text of what is given
- `Construction.exists_arrives_of_readsBack` — what is given arrives, whatever the format
- `Construction.arrives_ofGiven` — so it does in compact texts, and the class is instantiated with it
-/

namespace ClassForge

/-- Arguments put together one by one. -/
def Args.built (positional : List Value) (pairs : List (String × Value)) : Args :=
  pairs.foldl (fun a p => a.opt p.1 p.2) (positional.foldl Args.arg Args.empty)

namespace Construction

/-- What is given for an argument: a value, to be written as JSON, or a text as it is. -/
inductive Given where
  | value (v : Value)
  | raw (text : String)

namespace Given

/-- What stands on the command line. -/
def text : Given → String
  | value v => v.json
  | raw text => text

/-- What is meant. -/
def meant : Given → Value
  | value v => v
  | raw text => .str text

/-- Values hold no floating-point number and nest at most 127 deep, and texts are no JSON. -/
def IsLegible : Given → Prop
  | value v => v.FloatFree ∧ v.depth ≤ 127
  | raw text => Json.read? text.toList = none

/-- What stands on the command line, with values in a format. -/
def textIn (F : Json.Format) : Given → String
  | value v => F.write v.toJson
  | raw text => text

/-- Values hold no floating-point number and nest at most 127 deep, and texts hold no document. -/
def IsLegibleIn (F : Json.Format) : Given → Prop
  | value v => v.FloatFree ∧ v.depth ≤ 127
  | raw text => F.read? text = none

end Given

/-- The request for an instance of a class, with the texts of what is given. -/
def ofGiven (className : String) (positional : List Given) (pairs : List (String × Given)) :
    Construction where
  className := className
  positional := positional.map Given.text
  options := pairs.map fun p => p.1 ++ "=" ++ p.2.text

/-- The request for an instance of a class, with values in a format. -/
def ofGivenIn (F : Json.Format) (className : String) (positional : List Given)
    (pairs : List (String × Given)) : Construction where
  className := className
  positional := positional.map (Given.textIn F)
  options := pairs.map fun p => p.1 ++ "=" ++ p.2.textIn F

/-- The value that a text stands for in a format: that of its document, else the text itself. -/
def valueIn (F : Json.Format) (text : String) : Value :=
  ((F.read? text).map fun j => Value.ofJson j.sorted).getD (.str text)

/-- What arguments hold of values and pairs: equal values of the same kinds, and each key at its first
position with its last value. -/
structure Arrives (a : Args) (values : List Value) (pairs : List (String × Value)) : Prop where
  equal : (a == .built values pairs) = true
  positional : List.Forall₂ Value.Agree a.positional values
  order : a.keywords.keys = (pairs.map Prod.fst).eraseDups
  keyword : ∀ key, Option.Rel Value.Agree (a.keyword? key) (pairs.reverse.lookup key)

variable {g : Given} {values : List Value} {pairs : List (String × Value)} {F : Json.Format}
  {f : Binary64 → Binary64}

/-! ### Arguments one by one -/

theorem foldl_arg (values : List Value) (a : Args) :
    values.foldl Args.arg a = ⟨a.positional ++ values, a.keywords⟩ := by
  induction values generalizing a with
  | nil => rw [List.foldl_nil, List.append_nil]
  | cons v vs ih =>
    rw [List.foldl_cons, ih, Args.arg, List.append_assoc, List.singleton_append]

theorem foldl_opt (pairs : List (String × Value)) (a : Args) :
    pairs.foldl (fun a p => a.opt p.1 p.2) a = ⟨a.positional, a.keywords.insertAll pairs⟩ := by
  induction pairs generalizing a with
  | nil => rfl
  | cons p ps ih => rw [List.foldl_cons, ih, Args.opt, OrderedMap.insertAll_cons]

theorem built_eq (values : List Value) (pairs : List (String × Value)) :
    Args.built values pairs = .ofLists values pairs := by
  rw [Args.built, foldl_arg, foldl_opt, Args.empty, List.nil_append]
  rfl

/-! ### Texts -/

theorem meant_naNFree (h : g.IsLegibleIn F) : g.meant.NaNFree := by
  cases g with
  | value v => exact fun path x hx => (h.1 path x hx).elim
  | raw text => exact Value.eachFloat_of_child? nofun nofun

/-- The value of a text is the one that is meant, with sorted fields. -/
theorem valueIn_textIn (hF : F.ReadsBack f) (h : g.IsLegibleIn F) :
    valueIn F (g.textIn F) = g.meant.sortFields := by
  cases g with
  | value v =>
    obtain ⟨hfree, hdepth⟩ := h
    have hfinite : v.Finite := fun path x hx => (hfree path x hx).elim
    have hread : F.read? (F.write v.toJson) = some v.toJson := by
      rw [Value.read?_write_toJson hF hfinite hdepth, Value.mapFloats_of_floatFree hfree]
    rw [valueIn, Given.textIn, hread, Option.map_some, Value.ofJson_sorted, Value.ofJson_toJson]
    rfl
  | raw text =>
    have hread : F.read? text = none := h
    rw [valueIn, Given.textIn, hread]
    rfl

/-- An option is cut at its first equals sign. -/
theorem optionBy_append (valueOf : String → Value) {key : String} (hkey : '=' ∉ key.toList)
    (text : String) : optionBy valueOf (key ++ "=" ++ text) = .ok (key, valueOf text) := by
  have hlist : (key ++ "=" ++ text).toList = key.toList ++ '=' :: text.toList := by
    simp [String.toList_append]
  rw [optionBy, hlist, Text.cut?_append hkey]
  simp only [String.ofList_toList]

theorem mapM_optionBy (hF : F.ReadsBack f) {pairs : List (String × Given)}
    (h : ∀ p ∈ pairs, '=' ∉ p.1.toList ∧ p.2.IsLegibleIn F) :
    (pairs.map fun p => p.1 ++ "=" ++ p.2.textIn F).mapM (optionBy (valueIn F)) =
      .ok (pairs.map fun p => (p.1, p.2.meant.sortFields)) := by
  induction pairs with
  | nil => rfl
  | cons p ps ih =>
    obtain ⟨⟨hkey, hlegible⟩, hps⟩ := List.forall_mem_cons.1 h
    rw [List.map_cons, List.mapM_cons, optionBy_append _ hkey, valueIn_textIn hF hlegible, ih hps]
    rfl

/-- The arguments that arrive are those that are meant, with sorted fields. -/
theorem argsBy_ofGivenIn (hF : F.ReadsBack f) (className : String) {positional : List Given}
    {pairs : List (String × Given)} (hpositional : ∀ g ∈ positional, g.IsLegibleIn F)
    (hpairs : ∀ p ∈ pairs, '=' ∉ p.1.toList ∧ p.2.IsLegibleIn F) :
    (ofGivenIn F className positional pairs).argsBy (valueIn F) =
      .ok ⟨(positional.map Given.meant).map Value.sortFields,
        (OrderedMap.ofList (pairs.map fun p => (p.1, p.2.meant))).map Value.sortFields⟩ := by
  have hvalues : (positional.map (Given.textIn F)).map (valueIn F) =
      (positional.map Given.meant).map Value.sortFields := by
    rw [List.map_map, List.map_map]
    exact List.map_congr_left fun g hg => valueIn_textIn hF (hpositional g hg)
  rw [argsBy, ofGivenIn, mapM_optionBy hF hpairs, hvalues, OrderedMap.map_ofList]
  simp only [List.map_map]
  rfl

/-! ### What arrives -/

theorem naNFree_of_lookup (h : ∀ p ∈ pairs, p.2.NaNFree) {key : String} {v : Value}
    (hv : pairs.reverse.lookup key = some v) : v.NaNFree := by
  rw [← OrderedMap.get?_ofList] at hv
  exact h _ (OrderedMap.mem_of_get?_ofList hv)

/-- Values with sorted fields are equal to the values themselves, and are of the same kinds. -/
theorem arrives_sortFields (hvalues : ∀ v ∈ values, v.NaNFree) (hpairs : ∀ p ∈ pairs, p.2.NaNFree) :
    Arrives ⟨values.map Value.sortFields, (OrderedMap.ofList pairs).map Value.sortFields⟩
      values pairs where
  equal := by
    rw [built_eq]
    refine Bool.and_eq_true_iff.2 ⟨?_, Value.equal_map_iff.2 ⟨?_, fun key v hv => ?_⟩⟩
    · rw [Value.equalItems_iff, List.forall₂_map_left_iff, Args.ofLists, List.forall₂_same]
      exact fun v hv => Value.equal_sortFields (hvalues v hv)
    · rw [OrderedMap.keys_map, Args.ofLists]
    · rw [OrderedMap.get?_map, Option.map_eq_some_iff] at hv
      obtain ⟨w, hw, rfl⟩ := hv
      exact ⟨w, hw, Value.equal_sortFields
        (naNFree_of_lookup hpairs (OrderedMap.get?_ofList pairs key ▸ hw))⟩
  positional := by
    rw [List.forall₂_map_left_iff, List.forall₂_same]
    exact fun v hv => Value.agree_sortFields (hvalues v hv)
  order := by rw [OrderedMap.keys_map, OrderedMap.keys_ofList]
  keyword key := by
    rw [Args.keyword?, OrderedMap.get?_map, OrderedMap.get?_ofList]
    cases hv : pairs.reverse.lookup key with
    | none => exact .none
    | some v => exact .some (Value.agree_sortFields (naNFree_of_lookup hpairs hv))

/-- What is given on a command line arrives, in every format that reads documents back. -/
theorem exists_arrives_of_readsBack (hF : F.ReadsBack f) (className : String)
    (positional : List Given) (pairs : List (String × Given))
    (hpositional : ∀ g ∈ positional, g.IsLegibleIn F)
    (hpairs : ∀ p ∈ pairs, '=' ∉ p.1.toList ∧ p.2.IsLegibleIn F) :
    ∃ a, (ofGivenIn F className positional pairs).argsBy (valueIn F) = .ok a ∧
      Arrives a (positional.map Given.meant) (pairs.map fun p => (p.1, p.2.meant)) := by
  refine ⟨_, argsBy_ofGivenIn hF className hpositional hpairs, arrives_sortFields ?_ ?_⟩
  · exact List.forall_mem_map.2 fun g hg => meant_naNFree (hpositional g hg)
  · exact List.forall_mem_map.2 fun p hp => meant_naNFree (hpairs p hp).2

/-! ### Compact texts -/

theorem Given.textIn_compact (g : Given) : g.textIn .compact = g.text := by
  cases g <;> rfl

theorem Given.isLegibleIn_compact (h : g.IsLegible) : g.IsLegibleIn .compact := by
  cases g <;> exact h

theorem args_ofGiven (className : String) (positional : List Given)
    (pairs : List (String × Given)) :
    (ofGiven className positional pairs).args =
      (ofGivenIn .compact className positional pairs).argsBy (valueIn .compact) := by
  simp only [ofGivenIn, Given.textIn_compact]
  rfl

/-- What is given on a command line arrives, and the class is instantiated with it. -/
theorem arrives_ofGiven (className : String) (positional : List Given)
    (pairs : List (String × Given))
    (hpositional : ∀ g ∈ positional, g.IsLegible)
    (hpairs : ∀ p ∈ pairs, '=' ∉ p.1.toList ∧ p.2.IsLegible) :
    ∃ a, (ofGiven className positional pairs).args = .ok a ∧
      Arrives a (positional.map Given.meant) (pairs.map fun p => (p.1, p.2.meant)) ∧
      ∀ (r : Registry) (made : Class), r.get? className = some made →
        (ofGiven className positional pairs).run r = (made.instantiate a).mapError .construction := by
  obtain ⟨a, hargs, harrives⟩ :=
    exists_arrives_of_readsBack Json.Format.readsBack_compact className positional pairs
      (fun g hg => Given.isLegibleIn_compact (hpositional g hg))
      (fun p hp => ⟨(hpairs p hp).1, Given.isLegibleIn_compact (hpairs p hp).2⟩)
  rw [← args_ofGiven] at hargs
  refine ⟨a, hargs, harrives, fun r made hmade => ?_⟩
  have hfind : r.find className = .ok made := by rw [Registry.find, hmade]
  have hname : (ofGiven className positional pairs).className = className := rfl
  rw [run, hname, hfind, Except.ok_bind, hargs, Except.ok_bind]

/-- A list of texts and maps, and a text that is no JSON. -/
def lookAlikeArguments : List Given :=
  [.value (.list [.str "null", .map (OrderedMap.ofList [("b", .nil), ("a", .str "x=1")])]), .raw "red=1"]

/-- A repeated key, whose values are a text and the number that it looks like. -/
def lookAlikeOptions : List (String × Given) :=
  [("size", .value (.str "3")), ("color", .raw "red=1"), ("size", .value (.int 3))]

theorem floatFree_of_child?_eq_none {v : Value} (hfloat : ∀ x, v ≠ .float x)
    (hchild : ∀ s, v.child? s = none) : v.FloatFree :=
  Value.eachFloat_of_child?_eq_none hfloat hchild

theorem isLegible_lookAlikeArguments : ∀ g ∈ lookAlikeArguments, g.IsLegible := by
  have hmap : (Value.map (OrderedMap.ofList [("b", .nil), ("a", .str "x=1")])).FloatFree := by
    refine Value.eachFloat_map fun key v hv => ?_
    obtain h | h : (key, v) = ("b", .nil) ∨ (key, v) = ("a", .str "x=1") := by
      simpa using OrderedMap.mem_of_get?_ofList hv
    · cases h
      exact floatFree_of_child?_eq_none nofun fun _ => rfl
    · cases h
      exact floatFree_of_child?_eq_none nofun fun _ => rfl
  simp only [lookAlikeArguments, List.forall_mem_cons]
  refine ⟨⟨Value.eachFloat_list ?_, by decide⟩, (by decide +kernel : Json.read? "red=1".toList = none),
    List.forall_mem_nil _⟩
  simp only [List.forall_mem_cons]
  exact ⟨floatFree_of_child?_eq_none nofun fun _ => rfl, hmap, List.forall_mem_nil _⟩

theorem isLegible_lookAlikeOptions :
    ∀ p ∈ lookAlikeOptions, '=' ∉ p.1.toList ∧ p.2.IsLegible := by
  simp only [lookAlikeOptions, List.forall_mem_cons]
  refine ⟨⟨by decide, floatFree_of_child?_eq_none nofun fun _ => rfl, by decide⟩,
    ⟨by decide, (by decide +kernel : Json.read? "red=1".toList = none)⟩,
    ⟨by decide, floatFree_of_child?_eq_none nofun fun _ => rfl, by decide⟩, List.forall_mem_nil _⟩

theorem arrives_ofGiven_lookAlikes : (∀ g ∈ lookAlikeArguments, g.IsLegible) ∧
    (∀ p ∈ lookAlikeOptions, '=' ∉ p.1.toList ∧ p.2.IsLegible) ∧
    ∃ a, (ofGiven "Dot" lookAlikeArguments lookAlikeOptions).args = .ok a ∧
      Arrives a (lookAlikeArguments.map Given.meant)
        (lookAlikeOptions.map fun p => (p.1, p.2.meant)) ∧
      ∀ (r : Registry) (made : Class), r.get? "Dot" = some made →
        (ofGiven "Dot" lookAlikeArguments lookAlikeOptions).run r =
          (made.instantiate a).mapError .construction :=
  ⟨isLegible_lookAlikeArguments, isLegible_lookAlikeOptions,
    arrives_ofGiven "Dot" _ _ isLegible_lookAlikeArguments isLegible_lookAlikeOptions⟩

end Construction

end ClassForge
