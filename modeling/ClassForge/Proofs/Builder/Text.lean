import ClassForge.Builder.Source

/-!
# The text of installed definitions

Rendered source is written from a builder. Here the text is put together line by line from a mixin
instead, so that the two can be compared.

## Main definitions

- `Constructor.formals` — the items of the formal parameter list
- `Mixin.source?` — the text of what is installed
- `Code.ofLines` — code that has some lines written

## Main statements

- `Builder.parameterList_eq` — the parameter list of a builder is the items of its constructor
- `Builder.source?_install` — rendered source is the text of what is installed
-/

namespace ClassForge

/-- The items of the formal parameter list, the catch-all last. -/
def Constructor.formals (c : Constructor) : List String :=
  (c.signature.positionals ++ c.signature.keywords).map (·.render) ++ c.tolerance.catchAll.toList

namespace Mixin

/-- The lines for the readers, for a constructor with its call of the hook, and for the hook. -/
def lines (m : Mixin) (c : Constructor) : List String :=
  m.readers.names.map Builder.readerSource ++ (if m.readers.names.isEmpty then [] else [""]) ++
    ["fn initialize(" ++ ", ".intercalate c.formals ++ ") \x7b"] ++
    (c.statements.map (·.source) ++ [Builder.hookCall]).map (Code.fourSpaces ++ ·) ++
    ["\x7d", "", Builder.hookHeader] ++ m.hook.map (Code.fourSpaces ++ ·.source) ++ ["\x7d"]

/-- The text of the installed definitions, if a constructor is among them. -/
def source? (m : Mixin) : Option String :=
  m.constructor.map fun c => String.join ((m.lines c).map (· ++ "\n"))

end Mixin

/-! ### Parameter lists -/

theorem Parameter.render_ne_empty {p : Parameter} (h : isParameterName p.name = true) :
    p.render ≠ "" := by
  have hname : p.name ≠ "" := by
    intro he
    rw [he] at h
    revert h
    decide
  rw [render]
  split <;> simp [hname]

theorem Signature.parameterList_eq_empty_iff (s : Signature) :
    s.parameterList = "" ↔ s.positionals ++ s.keywords = [] := by
  rw [parameterList]
  constructor
  · intro h
    cases hl : s.positionals ++ s.keywords with
    | nil => rfl
    | cons p ps =>
      have hp : p ∈ s.parameters := by
        have hmem : p ∈ s.positionals ++ s.keywords := by simp [hl]
        exact (List.mem_append.1 hmem).elim (List.mem_filter.1 · |>.1) (List.mem_filter.1 · |>.1)
      have hrender := Parameter.render_ne_empty (s.wellDeclared.named p hp)
      rw [hl] at h
      cases ps <;> simp [hrender] at h
  · intro h
    rw [h]
    rfl

namespace Builder

variable (b : Builder)

theorem parameterList_eq : b.parameterList = ", ".intercalate b.constructor.formals := by
  have hempty := b.signature.parameterList_eq_empty_iff
  rw [parameterList, Constructor.formals, constructor]
  rw [Signature.parameterList] at hempty ⊢
  cases b.tolerance.catchAll with
  | none => simp
  | some rest =>
    -- The comma before the catch-all depends on the text so far, not on the parameters.
    by_cases hl : b.signature.positionals ++ b.signature.keywords = []
    · simp [hl]
    · have hne := mt hempty.1 hl
      simp only [String.isEmpty_iff, hne, if_false, Option.toList_some]
      rw [String.intercalate_append_of_ne_nil (by simpa using hl) (by simp),
        String.intercalate_singleton]

end Builder

/-! ### Rendered source -/

namespace Code

/-- Some lines, after which writing goes on at a level. -/
def ofLines (unit : String) (level : Nat) (ls : List String) : Code :=
  ⟨unit, level, String.join (ls.map (· ++ "\n"))⟩

variable (unit : String) (level : Nat) (ls : List String)

@[simp] theorem line_ofLines (s : String) :
    (ofLines unit level ls).line s = ofLines unit level (ls ++ [indentation unit level ++ s]) := by
  simp [ofLines, line]

@[simp] theorem blank_ofLines :
    (ofLines unit level ls).blank = ofLines unit level (ls ++ [""]) := by
  simp [ofLines, blank]

@[simp] theorem indent_ofLines : (ofLines unit level ls).indent = ofLines unit (level + 1) ls := rfl

@[simp] theorem dedent_ofLines : (ofLines unit level ls).dedent = ofLines unit (level - 1) ls := rfl

@[simp] theorem lines_ofLines (items : List String) :
    (ofLines unit level ls).lines items =
      ofLines unit level (ls ++ items.map (indentation unit level ++ ·)) := by
  induction items generalizing ls with
  | nil => simp [lines]
  | cons s items ih =>
    have hcons : (ofLines unit level ls).lines (s :: items) =
        ((ofLines unit level ls).line s).lines items := rfl
    rw [hcons, line_ofLines, ih, List.append_assoc, List.map_cons, List.singleton_append]

@[simp] theorem guarded_blank_ofLines (condition : Bool) :
    (ofLines unit level ls).guarded condition blank =
      ofLines unit level (ls ++ if condition then [""] else []) := by
  cases condition <;> simp [guarded]

@[simp] theorem block_ofLines (header close : String) (body : Code → Code) :
    (ofLines unit level ls).block header close body =
      (body (ofLines unit (level + 1) (ls ++ [indentation unit level ++ header]))).dedent.line
        close := by
  rw [block, line_ofLines, indent_ofLines]

end Code

namespace Builder

variable (b : Builder)

/-- Rendered source is the text of what the builder installs. -/
theorem source?_install (m : Mixin) : (b.install m).source? = some b.source := by
  -- Readers, constructor and hook stand at level 0, the bodies of the last two at level 1.
  have houter (s : String) : Code.indentation Code.fourSpaces 0 ++ s = s := String.empty_append
  have hinner : Code.indentation Code.fourSpaces 1 = Code.fourSpaces := by decide
  have hempty : Code.empty Code.fourSpaces = Code.ofLines Code.fourSpaces 0 [] := rfl
  have hheader : b.constructorHeader =
      "fn initialize(" ++ ", ".intercalate b.constructor.formals ++ ") \x7b" := by
    rw [← parameterList_eq]
    rfl
  have hinstalled : (b.install m).source? =
      some (Code.ofLines Code.fourSpaces 0 ((b.install m).lines b.constructor)).text := rfl
  rw [hinstalled, Option.some_inj, source, hheader, hempty]
  simp [houter, hinner, Mixin.lines, install, constructor, Function.comp_def]

end Builder

end ClassForge
