import ClassForge.Code

/-!
# Nested code

Programs in which blocks, conditional parts and indented parts nest in whatever way. Each part writes
the same lines wherever it stands, only deeper, and leaves the level as it was. So a program writes its
lines behind the text, each indented by the starting level and by what is open around it.

## Main definitions

- `Code.Item` — a part of a program, and `Code.Item.steps`, the writing operations that it stands for
- `Code.Row` — a written line with its depth, and `Code.Item.rows`, the lines of a part
- `Code.Within` — the parts of a program, each with the number of blocks and indented parts around it
- `Code.Writes` — a way to go on that adds some lines and changes nothing else

## Main statements

- `Code.Writes.block`, `Code.Writes.indented` — what is open around a part makes its lines deeper
- `Code.writes_stepsAll` — a program writes its lines
- `Code.Within.exists_rows` — the lines of a part stand together, as deep as the part is nested
- `Code.run_stepsAll` — what a program does to a text, at any level and with any unit
-/

namespace ClassForge.Code

/-- A part of a program that comes back to the level at which it starts. -/
inductive Item where
  | line (s : String)
  | blank
  | lines (items : List String)
  | guarded (condition : Bool) (body : List Item)
  | block (header close : String) (body : List Item)
  /-- Goes one level deeper, and one level back behind the body. -/
  | indented (body : List Item)

/-- A written line. -/
inductive Row where
  | blank
  /-- A line that is so much deeper than the level at which the program starts. -/
  | line (depth : Nat) (s : String)

namespace Row

def deeper (k : Nat) : Row → Row
  | blank => blank
  | line depth s => line (depth + k) s

/-- The text of a line of a program that starts at a level. Blank lines are not indented. -/
def text (unit : String) (level : Nat) : Row → String
  | blank => "\n"
  | line depth s => indentation unit (level + depth) ++ s ++ "\n"

end Row

namespace Item

mutual

/-- The writing operations of a part. -/
def steps : Item → List Step
  | line s => [.line s]
  | blank => [.blank]
  | lines items => [.lines items]
  | guarded condition body => [.guarded condition (stepsAll body)]
  | block header close body => [.block header close (stepsAll body)]
  | indented body => .indent :: stepsAll body ++ [.dedent]

def stepsAll : List Item → List Step
  | [] => []
  | p :: ps => steps p ++ stepsAll ps

end

mutual

/-- The lines of a part. A block indents what stands between its header and its closing line. -/
def rows : Item → List Row
  | line s => [.line 0 s]
  | blank => [.blank]
  | lines items => items.map (.line 0)
  | guarded condition body => if condition then rowsAll body else []
  | block header close body =>
    .line 0 header :: (rowsAll body).map (.deeper 1) ++ [.line 0 close]
  | indented body => (rowsAll body).map (.deeper 1)

def rowsAll : List Item → List Row
  | [] => []
  | p :: ps => rows p ++ rowsAll ps

end

end Item

/-- `Within k p program` if `p` is a part of the program that stands within `k` blocks and indented
parts, and under no condition that does not hold. -/
inductive Within : Nat → Item → List Item → Prop where
  | top {p : Item} {program : List Item} (h : p ∈ program) : Within 0 p program
  | guarded {k : Nat} {p : Item} {body program : List Item} (h : Within k p body)
    (hbody : .guarded true body ∈ program) : Within k p program
  | block {k : Nat} {p : Item} {header close : String} {body program : List Item}
    (h : Within k p body) (hbody : .block header close body ∈ program) : Within (k + 1) p program
  | indented {k : Nat} {p : Item} {body program : List Item} (h : Within k p body)
    (hbody : .indented body ∈ program) : Within (k + 1) p program

/-- The text of some lines of a program that starts at a level. -/
def written (unit : String) (level : Nat) (rows : List Row) : String :=
  String.join (rows.map (Row.text unit level))

/-- Adds the lines behind the text, and keeps level and unit. -/
def Writes (f : Code → Code) (rows : List Row) : Prop :=
  ∀ c, f c = { c with text := c.text ++ written c.unit c.level rows }

/-! ### Lines -/

namespace Row

theorem text_deeper (unit : String) (level k : Nat) (r : Row) :
    (r.deeper k).text unit level = r.text unit (level + k) := by
  cases r with
  | blank => rfl
  | line depth s => rw [deeper, text, text, Nat.add_right_comm, Nat.add_assoc level]

theorem deeper_zero (r : Row) : r.deeper 0 = r := by
  cases r <;> rfl

theorem deeper_deeper (j k : Nat) (r : Row) : (r.deeper j).deeper k = r.deeper (j + k) := by
  cases r with
  | blank => rfl
  | line depth s => rw [deeper, deeper, deeper, Nat.add_assoc]

/-- One level of nesting takes all lines one step deeper. -/
theorem map_deeper_one {rs before inner behind : List Row} {k : Nat}
    (h : rs = before ++ inner.map (deeper k) ++ behind) :
    rs.map (deeper 1) =
      before.map (deeper 1) ++ inner.map (deeper (k + 1)) ++ behind.map (deeper 1) := by
  rw [h, List.map_append, List.map_append, List.map_map]
  exact congrArg (_ ++ · ++ _) (List.map_congr_left fun r _ => r.deeper_deeper k 1)

end Row

section

variable (unit : String) (level : Nat) (rs ts : List Row)

theorem written_append :
    written unit level (rs ++ ts) = written unit level rs ++ written unit level ts := by
  rw [written, List.map_append, String.join_append]
  rfl

theorem written_deeper (k : Nat) :
    written unit level (rs.map (.deeper k)) = written unit (level + k) rs := by
  rw [written, List.map_map]
  exact congrArg String.join (List.map_congr_left fun r _ => r.text_deeper unit level k)

end

/-! ### Ways to go on -/

namespace Writes

variable {f g : Code → Code} {rs ts : List Row}

theorem comp (hf : Writes f rs) (hg : Writes g ts) : Writes (fun c => g (f c)) (rs ++ ts) := by
  intro c
  show g (f c) = _
  rw [hf, hg, written_append, String.append_assoc]

theorem line (s : String) : Writes (·.line s) [.line 0 s] := by
  intro c
  simp [Code.line, written, Row.text]

theorem blank : Writes Code.blank [.blank] := by
  intro c
  simp [Code.blank, written, Row.text]

theorem nil : Writes (fun c => c) [] := by
  intro c
  simp [written]

theorem lines (items : List String) : Writes (·.lines items) (items.map (.line 0)) := by
  induction items with
  | nil => exact nil
  | cons s items ih => exact (line s).comp ih

theorem guarded (condition : Bool) (hf : Writes f rs) :
    Writes (·.guarded condition f) (if condition then rs else []) := by
  cases condition with
  | true => exact hf
  | false => exact nil

/-- The step back undoes the step deeper, however the lines between them are written. -/
theorem indented (hf : Writes f rs) : Writes (fun c => (f c.indent).dedent) (rs.map (.deeper 1)) := by
  intro c
  show (f c.indent).dedent = _
  rw [hf, written_deeper]
  rfl

theorem block (header close : String) (hf : Writes f rs) :
    Writes (·.block header close f) (.line 0 header :: rs.map (.deeper 1) ++ [.line 0 close]) :=
  ((line header).comp hf.indented).comp (line close)

end Writes

/-! ### Programs -/

theorem run_append (c : Code) (steps more : List Step) :
    c.run (steps ++ more) = (c.run steps).run more := by
  induction steps generalizing c with
  | nil => rfl
  | cons s steps ih => exact ih (c.runStep s)

namespace Item

mutual

/-- A part writes its lines. -/
theorem writes_steps : ∀ p : Item, Writes (·.run p.steps) p.rows
  | line s => Writes.line s
  | blank => Writes.blank
  | lines items => Writes.lines items
  | guarded condition body => (writes_stepsAll body).guarded condition
  | block header close body => (writes_stepsAll body).block header close
  | indented body => by
    have hrun : (fun c : Code => c.run (indented body).steps) =
        fun c => (c.indent.run (stepsAll body)).dedent :=
      funext fun c => run_append c.indent (stepsAll body) [.dedent]
    rw [hrun]
    exact (writes_stepsAll body).indented

/-- A program writes its lines. -/
theorem writes_stepsAll : ∀ ps : List Item, Writes (·.run (stepsAll ps)) (rowsAll ps)
  | [] => Writes.nil
  | p :: ps => by
    have hrun : (fun c : Code => c.run (stepsAll (p :: ps))) =
        fun c => (c.run p.steps).run (stepsAll ps) :=
      funext fun c => run_append c p.steps (stepsAll ps)
    rw [hrun]
    exact (writes_steps p).comp (writes_stepsAll ps)

end

/-- A block that stands deeper has its header and closing line there, and its body one step deeper. -/
theorem map_deeper_rows_block (k : Nat) (header close : String) (body : List Item) :
    (block header close body).rows.map (Row.deeper k) =
      .line k header :: (rowsAll body).map (Row.deeper (k + 1)) ++ [.line k close] := by
  have hbody : ((rowsAll body).map (Row.deeper 1)).map (Row.deeper k) =
      (rowsAll body).map (Row.deeper (k + 1)) := by
    rw [List.map_map, Nat.add_comm]
    exact List.map_congr_left fun r _ => r.deeper_deeper 1 k
  rw [rows, List.map_append, List.map_cons, hbody, List.map_singleton, Row.deeper, Row.deeper,
    Nat.zero_add]

theorem rowsAll_append (ps qs : List Item) : rowsAll (ps ++ qs) = rowsAll ps ++ rowsAll qs := by
  induction ps with
  | nil => rfl
  | cons p ps ih => rw [List.cons_append, rowsAll, ih, rowsAll, List.append_assoc]

theorem exists_rows_of_mem {p : Item} {program : List Item} (h : p ∈ program) :
    ∃ before behind, rowsAll program = before ++ p.rows ++ behind := by
  obtain ⟨ps, qs, rfl⟩ := List.append_of_mem h
  exact ⟨rowsAll ps, rowsAll qs, by rw [rowsAll_append, rowsAll, List.append_assoc]⟩

end Item

open Item (stepsAll rowsAll exists_rows_of_mem)

/-- The lines of a part stand together, as much deeper as the part is nested. -/
theorem Within.exists_rows {k : Nat} {p : Item} {program : List Item} (h : Within k p program) :
    ∃ before behind, rowsAll program = before ++ p.rows.map (Row.deeper k) ++ behind := by
  induction h with
  | @top p program hmem =>
    have hzero : p.rows.map (Row.deeper 0) = p.rows :=
      (List.map_congr_left fun r _ => r.deeper_zero).trans (List.map_id _)
    rw [hzero]
    exact exists_rows_of_mem hmem
  | guarded _ hbody ih =>
    obtain ⟨before, behind, hrows⟩ := ih
    obtain ⟨front, back, hprogram⟩ := exists_rows_of_mem hbody
    rw [Item.rows, if_pos rfl, hrows] at hprogram
    exact ⟨front ++ before, behind ++ back, by rw [hprogram]; simp only [List.append_assoc]⟩
  | @block k p header close body program _ hbody ih =>
    obtain ⟨before, behind, hrows⟩ := ih
    obtain ⟨front, back, hprogram⟩ := exists_rows_of_mem hbody
    rw [Item.rows, Row.map_deeper_one hrows] at hprogram
    refine ⟨front ++ .line 0 header :: before.map (Row.deeper 1),
      behind.map (Row.deeper 1) ++ .line 0 close :: back, ?_⟩
    rw [hprogram]
    simp only [List.append_assoc, List.cons_append, List.nil_append]
  | indented _ hbody ih =>
    obtain ⟨before, behind, hrows⟩ := ih
    obtain ⟨front, back, hprogram⟩ := exists_rows_of_mem hbody
    rw [Item.rows, Row.map_deeper_one hrows] at hprogram
    refine ⟨front ++ before.map (Row.deeper 1), behind.map (Row.deeper 1) ++ back, ?_⟩
    rw [hprogram]
    simp only [List.append_assoc]

/-- A program, wherever and with whatever unit it starts, leaves the level as it was and adds its lines
to the text. Each line is indented by the starting level and by one unit for each block and indented
part around it, and so are the header and the closing line of a block. -/
theorem run_stepsAll (program : List Item) (c : Code) :
    (c.run (stepsAll program)).level = c.level ∧ (c.run (stepsAll program)).unit = c.unit ∧
    (c.run (stepsAll program)).text = c.text ++ written c.unit c.level (rowsAll program) ∧
    (∀ k s, Within k (.line s) program →
      ∃ before behind, rowsAll program = before ++ .line k s :: behind) ∧
    (∀ k items, Within k (.lines items) program →
      ∃ before behind, rowsAll program = before ++ items.map (.line k) ++ behind) ∧
    ∀ k header close body, Within k (.block header close body) program →
      ∃ before behind, rowsAll program = before ++
        .line k header :: (rowsAll body).map (Row.deeper (k + 1)) ++ .line k close :: behind := by
  have hrun : c.run (stepsAll program) = _ := Item.writes_stepsAll program c
  rw [hrun]
  refine ⟨rfl, rfl, rfl, fun k s h => ?_, fun k items h => ?_, fun k header close body h => ?_⟩
  · obtain ⟨before, behind, hrows⟩ := h.exists_rows
    refine ⟨before, behind, ?_⟩
    simpa [Item.rows, Row.deeper] using hrows
  · obtain ⟨before, behind, hrows⟩ := h.exists_rows
    refine ⟨before, behind, ?_⟩
    simpa [Item.rows, Row.deeper, Function.comp_def] using hrows
  · obtain ⟨before, behind, hrows⟩ := h.exists_rows
    refine ⟨before, behind, ?_⟩
    rw [hrows, Item.map_deeper_rows_block]
    simp only [List.append_assoc, List.cons_append, List.nil_append]

def nested : List Item :=
  [.block "begin" "end" [.guarded true [.indented [.line "x;"]], .guarded false [.line "y;"], .blank]]

/-- The line is indented by the starting level, the block and the indented part, and the closing line
as the header is. -/
theorem run_stepsAll_nested :
    Within 2 (.line "x;") nested ∧
    (∃ before behind, rowsAll nested = before ++ .line 2 "x;" :: behind) ∧
    (run ⟨"  ", 1, "first\n"⟩ (stepsAll nested)).level = 1 ∧
    (run ⟨"  ", 1, "first\n"⟩ (stepsAll nested)).text =
      "first\n  begin\n      x;\n\n  end\n" := by
  have hwithin : Within 2 (.line "x;") nested :=
    .block (.guarded (.indented (.top List.mem_cons_self) List.mem_cons_self) List.mem_cons_self)
      List.mem_cons_self
  obtain ⟨hlevel, -, -, hline, -⟩ := run_stepsAll nested ⟨"  ", 1, "first\n"⟩
  exact ⟨hwithin, hline 2 "x;" hwithin, hlevel, by decide⟩

end ClassForge.Code
