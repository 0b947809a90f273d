/-!
# Indented code

A text that is written line by line, each line behind the indentation of its level.

## Main definitions

- `Code` — the text so far, the level and the unit of indentation
- `Code.line`, `blank`, `indent`, `dedent`, `lines`, `guarded`, `block` — the writing operations
- `Code.Step` — the operations as data, and `Code.run`, what they write
-/

namespace ClassForge

/-- A text in the making. -/
structure Code where
  /-- What a line is indented by for each level. -/
  unit : String
  level : Nat
  text : String
deriving DecidableEq

namespace Code

def twoSpaces : String := "  "

/-- Indentation by four spaces, the usual one. -/
def fourSpaces : String := "    "

/-- The empty text with a unit of indentation. -/
def empty (unit : String) : Code :=
  ⟨unit, 0, ""⟩

/-- What stands before a line of a level. -/
def indentation (unit : String) (level : Nat) : String :=
  String.join (List.replicate level unit)

def line (c : Code) (s : String) : Code :=
  { c with text := c.text ++ (indentation c.unit c.level ++ s ++ "\n") }

def blank (c : Code) : Code :=
  { c with text := c.text ++ "\n" }

def indent (c : Code) : Code :=
  { c with level := c.level + 1 }

/-- Goes one level back, or stays at level zero. -/
def dedent (c : Code) : Code :=
  { c with level := c.level - 1 }

def lines (c : Code) (items : List String) : Code :=
  items.foldl line c

/-- Writes `body` if the condition holds. -/
def guarded (c : Code) (condition : Bool) (body : Code → Code) : Code :=
  if condition then body c else c

/-- Writes `body` one level deeper between two lines. -/
def block (c : Code) (header close : String) (body : Code → Code) : Code :=
  (body (c.line header).indent).dedent.line close

/-- A writing operation. -/
inductive Step where
  | line (s : String)
  | blank
  | indent
  | dedent
  | lines (items : List String)
  | guarded (condition : Bool) (body : List Step)
  | block (header close : String) (body : List Step)

mutual

def runStep (c : Code) : Step → Code
  | .line s => c.line s
  | .blank => c.blank
  | .indent => c.indent
  | .dedent => c.dedent
  | .lines items => c.lines items
  | .guarded condition body => c.guarded condition fun c => run c body
  | .block header close body => c.block header close fun c => run c body

def run (c : Code) : List Step → Code
  | [] => c
  | s :: rest => run (runStep c s) rest

end

def texts (c : Code) : List Step → List String
  | [] => []
  | s :: rest => (c.runStep s).text :: (c.runStep s).texts rest

end Code

end ClassForge
