import ClassForge.Builder
import ClassForge.Code

/-!
# Rendered source

The readers, the constructor and the hook of a builder as a program text. Constructors do not run
from this text: it lets a reader see and compare what was generated.

## Main definitions

- `Builder.source` — the whole text
-/

namespace ClassForge.Builder

/-- The line that stands for a reader. -/
def readerSource (name : String) : String :=
  "pub fn " ++ name ++ "(&self) -> &Value \x7b &self." ++ name ++ " \x7d"

def constructorHeader (b : Builder) : String :=
  "fn initialize(" ++ b.parameterList ++ ") \x7b"

def hookCall : String :=
  "self." ++ hookName ++ "();"

def hookHeader : String :=
  "fn " ++ hookName ++ "(&mut self) \x7b"

/-- The readers, the constructor and the hook. -/
def source (b : Builder) : String :=
  let readers := b.readerNames.names
  let body (c : Code) := (c.lines (b.statements.map (·.source))).line hookCall
  let hook (c : Code) := c.lines (b.callbacks.map (·.source))
  ((((Code.empty Code.fourSpaces).lines (readers.map readerSource)).guarded (!readers.isEmpty)
    Code.blank).block b.constructorHeader "\x7d" body |>.blank.block hookHeader "\x7d" hook).text

end ClassForge.Builder
