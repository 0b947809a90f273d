/-!
# Kinds of parameters
-/

namespace ClassForge

/-- Whether a parameter is passed by position or by keyword. -/
inductive ParameterKind where
  | positional
  | keyword
deriving DecidableEq, Inhabited

namespace ParameterKind

/-- The name of a kind in messages. -/
def text : ParameterKind → String
  | positional => "positional"
  | keyword => "keyword"

def inspect : ParameterKind → String
  | positional => "Positional"
  | keyword => "Keyword"

end ParameterKind

end ClassForge
