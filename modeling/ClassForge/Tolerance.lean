/-!
# Tolerance

What a constructor does with keyword arguments that match no declared option.
-/

namespace ClassForge

/-- The treatment of undeclared keyword arguments. -/
inductive Tolerance where
  /-- They are refused. -/
  | reject
  /-- They are accepted and dropped. -/
  | ignore
  /-- They are accepted and kept on the instance. -/
  | absorb
deriving DecidableEq, Inhabited

namespace Tolerance

/-- What stands at the end of a parameter list when undeclared keywords are accepted. It has no name,
so that it never clashes with a declared one. -/
def catchAll : Tolerance → Option String
  | reject => none
  | ignore | absorb => some "**"

def inspect : Tolerance → String
  | reject => "Reject"
  | ignore => "Ignore"
  | absorb => "Absorb"

end Tolerance

end ClassForge
