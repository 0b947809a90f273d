import ClassForge.Args
import ClassForge.Fragment
import ClassForge.Signature
import ClassForge.Tolerance

/-!
# Constructors

A constructor binds the arguments of a call to its parameters and then runs its statements.

## Main definitions

- `Constructor` — signature, statements and tolerance
- `Constructor.takeKeywords` — one keyword parameter after another takes its argument
- `Constructor.bind` — from arguments to a frame, or the fault in the call

## Design notes

The checks of a call run in this order: too few positional arguments, too many of them, a missing
keyword, an undeclared keyword.
-/

namespace ClassForge

/-- How to bind arguments, and the body to run on them. -/
structure Constructor where
  signature : Signature
  statements : List Statement
  tolerance : Tolerance

namespace Constructor

def positionalBindings (c : Constructor) (args : Args) : List (String × Value) :=
  (c.signature.positionals.map (·.name)).zip args.positional

/-- The name of the positional parameter whose argument is the first to be missing. -/
def firstUnsupplied (c : Constructor) (args : Args) : String :=
  (c.signature.positionals[args.positional.length]?.map (·.name)).getD ""

/-- Moves the arguments of keyword parameters to the bound ones, in declaration order. `rest` are the
keywords of the call that no parameter has taken yet. -/
def takeKeywords (className : String) :
    List Parameter → OrderedMap Value → OrderedMap Value →
      Except Fault (OrderedMap Value × OrderedMap Value)
  | [], locals, rest => .ok (locals, rest)
  | p :: ps, locals, rest =>
    match rest.get? p.name with
    | some v => takeKeywords className ps (locals.insert p.name v) (rest.erase p.name)
    | none =>
      if p.hasDefault then takeKeywords className ps locals rest
      else .error (.missingArgument className p.name .keyword)

/-- Applies the tolerance to the keywords that no parameter took. The first of them is refused. -/
def tolerate (c : Constructor) (self : Instance) (rest : OrderedMap Value) :
    Except Fault Instance :=
  match c.tolerance with
  | .reject =>
    match rest.keys with
    | [] => .ok self
    | name :: _ => .error (.unknownOption self.className name)
  | .ignore => .ok self
  | .absorb => .ok (self.setUnknownOptions rest)

/-- Binds the arguments of a call for a new instance. -/
def bind (c : Constructor) (self : Instance) (args : Args) : Except Fault Frame :=
  let expected := c.signature.positionals.length
  if args.positional.length < c.signature.requiredPositionals then
    .error (.missingArgument self.className (c.firstUnsupplied args) .positional)
  else if expected < args.positional.length then
    .error (.tooManyArguments self.className args.positional.length expected)
  else do
    let (locals, rest) ← takeKeywords self.className c.signature.keywords
      (.ofList (c.positionalBindings args)) args.keywords
    return ⟨locals, ← c.tolerate self rest⟩

def inspect (c : Constructor) : String :=
  Inspect.record "Constructor" [
    ("signature", c.signature.inspect),
    ("statements", Inspect.sequence (c.statements.map (·.inspect))),
    ("tolerance", c.tolerance.inspect)]

end Constructor

end ClassForge
