import ClassForge.Value

/-!
# Arguments

The arguments of one constructor call: positional values in order, and keyword values.

## Main definitions

- `Args.arg`, `Args.opt` — one more positional argument, one more keyword argument
- `Args.equal` — equality, with keywords in whatever order
-/

namespace ClassForge

/-- The arguments of a constructor call. -/
structure Args where
  positional : List Value
  keywords : OrderedMap Value

namespace Args

def empty : Args :=
  ⟨[], ∅⟩

instance : Inhabited Args := ⟨empty⟩

def arg (a : Args) (v : Value) : Args :=
  { a with positional := a.positional ++ [v] }

/-- Sets a keyword argument. A repeated keyword keeps its first position and takes the last
value. -/
def opt (a : Args) (name : String) (v : Value) : Args :=
  { a with keywords := a.keywords.insert name v }

/-- The value of a keyword argument, if it was given. -/
def keyword? (a : Args) (name : String) : Option Value :=
  a.keywords.get? name

/-- Equality of arguments. -/
def equal (a b : Args) : Bool :=
  Value.equalItems a.positional b.positional && (Value.map a.keywords).equal (.map b.keywords)

instance : BEq Args := ⟨equal⟩

/-- The arguments with the given positional values and keywords. -/
def ofLists (positional : List Value) (keywords : List (String × Value)) : Args :=
  ⟨positional, OrderedMap.ofList keywords⟩

end Args

end ClassForge
