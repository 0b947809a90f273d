import ClassForge.Capability
import ClassForge.Instance

/-!
# Constructor fragments

The pieces that constructors are put together from. Statements form the body and run in order on the
bound arguments. Callbacks run behind the body, in order, on the instance.

## Main definitions

- `Frame` — the state of a running constructor: bound arguments and the instance under construction
- `Statement`, `Callback` — the two kinds of pieces
- `Statement.execute`, `Callback.call` — what a piece does
- `Statement.source` — the line that stands for a statement in rendered source
-/

namespace ClassForge

/-- The state of a running constructor. An omitted argument is not bound, which tells it from a
nil. -/
structure Frame where
  locals : OrderedMap Value
  self : Instance

namespace Frame

/-- The name of the class under construction. -/
def className (f : Frame) : String :=
  f.self.className

/-- The value bound to a parameter, if its argument was supplied. -/
def local? (f : Frame) (name : String) : Option Value :=
  f.locals.get? name

def bind (f : Frame) (name : String) (v : Value) : Frame :=
  { f with locals := f.locals.insert name v }

end Frame

/-- A step of a constructor body. -/
inductive Statement where
  /-- Stores the bound argument in the slot of the same name. An omitted argument leaves the slot
  unset. -/
  | assign (name : String)
  /-- Passes a supplied argument through a type and binds the result. -/
  | coerce (name : String) (type : Capability)
  /-- A step of another plugin, with its line in rendered source. -/
  | custom (source : String) (run : Frame → Except Fault Frame)

namespace Statement

def execute (s : Statement) (f : Frame) : Except Fault Frame :=
  match s with
  | assign name =>
    match f.local? name with
    | some v => .ok { f with self := f.self.setSlot name v }
    | none => .ok { f with self := f.self.unsetSlot name }
  | coerce name type =>
    match f.local? name with
    | none => .ok f
    | some v =>
      match type.check v with
      | .ok w => .ok (f.bind name w)
      | .error reason => .error (.typeConstraint f.className name v reason)
  | custom _ run => run f

def source : Statement → String
  | assign name => "self." ++ name ++ " = " ++ name ++ ";"
  | coerce name type => name ++ " = " ++ type.name ++ "(" ++ name ++ ")?;"
  | custom source _ => source

def inspect (s : Statement) : String :=
  Inspect.tagged "Statement" [Text.quoted s.source]

/-- Runs statements one after another, up to the first fault. -/
def executeAll (statements : List Statement) (f : Frame) : Except Fault Frame :=
  statements.foldlM (fun f s => s.execute f) f

end Statement

/-- A deferred step on the finished instance. -/
structure Callback where
  /-- The line in rendered source. -/
  source : String
  run : Instance → Except Fault Instance

namespace Callback

def call (c : Callback) (self : Instance) : Except Fault Instance :=
  c.run self

def inspect (c : Callback) : String :=
  Inspect.tagged "Callback" [Text.quoted c.source]

/-- Runs callbacks one after another, up to the first fault. -/
def callAll (callbacks : List Callback) (self : Instance) : Except Fault Instance :=
  callbacks.foldlM (fun self c => c.call self) self

end Callback

/-- A piece of a constructor. -/
inductive Fragment where
  | statement (s : Statement)
  | callback (c : Callback)

namespace Fragment

/-- The statement that a fragment is, if it is one. -/
def statement? : Fragment → Option Statement
  | statement s => some s
  | callback _ => none

/-- The callback that a fragment is, if it is one. -/
def callback? : Fragment → Option Callback
  | statement _ => none
  | callback c => some c

def source : Fragment → String
  | statement s => s.source
  | callback c => c.source

def inspect : Fragment → String
  | statement s => Inspect.tagged "Statement" [s.inspect]
  | callback c => Inspect.tagged "Callback" [c.inspect]

end Fragment

end ClassForge
