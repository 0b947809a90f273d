import ClassForge.Command.Failure
import ClassForge.Manifest.Event
import ClassForge.Manifest.Reader
import ClassForge.Text.Cut

/-!
# Commands

What can be asked about a manifest on a command line.

## Main definitions

- `Construction` — a class to instantiate, with arguments as texts
- `Construction.args` — those arguments as values
- `Command` — a request and the path of its manifest
- `Command.run` — the answer to a request, and `Command.events`, what it reports meanwhile

## Design notes

A command receives what reading its manifest gave, so that it depends on no file system.
-/

namespace ClassForge

/-- A class to instantiate, with arguments as texts. -/
structure Construction where
  className : String
  positional : List String
  /-- Keyword arguments of the form `KEY=VALUE`. -/
  options : List String

namespace Construction

/-- The value that a text stands for: the one it is the JSON text of, else the text itself. -/
def valueOf (text : String) : Value :=
  (Value.readJsonSorted? text).getD (.str text)

/-- The name and the value of a keyword argument, given what texts stand for. -/
def optionBy (valueOf : String → Value) (text : String) : Except CommandFailure (String × Value) :=
  match Text.cut? '=' text.toList with
  | some (key, value) => .ok (String.ofList key, valueOf (String.ofList value))
  | none => .error (.noKey text)

/-- The arguments, given what texts stand for. -/
def argsBy (valueOf : String → Value) (c : Construction) : Except CommandFailure Args :=
  (c.options.mapM (optionBy valueOf)).map fun options => .ofLists (c.positional.map valueOf) options

def args (c : Construction) : Except CommandFailure Args :=
  c.argsBy valueOf

end Construction

/-- What is asked about a manifest. -/
inductive Request where
  /-- Is it valid, and which classes does it declare? -/
  | check
  /-- Which definitions are generated for a class? -/
  | render (className : String)
  /-- What does an instance look like? -/
  | new (construction : Construction)

/-- A request and the path of its manifest. -/
structure Command where
  path : String
  request : Request

namespace Registry

def find (r : Registry) (name : String) : Except CommandFailure Class :=
  match r.get? name with
  | some c => .ok c
  | none => .error (.unknownClass name r.keys)

/-- A class with its parent and its parameters, in one line. -/
def classLine (c : Class) : String :=
  "    " ++ c.name ++ (match c.parent? with
    | some parent => " < " ++ parent
    | none => "") ++ "(" ++ c.builder.parameterList ++ ")\n"

def summary (r : Registry) (path : String) : String :=
  "✓ " ++ path ++ " is valid\n\n  " ++ Fault.countText r.size ++
    (if r.size = 1 then " class:\n" else " classes:\n") ++ String.join (r.values.map classLine)

end Registry

namespace Construction

def run (c : Construction) (r : Registry) : Except CommandFailure Instance := do
  let made ← r.find c.className
  let args ← c.args
  (made.instantiate args).mapError .construction

def events (c : Construction) (r : Registry) : List Event :=
  match r.find c.className, c.args with
  | .ok made, .ok _ => .instantiating made.name :: made.instantiateEvents
  | _, _ => []

end Construction

namespace Request

/-- The answer to a request about the classes of a manifest. -/
def answer (q : Request) (path : String) (r : Registry) : Except CommandFailure String :=
  match q with
  | check => .ok (r.summary path)
  | render name => (r.find name).map Class.source
  | new c => (c.run r).map fun i => i.prettyJson ++ "\n"

/-- The events of the answer to a request. -/
def events (q : Request) (r : Registry) : List Event :=
  match q with
  | new c => c.events r
  | _ => []

end Request

namespace Command

/-- The checked manifest of a command, given what its file holds. -/
def manifest (c : Command) (file : Except Unreadable String) :
    Except CommandFailure Manifest := do
  let text ← file.mapError (.unreadable c.path)
  (Manifest.load ⟨text, c.path⟩).mapError .manifest

/-- The answer of a command, given what its file holds. -/
def run (c : Command) (file : Except Unreadable String) : Except CommandFailure String := do
  let m ← c.manifest file
  let r ← m.registry.mapError .manifest
  c.request.answer c.path r

/-- The events of a command, given what its file holds. -/
def events (c : Command) (file : Except Unreadable String) : List Event :=
  match c.manifest file with
  | .error _ => []
  | .ok m =>
    m.registryEvents ++
      match m.registry with
      | .ok r => c.request.events r
      | .error _ => []

end Command

end ClassForge
