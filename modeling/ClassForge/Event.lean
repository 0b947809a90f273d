import ClassForge.Class
import ClassForge.Text.Lines

/-!
# Events

What the operations on builders and classes report while they work. The events of an operation are a
function of its arguments, so that the operations themselves stay free of them.

## Main definitions

- `Event` — one report, and `Event.text`, its text
- `Event.log` — the lines of a log of events
- `Builder.defineEvents`, `Class.declareEvents`, … — the events of an operation, in order

## Design notes

Names of classes are written as they are where a class is made or constructed, so that an event may
take several lines.
-/

namespace ClassForge

/-- A report of an operation. -/
inductive Event where
  /-- A declaration emitted some fragments, and the signature has `total` parameters now. -/
  | defined (parameter : String) (fragments total : Nat)
  /-- A constructor with its readers was installed. -/
  | installed (parameters readers : Nat)
  /-- A subclass took over the builder of its parent. -/
  | inherited (className parent : String)
  /-- A constructor began to run. -/
  | running (className : String)
  /-- A construction was asked for on the command line. -/
  | instantiating (className : String)

namespace Event

/-- The text of an event: level, message and fields. -/
def text : Event → String
  | defined parameter fragments total =>
    "DEBUG defined parameter parameter=" ++ Text.quoted parameter ++ " fragments=" ++
      Fault.countText fragments ++ " total=" ++ Fault.countText total
  | installed parameters readers =>
    "DEBUG installed constructor parameters=" ++ Fault.countText parameters ++ " readers=" ++
      Fault.countText readers
  | inherited className parent =>
    "DEBUG inherited builder class=" ++ className ++ " parent=" ++ parent
  | running className => "TRACE running constructor class=" ++ className
  | instantiating className => "DEBUG instantiating class=" ++ Text.quoted className

/-- The lines of a log in which a line feed follows every event. -/
def log (events : List Event) : List String :=
  (Text.lines (events.flatMap fun e => e.text.toList ++ ['\n'])).map String.ofList

end Event

namespace Builder

/-- The events of a declaration. One that fails reports nothing. -/
def defineEvents (b : Builder) (name : String) (settings : Settings) : List Event :=
  match b.define name settings with
  | .ok b' => [.defined name (b.plugins.emitAll name settings).length b'.signature.size]
  | .error _ => []

def installEvents (b : Builder) : List Event :=
  [.installed b.signature.size b.readerNames.size]

end Builder

namespace Mixin

def instantiateEvents (m : Mixin) (className : String) : List Event :=
  match m.constructor with
  | some _ => [.running className]
  | none => []

end Mixin

namespace Class

/-- The events of the creation of a root class. -/
def withBuilderEvents (b : Builder) : List Event :=
  b.installEvents

/-- The events of the creation of a subclass. -/
def subclassEvents (c : Class) (name : String) : List Event :=
  [.inherited name c.name]

def defineEvents (c : Class) (name : String) (settings : Settings) : List Event :=
  match c.builder.define name settings with
  | .ok b => c.builder.defineEvents name settings ++ b.installEvents
  | .error _ => []

/-- The events of the declaration of a positional parameter. -/
def paramEvents (c : Class) (name : String) (settings : Settings) : List Event :=
  c.defineEvents name (settings.option false)

/-- The events of the declaration of a keyword parameter. -/
def optionEvents (c : Class) (name : String) (settings : Settings) : List Event :=
  c.defineEvents name (settings.option true)

/-- The events of a change of tolerance. -/
def withToleranceEvents (c : Class) (t : Tolerance) : List Event :=
  (c.builder.withTolerance t).installEvents

def instantiateEvents (c : Class) : List Event :=
  c.mixin.instantiateEvents c.name

end Class

end ClassForge
