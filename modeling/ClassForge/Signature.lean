import ClassForge.Identifier
import ClassForge.Settings

/-!
# Signatures

The parameters declared so far, in declaration order.

## Main definitions

- `Parameter` — a name and its settings
- `WellDeclared` — the condition on a list of parameters
- `Signature` — a well-declared list
- `Signature.add` — one more declaration, or the fault that prevents it
- `Signature.parameterList` — the text of the formal parameter list

## Main statements

- `Signature.parameters_of_add` — a declaration is appended and changes nothing else

## Design notes

A signature carries the proof that its names are distinct identifiers and that no required
positional parameter follows a defaulted one. Keywords may stand anywhere.
-/

namespace ClassForge

/-- A declared parameter. -/
structure Parameter where
  name : String
  settings : Settings

namespace Parameter

/-- Whether the parameter is passed by position or by keyword. -/
def kind (p : Parameter) : ParameterKind :=
  p.settings.kind

/-- Whether the parameter is passed by position. -/
def isPositional (p : Parameter) : Bool :=
  p.kind == .positional

/-- Whether the parameter is passed by keyword. -/
def isKeyword (p : Parameter) : Bool :=
  p.kind == .keyword

def hasDefault (p : Parameter) : Bool :=
  p.settings.hasDefault

/-- What stands in a parameter list for the value of a default. -/
def placeholder : String :=
  "UNDEFINED"

/-- The text of the parameter in a parameter list. -/
def render (p : Parameter) : String :=
  match p.kind, p.hasDefault with
  | .positional, false => p.name
  | .positional, true => p.name ++ " = " ++ placeholder
  | .keyword, false => p.name ++ ":"
  | .keyword, true => p.name ++ ": " ++ placeholder

def inspect (p : Parameter) : String :=
  Inspect.record "Parameter" [("name", Text.quoted p.name), ("settings", p.settings.inspect)]

end Parameter

/-- The condition on the parameters of a constructor. -/
structure WellDeclared (parameters : List Parameter) : Prop where
  /-- Every name is an identifier that is not reserved. -/
  named : ∀ p ∈ parameters, isParameterName p.name = true
  /-- No name is declared twice. -/
  distinct : (parameters.map Parameter.name).Nodup
  /-- Behind a positional parameter with default every positional parameter has one. -/
  ordered : parameters.Pairwise fun p q =>
    p.isPositional = true → p.hasDefault = true → q.isPositional = true → q.hasDefault = true

/-- Declared parameters in order. -/
structure Signature where
  parameters : List Parameter
  wellDeclared : WellDeclared parameters

namespace Signature

def empty : Signature :=
  ⟨[], ⟨by simp, List.nodup_nil, List.Pairwise.nil⟩⟩

instance : Inhabited Signature := ⟨empty⟩

def get? (s : Signature) (name : String) : Option Parameter :=
  s.parameters.find? (·.name == name)

def contains (s : Signature) (name : String) : Bool :=
  s.parameters.any (·.name == name)

def size (s : Signature) : Nat :=
  s.parameters.length

/-- The parameters passed by position, in declaration order. -/
def positionals (s : Signature) : List Parameter :=
  s.parameters.filter (·.isPositional)

/-- The parameters passed by keyword, in declaration order. -/
def keywords (s : Signature) : List Parameter :=
  s.parameters.filter (·.isKeyword)

/-- The number of positional arguments that a caller has to supply. -/
def requiredPositionals (s : Signature) : Nat :=
  s.positionals.countP (!·.hasDefault)

/-- The first positional parameter with default, if the settings are those of a positional
parameter without one, which may not follow it. -/
def blocking? (s : Signature) (settings : Settings) : Option Parameter :=
  if settings.kind = .positional ∧ settings.hasDefault = false then
    s.positionals.find? (·.hasDefault)
  else none

/-- A declaration that passes all checks keeps the parameters well declared. -/
theorem wellDeclared_append (s : Signature) {name : String} {settings : Settings}
    (hn : isParameterName name = true) (hc : s.contains name = false)
    (hb : s.blocking? settings = none) :
    WellDeclared (s.parameters ++ [⟨name, settings⟩]) where
  named := by
    intro p hp
    rcases List.mem_append.1 hp with hp | hp
    · exact s.wellDeclared.named p hp
    · rw [List.mem_singleton.1 hp]
      exact hn
  distinct := by
    rw [List.map_append, List.nodup_append]
    refine ⟨s.wellDeclared.distinct, by simp, ?_⟩
    intro a ha b hb e
    obtain ⟨p, hp, rfl⟩ := List.mem_map.1 ha
    have hb : b = name := by simpa using hb
    have : s.contains name = true := List.any_eq_true.2 ⟨p, hp, by simp [e, hb]⟩
    simp [hc] at this
  ordered := by
    rw [List.pairwise_append]
    refine ⟨s.wellDeclared.ordered, List.pairwise_singleton .., ?_⟩
    intro p hp q hq hpos hdef hqpos
    obtain rfl : q = ⟨name, settings⟩ := by simpa using hq
    rw [blocking?] at hb
    split at hb
    next hs =>
      have := List.find?_eq_none.1 hb p (List.mem_filter.2 ⟨hp, hpos⟩)
      exact absurd hdef this
    next hs =>
      have hk : settings.kind = .positional := by simpa [Parameter.isPositional, Parameter.kind] using hqpos
      simpa [hk, Parameter.hasDefault] using hs

/-- Declares one more parameter. The name is checked first, then whether it is taken, and the order
of positional parameters last. -/
def add (s : Signature) (name : String) (settings : Settings) : Except Fault Signature :=
  if hi : isIdentifier name = false then .error (.invalidName name)
  else if hr : name = hookName then .error (.reservedName name)
  else if hc : s.contains name = true then .error (.duplicateParameter name)
  else match hb : s.blocking? settings with
    | some p => .error (.invalidParameterOrder name p.name)
    | none => .ok ⟨s.parameters ++ [⟨name, settings⟩], s.wellDeclared_append
        (by simpa [isParameterName, hr] using hi) (by simpa using hc) hb⟩

def addAll (s : Signature) (declarations : List (String × Settings)) : Except Fault Signature :=
  declarations.foldlM (fun s d => s.add d.1 d.2) s

/-- A declaration that succeeds is appended. -/
theorem parameters_of_add {s t : Signature} {name : String} {settings : Settings}
    (h : s.add name settings = .ok t) : t.parameters = s.parameters ++ [⟨name, settings⟩] := by
  rw [add] at h
  split at h
  · cases h
  split at h
  · cases h
  split at h
  · cases h
  split at h
  · cases h
  · cases h
    rfl

@[ext] theorem ext {s t : Signature} (h : s.parameters = t.parameters) : s = t := by
  cases s; cases t; cases h; rfl

/-- The text of the formal parameter list: positional parameters first, then keywords. -/
def parameterList (s : Signature) : String :=
  ", ".intercalate ((s.positionals ++ s.keywords).map (·.render))

def inspect (s : Signature) : String :=
  Inspect.record "Signature" [("params", Inspect.sequence (s.parameters.map (·.inspect)))]

end Signature

end ClassForge
