import ClassForge.ParameterKind
import ClassForge.Value.Display

/-!
# Faults

What can go wrong when a parameter is declared or an instance is constructed.

## Main definitions

- `Fault` — the causes, each with the names and values that its message needs
- `Fault.message`, `Fault.code`, `Fault.help?` — how a fault is reported
- `Fault.isConstruction` — whether a constructor raises it from the arguments of a call
-/

namespace ClassForge

/-- A failed declaration or construction. -/
inductive Fault where
  /-- The name is declared already. -/
  | duplicateParameter (name : String)
  /-- The name is not an identifier. -/
  | invalidName (name : String)
  /-- The name belongs to the after-initialize hook. -/
  | reservedName (name : String)
  /-- A positional parameter without default follows the defaulted one `after`. -/
  | invalidParameterOrder (name after : String)
  /-- A value was rejected for the parameter `name`. -/
  | typeConstraint (className name : String) (value : Value) (reason : String)
  /-- An argument without default was not supplied. -/
  | missingArgument (className name : String) (kind : ParameterKind)
  /-- There are more positional arguments than positional parameters. -/
  | tooManyArguments (className : String) (given expected : Nat)
  /-- A keyword names no declared option. -/
  | unknownOption (className name : String)
  /-- No reader of this name was generated. -/
  | noSuchReader (className name : String)
  /-- No constructor was installed. -/
  | notInstalled (className : String)

namespace Fault

def countText (n : Nat) : String :=
  String.ofList (Nat.toDigits 10 n)

def message : Fault → String
  | duplicateParameter name => "parameter '" ++ name ++ "' is already declared"
  | invalidName name => "'" ++ name ++ "' is not a valid parameter name"
  | reservedName name => "'" ++ name ++ "' is reserved for the generated after-initialize hook"
  | invalidParameterOrder name after =>
    "required positional parameter '" ++ name ++ "' follows defaulted parameter '" ++ after ++ "'"
  | typeConstraint className name value reason =>
    className ++ ": value " ++ value.display ++ " rejected for '" ++ name ++ "': " ++ reason
  | missingArgument className name kind =>
    className ++ ": missing " ++ kind.text ++ " argument '" ++ name ++ "'"
  | tooManyArguments className given expected =>
    className ++ ": wrong number of arguments (given " ++ countText given ++ ", expected " ++
      countText expected ++ ")"
  | unknownOption className name => className ++ ": unknown option '" ++ name ++ "'"
  | noSuchReader className name => className ++ ": undefined reader '" ++ name ++ "'"
  | notInstalled className => className ++ " has no generated constructor"

/-- The code under which a fault is documented. -/
def code : Fault → String
  | duplicateParameter .. => "declinit::duplicate_parameter"
  | invalidName .. => "declinit::invalid_name"
  | reservedName .. => "declinit::reserved_name"
  | invalidParameterOrder .. => "declinit::parameter_order"
  | typeConstraint .. => "declinit::type_constraint"
  | missingArgument .. => "declinit::missing_argument"
  | tooManyArguments .. => "declinit::arity"
  | unknownOption .. => "declinit::unknown_option"
  | noSuchReader .. => "declinit::no_reader"
  | notInstalled .. => "declinit::not_installed"

/-- Advice on how to mend a fault. -/
def help? : Fault → Option String
  | duplicateParameter .. =>
    some "each parameter name may be declared once per class, including inherited ones"
  | invalidName .. =>
    some ("names must start with a letter or underscore and contain only letters, digits and " ++
      "underscores")
  | invalidParameterOrder name after =>
    some ("declare '" ++ name ++ "' before '" ++ after ++ "' or give it a default")
  | unknownOption .. =>
    some "declare the option or make the class tolerant to unknown options"
  | notInstalled .. =>
    some "declare a parameter or call the builder on the class mixin first"
  | _ => none

/-- Whether a constructor raises the fault from the arguments of a call. -/
def isConstruction : Fault → Bool
  | typeConstraint .. | missingArgument .. | tooManyArguments .. | unknownOption .. => true
  | _ => false

end Fault

end ClassForge
