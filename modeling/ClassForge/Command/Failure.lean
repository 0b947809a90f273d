import ClassForge.Manifest.Fault

/-!
# Failures of commands

## Main definitions

- `Unreadable` — why a file holds no text
- `CommandFailure` — why a command does not answer, and `CommandFailure.message`
- `CommandFailure.details` — causes, places and advice, one a line
-/

namespace ClassForge

/-- Why a file holds no text. -/
inductive Unreadable where
  /-- There is no such file. -/
  | missing
  /-- The path leads to a directory. -/
  | directory
  /-- The path goes through a file as if it were a directory. -/
  | throughFile
  /-- The path holds the character of code zero. -/
  | noPath
  /-- The path, or a part of it, is too long. -/
  | tooLong
  /-- The bytes are no text. -/
  | notText
  /-- Anything else, in the words of the system. -/
  | refused (reason : String)

def Unreadable.text : Unreadable → String
  | missing => "there is no such file"
  | directory => "it is a directory"
  | throughFile => "a part of the path is no directory"
  | noPath => "the path holds a zero character"
  | tooLong => "the path is too long"
  | notText => "it holds no UTF-8 text"
  | refused reason => reason

/-- A command without answer. -/
inductive CommandFailure where
  /-- The manifest cannot be read. -/
  | unreadable (path : String) (reason : Unreadable)
  /-- The manifest cannot be used. -/
  | manifest (fault : ManifestFault)
  /-- The manifest does not declare the class. -/
  | unknownClass (name : String) (declared : List String)
  /-- A keyword argument has no equals sign. -/
  | noKey (option : String)
  /-- The construction fails. -/
  | construction (fault : Fault)

/-- The message of a fault with its code, and its advice if there is one. -/
def Fault.report (f : Fault) : String :=
  f.message ++ " [" ++ f.code ++ "]" ++
    match f.help? with
    | some help => " (" ++ help ++ ")"
    | none => ""

namespace CommandFailure

def message : CommandFailure → String
  | unreadable path _ => "failed to read '" ++ path ++ "'"
  | manifest fault => fault.message
  | unknownClass name declared =>
    "unknown class '" ++ name ++ "' (declared: " ++ ", ".intercalate declared ++ ")"
  | noKey option => "option '" ++ option ++ "' is not in KEY=VALUE form"
  | construction fault => fault.report

/-- Advice on how to mend a failure. -/
def help? : CommandFailure → Option String
  | unreadable .. => some "create a declinit.toml or pass its path with --config"
  | manifest fault => fault.help?
  | _ => none

/-- A remark on a range of bytes. -/
def labelText (label : String × Text.Span) : String :=
  "at bytes " ++ Fault.countText label.2.start ++ " to " ++ Fault.countText label.2.stop ++ ": " ++
    label.1

def cause? : CommandFailure → Option String
  | unreadable _ reason => some reason.text
  | manifest (.mismatch m) => some m.value.message
  | manifest (.declaration _ _ fault) => some fault.report
  | _ => none

/-- What lies behind a failure, the places in the manifest, and advice. -/
def details (f : CommandFailure) : List String :=
  f.cause?.toList ++
    (match f with
      | manifest fault => fault.labels.map labelText
      | _ => []) ++
    (f.help?.map ("help: " ++ ·)).toList

end CommandFailure

end ClassForge
