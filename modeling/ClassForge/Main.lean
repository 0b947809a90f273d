import ClassForge.Command.Usage

/-!
# The program

Reads the manifest that a command line names and prints the answer to its request.
-/

namespace ClassForge

/-- What the program says on a call for its version. -/
def versionText : String :=
  "declinit 0.5.0"

/-- What the program says on a call for help. -/
def helpText : String :=
  "Inspect and exercise constructors declared in a TOML manifest\n\n" ++
  "Usage: declinit <COMMAND>\n\n" ++
  "Commands:\n" ++
  "  check                   Validate the manifest and list its classes\n" ++
  "  render <CLASS>          Print the generated definitions of a class\n" ++
  "  new <CLASS> [ARGS]...   Construct an instance and print it as JSON\n\n" ++
  "Options:\n" ++
  "  -c, --config <CONFIG>     Path of the manifest [default: declinit.toml]\n" ++
  "  -o, --option <KEY=VALUE>  Keyword argument of an instance\n" ++
  "  -h, --help                Print help\n" ++
  "  -V, --version             Print version"

/-- What the program says on words that make no command. -/
def Usage.text : Usage → String
  | help | overview => helpText
  | version => versionText
  | unknownArgument => "error: unexpected argument"
  | unknownVerb => "error: unrecognized subcommand"
  | missingArgument => "error: a required argument was not provided"
  | missingValue => "error: a value is required"
  | repeatedOption => "error: an option cannot be used multiple times"
  | unneededValue => "error: unexpected value"

/-- The number of the system error that a directory is read as a file. -/
def directoryCode : UInt32 := 21

/-- The number of the system error that a path or a part of it is too long. -/
def lengthCode : UInt32 := 36

/-- Why a file could not be read. -/
def Unreadable.ofError : IO.Error → Unreadable
  | .noFileOrDirectory .. => .missing
  | .inappropriateType _ code _ => if code = directoryCode then .directory else .throughFile
  | e@(.invalidArgument _ code _) => if code = lengthCode then .tooLong else .refused e.toString
  | e => .refused e.toString

def readText (path : String) : IO (Except Unreadable String) := do
  if path.contains '\x00' then return .error .noPath
  try
    match String.fromUTF8? (← IO.FS.readBinFile path) with
    | some text => return .ok text
    | none => return .error .notText
  catch e => return .error (.ofError e)

def Command.execute (c : Command) : IO UInt32 := do
  match c.run (← readText c.path) with
  | .ok answer =>
    IO.print answer
    return 0
  | .error failure =>
    IO.eprintln ("Error: " ++ failure.message)
    failure.details.forM fun line => IO.eprintln ("  " ++ line)
    return 1

end ClassForge

open ClassForge in
/-- Runs the program on the words behind its name. -/
def main (args : List String) : IO UInt32 := do
  match Command.read args with
  | .ok c => c.execute
  | .error .help =>
    IO.println helpText
    return 0
  | .error .version =>
    IO.println versionText
    return 0
  | .error reason =>
    IO.eprintln reason.text
    return 2
