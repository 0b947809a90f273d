import ClassForge.Command

/-!
# Command lines

How the words of a command line make a command.

## Main definitions

- `Usage` — why words make no command
- `Word` — how a word is written: as a flag, as a cluster of short flags, or as neither
- `Verb.read` — the words behind a verb
- `Command.read` — all words

## Design notes

An option waits for its value. What is wrong with a value is noticed when the next option or
argument begins or when the words end, and by then another complaint may have come first.
-/

namespace ClassForge

/-- Why words make no command. -/
inductive Usage where
  /-- Help is asked for. -/
  | help
  /-- The version is asked for. -/
  | version
  /-- There are no words. -/
  | overview
  /-- A flag is not known, or there are too many arguments. -/
  | unknownArgument
  /-- The verb is not known. -/
  | unknownVerb
  /-- An argument is missing. -/
  | missingArgument
  /-- An option has no value, or an empty one that must not be empty. -/
  | missingValue
  /-- An option that may be given once is given again. -/
  | repeatedOption
  /-- A flag has a value and takes none. -/
  | unneededValue
deriving DecidableEq

/-- How a word is written. -/
inductive Word where
  /-- Two hyphens: no flags follow. -/
  | escape
  /-- Two hyphens and a name, and perhaps a value behind an equals sign. -/
  | long (name : List Char) (value : Option (List Char))
  /-- A hyphen, a letter and what follows it. -/
  | short (letter : Char) (rest : List Char)
  /-- No flag. -/
  | plain

def Word.ofText : List Char → Word
  | ['-', '-'] => escape
  | '-' :: '-' :: s =>
    match Text.cut? '=' s with
    | some (name, value) => long name (some value)
    | none => long s none
  | '-' :: c :: s => short c s
  | _ => plain

/-- The options that take a value. -/
inductive OptionName where
  /-- The path of the manifest. -/
  | config
  /-- A keyword argument. -/
  | option
deriving DecidableEq

/-- What a flag stands for. -/
inductive Flag where
  | help
  | option (name : OptionName)

/-- What a command does. -/
inductive Verb where
  | check
  | render
  | new
deriving DecidableEq

namespace Verb

def named? (s : String) : Option Verb :=
  match s with
  | "check" => some check
  | "render" => some render
  | "new" => some new
  | _ => none

/-- The number of arguments that are no flags, unless it is unlimited. -/
def limit : Verb → Option Nat
  | check => some 0
  | render => some 1
  | new => none

def longFlag? (v : Verb) (name : String) : Option Flag :=
  match name with
  | "help" => some .help
  | "config" => some (.option .config)
  | "option" => if v = new then some (.option .option) else none
  | _ => none

def shortFlag? (v : Verb) (letter : Char) : Option Flag :=
  match letter with
  | 'h' => some .help
  | 'c' => some (.option .config)
  | 'o' => if v = new then some (.option .option) else none
  | _ => none

end Verb

/-- What the words behind a verb have said so far. -/
structure Progress where
  config : Option String
  options : List String
  /-- The arguments that are no flags. -/
  words : List String
  /-- The option whose value was not looked at yet, and the value if it has come. -/
  pending : Option (OptionName × Option String)
  /-- Whether no flags follow. -/
  isEscaped : Bool

namespace Progress

def start : Progress :=
  ⟨none, [], [], none, false⟩

def set (p : Progress) (name : OptionName) (value : String) : Except Usage Progress :=
  match name with
  | .config =>
    if p.config.isSome then .error .repeatedOption
    else if value.isEmpty then .error .missingValue
    else .ok { p with config := some value }
  | .option => .ok { p with options := p.options ++ [value] }

/-- Looks at the value of the pending option. -/
def settle (p : Progress) : Except Usage Progress :=
  match p.pending with
  | none => .ok p
  | some (_, none) => .error .missingValue
  | some (name, some value) => ({ p with pending := none }).set name value

/-- Takes an argument that is no flag. -/
def word (v : Verb) (p : Progress) (s : String) : Except Usage Progress := do
  if v.limit.any (· ≤ p.words.length) then throw .unknownArgument
  let p ← p.settle
  return { p with words := p.words ++ [s] }

/-- Takes an option, with its value if that is attached to it. -/
def option (p : Progress) (name : OptionName) (value : Option String) : Except Usage Progress := do
  let p ← p.settle
  match value with
  | some value => p.set name value
  | none => return { p with pending := some (name, none) }

def help (p : Progress) : Except Usage Progress := do
  let _ ← p.settle
  throw .help

/-- Takes a flag with a long name. -/
def long (p : Progress) (value : Option (List Char)) : Option Flag → Except Usage Progress
  | none => .error .unknownArgument
  | some .help => if value.isSome then .error .unneededValue else p.help
  | some (.option name) => p.option name (value.map String.ofList)

/-- The value that is attached to a letter. An equals sign before it does not belong to it. -/
def attached? : List Char → Option String
  | [] => none
  | '=' :: value => some (String.ofList value)
  | value => some (String.ofList value)

def short (p : Progress) (rest : List Char) : Option Flag → Except Usage Progress
  | none => .error .unknownArgument
  | some .help => p.help
  | some (.option name) => p.option name (attached? rest)

def step (v : Verb) (p : Progress) (s : String) : Except Usage Progress :=
  if p.isEscaped then p.word v s
  else match Word.ofText s.toList with
    | .escape => .ok { p with isEscaped := true }
    | .long name value => p.long value (v.longFlag? (String.ofList name))
    | .short letter rest => p.short rest (v.shortFlag? letter)
    | .plain =>
      match p.pending with
      | some (name, none) => .ok { p with pending := some (name, some s) }
      | _ => p.word v s

end Progress

/-- The path of the manifest unless another one is given. -/
def Command.defaultPath : String :=
  "declinit.toml"

/-- The request of a verb with its arguments. -/
def Verb.request (v : Verb) (words options : List String) : Except Usage Request :=
  match v, words with
  | check, _ => .ok .check
  | render, className :: _ => .ok (.render className)
  | new, className :: positional => .ok (.new ⟨className, positional, options⟩)
  | _, [] => .error .missingArgument

/-- The command of a verb and the words behind it. -/
def Verb.read (v : Verb) (words : List String) : Except Usage Command := do
  let p ← words.foldlM (Progress.step v) .start
  let p ← p.settle
  let request ← v.request p.words p.options
  return ⟨p.config.getD Command.defaultPath, request⟩

namespace Command

def helpVerb : String :=
  "help"

def isVerb (s : String) : Bool :=
  s == helpVerb || (Verb.named? s).isSome

/-- What asking for help on some verbs comes to. Verbs have none below them. -/
def helpOn : List String → Usage
  | [] => .help
  | [s] => if isVerb s then .help else .unknownVerb
  | _ => .unknownVerb

/-- What a word instead of a verb comes to, with the words behind it. -/
def withoutVerb (s : String) (rest : List String) : Usage :=
  match Word.ofText s.toList with
  | .escape =>
    match rest with
    | [] => .overview
    | s :: _ => if isVerb s then .unknownArgument else .unknownVerb
  | .long name value =>
    if name = "help".toList then if value.isSome then .unneededValue else .help
    else if name = "version".toList then if value.isSome then .unneededValue else .version
    else .unknownArgument
  | .short 'h' _ => .help
  | .short 'V' _ => .version
  | .short .. => .unknownArgument
  | .plain => .unknownVerb

/-- The command of the words of a command line. -/
def read : List String → Except Usage Command
  | [] => .error .overview
  | s :: rest =>
    match Verb.named? s with
    | some v => v.read rest
    | none => if s = helpVerb then .error (helpOn rest) else .error (withoutVerb s rest)

end Command

end ClassForge
