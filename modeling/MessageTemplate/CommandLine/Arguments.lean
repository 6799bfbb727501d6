/-
# Arguments

The arguments of the command line: which kind of message to show, where the
request is read from, and whether a summary is wanted.  An option may be given
once; its value follows it, behind an equals sign or as the next argument.
-/
import MessageTemplate.Settings.Environment

namespace MessageTemplate.CommandLine

/-! ## Commands -/

/-- What is asked for. -/
inductive Command
  | showHelp
  | showVersion
  /-- Shows a request as the kind of the given name; the source is `-` for the
  standard input, or the name of a file. -/
  | render (kindName source : Text) (summary : Bool)
  deriving DecidableEq, Repr

/-- The options given so far. -/
structure Given where
  kindName : Option Text := none
  source : Option Text := none
  summary : Bool := false
  deriving DecidableEq, Repr

/-- The source that stands for the standard input. -/
def standardInput : Text := ['-']

/-! ## Single options -/

/-- Whether an argument may be a value: it does not look like an option. -/
def isValue (argument : Text) : Bool :=
  argument.head? != some '-' || argument = standardInput

/-- The value of an option, given what stands behind its name in its own
argument and the arguments behind that: the value and the remaining arguments. -/
def valueOf? (attached : Text) (rest : List Text) : Option (Text × List Text) :=
  match attached, rest with
  | '=' :: value, rest => some (value, rest)
  | [], value :: rest => if isValue value then some (value, rest) else none
  | _, _ => none

/-- Notes the name of a kind, unless one was given. -/
def Given.setKindName (given : Given) (value : Text) : Option Given :=
  if given.kindName.isSome then none else some { given with kindName := some value }

/-- Notes a source, unless one was given or it is empty. -/
def Given.setSource (given : Given) (value : Text) : Option Given :=
  if given.source.isSome || value.isEmpty then none else some { given with source := some value }

/-- The name of an option and what stands behind it in its argument. -/
def splitOption (argument : Text) : Text × Text :=
  let name := argument.takeWhile (· != '=')
  (name, argument.drop name.length)

/-! ## Reading arguments -/

/-- Where reading has come to. -/
inductive Progress
  | refused
  | finished (command : Command)
  | more (given : Given) (rest : List Text)

/-- What the given options ask for; the kind may be named by the environment. -/
def Given.command? (environment : Environment) (given : Given) : Option Command :=
  (given.kindName.or (environment.lookup "RENDER_VARIANT".toList)).map fun kindName =>
    .render kindName (given.source.getD standardInput) given.summary

/-- Reads an option with a value. -/
def readValued (attached : Text) (rest : List Text) (set : Text → Option Given) : Progress :=
  match valueOf? attached rest with
  | none => .refused
  | some (value, rest) =>
    match set value with
    | some given => .more given rest
    | none => .refused

/-- Reads the next argument. -/
def readArgument (given : Given) (argument : Text) (rest : List Text) : Progress :=
  let (name, attached) := splitOption argument
  if name = "--variant".toList then readValued attached rest given.setKindName
  else if name = "--input".toList then readValued attached rest given.setSource
  else if argument = "--summary".toList then
    if given.summary then .refused else .more { given with summary := true } rest
  else if argument = "--help".toList then .finished .showHelp
  else if argument = "--version".toList then .finished .showVersion
  else if "-h".toList.isPrefixOf argument then .finished .showHelp
  else if "-V".toList.isPrefixOf argument then .finished .showVersion
  else .refused

/-- Reads the remaining arguments; every one takes at least itself. -/
def readArguments (environment : Environment) (given : Given) (arguments : List Text) :
    Option Command :=
  match arguments with
  | [] => given.command? environment
  | argument :: rest =>
    if argument = "--".toList then
      if rest.isEmpty then given.command? environment else none
    else
      match readArgument given argument rest with
      | .refused => none
      | .finished command => some command
      | .more given rest' =>
        if rest'.length ≤ rest.length then readArguments environment given rest' else none
termination_by arguments.length

/-- What the arguments ask for, or `none` if they are refused. -/
def Command.ofArguments? (environment : Environment) (arguments : List Text) : Option Command :=
  readArguments environment {} arguments

end MessageTemplate.CommandLine
