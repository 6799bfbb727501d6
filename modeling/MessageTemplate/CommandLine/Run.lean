/-
# Runs

A run of the program: what the arguments, the environment and the request
lead to.  Reading a source is left to a function, so that a run is a value.
-/
import MessageTemplate.CommandLine.Arguments
import MessageTemplate.CommandLine.Request
import MessageTemplate.Json.Printer
import MessageTemplate.Message.Summary

namespace MessageTemplate.CommandLine

/-! ## Outcomes -/

/-- Why a run failed. -/
inductive RunFailure
  /-- The environment does not fit; a production system does not say how. -/
  | settings (misfit : Settings.Misfit) (isProduction : Bool)
  /-- The source cannot be read. -/
  | unreadable (why : Text)
  | message (failure : Failure)
  deriving Repr

/-- The code of a failed run. -/
def RunFailure.code : RunFailure → Text
  | .settings _ _ => "CONFIG_ERROR".toList
  | .unreadable _ => "IO_ERROR".toList
  | .message failure => failure.code

/-- The text of a failed run. -/
def RunFailure.text : RunFailure → Text
  | .settings _ true => "Configuration error".toList
  | .settings misfit false => "Configuration error: ".toList ++ misfit.message
  | .unreadable why => "I/O error: ".toList ++ why
  | .message failure => failure.message

/-- The line that reports a failed run. -/
def RunFailure.line (failure : RunFailure) : Text :=
  failure.code ++ ':' :: ' ' :: failure.text

/-- How a run ends. -/
inductive Outcome
  /-- The arguments are refused. -/
  | refused
  | printed (line : Text)
  | failed (failure : RunFailure)
  deriving Repr

/-- The exit status of a run. -/
def Outcome.status : Outcome → Nat
  | .refused => 2
  | .printed _ => 0
  | .failed _ => 1

/-- The text that tells the version. -/
def versionLine : Text :=
  "template-render 1.0.0".toList

/-- The text that tells how the program is used. -/
def usageText : Text :=
  "Render a message template for one channel\n\n".toList
    ++ "Usage: template-render [OPTIONS] --variant <VARIANT>\n\n".toList
    ++ "Options:\n".toList
    ++ "      --variant <VARIANT>  Variant to render [env: RENDER_VARIANT]\n".toList
    ++ "      --input <INPUT>      JSON request file, `-` for stdin [default: -]\n".toList
    ++ "      --summary            Print a JSON summary with counts\n".toList
    ++ "  -h, --help               Print help\n".toList
    ++ "  -V, --version            Print version".toList

/-- The line that tells how to use the program when its arguments are refused. -/
def refusalText : Text :=
  "error: invalid arguments\n\nFor more information, try '--help'.".toList

/-! ## Runs -/

/-- The message that a request asks for. -/
def messageOf (settings : Settings) (kind : Kind) (t : Text) : Except Failure Message := do
  let request ←
    match Request.read t with
    | .ok request => Except.ok request
    | .error fault => .error (.invalidInput fault)
  let spec ←
    match Spec.read request.template with
    | .ok spec => Except.ok spec
    | .error why => .error (.invalidTemplate why)
  let options ←
    match settings.defaults.merge request.options with
    | .ok options => Except.ok options
    | .error fault => .error (.invalidInput (.record fault))
  Message.build kind spec options request.personalisation

/-- Shows a request as the kind of the given name. -/
def renderRun (environment : Environment) (kindName : Text) (summary : Bool)
    (source : Except Text Text) : Except RunFailure Text := do
  let settings ←
    match Settings.ofEnvironment environment with
    | .ok settings => Except.ok settings
    | .error misfit => .error (.settings misfit (Settings.isProduction environment))
  let kind ←
    match Kind.ofName kindName with
    | .ok kind => Except.ok kind
    | .error failure => .error (.message failure)
  let t ←
    match source with
    | .ok t => Except.ok t
    | .error why => .error (.unreadable why)
  match messageOf settings kind t with
  | .ok message =>
    .ok (if summary then message.summary.json.indented else message.rendered)
  | .error failure => .error (.message failure)

/-- Runs a command, given how to read a source. -/
def Command.run (environment : Environment) (read : Text → Except Text Text) :
    Command → Outcome
  | .showHelp => .printed usageText
  | .showVersion => .printed versionLine
  | .render kindName source summary =>
    match renderRun environment kindName summary (read source) with
    | .ok line => .printed line
    | .error failure => .failed failure

/-- A run of the program. -/
def run (environment : Environment) (arguments : List Text)
    (read : Text → Except Text Text) : Outcome :=
  match Command.ofArguments? environment arguments with
  | some command => command.run environment read
  | none => .refused

end MessageTemplate.CommandLine
