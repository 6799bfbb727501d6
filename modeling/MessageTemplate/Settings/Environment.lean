/-
# Settings from the environment

The defaults and the format of the log may be set by environment variables:
`RENDER__RENDER__SHOW_PREFIX` sets the flag `show_prefix` among the defaults,
`RENDER__LOGGING__FORMAT` the format.  The variables are gathered in a tree
first; what in it has a name that is not known is passed over.
-/
import MessageTemplate.Settings.Defaults
import MessageTemplate.Settings.Variable

namespace MessageTemplate

/-- The variables of an environment with their values. -/
abbrev Environment := List (Text × Text)

/-- The settings of the program. -/
structure Settings where
  defaults : Defaults := {}
  logging : Logging := {}
  deriving DecidableEq, Repr

namespace Settings

/-! ## Words -/

/-- The digits of a text around a point, if that is all it holds and there is a digit. -/
def pointedDigits? (t : Text) : Option (Text × Text) :=
  let whole := t.takeWhile Char.isDigit
  let rest := t.drop whole.length
  let fraction := if rest.head? == some '.' then rest.drop 1 else rest
  if fraction.all Char.isDigit && !(whole.isEmpty && fraction.isEmpty) then
    some (whole, fraction)
  else none

/-- The value of a signed numeral without point. -/
def signedDigits? (t : Text) : Option Int :=
  let negative := t.head? == some '-'
  let digits := if negative || t.head? == some '+' then t.drop 1 else t
  if digits.isEmpty || !digits.all Char.isDigit then none
  else
    let value : Int := (Text.digitsValue digits : Nat)
    some (if negative then -value else value)

/-- Whether an unsigned numeral is other than zero, or `none` if the text is no numeral. -/
def isNonzero? (t : Text) : Option Bool :=
  if ["inf".toList, "infinity".toList, "nan".toList].contains t then some true
  else
    let mantissa := t.takeWhile (· != 'e')
    let exponent := (t.drop mantissa.length).drop 1
    let power := if t.contains 'e' then signedDigits? exponent else some 0
    match pointedDigits? mantissa, power with
    | some (whole, fraction), some power =>
      match Binary64.ofDecimal? false (Text.digitsValue (whole ++ fraction))
          (power - fraction.length) with
      | some x => some (x.significand != 0)
      | none => some true
    | _, _ => none

/-- The flag that a value sets: a word for yes or no, or a number. -/
def flag? (value : Text) : Option Bool :=
  let word := smallLetters value
  if ["true".toList, "on".toList, "yes".toList].contains word then some true
  else if ["false".toList, "off".toList, "no".toList].contains word then some false
  else isNonzero? (if word.head? == some '-' || word.head? == some '+' then word.drop 1 else word)

/-- The format of the log that a setting names: in any case of letters, or as
the only name in a table. -/
def logFormat? : Setting → Option LogFormat
  | .word t => LogFormat.byName.lookup (smallLetters t)
  | .table [(name, _)] => LogFormat.byName.lookup name
  | _ => none

/-! ## Reading settings -/

/-- A setting that does not fit. -/
structure Misfit where
  path : List Text
  found : Setting
  wanted : Text
  deriving Repr

/-- How a setting is named in the text of a misfit. -/
def Misfit.describe : Setting → Text
  | .word t => "string ".toList ++ Text.visible (smallLetters t)
  | .table _ => "map".toList
  | .list _ _ => "sequence".toList

/-- The text of a misfit. -/
def Misfit.message (misfit : Misfit) : Text :=
  "invalid type: ".toList ++ describe misfit.found ++ ", expected ".toList
    ++ misfit.wanted ++ " for key `".toList ++ List.intercalate ['.'] misfit.path
    ++ "` in the environment".toList

/-- The name of the setting that holds the defaults. -/
def defaultsName : Text := "render".toList

/-- The name of the setting that holds how the log is written. -/
def loggingName : Text := "logging".toList

/-- The name of the setting that holds the format of the log. -/
def formatName : Text := "format".toList

/-- Sets a flag of the defaults, if the setting of the defaults holds it. -/
def readFlag (s : Setting) (d : Defaults) (member : Record.Member Defaults) (position : Nat) :
    Except Misfit Defaults :=
  match s.part? member.name position with
  | none => .ok d
  | some part =>
    let misfit : Misfit := ⟨[defaultsName, member.name], part, "a boolean".toList⟩
    match part with
    | .word t =>
      match flag? t with
      | some b => (member.read (.bool b) d).mapError fun _ => misfit
      | none => .error misfit
    | _ => .error misfit

/-- Reads the defaults. -/
def readDefaults : Setting → Except Misfit Defaults
  | .word t => .error ⟨[defaultsName], .word t, "a map".toList⟩
  | s => Defaults.members.zipIdx.foldlM (fun d (member, position) => readFlag s d member position) {}

/-- Reads how the log is written. -/
def readLogging : Setting → Except Misfit Logging
  | .word t => .error ⟨[loggingName], .word t, "a map".toList⟩
  | s =>
    match s.part? formatName 0 with
    | none => .ok {}
    | some part =>
      match logFormat? part with
      | some format => .ok ⟨format⟩
      | none => .error ⟨[loggingName, formatName], part, "a log format".toList⟩

/-- Reads a member of the settings; what is not there is as it always is. -/
def readMember {α : Type} (name : Text) (otherwise : α) (read : Setting → Except Misfit α)
    (s : Setting) : Except Misfit α :=
  match s.part? name 0 with
  | none => .ok otherwise
  | some part => read part

/-- Reads the settings of the program. -/
def read (s : Setting) : Except Misfit Settings := do
  let defaults ← readMember defaultsName {} readDefaults s
  let logging ← readMember loggingName {} readLogging s
  return { defaults, logging }

/-! ## Environments -/

/-- The tree of the variables of an environment. -/
def tree (environment : Environment) : Setting :=
  environment.foldl
    (fun s (name, value) =>
      match Path.ofVariable? name with
      | some path => s.set value path
      | none => s)
    .empty

/-- The settings of an environment. -/
def ofEnvironment (environment : Environment) : Except Misfit Settings :=
  read (tree environment)

/-- Whether an environment is that of a production system. -/
def isProduction (environment : Environment) : Bool :=
  match environment.lookup "RUN_MODE".toList with
  | some mode => mode = "production".toList || mode = "prod".toList
  | none => false

end Settings

end MessageTemplate
