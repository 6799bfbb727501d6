/-
# JSON values

The members of an object stand in the order of their names, each name once;
`Members.insert` keeps them so.
-/
import MessageTemplate.Json.Number

namespace MessageTemplate

/-- A JSON value. -/
inductive Json
  | null
  | bool (b : Bool)
  | number (n : Json.Number)
  | string (t : Text)
  | array (items : List Json)
  | object (members : List (Text × Json))
  deriving Repr

namespace Json

/-- The members of an object. -/
abbrev Members := List (Text × Json)

namespace Members

/-- Whether a name comes before another: names are in the order of their code points. -/
def before : Text → Text → Bool
  | _, [] => false
  | [], _ :: _ => true
  | c :: rest, d :: rest' => c < d || (c == d && before rest rest')

/-- Members with one more; a member of the same name is replaced. -/
def insert (members : Members) (name : Text) (value : Json) : Members :=
  match members with
  | [] => [(name, value)]
  | (n, v) :: rest =>
    if n = name then (name, value) :: rest
    else if before name n then (name, value) :: (n, v) :: rest
    else (n, v) :: insert rest name value

/-- Members with others put in, one after the other. -/
def insertAll (members others : Members) : Members :=
  others.foldl (fun members other => insert members other.1 other.2) members

end Members

/-- The member of a given name, if the value is an object that has it. -/
def get? (name : Text) : Json → Option Json
  | .object members => members.lookup name
  | _ => none

/-- The text of a value, if it is a string. -/
def string? : Json → Option Text
  | .string t => some t
  | _ => none

/-- An object with the members of another object put in; any other value stays
as it is, and puts nothing in. -/
def overlay : Json → Json → Json
  | .object members, .object others => .object (Members.insertAll members others)
  | value, _ => value

end Json

end MessageTemplate
