/-
# Forms of records

A form says how a record is written in JSON: the names of its members, how
each is read and written, and which of them are required.  `Form.read` reads
an object member by member in the order of their names, or an array item by
item in the order of the form; `Form.write` writes the object.
-/
import MessageTemplate.Record.Fault

namespace MessageTemplate.Record

/-! ## Single values -/

/-- Reads a text. -/
def readText : Json → Except Fault Text
  | .string t => .ok t
  | other => .error (.wrongType other "a string".toList)

/-- Reads a text or a null. -/
def readOptionalText : Json → Except Fault (Option Text)
  | .null => .ok none
  | other => (readText other).map some

/-- Reads a flag. -/
def readFlag : Json → Except Fault Bool
  | .bool b => .ok b
  | other => .error (.wrongType other "a boolean".toList)

/-- Reads one of several words. -/
def lookupWord (words : List (Text × α)) (word : Text) : Except Fault α :=
  match words.lookup word with
  | some a => .ok a
  | none => .error (.unknownWord word (words.map Prod.fst))

/-- Reads one of several words, written as a string or as the only member, a
null, of an object. -/
def readWord (words : List (Text × α)) : Json → Except Fault α
  | .string word => lookupWord words word
  | .object [(word, value)] => do
    let a ← lookupWord words word
    match value with
    | .null => .ok a
    | other => .error (.wrongType other "unit".toList)
  | .object _ => .error .notOneMember
  | other => .error (.wrongType other "string or map".toList)

/-- A text that may be absent, as JSON. -/
def writeOptionalText : Option Text → Json
  | some t => .string t
  | none => .null

/-! ## Forms -/

/-- A member of a record of type `α`. -/
structure Member (α : Type) where
  name : Text
  required : Bool
  read : Json → α → Except Fault α
  /-- The value written, or `none` when the member is left out. -/
  write : α → Option Json

/-- How records of type `α` are written in JSON. -/
structure Form (α : Type) where
  /-- The name of the record in faults. -/
  name : Text
  /-- The members in the order in which an array gives them. -/
  members : List (Member α)
  /-- Whether a member of an unknown name is refused, or else passed over. -/
  closed : Bool

/-- A flag of a record, with the way to read it off a record and to set it. -/
def Member.flag (name : Text) (get : α → Bool) (set : Bool → α → α) : Member α where
  name := name
  required := false
  read := fun value record => (readFlag value).map fun b => set b record
  write := fun record => some (.bool (get record))

/-- A text of a record that may be absent. -/
def Member.optionalText (name : Text) (get : α → Option Text) (set : Option Text → α → α) :
    Member α where
  name := name
  required := false
  read := fun value record => (readOptionalText value).map fun t => set t record
  write := fun record => some (writeOptionalText (get record))

namespace Form

variable {α : Type} (form : Form α)

/-- The names of the members. -/
def names : List Text :=
  form.members.map Member.name

/-- Reads one member into a record. -/
def readMember (record : α) (name : Text) (value : Json) : Except Fault α :=
  match form.members.find? fun member => member.name == name with
  | some member => member.read value record
  | none => if form.closed then .error (.unknownMember name form.names) else .ok record

/-- Reads members into a record, one after the other. -/
def readMembers (record : α) : Json.Members → Except Fault α
  | [] => .ok record
  | (name, value) :: rest => do
    let record ← form.readMember record name value
    readMembers record rest

/-- The first required member that an object does not have. -/
def missing? (members : Json.Members) : Option (Member α) :=
  form.members.find? fun member => member.required && (members.lookup member.name).isNone

/-- Reads the items of an array into a record; `given` items were read before. -/
def readItems (given : Nat) (record : α) : List (Member α) → List Json → Except Fault α
  | [], [] => .ok record
  | [], items => .error (.tooManyItems (given + items.length))
  | member :: members, [] =>
    if member.required then .error (.tooFewItems given form.name form.members.length)
    else readItems (given + 1) record members []
  | member :: members, item :: items => do
    let record ← member.read item record
    readItems (given + 1) record members items

/-- Reads a record; what is not given stays as in the first record. -/
def read (first : α) : Json → Except Fault α
  | .object members => do
    let record ← form.readMembers first members
    match form.missing? members with
    | some member => .error (.missingMember member.name)
    | none => .ok record
  | .array items => form.readItems 0 first form.members items
  | other => .error (.wrongType other ("struct ".toList ++ form.name))

/-- Writes a record as an object. -/
def write (record : α) : Json :=
  .object (form.members.foldl
    (fun members member =>
      match member.write record with
      | some value => Json.Members.insert members member.name value
      | none => members) [])

end Form

end MessageTemplate.Record
