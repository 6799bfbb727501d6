/-
# Faults of records

What can be wrong with a JSON value that is read as a record, and the texts
that say so.
-/
import MessageTemplate.Json.Basic
import MessageTemplate.Text.Visible

namespace MessageTemplate.Record

/-- What can be wrong with a record. -/
inductive Fault
  /-- A value is not of the wanted type. -/
  | wrongType (found : Json) (wanted : Text)
  /-- The record has no member of this name, but those of the given names. -/
  | unknownMember (name : Text) (known : List Text)
  /-- The word is none of the given ones. -/
  | unknownWord (word : Text) (known : List Text)
  | missingMember (name : Text)
  | repeatedMember (name : Text)
  /-- A record written as an array ends before a required member. -/
  | tooFewItems (given : Nat) (record : Text) (members : Nat)
  /-- A record written as an array has items beyond its members. -/
  | tooManyItems (given : Nat)
  /-- A word written as an object has no or several members. -/
  | notOneMember
  /-- An object stands where a value for a placeholder should. -/
  | noValue
  deriving Repr

namespace Fault

/-- How a value is named in a fault. -/
def describe : Json → Text
  | .null => "null".toList
  | .bool true => "boolean `true`".toList
  | .bool false => "boolean `false`".toList
  | .number (.integer i) => "integer `".toList ++ Text.ofInt i ++ ['`']
  | .number (.binary x) => "floating point `".toList ++ x.text ++ ['`']
  | .string t => "string ".toList ++ Text.visible t
  | .array _ => "sequence".toList
  | .object _ => "map".toList

/-- A name between back quotes. -/
def ticked (name : Text) : Text :=
  '`' :: name ++ ['`']

/-- The names that would have been right. -/
def alternatives : List Text → Text
  | [] => []
  | [name] => ticked name
  | [first, second] => ticked first ++ " or ".toList ++ ticked second
  | names => "one of ".toList ++ List.intercalate [',', ' '] (names.map ticked)

/-- The text of a fault. -/
def message : Fault → Text
  | .wrongType found wanted =>
    "invalid type: ".toList ++ describe found ++ ", expected ".toList ++ wanted
  | .unknownMember name known =>
    "unknown field ".toList ++ ticked name ++ ", expected ".toList ++ alternatives known
  | .unknownWord word known =>
    "unknown variant ".toList ++ ticked word ++ ", expected ".toList ++ alternatives known
  | .missingMember name => "missing field ".toList ++ ticked name
  | .repeatedMember name => "duplicate field ".toList ++ ticked name
  | .tooFewItems given record members =>
    "invalid length ".toList ++ Text.ofNat given ++ ", expected struct ".toList ++ record
      ++ " with ".toList ++ Text.ofNat members
      ++ (if members = 1 then " element".toList else " elements".toList)
  | .tooManyItems given =>
    "invalid length ".toList ++ Text.ofNat given ++ ", expected fewer elements in array".toList
  | .notOneMember => "invalid value: map, expected map with a single key".toList
  | .noValue => "data did not match any variant of untagged enum PersonalisationValue".toList

end Fault

end MessageTemplate.Record
