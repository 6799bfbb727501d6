/-
# Summaries

A summary is a message with the sizes that are usually asked for beside it.
-/
import MessageTemplate.Message.Basic

namespace MessageTemplate

/-- A message with its sizes. -/
structure Summary where
  kind : Kind
  rendered : Text
  subject : Option Text
  placeholders : List Text
  characters : Nat
  parts : Option Nat
  isTooLong : Bool
  isEmpty : Bool
  deriving DecidableEq, Repr

/-- The summary of a message. -/
def Message.summary (m : Message) : Summary where
  kind := m.kind
  rendered := m.rendered
  subject := m.subject?
  placeholders := m.placeholders
  characters := m.characters
  parts := m.parts?
  isTooLong := m.isTooLong
  isEmpty := m.isEmpty

/-- A number as JSON. -/
def Json.ofNat (n : Nat) : Json :=
  .number (.integer n)

/-- A summary as JSON, in the order in which it is read by people. -/
def Summary.json (s : Summary) : Json :=
  .object (
    [("variant".toList, .string s.kind.shortName), ("rendered".toList, .string s.rendered)]
    ++ (s.subject.map fun t => ("subject".toList, Json.string t)).toList
    ++ [("placeholders".toList, .array (s.placeholders.map .string)),
      ("content_count".toList, .ofNat s.characters)]
    ++ (s.parts.map fun n => ("fragment_count".toList, Json.ofNat n)).toList
    ++ [("is_message_too_long".toList, .bool s.isTooLong),
      ("is_message_empty".toList, .bool s.isEmpty)])

end MessageTemplate
