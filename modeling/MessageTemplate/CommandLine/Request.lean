/-
# Requests

A request is a JSON object of a template, a personalisation and options, or an
array of the three.  It is read member by member as it stands in the text, so
that the first fault in reading order is the one reported, be it in the JSON
or in what it says.
-/
import MessageTemplate.Json.Reader
import MessageTemplate.Message.Failure
import MessageTemplate.Personalisation.Record

namespace MessageTemplate

/-- What is asked to be shown. -/
structure Request where
  template : Json
  personalisation : Personalisation
  options : Json
  deriving Repr

namespace Request

open Json

/-! ## Reading off tokens -/

/-- What is left of tokens once something was read off them. -/
abbrev Rest (ts : List Token) := { rest : List Token // rest.length < ts.length }

/-- Reading something off tokens: it and what is left, or what is wrong. -/
abbrev Reading (α : Type) (ts : List Token) := Except InputFault (α × Rest ts)

/-- The same reading, off more tokens. -/
def Reading.weaken {α : Type} {ts more : List Token} (h : ts.length ≤ more.length) :
    Reading α ts → Reading α more
  | .ok (a, ⟨rest, hrest⟩) => .ok (a, ⟨rest, Nat.lt_of_lt_of_le hrest h⟩)
  | .error fault => .error fault

/-- A fault of the JSON. -/
def malformed {α : Type} {ts : List Token} (fault : ReadFault) : Reading α ts :=
  .error (.json fault)

/-- A fault of the record. -/
def refused {α : Type} {ts : List Token} (fault : Record.Fault) : Reading α ts :=
  .error (.record fault)

/-- Reads a value inside the given number of arrays and objects. -/
def readJson (outer : Nat) (ts : List Token) : Reading Json ts :=
  match h : readValue outer ts with
  | .ok (value, rest) => .ok (value, ⟨rest, length_lt_of_readValue h⟩)
  | .error fault => malformed fault

/-- Reads the colon behind a name. -/
def readColon (ts : List Token) : Reading Unit ts :=
  match ts with
  | .colon :: rest => .ok ((), ⟨rest, by simp⟩)
  | [] => malformed .endInObject
  | _ => malformed .expectedColon

/-- Refuses tokens that start no record of the wanted form. -/
def refuseToken {α : Type} (wanted : Text) (ts : List Token) : Reading α ts :=
  match ts with
  | [] => malformed .endInValue
  | .faulty fault _ :: _ => malformed fault
  | .null :: _ => refused (.wrongType .null wanted)
  | .bool b :: _ => refused (.wrongType (.bool b) wanted)
  | .number n :: _ => refused (.wrongType (.number n) wanted)
  | .string t :: _ => refused (.wrongType (.string t) wanted)
  | .openArray :: _ => refused (.wrongType (.array []) wanted)
  | .openObject :: _ => refused (.wrongType (.object []) wanted)
  | .closeArray :: _ | .closeObject :: _ | .comma :: _ | .colon :: _ | .stray :: _ =>
    malformed .expectedValue

/-- Reads members up to the end of an object.  `member` reads what follows a
name; `afterComma` says whether a member has to come. -/
def readMembers {α : Type} (member : α → (name : Text) → (ts : List Token) → Reading α ts)
    (a : α) (afterComma : Bool) (ts : List Token) : Reading α ts :=
  match ts with
  | [] => malformed (if afterComma then .endInValue else .endInObject)
  | .closeObject :: rest =>
    if afterComma then malformed .trailingComma else .ok (a, ⟨rest, by simp⟩)
  | .faulty fault true :: _ => malformed fault
  | .string name :: rest =>
    match member a name rest with
    | .error fault => .error fault
    | .ok (_, ⟨[], _⟩) => malformed .endInObject
    | .ok (a, ⟨.closeObject :: rest', h⟩) =>
      .ok (a, ⟨rest', by simp only [List.length_cons] at h ⊢; omega⟩)
    | .ok (a, ⟨.comma :: rest', h⟩) =>
      (readMembers member a true rest').weaken (by simp only [List.length_cons] at h ⊢; omega)
    | .ok (_, ⟨_ :: _, _⟩) => malformed .expectedObjectEnd
  | _ => malformed .nameNotString
termination_by ts.length
decreasing_by
  simp only [List.length_cons] at h ⊢
  omega

/-! ## Personalisations -/

/-- Reads the value of a name into a personalisation. -/
def readNamedValue (p : Personalisation) (name : Text) (ts : List Token) :
    Reading Personalisation ts := do
  let (_, ⟨rest, h⟩) ← readColon ts
  let (value, ⟨rest', h'⟩) ← readJson 2 rest
  match Value.read value with
  | .ok v => .ok (p.insert name v, ⟨rest', Nat.lt_trans h' h⟩)
  | .error fault => refused fault

/-- Reads a personalisation. -/
def readPersonalisation (ts : List Token) : Reading Personalisation ts :=
  match ts with
  | .openObject :: rest =>
    (readMembers readNamedValue Personalisation.empty false rest).weaken (by simp)
  | ts => refuseToken "a map".toList ts

/-! ## Requests -/

/-- The members of a request read so far. -/
structure Parts where
  template : Option Json := none
  personalisation : Option Personalisation := none
  options : Option Json := none

/-- The name of the member that holds the template. -/
def templateName : Text := "template".toList

/-- The name of the member that holds the personalisation. -/
def personalisationName : Text := "personalisation".toList

/-- The name of the member that holds the options. -/
def optionsName : Text := "options".toList

/-- The request of the members read; only the template has to be there. -/
def Parts.request? (parts : Parts) : Option Request :=
  parts.template.map fun template =>
    ⟨template, parts.personalisation.getD .empty, parts.options.getD .null⟩

/-- Reads a member of a request, behind its name. -/
def readPart (parts : Parts) (name : Text) (ts : List Token) : Reading Parts ts :=
  if name = templateName then
    if parts.template.isSome then refused (.repeatedMember name)
    else do
      let (_, ⟨rest, h⟩) ← readColon ts
      let (value, ⟨rest', h'⟩) ← readJson 1 rest
      .ok ({ parts with template := some value }, ⟨rest', Nat.lt_trans h' h⟩)
  else if name = personalisationName then
    if parts.personalisation.isSome then refused (.repeatedMember name)
    else do
      let (_, ⟨rest, h⟩) ← readColon ts
      let (value, ⟨rest', h'⟩) ← readPersonalisation rest
      .ok ({ parts with personalisation := some value }, ⟨rest', Nat.lt_trans h' h⟩)
  else if name = optionsName then
    if parts.options.isSome then refused (.repeatedMember name)
    else do
      let (_, ⟨rest, h⟩) ← readColon ts
      let (value, ⟨rest', h'⟩) ← readJson 1 rest
      .ok ({ parts with options := some value }, ⟨rest', Nat.lt_trans h' h⟩)
  else refused (.unknownMember name [templateName, personalisationName, optionsName])

/-- Whether an array goes on: its next item is read off the tokens given back,
and there is none at the closing bracket, which is left. -/
def nextItem (isFirst : Bool) (ts : List Token) : Except ReadFault (Option (List Token)) :=
  match isFirst, ts with
  | _, [] => .error .endInArray
  | _, .closeArray :: _ => .ok none
  | true, ts => .ok (some ts)
  | false, [.comma] => .error .endInValue
  | false, .comma :: .closeArray :: _ => .error .trailingComma
  | false, .comma :: rest => .ok (some rest)
  | false, _ => .error .expectedArrayEnd

/-- Reads the next item of an array, if there is one, and gives the tokens behind it. -/
def readItem {α : Type} (isFirst : Bool) (item : (ts : List Token) → Reading α ts)
    (ts : List Token) : Except InputFault (Option α × List Token) :=
  match nextItem isFirst ts with
  | .error fault => .error (.json fault)
  | .ok none => .ok (none, ts)
  | .ok (some ts') =>
    match item ts' with
    | .ok (a, ⟨rest, _⟩) => .ok (some a, rest)
    | .error fault => .error fault

/-- Reads the end of an array that can have no further item. -/
def readArrayEnd : List Token → Except ReadFault (List Token)
  | .closeArray :: rest => .ok rest
  | .comma :: .closeArray :: _ => .error .trailingComma
  | [] => .error .endInArray
  | _ => .error .trailingCharacters

/-- Reads a request written as an array, behind its opening bracket. -/
def readArray (ts : List Token) : Except InputFault (Request × List Token) := do
  let (template, rest) ← readItem true (readJson 1) ts
  match template with
  | none => .error (.record (.tooFewItems 0 "RenderRequest".toList 3))
  | some template =>
    let (personalisation, rest) ← readItem false readPersonalisation rest
    let (options, rest) ← readItem false (readJson 1) rest
    match readArrayEnd rest with
    | .ok rest => .ok (⟨template, personalisation.getD .empty, options.getD .null⟩, rest)
    | .error fault => .error (.json fault)

/-- Reads a request written as an object, behind its opening bracket. -/
def readObject (ts : List Token) : Except InputFault (Request × List Token) := do
  let (parts, ⟨rest, _⟩) ← readMembers readPart {} false ts
  match parts.request? with
  | some request => .ok (request, rest)
  | none => .error (.record (.missingMember templateName))

/-- Reads the request at the front of tokens. -/
def readFront (ts : List Token) : Except InputFault (Request × List Token) :=
  match ts with
  | .openObject :: rest => readObject rest
  | .openArray :: rest => readArray rest
  | _ =>
    match (refuseToken "struct RenderRequest".toList ts : Reading Request ts) with
    | .ok (request, ⟨rest, _⟩) => .ok (request, rest)
    | .error fault => .error fault

/-- Reads a text that holds a request and nothing else. -/
def read (t : Text) : Except InputFault Request := do
  let (request, rest) ← readFront (tokens t)
  if rest.isEmpty then .ok request else .error (.json .trailingCharacters)

end Request

end MessageTemplate
