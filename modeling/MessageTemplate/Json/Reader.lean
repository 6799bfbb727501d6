/-
# Reading JSON values

A value is read from tokens by a machine with a stack: each frame of the stack
is an array or object still open, and `Expect` says what may come next.  The
depth of nesting is limited.  `length_lt_of_readValue` says that reading a
value uses up at least one token.
-/
import MessageTemplate.Json.Token

namespace MessageTemplate.Json

/-! ## The machine -/

/-- An array or object still open. -/
inductive Frame
  /-- The items read so far, latest first. -/
  | array (items : List Json)
  /-- The members read so far, and the name of the member being read. -/
  | object (members : Members) (name : Text)

/-- What may come next. -/
inductive Expect
  | value
  | firstItem
  | nextItem
  | firstName
  | nextName
  | colon
  | separator
  deriving DecidableEq, Repr

/-- What one token leads to. -/
inductive Step
  | fault (fault : ReadFault)
  | finished (value : Json)
  | more (expect : Expect) (stack : List Frame)

/-- The number of arrays and objects that may not be open at once. -/
def depthLimit : Nat := 128

/-- Puts a finished value where it belongs. -/
def place (value : Json) : List Frame → Step
  | [] => .finished value
  | .array items :: stack => .more .separator (.array (value :: items) :: stack)
  | .object members name :: stack =>
    .more .separator (.object (members.insert name value) [] :: stack)

/-- Opens an array or object, unless that is too deep. -/
def openFrame (outer : Nat) (frame : Frame) (expect : Expect) (stack : List Frame) : Step :=
  if depthLimit ≤ outer + stack.length + 1 then .fault .tooDeep
  else .more expect (frame :: stack)

/-- A token where a value may start. -/
def valueStep (outer : Nat) (stack : List Frame) : Token → Step
  | .openArray => openFrame outer (.array []) .firstItem stack
  | .openObject => openFrame outer (.object [] []) .firstName stack
  | .null => place .null stack
  | .bool b => place (.bool b) stack
  | .number n => place (.number n) stack
  | .string t => place (.string t) stack
  | .faulty fault _ => .fault fault
  | .closeArray | .closeObject | .comma | .colon | .stray => .fault .expectedValue

/-- Closes the innermost array or object. -/
def closeFrame : List Frame → Step
  | .array items :: stack => place (.array items.reverse) stack
  | .object members _ :: stack => place (.object members) stack
  | [] => .fault .expectedValue

/-- A token where the name of a member may start. -/
def nameStep (stack : List Frame) : Token → Step
  | .string name =>
    match stack with
    | .object members _ :: rest => .more .colon (.object members name :: rest)
    | _ => .fault .nameNotString
  | .faulty fault true => .fault fault
  | _ => .fault .nameNotString

/-- A token behind an item or a member. -/
def separatorStep (stack : List Frame) (token : Token) : Step :=
  match stack with
  | .array _ :: _ =>
    match token with
    | .comma => .more .nextItem stack
    | .closeArray => closeFrame stack
    | _ => .fault .expectedArrayEnd
  | .object _ _ :: _ =>
    match token with
    | .comma => .more .nextName stack
    | .closeObject => closeFrame stack
    | _ => .fault .expectedObjectEnd
  | [] => .fault .trailingCharacters

/-- What a token leads to. -/
def step (outer : Nat) (expect : Expect) (stack : List Frame) (token : Token) : Step :=
  match expect with
  | .value => valueStep outer stack token
  | .firstItem =>
    if token = .closeArray then closeFrame stack else valueStep outer stack token
  | .nextItem =>
    if token = .closeArray then .fault .trailingComma else valueStep outer stack token
  | .firstName => if token = .closeObject then closeFrame stack else nameStep stack token
  | .nextName =>
    if token = .closeObject then .fault .trailingComma else nameStep stack token
  | .colon => if token = .colon then .more .value stack else .fault .expectedColon
  | .separator => separatorStep stack token

/-- The fault of a text that ends too early. -/
def endFault (expect : Expect) (stack : List Frame) : ReadFault :=
  match expect with
  | .value | .nextItem | .nextName => .endInValue
  | .firstItem => .endInArray
  | .firstName | .colon => .endInObject
  | .separator =>
    match stack with
    | .array _ :: _ => .endInArray
    | _ => .endInObject

/-- Runs the machine up to the end of the value. -/
def readAux (outer : Nat) (expect : Expect) (stack : List Frame) :
    List Token → Except ReadFault (Json × List Token)
  | [] => .error (endFault expect stack)
  | token :: rest =>
    match step outer expect stack token with
    | .fault fault => .error fault
    | .finished value => .ok (value, rest)
    | .more expect stack => readAux outer expect stack rest

/-- Reads the value at the front of tokens, with `outer` arrays and objects
open around it, and gives the tokens behind it. -/
def readValue (outer : Nat) (ts : List Token) : Except ReadFault (Json × List Token) :=
  readAux outer .value [] ts

/-- Reading a value uses up tokens. -/
theorem length_lt_of_readValue {outer : Nat} {ts rest : List Token} {value : Json}
    (h : readValue outer ts = .ok (value, rest)) : rest.length < ts.length := by
  have used : ∀ (ts : List Token) (expect : Expect) (stack : List Frame),
      readAux outer expect stack ts = .ok (value, rest) → rest.length < ts.length := by
    intro ts
    induction ts with
    | nil => intro expect stack h; simp [readAux] at h
    | cons token more ih =>
      intro expect stack h
      rw [readAux] at h
      split at h
      · simp at h
      · simp only [Except.ok.injEq, Prod.mk.injEq] at h
        simp [h.2]
      · exact Nat.lt_succ_of_lt (ih _ _ h)
  exact used ts .value [] h

/-- Reads a text that holds one value and nothing else. -/
def read (t : Text) : Except ReadFault Json :=
  match readValue 0 (tokens t) with
  | .ok (value, []) => .ok value
  | .ok (_, _ :: _) => .error .trailingCharacters
  | .error fault => .error fault

end MessageTemplate.Json
