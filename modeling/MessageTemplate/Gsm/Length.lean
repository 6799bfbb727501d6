/-
# Lengths and parts

The length of a message in units depends on its encoding: in GSM-7 an extended
character takes two units, in UCS-2 every character takes one.  A text message
that does not fit into a single part is sent in concatenated parts, which hold
less; a broadcast has one capacity for each encoding.
-/
import MessageTemplate.Gsm.Alphabet

namespace MessageTemplate.Gsm

/-! ## Encodings -/

/-- The encoding of a message. -/
inductive Encoding
  | gsm7
  | ucs2
  deriving DecidableEq, Repr

/-- The encoding a text needs. -/
def Encoding.ofText (t : Text) : Encoding :=
  if t.any isOutside then .ucs2 else .gsm7

/-- The length of a message. -/
structure Length where
  characters : Nat
  units : Nat
  encoding : Encoding
  deriving DecidableEq, Repr

/-- The units of a text in the GSM alphabets. -/
def gsmUnits (t : Text) : Nat :=
  t.foldl (fun n c => n + (classify c).units) 0

/-- The length of a text. -/
def Length.ofText (t : Text) : Length :=
  let encoding := Encoding.ofText t
  ⟨t.length, match encoding with | .gsm7 => gsmUnits t | .ucs2 => t.length, encoding⟩

/-- A length with further characters of one unit each. -/
def Length.add (length : Length) (n : Nat) : Length :=
  ⟨length.characters + n, length.units + n, length.encoding⟩

/-! ## Capacities -/

/-- The units of a message in one part, and of each part of a message in several. -/
structure Capacity where
  single : Nat
  concatenated : Nat
  deriving DecidableEq, Repr

/-- The capacity of the parts of a text message. -/
def Encoding.partCapacity : Encoding → Capacity
  | .gsm7 => ⟨160, 153⟩
  | .ucs2 => ⟨70, 67⟩

/-- The units that a broadcast may have. -/
def Encoding.broadcastCapacity : Encoding → Nat
  | .gsm7 => 1395
  | .ucs2 => 615

/-- The characters that a text message may have, its prefix not counted. -/
def characterLimit : Nat := 918

/-- The least number of pieces of a given size that hold a number of units. -/
def ceilDiv (units size : Nat) : Nat :=
  units / size + if units % size = 0 then 0 else 1

/-- The number of parts that a text message needs. -/
def smsParts (units : Nat) (encoding : Encoding) : Nat :=
  let capacity := encoding.partCapacity
  if units ≤ capacity.single then 1 else ceilDiv units capacity.concatenated

/-- The number of whole capacities that a broadcast needs. -/
def broadcastParts (units : Nat) (encoding : Encoding) : Nat :=
  max (ceilDiv units encoding.broadcastCapacity) 1

end MessageTemplate.Gsm
