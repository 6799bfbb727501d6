/-
# Nodes

The segments of a template, with the text of each conditional read in turn,
form a tree.  Rendering, counting and listing walk this tree, so all three
visit the same placeholders.
-/
import MessageTemplate.Content.Segment

namespace MessageTemplate

/-- A part of a template: literal text, a placeholder that shows a value, or
one that shows a text of its own on a condition. -/
inductive Node
  | text (t : Text)
  | value (name : Text)
  | conditional (name : Text) (shown : List Node)
  deriving Repr

/-- The nodes of a template. -/
def Node.read (t : Text) : List Node :=
  (segments t).attach.map fun
    | ⟨.text literal, _⟩ => .text literal
    | ⟨.placeholder p, _⟩ =>
      match _shown : p.conditionalText? with
      | none => .value p.name
      | some shown => .conditional p.name (Node.read shown)
termination_by t.length
decreasing_by
  exact Nat.lt_trans (Placeholder.length_conditionalText?_lt _shown)
    (length_body_lt_of_mem_segments ‹_›)

/-- The node of one segment. -/
def Segment.node : Segment → Node
  | .text t => .text t
  | .placeholder p =>
    match p.conditionalText? with
    | none => .value p.name
    | some shown => .conditional p.name (Node.read shown)

/-- The nodes of a template are those of its segments. -/
theorem Node.read_eq (t : Text) : Node.read t = (segments t).map Segment.node := by
  rw [Node.read]
  conv => rhs; rw [← List.attach_map_subtype_val (segments t), List.map_map]
  refine List.map_congr_left ?_
  rintro ⟨s | p, hs⟩ _
  · rfl
  · simp only [Function.comp, Segment.node]
    split <;> split <;> simp_all

/-- The names of a node: its own, then those inside it. -/
def Node.names : Node → List Text
  | .text _ => []
  | .value name => [name]
  | .conditional name shown => name :: shown.flatMap Node.names

/-- Lists a name behind those listed before, unless it is one of them. -/
def listName (listed : List Text) (name : Text) : List Text :=
  if name ∈ listed then listed else listed ++ [name]

/-- Lists the names of a node behind those listed before, its own first and
then those inside it. -/
def Node.listNames (listed : List Text) : Node → List Text
  | .text _ => listed
  | .value name => listName listed name
  | .conditional name shown =>
    shown.foldl (fun listed n => Node.listNames listed n) (listName listed name)

/-- The placeholder names of a template in order of first appearance. -/
def placeholders (t : Text) : List Text :=
  (Node.read t).foldl Node.listNames []

end MessageTemplate
