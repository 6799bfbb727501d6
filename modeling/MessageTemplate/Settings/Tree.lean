/-
# Settings

A setting is a word, or it holds further settings: under names, or at
positions.  A path leads from a setting to one inside it, and `Setting.set`
puts a word at the end of a path: `Setting.get?_set` says that it is found
there.
-/
import MessageTemplate.Text.Basic

namespace MessageTemplate

/-- A step of a path. -/
inductive Step
  | member (name : Text)
  /-- A position counts from the front, a negative one from the end. -/
  | item (position : Int)
  deriving DecidableEq, Repr

/-- A path from a setting to one inside it. -/
abbrev Path := List Step

/-- A setting. -/
inductive Setting
  | word (t : Text)
  /-- Settings under names. -/
  | table (members : List (Text × Setting))
  /-- Settings at some of the first `size` positions; the others are empty. -/
  | list (size : Nat) (items : List (Nat × Setting))
  deriving Repr

namespace Setting

/-! ## What a setting holds -/

/-- The setting that holds nothing. -/
def empty : Setting :=
  .table []

/-- The settings under names. -/
def members : Setting → List (Text × Setting)
  | .table members => members
  | _ => []

/-- The number of positions. -/
def size : Setting → Nat
  | .list size _ => size
  | _ => 0

/-- The settings at positions. -/
def items : Setting → List (Nat × Setting)
  | .list _ items => items
  | _ => []

/-- Where a position is among a number of places counted from the front: how
many places have to be added at the front, and the place behind these. -/
def place (size : Nat) : Int → Nat × Nat
  | .ofNat position => (0, position)
  | .negSucc n => (n + 1 - size, size - (n + 1))

/-- Once there are enough places, no more have to be added. -/
theorem place_place (size : Nat) (position : Int) :
    place (max (size + (place size position).1) ((place size position).2 + 1)) position
      = (0, (place size position).2) := by
  cases position with
  | ofNat position => simp [place]
  | negSucc n =>
    simp only [place, Prod.mk.injEq]
    omega

/-- The setting that a path leads to. -/
def get? : Path → Setting → Option Setting
  | [], s => some s
  | .member name :: path, s => (s.members.lookup name).bind (get? path)
  | .item position :: path, s =>
    match place s.size position with
    | (0, i) => (s.items.lookup i).bind (get? path)
    | _ => none

/-! ## Setting a word -/

/-- Puts a setting under a key, in the place of what is there. -/
def put [BEq κ] (key : κ) (s : Setting) (entries : List (κ × Setting)) : List (κ × Setting) :=
  (key, s) :: entries.filter fun entry => entry.1 != key

/-- What is put under a key is found there. -/
theorem lookup_put_self [BEq κ] [ReflBEq κ] (key : κ) (s : Setting)
    (entries : List (κ × Setting)) : (put key s entries).lookup key = some s := by
  simp [put]

/-- The items of a list with a number of places added at its front. -/
def shift (added : Nat) (items : List (Nat × Setting)) : List (Nat × Setting) :=
  items.map fun (i, s) => (i + added, s)

/-- A setting with a word at the end of a path.  What stands in the way of the
path is dropped, and a list grows to hold the position. -/
def set (value : Text) : Path → Setting → Setting
  | [], _ => .word value
  | .member name :: path, s =>
    .table (put name (set value path ((s.members.lookup name).getD empty)) s.members)
  | .item position :: path, s =>
    let (added, i) := place s.size position
    let items := shift added s.items
    .list (max (s.size + added) (i + 1)) (put i (set value path ((items.lookup i).getD empty)) items)

/-- The word set at the end of a path is found there. -/
theorem get?_set (value : Text) (path : Path) (s : Setting) :
    get? path (set value path s) = some (.word value) := by
  induction path generalizing s with
  | nil => simp [set, get?]
  | cons step path ih =>
    cases step with
    | member name => simp [set, get?, members, lookup_put_self, ih]
    | item position => simp [set, get?, size, items, place_place, lookup_put_self, ih]

/-! ## Settings as records -/

/-- What a setting holds for the member of a record, given its name and its
position in the record. -/
def part? (name : Text) (position : Nat) : Setting → Option Setting
  | .word _ => none
  | .table members => members.lookup name
  | .list size items =>
    (items.lookup position).or (if position < size then some empty else none)

end Setting

end MessageTemplate
