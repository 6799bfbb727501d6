/-
# Links written by offsets

Links can also be written with a cursor: it holds the offset up to which the
text is copied, and for each link the text between the cursor and the link is
copied, then the anchor, and the cursor goes behind the link.  The same is done
for tags, with a second cursor.  Each of these steps takes a part of the text
between two offsets (`Text.slice?`), which is there only if the first is not
behind the second and the second not behind the end of the text.

All of these parts are there, and what is written is the text with its links as
anchors (`Html.autolink?_eq`).
-/
import Mathlib
import MessageTemplate.Proofs.Link
import MessageTemplate.Proofs.Pieces

namespace MessageTemplate

/-! ## Parts of a text by offsets -/

/-- The part of a text from one offset to another, unless the first is behind the
second or the second behind the end of the text. -/
def Text.slice? (start stop : Nat) (t : Text) : Option Text :=
  if start ≤ stop ∧ stop ≤ t.length then some ((t.drop start).take (stop - start)) else none

/-- What stands between two texts is a part by the offsets of its ends. -/
theorem Text.slice?_append (before inside after : Text) :
    slice? before.length (before.length + inside.length) (before ++ (inside ++ after))
      = some inside := by
  have hbounds : before.length ≤ before.length + inside.length
      ∧ before.length + inside.length ≤ (before ++ (inside ++ after)).length := by
    simp only [List.length_append]
    omega
  rw [slice?, if_pos hbounds, List.drop_left, Nat.add_sub_cancel_left, List.take_left]

/-- What stands at the end of a text is a part by the offset of its start. -/
theorem Text.slice?_length (before inside : Text) :
    slice? before.length (before ++ inside).length (before ++ inside) = some inside := by
  have hpart := slice?_append before inside []
  rwa [List.append_nil, ← List.length_append] at hpart

namespace Html

/-- Something found in a text, with the offset at which it starts. -/
structure Occurrence where
  start : Nat
  text : Text
  deriving DecidableEq, Repr

/-! ## Writing by offsets -/

/-- What reads as a link in a text, from left to right, given the character in
front of the text and its offset. -/
def rawLinks (bareDomains : Bool) (offset : Nat) (previous : Option Char) (t : Text) :
    List Occurrence :=
  match t with
  | [] => []
  | c :: rest =>
    match rawLink? bareDomains previous (c :: rest) with
    | none => rawLinks bareDomains (offset + 1) (some c) rest
    | some raw =>
      ⟨offset, raw⟩ :: rawLinks bareDomains (offset + raw.length) raw.getLast?
        (rest.drop (raw.length - 1))
termination_by t.length
decreasing_by
  · simp
  · simp only [List.length_drop, List.length_cons]
    omega

/-- Writes a text that is copied up to the cursor, given what reads as a link
behind it. -/
def writeLinks? (style : LinkStyle) (t : Text) (cursor : Nat) : List Occurrence → Option Text
  | [] => Text.slice? cursor t.length t
  | raw :: rest => do
    let front ← Text.slice? 0 raw.start t
    let link := trimLink raw.text
    if !front.getLast?.any joinsLink && isWorthLinking link then
      let between ← Text.slice? cursor raw.start t
      let behind ← writeLinks? style t (raw.start + link.length) rest
      return between ++ anchor style link ++ behind
    else
      writeLinks? style t cursor rest

/-- The tags among the pieces of a text, given the offset of the first piece. -/
def tagsOf (offset : Nat) : List Piece → List Occurrence
  | [] => []
  | .text u :: rest => tagsOf (offset + u.length) rest
  | .tag w :: rest => ⟨offset, w⟩ :: tagsOf (offset + w.length) rest

/-- Writes a text between its tags, given the cursor and the tags behind it. -/
def writeTags? (style : LinkStyle) (bareDomains : Bool) (t : Text) (cursor : Nat) :
    List Occurrence → Option Text
  | [] => do
    let text ← Text.slice? cursor t.length t
    writeLinks? style text 0 (rawLinks bareDomains 0 none text)
  | tag :: rest => do
    let text ← Text.slice? cursor tag.start t
    let written ← writeLinks? style text 0 (rawLinks bareDomains 0 none text)
    let behind ← writeTags? style bareDomains t (tag.start + tag.text.length) rest
    return written ++ tag.text ++ behind

/-- A text with the links between its tags as anchors, written by offsets. -/
def autolink? (style : LinkStyle) (bareDomains : Bool) (t : Text) : Option Text :=
  writeTags? style bareDomains t 0 (tagsOf 0 (pieces t))

/-! ## Links -/

section Links

variable {bareDomains : Bool} {previous : Option Char} {rest : Text}

/-- Where nothing reads as a link, one character is passed. -/
theorem rawLinks_character {c : Char} (h : rawLink? bareDomains previous (c :: rest) = none)
    (offset : Nat) :
    rawLinks bareDomains offset previous (c :: rest)
      = rawLinks bareDomains (offset + 1) (some c) rest := by
  rw [rawLinks, h]

/-- All that reads as a link is passed at once. -/
theorem rawLinks_raw {raw : Text} (hne : raw ≠ [])
    (h : rawLink? bareDomains previous (raw ++ rest) = some raw) (offset : Nat) :
    rawLinks bareDomains offset previous (raw ++ rest)
      = ⟨offset, raw⟩ :: rawLinks bareDomains (offset + raw.length) raw.getLast? rest := by
  cases raw with
  | nil => exact absurd rfl hne
  | cons c raw =>
    rw [List.cons_append] at h ⊢
    rw [rawLinks, h]
    dsimp only
    rw [List.length_cons, Nat.add_sub_cancel, List.drop_left]

/-- **Links.**  Where `copied` is written and `held` is read but not yet copied,
what is written next is `held` and the spans of the rest. -/
theorem Scan.writeLinks?_eq (style : LinkStyle) {l : List Span}
    (h : Scan bareDomains previous rest l) (copied held : Text)
    (hprevious : previous = (copied ++ held).getLast?) :
    writeLinks? style (copied ++ (held ++ rest)) copied.length
        (rawLinks bareDomains (copied.length + held.length) previous rest)
      = some (held ++ l.flatMap (Span.html style)) := by
  induction h generalizing copied held with
  | done =>
    rw [rawLinks, writeLinks?, List.append_nil, Text.slice?_length]
    rw [List.flatMap_nil, List.append_nil]
  | @character previous c rest l hnone _ ih =>
    have hnext := ih copied (held ++ [c]) (by rw [← List.append_assoc, List.getLast?_concat])
    rw [List.append_assoc, List.singleton_append, List.length_append, List.length_singleton,
      ← Nat.add_assoc] at hnext
    rw [rawLinks_character hnone, hnext, List.append_assoc]
    rfl
  | @raw previous raw rest l hne hraw _ ih =>
    have hfront : Text.slice? 0 (copied.length + held.length) (copied ++ (held ++ (raw ++ rest)))
        = some (copied ++ held) := by
      have hpart := Text.slice?_append [] (copied ++ held) (raw ++ rest)
      rwa [List.length_nil, Nat.zero_add, List.length_append, List.nil_append,
        List.append_assoc] at hpart
    have hlast : raw.getLast? = (copied ++ (held ++ raw)).getLast? := by
      rw [← List.append_assoc, List.getLast?_append_of_ne_nil _ hne]
    rw [rawLinks_raw hne hraw, writeLinks?, hfront]
    dsimp only [Option.bind_eq_bind, Option.bind_some]
    rw [← hprevious, List.flatMap_append, spansOfRaw]
    split
    · -- what is held is copied, and the cursor goes behind the link
      obtain ⟨dropped, hdropped⟩ := trimLink_isPrefix raw
      generalize trimLink raw = link at hdropped ⊢
      subst hdropped
      have hbetween := Text.slice?_append copied held (link ++ dropped ++ rest)
      have hnext := ih (copied ++ (held ++ link)) dropped (by simpa only [List.append_assoc])
      simp only [List.append_assoc, List.length_append, ← Nat.add_assoc] at hnext hbetween ⊢
      rw [hbetween, hnext, List.drop_left, List.flatMap_cons,
        flatMap_map_character fun _ => rfl, List.append_assoc]
      rfl
    · -- what is passed is held
      have hnext := ih copied (held ++ raw) hlast
      rw [List.append_assoc, List.length_append, ← Nat.add_assoc] at hnext
      rw [hnext, flatMap_map_character fun _ => rfl, List.append_assoc]

end Links

/-- The links of a text are written as its spans are. -/
theorem writeLinks?_rawLinks (style : LinkStyle) (bareDomains : Bool) (t : Text) :
    writeLinks? style t 0 (rawLinks bareDomains 0 none t)
      = some ((spans bareDomains t).flatMap (Span.html style)) :=
  (scan_spans bareDomains t).writeLinks?_eq style [] [] rfl

/-! ## Tags -/

/-- **Tags.**  Where a front of the text is written, what is written next is the
rest of its pieces. -/
theorem Alternates.writeTags?_eq (style : LinkStyle) (bareDomains : Bool) {l : List Piece}
    (h : Alternates l) (front : Text) :
    writeTags? style bareDomains (front ++ l.flatMap Piece.source) front.length
        (tagsOf front.length l)
      = some (l.flatMap (Piece.autolink style bareDomains)) := by
  induction h generalizing front with
  | last u =>
    rw [tagsOf, tagsOf, writeTags?, List.flatMap_singleton, List.flatMap_singleton]
    show (Text.slice? front.length (front ++ u).length (front ++ u)).bind _ = _
    rw [Text.slice?_length]
    exact writeLinks?_rawLinks style bareDomains u
  | @behind u w l _ ih =>
    have hsource : (Piece.text u :: .tag w :: l).flatMap Piece.source
        = u ++ (w ++ l.flatMap Piece.source) := rfl
    have hnext := ih (front ++ (u ++ w))
    simp only [List.append_assoc, List.length_append, ← Nat.add_assoc] at hnext
    rw [tagsOf, tagsOf, writeTags?, hsource, Text.slice?_append]
    dsimp only [Option.bind_eq_bind, Option.bind_some]
    rw [writeLinks?_rawLinks, hnext]
    show some (_ ++ w ++ _) = some (_ ++ (w ++ _))
    rw [List.append_assoc]
    rfl

/-- **Offsets.**  Written by offsets, every part of the text that is asked for is
there, and the text is the one with its links as anchors. -/
theorem autolink?_eq (style : LinkStyle) (bareDomains : Bool) (t : Text) :
    autolink? style bareDomains t = some (autolink style bareDomains t) := by
  have hwritten := (alternates_pieces t).writeTags?_eq style bareDomains []
  rwa [flatMap_source_pieces] at hwritten

end Html

end MessageTemplate
