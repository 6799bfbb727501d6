/-
# Lists as bullets

A list value is written as one line for each item, behind an asterisk and a
space, with a blank line above and below.  So the blocks around it are those of
the texts around it, and the lines of the list are read by themselves
(`Draft.blocks_plainBody`).

A line with an item is read as an item of a list, with the words of that item.
But an item of unsupported characters only, which counts as an item since it is
not blank, leaves an asterisk without a space, and that is a plain line.  The
lines are read as the list of the items exactly when there is no such item
(`Markdown.run_bulletLines_iff`): each asterisk would be a word that no item has.
-/
import Mathlib
import MessageTemplate.Message.Draft
import MessageTemplate.Proofs.BlankLines
import MessageTemplate.Proofs.BlockWords
import MessageTemplate.Proofs.ShownNames

namespace MessageTemplate

/-! ## A placeholder between texts -/

/-- A placeholder between texts without brackets is the only one. -/
theorem segments_source_between {pre post : Text} {p : Placeholder} (hpre : IsBracketFree pre)
    (hpost : IsBracketFree post) (hp : IsBody p.body) :
    segments (pre ++ (p.source ++ post))
      = literalSegment pre.reverse ++ .placeholder p :: literalSegment post.reverse := by
  have hliteral : ∀ {word : Text}, IsBracketFree word → ∀ (rest before after : Text),
      word = before ++ after → after ≠ [] → ¬ StartsPlaceholder (after ++ rest) := by
    rintro word hword rest before after rfl hne ⟨q, rest', hstart, -⟩
    obtain ⟨c, after, rfl⟩ := List.exists_cons_of_ne_nil hne
    have hc : c = '(' := (List.cons.inj hstart).1
    exact absurd (hword c (by simp)) (by simp [hc, isBracket])
  have hend : segments post = literalSegment post.reverse := by
    have hread := segmentsAux_literal (hliteral hpost []) []
    rw [List.append_nil, List.append_nil] at hread
    rw [segments, hread, segmentsAux]
    rfl
  rw [segments, segmentsAux_literal (hliteral hpre _), List.append_nil,
    segmentsAux_placeholder hp, hend]

namespace Substitution

variable {s : Substitution} {values : Personalisation}

/-- A value between texts without brackets is written between them. -/
theorem render_value_between (hhtml : s.html = .passthrough) {pre name post t : Text}
    (hpre : IsBracketFree pre) (hname : IsName name) (hpost : IsBracketFree post)
    (hvalue : (values.get? name).bind s.valueText? = some t) :
    s.render values (pre ++ (Placeholder.source ⟨name⟩ ++ post)) = pre ++ (t ++ post) := by
  have hsanitise : ∀ u, s.sanitise u = u := by
    intro u
    rw [sanitise, hhtml]
  have hliteral : ∀ word : Text,
      (literalSegment word.reverse).flatMap (fun segment => s.writeNode values segment.node)
        = word := by
    intro word
    cases word with
    | nil => rfl
    | cons c word => simp [literalSegment, Segment.node, writeNode, hsanitise]
  have hcondition : Placeholder.isConditional ⟨name⟩ = false :=
    Placeholder.isConditional_eq_false_iff.2 hname.unseparated
  have hnode : s.writeNode values (Segment.placeholder ⟨name⟩).node = t := by
    have hget : values.get? name.trim = values.get? name := by
      rw [Personalisation.get?, Personalisation.stored?, Text.trim_trim]
      rfl
    rw [Segment.node_of_not_conditional hcondition, writeNode, writeValue, Placeholder.name,
      Placeholder.writtenName_of_not_conditional hcondition, hget, hvalue]
    exact hsanitise t
  rw [render, writeNodes, Node.read_eq, segments_source_between hpre hpost hname.isBody,
    List.flatMap_map, List.flatMap_append, List.flatMap_cons, hliteral, hliteral, hnode]

end Substitution

/-! ## Lines without breaks -/

/-- A text that is on one line. -/
def IsUnbroken (t : Text) : Prop :=
  '\n' ∉ t ∧ '\r' ∉ t

/-- Whether a text is on one line can be read off it. -/
instance (t : Text) : Decidable (IsUnbroken t) :=
  inferInstanceAs (Decidable (_ ∧ _))

namespace IsUnbroken

variable {line : Text}

/-- A line without unsupported characters is still one line. -/
theorem splitOn_stripUnsupported (h : IsUnbroken line) :
    (stripUnsupported line).splitOn '\n' = [stripUnsupported line] := by
  refine Text.splitOnP_of_forall fun c hc => ?_
  have hne : c ≠ '\n' := by
    rintro rfl
    exact h.1 (List.mem_of_mem_filter hc)
  simpa using hne

/-- A text on one line is spaced as one. -/
theorem spacedLines_eq (h : IsUnbroken line) :
    spacedLines line = [spaceWords (stripUnsupported line)] := by
  have hunify := unifyBreaks_append h.2 []
  rw [List.append_nil, unifyBreaks, List.append_nil] at hunify
  rw [spacedLines, hunify, h.splitOn_stripUnsupported]
  rfl

/-- The first line of a text is spaced by itself. -/
theorem spacedLines_append (h : IsUnbroken line) (t : Text) :
    spacedLines (line ++ '\n' :: t) = spacedLines line ++ spacedLines t := by
  have hunify : unifyBreaks (line ++ '\n' :: t) = line ++ '\n' :: unifyBreaks t := by
    rw [unifyBreaks_append h.2, unifyBreaks_cons (by decide)]
  have hstrip : stripUnsupported (line ++ '\n' :: unifyBreaks t)
      = stripUnsupported line ++ '\n' :: stripUnsupported (unifyBreaks t) :=
    stripUnsupported_append line _
  rw [h.spacedLines_eq, spacedLines, hunify, hstrip, splitOn_append_newline,
    h.splitOn_stripUnsupported, List.map_append]
  rfl

/-- The normal spacing of a text on one line. -/
theorem normaliseLines_eq (h : IsUnbroken line) :
    normaliseLines line = spaceWords (stripUnsupported line) := by
  have hlines : normaliseLines line
      = List.intercalate ['\n'] (collapseLines (trimLines (spacedLines line))) :=
    normaliseLines_eq_lines line
  rw [hlines, h.spacedLines_eq]
  cases hwords : spaceWords (stripUnsupported line) with
  | nil => rfl
  | cons c words => simp [trimLines, List.rdropWhile, collapseLines]

/-- On one line the two passes over spacing agree. -/
theorem normaliseWhitespace_eq (h : IsUnbroken line) :
    normaliseWhitespace line = spaceWords (stripUnsupported line) := by
  have hpass : ∀ (t : Text) (gap : Gap), '\n' ∉ t → (∀ c ∈ t, isUnsupported c = false) →
      wordPass.runFrom gap t = linePass.runFrom gap t := by
    intro t
    induction t with
    | nil => exact fun _ _ _ => rfl
    | cons c t ih =>
      intro gap hbreak hsupported
      rw [List.mem_cons, not_or] at hbreak
      rw [List.forall_mem_cons] at hsupported
      have hstep : wordPass.step gap c = linePass.step gap c := by
        simp [wordPass, linePass, hsupported.1, Ne.symm hbreak.1]
      rw [Transducer.runFrom_cons, Transducer.runFrom_cons, hstep, ih _ hbreak.2 hsupported.2]
  have hbreak : '\n' ∉ stripUnsupported line := fun hmem => h.1 (List.mem_of_mem_filter hmem)
  rw [← normaliseWhitespace_stripUnsupported, ← h.normaliseLines_eq, normaliseLines,
    normaliseNewlines_of_not_mem h.2]
  exact hpass _ .start hbreak fun c hc => isUnsupported_of_mem_strip hc

/-- Nothing is left of a text on one line exactly when all of it is spacing. -/
theorem normaliseWhitespace_eq_nil_iff (h : IsUnbroken line) :
    normaliseWhitespace line = [] ↔ ∀ c ∈ line, isSpacing c = true := by
  rw [h.normaliseWhitespace_eq, ← h.normaliseLines_eq, normaliseLines_eq_nil_iff]

/-- What is left of a text on one line has no blanks at its ends. -/
theorem trim_normaliseWhitespace (h : IsUnbroken line) :
    (normaliseWhitespace line).trim = normaliseWhitespace line := by
  rw [h.normaliseWhitespace_eq, ← h.normaliseLines_eq]
  rcases spaced_normaliseLines line with hnil | hspaced
  · rw [hnil]
    rfl
  · exact hspaced.trim_eq

end IsUnbroken

namespace Markdown

/-! ## Lines with bullets -/

/-- Items as lines behind asterisks. -/
def bulletLines (items : List Text) : Text :=
  List.intercalate ['\n'] (items.map fun item => '*' :: ' ' :: item)

/-- The line that is read for an item: an item of a list, or an asterisk. -/
def bulletLine (item : Text) : Line :=
  if normaliseWhitespace item = [] then .plain ['*'] else .item false (normaliseWhitespace item)

/-- An asterisk is a word by itself. -/
theorem isBlank_of_mem_asterisk : ∀ c ∈ ['*'], isBlank c = false :=
  List.forall_mem_singleton.2 rfl

/-- A line with a text behind an asterisk is read as an item of a list. -/
theorem read_asterisk {t : Text} (htrim : t.trim = t) (hne : t ≠ []) :
    Line.read ('*' :: ' ' :: t) = .item false t := by
  have hend : t.trimEnd = t := by
    rw [← htrim, Text.trimEnd_trim]
  have hline : Text.trim ('*' :: ' ' :: t) = '*' :: ' ' :: t := by
    show Text.trimEnd ('*' :: ' ' :: t) = _
    rw [Text.trimEnd_cons, Text.trimEnd_cons, hend]
    simp [hne]
  have hrule : Line.isRule ('*' :: ' ' :: t) = false := by
    simp [Line.isRule]
  have hheading : Line.headingTitle? ('*' :: ' ' :: t) = none := rfl
  have hbullet : Line.bulletText? ('*' :: ' ' :: t) = some t.trim := rfl
  rw [Line.read, hline, Line.ofTrimmed, hrule, hheading, hbullet, htrim]
  rfl

/-- The line of an item is read as an item if anything is left of it. -/
theorem read_bullet {item : Text} (h : IsUnbroken item) :
    Line.read (spaceWords (stripUnsupported ('*' :: ' ' :: item))) = bulletLine item := by
  have hstrip : stripUnsupported ('*' :: ' ' :: item) = ['*'] ++ ' ' :: stripUnsupported item :=
    stripUnsupported_append ['*', ' '] item
  rw [hstrip, spaceWords_append_cons isBlank_of_mem_asterisk rfl, if_neg (List.cons_ne_nil _ _),
    ← h.normaliseWhitespace_eq, bulletLine]
  split
  · rfl
  · rename_i hleft
    exact read_asterisk h.trim_normaliseWhitespace hleft

/-- The lines with the items are read item by item. -/
theorem blocks_bulletLines {items : List Text} (hne : items ≠ [])
    (h : ∀ item ∈ items, IsUnbroken item) :
    blocks (normaliseLines (bulletLines items)) = blockPass.run (items.map bulletLine) := by
  have hbullet : ∀ {item : Text}, IsUnbroken item → IsUnbroken ('*' :: ' ' :: item) := by
    rintro item ⟨hn, hr⟩
    simp [IsUnbroken, hn, hr]
  have hlines : (spacedLines (bulletLines items)).map Line.read = items.map bulletLine := by
    unfold bulletLines
    induction items with
    | nil => exact absurd rfl hne
    | cons item items ih =>
      obtain ⟨hitem, hrest⟩ := List.forall_mem_cons.1 h
      have hfirst : (spacedLines ('*' :: ' ' :: item)).map Line.read = [bulletLine item] := by
        rw [(hbullet hitem).spacedLines_eq, List.map_singleton, read_bullet hitem]
      rcases eq_or_ne items [] with rfl | hitems
      · rw [List.map_singleton, List.intercalate_singleton, hfirst]
        rfl
      · rw [List.map_cons, List.intercalate_cons_of_ne_nil (by simp [hitems]), List.append_assoc,
          List.singleton_append, (hbullet hitem).spacedLines_append, List.map_append, hfirst,
          ih hitems hrest]
        rfl
  rw [blocks_normaliseLines, hlines]

/-- Lines with items are read as one list. -/
theorem blockPass_runFrom_items (held items : List Text) :
    blockPass.runFrom (.list false held) (items.map (Line.item false))
      = [.list false (held.reverse ++ items)] := by
  induction items generalizing held with
  | nil =>
    rw [List.append_nil]
    exact Transducer.runFrom_nil ..
  | cons item items ih =>
    rw [List.map_cons, Transducer.runFrom_cons]
    have hrest := ih (item :: held)
    rw [List.reverse_cons, List.append_assoc] at hrest
    exact hrest

/-- The line of an item has the words of the item, and an asterisk if there are none. -/
theorem length_parts_bulletLine (item : Text) :
    (bulletLine item).parts.length = (wordParts (normaliseWhitespace item)).length
      + if normaliseWhitespace item = [] then 1 else 0 := by
  have hasterisk : wordParts ['*'] = [.word ['*']] := by
    rw [wordParts, Text.runs_of_forall isBlank_of_mem_asterisk]
    rfl
  unfold bulletLine
  split
  · rename_i hnil
    rw [hnil, Line.parts, hasterisk]
    rfl
  · rfl

/-- **Bullets.**  The lines with the items are read as the list of the items
exactly when something is left of every item. -/
theorem run_bulletLines_iff {items : List Text} (hne : items ≠ []) :
    blockPass.run (items.map bulletLine) = [.list false (items.map normaliseWhitespace)]
      ↔ ∀ item ∈ items, normaliseWhitespace item ≠ [] := by
  constructor
  · intro hrun item hitem hnil
    -- an asterisk is a word that no item has
    have hparts : items.flatMap (fun item => wordParts (normaliseWhitespace item))
        = items.flatMap fun item => (bulletLine item).parts := by
      have hread := (run_parts (items.map bulletLine)).1
      have hlist : ([.list false (items.map normaliseWhitespace)] : List Block).flatMap Block.parts
          = items.flatMap (fun item => wordParts (normaliseWhitespace item)) := by
        rw [List.flatMap_singleton, Block.parts, List.flatMap_map]
      rw [← hlist, ← hrun]
      rw [List.flatMap_map] at hread
      exact hread
    have hlength := congrArg List.length hparts
    rw [List.length_flatMap, List.length_flatMap] at hlength
    refine absurd hlength (ne_of_lt (List.sum_lt_sum _ _ ?_ ⟨item, hitem, ?_⟩))
    · intro item _
      rw [length_parts_bulletLine]
      exact Nat.le_add_right _ _
    · rw [length_parts_bulletLine, if_pos hnil]
      exact Nat.lt_succ_self _
  · intro hleft
    have hitems : items.map bulletLine = (items.map normaliseWhitespace).map (Line.item false) := by
      rw [List.map_map]
      refine List.map_congr_left fun item hitem => ?_
      rw [bulletLine, if_neg (hleft item hitem)]
      rfl
    obtain ⟨item, items, rfl⟩ := List.exists_cons_of_ne_nil hne
    rw [hitems, List.map_cons, List.map_cons]
    exact blockPass_runFrom_items [normaliseWhitespace item] (items.map normaliseWhitespace)

end Markdown

namespace Draft

/-! ## Lists in a draft -/

variable {d : Draft} {pre name post : Text} {value : Value} {items : List Text}

/-- **Blocks around a list.**  The blocks of a draft with a list between texts
without brackets are those of the texts, with those of the lines of the list in
between. -/
theorem blocks_plainBody (hpre : IsBracketFree pre) (hname : IsName name)
    (hpost : IsBracketFree post)
    (hcontent : d.spec.content = pre ++ (Placeholder.source ⟨name⟩ ++ post))
    (hvalue : d.values.get? name = some value) (hitems : value.items? = some items)
    (hne : items ≠ []) (hunbroken : ∀ item ∈ items, IsUnbroken item) :
    Markdown.blocks d.plainBody = Markdown.blocks (normaliseLines pre)
      ++ (Markdown.blockPass.run (items.map Markdown.bulletLine)
        ++ Markdown.blocks (normaliseLines post)) := by
  have hlist : (d.values.get? name).bind d.plainSubstitution.valueText?
      = some ('\n' :: '\n' :: (Markdown.bulletLines items ++ ['\n', '\n'])) := by
    have hbullets : bulletList items
        = '\n' :: '\n' :: (Markdown.bulletLines items ++ ['\n', '\n']) := by
      rw [bulletList, if_neg (by simpa using hne)]
      rfl
    rw [hvalue, Option.bind_some, Substitution.valueText?, hitems, ← hbullets]
    rfl
  have hbody : d.plainBody = normaliseLines
      (pre ++ '\n' :: '\n' :: (Markdown.bulletLines items ++ '\n' :: '\n' :: post)) := by
    rw [plainBody, hcontent, Substitution.render_value_between rfl hpre hname hpost hlist]
    simp
  rw [hbody, Markdown.blocks_normaliseLines_append, Markdown.blocks_normaliseLines_append,
    Markdown.blocks_bulletLines hne hunbroken]

/-- **Lists.**  The blocks of a draft with a list between texts without brackets
are those of the texts, with one list of its items in normal spacing in between,
exactly when every item has a character that is neither blank nor unsupported. -/
theorem blocks_plainBody_eq_list_iff (hpre : IsBracketFree pre) (hname : IsName name)
    (hpost : IsBracketFree post)
    (hcontent : d.spec.content = pre ++ (Placeholder.source ⟨name⟩ ++ post))
    (hvalue : d.values.get? name = some value) (hitems : value.items? = some items)
    (hne : items ≠ []) (hunbroken : ∀ item ∈ items, IsUnbroken item) :
    Markdown.blocks d.plainBody = Markdown.blocks (normaliseLines pre)
        ++ ([.list false (items.map normaliseWhitespace)] ++ Markdown.blocks (normaliseLines post))
      ↔ ∀ item ∈ items, ∃ c ∈ item, isBlank c = false ∧ isUnsupported c = false := by
  rw [blocks_plainBody hpre hname hpost hcontent hvalue hitems hne hunbroken,
    List.append_right_inj, List.append_left_inj, Markdown.run_bulletLines_iff hne]
  refine forall₂_congr fun item hitem => ?_
  rw [Ne, (hunbroken item hitem).normaliseWhitespace_eq_nil_iff]
  simp only [← isSpacing_eq_false_iff, not_forall, Bool.not_eq_true, exists_prop]

/-- A list of words between lines of text is read as a list between paragraphs. -/
theorem list_between_paragraphs :
    let value := Value.list [.text "a \t b".toList, .text " ".toList, .flag true]
    let d : Draft :=
      ⟨⟨"You need:\r((items))\nThanks".toList, some "s".toList, .email⟩, {},
        Personalisation.empty.insert "items".toList value⟩
    Markdown.blocks d.plainBody
      = [.paragraph ["You need:".toList], .list false ["a b".toList, "true".toList],
        .paragraph ["Thanks".toList]] := by
  intro value d
  have hcontent : d.spec.content = "You need:\r".toList
      ++ (Placeholder.source ⟨"items".toList⟩ ++ "\nThanks".toList) := by decide
  have hname : IsName "items".toList := ⟨by decide, by decide, by decide⟩
  have hitems : value.items? = some ["a \t b".toList, "true".toList] := by decide +kernel
  have hread := blocks_plainBody_eq_list_iff (by decide) hname (by decide) hcontent rfl hitems
    (by decide) (by decide)
  have hvisible : ∀ item ∈ ["a \t b".toList, "true".toList],
      ∃ c ∈ item, isBlank c = false ∧ isUnsupported c = false :=
    List.forall_mem_cons.2 ⟨⟨'a', by decide, rfl, rfl⟩,
      List.forall_mem_singleton.2 ⟨'t', by decide, rfl, rfl⟩⟩
  rw [hread.2 hvisible]
  decide +kernel

/-- An item of no width leaves an asterisk, which is read as more text of the item above. -/
theorem item_of_no_width_joins_item :
    let value := Value.list [.text "a".toList, .text "\u200b".toList, .text "b".toList]
    let d : Draft :=
      ⟨⟨"((n))".toList, some "s".toList, .email⟩, {}, Personalisation.empty.insert ['n'] value⟩
    value.items? = some ["a".toList, "\u200b".toList, "b".toList]
      ∧ Markdown.blocks d.plainBody = [.list false ["a *".toList, "b".toList]] := by
  intro value d
  have hitems : value.items? = some ["a".toList, "\u200b".toList, "b".toList] := by decide +kernel
  refine ⟨hitems, ?_⟩
  have hcontent : d.spec.content = [] ++ (Placeholder.source ⟨['n']⟩ ++ []) := rfl
  have hname : IsName ['n'] := ⟨by decide, by decide, by decide⟩
  rw [blocks_plainBody (by decide) hname (by decide) hcontent rfl hitems (by decide) (by decide)]
  decide +kernel

end Draft

end MessageTemplate
