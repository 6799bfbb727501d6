/-
# Markup in blocks

Reading a text as blocks cuts it at line breaks, trims blanks and drops
markers.  None of these belongs to a tag, so every text in a block is markup if
the whole text was, and the tags of these texts are those of the whole text, in
the same order (`Markup.blocks`).  A block is written with tags of its own
(`Markdown.Block.tags`) around these texts (`Markup.markdown`); they are among
those of `Markdown.blockTags`.
-/
import Mathlib
import MessageTemplate.Markdown.Html
import MessageTemplate.Proofs.BlockTexts
import MessageTemplate.Proofs.Markup

namespace MessageTemplate

/-! ## Ends of a text -/

namespace Markup

variable {ws : List Text} {front rest t : Text}

/-- What is dropped from the start of markup takes no tag with it if it opens none. -/
theorem of_append_left (h : Markup ws (front ++ rest)) (hfront : '<' ∉ front) :
    Markup ws rest := by
  induction front with
  | nil => exact h
  | cons c front ih =>
    rw [List.mem_cons, not_or] at hfront
    refine ih ?_ hfront.2
    generalize hwhole : c :: front ++ rest = whole at h
    cases h with
    | nil => cases hwhole
    | char _ ht =>
      obtain ⟨rfl, rfl⟩ := List.cons.inj hwhole
      exact ht
    | tag hw =>
      obtain ⟨inner, -, rfl⟩ := hw
      exact absurd (List.cons.inj hwhole).1.symm hfront.1

/-- Plain text that is dropped from the end of markup takes no tag with it. -/
theorem of_append_right (h : Markup ws (front ++ rest)) (hrest : IsPlain rest) :
    Markup ws front := by
  generalize hwhole : front ++ rest = whole at h
  induction h generalizing front with
  | nil =>
    rw [(List.append_eq_nil_iff.1 hwhole).1]
    exact nil
  | @char c ws t hc ht ih =>
    cases front with
    | nil =>
      rw [List.nil_append] at hwhole
      rw [hwhole] at hrest
      rw [(char hc ht).unique (of_isPlain hrest)]
      exact nil
    | cons d front =>
      obtain ⟨rfl, ht⟩ := List.cons.inj hwhole
      exact char hc (ih ht)
  | @tag w ws t hw ht ih =>
    rcases List.append_eq_append_iff.1 hwhole with ⟨more, hw', hrest'⟩ | ⟨more, rfl, ht⟩
    · cases more with
      | nil =>
        rw [List.append_nil] at hw'
        rw [List.nil_append] at hrest'
        rw [hrest'] at hrest
        rw [← hw', ht.unique (of_isPlain hrest)]
        exact single hw
      | cons d more =>
        -- the last character of the tag would be dropped
        obtain ⟨inner, -, htagged⟩ := hw
        have hlast : '>' ∈ d :: more := by
          have hconcat := congrArg List.getLast? (hw'.symm.trans htagged)
          rw [List.getLast?_append_of_ne_nil _ (List.cons_ne_nil d more), ← List.cons_append,
            List.getLast?_concat] at hconcat
          exact List.mem_of_getLast? hconcat
        rw [hrest'] at hrest
        exact absurd (hrest '>' (List.mem_append_left t hlast)) (by decide)
    · exact tag hw (ih ht.symm)

/-- A blank is no angle bracket. -/
theorem isAngle_of_isBlank {c : Char} (h : isBlank c = true) : isAngle c = false := by
  rw [isAngle_eq_false_iff]
  constructor
  · rintro rfl
    exact absurd h (by decide)
  · rintro rfl
    exact absurd h (by decide)

/-- Blanks at the ends of markup belong to no tag. -/
theorem trim (h : Markup ws t) : Markup ws t.trim := by
  have hblank : ∀ u : Text, IsPlain (u.takeWhile isBlank) :=
    fun u c hc => isAngle_of_isBlank (List.mem_takeWhile_imp hc)
  have hfront : '<' ∉ t.takeWhile isBlank :=
    fun hmem => absurd (hblank t '<' hmem) (by decide)
  have hstart : Markup ws (t.dropWhile isBlank) := by
    rw [← List.takeWhile_append_dropWhile (p := isBlank) (l := t)] at h
    exact h.of_append_left hfront
  have hsplit : ∀ u : Text, u.trimEnd ++ (u.reverse.takeWhile isBlank).reverse = u := by
    intro u
    rw [Text.trimEnd, ← List.reverse_append, List.takeWhile_append_dropWhile, List.reverse_reverse]
  rw [← hsplit (t.dropWhile isBlank)] at hstart
  exact hstart.of_append_right fun c hc => hblank _ c (List.mem_reverse.1 hc)

/-- What stands behind a marker, trimmed, is markup. -/
theorem trim_behind (h : Markup ws (front ++ rest)) (hfront : '<' ∉ front) :
    Markup ws rest.trim :=
  (h.of_append_left hfront).trim

/-- Markup texts with further markup in between are markup. -/
theorem intercalate {between : Text} {vs : List Text} {texts : List Text} {tags : List (List Text)}
    (hbetween : Markup vs between) (h : List.Forall₂ Markup tags texts) :
    Markup (List.intercalate vs tags) (List.intercalate between texts) := by
  rw [List.intercalate, List.intercalate]
  induction h with
  | nil => exact nil
  | @cons ws t tags texts ht hrest ih =>
    cases hrest with
    | nil => simpa using ht
    | cons =>
      rw [List.intersperse_cons_cons, List.intersperse_cons_cons, List.flatten_cons,
        List.flatten_cons, List.flatten_cons, List.flatten_cons]
      exact ht.append (hbetween.append ih)

/-- **Lines.**  Where tags stand on one line, the lines of markup are markup, and
have its tags, in order. -/
theorem lines (hunbroken : ∀ w ∈ ws, '\n' ∉ w) (h : Markup ws t) :
    (linesOf t).flatMap Html.tags = ws ∧ ∀ line ∈ linesOf t, IsMarkup line := by
  have hjoin : ∀ (w t line : Text), '\n' ∉ w →
      splitPass.runFrom line (w ++ t) = splitPass.runFrom (w.reverse ++ line) t := by
    intro w t
    induction w with
    | nil => exact fun _ _ => rfl
    | cons c w ih =>
      intro line hw
      rw [List.mem_cons, not_or] at hw
      have hstep : splitPass.step line c = (c :: line, []) := by simp [splitPass, Ne.symm hw.1]
      rw [List.cons_append, Transducer.runFrom_cons, hstep, List.nil_append, ih _ hw.2]
      simp
  -- the line that is being read is markup, and so are the lines behind it
  have held : ∀ (vs : List Text) (read : Text), Markup vs read.reverse →
      (splitPass.runFrom read t).flatMap Html.tags = vs ++ ws
      ∧ ∀ line ∈ splitPass.runFrom read t, IsMarkup line := by
    induction h with
    | nil =>
      intro vs read hread
      have hlast : splitPass.runFrom read [] = [read.reverse] := by
        rw [Transducer.runFrom_nil]
        rfl
      rw [hlast, List.flatMap_singleton, List.append_nil]
      exact ⟨hread.tags_eq, List.forall_mem_singleton.2 hread.isMarkup⟩
    | @char c ws t hc _ ih =>
      intro vs read hread
      rw [Transducer.runFrom_cons]
      by_cases hn : c = '\n'
      · have hstep : splitPass.step read c = ([], [read.reverse]) := by simp [splitPass, hn]
        obtain ⟨htags, hlines⟩ := ih hunbroken [] [] nil
        rw [hstep, List.singleton_append, List.flatMap_cons, htags, hread.tags_eq]
        exact ⟨rfl, List.forall_mem_cons.2 ⟨hread.isMarkup, hlines⟩⟩
      · have hstep : splitPass.step read c = (c :: read, []) := by simp [splitPass, hn]
        rw [hstep, List.nil_append]
        refine ih hunbroken vs (c :: read) ?_
        have hlonger := hread.append (of_isPlain (List.forall_mem_singleton.2 hc))
        rwa [List.append_nil, ← List.reverse_cons] at hlonger
    | @tag w ws t hw _ ih =>
      intro vs read hread
      obtain ⟨htag, hrest⟩ := List.forall_mem_cons.1 hunbroken
      have hlonger := hread.append (single hw)
      rw [← List.reverse_reverse w, ← List.reverse_append, List.reverse_reverse] at hlonger
      rw [hjoin w t read htag, List.append_cons]
      exact ih hrest (vs ++ [w]) (w.reverse ++ read) hlonger
  exact held [] [] nil

end Markup

namespace Markdown

/-! ## Markers -/

/-- Whether a text is what is left of a line, trimmed, when a marker that opens
no tag is dropped. -/
def IsBehindMarker (line t : Text) : Prop :=
  ∃ front rest, line = front ++ rest ∧ '<' ∉ front ∧ t = rest.trim

/-- Behind characters of one sort, none of which opens a tag, and a mark that
opens none, stands what is left of the line. -/
theorem isBehindMarker_of_after? {line mark rest : Text} {p : Char → Bool} (hp : p '<' = false)
    (hmark : '<' ∉ mark)
    (h : Text.after? mark (line.drop (line.takeWhile p).length) = some rest) :
    IsBehindMarker line rest.trim := by
  rw [Text.after?_eq_some_iff] at h
  refine ⟨line.takeWhile p ++ mark, rest, ?_, ?_, rfl⟩
  · rw [List.append_assoc, ← h]
    exact (List.prefix_iff_eq_append.1 (List.takeWhile_prefix p)).symm
  · rw [List.mem_append, not_or]
    refine ⟨fun hmem => ?_, hmark⟩
    rw [List.mem_takeWhile_imp hmem] at hp
    cases hp

theorem isBehindMarker_headingTitle? {line title : Text}
    (h : Line.headingTitle? line = some title) : IsBehindMarker line title := by
  unfold Line.headingTitle? at h
  dsimp only at h
  split at h
  · obtain ⟨rest, hrest, rfl⟩ := Option.map_eq_some_iff.1 h
    exact isBehindMarker_of_after? (by decide) (by decide) hrest
  · cases h

theorem isBehindMarker_numberedText? {line item : Text} (h : Line.numberedText? line = some item) :
    IsBehindMarker line item := by
  unfold Line.numberedText? at h
  dsimp only at h
  split at h
  · cases h
  · obtain ⟨rest, hrest, rfl⟩ := Option.map_eq_some_iff.1 h
    exact isBehindMarker_of_after? (by decide) (by decide) hrest

theorem isBehindMarker_bulletText? {line item : Text} (h : Line.bulletText? line = some item) :
    IsBehindMarker line item := by
  unfold Line.bulletText? at h
  split at h
  · rename_i marker rest
    split at h
    · rename_i hmarker
      cases h
      refine ⟨[marker, ' '], rest, rfl, ?_, rfl⟩
      simp only [List.mem_cons, List.not_mem_nil, not_or, or_false]
      refine ⟨?_, by decide⟩
      rintro rfl
      exact absurd hmarker (by decide)
    · cases h
  · cases h

theorem isBehindMarker_insetText? {line t : Text} (h : Line.insetText? line = some t) :
    IsBehindMarker line t := by
  unfold Line.insetText? at h
  split at h
  · rename_i rest
    cases h
    exact ⟨['^'], rest, rfl, by decide, rfl⟩
  · cases h

/-- A rule has no angle brackets. -/
theorem Line.isPlain_of_isRule {line : Text} (h : isRule line = true) : IsPlain line := by
  simp only [isRule, Bool.and_eq_true, Bool.or_eq_true, List.all_eq_true, beq_iff_eq] at h
  intro c hc
  rcases h.2 with (hall | hall) | hall <;>
  · rw [hall c hc]
    rfl

/-- **One line.**  The text of a trimmed line of markup, if it has one, is
markup, and the tags of the line are in it. -/
theorem Line.markup_ofTrimmed {ws : List Text} {line : Text} (h : Markup ws line) :
    (ofTrimmed line).collect Html.tags [] = ws ∧ (ofTrimmed line).All IsMarkup := by
  have htext : ∀ {t : Text}, Markup ws t → Html.tags t = ws ∧ IsMarkup t :=
    fun ht => ⟨ht.tags_eq, ht.isMarkup⟩
  have hbehind : ∀ {t : Text}, IsBehindMarker line t → Markup ws t := by
    rintro _ ⟨front, rest, hsplit, hfront, rfl⟩
    rw [hsplit] at h
    exact h.trim_behind hfront
  unfold Line.ofTrimmed
  split
  · rename_i hempty
    rw [List.isEmpty_iff.1 hempty] at h
    exact ⟨Markup.nil.unique h, trivial⟩
  split
  · rename_i hrule
    exact ⟨(Markup.of_isPlain (isPlain_of_isRule hrule)).unique h, trivial⟩
  cases hheading : Line.headingTitle? line with
  | some title => exact htext (hbehind (isBehindMarker_headingTitle? hheading))
  | none =>
    cases hbullet : Line.bulletText? line with
    | some item => exact htext (hbehind (isBehindMarker_bulletText? hbullet))
    | none =>
      cases hnumbered : Line.numberedText? line with
      | some item => exact htext (hbehind (isBehindMarker_numberedText? hnumbered))
      | none =>
        cases hinset : Line.insetText? line with
        | some t => exact htext (hbehind (isBehindMarker_insetText? hinset))
        | none => exact htext h

end Markdown

/-! ## Markup in blocks -/

/-- **Blocks.**  Where tags stand on one line, the texts in the blocks of markup
are markup, and have its tags, in order. -/
theorem Markup.blocks {ws : List Text} {t : Text} (hunbroken : ∀ w ∈ ws, '\n' ∉ w)
    (h : Markup ws t) :
    (Markdown.blocks t).flatMap (Markdown.Block.collect Html.tags []) = ws
      ∧ ∀ b ∈ Markdown.blocks t, b.All IsMarkup := by
  have hjoin : ∀ t u, IsMarkup t → IsMarkup u →
      Markup (Html.tags t ++ Html.tags u) (t ++ ' ' :: u) :=
    fun t u ht hu => ht.append (char rfl hu)
  obtain ⟨htags, hlines⟩ := h.lines hunbroken
  have hline : ∀ line ∈ linesOf t, (Markdown.Line.read line).collect Html.tags [] = Html.tags line
      ∧ (Markdown.Line.read line).All IsMarkup :=
    fun line hline => Markdown.Line.markup_ofTrimmed (hlines line hline).trim
  have hread : ∀ line ∈ (linesOf t).map Markdown.Line.read, line.All IsMarkup :=
    List.forall_mem_map.2 fun line hmem => (hline line hmem).2
  obtain ⟨hcollect, hall⟩ := Markdown.blockPass_runFrom_collect
    (fun t u ht hu => (hjoin t u ht hu).tags_eq) (fun t u ht hu => (hjoin t u ht hu).isMarkup)
    Markdown.OpenBlock.isFilled_none trivial hread
  refine ⟨?_, fun b hb => (hall b hb).2⟩
  refine hcollect.trans ?_
  rw [← htags, List.flatMap_map]
  exact List.flatMap_congr fun line hmem => (hline line hmem).1

namespace Markdown

/-! ## The tags of blocks -/

/-- The tags that blocks are written with. -/
def blockTags : List Text :=
  ["<h2 style=\"Margin: 0 0 20px 0; padding: 0; font-size: 27px; line-height: 35px; ".toList
      ++ "font-weight: bold; color: #0B0C0C;\">".toList,
    "</h2>".toList,
    "<p style=\"Margin: 0 0 20px 0; font-size: 19px; line-height: 25px; color: #0B0C0C;\">".toList,
    "<br />".toList,
    "</p>".toList,
    "<table role=\"presentation\" style=\"padding: 0 0 20px 0;\">".toList,
    "<tr>".toList,
    "<td style=\"font-family: Helvetica, Arial, sans-serif;\">".toList,
    "<ol style=\"Margin: 0 0 0 20px; padding: 0; list-style-type: decimal;\">".toList,
    "<ul style=\"Margin: 0 0 0 20px; padding: 0; list-style-type: disc;\">".toList,
    "<li style=\"Margin: 5px 0 5px; padding: 0 0 0 5px; font-size: 19px; line-height: 25px; ".toList
      ++ "color: #0B0C0C;\">".toList,
    "</li>".toList,
    "</ul>".toList,
    "</ol>".toList,
    "</td>".toList,
    "</tr>".toList,
    "</table>".toList,
    "<blockquote style=\"Margin: 0 0 20px 0; border-left: 10px solid #B1B4B6; ".toList
      ++ "padding: 15px 0 0.1px 15px; font-size: 19px; line-height: 25px;\">".toList,
    "</blockquote>".toList,
    "<hr style=\"border: 0; height: 1px; background: #B1B4B6; Margin: 30px 0 30px 0;\">".toList]

/-- The elements with a style that blocks are written with. -/
def styledElements : List (String × Text) :=
  [("h2", headingStyle), ("p", paragraphStyle), ("li", itemStyle), ("blockquote", insetStyle),
    ("ol", "Margin: 0 0 0 20px; padding: 0; list-style-type: ".toList ++ "decimal".toList ++ [';']),
    ("ul", "Margin: 0 0 0 20px; padding: 0; list-style-type: ".toList ++ "disc".toList ++ [';'])]

/-- The tag that opens an element with a style. -/
def openingTag (element : String) (style : Text) : Text :=
  '<' :: element.toList ++ " style=\"".toList ++ style ++ "\">".toList

/-- The tag that closes an element. -/
def closingTag (element : String) : Text :=
  "</".toList ++ element.toList ++ ['>']

/-- The tags of an element with a style, with those of its content. -/
def styledTags (element : String) (style : Text) (inner : List Text) : List Text :=
  openingTag element style :: (inner ++ [closingTag element])

/-- The tags of lines as a paragraph. -/
def paragraphTags (lines : List Text) : List Text :=
  styledTags "p" paragraphStyle (List.intercalate ["<br />".toList] (lines.map Html.tags))

/-- The tags in front of a list. -/
def listOpening : List Text :=
  ["<table role=\"presentation\" style=\"padding: 0 0 20px 0;\">".toList, "<tr>".toList,
    "<td style=\"font-family: Helvetica, Arial, sans-serif;\">".toList]

/-- The tags behind a list. -/
def listClosing : List Text :=
  ["</td>".toList, "</tr>".toList, "</table>".toList]

/-- The tags of items as a list. -/
def listTags (element kind : String) (items : List Text) : List Text :=
  listOpening
    ++ styledTags element
        ("Margin: 0 0 0 20px; padding: 0; list-style-type: ".toList ++ kind.toList ++ [';'])
        (items.flatMap fun item => styledTags "li" itemStyle (Html.tags item))
    ++ listClosing

/-- The tags of a block, with those of its texts. -/
def Block.tags : Block → List Text
  | .heading title => styledTags "h2" headingStyle (Html.tags title)
  | .paragraph lines => paragraphTags lines
  | .list true items => listTags "ol" "decimal" items
  | .list false items => listTags "ul" "disc" items
  | .inset lines => styledTags "blockquote" insetStyle (paragraphTags lines)
  | .rule => [openingTag "hr" ruleStyle]

/-- The two tags of these elements are tags of blocks. -/
theorem markup_styledElements : ∀ e ∈ styledElements,
    Markup [openingTag e.1 e.2] (openingTag e.1 e.2) ∧ openingTag e.1 e.2 ∈ blockTags
    ∧ Markup [closingTag e.1] (closingTag e.1) ∧ closingTag e.1 ∈ blockTags := by
  unfold styledElements headingStyle paragraphStyle itemStyle insetStyle openingTag closingTag
    blockTags
  simp only [List.forall_mem_cons]
  -- literals as lists of characters, which evaluate fast
  repeat rw [String.toList_ofList]
  decide +kernel

/-- The other parts of blocks have these tags. -/
theorem markup_blockParts :
    Markup ["<br />".toList] "<br />".toList
    ∧ Markup listOpening
      ("<table role=\"presentation\" style=\"padding: 0 0 20px 0;\"><tr>".toList
        ++ "<td style=\"font-family: Helvetica, Arial, sans-serif;\">".toList)
    ∧ Markup listClosing "</td></tr></table>".toList
    ∧ Markup [openingTag "hr" ruleStyle] (openingTag "hr" ruleStyle) := by
  unfold listOpening listClosing openingTag ruleStyle
  repeat rw [String.toList_ofList]
  decide +kernel

/-- The tags of these parts are tags of blocks. -/
theorem blockParts_subset :
    "<br />".toList ∈ blockTags ∧ listOpening ⊆ blockTags ∧ listClosing ⊆ blockTags
    ∧ openingTag "hr" ruleStyle ∈ blockTags := by
  unfold listOpening listClosing openingTag ruleStyle blockTags
  repeat rw [String.toList_ofList]
  decide +kernel

/-! ## Writing blocks -/

/-- An element has its two tags around those of its content. -/
theorem markup_styled {element : String} {style content : Text} {ws : List Text}
    (helement : (element, style) ∈ styledElements) (h : Markup ws content) :
    Markup (styledTags element style ws) (styled element style content) := by
  obtain ⟨hopening, -, hclosing, -⟩ := markup_styledElements _ helement
  have hwhole := hopening.append (h.append hclosing)
  have hstyled : styled element style content
      = openingTag element style ++ (content ++ closingTag element) := by
    unfold styled openingTag closingTag
    simp only [List.append_assoc]
  rw [hstyled]
  exact hwhole

theorem markup_paragraphHtml {lines : List Text} (h : ∀ line ∈ lines, IsMarkup line) :
    Markup (paragraphTags lines) (paragraphHtml lines) := by
  obtain ⟨hbreak, -⟩ := markup_blockParts
  have hlines : List.Forall₂ Markup (lines.map Html.tags) lines :=
    List.forall₂_map_left_iff.2 (List.forall₂_same.2 h)
  exact markup_styled (by simp [styledElements]) (.intercalate hbreak hlines)

/-- A list has its own tags around those of its items. -/
theorem markup_listHtml {element kind : String} {items : List Text}
    (helement : (element, "Margin: 0 0 0 20px; padding: 0; list-style-type: ".toList ++ kind.toList
      ++ [';']) ∈ styledElements)
    (h : ∀ item ∈ items, IsMarkup item) :
    Markup (listTags element kind items) (listHtml element kind items) := by
  have hitems : Markup (items.flatMap fun item => styledTags "li" itemStyle (Html.tags item))
      (items.flatMap (styled "li" itemStyle)) :=
    .flatMap fun item hitem => markup_styled (by simp [styledElements]) (h item hitem)
  obtain ⟨-, hstart, hend, -⟩ := markup_blockParts
  exact (hstart.append (markup_styled helement hitems)).append hend

/-- **One block.**  It has its own tags around those of its texts. -/
theorem markup_block {b : Block} (h : b.All IsMarkup) : Markup b.tags b.html := by
  cases b with
  | heading title => exact markup_styled (by simp [styledElements]) h
  | paragraph lines => exact markup_paragraphHtml h
  | list ordered items =>
    cases ordered with
    | true => exact markup_listHtml (by simp [styledElements]) h
    | false => exact markup_listHtml (by simp [styledElements]) h
  | inset lines => exact markup_styled (by simp [styledElements]) (markup_paragraphHtml h)
  | rule =>
    obtain ⟨-, -, -, hrule⟩ := markup_blockParts
    have hhtml : Block.rule.html = openingTag "hr" ruleStyle := by
      unfold Block.html openingTag
      repeat rw [String.toList_ofList]
      rfl
    rw [hhtml]
    exact hrule

/-! ## The tags of blocks and those of texts -/

/-- What is in lists with a further one in between is in that one or in one of them. -/
theorem mem_intercalate {α : Type} {a : α} {between : List α} {lists : List (List α)}
    (h : a ∈ List.intercalate between lists) : a ∈ between ∨ ∃ l ∈ lists, a ∈ l := by
  rw [List.intercalate] at h
  induction lists with
  | nil => exact absurd h List.not_mem_nil
  | cons l lists ih =>
    cases lists with
    | nil => exact Or.inr ⟨l, List.mem_cons_self, by simpa using h⟩
    | cons l' lists =>
      rw [List.intersperse_cons_cons, List.flatten_cons, List.flatten_cons, List.mem_append,
        List.mem_append] at h
      rcases h with hl | hbetween | hrest
      · exact Or.inr ⟨l, List.mem_cons_self, hl⟩
      · exact Or.inl hbetween
      · obtain hbetween | ⟨l'', hl'', ha⟩ := ih hrest
        · exact Or.inl hbetween
        · exact Or.inr ⟨l'', List.mem_cons_of_mem l hl'', ha⟩

/-- Lists with nothing in between are put together. -/
theorem intercalate_nil {α : Type} (lists : List (List α)) :
    List.intercalate [] lists = lists.flatten := by
  rw [List.intercalate]
  induction lists with
  | nil => rfl
  | cons l lists ih =>
    cases lists with
    | nil => rfl
    | cons l' lists =>
      rw [List.intersperse_cons_cons, List.flatten_cons, List.flatten_cons, ih, List.flatten_cons]
      rfl

theorem mem_styledTags {element : String} {style w : Text} {inner : List Text}
    (helement : (element, style) ∈ styledElements) (h : w ∈ styledTags element style inner) :
    w ∈ blockTags ∨ w ∈ inner := by
  obtain ⟨-, hopening, -, hclosing⟩ := markup_styledElements _ helement
  rcases List.mem_cons.1 h with rfl | h
  · exact Or.inl hopening
  rcases List.mem_append.1 h with h | h
  · exact Or.inr h
  · rw [List.mem_singleton.1 h]
    exact Or.inl hclosing

theorem mem_paragraphTags {lines : List Text} {w : Text} (h : w ∈ paragraphTags lines) :
    w ∈ blockTags ∨ w ∈ lines.flatMap Html.tags := by
  rcases mem_styledTags (by simp [styledElements]) h with hown | hinner
  · exact Or.inl hown
  rcases mem_intercalate hinner with hbreak | ⟨ws, hws, hw⟩
  · rw [List.mem_singleton.1 hbreak]
    exact Or.inl blockParts_subset.1
  · obtain ⟨line, hline, rfl⟩ := List.mem_map.1 hws
    exact Or.inr (List.mem_flatMap.2 ⟨line, hline, hw⟩)

theorem mem_listTags {element kind : String} {items : List Text} {w : Text}
    (helement : (element, "Margin: 0 0 0 20px; padding: 0; list-style-type: ".toList ++ kind.toList
      ++ [';']) ∈ styledElements)
    (h : w ∈ listTags element kind items) : w ∈ blockTags ∨ w ∈ items.flatMap Html.tags := by
  obtain ⟨-, hstart, hend, -⟩ := blockParts_subset
  rcases List.mem_append.1 h with h | h
  · rcases List.mem_append.1 h with h | h
    · exact Or.inl (hstart h)
    rcases mem_styledTags helement h with hown | hinner
    · exact Or.inl hown
    obtain ⟨item, hitem, hw⟩ := List.mem_flatMap.1 hinner
    rcases mem_styledTags (by simp [styledElements]) hw with hown | hw
    · exact Or.inl hown
    · exact Or.inr (List.mem_flatMap.2 ⟨item, hitem, hw⟩)
  · exact Or.inl (hend h)

/-- **Own tags.**  A tag of a block is one of those of blocks, or of its texts. -/
theorem Block.mem_tags {b : Block} {w : Text} (h : w ∈ b.tags) :
    w ∈ blockTags ∨ w ∈ b.collect Html.tags [] := by
  cases b with
  | heading title => exact mem_styledTags (by simp [styledElements]) h
  | paragraph lines => exact mem_paragraphTags h
  | list ordered items =>
    cases ordered with
    | true => exact mem_listTags (by simp [styledElements]) h
    | false => exact mem_listTags (by simp [styledElements]) h
  | inset lines =>
    rcases mem_styledTags (by simp [styledElements]) h with hown | hinner
    · exact Or.inl hown
    · exact mem_paragraphTags hinner
  | rule =>
    obtain ⟨-, -, -, hrule⟩ := blockParts_subset
    rw [List.mem_singleton.1 h]
    exact Or.inl hrule

end Markdown

/-- **Blocks.**  Where tags stand on one line, markup is written with the tags of
its blocks. -/
theorem Markup.markdown {ws : List Text} {t : Text} (hunbroken : ∀ w ∈ ws, '\n' ∉ w)
    (h : Markup ws t) :
    Markup ((Markdown.blocks t).flatMap Markdown.Block.tags) (Markdown.html t) := by
  obtain ⟨-, hall⟩ := h.blocks hunbroken
  have hlines : List.Forall₂ Markup ((Markdown.blocks t).map Markdown.Block.tags)
      ((Markdown.blocks t).map Markdown.Block.html) := by
    rw [List.forall₂_map_left_iff, List.forall₂_map_right_iff, List.forall₂_same]
    exact fun b hb => Markdown.markup_block (hall b hb)
  have hnewline : Markup [] ['\n'] := .of_isPlain (by decide)
  have hwhole := Markup.intercalate hnewline hlines
  rw [Markdown.intercalate_nil, ← List.flatMap_def] at hwhole
  exact hwhole

end MessageTemplate
