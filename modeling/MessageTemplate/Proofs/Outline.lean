/-
# The outline of a text

How a text is divided into blocks is decided by the markers at the starts of
its lines.  The outline of a text keeps these and cuts each line at its first
character that is no marker.  `Markdown.shapes_eq` says that the outline tells
the shape of every block: its kind and how many lines or items it has.
-/
import Mathlib
import MessageTemplate.Markdown.Block
import MessageTemplate.Proofs.Phrase
import MessageTemplate.Proofs.Runs

namespace MessageTemplate

/-- The blanks at the end of a text go with its last characters. -/
theorem Text.trimEnd_cons (c : Char) (t : Text) :
    trimEnd (c :: t) = if trimEnd t = [] ∧ isBlank c = true then [] else c :: trimEnd t := by
  unfold trimEnd
  rw [List.reverse_cons, List.dropWhile_append]
  by_cases hnil : t.reverse.dropWhile isBlank = []
  · by_cases hblank : isBlank c = true <;> simp [hnil, hblank]
  · simp [hnil]

namespace Markdown

/-! ## Shapes of blocks -/

/-- The kind of a block and the number of its lines or items. -/
inductive Shape
  | heading
  | paragraph (lines : Nat)
  | list (ordered : Bool) (items : Nat)
  | inset (lines : Nat)
  | rule
  deriving DecidableEq, Repr

/-- The shape of a block. -/
def Block.shape : Block → Shape
  | .heading _ => .heading
  | .paragraph lines => .paragraph lines.length
  | .list ordered items => .list ordered items.length
  | .inset lines => .inset lines.length
  | .rule => .rule

/-- The kind of a line, without its text. -/
inductive LineKind
  | blank
  | rule
  | heading
  | item (ordered : Bool)
  | inset
  | plain
  deriving DecidableEq, Repr

/-- The kind of a line. -/
def Line.kind : Line → LineKind
  | .blank => .blank
  | .rule => .rule
  | .heading _ => .heading
  | .item ordered _ => .item ordered
  | .inset _ => .inset
  | .plain _ => .plain

/-- The shape that an open block has when it is closed. -/
def OpenBlock.shape? : OpenBlock → Option Shape
  | .none => Option.none
  | .paragraph lines => some (.paragraph lines.length)
  | .list ordered items => some (.list ordered items.length)
  | .inset lines => some (.inset lines.length)

/-- The shape of an open list with one more item, or of a new list, and what is closed. -/
def addItemShape (shape? : Option Shape) (ordered : Bool) : Option Shape × List Shape :=
  match shape? with
  | some (.list ordered' items) =>
    if ordered' = ordered then (some (.list ordered (items + 1)), [])
    else (some (.list ordered 1), [.list ordered' items])
  | _ => (some (.list ordered 1), shape?.toList)

/-- The shape of an open block with one more plain line, or of a new paragraph. -/
def addLineShape : Option Shape → Option Shape
  | some (.paragraph lines) => some (.paragraph (lines + 1))
  | some (.inset lines) => some (.inset (lines + 1))
  | none => some (.paragraph 1)
  | shape? => shape?

/-- The pass that reads the kinds of lines as shapes of blocks. -/
def shapePass : Transducer (Option Shape) LineKind Shape where
  start := none
  step := fun shape? kind =>
    match kind with
    | .blank => (none, shape?.toList)
    | .rule => (none, shape?.toList ++ [.rule])
    | .heading => (none, shape?.toList ++ [.heading])
    | .item ordered => addItemShape shape? ordered
    | .inset => (some (.inset 1), shape?.toList)
    | .plain => (addLineShape shape?, [])
  finish := Option.toList

/-- An open block is closed with its shape. -/
theorem OpenBlock.map_shape_close (block : OpenBlock) :
    block.close.map Block.shape = block.shape?.toList := by
  cases block <;> simp [OpenBlock.close, OpenBlock.shape?, Block.shape]

/-- **One line.**  Its kind decides how the shapes go on. -/
theorem blockPass_step_shape (block : OpenBlock) (line : Line) :
    (blockPass.step block line).1.shape? = (shapePass.step block.shape? line.kind).1
    ∧ (blockPass.step block line).2.map Block.shape
      = (shapePass.step block.shape? line.kind).2 := by
  cases line with
  | blank => exact ⟨rfl, block.map_shape_close⟩
  | rule =>
    exact ⟨rfl, by simp [blockPass, shapePass, Line.kind, block.map_shape_close, Block.shape]⟩
  | heading title =>
    exact ⟨rfl, by simp [blockPass, shapePass, Line.kind, block.map_shape_close, Block.shape]⟩
  | inset t => exact ⟨rfl, block.map_shape_close⟩
  | item ordered item =>
    cases block with
    | list ordered' items =>
      by_cases h : ordered' = ordered <;>
        simp [blockPass, shapePass, Line.kind, OpenBlock.addItem, addItemShape, OpenBlock.shape?,
          OpenBlock.close, Block.shape, h]
    | none => exact ⟨rfl, rfl⟩
    | paragraph lines => exact ⟨rfl, OpenBlock.map_shape_close (.paragraph lines)⟩
    | inset lines => exact ⟨rfl, OpenBlock.map_shape_close (.inset lines)⟩
  | plain t =>
    refine ⟨?_, rfl⟩
    cases block with
    | list ordered items => cases items <;> rfl
    | _ => rfl

/-- **Blocks.**  The kinds of its lines decide the shapes of a text's blocks. -/
theorem map_shape_blocks (t : Text) :
    (blocks t).map Block.shape
      = shapePass.run ((linesOf t).map fun line => (Line.read line).kind) := by
  have held : ∀ (lines : List Line) (block : OpenBlock),
      (blockPass.runFrom block lines).map Block.shape
        = shapePass.runFrom block.shape? (lines.map Line.kind) := by
    intro lines
    induction lines with
    | nil =>
      intro block
      rw [List.map_nil, Transducer.runFrom_nil, Transducer.runFrom_nil]
      exact block.map_shape_close
    | cons line rest ih =>
      intro block
      obtain ⟨hnext, hwritten⟩ := blockPass_step_shape block line
      rw [List.map_cons, Transducer.runFrom_cons, Transducer.runFrom_cons, List.map_append, ih,
        hnext, hwritten]
  have hrun := held ((linesOf t).map Line.read) .none
  rw [List.map_map] at hrun
  exact hrun

/-! ## Markers -/

/-- Whether a character may stand in front of the text of a line: it is blank
or belongs to a marker. -/
def isMarker (c : Char) : Bool :=
  isBlank c || isDash c || c == '*' || c == '_' || c == '#' || c == '•' || c == '^' || c == '.'
    || c.isDigit

/-- A character that is no marker is none of them. -/
theorem isMarker_eq_false_iff {c : Char} :
    isMarker c = false ↔ isBlank c = false ∧ isDash c = false ∧ c ≠ '*' ∧ c ≠ '_' ∧ c ≠ '#'
      ∧ c ≠ '•' ∧ c ≠ '^' ∧ c ≠ '.' ∧ c.isDigit = false := by
  simp [isMarker, and_assoc]

/-- The front of a text up to its first character that is no marker, in place
of which a letter stands. -/
def outline : Text → Text
  | [] => []
  | c :: rest => if isMarker c then c :: outline rest else ['x']

/-- A text is its own outline, or its outline is cut at its first character
that is no marker. -/
theorem outline_cases (t : Text) :
    outline t = t ∨ ∃ front c rest, t = front ++ c :: rest ∧ isMarker c = false
      ∧ outline t = front ++ ['x'] := by
  induction t with
  | nil => exact Or.inl rfl
  | cons c t ih =>
    rw [outline]
    by_cases hc : isMarker c = true
    · rw [if_pos hc]
      rcases ih with hself | ⟨front, d, rest, rfl, hd, hcut⟩
      · rw [hself]
        exact Or.inl rfl
      · rw [hcut]
        exact Or.inr ⟨c :: front, d, rest, rfl, hd, rfl⟩
    · rw [if_neg hc]
      exact Or.inr ⟨[], c, t, rfl, Bool.eq_false_iff.2 hc, rfl⟩

/-- Only the empty text has an empty outline. -/
theorem outline_eq_nil_iff {t : Text} : outline t = [] ↔ t = [] := by
  cases t with
  | nil => simp [outline]
  | cons c t =>
    rw [outline]
    split <;> simp

/-! ## Trimming -/

/-- The outline of a text without the blanks at its start is its outline without them. -/
theorem outline_dropWhile (t : Text) :
    outline (t.dropWhile isBlank) = (outline t).dropWhile isBlank := by
  induction t with
  | nil => rfl
  | cons c t ih =>
    by_cases hblank : isBlank c = true
    · have hmarker : isMarker c = true := by simp [isMarker, hblank]
      rw [List.dropWhile_cons_of_pos hblank, outline, if_pos hmarker,
        List.dropWhile_cons_of_pos hblank, ih]
    · rw [List.dropWhile_cons_of_neg hblank, outline]
      split
      · rw [List.dropWhile_cons_of_neg hblank]
      · rfl

/-- The outline of a text without the blanks at its end is its outline without them. -/
theorem outline_trimEnd (t : Text) : outline t.trimEnd = (outline t).trimEnd := by
  induction t with
  | nil => rfl
  | cons c t ih =>
    by_cases hmarker : isMarker c = true
    · rw [outline, if_pos hmarker, Text.trimEnd_cons, Text.trimEnd_cons, ← ih]
      simp only [outline_eq_nil_iff]
      split
      · rfl
      · rw [outline, if_pos hmarker]
    · -- the first character that is no marker is not blank, so it stays
      have hblank := (isMarker_eq_false_iff.1 (Bool.eq_false_iff.2 hmarker)).1
      rw [Text.trimEnd_cons, if_neg (by simp [hblank]), outline, if_neg hmarker, outline,
        if_neg hmarker]
      rfl

/-- The outline of a trimmed text is its outline trimmed. -/
theorem outline_trim (t : Text) : outline t.trim = (outline t).trim := by
  rw [Text.trim, Text.trim, outline_trimEnd, outline_dropWhile]

/-! ## Kinds of lines -/

section Cut

variable {c : Char} (front rest : Text)

/-- A mark in front of a text ends before a character that is not in it. -/
theorem isSome_after?_cut {mark : Text} (hc : c ∉ mark) :
    (Text.after? mark (front ++ c :: rest)).isSome = (Text.after? mark front).isSome := by
  have hstarts : mark <+: front ++ c :: rest ↔ mark <+: front := by
    refine ⟨fun h => ?_, fun h => h.trans (List.prefix_append _ _)⟩
    rcases List.prefix_or_prefix_of_prefix h (List.prefix_append front (c :: rest)) with
      h' | ⟨more, rfl⟩
    · exact h'
    · rw [List.prefix_append_right_inj] at h
      cases more with
      | nil => simp
      | cons d more =>
        rw [List.cons_prefix_cons] at h
        exact absurd (by simp [h.1]) hc
  rw [← List.isPrefixOf_iff_prefix, ← List.isPrefixOf_iff_prefix, ← Bool.eq_iff_iff] at hstarts
  rw [Text.after?, Text.after?, hstarts]
  split <;> rfl

/-- A mark behind characters of one sort ends before a character of neither. -/
theorem isSome_after?_drop_cut {p : Char → Bool} {mark : Text} (hp : p c = false) (hc : c ∉ mark) :
    (Text.after? mark ((front ++ c :: rest).drop ((front ++ c :: rest).takeWhile p).length)).isSome
      = (Text.after? mark (front.drop (front.takeWhile p).length)).isSome := by
  rw [Text.takeWhile_append_cons hp front rest,
    List.drop_append_of_le_length (List.takeWhile_prefix p).length_le]
  exact isSome_after?_cut _ rest hc

variable (hc : isMarker c = false)
include hc

/-- A line with a character that is no marker is no rule. -/
theorem isRule_cut : Line.isRule (front ++ c :: rest) = false := by
  obtain ⟨-, hdash, hstar, hlow, -⟩ := isMarker_eq_false_iff.1 hc
  have hhyphen : c ≠ '-' := by rintro rfl; cases hdash
  simp [Line.isRule, hhyphen, hstar, hlow]

theorem isSome_headingTitle?_cut :
    (Line.headingTitle? (front ++ c :: rest)).isSome = (Line.headingTitle? front).isSome := by
  obtain ⟨hblank, -, -, -, hhash, -⟩ := isMarker_eq_false_iff.1 hc
  have hspace : c ∉ [' '] := by rw [List.mem_singleton]; rintro rfl; cases hblank
  have hafter := isSome_after?_drop_cut (p := (· == '#')) front rest (by simpa using hhash) hspace
  unfold Line.headingTitle?
  rw [Text.takeWhile_append_cons (by simpa using hhash) front rest] at hafter ⊢
  dsimp only
  split
  · rw [Option.isSome_map, Option.isSome_map, hafter]
  · rfl

theorem isSome_numberedText?_cut :
    (Line.numberedText? (front ++ c :: rest)).isSome = (Line.numberedText? front).isSome := by
  obtain ⟨hblank, -, -, -, -, -, -, hdot, hdigit⟩ := isMarker_eq_false_iff.1 hc
  have hmark : c ∉ ['.', ' '] := by
    rw [List.mem_cons, List.mem_singleton, not_or]
    refine ⟨hdot, ?_⟩
    rintro rfl
    cases hblank
  have hafter := isSome_after?_drop_cut (p := Char.isDigit) front rest hdigit hmark
  unfold Line.numberedText?
  rw [Text.takeWhile_append_cons hdigit front rest] at hafter ⊢
  dsimp only
  split
  · rfl
  · rw [Option.isSome_map, Option.isSome_map, hafter]

theorem isSome_bulletText?_cut :
    (Line.bulletText? (front ++ c :: rest)).isSome = (Line.bulletText? front).isSome := by
  obtain ⟨hblank, hdash, hstar, -, -, hbullet, -⟩ := isMarker_eq_false_iff.1 hc
  have hhyphen : c ≠ '-' := by rintro rfl; cases hdash
  have hspace : c ≠ ' ' := by rintro rfl; cases hblank
  cases front with
  | nil =>
    -- the character would be the marker itself
    unfold Line.bulletText?
    simp only [List.nil_append]
    split
    · simp_all
    · rfl
  | cons d front =>
    cases front with
    | nil =>
      -- the character stands in the place of the space
      rw [List.cons_append, List.nil_append, Line.bulletText?.eq_2 _ (by simp [hspace])]
      rfl
    | cons e front =>
      by_cases he : e = ' '
      · subst he
        simp only [List.cons_append, Line.bulletText?]
        split <;> rfl
      · rw [List.cons_append, List.cons_append, Line.bulletText?.eq_2 _ (by simp [he]),
          Line.bulletText?.eq_2 _ (by simp [he])]

theorem isSome_insetText?_cut :
    (Line.insetText? (front ++ c :: rest)).isSome = (Line.insetText? front).isSome := by
  obtain ⟨-, -, -, -, -, -, hcaret, -⟩ := isMarker_eq_false_iff.1 hc
  cases front with
  | nil =>
    rw [List.nil_append, Line.insetText?.eq_2 _ (by simp [hcaret])]
    rfl
  | cons d front =>
    by_cases hd : d = '^'
    · rw [hd]
      rfl
    · rw [List.cons_append, Line.insetText?.eq_2 _ (by simp [hd]),
        Line.insetText?.eq_2 _ (by simp [hd])]

end Cut

/-- The kind of a trimmed line, marker by marker. -/
theorem kind_ofTrimmed (line : Text) :
    (Line.ofTrimmed line).kind
      = if line.isEmpty then .blank
        else if Line.isRule line then .rule
        else if (Line.headingTitle? line).isSome then .heading
        else if (Line.bulletText? line).isSome then .item false
        else if (Line.numberedText? line).isSome then .item true
        else if (Line.insetText? line).isSome then .inset
        else .plain := by
  unfold Line.ofTrimmed
  split
  · rfl
  split
  · rfl
  cases Line.headingTitle? line <;> cases Line.bulletText? line <;>
    cases Line.numberedText? line <;> cases Line.insetText? line <;> rfl

/-- **Lines.**  The outline of a line tells its kind. -/
theorem kind_read_outline (line : Text) :
    (Line.read (outline line)).kind = (Line.read line).kind := by
  rw [Line.read, Line.read, ← outline_trim]
  rcases outline_cases line.trim with hself | ⟨front, c, rest, hline, hc, hcut⟩
  · rw [hself]
  · have hx : isMarker 'x' = false := by decide
    rw [hcut, hline, kind_ofTrimmed, kind_ofTrimmed]
    simp only [isRule_cut front _ hc, isRule_cut front _ hx, isSome_headingTitle?_cut front _ hc,
      isSome_headingTitle?_cut front _ hx, isSome_bulletText?_cut front _ hc,
      isSome_bulletText?_cut front _ hx, isSome_numberedText?_cut front _ hc,
      isSome_numberedText?_cut front _ hx, isSome_insetText?_cut front _ hc,
      isSome_insetText?_cut front _ hx]
    simp

/-! ## Outlines of whole texts -/

/-- The pass that writes the outline of every line.  Its state says whether
the line was cut. -/
def outlinePass : Transducer Bool Char Char where
  start := false
  step := fun cut c =>
    if c = '\n' then (false, ['\n'])
    else if cut then (true, [])
    else if isMarker c then (false, [c])
    else (true, ['x'])
  finish := fun _ => []

/-- A text in which every line is in outline. -/
def outlines (t : Text) : Text :=
  outlinePass.run t

/-- A line break is written, and the next line is not cut. -/
theorem outlinePass_newline (cut : Bool) (t : Text) :
    outlinePass.runFrom cut ('\n' :: t) = '\n' :: outlinePass.runFrom false t := by
  rw [Transducer.runFrom_cons]
  rfl

/-- Nothing is written of the rest of a cut line. -/
theorem outlinePass_cut {c : Char} (hc : c ≠ '\n') (t : Text) :
    outlinePass.runFrom true (c :: t) = outlinePass.runFrom true t := by
  rw [Transducer.runFrom_cons]
  simp [outlinePass, hc]

/-- A marker is written. -/
theorem outlinePass_marker {c : Char} (hc : c ≠ '\n') (hmarker : isMarker c = true) (t : Text) :
    outlinePass.runFrom false (c :: t) = c :: outlinePass.runFrom false t := by
  rw [Transducer.runFrom_cons]
  simp [outlinePass, hc, hmarker]

/-- A line is cut at its first character that is no marker. -/
theorem outlinePass_plain {c : Char} (hmarker : isMarker c = false) (t : Text) :
    outlinePass.runFrom false (c :: t) = 'x' :: outlinePass.runFrom true t := by
  have hc : c ≠ '\n' := by rintro rfl; cases hmarker
  rw [Transducer.runFrom_cons]
  simp [outlinePass, hc, hmarker]

/-- Nothing is written of a text that goes on a cut line and does not end it. -/
theorem outlinePass_cut_append {w : Text} (hw : '\n' ∉ w) (t : Text) :
    outlinePass.runFrom true (w ++ t) = outlinePass.runFrom true t := by
  induction w with
  | nil => rfl
  | cons c w ih =>
    rw [List.mem_cons, not_or] at hw
    rw [List.cons_append, outlinePass_cut (Ne.symm hw.1), ih hw.2]

/-- Markers within a line are written as they are. -/
theorem outlinePass_marker_append {w : Text} (hw : ∀ c ∈ w, c ≠ '\n' ∧ isMarker c = true)
    (t : Text) : outlinePass.runFrom false (w ++ t) = w ++ outlinePass.runFrom false t := by
  induction w with
  | nil => rfl
  | cons c w ih =>
    obtain ⟨hn, hmarker⟩ := hw c List.mem_cons_self
    rw [List.cons_append, outlinePass_marker hn hmarker,
      ih fun d hd => hw d (List.mem_cons_of_mem c hd)]
    rfl

/-- At a line break the line read so far is complete. -/
theorem splitPass_newline (line t : Text) :
    splitPass.runFrom line ('\n' :: t) = line.reverse :: splitPass.runFrom [] t := by
  rw [Transducer.runFrom_cons]
  rfl

/-- Any other character belongs to the line. -/
theorem splitPass_char {c : Char} (hc : c ≠ '\n') (line t : Text) :
    splitPass.runFrom line (c :: t) = splitPass.runFrom (c :: line) t := by
  rw [Transducer.runFrom_cons]
  simp [splitPass, hc]

/-- Whether a character before the end of a text is no marker, so that the
outline does not reach the end. -/
def isCut (t : Text) : Bool :=
  t.any fun c => !isMarker c

/-- A further character is in the outline unless the text was cut before it. -/
theorem outline_concat (t : Text) (c : Char) :
    outline (t ++ [c])
      = if isCut t then outline t else outline t ++ [if isMarker c then c else 'x'] := by
  induction t with
  | nil =>
    show (if isMarker c then c :: outline [] else ['x']) = [if isMarker c then c else 'x']
    split <;> rfl
  | cons d t ih =>
    rw [List.cons_append, outline, outline, ih, isCut, isCut, List.any_cons]
    by_cases hd : isMarker d = true
    · simp only [hd, if_true, Bool.not_true, Bool.false_or]
      split <;> rfl
    · simp [hd]

/-- The lines of an outline are the outlines of the lines. -/
theorem linesOf_outlines (t : Text) : linesOf (outlines t) = (linesOf t).map outline := by
  -- the line read so far is in outline on the one side, and cut if that is shorter
  have held : ∀ (t line : Text),
      splitPass.runFrom (outline line.reverse).reverse
          (outlinePass.runFrom (isCut line.reverse) t)
        = (splitPass.runFrom line t).map outline := by
    intro t
    induction t with
    | nil =>
      intro line
      simp [outlinePass, splitPass]
    | cons c t ih =>
      intro line
      by_cases hc : c = '\n'
      · rw [hc, outlinePass_newline, splitPass_newline, splitPass_newline, List.map_cons, ← ih []]
        simp [outline, isCut]
      · have hnext := ih (c :: line)
        have hisCut : isCut (line.reverse ++ [c]) = (isCut line.reverse || !isMarker c) := by
          simp [isCut]
        rw [List.reverse_cons, outline_concat, hisCut] at hnext
        rw [splitPass_char hc, ← hnext]
        cases hcut : isCut line.reverse with
        | true =>
          rw [outlinePass_cut hc]
          rfl
        | false =>
          cases hmarker : isMarker c with
          | true =>
            rw [outlinePass_marker hc hmarker, splitPass_char hc]
            simp
          | false =>
            rw [outlinePass_plain hmarker, splitPass_char (by decide)]
            simp
  exact held t []

/-- **Shapes.**  Texts with the same outline have blocks of the same shapes. -/
theorem shapes_eq {t u : Text} (h : outlines t = outlines u) :
    (blocks t).map Block.shape = (blocks u).map Block.shape := by
  have hlines : (linesOf t).map outline = (linesOf u).map outline := by
    rw [← linesOf_outlines, ← linesOf_outlines, h]
  have hkinds : ∀ t : Text, (linesOf t).map (fun line => (Line.read line).kind)
      = ((linesOf t).map outline).map fun line => (Line.read line).kind := by
    intro t
    rw [List.map_map]
    apply List.map_congr_left
    intro line _
    exact (kind_read_outline line).symm
  rw [map_shape_blocks, map_shape_blocks, hkinds, hkinds, hlines]

end Markdown

end MessageTemplate
