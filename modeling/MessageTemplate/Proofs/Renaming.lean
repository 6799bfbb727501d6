/-
# Names of placeholders without a value

A placeholder without a value is left out where a message is measured, and
counts for one character.  So it makes no difference what it is called.  A
renaming may change such names in a template and in the text of each of its
conditionals (`Renamed`).  It is read as it was made, since the other brackets
pair up as before (`Renamed.exists_reading`), and it is measured as the template
was (`Message.size_ignores_unresolved_names`).
-/
import Mathlib
import MessageTemplate.Message.Basic
import MessageTemplate.Proofs.Rewording
import MessageTemplate.Proofs.Segments
import MessageTemplate.Proofs.Substitution

namespace MessageTemplate

/-! ## Renamed templates -/

/-- A conditional with another text of its own. -/
def Placeholder.withText (p : Placeholder) (shown : Text) : Placeholder :=
  ⟨p.writtenName ++ separator ++ shown⟩

@[simp] theorem Placeholder.body_withText (p : Placeholder) (shown : Text) :
    (p.withText shown).body = p.writtenName ++ separator ++ shown := rfl

/-- The texts that are written as some segments, but for the names of
placeholders that show a value and have none. -/
inductive Renamed (values : Personalisation) : List Segment → Text → Prop
  | nil : Renamed values [] []
  /-- Literal text stays as it is. -/
  | text (literal : Text) {l : List Segment} {u : Text} : Renamed values l u →
      Renamed values (.text literal :: l) (literal ++ u)
  /-- A placeholder may stay as it is. -/
  | kept (p : Placeholder) {l : List Segment} {u : Text} : Renamed values l u →
      Renamed values (.placeholder p :: l) (p.source ++ u)
  /-- A placeholder without a condition and without a value may get another
  name that has no value. -/
  | value {p q : Placeholder} {l : List Segment} {u : Text} :
      p.isConditional = false → values.get? p.name = none →
      IsName q.body → values.get? q.name = none → Renamed values l u →
      Renamed values (.placeholder p :: l) (q.source ++ u)
  /-- The text of a conditional may be changed in the same way. -/
  | conditional {p : Placeholder} {shown shown' : Text} {l : List Segment} {u : Text} :
      p.conditionalText? = some shown → Renamed values (segments shown) shown' →
      Renamed values l u →
      Renamed values (.placeholder p :: l) ((p.withText shown').source ++ u)

/-! ## Conditional texts -/

/-- What stands behind the first occurrence of a mark makes no difference to it. -/
theorem Text.cut_append {mark before after : Text} (hmark : mark ≠ [])
    (h : cut mark (before ++ mark ++ after) = some (before, after)) (after' : Text) :
    cut mark (before ++ mark ++ after') = some (before, after') := by
  induction before with
  | nil =>
    obtain ⟨c, rest, rfl⟩ := List.exists_cons_of_ne_nil hmark
    rw [List.nil_append, List.cons_append, cut_cons_of_found]
    · simp
    · exact List.isPrefixOf_iff_prefix.2 (List.prefix_append (c :: rest) after')
  | cons c before ih =>
    rw [List.cons_append, List.cons_append] at h ⊢
    -- whether the mark stands at the first character is told by what ends with it
    have hsame : ∀ x, mark.isPrefixOf (c :: (before ++ mark ++ x))
        = mark.isPrefixOf (c :: (before ++ mark)) := by
      intro x
      rw [Bool.eq_iff_iff, List.isPrefixOf_iff_prefix, List.isPrefixOf_iff_prefix]
      have hfront : c :: (before ++ mark) <+: c :: (before ++ mark ++ x) :=
        List.prefix_append (c :: (before ++ mark)) x
      constructor
      · intro hmark
        refine List.prefix_of_prefix_length_le hmark hfront ?_
        simp only [List.length_cons, List.length_append]
        omega
      · intro hmark
        exact hmark.trans hfront
    cases hfirst : mark.isPrefixOf (c :: (before ++ mark)) with
    | true =>
      rw [cut_cons_of_found ((hsame after).trans hfirst)] at h
      simp at h
    | false =>
      rw [cut_cons_of_later ((hsame after).trans hfirst)] at h
      obtain ⟨parts, hparts, heq⟩ := Option.map_eq_some_iff.1 h
      simp only [Prod.mk.injEq, List.cons.injEq, true_and] at heq
      have hrest : cut mark (before ++ mark ++ after) = some (before, after) := by
        rw [hparts, ← heq.1, ← heq.2]
      rw [cut_cons_of_later ((hsame after').trans hfirst), ih hrest]
      rfl

namespace Placeholder

variable {p : Placeholder} {shown : Text} (h : p.conditionalText? = some shown)
include h

/-- With another text of its own, a conditional is cut at the same place. -/
theorem cut_withText (shown' : Text) :
    Text.cut separator (p.withText shown').body = some (p.writtenName, shown') := by
  have hcut := cut_body h
  rw [body_eq h] at hcut
  exact Text.cut_append (by decide) hcut shown'

/-- It has that text. -/
theorem conditionalText?_withText (shown' : Text) :
    (p.withText shown').conditionalText? = some shown' := by
  rw [conditionalText?, cut_withText h]
  rfl

/-- Its name is the same. -/
theorem name_withText (shown' : Text) : (p.withText shown').name = p.name := by
  rw [name, writtenName, cut_withText h]
  rfl

end Placeholder

/-! ## Reading a renamed template -/

/-- Both of two words are names. -/
def AreNames (w w' : Text) : Prop :=
  IsName w ∧ IsName w'

theorem relatesBracketFree_areNames : RelatesBracketFree AreNames :=
  fun _ _ h => ⟨h.1.bracketFree, h.2.bracketFree⟩

/-- A conditional whose text is reworded is a placeholder still. -/
theorem Placeholder.isBody_withText {p : Placeholder} {shown shown' : Text} (hp : IsBody p.body)
    (h : p.conditionalText? = some shown) (hshown : Reworded AreNames shown shown') :
    IsBody (p.withText shown').body := by
  have hbalanced := hp.balanced
  rw [body_eq h] at hbalanced
  constructor
  · exact hbalanced.reworded relatesBracketFree_areNames (hshown.append_left _)
  · simp [separator]
  · exact bracketsBehindSeparator_append (bracketFree_writtenName hp)
      (List.suffix_append _ _).isInfix shown'

namespace Renamed

variable {values : Personalisation} {l : List Segment} {t u : Text}

/-- A renaming changes names between double brackets, and nothing else. -/
theorem reworded (h : Renamed values l u) (hread : Reading t l) : Reworded AreNames t u := by
  induction h generalizing t with
  | nil =>
    cases hread
    exact .nil
  | text literal _ ih =>
    cases hread with
    | text _ _ _ hrest => exact (ih hrest).append_left literal
  | kept p _ ih =>
    cases hread with
    | placeholder _ hrest => exact (ih hrest).append_left p.source
  | @value p q _ _ hp _ hq _ _ ih =>
    cases hread with
    | placeholder hbody hrest =>
      have hword := Reworded.word (R := AreNames) ⟨Placeholder.isName_body hbody hp, hq⟩ (ih hrest)
      simpa [Placeholder.source] using hword
  | @conditional p shown shown' _ _ hp _ _ ihshown ih =>
    cases hread with
    | placeholder hbody hrest =>
      have hinner : Reworded AreNames shown shown' := ihshown (reading_segments shown)
      have hbehind := hinner.append ((ih hrest).append_left [')', ')'])
      have hwhole := hbehind.append_left
        ('(' :: '(' :: (p.writtenName ++ Placeholder.separator))
      simpa [Placeholder.source, Placeholder.body_eq hp] using hwhole

/-- Literal text is final in front of a renamed text if it was in front of the
template. -/
theorem not_startsPlaceholder {rest : Text} (h : Renamed values l u) (hread : Reading rest l)
    {after : Text} (hfinal : ¬ StartsPlaceholder (after ++ rest)) :
    ¬ StartsPlaceholder (after ++ u) := by
  intro hstart
  apply hfinal
  exact hstart.of_reworded relatesBracketFree_areNames (fun _ _ hw => hw.1.ne_nil)
    ((h.reworded hread).append_left after)

/-- Where a template ends or a placeholder starts, the renamed text does too. -/
theorem ends_or_starts {rest : Text} (h : Renamed values l u) (hread : Reading rest l)
    (hend : rest = [] ∨ StartsPlaceholder rest) : u = [] ∨ StartsPlaceholder u := by
  have hreworded := h.reworded hread
  rcases hend with rfl | hstart
  · exact Or.inl hreworded.of_nil
  · right
    exact hstart.of_reworded (fun w w' hw => (relatesBracketFree_areNames w' w hw).symm)
      (fun _ _ hw => hw.2.ne_nil) hreworded.symm

end Renamed

/-! ## Nodes of one size -/

/-- Two rows of nodes are written alike where missing names are left out, and
as many names are missing from them. -/
structure SizedAlike (values : Personalisation) (nodes nodes' : List Node) : Prop where
  written : ∀ s : Substitution, s.redactMissing = true →
    s.writeNodes values nodes = s.writeNodes values nodes'
  missing : (nodes.flatMap (Node.missing values)).length
    = (nodes'.flatMap (Node.missing values)).length

namespace SizedAlike

variable {values : Personalisation} {nodes nodes' : List Node}

theorem nil : SizedAlike values [] [] :=
  ⟨fun _ _ => rfl, rfl⟩

/-- Nodes of one size may stand in front. -/
theorem cons {n n' : Node}
    (hwritten : ∀ s : Substitution, s.redactMissing = true →
      s.writeNode values n = s.writeNode values n')
    (hmissing : (n.missing values).length = (n'.missing values).length)
    (h : SizedAlike values nodes nodes') : SizedAlike values (n :: nodes) (n' :: nodes') := by
  constructor
  · intro s hs
    have hrest := h.written s hs
    unfold Substitution.writeNodes at hrest ⊢
    rw [List.flatMap_cons, List.flatMap_cons, hwritten s hs, hrest]
  · rw [List.flatMap_cons, List.flatMap_cons, List.length_append, List.length_append, hmissing,
      h.missing]

/-- The same node may stand in front. -/
theorem cons_self (n : Node) (h : SizedAlike values nodes nodes') :
    SizedAlike values (n :: nodes) (n :: nodes') :=
  cons (fun _ _ => rfl) rfl h

/-- Placeholders without a value may stand in front, whatever they are called. -/
theorem cons_value {name name' : Text} (hname : values.get? name = none)
    (hname' : values.get? name' = none) (h : SizedAlike values nodes nodes') :
    SizedAlike values (.value name :: nodes) (.value name' :: nodes') := by
  refine cons (fun s hs => ?_) ?_ h
  · have hnothing : ∀ other, values.get? other = none → s.writeNode values (.value other) = [] := by
      intro other hother
      rw [Substitution.writeNode, Substitution.writeValue, hother]
      exact Substitution.missing_of_redactMissing hs other
    rw [hnothing name hname, hnothing name' hname']
  · rw [Node.missing, Node.missing, hname, hname']
    rfl

/-- Conditionals of one name may stand in front if they show nodes of one size. -/
theorem cons_conditional (name : Text) {shown shown' : List Node}
    (hshown : SizedAlike values shown shown') (h : SizedAlike values nodes nodes') :
    SizedAlike values (.conditional name shown :: nodes) (.conditional name shown' :: nodes') := by
  refine cons (fun s hs => ?_) ?_ h
  · rw [Substitution.writeNode, Substitution.writeNode]
    congr 1
    exact hshown.written s hs
  · rw [Node.missing, Node.missing]
    split
    · exact hshown.missing
    · rfl

end SizedAlike

namespace Renamed

variable {values : Personalisation} {l : List Segment} {t u : Text}

/-- **A renamed text is read as it was made**, and its nodes have the size of
those of the template. -/
theorem exists_reading (h : Renamed values l u) (hread : Reading t l) :
    ∃ l', Reading u l' ∧ SizedAlike values (l.map Segment.node) (l'.map Segment.node) := by
  induction h generalizing t with
  | nil => exact ⟨[], .done, .nil⟩
  | @text literal l u h ih =>
    cases hread with
    | @text _ rest _ hne hfinal hend hrest =>
      obtain ⟨l', hl', hsize⟩ := ih hrest
      refine ⟨.text literal :: l', .text hne ?_ (h.ends_or_starts hrest hend) hl', ?_⟩
      · intro before after hsplit hafter
        exact h.not_startsPlaceholder hrest (hfinal before after hsplit hafter)
      · exact hsize.cons_self (.text literal)
  | kept p h ih =>
    cases hread with
    | placeholder hp hrest =>
      obtain ⟨l', hl', hsize⟩ := ih hrest
      exact ⟨.placeholder p :: l', .placeholder hp hl', hsize.cons_self _⟩
  | @value p q l u hp hvalue hq hvalue' h ih =>
    cases hread with
    | placeholder _ hrest =>
      obtain ⟨l', hl', hsize⟩ := ih hrest
      refine ⟨.placeholder q :: l', .placeholder hq.isBody hl', ?_⟩
      have hq' := Placeholder.isConditional_eq_false_iff.2 hq.unseparated
      rw [List.map_cons, List.map_cons, Segment.node_of_not_conditional hp,
        Segment.node_of_not_conditional hq']
      exact hsize.cons_value hvalue hvalue'
  | @conditional p shown shown' l u hp hshown h ihshown ih =>
    cases hread with
    | placeholder hbody hrest =>
      have hinner : Reading shown (segments shown) := reading_segments shown
      obtain ⟨l', hl', hsize⟩ := ih hrest
      obtain ⟨inner, hinner', hsizeshown⟩ := ihshown hinner
      rw [← segments_of_reading hinner', ← Node.read_eq, ← Node.read_eq] at hsizeshown
      have hbody' := Placeholder.isBody_withText hbody hp (hshown.reworded hinner)
      refine ⟨.placeholder (p.withText shown') :: l', .placeholder hbody' hl', ?_⟩
      rw [List.map_cons, List.map_cons, Segment.node_of_conditional hp,
        Segment.node_of_conditional (Placeholder.conditionalText?_withText hp shown'),
        Placeholder.name_withText hp]
      exact hsizeshown.cons_conditional p.name hsize

end Renamed

/-! ## Sizes -/

/-- A draft with another content. -/
def Draft.withContent (d : Draft) (content : Text) : Draft :=
  { d with spec := { d.spec with content := content } }

/-- A message with another content. -/
def Message.withContent (m : Message) (content : Text) : Message :=
  { m with draft := m.draft.withContent content }

/-- A renamed template is measured as the template is. -/
theorem Draft.measured_withContent {d : Draft} {content : Text}
    (h : Renamed d.values (segments d.spec.content) content) :
    Measured.ofDraft (d.withContent content) = Measured.ofDraft d := by
  obtain ⟨l, hl, hsize⟩ := h.exists_reading (reading_segments _)
  rw [← segments_of_reading hl, ← Node.read_eq, ← Node.read_eq] at hsize
  have hmissing : (missingNames d.values content).length
      = (missingNames d.values d.spec.content).length := hsize.missing.symm
  have hwritten : ∀ s : Substitution, s.redactMissing = true →
      s.render d.values content = s.render d.values d.spec.content :=
    fun s hs => (hsize.written s hs).symm
  unfold Measured.ofDraft
  congr 1
  · dsimp only
    congr 2
    exact hwritten _ rfl
  · rw [Substitution.unresolvedCount_eq, Substitution.unresolvedCount_eq]
    congr 1

/-- **Names without a value.**  The sizes of a text message or broadcast, of any
kind, are those of the message in which placeholders without a value have other
names without a value, at any depth: its characters, its encoding and units, its
parts, and whether it is empty or too long. -/
theorem Message.size_ignores_unresolved_names (m : Message) (content : Text)
    (hkind : m.kind.channel ≠ .email)
    (h : Renamed m.draft.values (segments m.draft.spec.content) content) :
    let m' := m.withContent content
    m'.characters = m.characters ∧ m'.length? = m.length? ∧ m'.parts? = m.parts?
      ∧ m'.isEmpty = m.isEmpty ∧ m'.isTooLong = m.isTooLong := by
  obtain ⟨kind, d⟩ := m
  intro m'
  have hmeasured : Measured.ofDraft (d.withContent content) = Measured.ofDraft d :=
    Draft.measured_withContent h
  have hnamed : (d.withContent content).smsMeasured = d.smsMeasured := by
    rw [Draft.smsMeasured, Draft.smsMeasured, hmeasured]
    rfl
  have hlength : (d.withContent content).broadcastLength = d.broadcastLength := by
    rw [Draft.broadcastLength, Draft.broadcastLength, hmeasured]
  have hlong : (d.withContent content).broadcastIsTooLong = d.broadcastIsTooLong := by
    unfold Draft.broadcastIsTooLong
    rw [hlength]
  -- all that is asked about these kinds is asked of the measured body
  cases hchannel : kind.channel with
  | email => exact absurd hchannel hkind
  | sms =>
    simp only [m', withContent, characters, length?, parts?, isEmpty, isTooLong, hchannel,
      Draft.smsParts, Draft.smsIsEmpty, Draft.smsIsTooLong, hmeasured, hnamed, and_self]
  | broadcast =>
    simp only [m', withContent, characters, length?, parts?, isEmpty, isTooLong, hchannel,
      Draft.broadcastParts, Draft.broadcastIsEmpty, hmeasured, hlength, hlong, and_self]

/-- Names without a value are changed in a text that is shown, in one that is
hidden, and outside both. -/
theorem Message.size_ignores_names_in_conditionals :
    let m : Message := ⟨.smsPreview, ⟨⟨"Hi (( a )), ((c??see ((b)) in ((d??((e))))))((c))".toList,
      none, .sms⟩, {}, .ofList [(['c'], .flag true)]⟩⟩
    let content := "Hi ((Ж…)), ((c??see ((long name)) in ((d??((?))))))((c))".toList
    m.kind.channel ≠ .email ∧ Renamed m.draft.values (segments m.draft.spec.content) content
      ∧ (m.withContent content).characters = 18
      ∧ (m.withContent content).length? = some ⟨18, 18, .gsm7⟩
      ∧ (m.withContent content).parts? = some 1
      ∧ (m.withContent content).isEmpty = false ∧ (m.withContent content).isTooLong = false := by
  intro m content
  have hsegments : segments m.draft.spec.content
      = [.text "Hi ".toList, .placeholder ⟨" a ".toList⟩, .text ", ".toList,
        .placeholder ⟨"c??see ((b)) in ((d??((e))))".toList⟩, .placeholder ⟨['c']⟩] := by cbv
  have hshown : segments "see ((b)) in ((d??((e))))".toList
      = [.text "see ".toList, .placeholder ⟨['b']⟩, .text " in ".toList,
        .placeholder ⟨"d??((e))".toList⟩] := by cbv
  have hhidden : segments "((e))".toList = [.placeholder ⟨['e']⟩] := by cbv
  have hname : ∀ w : Text, w ≠ [] ∧ IsBracketFree w ∧ Text.cut Placeholder.separator w = none →
      IsName w := fun w hw => ⟨hw.1, hw.2.1, Text.cut_eq_none_iff.1 hw.2.2⟩
  -- from the inside out: the hidden text, the shown text, the whole content
  let hidden : Text := (Placeholder.mk ['?']).source ++ []
  let shown : Text := "see ".toList ++ ((Placeholder.mk "long name".toList).source
    ++ (" in ".toList ++ (((Placeholder.mk "d??((e))".toList).withText hidden).source ++ [])))
  have hcontent : content = "Hi ".toList ++ ((Placeholder.mk "Ж…".toList).source ++ (", ".toList
      ++ (((Placeholder.mk "c??see ((b)) in ((d??((e))))".toList).withText shown).source
        ++ ((Placeholder.mk ['c']).source ++ [])))) := by decide +kernel
  have hinner : Renamed m.draft.values (segments "((e))".toList) hidden := by
    rw [hhidden]
    exact .value rfl rfl (hname _ (by decide)) rfl .nil
  have hmiddle : Renamed m.draft.values (segments "see ((b)) in ((d??((e))))".toList) shown := by
    rw [hshown]
    exact .text _ (.value rfl rfl (hname _ (by decide)) rfl
      (.text _ (.conditional rfl hinner .nil)))
  have hrenamed : Renamed m.draft.values (segments m.draft.spec.content) content := by
    rw [hsegments, hcontent]
    exact .text _ (.value rfl rfl (hname _ (by decide)) rfl
      (.text _ (.conditional rfl hmiddle (.kept _ .nil))))
  have hmeasured : Measured.ofDraft m.draft = ⟨"Hi , see in true".toList, 2⟩ := by cbv
  have hlength : m.draft.smsMeasured.length = ⟨18, 18, .gsm7⟩ := by
    show (Measured.ofDraft m.draft).length = _
    rw [hmeasured]
    decide +kernel
  obtain ⟨hcharacters, hunits, hparts, hempty, hlong⟩ :=
    size_ignores_unresolved_names m content (by decide) hrenamed
  refine ⟨by decide, hrenamed, hcharacters.trans ?_, hunits.trans ?_, hparts.trans ?_,
    hempty.trans ?_, hlong.trans ?_⟩
  · show (Measured.ofDraft m.draft).characters = 18
    rw [hmeasured]
    rfl
  · exact congrArg some hlength
  · show some (Gsm.smsParts m.draft.smsMeasured.length.units _) = _
    rw [hlength]
    decide
  · show ((Measured.ofDraft m.draft).characters == 0) = false
    rw [hmeasured]
    rfl
  · show decide (Gsm.characterLimit < (Measured.ofDraft m.draft).characters) = false
    rw [hmeasured]
    decide

end MessageTemplate
