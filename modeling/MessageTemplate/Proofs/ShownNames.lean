/-
# Names shown in place of values

Where nothing has a value, a template may be written with the names of its
placeholders between their brackets.  What is written is the template with
those names trimmed (`Substitution.render_names`), and it may be read as a
template again.

It need not have the same placeholders: a name that is blank leaves a pair of
brackets with nothing inside, which is literal text.  But no placeholder starts
where none started before, so all that are read have trimmed names
(`Reading.isTrimmed_of_source`), and writing them a second time changes nothing.
-/
import Mathlib
import MessageTemplate.Content.Substitution
import MessageTemplate.Proofs.Rewording
import MessageTemplate.Proofs.Segments
import MessageTemplate.Proofs.Substitution

namespace MessageTemplate

/-! ## Trimmed texts -/

namespace Text

/-- What is left of a text without blanks at its front has none at its front. -/
theorem dropWhile_isBlank_of_prefix {t u : Text} (hu : u.dropWhile isBlank = u) (h : t <+: u) :
    t.dropWhile isBlank = t := by
  rw [List.dropWhile_eq_self_iff] at hu ⊢
  intro ht
  rw [h.getElem ht]
  exact hu (Nat.lt_of_lt_of_le ht h.length_le)

/-- A trimmed text has no blanks at its end. -/
theorem trimEnd_trim (t : Text) : t.trim.trimEnd = t.trim :=
  List.rdropWhile_idempotent isBlank (t.dropWhile isBlank)

/-- A trimmed text has no blanks to trim. -/
theorem trim_trim (t : Text) : t.trim.trim = t.trim := by
  have hfront : t.trim.dropWhile isBlank = t.trim := by
    apply dropWhile_isBlank_of_prefix (List.dropWhile_idempotent isBlank t)
    exact List.rdropWhile_prefix isBlank (t.dropWhile isBlank)
  rw [trim, hfront, trimEnd_trim]

/-- Trimming leaves a piece of the text. -/
theorem trim_infix (t : Text) : t.trim <:+: t := by
  have hend : t.trim <+: t.dropWhile isBlank := List.rdropWhile_prefix isBlank _
  exact hend.isInfix.trans (List.dropWhile_suffix isBlank).isInfix

end Text

/-! ## Placeholders with trimmed names -/

/-- Segments none of which is a conditional. -/
def Unconditional (l : List Segment) : Prop :=
  ∀ p, .placeholder p ∈ l → p.isConditional = false

theorem Unconditional.head {p : Placeholder} {l : List Segment}
    (h : Unconditional (.placeholder p :: l)) : p.isConditional = false :=
  h p List.mem_cons_self

theorem Unconditional.tail {s : Segment} {l : List Segment} (h : Unconditional (s :: l)) :
    Unconditional l :=
  fun p hp => h p (List.mem_cons_of_mem s hp)

/-- The placeholder with the blanks around its body left out. -/
def Placeholder.trimmed (p : Placeholder) : Placeholder :=
  ⟨p.body.trim⟩

/-- A segment as it is written with its name trimmed. -/
def Segment.trimmedSource : Segment → Text
  | .text t => t
  | .placeholder p => p.trimmed.source

/-- A placeholder that shows a value and has no blanks around its name. -/
structure Placeholder.IsTrimmed (p : Placeholder) : Prop where
  not_conditional : p.isConditional = false
  trimmed_eq : p.trimmed = p

/-- Two words of which the first is a name and the second that name trimmed. -/
def TrimsName (w w' : Text) : Prop :=
  IsName w ∧ w' = w.trim

/-- A name without blanks around it has no brackets. -/
theorem IsName.bracketFree_trim {w : Text} (h : IsName w) : IsBracketFree w.trim :=
  fun c hc => h.bracketFree c ((Text.trim_infix w).subset hc)

theorem relatesBracketFree_trimsName : RelatesBracketFree TrimsName := by
  rintro w w' ⟨hw, rfl⟩
  exact ⟨hw.bracketFree, hw.bracketFree_trim⟩

/-- A placeholder whose body is a name trimmed has a trimmed name. -/
theorem Placeholder.isTrimmed_trimmed {p : Placeholder} (h : IsName p.body) :
    p.trimmed.IsTrimmed := by
  constructor
  · rw [isConditional_eq_false_iff]
    exact fun hseparator => h.unseparated (hseparator.trans (Text.trim_infix p.body))
  · rw [trimmed, trimmed, Text.trim_trim]

/-! ## Reading trimmed names -/

/-- A character that is not in front of a text is found behind the front. -/
theorem exists_behind_of_not_mem {front t before rest : Text} {c : Char} (hc : c ∉ front)
    (h : front ++ t = before ++ c :: rest) : ∃ more, before = front ++ more
      ∧ t = more ++ c :: rest := by
  rcases List.append_eq_append_iff.1 h with ⟨more, hbefore, ht⟩ | ⟨inside, hfront, hrest⟩
  · exact ⟨more, hbefore, ht⟩
  · cases inside with
    | nil =>
      rw [List.append_nil] at hfront
      exact ⟨[], by simp [hfront], hrest.symm⟩
    | cons d inside =>
      rw [List.cons_append, List.cons.injEq] at hrest
      exact absurd (by simp [hfront, hrest.1]) hc

/-- A placeholder in front of a text is told from what the text starts with. -/
theorem eq_of_source_append {p q : Placeholder} {t u : Text} (hp : Balanced p.body)
    (hq : Balanced q.body) (h : p.source ++ t = q.source ++ u) : p = q := by
  rw [p.source_append, q.source_append, List.cons.injEq, List.cons.injEq] at h
  have hread : bodyAux 0 [] (p.body ++ ')' :: ')' :: t) = some (p.body, t) :=
    bodyAux_eq_some_iff.2 ⟨rfl, hp⟩
  have hread' : bodyAux 0 [] (p.body ++ ')' :: ')' :: t) = some (q.body, u) :=
    bodyAux_eq_some_iff.2 ⟨h.2.2, hq⟩
  rw [hread] at hread'
  cases p
  cases q
  cases hread'
  rfl

/-- Where a placeholder has no brackets in its body, an opening pair stands at
its front or behind it. -/
theorem eq_nil_or_behind_source {p : Placeholder} {t before rest : Text}
    (hp : IsBracketFree p.body) (h : p.source ++ t = before ++ '(' :: '(' :: rest) :
    before = [] ∨ ∃ more, t = more ++ '(' :: '(' :: rest := by
  rw [p.source_append] at h
  match before with
  | [] => exact Or.inl rfl
  | [c] =>
    -- it would start with the second bracket, and no third one follows
    simp only [List.cons_append, List.nil_append, List.cons.injEq] at h
    have hhead := head?_bracketFree_append hp (t := ')' :: t)
    rw [h.2.2] at hhead
    exact absurd rfl hhead
  | c :: d :: before =>
    right
    have hback : '(' ∉ p.body ++ [')', ')'] := by
      intro hmem
      rcases List.mem_append.1 hmem with hmem | hmem
      · cases hp '(' hmem
      · simp at hmem
    simp only [List.cons_append, List.cons.injEq] at h
    obtain ⟨more, -, ht⟩ := exists_behind_of_not_mem hback (t := t) (by simpa using h.2.2)
    exact ⟨more, ht⟩

namespace Reading

variable {t : Text} {l : List Segment}

/-- Trimming names changes nothing but what stands between their brackets. -/
theorem reworded_trimmed (h : Reading t l) (hl : Unconditional l) :
    Reworded TrimsName t (l.flatMap Segment.trimmedSource) := by
  induction h with
  | done => exact .nil
  | @placeholder p rest l hp _ ih =>
    have hname : TrimsName p.body p.body.trim := ⟨Placeholder.isName_body hp hl.head, rfl⟩
    simpa [Segment.trimmedSource, Placeholder.trimmed, Placeholder.source]
      using Reworded.word hname (ih hl.tail)
  | @text literal rest l _ _ _ _ ih =>
    rw [List.flatMap_cons]
    exact (ih hl.tail).append_left literal

/-- **Trimmed names are final.**  A placeholder that stands anywhere in a
template whose names were trimmed shows a value and has a trimmed name. -/
theorem isTrimmed_of_source (h : Reading t l) (hl : Unconditional l) {q : Placeholder}
    (hq : IsBody q.body) {before after : Text}
    (hsplit : l.flatMap Segment.trimmedSource = before ++ (q.source ++ after)) : q.IsTrimmed := by
  induction h generalizing before with
  | done =>
    rw [q.source_append] at hsplit
    simp at hsplit
  | @placeholder p rest l hp hrest ih =>
    have hname : IsName p.body := Placeholder.isName_body hp hl.head
    have hfree : IsBracketFree p.trimmed.body := hname.bracketFree_trim
    rw [List.flatMap_cons] at hsplit
    have hpair := hsplit
    rw [q.source_append] at hpair
    rcases eq_nil_or_behind_source hfree hpair with hfront | ⟨more, hmore⟩
    · -- it is the placeholder that was read here, trimmed
      rw [hfront, List.nil_append] at hsplit
      have heq : p.trimmed = q := eq_of_source_append hfree.balanced hq.balanced hsplit
      rw [← heq]
      exact Placeholder.isTrimmed_trimmed hname
    · rw [← q.source_append] at hmore
      exact ih hl.tail hmore
  | @text literal rest l hne hfinal hend hrest ih =>
    rw [List.flatMap_cons] at hsplit
    rcases List.append_eq_append_iff.1 hsplit with ⟨more, -, hmore⟩ | ⟨inside, hliteral, hinside⟩
    · exact ih hl.tail hmore
    · by_cases hempty : inside = []
      · subst hempty
        exact ih hl.tail (hinside.symm.trans (List.nil_append _).symm)
      · -- a placeholder would start in literal text, which is final
        refine absurd ?_ (hfinal before inside hliteral hempty)
        have hstart : StartsPlaceholder (inside ++ l.flatMap Segment.trimmedSource) :=
          ⟨q, after, hinside.symm, hq⟩
        exact hstart.of_reworded relatesBracketFree_trimsName (fun _ _ hw => hw.1.ne_nil)
          ((hrest.reworded_trimmed hl.tail).append_left inside)

end Reading

/-- All placeholders of a template whose names were trimmed have trimmed names. -/
theorem isTrimmed_of_mem_segments {content : Text} (h : Unconditional (segments content))
    {q : Placeholder}
    (hq : .placeholder q ∈ segments ((segments content).flatMap Segment.trimmedSource)) :
    q.IsTrimmed := by
  generalize hshown : (segments content).flatMap Segment.trimmedSource = shown at hq
  obtain ⟨before, after, hsplit⟩ := List.append_of_mem hq
  have hread : Reading shown (before ++ .placeholder q :: after) := segments_eq_iff.1 hsplit
  have hsource : shown = before.flatMap Segment.source
      ++ (q.source ++ after.flatMap Segment.source) := by
    rw [← hread.flatMap_source, List.flatMap_append, List.flatMap_cons]
    rfl
  exact (reading_segments content).isTrimmed_of_source h hread.behind.isBody_of_placeholder
    (hshown.trans hsource)

/-! ## Writing names -/

namespace Substitution

/-- Where no name has a value, a segment that is no conditional is written with
its name trimmed. -/
theorem writeNode_names {s : Substitution} (hhtml : s.html = .passthrough)
    (hstyle : s.style = .plain) (hshown : s.redactMissing = false) {seg : Segment}
    (h : ∀ p, seg = .placeholder p → p.isConditional = false) :
    s.writeNode .empty seg.node = seg.trimmedSource := by
  have hsafe : ∀ t, s.sanitise t = t := by
    intro t
    rw [sanitise, hhtml]
  cases seg with
  | text t =>
    rw [Segment.node, writeNode, hsafe]
    rfl
  | placeholder p =>
    have hp := h p rfl
    have hname : p.name = p.body.trim := by
      rw [Placeholder.name, Placeholder.writtenName_of_not_conditional hp]
    rw [Segment.node_of_not_conditional hp, writeNode]
    show s.missing p.name = _
    unfold missing
    rw [hshown, hstyle, if_neg (by decide), hsafe, hname]
    rfl

/-- Where no name has a value, a template without conditionals is written with
its names trimmed. -/
theorem render_names {s : Substitution} (hhtml : s.html = .passthrough)
    (hstyle : s.style = .plain) (hshown : s.redactMissing = false) {content : Text}
    (h : Unconditional (segments content)) :
    s.render .empty content = (segments content).flatMap Segment.trimmedSource := by
  rw [render, writeNodes, Node.read_eq, List.flatMap_map]
  apply List.flatMap_congr
  intro seg hseg
  refine writeNode_names hhtml hstyle hshown fun p hp => ?_
  rw [hp] at hseg
  exact h p hseg

/-- **Names shown twice.**  Where nothing has a value and names are shown in
their brackets, a template without conditionals is written as it is, with its
names trimmed and nothing else changed; and what is written, read as a template
and written in the same way, stays as it is. -/
theorem render_names_twice (content : Text) (markdownLists : Bool)
    (h : Unconditional (segments content)) :
    let s : Substitution :=
      { html := .passthrough, style := .plain, markdownLists, redactMissing := false }
    let shown := s.render .empty content
    content = (segments content).flatMap Segment.source
      ∧ shown = (segments content).flatMap Segment.trimmedSource
      ∧ s.render .empty shown = shown := by
  intro s shown
  have hshown : shown = (segments content).flatMap Segment.trimmedSource :=
    render_names rfl rfl rfl h
  have htrimmed : ∀ q, .placeholder q ∈ segments shown → q.IsTrimmed := by
    rw [hshown]
    exact fun q => isTrimmed_of_mem_segments h
  refine ⟨(source_segments content).symm, hshown, ?_⟩
  rw [render_names rfl rfl rfl fun q hq => (htrimmed q hq).not_conditional]
  -- the segments of what is shown are written with their names as they are
  have hsame : ∀ seg ∈ segments shown, seg.trimmedSource = seg.source := by
    intro seg hseg
    cases seg with
    | text t => rfl
    | placeholder q => exact congrArg Placeholder.source (htrimmed q hseg).trimmed_eq
  rw [List.flatMap_congr hsame, source_segments]

/-- Names stand beside literal brackets, and one of them is blank. -/
theorem render_names_beside_brackets :
    let content := "((( a )))((  ))) ((b".toList
    let s : Substitution :=
      { html := .passthrough, style := .plain, markdownLists := false, redactMissing := false }
    let shown := "(((a)))(())) ((b".toList
    Unconditional (segments content) ∧ s.render .empty content = shown
      ∧ s.render .empty shown = shown := by
  have hsegments : segments "((( a )))((  ))) ((b".toList
      = [.text ['('], .placeholder ⟨" a ".toList⟩, .text [')'], .placeholder ⟨"  ".toList⟩,
        .text ") ((b".toList] := by cbv
  intro content s shown
  have hplain : Unconditional (segments content) := by
    intro p hp
    rw [show segments content = _ from hsegments] at hp
    simp only [List.mem_cons, Segment.placeholder.injEq, reduceCtorEq, List.not_mem_nil,
      false_or, or_false] at hp
    rcases hp with rfl | rfl <;> rfl
  obtain ⟨-, hshown, htwice⟩ := render_names_twice content false hplain
  have hwritten : s.render .empty content = shown := by
    refine hshown.trans ?_
    rw [show segments content = _ from hsegments]
    decide +kernel
  refine ⟨hplain, hwritten, ?_⟩
  exact (congrArg (s.render .empty) hwritten).symm.trans (htwice.trans hwritten)

end Substitution

end MessageTemplate
