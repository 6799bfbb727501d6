/-
# Segments

A template is read as segments: literal texts and placeholders.  A placeholder
opens at `((` and closes at the `))` that balances it; the text between them
holds brackets only in balanced pairs.  Where an opening pair starts no
placeholder, its first bracket is literal and reading goes on at the next
character.

`eq_of_bodyAux` says what the reader takes, and `source_segments` that the
segments make up the template.
-/
import MessageTemplate.Content.Placeholder

namespace MessageTemplate

/-! ## The body of a placeholder -/

/-- Reads on behind an opening pair, with `depth` further pairs open, up to
the pair that closes the first.  `body` holds what was read, latest first.
The result is the body and the text behind the closing pair; a lone bracket
or the end of the text leaves nothing. -/
def bodyAux : Nat → Text → Text → Option (Text × Text)
  | depth, body, '(' :: '(' :: rest => bodyAux (depth + 1) ('(' :: '(' :: body) rest
  | 0, body, ')' :: ')' :: rest => some (body.reverse, rest)
  | depth + 1, body, ')' :: ')' :: rest => bodyAux depth (')' :: ')' :: body) rest
  | depth, body, c :: rest => if isBracket c then none else bodyAux depth (c :: body) rest
  | _, _, [] => none

/-- What was read and what follows the closing pair make up the text. -/
theorem eq_of_bodyAux {depth : Nat} {before t body rest : Text}
    (h : bodyAux depth before t = some (body, rest)) :
    before.reverse ++ t = body ++ ')' :: ')' :: rest := by
  induction depth, before, t using bodyAux.induct generalizing body rest with
  | case1 depth before t ih =>
    rw [bodyAux] at h
    simpa using ih h
  | case2 before t =>
    rw [bodyAux] at h
    simp only [Option.some.injEq, Prod.mk.injEq] at h
    rw [← h.1, ← h.2]
  | case3 depth before t ih =>
    rw [bodyAux] at h
    simpa using ih h
  | case4 depth before c t h1 h2 h3 hc =>
    rw [bodyAux.eq_4 _ _ _ _ h1 h2 h3] at h
    simp [hc] at h
  | case5 depth before c t h1 h2 h3 hc ih =>
    rw [bodyAux.eq_4 _ _ _ _ h1 h2 h3, if_neg hc] at h
    simpa using ih h
  | case6 => simp [bodyAux] at h

/-- The placeholder at the front of a text, and the text behind it. -/
def placeholderAt? : Text → Option (Placeholder × Text)
  | '(' :: '(' :: rest =>
    match bodyAux 0 [] rest with
    | some (body, after) => if Placeholder.isValid ⟨body⟩ then some (⟨body⟩, after) else none
    | none => none
  | _ => none

/-- A placeholder is read off the front of a text as it is written. -/
theorem eq_of_placeholderAt? {t rest : Text} {p : Placeholder}
    (h : placeholderAt? t = some (p, rest)) : t = p.source ++ rest := by
  unfold placeholderAt? at h
  split at h
  · split at h
    · rename_i inner body after hb
      split at h
      · simp only [Option.some.injEq, Prod.mk.injEq] at h
        obtain ⟨rfl, rfl⟩ := h
        have := eq_of_bodyAux hb
        simp only [List.reverse_nil, List.nil_append] at this
        simp [Placeholder.source, this]
      · simp at h
    · simp at h
  · simp at h

/-- Only a valid body is read as a placeholder. -/
theorem isValid_of_placeholderAt? {t rest : Text} {p : Placeholder}
    (h : placeholderAt? t = some (p, rest)) : p.isValid = true := by
  unfold placeholderAt? at h
  split at h
  · split at h
    · split at h
      · simp_all
      · simp at h
    · simp at h
  · simp at h

/-- Behind a placeholder there is less text than before. -/
theorem length_lt_of_placeholderAt? {t rest : Text} {p : Placeholder}
    (h : placeholderAt? t = some (p, rest)) : rest.length < t.length := by
  rw [eq_of_placeholderAt? h]
  simp only [Placeholder.source, List.cons_append, List.length_cons, List.length_append]
  omega

/-! ## The segments of a template -/

/-- A part of a template. -/
inductive Segment
  | text (t : Text)
  | placeholder (p : Placeholder)
  deriving DecidableEq, Repr

/-- A segment as it is written. -/
def Segment.source : Segment → Text
  | .text t => t
  | .placeholder p => p.source

/-- Literal text read so far, latest character first, as no segment or one. -/
def literalSegment (literal : Text) : List Segment :=
  if literal.isEmpty then [] else [.text literal.reverse]

/-- Worker of `segments`.  `literal` is the literal text since the last
placeholder and `done` the segments before it, both latest first. -/
def segmentsAux (literal : Text) (done : List Segment) (t : Text) : List Segment :=
  match t with
  | [] => done.reverseAux (literalSegment literal)
  | c :: rest =>
    match _found : placeholderAt? (c :: rest) with
    | some (p, after) =>
      segmentsAux [] (.placeholder p :: (literalSegment literal).reverseAux done) after
    | none => segmentsAux (c :: literal) done rest
termination_by t.length
decreasing_by
  · exact length_lt_of_placeholderAt? _found
  · simp

/-- The literal texts and placeholders of a template, from left to right. -/
def segments (t : Text) : List Segment :=
  segmentsAux [] [] t

/-- Literal text is written as it was read. -/
theorem source_literalSegment (literal : Text) :
    (literalSegment literal).flatMap Segment.source = literal.reverse := by
  cases literal <;> simp [literalSegment, Segment.source]

/-- The segments of a template make it up. -/
theorem source_segments (t : Text) : (segments t).flatMap Segment.source = t := by
  have held : ∀ (literal : Text) (done : List Segment) (t : Text),
      (segmentsAux literal done t).flatMap Segment.source
        = done.reverse.flatMap Segment.source ++ literal.reverse ++ t := by
    intro literal done t
    induction literal, done, t using segmentsAux.induct with
    | case1 literal done =>
      rw [segmentsAux]
      simp [List.reverseAux_eq, source_literalSegment]
    | case2 literal done c rest p after hp ih =>
      rw [segmentsAux, hp, eq_of_placeholderAt? hp]
      simp only [ih]
      cases literal <;> simp [literalSegment, Segment.source]
    | case3 literal done c rest hp ih =>
      rw [segmentsAux, hp]
      simp [ih]
  simpa [segments] using held [] [] t

/-- Each placeholder is written somewhere in the template. -/
theorem length_body_lt_of_mem_segments {t : Text} {p : Placeholder}
    (h : .placeholder p ∈ segments t) : p.body.length < t.length := by
  have hlen : ∀ l : List Segment, .placeholder p ∈ l →
      p.body.length < (l.flatMap Segment.source).length := by
    intro l hl
    induction l with
    | nil => simp at hl
    | cons s rest ih =>
      rw [List.flatMap_cons, List.length_append]
      rcases List.mem_cons.1 hl with rfl | hl
      · simp [Segment.source, Placeholder.source]
        omega
      · have := ih hl
        omega
  simpa [source_segments] using hlen _ h

end MessageTemplate
