/-
# Segments read again

The segments of a template are read where they stand, with the rest of the
template behind them.  Cut out and read on its own, a run of them gives the same
segments (`segments_flatMap_source`): a placeholder is told by its own source,
and where none starts in front of a longer text none starts in front of a
shorter one.  So literal text is final, and no placeholder hides in it
(`segments_final`).
-/
import Mathlib
import MessageTemplate.Proofs.Grammar

namespace MessageTemplate

/-! ## Texts that start with a placeholder -/

/-- What stands behind a placeholder makes no difference to it. -/
theorem StartsPlaceholder.append {t : Text} (h : StartsPlaceholder t) (u : Text) :
    StartsPlaceholder (t ++ u) := by
  obtain ⟨p, rest, rfl, hp⟩ := h
  exact ⟨p, rest ++ u, List.append_assoc _ _ _, hp⟩

/-- A text that starts with a placeholder is not empty. -/
theorem not_startsPlaceholder_nil : ¬ StartsPlaceholder [] := by
  rintro ⟨p, rest, hsplit, -⟩
  cases hsplit

namespace Reading

variable {t : Text} {l r : List Segment}

/-- The segments of a reading make up the text. -/
theorem flatMap_source (h : Reading t l) : l.flatMap Segment.source = t := by
  rw [← segments_of_reading h]
  exact source_segments t

/-- Where a placeholder starts, it is the first segment that is read. -/
theorem exists_placeholder (h : Reading t l) (hstart : StartsPlaceholder t) :
    ∃ p rest, l = .placeholder p :: rest ∧ IsBody p.body := by
  cases h with
  | done => exact absurd hstart not_startsPlaceholder_nil
  | @placeholder p rest l hp _ => exact ⟨p, l, rfl, hp⟩
  | text hne hfinal _ _ => exact absurd hstart (hfinal [] _ rfl hne)

/-- Without its first segments, a reading is one of the text behind them. -/
theorem behind (h : Reading t (l ++ r)) : Reading (r.flatMap Segment.source) r := by
  induction l generalizing t with
  | nil =>
    rw [List.nil_append] at h
    rw [h.flatMap_source]
    exact h
  | cons s l ih =>
    cases h with
    | placeholder _ hrest => exact ih hrest
    | text _ _ _ hrest => exact ih hrest

/-- Without its last segments, a reading is one of the text in front of them. -/
theorem front (h : Reading t (l ++ r)) : Reading (l.flatMap Segment.source) l := by
  induction l generalizing t with
  | nil => exact done
  | cons s l ih =>
    rw [List.cons_append] at h
    rw [List.flatMap_cons]
    cases h with
    | placeholder hp hrest => exact placeholder hp (ih hrest)
    | @text literal rest _ hne hfinal hend hrest =>
      refine text hne ?_ ?_ (ih hrest)
      · -- a placeholder that starts in the shorter text starts in the whole
        intro before after hsplit hafter hstart
        refine hfinal before after hsplit hafter ?_
        rw [← hrest.flatMap_source, List.flatMap_append, ← List.append_assoc]
        exact hstart.append _
      · -- literal text is followed by nothing or by a placeholder
        rcases hend with rfl | hstart
        · have hsource := hrest.flatMap_source
          rw [List.flatMap_append, List.append_eq_nil_iff] at hsource
          exact Or.inl hsource.1
        · obtain ⟨p, behind, hl, hp⟩ := hrest.exists_placeholder hstart
          rcases List.append_eq_cons_iff.1 hl with ⟨rfl, -⟩ | ⟨l', rfl, -⟩
          · exact Or.inl rfl
          · exact Or.inr ⟨p, l'.flatMap Segment.source, rfl, hp⟩

/-- Literal text that is read is not empty. -/
theorem ne_nil_of_text {u : Text} (h : Reading t (.text u :: l)) : u ≠ [] := by
  cases h with
  | text hne _ _ _ => exact hne

/-- What is read as a placeholder has the body of one. -/
theorem isBody_of_placeholder {p : Placeholder} (h : Reading t (.placeholder p :: l)) :
    IsBody p.body := by
  cases h with
  | placeholder hp _ => exact hp

/-- Behind literal text no literal text is read. -/
theorem not_text_text {u v : Text} (h : Reading t (.text u :: .text v :: l)) : False := by
  cases h with
  | text _ _ hend hrest =>
    rcases hend with rfl | hstart
    · have hsource := hrest.flatMap_source
      rw [List.flatMap_cons, List.append_eq_nil_iff] at hsource
      exact hrest.ne_nil_of_text hsource.1
    · obtain ⟨p, behind, hl, -⟩ := hrest.exists_placeholder hstart
      cases hl

end Reading

/-! ## Segments read on their own -/

/-- **Runs of segments.**  A run of the segments of a template, read on its own,
gives the same segments. -/
theorem segments_flatMap_source {t : Text} {l : List Segment} (h : l <:+: segments t) :
    segments (l.flatMap Segment.source) = l := by
  obtain ⟨before, after, hsplit⟩ := h
  have hreading : Reading t (before ++ (l ++ after)) := by
    rw [← List.append_assoc, hsplit]
    exact reading_segments t
  exact segments_of_reading hreading.behind.front

/-- A run of the segments of a template is a reading of its own. -/
theorem reading_of_run {t : Text} {l : List Segment} (h : l <:+: segments t) :
    Reading (l.flatMap Segment.source) l :=
  segments_eq_iff.1 (segments_flatMap_source h)

/-- **Nothing is lost, and literal text is final.**  The segments of a template,
as they are written, make it up; literal text among them is not empty and has no
literal text beside it; and read on its own it is that literal text and nothing
else. -/
theorem segments_final (t : Text) :
    (segments t).flatMap Segment.source = t
      ∧ (∀ u, .text u ∈ segments t → u ≠ [])
      ∧ (∀ u v, ¬ [.text u, .text v] <:+: segments t)
      ∧ ∀ u, .text u ∈ segments t → segments u = [.text u] := by
  have hsingle : ∀ u, .text u ∈ segments t → [.text u] <:+: segments t := fun u hu =>
    (List.singleton_infix_iff _ _).2 hu
  refine ⟨source_segments t, ?_, ?_, ?_⟩
  · intro u hu
    exact (reading_of_run (hsingle u hu)).ne_nil_of_text
  · intro u v huv
    exact (reading_of_run huv).not_text_text
  · intro u hu
    have hread := segments_flatMap_source (hsingle u hu)
    rwa [List.flatMap_singleton] at hread

end MessageTemplate
