/-
# Where links end

What reads as a link goes on for as long as it can.  Behind it stands no link
character, unless it is a host name (`Html.behind_rawLink?`), which can end in
the middle of a word.  From its end the link itself is cut back, before the
first entity that ends it and before closing punctuation; what is cut off starts
with an ampersand or such punctuation (`Html.exists_dropped_trimLink`).
`Html.ends_of_mem_spans` says what this leaves behind a link with an ampersand:
no letter or digit, and no character that completes an entity that ends links.
-/
import Mathlib
import MessageTemplate.Proofs.Link

namespace MessageTemplate.Html

/-! ## What reads as a link -/

/-- A host name is written with label characters and dots. -/
theorem isLabelCharacter_or_dot_of_mem_host? {t host : Text} (h : host? t = some host) {c : Char}
    (hc : c ∈ host) : isLabelCharacter c = true ∨ c = '.' := by
  revert hc
  refine host?_induction (motive := fun _ host => c ∈ host → _) ?_ h
  intro t rest tail _ _ htail hmem
  rcases List.mem_append.1 hmem with hlabel | hmem
  · exact Or.inl (List.mem_takeWhile_imp hlabel)
  rcases List.mem_cons.1 hmem with hdot | hmem
  · exact Or.inr hdot
  rcases htail with htail | htop
  · exact htail hmem
  · exact Or.inl (isLabelCharacter_of_isLower ((isTopLevel_topLevel? htop).1.isLower c hmem))

/-- Behind a bare domain stands no link character, unless it is a host name. -/
theorem behind_bareDomain? {raw after : Text} (h : bareDomain? (raw ++ after) = some raw) :
    (∀ d, after.head? = some d → isLinkCharacter d = false) ∨ host? (raw ++ after) = some raw := by
  obtain ⟨host, hhost, hraw⟩ := Option.map_eq_some_iff.1 h
  have hsplit := List.prefix_iff_eq_append.1 (isLinkFront_host? hhost).isPrefix
  rcases pathOf_cases ((raw ++ after).drop host.length) with
    hnone | ⟨mark, rest, behind, hpath, -, -, -, hends⟩
  · rw [hnone, List.append_nil] at hraw
    rw [← hraw] at hhost ⊢
    exact Or.inr hhost
  · rw [hpath, ← List.append_assoc, hraw] at hsplit
    rw [← List.append_cancel_left hsplit]
    exact Or.inl hends

/-- Behind what reads as a link stands no link character, unless it is a host name. -/
theorem behind_rawLink? {bareDomains : Bool} {previous : Option Char} {raw after : Text}
    (h : rawLink? bareDomains previous (raw ++ after) = some raw) :
    (∀ d, after.head? = some d → isLinkCharacter d = false) ∨ host? (raw ++ after) = some raw := by
  rcases (rawLink?_eq_some h).2 with haddress | ⟨-, hdomain⟩
  · obtain ⟨-, -, behind, hsplit, -, -, -, -, -, hends⟩ := addressWithScheme?_eq_some haddress
    rw [List.append_cancel_left hsplit]
    exact Or.inl hends
  · exact behind_bareDomain? hdomain

/-- Behind what reads as a link with an ampersand stands no link character. -/
theorem eq_false_of_behind_rawLink? {bareDomains : Bool} {previous : Option Char}
    {raw after : Text} (h : rawLink? bareDomains previous (raw ++ after) = some raw)
    (hmem : '&' ∈ raw) {d : Char} (hd : after.head? = some d) : isLinkCharacter d = false := by
  rcases behind_rawLink? h with hends | hhost
  · exact hends d hd
  · rcases isLabelCharacter_or_dot_of_mem_host? hhost hmem with hlabel | hdot
    · exact absurd hlabel (by decide)
    · exact absurd hdot (by decide)

/-! ## What is cut off -/

/-- What is cut off before an entity starts with an ampersand. -/
theorem exists_behind_beforeEntity (t : Text) :
    ∃ dropped, t = beforeEntity t ++ dropped ∧ ∀ d, dropped.head? = some d → d = '&' := by
  rcases (isBeforeFirst_beforeEntity t).ends with hall | ⟨e, he, after, hafter⟩
  · exact ⟨[], by rw [hall, List.append_nil], fun d hd => nomatch hd⟩
  · refine ⟨e ++ after, by rw [← List.append_assoc, hafter], fun d hd => ?_⟩
    have htable : ∀ e ∈ endingEntities, e.head? = some '&' := by decide
    rw [List.head?_append, htable e he] at hd
    exact (Option.some.inj hd).symm

/-- What stands before an entity does not reach into one. -/
theorem length_beforeEntity_le {e : Text} (he : e ∈ endingEntities) (before after : Text) :
    (beforeEntity (before ++ (e ++ after))).length ≤ before.length :=
  (isBeforeFirst_beforeEntity _).le e he before ⟨after, List.append_assoc before e after⟩

/-- What may follow a link that was cut back: closing punctuation and brackets,
and the ampersand of an entity. -/
def closers : Text :=
  ".,;:!?'\"’”])&".toList

/-- What is dropped from the end of a link is closing punctuation or a bracket. -/
theorem mem_closers_of_mustDropLast {d : Char} {before : Text}
    (h : mustDropLast d before = true) : d ∈ closers := by
  simp only [mustDropLast, isClosing, Bool.or_eq_true, Bool.and_eq_true, beq_iff_eq] at h
  rcases h with ((((((((((rfl | rfl) | rfl) | rfl) | rfl) | rfl) | rfl) | rfl) | rfl) | rfl) | rfl)
    | ⟨rfl, -⟩
  all_goals decide

/-- What is dropped from the end, which comes first here, starts with closing
punctuation or a bracket. -/
theorem exists_dropped_dropClosing (t : Text) :
    ∃ dropped, t = dropped ++ dropClosing t ∧ ∀ d, dropped.getLast? = some d → d ∈ closers := by
  induction t with
  | nil => exact ⟨[], rfl, fun d hd => nomatch hd⟩
  | cons last before ih =>
    rw [dropClosing]
    split
    · rename_i hlast
      obtain ⟨dropped, hsplit, hdropped⟩ := ih
      refine ⟨last :: dropped, by rw [List.cons_append, ← hsplit], fun d hd => ?_⟩
      rw [List.getLast?_cons, Option.some.injEq] at hd
      cases hinner : dropped.getLast? with
      | none =>
        rw [hinner, Option.getD_none] at hd
        exact hd ▸ mem_closers_of_mustDropLast hlast
      | some d' =>
        rw [hinner, Option.getD_some] at hd
        exact hdropped d (hd ▸ hinner)
    · exact ⟨[], rfl, fun d hd => nomatch hd⟩

/-- What is cut off a link starts with a character that may follow it. -/
theorem exists_dropped_trimLink (raw : Text) :
    ∃ dropped, raw = trimLink raw ++ dropped ∧ ∀ d, dropped.head? = some d → d ∈ closers := by
  obtain ⟨behind, hbehind, hentity⟩ := exists_behind_beforeEntity raw
  obtain ⟨closing, hclosing, hlast⟩ := exists_dropped_dropClosing (beforeEntity raw).reverse
  refine ⟨closing.reverse ++ behind, ?_, fun d hd => ?_⟩
  · have hfront : beforeEntity raw = trimLink raw ++ closing.reverse := by
      rw [trimLink, ← List.reverse_append, ← hclosing, List.reverse_reverse]
    rw [← List.append_assoc, ← hfront, ← hbehind]
  · rw [List.head?_append, List.head?_reverse] at hd
    cases hnone : closing.getLast? with
    | none =>
      rw [hnone, Option.none_or] at hd
      rw [hentity d hd]
      decide
    | some d' =>
      rw [hnone, Option.some_or, Option.some.injEq] at hd
      exact hlast d (hd ▸ hnone)

/-- What is cut off a link starts with no letter or digit. -/
theorem isAlphanum_eq_false_of_mem_closers : ∀ d ∈ closers, d.isAlphanum = false := by
  have hall : closers.all (fun d => !d.isAlphanum) = true := by decide
  simpa using hall

/-! ## The end of a link -/

/-- A link may end where a text goes on: there is no letter or digit, nor a
character that completes an entity which ends links. -/
structure Ends (link after : Text) : Prop where
  next : ∀ d, after.head? = some d → d.isAlphanum = false
  entity : ∀ d, after.head? = some d → ∀ e ∈ endingEntities, ¬ e <:+ link ++ [d]

/-- An entity which ends links is written with link characters. -/
theorem isLinkCharacter_of_suffix {e link : Text} {d : Char} (he : e ∈ endingEntities)
    (h : e <:+ link ++ [d]) : isLinkCharacter d = true := by
  have htable : ∀ e ∈ endingEntities, e.getLast? = some ';' := by decide
  obtain ⟨front, hfront⟩ := h
  have hlast := congrArg List.getLast? hfront
  rw [List.getLast?_append, htable e he, List.getLast?_concat, Option.some_or] at hlast
  rw [← Option.some.inj hlast]
  decide

/-- No entity which ends links is complete where more of it is read than of the link. -/
theorem not_suffix_trimLink {raw dropped e : Text} {d : Char} (he : e ∈ endingEntities)
    (h : raw = trimLink raw ++ d :: dropped) : ¬ e <:+ trimLink raw ++ [d] := by
  rintro ⟨front, hfront⟩
  have hlong : ∀ e ∈ endingEntities, 2 ≤ e.length := by decide
  have hraw : raw = front ++ (e ++ dropped) := by
    rw [← List.append_assoc, hfront, List.append_assoc]
    exact h
  have htrim : (trimLink raw).length ≤ (beforeEntity raw).length := by
    rw [trimLink, List.length_reverse]
    have hle := (dropClosing_suffix (beforeEntity raw).reverse).length_le
    rwa [List.length_reverse] at hle
  have hbefore := length_beforeEntity_le he front dropped
  rw [← hraw] at hbefore
  have hlength := congrArg List.length hfront
  rw [List.length_append, List.length_append, List.length_singleton] at hlength
  have := hlong e he
  omega

/-- Behind a link stands what was cut off it, and what the reading left behind. -/
theorem IsLinkAt.exists_dropped {bareDomains : Bool} {before link after : Text}
    (h : IsLinkAt bareDomains before link after) :
    ∃ dropped rest, after = dropped ++ rest ∧ link = trimLink (link ++ dropped)
      ∧ rawLink? bareDomains before.getLast? (link ++ dropped ++ rest) = some (link ++ dropped)
      ∧ ∀ d, dropped.head? = some d → d ∈ closers := by
  obtain ⟨raw, hraw, rfl⟩ := h.raw
  obtain ⟨dropped, htrimmed, hdropped⟩ := exists_dropped_trimLink raw
  obtain ⟨rest, hrest⟩ := (isLink_rawLink? hraw).1
  have hafter : after = dropped ++ rest := by
    conv at hrest => lhs; rw [htrimmed, List.append_assoc]
    exact (List.append_cancel_left hrest).symm
  refine ⟨dropped, rest, hafter, ?_, ?_, hdropped⟩
  · rw [← htrimmed]
  · rw [List.append_assoc, ← hafter, hraw, ← htrimmed]

/-- **Ends of links.**  A link with an ampersand ends where a link may. -/
theorem ends_of_mem_spans {bareDomains : Bool} {t link : Text}
    (h : .link link ∈ spans bareDomains t) :
    ∃ before after, t = before ++ (link ++ after) ∧ ('&' ∈ link → Ends link after) := by
  obtain ⟨l, r, hsplit⟩ := List.append_of_mem h
  refine ⟨l.flatMap Span.source, r.flatMap Span.source, eq_append_of_spans_eq hsplit,
    fun hmem => ?_⟩
  obtain ⟨dropped, rest, hafter, htrimmed, hraw, hdropped⟩ :=
    (isLinkAt_of_spans_eq hsplit).exists_dropped
  rw [hafter]
  cases dropped with
  | nil =>
    -- nothing was cut off, so the text goes on with what ended the reading
    rw [List.append_nil] at hraw
    constructor
    · intro d hd
      have hstop := eq_false_of_behind_rawLink? hraw hmem hd
      refine Bool.eq_false_iff.2 fun halphanum => ?_
      rw [isLinkCharacter_of_isAlphanum halphanum] at hstop
      cases hstop
    · intro d hd e he hsuffix
      have hstop := eq_false_of_behind_rawLink? hraw hmem hd
      rw [isLinkCharacter_of_suffix he hsuffix] at hstop
      cases hstop
  | cons d dropped =>
    constructor
    · intro d' hd'
      exact isAlphanum_eq_false_of_mem_closers d' (hdropped d' hd')
    · intro d' hd' e he
      cases hd'
      have hcut : link ++ d :: dropped = trimLink (link ++ d :: dropped) ++ d :: dropped := by
        rw [← htrimmed]
      have hnot := not_suffix_trimLink he hcut
      rwa [← htrimmed] at hnot

end MessageTemplate.Html
