/-
# Bodies of drafts

The four bodies made from a draft (in plain text, in markup, measured, and
behind a service name) come from one content.  Where every placeholder has a
value or is left out, they are all told by the body in plain text:
`Draft.measured_eq` for the measured body and `Draft.markupBody_eq_escape`
for the body in markup.
-/
import MessageTemplate.Message.Draft
import MessageTemplate.Proofs.Downgrade
import MessageTemplate.Proofs.Substitution

namespace MessageTemplate

/-! ## Escaping -/

/-- Every character is written as something. -/
theorem Html.entity_ne_nil (c : Char) : entity c ≠ [] := by
  rw [entity]
  repeat' split
  · decide
  · decide
  · decide
  · exact List.cons_ne_nil c []

/-- A character that opens or closes no markup is written as it is. -/
theorem Html.entity_of_ne {c : Char} (hamp : c ≠ '&') (hlt : c ≠ '<') (hgt : c ≠ '>') :
    entity c = [c] := by
  rw [entity, if_neg hamp, if_neg hlt, if_neg hgt]

/-- An entity is a character as it is, or is written with the characters of
the entities for markup. -/
theorem Html.entity_eq_or (c : Char) :
    entity c = [c] ∨ c :: entity c ⊆ "&<>amplgt;".toList := by
  by_cases hamp : c = '&'
  · right; subst hamp; decide
  by_cases hlt : c = '<'
  · right; subst hlt; decide
  by_cases hgt : c = '>'
  · right; subst hgt; decide
  exact Or.inl (entity_of_ne hamp hlt hgt)

/-- A property that a character lacks, and so do the characters of the
entities for markup, is lacked by all that the character is written with. -/
theorem Html.eq_false_of_mem_entity {p : Char → Bool}
    (hmarkup : "&<>amplgt;".toList.any p = false) {c d : Char} (hc : p c = false)
    (hd : d ∈ entity c) : p d = false := by
  rcases entity_eq_or c with hself | hsub
  · rw [hself, List.mem_singleton] at hd
    rw [hd]
    exact hc
  · exact Bool.eq_false_iff.2 (List.any_eq_false.1 hmarkup d (hsub (List.mem_cons_of_mem c hd)))

/-- In front of any text, reading entities gives back what was written with them. -/
theorem Html.unescape_escape_append (t u : Text) :
    unescape (escape t ++ u) = t ++ unescape u := by
  induction t with
  | nil => rfl
  | cons c t ih =>
    rw [escape_cons, List.append_assoc]
    by_cases hmarkup : c = '&' ∨ c = '<' ∨ c = '>'
    · rw [unescape_entity c hmarkup, ih, List.cons_append]
    · rw [not_or, not_or] at hmarkup
      rw [entity_of_ne hmarkup.1 hmarkup.2.1 hmarkup.2.2, List.singleton_append,
        unescape_cons_of_ne hmarkup.1, ih, List.cons_append]

/-- Reading entities gives back the text that was written with them. -/
theorem Html.unescape_escape (t : Text) : unescape (escape t) = t := by
  have h := unescape_escape_append t []
  rwa [List.append_nil, unescape_nil, List.append_nil] at h

/-- Different texts are written differently in markup. -/
theorem Html.escape_injective : Function.Injective escape :=
  Function.LeftInverse.injective unescape_escape

/-- Entities are words, and only characters outside the spacing have one. -/
theorem Html.keepsSpacing_entity : KeepsSpacing entity := by
  have hmarkup : "&<>amplgt;".toList.any isSpacing = false := by decide
  constructor
  · intro c hc
    rcases entity_eq_or c with hself | hsub
    · exact hself
    · exact absurd hc (List.any_eq_false.1 hmarkup c (hsub List.mem_cons_self))
  · intro c hc
    exact ⟨entity_ne_nil c, fun d hd => eq_false_of_mem_entity hmarkup hc hd⟩

/-- The lines of a text in markup are those of the text as written. -/
theorem normaliseLines_escape (t : Text) :
    normaliseLines (Html.escape t) = Html.escape (normaliseLines t) :=
  normaliseLines_flatMap Html.keepsSpacing_entity t

/-- A text in markup is put on one line as the text as written is. -/
theorem normaliseWhitespace_escape (t : Text) :
    normaliseWhitespace (Html.escape t) = Html.escape (normaliseWhitespace t) :=
  normaliseWhitespace_flatMap Html.keepsSpacing_entity t

/-! ## Service names -/

/-- What stands in front of a body that is sent under a service name. -/
def servicePrefix (name : Option Text) : Text :=
  withServiceName name []

/-- A service name goes in front of the body, whatever the body is. -/
theorem withServiceName_eq (name : Option Text) (body : Text) :
    withServiceName name body = servicePrefix name ++ body := by
  cases name with
  | none => rfl
  | some name =>
    rw [servicePrefix, withServiceName, withServiceName]
    split
    · rfl
    · simp

/-- Without a service name nothing stands in front of the body. -/
@[simp] theorem servicePrefix_none : servicePrefix none = [] := rfl

/-- A service name in markup is the name as written, in markup. -/
theorem servicePrefix_map_escape (name : Option Text) :
    servicePrefix (name.map Html.escape) = Html.escape (servicePrefix name) := by
  cases name with
  | none => rfl
  | some name =>
    -- an empty name is left out, and a name in markup is empty only if it was
    cases name with
    | nil => rfl
    | cons c rest =>
      have hne : (Html.escape (c :: rest)).isEmpty = false := by
        rw [Html.escape_cons, List.isEmpty_eq_false_iff]
        exact List.append_ne_nil_of_left_ne_nil (Html.entity_ne_nil c) _
      simp only [Option.map_some, servicePrefix, withServiceName, hne, List.isEmpty_cons]
      exact (Html.escape_append (c :: rest) [':', ' ']).symm

/-- Only the service name counts for a property of characters that the colon
and the space behind it lack. -/
theorem countP_servicePrefix {p : Char → Bool} (hcolon : p ':' = false) (hspace : p ' ' = false)
    (name : Option Text) : (servicePrefix name).countP p = (name.getD []).countP p := by
  cases name with
  | none => rfl
  | some name =>
    rw [servicePrefix, withServiceName, Option.getD_some]
    split
    · rename_i hempty
      rw [List.isEmpty_iff.1 hempty]
    · rw [List.countP_append, List.countP_cons, List.countP_cons, hcolon, hspace]
      rfl

namespace Draft

variable {d : Draft}

/-! ## Drafts without missing values -/

/-- The personalised text, before its spacing is normalised. -/
def personalisedText (d : Draft) : Text :=
  d.plainSubstitution.render d.values d.spec.content

/-- The number of placeholders of a draft that are shown as missing. -/
def unresolved (d : Draft) : Nat :=
  d.plainSubstitution.unresolvedCount d.values d.spec.content

/-- Where nothing is shown as missing, the measured body is the body in plain
text with lookalikes for its typographic characters. -/
theorem measured_eq (h : d.unresolved = 0) :
    Measured.ofDraft d = ⟨Gsm.replaceLookalikes d.plainBody, 0⟩ := by
  have hredacted := Substitution.render_redacted h
  have hcount : d.plainSubstitution.unresolvedCount d.values d.spec.content = 0 := h
  rw [Measured.ofDraft, hcount, plainBody, ← hredacted]

/-- Where nothing is shown as missing, the body in markup is the body in plain
text as it is written in markup. -/
theorem markupBody_eq_escape (h : d.unresolved = 0) :
    d.markupBody = Html.escape d.plainBody := by
  rw [markupBody, plainBody, ← normaliseLines_escape]
  congr 1
  exact Substitution.render_escape rfl rfl rfl rfl h

/-- A text goes out downgraded when the options ask for it. -/
theorem sendable_of_downgrade (h : d.options.downgrade = true) (t : Text) :
    d.sendable t = Gsm.downgrade t := by
  rw [sendable, if_pos h]

/-- A text goes out as it is when the options do not ask for downgrading. -/
theorem sendable_of_not_downgrade (h : d.options.downgrade = false) (t : Text) :
    d.sendable t = t := by
  rw [sendable, if_neg (by rw [h]; exact Bool.false_ne_true)]

end Draft

end MessageTemplate
