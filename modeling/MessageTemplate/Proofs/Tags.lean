/-
# The tags of bodies

A kind of message that is shown as markup has tags of its own: those of its
frame and of its blocks, the spans of placeholders, and anchors; an HTML email
also has the logo and the cells of a brand.  `OwnTag` tells them, with values in
their attributes that end neither the attribute nor the tag.

The tags of a body are traced back to what they were put in for.  Blocks have
tags around those of their texts, links and line breaks have tags between those
of the text they are found in, and this text has no tags but those of the names
that are missing from the template (`Draft.previewBody_traced`,
`Draft.htmlBody_traced`).
-/
import Mathlib
import MessageTemplate.Message.Basic
import MessageTemplate.Proofs.Blocks
import MessageTemplate.Proofs.Substitution

namespace MessageTemplate

/-! ## Placeholders -/

/-- The tags around a placeholder that is marked as missing. -/
def MissingStyle.tags : MissingStyle → List Text
  | .highlighted => ["<span class='placeholder'>".toList, "</span>".toList]
  | .noBrackets => ["<span class='placeholder-no-brackets'>".toList, "</span>".toList]
  | .plain => []

/-- The spans of placeholders are phrases. -/
theorem MissingStyle.phrase_of_mem_tags {style : MissingStyle} : ∀ w ∈ style.tags, Phrase w := by
  have hwords : IsWord "<span".toList ∧ IsWord "class='placeholder'>".toList
      ∧ IsWord "class='placeholder-no-brackets'>".toList ∧ IsWord "</span>".toList := by
    -- here and below literals become lists of characters, which evaluate fast
    repeat rw [String.toList_ofList]
    decide +kernel
  obtain ⟨hspan, hclass, hunbracketed, hclosing⟩ := hwords
  have hsplit : "<span class='placeholder'>".toList
        = "<span".toList ++ ' ' :: "class='placeholder'>".toList
      ∧ "<span class='placeholder-no-brackets'>".toList
        = "<span".toList ++ ' ' :: "class='placeholder-no-brackets'>".toList := by
    repeat rw [String.toList_ofList]
    decide +kernel
  cases style with
  | highlighted =>
    have hopening : Phrase "<span class='placeholder'>".toList := by
      rw [hsplit.1]
      exact .cons hspan (.word hclass)
    exact List.forall_mem_cons.2 ⟨hopening, List.forall_mem_singleton.2 (.word hclosing)⟩
  | noBrackets =>
    have hopening : Phrase "<span class='placeholder-no-brackets'>".toList := by
      rw [hsplit.2]
      exact .cons hspan (.word hunbracketed)
    exact List.forall_mem_cons.2 ⟨hopening, List.forall_mem_singleton.2 (.word hclosing)⟩
  | plain => exact fun w hw => absurd hw List.not_mem_nil

/-- The spans of placeholders can be sent as they are. -/
theorem MissingStyle.isOutside_of_mem_tags {style : MissingStyle} :
    ∀ w ∈ style.tags, ∀ c ∈ w, Gsm.isOutside c = false := by
  have hinside : ∀ w ∈ style.tags, w.any Gsm.isOutside = false := by
    unfold tags Gsm.isOutside Gsm.classify Gsm.basicAlphabet
    repeat rw [String.toList_ofList]
    cases style <;> decide +kernel
  exact fun w hw c hc => Bool.eq_false_iff.2 (List.any_eq_false.1 (hinside w hw) c hc)

namespace Substitution

variable {s : Substitution} {values : Personalisation}

/-- The tags that a substitution writes. -/
def tags (s : Substitution) : List Text :=
  if s.redactMissing then [] else s.style.tags

/-- A substitution writes no tags but those of its style. -/
theorem mem_style_tags {w : Text} (h : w ∈ s.tags) : w ∈ s.style.tags := by
  unfold tags at h
  split at h
  · exact absurd h List.not_mem_nil
  · exact h

/-- The tags around the names that are missing from a template, in order. -/
def missingTags (s : Substitution) (values : Personalisation) (content : Text) : List Text :=
  (missingNames values content).flatMap fun _ => s.tags

theorem mem_missingTags {content w : Text} (h : w ∈ s.missingTags values content) :
    w ∈ s.style.tags := by
  obtain ⟨name, -, hw⟩ := List.mem_flatMap.1 h
  exact mem_style_tags hw

/-- What is made safe is escaped. -/
theorem isPlain_sanitise (hs : s.html = .escape) (t : Text) : IsPlain (s.sanitise t) := by
  rw [sanitise, hs]
  exact isPlain_escape t

/-- The marks of a missing value are spans around escaped text. -/
theorem markup_missing (hs : s.html = .escape) (name : Text) : Markup s.tags (s.missing name) := by
  have hname : Markup [] (s.sanitise name) := .of_isPlain (isPlain_sanitise hs name)
  unfold missing tags
  split
  · exact .nil
  · have hframes :
        Markup ["<span class='placeholder'>".toList] "<span class='placeholder'>((".toList
        ∧ Markup ["</span>".toList] "))</span>".toList
        ∧ Markup ["<span class='placeholder-no-brackets'>".toList]
          "<span class='placeholder-no-brackets'>".toList
        ∧ Markup ["</span>".toList] "</span>".toList
        ∧ Markup [] "((".toList ∧ Markup [] "))".toList := by
      repeat rw [String.toList_ofList]
      decide +kernel
    obtain ⟨hopen, hclose, hopenSpan, hcloseSpan, hopenPlain, hclosePlain⟩ := hframes
    cases s.style with
    | highlighted => exact (hopen.append hname).append hclose
    | noBrackets => exact (hopenSpan.append hname).append hcloseSpan
    | plain => exact (hopenPlain.append hname).append hclosePlain

/-- **Whole templates.**  They are written as escaped text, with the tags of the
names that are missing. -/
theorem markup_render (hs : s.html = .escape) (values : Personalisation) (content : Text) :
    Markup (s.missingTags values content) (s.render values content) := by
  have hR : Additive fun k t _ => Markup (List.replicate k s.tags).flatten t := by
    refine ⟨.nil, fun ht hu => ?_⟩
    rw [List.replicate_add, List.flatten_append]
    exact ht.append hu
  have hsafe : ∀ t, Markup (List.replicate 0 s.tags).flatten (s.sanitise t) :=
    fun t => .of_isPlain (isPlain_sanitise hs t)
  have hmissing : ∀ name ∈ missingNames values content,
      Markup (List.replicate 1 s.tags).flatten (s.missing name) := by
    intro name _
    rw [List.replicate_one, List.flatten_singleton]
    exact markup_missing hs name
  have hrender := render_counted hR (rfl : s.markdownLists = s.markdownLists) hsafe hmissing
  rw [missingTags, List.flatMap_def, List.map_const']
  exact hrender

end Substitution

/-! ## The tags of each kind -/

namespace Kind

/-- Whether a kind is shown as markup. -/
def isMarkup : Kind → Bool
  | .smsPreview | .smsBodyPreview | .broadcastPreview | .htmlEmail | .emailPreview => true
  | .smsMessage | .broadcastMessage | .plainTextEmail => false

/-- The tags of a kind that hold nothing from outside. -/
def tags : Kind → List Text
  | .smsPreview =>
    ["<p class=\"sms-message-recipient\">".toList, "</p>".toList,
      "<div class=\"sms-message-wrapper\">".toList,
      "<span class=\"sms-message-sender\">".toList, "</div>".toList, "<br>".toList, "</a>".toList]
      ++ MissingStyle.highlighted.tags ++ MissingStyle.noBrackets.tags
  | .broadcastPreview =>
    ["<div class=\"broadcast-message-wrapper\">".toList,
      "<h2 class=\"broadcast-message-heading\">".toList,
      "<svg class=\"broadcast-message-heading__icon\" xmlns=\"http://www.w3.org/2000/svg\"".toList
        ++ " viewBox=\"0 0 24 24\" aria-hidden=\"true\" focusable=\"false\">".toList,
      "<path d=\"M12 2 1 21h22L12 2zm1 16h-2v-2h2v2zm0-4h-2V9h2v5z\"/>".toList,
      "</svg>".toList, "</h2>".toList, "</div>".toList, "<br>".toList, "</a>".toList]
      ++ MissingStyle.highlighted.tags
  | .htmlEmail =>
    ["<!DOCTYPE html>".toList, "<html lang=\"en\">".toList, "<head>".toList,
      "<meta http-equiv=\"Content-Type\" content=\"text/html; charset=utf-8\">".toList,
      "<meta name=\"viewport\" content=\"width=device-width, initial-scale=1\">".toList,
      "<title>".toList, "</title>".toList, "</head>".toList,
      "<body style=\"font-family: Helvetica, Arial, sans-serif; font-size: 16px; margin: 0; ".toList
        ++ "color: #0b0c0c;\">".toList,
      "<span style=\"display: none; font-size: 1px; color: #fff; max-height: 0;\" hidden>".toList,
      "<table role=\"presentation\" width=\"100%\" style=\"border-collapse: collapse; ".toList
        ++ "min-width: 100%; width: 100% !important;\" cellpadding=\"0\" cellspacing=\"0\" ".toList
        ++ "border=\"0\">".toList,
      "<td width=\"100%\" height=\"53\" bgcolor=\"#0b0c0c\">".toList,
      "<span style=\"font-family: Helvetica, Arial, sans-serif; font-weight: 700; ".toList
        ++ "color: #ffffff; font-size: 28px; line-height: 1.315789474; padding: 10px 15px; ".toList
        ++ "display: inline-block;\">".toList,
      "<table role=\"presentation\" width=\"100%\" cellpadding=\"0\" cellspacing=\"0\" ".toList
        ++ "border=\"0\">".toList,
      "<td style=\"padding: 10px 15px;\">".toList,
      "<span style=\"font-family: Helvetica, Arial, sans-serif; font-size: 19px; ".toList
        ++ "line-height: 1.315789474;\">".toList,
      "<table role=\"presentation\" class=\"content\" align=\"center\" ".toList
        ++ "style=\"border-collapse: collapse; max-width: 580px; width: 100% !important;\" ".toList
        ++ "cellpadding=\"0\" cellspacing=\"0\" border=\"0\">".toList,
      "<td style=\"font-family: Helvetica, Arial, sans-serif; font-size: 19px; ".toList
        ++ "line-height: 1.315789474; padding: 30px 10px;\">".toList,
      "</body>".toList, "</html>".toList, "</a>".toList]
      ++ Markdown.blockTags ++ MissingStyle.highlighted.tags
  | .emailPreview =>
    ["<table class=\"email-message-meta\">".toList, "<tbody>".toList,
      "<th class=\"email-message-meta__key\">".toList, "</th>".toList,
      "<td class=\"email-message-meta__value\">".toList, "</tbody>".toList,
      "<div class=\"email-message-body\">".toList, "</div>".toList, "</a>".toList]
      ++ Markdown.blockTags ++ MissingStyle.highlighted.tags ++ MissingStyle.noBrackets.tags
  | .smsMessage | .smsBodyPreview | .broadcastMessage | .plainTextEmail => []

/-- How the anchors of a kind are decorated, if it has any. -/
def linkStyle? : Kind → Option Html.LinkStyle
  | .smsPreview | .broadcastPreview | .emailPreview => some .preview
  | .htmlEmail => some .email
  | .smsMessage | .smsBodyPreview | .broadcastMessage | .plainTextEmail => none

end Kind

/-- The logo of a brand. -/
def logoTag (source alternative : Text) : Text :=
  "<img src=\"".toList ++ source ++ "\" alt=\"".toList ++ alternative
    ++ "\" height=\"108\" style=\"display: block; border: 0;\">".toList

/-- The cell around a brand, on a colour. -/
def bannerCellTag (colour : Text) : Text :=
  "<td bgcolor=\"".toList ++ colour ++ "\" style=\"padding: 10px 15px;\">".toList

/-- The bar under a brand, in a colour. -/
def barCellTag (colour : Text) : Text :=
  "<td height=\"8\" bgcolor=\"".toList ++ colour ++ "\">".toList

/-- The tags that a kind of message may have. -/
inductive OwnTag : Kind → Text → Prop
  /-- A tag that holds nothing from outside. -/
  | fixed {kind : Kind} {w : Text} : w ∈ kind.tags → OwnTag kind w
  /-- The opening tag of an anchor. -/
  | anchor {kind : Kind} {style : Html.LinkStyle} {address : Text} :
    kind.linkStyle? = some style → IsAttributeValue address →
      OwnTag kind (Html.anchorOpening style address)
  /-- The logo of a brand. -/
  | logo {source alternative : Text} : IsAttributeValue source → IsAttributeValue alternative →
    OwnTag .htmlEmail (logoTag source alternative)
  /-- The cell around a brand, on its colour. -/
  | bannerCell {colour : Text} : IsAttributeValue colour → OwnTag .htmlEmail (bannerCellTag colour)
  /-- The bar under a brand, in its colour. -/
  | barCell {colour : Text} : IsAttributeValue colour → OwnTag .htmlEmail (barCellTag colour)

/-! ## Tags of links -/

/-- A kind with anchors has the tag that closes them and the spans of placeholders. -/
theorem mem_tags_of_linkStyle? {kind : Kind} {style : Html.LinkStyle}
    (h : kind.linkStyle? = some style) :
    "</a>".toList ∈ kind.tags ∧ ∀ w ∈ MissingStyle.highlighted.tags, w ∈ kind.tags := by
  cases kind with
  | smsMessage | smsBodyPreview | broadcastMessage | plainTextEmail => cases h
  | smsPreview | broadcastPreview =>
    unfold Kind.tags MissingStyle.tags
    dsimp only
    repeat rw [String.toList_ofList]
    decide +kernel
  | htmlEmail | emailPreview =>
    unfold Kind.tags MissingStyle.tags Markdown.blockTags
    dsimp only
    repeat rw [String.toList_ofList]
    decide +kernel

/-- The tags of links are tags of a kind with such anchors. -/
theorem OwnTag.of_mem_linkTags {kind : Kind} {style : Html.LinkStyle} {bareDomains : Bool}
    {u w : Text} (hstyle : kind.linkStyle? = some style)
    (h : w ∈ Html.linkTags style bareDomains u) : OwnTag kind w := by
  obtain ⟨hclosing, -⟩ := mem_tags_of_linkStyle? hstyle
  rcases Html.mem_linkTags h with ⟨address, haddress, rfl⟩ | rfl
  · exact .anchor hstyle (Html.isAttributeValue_of_isLinkCharacter haddress)
  · exact .fixed hclosing

/-- The tags of links stand on one line. -/
theorem Html.newline_not_mem_of_mem_linkTags {style : LinkStyle} {bareDomains : Bool} {u w : Text}
    (h : w ∈ linkTags style bareDomains u) : '\n' ∉ w := by
  rcases mem_linkTags h with ⟨address, haddress, rfl⟩ | rfl
  · exact newline_not_mem_anchorOpening style haddress
  · decide

namespace Draft

variable {kind : Kind} (d : Draft)

/-! ## Bodies -/

/-- The tags of the names that are missing from the content. -/
def missingTags : List Text :=
  d.markupSubstitution.missingTags d.values d.spec.content

/-- The spans of placeholders are phrases. -/
theorem phrase_of_mem_missingTags : ∀ w ∈ d.missingTags, Phrase w :=
  fun w hw => MissingStyle.phrase_of_mem_tags w (Substitution.mem_missingTags hw)

/-- A kind with anchors has the spans of placeholders. -/
theorem ownTag_of_mem_missingTags {links : Html.LinkStyle} (hstyle : kind.linkStyle? = some links) :
    ∀ w ∈ d.missingTags, OwnTag kind w := by
  obtain ⟨-, hspans⟩ := mem_tags_of_linkStyle? hstyle
  exact fun w hw => .fixed (hspans w (Substitution.mem_missingTags hw))

/-- The personalised body is escaped text, with the tags of missing names. -/
theorem markup_markupBody : Markup d.missingTags d.markupBody :=
  (Substitution.markup_render rfl d.values d.spec.content).normaliseLines
    d.phrase_of_mem_missingTags

/-- A service name stands in front as escaped text. -/
theorem markup_withServiceName (name : Option Text) :
    Markup d.missingTags (withServiceName (name.map Html.escape) d.markupBody) := by
  rw [withServiceName_eq, servicePrefix_map_escape]
  exact .plain_append (isPlain_escape _) d.markup_markupBody

/-- Markup keeps its tags when it is made ready to be sent, if they can be sent
as they are. -/
theorem markup_sendable {ws : List Text} {t : Text}
    (hinside : ∀ w ∈ ws, ∀ c ∈ w, Gsm.isOutside c = false) (h : Markup ws t) :
    Markup ws (d.sendable t) := by
  unfold sendable
  split
  · exact h.downgrade hinside
  · exact h

/-! ## Bodies of previews -/

/-- The text of a preview, before its line breaks and links become tags. -/
def previewText (name : Option Text) : Text :=
  d.sendable (withServiceName (name.map Html.escape) d.markupBody)

/-- The tags of the body of a preview: those of its text with broken lines, and
those of the links between them. -/
def previewBodyTags (name : Option Text) : List Text :=
  Html.tagsWith (Html.linkTags .preview true) (Html.breakLines (d.previewText name))

/-- What the tags of the body of a preview go back to, besides its links. -/
structure PreviewTraced (name : Option Text) : Prop where
  /-- The tags of the text with broken lines are those of the text, and one for
  each line break between them. -/
  lineBreaks : Html.tags (Html.breakLines (d.previewText name))
    = Html.tagsWith Html.lineBreakTags (d.previewText name)
  /-- The tags of the text are those of the names missing from the content. -/
  missing : Html.tags (d.previewText name) = d.missingTags

theorem markup_previewText (name : Option Text) : Markup d.missingTags (d.previewText name) :=
  d.markup_sendable
    (fun w hw => MissingStyle.isOutside_of_mem_tags w (Substitution.mem_missingTags hw))
    (d.markup_withServiceName name)

theorem markup_breakLines_previewText (name : Option Text) :
    Markup (Html.tagsWith Html.lineBreakTags (d.previewText name))
      (Html.breakLines (d.previewText name)) :=
  (d.markup_previewText name).breakLines fun w hw =>
    (d.phrase_of_mem_missingTags w hw).newline_not_mem

/-- **Bodies of previews.**  Their tags go back to links, line breaks and missing names. -/
theorem previewBody_traced (name : Option Text) :
    Markup (d.previewBodyTags name) (d.previewBody name) ∧ d.PreviewTraced name :=
  ⟨(d.markup_breakLines_previewText name).autolink .preview true,
    (d.markup_breakLines_previewText name).tags_eq, (d.markup_previewText name).tags_eq⟩

/-- The tags of the body of a preview are tags of its kind. -/
theorem ownTag_of_mem_previewBodyTags (hstyle : kind.linkStyle? = some .preview)
    (hbreak : "<br>".toList ∈ kind.tags) (name : Option Text) :
    ∀ w ∈ d.previewBodyTags name, OwnTag kind w := by
  intro w hw
  obtain ⟨-, htraced⟩ := d.previewBody_traced name
  rcases Html.mem_tagsWith hw with hw | ⟨u, hw⟩
  · rw [htraced.lineBreaks] at hw
    rcases Html.mem_tagsWith hw with hw | ⟨u, hw⟩
    · rw [htraced.missing] at hw
      exact d.ownTag_of_mem_missingTags hstyle w hw
    · rw [List.eq_of_mem_replicate hw]
      exact .fixed hbreak
  · exact OwnTag.of_mem_linkTags hstyle hw

/-! ## Bodies of emails -/

/-- The body of an email, before its links become anchors. -/
def typesetBody : Text :=
  niceTypography true d.markupBody

/-- The tags of the body of an email: those of its blocks. -/
def htmlBodyTags (links : Html.LinkStyle) : List Text :=
  (Markdown.blocks (d.markupMarkdown links)).flatMap Markdown.Block.tags

/-- What the tags of the body of an email go back to, besides its blocks. -/
structure HtmlTraced (links : Html.LinkStyle) : Prop where
  /-- The tags of the texts in the blocks are those of the text with anchors. -/
  blocks : (Markdown.blocks (d.markupMarkdown links)).flatMap (Markdown.Block.collect Html.tags [])
    = Html.tags (d.markupMarkdown links)
  /-- The tags of the text with anchors are those of the text without them, and
  two for each link between them. -/
  links : Html.tags (d.markupMarkdown links)
    = Html.tagsWith (Html.linkTags links false) d.typesetBody
  /-- The tags of the text without anchors are those of the names missing from
  the content. -/
  missing : Html.tags d.typesetBody = d.missingTags

theorem markup_typesetBody : Markup d.missingTags d.typesetBody :=
  d.markup_markupBody.niceTypography d.phrase_of_mem_missingTags

theorem markup_markupMarkdown (links : Html.LinkStyle) :
    Markup (Html.tagsWith (Html.linkTags links false) d.typesetBody) (d.markupMarkdown links) :=
  d.markup_typesetBody.autolink links false

/-- **Bodies of emails.**  Their tags go back to blocks, links and missing names. -/
theorem htmlBody_traced (links : Html.LinkStyle) :
    Markup (d.htmlBodyTags links) (d.htmlBody links) ∧ d.HtmlTraced links := by
  have hlinked := d.markup_markupMarkdown links
  have hunbroken : ∀ w ∈ Html.tagsWith (Html.linkTags links false) d.typesetBody, '\n' ∉ w := by
    intro w hw
    rcases Html.mem_tagsWith hw with hw | ⟨u, hw⟩
    · rw [d.markup_typesetBody.tags_eq] at hw
      exact (d.phrase_of_mem_missingTags w hw).newline_not_mem
    · exact Html.newline_not_mem_of_mem_linkTags hw
  refine ⟨hlinked.markdown hunbroken, ?_, hlinked.tags_eq, d.markup_typesetBody.tags_eq⟩
  rw [hlinked.tags_eq]
  exact (hlinked.blocks hunbroken).1

/-- The tags of the body of an email are tags of its kind. -/
theorem ownTag_of_mem_htmlBodyTags {links : Html.LinkStyle} (hstyle : kind.linkStyle? = some links)
    (hblock : Markdown.blockTags ⊆ kind.tags) : ∀ w ∈ d.htmlBodyTags links, OwnTag kind w := by
  intro w hw
  obtain ⟨-, htraced⟩ := d.htmlBody_traced links
  obtain ⟨b, hb, hw⟩ := List.mem_flatMap.1 hw
  rcases Markdown.Block.mem_tags hw with hw | hw
  · exact .fixed (hblock hw)
  have hlinked : w ∈ Html.tags (d.markupMarkdown links) := by
    rw [← htraced.blocks]
    exact List.mem_flatMap.2 ⟨b, hb, hw⟩
  rw [htraced.links] at hlinked
  rcases Html.mem_tagsWith hlinked with hw | ⟨u, hw⟩
  · rw [htraced.missing] at hw
    exact d.ownTag_of_mem_missingTags hstyle w hw
  · exact OwnTag.of_mem_linkTags hstyle hw

/-! ## Subjects and recipients -/

/-- The tags of the names that are missing from the subject. -/
def subjectTags (style : MissingStyle) : List Text :=
  let s : Substitution :=
    { html := .escape, style := style, redactMissing := d.options.redactMissing }
  s.missingTags d.values d.rawSubject

/-- The subject is escaped text, with the tags of missing names. -/
theorem markup_subject (style : MissingStyle) :
    Markup (d.subjectTags style) (d.subject .escape style) := by
  have hphrase : ∀ w ∈ d.subjectTags style, Phrase w :=
    fun w hw => MissingStyle.phrase_of_mem_tags w (Substitution.mem_missingTags hw)
  exact ((Substitution.markup_render rfl d.values d.rawSubject).niceTypography
    hphrase).normaliseWhitespace hphrase

/-- The tags around the placeholder of the recipient, if it has no value. -/
def recipientTags (placeholder : String) : List Text :=
  let s : Substitution := { style := .noBrackets }
  s.missingTags d.values ("((".toList ++ placeholder.toList ++ "))".toList)

/-- The recipient is escaped text, or a span around the name of the placeholder. -/
theorem markup_recipient (placeholder : String) :
    Markup (d.recipientTags placeholder) (d.recipient placeholder) :=
  Substitution.markup_render rfl d.values _

end Draft

end MessageTemplate
