/-
# The scaffold of a message

Whatever the template, the values and the options are, the tags of a message in
markup are told in advance (`Message.tags`): its kind has a scaffold, of which
the options choose the parts, with slots for the tags of the body, of missing
names, and of the attributes of a brand.  What is given from outside decides
which parts there are, stands in attributes with nothing in it that ends them,
and is text otherwise (`Message.markup_rendered`).
-/
import Mathlib
import MessageTemplate.Proofs.Tags

namespace MessageTemplate

/-! ## Markup of a kind -/

/-- Markup over tags that a kind of message may have. -/
structure OwnMarkup (kind : Kind) (ws : List Text) (t : Text) : Prop where
  markup : Markup ws t
  own : ∀ w ∈ ws, OwnTag kind w

namespace OwnMarkup

variable {kind : Kind} {ws vs : List Text} {t u : Text}

theorem append (ht : OwnMarkup kind ws t) (hu : OwnMarkup kind vs u) :
    OwnMarkup kind (ws ++ vs) (t ++ u) :=
  ⟨ht.markup.append hu.markup, List.forall_mem_append.2 ⟨ht.own, hu.own⟩⟩

theorem of_isPlain (h : IsPlain t) : OwnMarkup kind [] t :=
  ⟨.of_isPlain h, fun _ hw => absurd hw List.not_mem_nil⟩

theorem nil : OwnMarkup kind [] [] :=
  of_isPlain fun _ hc => absurd hc List.not_mem_nil

theorem single {w : Text} (hw : IsTag w) (hown : OwnTag kind w) : OwnMarkup kind [w] w :=
  ⟨.single hw, List.forall_mem_singleton.2 hown⟩

end OwnMarkup

/-- A text over tags of a kind that hold nothing from outside. -/
def IsFrame (kind : Kind) (ws : List Text) (t : Text) : Prop :=
  Markup ws t ∧ ws ⊆ kind.tags

/-- Whether a text is a frame can be read off it. -/
instance (kind : Kind) (ws : List Text) (t : Text) : Decidable (IsFrame kind ws t) :=
  inferInstanceAs (Decidable (Markup ws t ∧ ws ⊆ kind.tags))

theorem IsFrame.own {kind : Kind} {ws : List Text} {t : Text} (h : IsFrame kind ws t) :
    OwnMarkup kind ws t :=
  ⟨h.1, fun _ hw => .fixed (h.2 hw)⟩

/-- The spans of missing names are tags of a kind that has the spans of their style. -/
theorem OwnMarkup.of_missing {kind : Kind} {s : Substitution} {values : Personalisation}
    {content t : Text} (hspans : s.style.tags ⊆ kind.tags)
    (h : Markup (s.missingTags values content) t) :
    OwnMarkup kind (s.missingTags values content) t :=
  ⟨h, fun _ hw => .fixed (hspans (Substitution.mem_missingTags hw))⟩

namespace Draft

variable (d : Draft)

/-! ## Text messages -/

/-- The tags around the recipient, if it is shown. -/
def smsRecipientTags : List Text :=
  if d.options.showRecipient then
    ["<p class=\"sms-message-recipient\">".toList] ++ d.recipientTags "phone number"
      ++ ["</p>".toList]
  else []

/-- The tags around the sender, if it is shown. -/
def smsSenderTags : List Text :=
  if d.options.visibleSender.isSome then
    ["<span class=\"sms-message-sender\">".toList, "</span>".toList]
  else []

/-- The tags of the preview in the frame of a phone. -/
def smsPreviewTags : List Text :=
  d.smsRecipientTags ++ ["<div class=\"sms-message-wrapper\">".toList] ++ d.smsSenderTags
    ++ d.previewBodyTags d.options.visibleServiceName ++ ["</div>".toList]

theorem isFrame_smsPreview :
    IsFrame .smsPreview ["<p class=\"sms-message-recipient\">".toList]
      "<p class=\"sms-message-recipient\">To: ".toList
    ∧ IsFrame .smsPreview ["</p>".toList] "</p>\n".toList
    ∧ IsFrame .smsPreview ["<div class=\"sms-message-wrapper\">".toList]
      "<div class=\"sms-message-wrapper\">".toList
    ∧ IsFrame .smsPreview ["<span class=\"sms-message-sender\">".toList]
      "<span class=\"sms-message-sender\">From: ".toList
    ∧ IsFrame .smsPreview ["</span>".toList] "</span>".toList
    ∧ IsFrame .smsPreview ["</div>".toList] "</div>".toList
    ∧ "<br>".toList ∈ Kind.smsPreview.tags
    ∧ MissingStyle.noBrackets.tags ⊆ Kind.smsPreview.tags := by
  unfold IsFrame Kind.tags MissingStyle.tags
  dsimp only
  -- here and below literals become lists of characters, which evaluate fast
  repeat rw [String.toList_ofList]
  decide +kernel

/-- The body of a preview has its own tags. -/
theorem own_previewBody {kind : Kind} (hstyle : kind.linkStyle? = some .preview)
    (hbreak : "<br>".toList ∈ kind.tags) (name : Option Text) :
    OwnMarkup kind (d.previewBodyTags name) (d.previewBody name) :=
  ⟨(d.previewBody_traced name).1, d.ownTag_of_mem_previewBodyTags hstyle hbreak name⟩

/-- The preview of a text message has its own tags. -/
theorem own_smsPreview : OwnMarkup .smsPreview d.smsPreviewTags d.smsPreview := by
  obtain ⟨hto, hend, hwrapper, hfrom, hspan, hdiv, hbreak, hspans⟩ := isFrame_smsPreview
  have hrecipient : OwnMarkup .smsPreview d.smsRecipientTags d.smsRecipientLine := by
    unfold smsRecipientTags smsRecipientLine
    split
    · exact (hto.own.append (.of_missing hspans (d.markup_recipient _))).append hend.own
    · exact .nil
  have hsender : OwnMarkup .smsPreview d.smsSenderTags d.smsSender := by
    unfold smsSenderTags smsSender
    cases d.options.visibleSender with
    | some sender => exact (hfrom.own.append (.of_isPlain (isPlain_escape sender))).append hspan.own
    | none => exact .nil
  have hbody := d.own_previewBody rfl hbreak d.options.visibleServiceName
  exact (((hrecipient.append hwrapper.own).append hsender).append hbody).append hdiv.own

/-- The preview of a text message on one line has no tags. -/
theorem own_smsBodyPreview : OwnMarkup .smsBodyPreview [] d.smsBodyPreview := by
  let s : Substitution := { redactMissing := true }
  have hnone : s.missingTags d.values d.spec.content = [] :=
    List.flatMap_eq_nil_iff.2 fun _ _ => rfl
  have hrender : Markup [] (s.render d.values d.spec.content) := by
    rw [← hnone]
    exact Substitution.markup_render rfl d.values d.spec.content
  have hsent : Markup [] (d.sendable (s.render d.values d.spec.content)) :=
    d.markup_sendable (fun _ hw => absurd hw List.not_mem_nil) hrender
  exact ⟨hsent.normaliseWhitespace fun _ hw => absurd hw List.not_mem_nil,
    fun _ hw => absurd hw List.not_mem_nil⟩

/-! ## Broadcasts -/

/-- The tags of the frame above an alert. -/
def alertTags : List Text :=
  ["<div class=\"broadcast-message-wrapper\">".toList,
    "<h2 class=\"broadcast-message-heading\">".toList,
    "<svg class=\"broadcast-message-heading__icon\" xmlns=\"http://www.w3.org/2000/svg\"".toList
      ++ " viewBox=\"0 0 24 24\" aria-hidden=\"true\" focusable=\"false\">".toList,
    "<path d=\"M12 2 1 21h22L12 2zm1 16h-2v-2h2v2zm0-4h-2V9h2v5z\"/>".toList,
    "</svg>".toList, "</h2>".toList]

/-- The tags of the preview of an alert. -/
def broadcastPreviewTags : List Text :=
  alertTags ++ d.previewBodyTags none ++ ["</div>".toList]

theorem isFrame_broadcastPreview :
    IsFrame .broadcastPreview alertTags
      ("<div class=\"broadcast-message-wrapper\"><h2 class=\"broadcast-message-heading\">".toList
        ++ alertIcon ++ "Emergency alert</h2>".toList)
    ∧ IsFrame .broadcastPreview ["</div>".toList] "</div>".toList
    ∧ "<br>".toList ∈ Kind.broadcastPreview.tags := by
  unfold IsFrame alertTags alertIcon Kind.tags MissingStyle.tags
  dsimp only
  repeat rw [String.toList_ofList]
  decide +kernel

/-- The preview of a broadcast has its own tags. -/
theorem own_broadcastPreview :
    OwnMarkup .broadcastPreview d.broadcastPreviewTags d.broadcastPreview := by
  obtain ⟨halert, hdiv, hbreak⟩ := isFrame_broadcastPreview
  exact (halert.own.append (d.own_previewBody rfl hbreak none)).append hdiv.own

/-! ## Banners -/

/-- The tags in front of the cell of a wide table. -/
def wideTableTags : List Text :=
  ["<table role=\"presentation\" width=\"100%\" cellpadding=\"0\" cellspacing=\"0\" ".toList
      ++ "border=\"0\">".toList, "<tr>".toList]

/-- The tags that close the cell of a table, and the table. -/
def tableClosing : List Text :=
  ["</td>".toList, "</tr>".toList, "</table>".toList]

/-- The tag of the cell around a brand, on a colour or on none. -/
def brandCellTag (colour : Option Text) : Text :=
  match colour with
  | some colour => bannerCellTag (Html.escapeAttribute colour)
  | none => "<td style=\"padding: 10px 15px;\">".toList

/-- The tag of the logo of a brand, if it has one. -/
def brandLogoTags : List Text :=
  match d.options.brandLogo with
  | some logo =>
    [logoTag (Html.escapeAttribute logo) (Html.escapeAttribute (d.options.brandName.getD []))]
  | none => []

/-- The tags around the text of a brand, if it has one. -/
def brandTextTags : List Text :=
  if d.options.brandText.isSome then
    ["<span style=\"font-family: Helvetica, Arial, sans-serif; font-size: 19px; ".toList
        ++ "line-height: 1.315789474;\">".toList, "</span>".toList]
  else []

/-- The tags of the bar in the colour of a brand. -/
def barTags (colour : Text) : List Text :=
  wideTableTags ++ [barCellTag (Html.escapeAttribute colour)] ++ tableClosing

/-- The tags of a brand, if it has a logo or a text: on its colour in a banner,
and else with a bar in its colour. -/
def brandTags : List Text :=
  if d.options.brandLogo.isNone && d.options.brandText.isNone then []
  else
    wideTableTags
      ++ [brandCellTag (if d.options.brandBanner then d.options.brandColour else none)]
      ++ d.brandLogoTags ++ d.brandTextTags ++ tableClosing
      ++ (if d.options.brandBanner then [] else (d.options.brandColour.map barTags).getD [])

/-- The tags of the banners above the body. -/
def bannerTags : List Text :=
  (if d.options.govukBanner && !d.options.brandBanner then Html.tags govukBanner else [])
    ++ d.brandTags

theorem isFrame_banner :
    IsFrame .htmlEmail (Html.tags govukBanner) govukBanner
    ∧ IsFrame .htmlEmail wideTableTags
      ("<table role=\"presentation\" width=\"100%\" cellpadding=\"0\" cellspacing=\"0\" ".toList
        ++ "border=\"0\"><tr>".toList)
    ∧ IsFrame .htmlEmail ["<td style=\"padding: 10px 15px;\">".toList]
      "<td style=\"padding: 10px 15px;\">".toList
    ∧ IsFrame .htmlEmail
      ["<span style=\"font-family: Helvetica, Arial, sans-serif; font-size: 19px; ".toList
        ++ "line-height: 1.315789474;\">".toList]
      ("<span style=\"font-family: Helvetica, Arial, sans-serif; font-size: 19px; ".toList
        ++ "line-height: 1.315789474;\">".toList)
    ∧ IsFrame .htmlEmail ["</span>".toList] "</span>".toList
    ∧ IsFrame .htmlEmail tableClosing "</td></tr></table>".toList := by
  unfold IsFrame wideTableTags tableClosing govukBanner Kind.tags MissingStyle.tags
    Markdown.blockTags
  dsimp only
  repeat rw [String.toList_ofList]
  decide +kernel

theorem isTag_logoTag {source alternative : Text} (hsource : IsPlain source)
    (halternative : IsPlain alternative) : IsTag (logoTag source alternative) := by
  have hmiddle : IsPlain (source ++ "\" alt=\"".toList ++ alternative) :=
    (hsource.append (by decide)).append halternative
  have hparts : logoTag source alternative = "<img src=\"".toList
      ++ (source ++ "\" alt=\"".toList ++ alternative)
      ++ "\" height=\"108\" style=\"display: block; border: 0;\">".toList := by
    unfold logoTag
    simp only [List.append_assoc]
  rw [hparts]
  exact isTag_of_parts (by decide) (by decide) hmiddle (by decide) (by decide)

theorem isTag_bannerCellTag {colour : Text} (h : IsPlain colour) : IsTag (bannerCellTag colour) :=
  isTag_of_parts (by decide) (by decide) h (by decide) (by decide)

theorem isTag_barCellTag {colour : Text} (h : IsPlain colour) : IsTag (barCellTag colour) :=
  isTag_of_parts (by decide) (by decide) h (by decide) (by decide)

/-- A wide table opens with a frame and goes on in a cell. -/
theorem wideTable_eq : wideTable
    = "<table role=\"presentation\" width=\"100%\" cellpadding=\"0\" cellspacing=\"0\" ".toList
      ++ "border=\"0\"><tr>".toList ++ "<td".toList := by
  unfold wideTable
  repeat rw [String.toList_ofList]
  rfl

/-- The cell of a brand is one tag, on its colour or on none. -/
theorem own_brandCell (colour : Option Text) :
    OwnMarkup .htmlEmail [brandCellTag colour]
      ("<td".toList ++ (colour.map backgroundAttribute).getD []
        ++ " style=\"padding: 10px 15px;\">".toList) := by
  cases colour with
  | none =>
    obtain ⟨-, -, hcell, -⟩ := isFrame_banner
    have hsplit : "<td".toList ++ [] ++ " style=\"padding: 10px 15px;\">".toList
        = "<td style=\"padding: 10px 15px;\">".toList := by
      repeat rw [String.toList_ofList]
      rfl
    rw [Option.map_none, Option.getD_none, hsplit]
    exact hcell.own
  | some colour =>
    have hvalue := Html.isAttributeValue_escapeAttribute colour
    have hcell : "<td".toList ++ backgroundAttribute colour
          ++ " style=\"padding: 10px 15px;\">".toList
        = bannerCellTag (Html.escapeAttribute colour) := by
      unfold backgroundAttribute bannerCellTag
      repeat rw [String.toList_ofList]
      simp
    rw [Option.map_some, Option.getD_some, hcell]
    exact .single (isTag_bannerCellTag hvalue.isPlain) (.bannerCell hvalue)

/-- The bar under a brand is a table whose cell has the colour. -/
theorem own_bar (colour : Text) :
    OwnMarkup .htmlEmail (barTags colour)
      (wideTable ++ " height=\"8\"".toList ++ backgroundAttribute colour
        ++ "></td></tr></table>".toList) := by
  obtain ⟨-, htable, -, -, -, hend⟩ := isFrame_banner
  have hvalue := Html.isAttributeValue_escapeAttribute colour
  have hcell : "<td".toList ++ " height=\"8\"".toList ++ backgroundAttribute colour
        ++ "></td></tr></table>".toList
      = barCellTag (Html.escapeAttribute colour) ++ "</td></tr></table>".toList := by
    unfold backgroundAttribute barCellTag
    repeat rw [String.toList_ofList]
    simp
  have hbar : OwnMarkup .htmlEmail [barCellTag (Html.escapeAttribute colour)]
      (barCellTag (Html.escapeAttribute colour)) :=
    .single (isTag_barCellTag hvalue.isPlain) (.barCell hvalue)
  have hwhole := (htable.own.append hbar).append hend.own
  rw [List.append_assoc _ (barCellTag _), ← hcell] at hwhole
  unfold barTags
  rw [wideTable_eq]
  simpa only [List.append_assoc] using hwhole

/-- The logo of a brand is one tag. -/
theorem own_brandLogo : OwnMarkup .htmlEmail d.brandLogoTags (d.brandLogoImage.getD []) := by
  unfold brandLogoTags brandLogoImage
  cases d.options.brandLogo with
  | none => exact .nil
  | some logo =>
    have hsource := Html.isAttributeValue_escapeAttribute logo
    have halternative := Html.isAttributeValue_escapeAttribute (d.options.brandName.getD [])
    exact .single (isTag_logoTag hsource.isPlain halternative.isPlain)
      (.logo hsource halternative)

/-- The text of a brand stands between two tags. -/
theorem own_brandText : OwnMarkup .htmlEmail d.brandTextTags (d.brandTextSpan.getD []) := by
  obtain ⟨-, -, -, htext, hspan, -⟩ := isFrame_banner
  unfold brandTextTags brandTextSpan
  cases d.options.brandText with
  | none => exact .nil
  | some t => exact (htext.own.append (.of_isPlain (isPlain_escape t))).append hspan.own

/-- A brand has its own tags. -/
theorem own_brandBlock : OwnMarkup .htmlEmail d.brandTags d.brandBlock := by
  obtain ⟨-, htable, -, -, -, hend⟩ := isFrame_banner
  have hcell : OwnMarkup .htmlEmail
      [brandCellTag (if d.options.brandBanner then d.options.brandColour else none)]
      ("<td".toList
        ++ (if d.options.brandBanner then (d.options.brandColour.map backgroundAttribute).getD []
          else [])
        ++ " style=\"padding: 10px 15px;\">".toList) := by
    split
    · exact own_brandCell d.options.brandColour
    · exact own_brandCell none
  have hbar : OwnMarkup .htmlEmail
      (if d.options.brandBanner then [] else (d.options.brandColour.map barTags).getD [])
      (if d.options.brandBanner || d.options.brandColour.isNone then []
        else wideTable ++ " height=\"8\"".toList
          ++ (d.options.brandColour.map backgroundAttribute).getD []
          ++ "></td></tr></table>".toList) := by
    cases d.options.brandBanner with
    | true => exact .nil
    | false =>
      cases d.options.brandColour with
      | none => exact .nil
      | some colour => exact own_bar colour
  have hbrand := (((htable.own.append hcell).append d.own_brandLogo).append
    d.own_brandText).append hend.own
  have hwhole := hbrand.append hbar
  unfold brandTags brandBlock
  have hnone : (d.brandLogoImage.isNone && d.brandTextSpan.isNone)
      = (d.options.brandLogo.isNone && d.options.brandText.isNone) := by
    rw [brandLogoImage, brandTextSpan, Option.isNone_map, Option.isNone_map]
  rw [hnone]
  split
  · exact .nil
  · rw [wideTable_eq]
    simpa only [List.append_assoc, wideTable_eq] using hwhole

/-- The banners above the body have their own tags. -/
theorem own_banner : OwnMarkup .htmlEmail d.bannerTags d.banner := by
  obtain ⟨hgovuk, -⟩ := isFrame_banner
  unfold bannerTags banner
  refine OwnMarkup.append ?_ d.own_brandBlock
  split
  · exact hgovuk.own
  · exact .nil

/-! ## Documents -/

/-- The tags that close a document. -/
def documentClosing : List Text :=
  tableClosing ++ ["</body>".toList, "</html>".toList]

/-- The tags of an HTML email: of a whole document, or of its body alone. -/
def htmlEmailTags : List Text :=
  if d.options.completeHtml then
    Html.tags documentHead ++ d.subjectTags .plain ++ Html.tags documentOpening
      ++ ["</span>".toList] ++ d.bannerTags ++ Html.tags contentTable ++ d.htmlBodyTags .email
      ++ documentClosing
  else d.htmlBodyTags .email

theorem isFrame_htmlEmail :
    IsFrame .htmlEmail (Html.tags documentHead) documentHead
    ∧ IsFrame .htmlEmail (Html.tags documentOpening) documentOpening
    ∧ IsFrame .htmlEmail ["</span>".toList] "</span>\n".toList
    ∧ IsFrame .htmlEmail (Html.tags contentTable) contentTable
    ∧ IsFrame .htmlEmail documentClosing "\n</td></tr></table>\n</body>\n</html>".toList := by
  unfold IsFrame documentHead documentOpening contentTable documentClosing tableClosing Kind.tags
    MissingStyle.tags Markdown.blockTags
  dsimp only
  repeat rw [String.toList_ofList]
  decide +kernel

/-- The body of an email has its own tags. -/
theorem own_htmlBody {kind : Kind} {links : Html.LinkStyle}
    (hstyle : kind.linkStyle? = some links) (hblock : Markdown.blockTags ⊆ kind.tags) :
    OwnMarkup kind (d.htmlBodyTags links) (d.htmlBody links) :=
  ⟨(d.htmlBody_traced links).1, d.ownTag_of_mem_htmlBodyTags hstyle hblock⟩

/-- **HTML emails.**  A whole document, or its body alone, has its own tags. -/
theorem own_htmlEmail : OwnMarkup .htmlEmail d.htmlEmailTags d.htmlEmail := by
  obtain ⟨hhead, hopening, hspan, htable, hend⟩ := isFrame_htmlEmail
  have hblock : Markdown.blockTags ⊆ Kind.htmlEmail.tags :=
    fun w hw => List.mem_append_left _ (List.mem_append_right _ hw)
  have hbody : OwnMarkup .htmlEmail (d.htmlBodyTags .email) (d.htmlBody .email) :=
    d.own_htmlBody rfl hblock
  have hsubject : OwnMarkup .htmlEmail (d.subjectTags .plain) d.htmlSubject :=
    .of_missing (fun w hw => absurd hw List.not_mem_nil) (d.markup_subject .plain)
  have hpreheader : OwnMarkup .htmlEmail [] d.preheader := .of_isPlain (isPlain_escape _)
  have hbanner : OwnMarkup .htmlEmail d.bannerTags
      (if d.banner.isEmpty then [] else d.banner ++ ['\n']) := by
    have hnewline : OwnMarkup .htmlEmail [] ['\n'] := .of_isPlain (by decide)
    split
    · rename_i hempty
      rw [← List.isEmpty_iff.1 hempty]
      exact d.own_banner
    · have happend := d.own_banner.append hnewline
      rwa [List.append_nil] at happend
  unfold htmlEmailTags htmlEmail
  dsimp only
  split
  · have hwhole := ((((((hhead.own.append hsubject).append hopening.own).append hpreheader).append
      hspan.own).append hbanner).append htable.own).append hbody |>.append hend.own
    simpa only [List.append_nil] using hwhole
  · exact hbody

/-! ## Previews of emails -/

/-- The tags of a row of the table above the preview, with those of its value. -/
def rowTags (inner : List Text) : List Text :=
  ["<tr>".toList, "<th class=\"email-message-meta__key\">".toList]
    ++ ["</th>".toList, "<td class=\"email-message-meta__value\">".toList] ++ inner
    ++ ["</td>".toList, "</tr>".toList]

/-- The tags of the rows above the preview. -/
def previewRowsTags : List Text :=
  (if d.fromLine?.isSome then rowTags [] else [])
    ++ (if d.options.replyTo.isSome then rowTags [] else [])
    ++ (if d.options.showRecipient then rowTags (d.recipientTags "email address") else [])
    ++ rowTags (d.subjectTags .highlighted)

/-- The tags of the preview of an email. -/
def emailPreviewTags : List Text :=
  ["<table class=\"email-message-meta\">".toList, "<tbody>".toList] ++ d.previewRowsTags
    ++ ["</tbody>".toList, "</table>".toList, "<div class=\"email-message-body\">".toList]
    ++ d.htmlBodyTags .preview ++ ["</div>".toList]

theorem isFrame_emailPreview :
    IsFrame .emailPreview ["<table class=\"email-message-meta\">".toList, "<tbody>".toList]
      "<table class=\"email-message-meta\"><tbody>\n".toList
    ∧ IsFrame .emailPreview ["<tr>".toList, "<th class=\"email-message-meta__key\">".toList]
      "<tr><th class=\"email-message-meta__key\">".toList
    ∧ IsFrame .emailPreview
      ["</th>".toList, "<td class=\"email-message-meta__value\">".toList]
      "</th><td class=\"email-message-meta__value\">".toList
    ∧ IsFrame .emailPreview ["</td>".toList, "</tr>".toList] "</td></tr>\n".toList
    ∧ IsFrame .emailPreview
      ["</tbody>".toList, "</table>".toList, "<div class=\"email-message-body\">".toList]
      "</tbody></table>\n<div class=\"email-message-body\">".toList
    ∧ IsFrame .emailPreview ["</div>".toList] "</div>".toList
    ∧ MissingStyle.noBrackets.tags ⊆ Kind.emailPreview.tags := by
  unfold IsFrame Kind.tags MissingStyle.tags Markdown.blockTags
  dsimp only
  repeat rw [String.toList_ofList]
  decide +kernel

/-- A row of the table has its own tags around those of its value. -/
theorem own_previewRow {heading : String} {value : Text} {ws : List Text}
    (hheading : IsPlain heading.toList) (h : OwnMarkup .emailPreview ws value) :
    OwnMarkup .emailPreview (rowTags ws) (previewRow heading value) := by
  obtain ⟨-, hkey, hvalue, hend, -⟩ := isFrame_emailPreview
  have hrow := (((hkey.own.append (.of_isPlain hheading)).append hvalue.own).append h).append
    hend.own
  rw [List.append_nil] at hrow
  exact hrow

/-- The sender is written as escaped text. -/
theorem isPlain_fromLine? : ∀ t ∈ d.fromLine?, IsPlain t := by
  intro t ht
  unfold fromLine? at ht
  dsimp only at ht
  split at ht
  · cases ht
    have hopen : IsPlain " &lt;".toList := by decide
    have hclose : IsPlain "&gt;".toList := by decide
    exact (((isPlain_escape _).append hopen).append (isPlain_escape _)).append hclose
  · cases ht
    exact isPlain_escape _
  · cases ht
    exact isPlain_escape _
  · cases ht

/-- The rows above the preview of an email have their own tags. -/
theorem own_previewRows : OwnMarkup .emailPreview d.previewRowsTags d.previewRows := by
  obtain ⟨-, -, -, -, -, -, hrecipient⟩ := isFrame_emailPreview
  have hstyle : Kind.emailPreview.linkStyle? = some .preview := rfl
  obtain ⟨-, hspans⟩ := mem_tags_of_linkStyle? hstyle
  have hfrom : OwnMarkup .emailPreview (if d.fromLine?.isSome then rowTags [] else [])
      ((d.fromLine?.map (previewRow "From")).getD []) := by
    cases hline : d.fromLine? with
    | none => exact .nil
    | some line => exact own_previewRow (by decide) (.of_isPlain (d.isPlain_fromLine? line hline))
  have hreply : OwnMarkup .emailPreview (if d.options.replyTo.isSome then rowTags [] else [])
      ((d.options.replyTo.map fun t => previewRow "Reply&nbsp;to" (Html.escape t)).getD []) := by
    cases d.options.replyTo with
    | none => exact .nil
    | some t => exact own_previewRow (by decide) (.of_isPlain (isPlain_escape t))
  have hto : OwnMarkup .emailPreview
      (if d.options.showRecipient then rowTags (d.recipientTags "email address") else [])
      (if d.options.showRecipient then previewRow "To" (d.recipient "email address") else []) := by
    split
    · exact own_previewRow (by decide) (.of_missing hrecipient (d.markup_recipient _))
    · exact .nil
  have hsubject : OwnMarkup .emailPreview (rowTags (d.subjectTags .highlighted))
      (previewRow "Subject" d.previewSubject) :=
    own_previewRow (by decide)
      (.of_missing (fun w hw => hspans w hw) (d.markup_subject .highlighted))
  exact ((hfrom.append hreply).append hto).append hsubject

/-- **Previews of emails.**  They have their own tags. -/
theorem own_emailPreview : OwnMarkup .emailPreview d.emailPreviewTags d.emailPreview := by
  obtain ⟨htable, -, -, -, hwrapper, hdiv, -⟩ := isFrame_emailPreview
  have hblock : Markdown.blockTags ⊆ Kind.emailPreview.tags :=
    fun w hw => List.mem_append_left _ (List.mem_append_left _ (List.mem_append_right _ hw))
  have hbody : OwnMarkup .emailPreview (d.htmlBodyTags .preview) (d.htmlBody .preview) :=
    d.own_htmlBody rfl hblock
  exact (((htable.own.append d.own_previewRows).append hwrapper.own).append hbody).append hdiv.own

end Draft

namespace Message

/-- The tags of a message in markup: the scaffold of its kind. -/
def tags (m : Message) : List Text :=
  match m.kind with
  | .smsPreview => m.draft.smsPreviewTags
  | .broadcastPreview => m.draft.broadcastPreviewTags
  | .htmlEmail => m.draft.htmlEmailTags
  | .emailPreview => m.draft.emailPreviewTags
  | .smsBodyPreview | .smsMessage | .broadcastMessage | .plainTextEmail => []

/-- What the tags of the body of a message go back to: to blocks, links and line
breaks, and to nothing in its content but the names that are missing. -/
def BodyTraced (m : Message) : Prop :=
  match m.kind with
  | .smsPreview => m.draft.PreviewTraced m.draft.options.visibleServiceName
  | .broadcastPreview => m.draft.PreviewTraced none
  | .htmlEmail => m.draft.HtmlTraced .email
  | .emailPreview => m.draft.HtmlTraced .preview
  | .smsBodyPreview | .smsMessage | .broadcastMessage | .plainTextEmail => True

/-- **Tags.**  Whatever the template, the values and the options are, a message
in markup has the tags of its scaffold, in order, and no angle bracket besides.
Each of them is a tag of its kind, with nothing in the values of its attributes
that ends them, and those of the body are traced back to what they were put in
for. -/
theorem markup_rendered (m : Message) (h : m.kind.isMarkup = true) :
    Markup m.tags m.rendered ∧ (∀ w ∈ m.tags, OwnTag m.kind w) ∧ m.BodyTraced := by
  obtain ⟨kind, d⟩ := m
  cases kind with
  | smsPreview =>
    exact ⟨d.own_smsPreview.markup, d.own_smsPreview.own, (d.previewBody_traced _).2⟩
  | smsBodyPreview => exact ⟨d.own_smsBodyPreview.markup, d.own_smsBodyPreview.own, trivial⟩
  | broadcastPreview =>
    exact ⟨d.own_broadcastPreview.markup, d.own_broadcastPreview.own, (d.previewBody_traced _).2⟩
  | htmlEmail =>
    exact ⟨d.own_htmlEmail.markup, d.own_htmlEmail.own, (d.htmlBody_traced .email).2⟩
  | emailPreview =>
    exact ⟨d.own_emailPreview.markup, d.own_emailPreview.own, (d.htmlBody_traced .preview).2⟩
  | smsMessage | broadcastMessage | plainTextEmail => cases h

/-- Markup in a template, in an item of a value, in the name of a missing value,
in a service name and in a sender opens and closes no tag. -/
theorem markup_rendered_of_script :
    let m : Message := ⟨.smsPreview, ⟨⟨"<i>((x))((<b>))".toList, none, .sms⟩,
      { serviceName := some "</p>".toList, sender := some "\"><script>".toList,
        showSender := true, downgrade := false },
      .ofList [("x".toList, .list [.text "</b>".toList])]⟩⟩
    m.kind.isMarkup = true
      ∧ (Markup m.tags m.rendered ∧ (∀ w ∈ m.tags, OwnTag m.kind w) ∧ m.BodyTraced)
      ∧ m.tags
        = ["<div class=\"sms-message-wrapper\">".toList,
          "<span class=\"sms-message-sender\">".toList, "</span>".toList,
          "<br>".toList, "<br>".toList, "<br>".toList, "<br>".toList,
          "<span class='placeholder'>".toList, "</span>".toList, "</div>".toList] := by
  intro m
  refine ⟨rfl, markup_rendered m rfl, ?_⟩
  cbv

end Message

end MessageTemplate
