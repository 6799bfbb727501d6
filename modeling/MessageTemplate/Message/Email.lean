/-
# Emails

An email as plain text, as HTML, and as a preview of that HTML under a table
of its sender and subject.
-/
import MessageTemplate.Markdown.Html
import MessageTemplate.Markdown.PlainText
import MessageTemplate.Message.Sms
import MessageTemplate.Text.Typography

namespace MessageTemplate.Draft

variable (d : Draft)

/-! ## Subjects and bodies -/

/-- The subject as it was written. -/
def rawSubject : Text :=
  d.spec.subject.getD []

/-- The personalised subject. -/
def subject (html : HtmlMode) (style : MissingStyle) : Text :=
  let s : Substitution :=
    { html := html, style := style, redactMissing := d.options.redactMissing }
  normaliseWhitespace (niceTypography (html != .passthrough) (s.render d.values d.rawSubject))

/-- The names of placeholders in the subject, then in the content. -/
def emailPlaceholders : List Text :=
  (placeholders d.rawSubject ++ placeholders d.spec.content).eraseDups

/-- The markdown behind the plain text. -/
def plainMarkdown : Text :=
  niceTypography false d.plainBody

/-- The markdown behind the HTML. -/
def markupMarkdown (links : Html.LinkStyle) : Text :=
  Html.autolink links false (niceTypography true d.markupBody)

/-- The email as plain text. -/
def plainTextEmail : Text :=
  Markdown.plainText d.plainMarkdown

/-- The body of the email as HTML. -/
def htmlBody (links : Html.LinkStyle) : Text :=
  Markdown.html (d.markupMarkdown links)

/-! ## The document -/

/-- The characters of plain text that mail programs show beside the subject. -/
def preheaderLength : Nat := 256

/-- The text that mail programs show beside the subject. -/
def preheader : Text :=
  Html.escape ((normaliseWhitespace d.plainTextEmail).take preheaderLength)

/-- The banner of the government's web site. -/
def govukBanner : Text :=
  "<table role=\"presentation\" width=\"100%\" style=\"border-collapse: collapse; ".toList
    ++ "min-width: 100%; width: 100% !important;\" cellpadding=\"0\" cellspacing=\"0\" ".toList
    ++ "border=\"0\"><tr><td width=\"100%\" height=\"53\" bgcolor=\"#0b0c0c\">".toList
    ++ "<span style=\"font-family: Helvetica, Arial, sans-serif; font-weight: 700; ".toList
    ++ "color: #ffffff; font-size: 28px; line-height: 1.315789474; padding: 10px 15px; ".toList
    ++ "display: inline-block;\">GOV.UK</span></td></tr></table>".toList

/-- The opening of a table as wide as the page. -/
def wideTable : Text :=
  "<table role=\"presentation\" width=\"100%\" cellpadding=\"0\" cellspacing=\"0\" ".toList
    ++ "border=\"0\"><tr><td".toList

/-- The attribute that gives a cell its background. -/
def backgroundAttribute (colour : Text) : Text :=
  " bgcolor=\"".toList ++ Html.escapeAttribute colour ++ "\"".toList

/-- The logo of a brand as an image. -/
def brandLogoImage : Option Text :=
  d.options.brandLogo.map fun logo =>
    "<img src=\"".toList ++ Html.escapeAttribute logo ++ "\" alt=\"".toList
      ++ Html.escapeAttribute (d.options.brandName.getD [])
      ++ "\" height=\"108\" style=\"display: block; border: 0;\">".toList

/-- The text of a brand. -/
def brandTextSpan : Option Text :=
  d.options.brandText.map fun t =>
    "<span style=\"font-family: Helvetica, Arial, sans-serif; font-size: 19px; ".toList
      ++ "line-height: 1.315789474;\">".toList ++ Html.escape t ++ "</span>".toList

/-- The logo and text of a brand, on its colour in a banner and else above a
bar of its colour. -/
def brandBlock : Text :=
  if d.brandLogoImage.isNone && d.brandTextSpan.isNone then []
  else
    let colour := (d.options.brandColour.map backgroundAttribute).getD []
    let background := if d.options.brandBanner then colour else []
    let bar :=
      if d.options.brandBanner || d.options.brandColour.isNone then []
      else wideTable ++ " height=\"8\"".toList ++ colour ++ "></td></tr></table>".toList
    wideTable ++ background ++ " style=\"padding: 10px 15px;\">".toList
      ++ d.brandLogoImage.getD [] ++ d.brandTextSpan.getD [] ++ "</td></tr></table>".toList
      ++ bar

/-- The banners above the body. -/
def banner : Text :=
  (if d.options.govukBanner && !d.options.brandBanner then govukBanner else []) ++ d.brandBlock

/-- The document up to its title. -/
def documentHead : Text :=
  "<!DOCTYPE html>\n<html lang=\"en\">\n<head>\n".toList
    ++ "<meta http-equiv=\"Content-Type\" content=\"text/html; charset=utf-8\">\n".toList
    ++ "<meta name=\"viewport\" content=\"width=device-width, initial-scale=1\">\n<title>".toList

/-- The document between its title and the preheader. -/
def documentOpening : Text :=
  "</title>\n</head>\n<body style=\"font-family: Helvetica, Arial, sans-serif; ".toList
    ++ "font-size: 16px; margin: 0; color: #0b0c0c;\">\n".toList
    ++ "<span style=\"display: none; font-size: 1px; color: #fff; max-height: 0;\" hidden>".toList

/-- The table around the body. -/
def contentTable : Text :=
  "<table role=\"presentation\" class=\"content\" align=\"center\" ".toList
    ++ "style=\"border-collapse: collapse; max-width: 580px; width: 100% !important;\" ".toList
    ++ "cellpadding=\"0\" cellspacing=\"0\" border=\"0\"><tr>".toList
    ++ "<td style=\"font-family: Helvetica, Arial, sans-serif; font-size: 19px; ".toList
    ++ "line-height: 1.315789474; padding: 30px 10px;\">\n".toList

/-- The subject of the HTML email. -/
def htmlSubject : Text :=
  d.subject .escape .plain

/-- The email as HTML: a whole document, or its body alone. -/
def htmlEmail : Text :=
  let body := d.htmlBody .email
  if d.options.completeHtml then
    documentHead ++ d.htmlSubject ++ documentOpening ++ d.preheader ++ "</span>\n".toList
      ++ (if d.banner.isEmpty then [] else d.banner ++ ['\n'])
      ++ contentTable ++ body ++ "\n</td></tr></table>\n</body>\n</html>".toList
  else body

/-! ## The preview -/

/-- The name and address of the sender, as far as they are given. -/
def fromLine? : Option Text :=
  let given := Options.shownText true
  match given d.options.fromName, given d.options.fromAddress with
  | some name, some address =>
    some (Html.escape name ++ " &lt;".toList ++ Html.escape address ++ "&gt;".toList)
  | some name, none => some (Html.escape name)
  | none, some address => some (Html.escape address)
  | none, none => none

/-- A row of the table above the preview. -/
def previewRow (heading : String) (value : Text) : Text :=
  "<tr><th class=\"email-message-meta__key\">".toList ++ heading.toList
    ++ "</th><td class=\"email-message-meta__value\">".toList ++ value ++ "</td></tr>\n".toList

/-- The subject of the preview. -/
def previewSubject : Text :=
  d.subject .escape .highlighted

/-- The rows above the preview. -/
def previewRows : Text :=
  ((d.fromLine?.map (previewRow "From")).getD [])
    ++ ((d.options.replyTo.map fun t => previewRow "Reply&nbsp;to" (Html.escape t)).getD [])
    ++ (if d.options.showRecipient then previewRow "To" (d.recipient "email address") else [])
    ++ previewRow "Subject" d.previewSubject

/-- The preview of the email. -/
def emailPreview : Text :=
  "<table class=\"email-message-meta\"><tbody>\n".toList ++ d.previewRows
    ++ "</tbody></table>\n<div class=\"email-message-body\">".toList
    ++ d.htmlBody .preview ++ "</div>".toList

/-! ## Sizes -/

/-- The bytes of personalised text that an email may have. -/
def emailByteLimit : Nat := 2000000

/-- The number of characters of the personalised text. -/
def emailCharacters : Nat :=
  d.plainBody.length

/-- The size of the personalised text in bytes. -/
def emailBytes : Nat :=
  d.plainBody.utf8Size

/-- Whether an email has more bytes than it may. -/
def emailIsTooLong : Bool :=
  emailByteLimit < d.emailBytes

end MessageTemplate.Draft
