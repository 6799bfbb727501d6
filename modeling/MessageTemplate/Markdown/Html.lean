/-
# Markdown as HTML

Blocks as the markup of an email: every element carries its style, since
email programs drop style sheets.
-/
import MessageTemplate.Markdown.Block

namespace MessageTemplate.Markdown

/-! ## Styles -/

/-- The style of a paragraph. -/
def paragraphStyle : Text :=
  "Margin: 0 0 20px 0; font-size: 19px; line-height: 25px; color: #0B0C0C;".toList

/-- The style of a heading. -/
def headingStyle : Text :=
  "Margin: 0 0 20px 0; padding: 0; font-size: 27px; line-height: 35px; ".toList
    ++ "font-weight: bold; color: #0B0C0C;".toList

/-- The style of an item of a list. -/
def itemStyle : Text :=
  "Margin: 5px 0 5px; padding: 0 0 0 5px; font-size: 19px; line-height: 25px; ".toList
    ++ "color: #0B0C0C;".toList

/-- The style of an inset. -/
def insetStyle : Text :=
  "Margin: 0 0 20px 0; border-left: 10px solid #B1B4B6; padding: 15px 0 0.1px 15px; ".toList
    ++ "font-size: 19px; line-height: 25px;".toList

/-- The style of a rule. -/
def ruleStyle : Text :=
  "border: 0; height: 1px; background: #B1B4B6; Margin: 30px 0 30px 0;".toList

/-! ## Blocks -/

/-- An element with a style around markup. -/
def styled (element : String) (style content : Text) : Text :=
  '<' :: element.toList ++ " style=\"".toList ++ style ++ "\">".toList ++ content
    ++ "</".toList ++ element.toList ++ ['>']

/-- Lines as a paragraph with line breaks. -/
def paragraphHtml (lines : List Text) : Text :=
  styled "p" paragraphStyle (List.intercalate "<br />".toList lines)

/-- Items as a list, in a table that gives it its indentation. -/
def listHtml (element kind : String) (items : List Text) : Text :=
  "<table role=\"presentation\" style=\"padding: 0 0 20px 0;\"><tr>".toList
    ++ "<td style=\"font-family: Helvetica, Arial, sans-serif;\">".toList
    ++ styled element
        ("Margin: 0 0 0 20px; padding: 0; list-style-type: ".toList ++ kind.toList ++ [';'])
        (items.flatMap (styled "li" itemStyle))
    ++ "</td></tr></table>".toList

/-- A block as markup. -/
def Block.html : Block → Text
  | .heading title => styled "h2" headingStyle title
  | .paragraph lines => paragraphHtml lines
  | .list true items => listHtml "ol" "decimal" items
  | .list false items => listHtml "ul" "disc" items
  | .inset lines => styled "blockquote" insetStyle (paragraphHtml lines)
  | .rule => "<hr style=\"".toList ++ ruleStyle ++ "\">".toList

/-- A text of markdown as markup, a block a line. -/
def html (t : Text) : Text :=
  List.intercalate ['\n'] ((blocks t).map Block.html)

end MessageTemplate.Markdown
