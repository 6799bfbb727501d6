/-
# Links

A link is an address with a scheme (`https://gov.uk/guidance`) or, where bare
domains are looked for, a host name with an optional path
(`gov.uk/guidance`).  It starts where a word starts and not behind a character
that would make it a part of something longer, such as the at sign of an email
address.  Closing punctuation and escaped markup at its end stay outside it.

`Html.spans` reads a text as characters and links, `Html.autolink` writes each
link between tags as an anchor; what is no link is copied as it stands.
-/
import MessageTemplate.Html.Tag
import MessageTemplate.Text.Blank
import MessageTemplate.Unicode.Word

namespace MessageTemplate.Html

/-! ## Addresses with a scheme -/

/-- Whether a character is a letter of a scheme.  Case is ignored, and under
Unicode the long s and the Kelvin sign are cases of `s` and `k`. -/
def isSchemeLetter (c : Char) : Bool :=
  c.isAlpha || c == '\u017f' || c == '\u212a'

/-- Whether a character may stand in a scheme behind its first letter. -/
def isSchemeCharacter (c : Char) : Bool :=
  isSchemeLetter c || c.isDigit || c == '+' || c == '.' || c == '-'

/-- Whether a character may stand in a link behind its scheme or host. -/
def isLinkCharacter (c : Char) : Bool :=
  !(isBlank c || c == '<' || c == '>' || c == '"')

/-- What stands between the scheme and the rest of an address. -/
def schemeMark : Text := "://".toList

/-- The address with a scheme at the front of a text. -/
def addressWithScheme? (t : Text) : Option Text :=
  if t.head?.any isSchemeLetter then
    let scheme := t.takeWhile isSchemeCharacter
    match Text.after? schemeMark (t.drop scheme.length) with
    | some rest =>
      let body := rest.takeWhile isLinkCharacter
      if body.isEmpty then none else some (scheme ++ schemeMark ++ body)
    | none => none
  else none

/-! ## Bare domains -/

/-- Whether a character may stand in a label of a host name. -/
def isLabelCharacter (c : Char) : Bool :=
  c.isAlphanum || c == '-'

/-- Whether a run of label characters is a label: it starts and ends with a
letter or digit. -/
def isLabel (label : Text) : Bool :=
  label.head?.any Char.isAlphanum && label.getLast?.any Char.isAlphanum

/-- The top-level domain at the front of a text: up to 63 small letters, and
at least two of them. -/
def topLevel? (t : Text) : Option Text :=
  let letters := (t.takeWhile Char.isLower).take 63
  if 2 ≤ letters.length then some letters else none

/-- The host name at the front of a text: as many labels as can be read, each
with a dot behind it, and a top-level domain. -/
def host? (t : Text) : Option Text :=
  match _rest : t.dropWhile isLabelCharacter with
  | '.' :: rest =>
    let label := t.takeWhile isLabelCharacter
    if isLabel label then
      ((host? rest).or (topLevel? rest)).map fun tail => label ++ '.' :: tail
    else none
  | _ => none
termination_by t.length
decreasing_by
  have := (List.dropWhile_sublist (l := t) isLabelCharacter).length_le
  rw [_rest] at this
  simp only [List.length_cons] at this
  omega

/-- The path, query or fragment at the front of a text, which may be empty. -/
def pathOf : Text → Text
  | c :: rest =>
    if c == '/' || c == '?' || c == '#' then c :: rest.takeWhile isLinkCharacter else []
  | [] => []

/-- The bare domain at the front of a text, with the path behind it. -/
def bareDomain? (t : Text) : Option Text :=
  (host? t).map fun host => host ++ pathOf (t.drop host.length)

/-! ## The end of a link -/

/-- The entities that end a link in escaped text. -/
def endingEntities : List Text :=
  ["&lt;".toList, "&gt;".toList, "&quot;".toList]

/-- A text before the first entity that ends a link. -/
def beforeEntity : Text → Text
  | [] => []
  | c :: rest =>
    if endingEntities.any fun entity => entity.isPrefixOf (c :: rest) then []
    else c :: beforeEntity rest

/-- Whether a character is closing punctuation, which ends no link. -/
def isClosing (c : Char) : Bool :=
  c == '.' || c == ',' || c == ';' || c == ':' || c == '!' || c == '?' || c == '\'' || c == '"'
    || c == '’' || c == '”' || c == ']'

/-- Whether the last character of a link, given with what stands before it
(latest first), has to go: closing punctuation, or a closing bracket in a
link with more closing than opening brackets. -/
def mustDropLast (last : Char) (before : Text) : Bool :=
  isClosing last || (last == ')' && before.count '(' < before.count ')' + 1)

/-- A link, latest character first, without the characters at its end that have to go. -/
def dropClosing : Text → Text
  | [] => []
  | last :: before => if mustDropLast last before then dropClosing before else last :: before

/-- The link itself in what was read as a link. -/
def trimLink (raw : Text) : Text :=
  (dropClosing (beforeEntity raw).reverse).reverse

/-! ## Finding links -/

/-- Whether a character in front of a link makes it a part of something longer. -/
def joinsLink (c : Char) : Bool :=
  isAlphanumeric c || c == '@' || c == '.' || c == '/' || c == '-' || c == '_'

/-- What reads as a link at the front of a text, given the character in front of it. -/
def rawLink? (bareDomains : Bool) (previous : Option Char) (t : Text) : Option Text :=
  if previous.any isWordCharacter then none
  else (addressWithScheme? t).or (if bareDomains then bareDomain? t else none)

/-- A text with links is made of single characters and links. -/
inductive Span
  | character (c : Char)
  | link (t : Text)
  deriving DecidableEq, Repr

/-- A span as it was written. -/
def Span.source : Span → Text
  | .character c => [c]
  | .link t => t

/-- Whether a trimmed link is worth an anchor: it has a dot or a scheme. -/
def isWorthLinking (link : Text) : Bool :=
  link.contains '.' || Text.holds schemeMark link

/-- What reads as a link, as a link and the characters left outside it. -/
def spansOfRaw (previous : Option Char) (raw : Text) : List Span :=
  let link := trimLink raw
  if !previous.any joinsLink && isWorthLinking link then
    .link link :: (raw.drop link.length).map .character
  else
    raw.map .character

/-- Worker of `spans`; `done` holds the spans read so far, latest first. -/
def spansAux (bareDomains : Bool) (previous : Option Char) (t : Text) (done : List Span) :
    List Span :=
  match t with
  | [] => done.reverse
  | c :: rest =>
    match rawLink? bareDomains previous (c :: rest) with
    | none => spansAux bareDomains (some c) rest (.character c :: done)
    | some raw =>
      spansAux bareDomains raw.getLast? (rest.drop (raw.length - 1))
        ((spansOfRaw previous raw).reverseAux done)
termination_by t.length
decreasing_by
  · simp
  · simp only [List.length_drop, List.length_cons]
    omega

/-- The characters and links of a text. -/
def spans (bareDomains : Bool) (t : Text) : List Span :=
  spansAux bareDomains none t []

/-! ## Anchors -/

/-- How anchors are decorated. -/
inductive LinkStyle
  /-- An inline style, for email programs. -/
  | email
  /-- The classes of the design system, for previews. -/
  | preview
  deriving DecidableEq, Repr

/-- The attributes of an anchor in front of its address. -/
def LinkStyle.attributes : LinkStyle → Text
  | .email => "style=\"word-wrap: break-word; color: #1D70B8;\"".toList
  | .preview => "class=\"govuk-link govuk-link--no-visited-state\"".toList

/-- The anchor of a link.  Entities already in the link are kept, and a bare
domain is reached over `http`. -/
def anchor (style : LinkStyle) (link : Text) : Text :=
  let shown := escape (unescape link)
  let address := if Text.holds schemeMark link then shown else "http://".toList ++ shown
  "<a ".toList ++ style.attributes ++ " href=\"".toList ++ address ++ "\">".toList ++ shown
    ++ "</a>".toList

/-- A span as it is written in markup. -/
def Span.html (style : LinkStyle) : Span → Text
  | .character c => [c]
  | .link t => anchor style t

/-- A piece with its links as anchors; a tag is left as it is. -/
def Piece.autolink (style : LinkStyle) (bareDomains : Bool) : Piece → Text
  | .text t => (spans bareDomains t).flatMap (Span.html style)
  | .tag t => t

/-- A text with the links between its tags as anchors. -/
def autolink (style : LinkStyle) (bareDomains : Bool) (t : Text) : Text :=
  (pieces t).flatMap (Piece.autolink style bareDomains)

end MessageTemplate.Html
