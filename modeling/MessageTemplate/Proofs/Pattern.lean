/-
# The pattern of links

A link is written as an address with a scheme or, where bare domains are looked
for, as a host name with an optional path.  What reads as a link is a word of
this pattern (`Html.isMatch_rawLink?`), read where it stands and where a word
starts.
-/
import Mathlib
import MessageTemplate.Proofs.Link

namespace MessageTemplate.Html

/-! ## Words of the pattern -/

/-- An address with a scheme: a scheme that starts with a letter, the mark behind
it, and at least one link character. -/
def IsAddress (t : Text) : Prop :=
  ∃ scheme body, t = scheme ++ schemeMark ++ body
    ∧ scheme.head?.any isSchemeLetter = true ∧ (∀ c ∈ scheme, isSchemeCharacter c = true)
    ∧ body ≠ [] ∧ ∀ c ∈ body, isLinkCharacter c = true

/-- A label of a host name: letters, digits and hyphens, with no hyphen at its ends. -/
structure IsHostLabel (label : Text) : Prop where
  isLabel : isLabel label = true
  characters : ∀ c ∈ label, isLabelCharacter c = true

/-- A host name: labels with a dot behind each, and a top-level domain. -/
inductive IsHost : Text → Prop
  | topLevel {label letters : Text} : IsHostLabel label → IsTopLevel letters →
      IsHost (label ++ '.' :: letters)
  | label {label host : Text} : IsHostLabel label → IsHost host → IsHost (label ++ '.' :: host)

/-- Whether a character starts a path, a query or a fragment. -/
def isPathMark (c : Char) : Bool :=
  c == '/' || c == '?' || c == '#'

/-- What may stand behind a host name: nothing, or link characters behind a mark. -/
inductive IsPath : Text → Prop
  | nil : IsPath []
  | cons {mark : Char} {rest : Text} : isPathMark mark = true →
      (∀ c ∈ rest, isLinkCharacter c = true) → IsPath (mark :: rest)

/-- A bare domain: a host name and what may stand behind it. -/
def IsDomain (t : Text) : Prop :=
  ∃ host path, t = host ++ path ∧ IsHost host ∧ IsPath path

/-- The words of the pattern, by the settings. -/
def IsMatch (bareDomains : Bool) (t : Text) : Prop :=
  IsAddress t ∨ bareDomains = true ∧ IsDomain t

/-! ## What is read -/

/-- What is read as an address with a scheme is one. -/
theorem isAddress_addressWithScheme? {t raw : Text} (h : addressWithScheme? t = some raw) :
    IsAddress raw := by
  obtain ⟨scheme, body, -, -, hraw, hletter, hscheme, hne, hbody, -⟩ :=
    addressWithScheme?_eq_some h
  exact ⟨scheme, body, hraw, hletter, hscheme, hne, hbody⟩

/-- What is read as a host name is one. -/
theorem isHost_host? {t host : Text} (h : host? t = some host) : IsHost host := by
  refine host?_induction (motive := fun _ host => IsHost host) ?_ h
  intro t rest tail _ hlabel htail
  have hhostLabel : IsHostLabel (t.takeWhile isLabelCharacter) :=
    ⟨hlabel, fun c hc => List.mem_takeWhile_imp hc⟩
  rcases htail with htail | htop
  · exact .label hhostLabel htail
  · exact .topLevel hhostLabel (isTopLevel_topLevel? htop).1

/-- What is read behind a host name may stand there. -/
theorem isPath_pathOf (t : Text) : IsPath (pathOf t) := by
  rcases pathOf_cases t with hnone | ⟨mark, rest, -, -, hpath, hmark, hrest, -⟩
  · rw [hnone]
    exact .nil
  · rw [hpath]
    exact .cons hmark hrest

/-- **The pattern.**  What reads as a link stands in front of the text, where a
word starts, and is a word of the pattern. -/
theorem isMatch_rawLink? {bareDomains : Bool} {previous : Option Char} {t raw : Text}
    (h : rawLink? bareDomains previous t = some raw) :
    raw <+: t ∧ previous.any isWordCharacter = false ∧ IsMatch bareDomains raw := by
  obtain ⟨hword, hread⟩ := rawLink?_eq_some h
  refine ⟨(isLink_rawLink? h).1, hword, ?_⟩
  rcases hread with haddress | ⟨hbare, hdomain⟩
  · exact Or.inl (isAddress_addressWithScheme? haddress)
  · obtain ⟨host, hhost, rfl⟩ := Option.map_eq_some_iff.1 hdomain
    exact Or.inr ⟨hbare, host, _, rfl, isHost_host? hhost, isPath_pathOf _⟩

end MessageTemplate.Html
