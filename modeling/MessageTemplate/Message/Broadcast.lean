/-
# Cell broadcasts

The text that is broadcast, and its preview as an emergency alert.  A
broadcast has no parts in transport; it must fit the capacity of its encoding.
-/
import MessageTemplate.Message.Draft

namespace MessageTemplate.Draft

variable (d : Draft)

/-! ## Texts -/

/-- The text that is broadcast. -/
def broadcastText : Text :=
  d.sendable d.plainBody

/-- The icon in front of the heading of an alert. -/
def alertIcon : Text :=
  "<svg class=\"broadcast-message-heading__icon\" xmlns=\"http://www.w3.org/2000/svg\"".toList
    ++ " viewBox=\"0 0 24 24\" aria-hidden=\"true\" focusable=\"false\">".toList
    ++ "<path d=\"M12 2 1 21h22L12 2zm1 16h-2v-2h2v2zm0-4h-2V9h2v5z\"/></svg>".toList

/-- The preview under the heading of an alert. -/
def broadcastPreview : Text :=
  "<div class=\"broadcast-message-wrapper\"><h2 class=\"broadcast-message-heading\">".toList
    ++ alertIcon ++ "Emergency alert</h2>".toList ++ d.previewBody none ++ "</div>".toList

/-! ## Sizes -/

/-- The length of a broadcast. -/
def broadcastLength : Gsm.Length :=
  (Measured.ofDraft d).length

/-- Whether a broadcast has no characters. -/
def broadcastIsEmpty : Bool :=
  (Measured.ofDraft d).characters == 0

/-- Whether a broadcast exceeds the capacity of its encoding. -/
def broadcastIsTooLong : Bool :=
  d.broadcastLength.encoding.broadcastCapacity < d.broadcastLength.units

/-- The number of whole capacities that a broadcast needs. -/
def broadcastParts : Nat :=
  Gsm.broadcastParts d.broadcastLength.units d.broadcastLength.encoding

/-- The characters that force a broadcast into UCS-2. -/
def broadcastOutsiders : List Char :=
  Gsm.outsiders (Measured.ofDraft d).body

end MessageTemplate.Draft
