/-
# The GSM alphabets

The default alphabet of GSM 03.38 holds the characters that take one unit of a
text message, its extension those that take two.  Any other character forces a
message into UCS-2.
-/
import MessageTemplate.Text.Basic

namespace MessageTemplate.Gsm

/-- The characters of the default alphabet, without the escape to the extension. -/
def basicAlphabet : Text :=
  "@£$¥èéùìòÇ\nØø\rÅåΔ_ΦΓΛΩΠΨΣΘΞÆæßÉ !\"#¤%&'()*+,-./0123456789:;<=>?¡".toList
    ++ "ABCDEFGHIJKLMNOPQRSTUVWXYZÄÖÑÜ§¿abcdefghijklmnopqrstuvwxyzäöñüà".toList

/-- The characters of the extension. -/
def extension : Text :=
  ['^', '{', '}', '\\', '[', '~', ']', '|', '€']

/-- The letters with Welsh diacritics, which may be sent though some are in neither alphabet. -/
def welshLetters : Text :=
  "àÀâÂäÄèÈéÉêÊëËìÌîÎïÏòÒôÔöÖùÙûÛüÜŵŴŷŶáÁíÍóÓúÚẁẀẃẂẅẄỳỲýÝÿŸ".toList

/-- Where a character stands with respect to the alphabets. -/
inductive Membership
  | basic
  | extended
  | outside
  deriving DecidableEq, Repr

/-- The units a character takes in a message without characters outside the alphabets. -/
def Membership.units : Membership → Nat
  | .basic => 1
  | .extended => 2
  | .outside => 1

/-- Where a character stands. -/
def classify (c : Char) : Membership :=
  if basicAlphabet.contains c then .basic
  else if extension.contains c then .extended
  else .outside

/-- Whether a character is in neither alphabet. -/
def isOutside (c : Char) : Bool :=
  classify c == .outside

/-- Whether a character may stand in a text message. -/
def isSendable (c : Char) : Bool :=
  !isOutside c || welshLetters.contains c

/-- The characters in neither alphabet, in order of first appearance. -/
def outsiders (t : Text) : List Char :=
  (t.filter isOutside).eraseDups

end MessageTemplate.Gsm
