import CallControl.Redaction.Pattern

/-! # Network addresses

The patterns of the two address families. An IPv4 address is four groups of one to
three digits, the last of which may be the letter x that stands for a group already
hidden. An IPv6 address is eight hexadecimal groups, or fewer around a double colon
and then perhaps with a zone index.
-/

namespace CallControl.Redaction

open Pattern

/-- The ASCII digits. -/
def isDigit (character : Char) : Bool :=
  '0' ≤ character && character ≤ '9'

/-- The ASCII hexadecimal digits in either case. -/
def isHexDigit (character : Char) : Bool :=
  isDigit character || ('a' ≤ character && character ≤ 'f') ||
    ('A' ≤ character && character ≤ 'F')

/-- The characters of a zone index: the ASCII letters and digits, and the two
characters beyond ASCII that are a case of the letters s and k. -/
def isZoneChar (character : Char) : Bool :=
  isDigit character || ('a' ≤ character && character ≤ 'z') ||
    ('A' ≤ character && character ≤ 'Z') || character == '\u017f' || character == '\u212a'

/-- One to three digits. -/
def digitGroup : Pattern :=
  (Pattern.symbol isDigit).between 1 2

/-- An IPv4 address. -/
def ipv4 : Pattern :=
  .seq (Pattern.repeated (.seq digitGroup (literal '.')) 3) (.choice (literal 'x') digitGroup)

/-- One to four hexadecimal digits. -/
def hexGroup : Pattern :=
  (Pattern.symbol isHexDigit).between 1 3

/-- A hexadecimal group and the colon behind it. -/
def hexGroupColon : Pattern :=
  .seq hexGroup (literal ':')

/-- What may stand behind a double colon: up to seven groups. -/
def groupsAfterGap : Pattern :=
  Pattern.optional (.seq hexGroup (Pattern.atMost (.seq (literal ':') hexGroup) 6))

/-- A zone index with its percent sign, or nothing. -/
def zone : Pattern :=
  Pattern.optional (.seq (literal '%') (.run isZoneChar))

/-- Eight groups. -/
def ipv6Full : Pattern :=
  .seq (hexGroupColon.repeated 7) hexGroup

/-- One to seven groups, a double colon, and the rest. -/
def ipv6Gap : Pattern :=
  .seq (hexGroupColon.between 1 6) (.seq (literal ':') (.seq groupsAfterGap zone))

/-- A double colon at the front, and the rest. -/
def ipv6LeadingGap : Pattern :=
  .seq (literal ':') (.seq (literal ':') (.seq groupsAfterGap zone))

/-- An IPv6 address. -/
def ipv6 : Pattern :=
  .choice ipv6Full (.choice ipv6Gap ipv6LeadingGap)

end CallControl.Redaction
