import CallControl.Redaction.Address

/-! # Redacting texts for public view

A text is cleaned in three passes, each of which replaces what a pattern matches: first
each line that names an ICE password becomes a fixed line, then IPv6 addresses and then
IPv4 addresses become markers (`redact`).
-/

namespace CallControl.Redaction

/-- The name of the attribute that carries an ICE password. -/
def passwordName : List Char := "ice-pwd".toList

/-- Any characters up to the end of a line, as many as possible. -/
def withinLine : Pattern :=
  Pattern.optional (.run (· != '\n'))

/-- A text that names an ICE password, with what is around the name. -/
def passwordText : Pattern :=
  .seq withinLine (.seq (Pattern.text passwordName) withinLine)

/-- The line that stands for every line with a password. -/
def passwordLine : List Char := "a=ice-pwd:[ REDACTED ]".toList

/-- The marker of a hidden IPv6 address. -/
def ipv6Marker : List Char := "[REDACTED ipv6]".toList

/-- The marker of a hidden IPv4 address. -/
def ipv4Marker : List Char := "[REDACTED ipv4]".toList

/-- A text with every password hidden. -/
def redactPasswords (text : List Char) : List Char :=
  passwordText.wholeLines.replace passwordLine text

/-- A text with every IPv6 address hidden. -/
def redactIpv6 (text : List Char) : List Char :=
  ipv6.anywhere.replace ipv6Marker text

/-- A text with every IPv4 address hidden. -/
def redactIpv4 (text : List Char) : List Char :=
  ipv4.anywhere.replace ipv4Marker text

/-- A text with passwords and addresses hidden. -/
def redactChars (text : List Char) : List Char :=
  redactIpv4 (redactIpv6 (redactPasswords text))

/-- A text with passwords and addresses hidden. -/
def redact (text : String) : String :=
  String.ofList (redactChars text.toList)

end CallControl.Redaction
