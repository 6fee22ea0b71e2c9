import CallControl.Text.Decimal
import CallControl.Text.Visible

/-! # Quoted text

A text between double quotes, as notes show it: the quote, the backslash and the
common control characters are escaped by letter, and every other character
without a visible form by its number in hexadecimal.
-/

namespace CallControl.Text

/-- One character inside quotes. -/
def quoteChar (character : Char) : List Char :=
  match character with
  | '\x00' => ['\\', '0']
  | '\t' => ['\\', 't']
  | '\r' => ['\\', 'r']
  | '\n' => ['\\', 'n']
  | '\\' => ['\\', '\\']
  | '"' => ['\\', '"']
  | _ =>
      if isVisible character then [character]
      else "\\u\x7b".toList ++ hexadecimal character.toNat ++ ['}']

/-- A text between double quotes. -/
def quote (text : String) : String :=
  String.ofList ('"' :: text.toList.flatMap quoteChar ++ ['"'])

end CallControl.Text
