import CallControl.Json.Value

/-! # Writing JSON values

A value is written without white space, members in order. Inside strings the quote,
the backslash and the control characters below 0x20 are escaped, by letter where a
letter exists and by number otherwise; every other character stands for itself.
-/

namespace CallControl.Json

open CallControl.Text

/-- One character of a string as written. -/
def escapeChar (character : Char) : List Char :=
  match character with
  | '"' => ['\\', '"']
  | '\\' => ['\\', '\\']
  | '\x08' => ['\\', 'b']
  | '\x0C' => ['\\', 'f']
  | '\n' => ['\\', 'n']
  | '\r' => ['\\', 'r']
  | '\t' => ['\\', 't']
  | _ =>
      if character.toNat < 0x20 then
        ['\\', 'u', '0', '0', hexChar (character.toNat / 16), hexChar (character.toNat % 16)]
      else [character]

/-- A string as written. -/
def writeText (text : String) : List Char :=
  '"' :: text.toList.flatMap escapeChar ++ ['"']

/-- A truth value as written. -/
def writeBool (value : Bool) : List Char :=
  if value then "true".toList else "false".toList

/-- Written parts with commas between them. -/
def commaSeparated : List (List Char) → List Char
  | [] => []
  | [part] => part
  | part :: rest => part ++ ',' :: commaSeparated rest

/-- An array of written items. -/
def writeArray (items : List (List Char)) : List Char :=
  '[' :: commaSeparated items ++ [']']

/-- An object of written members. -/
def writeObject (members : List (String × List Char)) : List Char :=
  '\x7b' :: commaSeparated (members.map fun member => writeText member.1 ++ ':' :: member.2) ++
    ['\x7d']

mutual

/-- A value as written. -/
def write : Json → List Char
  | .null => "null".toList
  | .bool value => writeBool value
  | .number value => value.write
  | .string text => writeText text
  | .array items => writeArray (writeItems items)
  | .object members => writeObject (writeMembers members)

/-- The items of an array as written. -/
def writeItems : List Json → List (List Char)
  | [] => []
  | item :: rest => write item :: writeItems rest

/-- The members of an object with their values as written. -/
def writeMembers : List (String × Json) → List (String × List Char)
  | [] => []
  | (key, value) :: rest => (key, write value) :: writeMembers rest

end

/-- The text of a value. -/
def toText (value : Json) : String :=
  String.ofList (write value)

end CallControl.Json
