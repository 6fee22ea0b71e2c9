import CallControl.Json.Token
import CallControl.Text.Decimal

/-! # Scanning a JSON text

The scanner is an automaton over characters. Its state says what it is inside of:
nothing, the name of a constant, a number or a string; one step consumes one
character (`Scanner.step`). An octet that belongs to no UTF-8 sequence is an empty
entry and may stand only inside a string, which then has no text. A backslash
followed by `u` needs four hexadecimal digits; two escapes that make up a surrogate
pair stand for one character, and a surrogate without its partner leaves the string
without a text. Raw control characters and unknown escapes are refused everywhere.
-/

namespace CallControl.Json

open CallControl.Text

/-- JSON's own white space. -/
def isJsonSpace (character : Char) : Bool :=
  character == ' ' || character == '\t' || character == '\n' || character == '\r'

/-- How far a number has been read; digits are held newest first. -/
inductive NumberPhase where
  /-- A minus sign, so that a digit must follow. -/
  | sign
  /-- A leading zero, which no digit may follow. -/
  | zero
  /-- Digits of the integer part. -/
  | integer (digits : List Nat)
  /-- Digits after the point; at least one must follow the point. -/
  | fraction (whole digits : List Nat)
  /-- The exponent mark, which a sign or a digit must follow. -/
  | mark (whole decimals : List Nat)
  /-- The sign and the digits of the exponent; at least one must follow. -/
  | exponent (whole decimals : List Nat) (below : Bool) (digits : List Nat)
  deriving Repr, DecidableEq

/-- The number read so far, if it may end here. -/
def NumberPhase.literal? (negative : Bool) : NumberPhase → Option NumberLiteral
  | .sign => none
  | .zero => some ⟨negative, [0], [], none⟩
  | .integer digits => some ⟨negative, digits.reverse, [], none⟩
  | .fraction _ [] => none
  | .fraction whole digits => some ⟨negative, whole.reverse, digits.reverse, none⟩
  | .mark _ _ => none
  | .exponent _ _ _ [] => none
  | .exponent whole decimals below digits =>
      some ⟨negative, whole.reverse, decimals.reverse, some (below, digits.reverse)⟩

/-- A letter that announces an exponent. -/
def isExponentMark (character : Char) : Bool :=
  character == 'e' || character == 'E'

/-- What may follow the digits of the integer part. -/
def NumberPhase.afterInteger? (digits : List Nat) (character : Char) : Option NumberPhase :=
  if character == '.' then some (.fraction digits [])
  else if isExponentMark character then some (.mark digits [])
  else none

/-- The phase after one more character that belongs to the number; nothing when
the character does not continue it. -/
def NumberPhase.extend? (phase : NumberPhase) (character : Char) : Option NumberPhase :=
  match phase, digit? character with
  | .sign, some digit => some (if digit = 0 then .zero else .integer [digit])
  | .integer digits, some digit => some (.integer (digit :: digits))
  | .fraction whole digits, some digit => some (.fraction whole (digit :: digits))
  | .mark whole decimals, some digit => some (.exponent whole decimals false [digit])
  | .exponent whole decimals below digits, some digit =>
      some (.exponent whole decimals below (digit :: digits))
  | .zero, none => afterInteger? [0] character
  | .integer digits, none => afterInteger? digits character
  | .fraction whole (digit :: digits), none =>
      if isExponentMark character then some (.mark whole (digit :: digits)) else none
  | .mark whole decimals, none =>
      if character == '+' then some (.exponent whole decimals false [])
      else if character == '-' then some (.exponent whole decimals true [])
      else none
  | _, _ => none

/-- A string being read. -/
structure StringPhase where
  /-- The characters so far, newest first. -/
  characters : List Char
  /-- Every escape and octet so far stands for a character or the first half of one. -/
  sound : Bool
  /-- The first half of a surrogate pair, when the last escape was one. -/
  half : Option Nat
  deriving Repr, DecidableEq

/-- The string read so far, if its parts amount to a text. -/
def StringPhase.text? (phase : StringPhase) : Option String :=
  if phase.sound && phase.half.isNone then some (String.ofList phase.characters.reverse) else none

/-- The string after one more character. -/
def StringPhase.push (phase : StringPhase) (character : Char) : StringPhase :=
  ⟨character :: phase.characters, phase.sound && phase.half.isNone, none⟩

/-- The string after an octet that belongs to no character. -/
def StringPhase.spoil (phase : StringPhase) : StringPhase :=
  ⟨phase.characters, false, none⟩

/-- The string after an escape by number: the second half of a pair completes the
first, and any other surrogate has to wait for its partner or has none. -/
def StringPhase.pushCode (phase : StringPhase) (code : Nat) : StringPhase :=
  match phase.half with
  | some high =>
      if 0xDC00 ≤ code && code ≤ 0xDFFF then
        ⟨Char.ofNat (0x10000 + (high - 0xD800) * 0x400 + (code - 0xDC00)) :: phase.characters,
          phase.sound, none⟩
      else phase.spoil
  | none =>
      if 0xDC00 ≤ code && code ≤ 0xDFFF then phase.spoil
      else if 0xD800 ≤ code && code ≤ 0xDBFF then { phase with half := some code }
      else phase.push (Char.ofNat code)

/-- The character of a one-letter escape. -/
def escapedChar? : Char → Option Char
  | '"' => some '"'
  | '\\' => some '\\'
  | '/' => some '/'
  | 'b' => some '\x08'
  | 'f' => some '\x0C'
  | 'n' => some '\n'
  | 'r' => some '\r'
  | 't' => some '\t'
  | _ => none

/-- What the scanner is inside of. -/
inductive ScanMode where
  | between
  /-- The name of a constant, with the letters that must still follow. -/
  | word (letter : Char) (letters : List Char) (value : Scalar)
  | number (negative : Bool) (phase : NumberPhase)
  | string (phase : StringPhase)
  /-- After a backslash. -/
  | escape (phase : StringPhase)
  /-- Inside an escape by number, with the digits still missing. -/
  | code (phase : StringPhase) (missing : Nat) (value : Nat)
  deriving Repr, DecidableEq

/-- A scanner: its mode and the tokens read so far, newest first. -/
structure Scanner where
  mode : ScanMode
  tokens : List Token
  deriving Repr, DecidableEq

namespace Scanner

/-- The scanner before the first character. -/
def start : Scanner := ⟨.between, []⟩

/-- The scanner after a complete token. -/
def emit (tokens : List Token) (token : Token) : Scanner :=
  ⟨.between, token :: tokens⟩

/-- The step on a character between tokens. -/
def stepBetween (tokens : List Token) (character : Char) : Option Scanner :=
  if isJsonSpace character then some ⟨.between, tokens⟩
  else
    match character with
    | '[' => some (emit tokens (.opening .array))
    | ']' => some (emit tokens (.closing .array))
    | '\x7b' => some (emit tokens (.opening .object))
    | '\x7d' => some (emit tokens (.closing .object))
    | ',' => some (emit tokens .comma)
    | ':' => some (emit tokens .colon)
    | '"' => some ⟨.string ⟨[], true, none⟩, tokens⟩
    | 'n' => some ⟨.word 'u' ['l', 'l'] .null, tokens⟩
    | 't' => some ⟨.word 'r' ['u', 'e'] (.bool true), tokens⟩
    | 'f' => some ⟨.word 'a' ['l', 's', 'e'] (.bool false), tokens⟩
    | '-' => some ⟨.number true .sign, tokens⟩
    | _ => (NumberPhase.sign.extend? character).map fun phase => ⟨.number false phase, tokens⟩

/-- One step on a character. -/
def stepChar (scanner : Scanner) (character : Char) : Option Scanner :=
  let tokens := scanner.tokens
  match scanner.mode with
  | .between => stepBetween tokens character
  | .word letter letters value =>
      if character == letter then
        match letters with
        | [] => some (emit tokens (.scalar value))
        | next :: others => some ⟨.word next others value, tokens⟩
      else none
  | .number negative phase =>
      match phase.extend? character with
      | some longer => some ⟨.number negative longer, tokens⟩
      | none =>
          match phase.literal? negative with
          | some literal => stepBetween (.scalar (.number literal) :: tokens) character
          | none => none
  | .string phase =>
      if character == '"' then some (emit tokens (.scalar (.string phase.text?)))
      else if character == '\\' then some ⟨.escape phase, tokens⟩
      else if character.toNat < 0x20 then none
      else some ⟨.string (phase.push character), tokens⟩
  | .escape phase =>
      if character == 'u' then some ⟨.code phase 4 0, tokens⟩
      else (escapedChar? character).map fun escaped => ⟨.string (phase.push escaped), tokens⟩
  | .code phase missing value =>
      match hexDigit? character with
      | none => none
      | some digit =>
          if missing ≤ 1 then some ⟨.string (phase.pushCode (value * 16 + digit)), tokens⟩
          else some ⟨.code phase (missing - 1) (value * 16 + digit), tokens⟩

/-- One step; an octet that belongs to no character may stand only inside a
string. -/
def step (scanner : Scanner) : Option Char → Option Scanner
  | some character => scanner.stepChar character
  | none =>
      match scanner.mode with
      | .string phase => some ⟨.string phase.spoil, scanner.tokens⟩
      | _ => none

/-- The tokens, newest first, when the text may end here. -/
def finish? (scanner : Scanner) : Option (List Token) :=
  match scanner.mode with
  | .between => some scanner.tokens
  | .number negative phase =>
      (phase.literal? negative).map fun literal => .scalar (.number literal) :: scanner.tokens
  | _ => none

/-- The scanner after a run of characters. -/
def run (scanner : Scanner) (characters : List (Option Char)) : Option Scanner :=
  characters.foldlM step scanner

/-- Without characters nothing is scanned. -/
theorem run_nil (scanner : Scanner) : scanner.run [] = some scanner := rfl

/-- The first character is scanned first. -/
theorem run_cons (scanner : Scanner) (character : Option Char) (rest : List (Option Char)) :
    scanner.run (character :: rest) = (scanner.step character).bind fun next => next.run rest := by
  simp [run, List.foldlM_cons, Option.bind_eq_bind]

/-- Characters can be scanned in two goes. -/
theorem run_append (scanner : Scanner) (first second : List (Option Char)) :
    scanner.run (first ++ second) = (scanner.run first).bind fun next => next.run second := by
  simp [run, List.foldlM_append, Option.bind_eq_bind]

end Scanner

/-- The tokens of a text, in order. -/
def tokens? (characters : List (Option Char)) : Option (List Token) :=
  (Scanner.start.run characters).bind fun scanner => scanner.finish?.map List.reverse

end CallControl.Json
