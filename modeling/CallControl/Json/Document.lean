import CallControl.Json.Scanner

/-! # JSON documents

A document is the tree of a JSON text with nothing interpreted: numbers by their
digits, members in the order written, repeated keys kept. The reader is a pushdown
automaton over tokens whose stack holds the containers still open
(`DocumentReader.step`), so a text may nest to any depth; limits on depth apply only
to what is kept of a document (`Document.value?`).
-/

namespace CallControl.Json

/-- The tree of a JSON text. -/
inductive Document where
  | scalar (value : Scalar)
  | array (items : List Document)
  /-- The members in the order written; a key has no text when a string would have
  none. -/
  | object (members : List (Option String × Document))
  deriving Repr

/-- A member of an object as written. -/
abbrev Member := Option String × Document

/-- A container that is still open, with what it holds so far, newest first. -/
inductive Frame where
  | array (items : List Document)
  /-- The complete members and the key whose value comes next. -/
  | object (members : List Member) (key : Option String)
  deriving Repr

/-- What the reader waits for. -/
inductive ReaderPhase where
  | value
  /-- The first item of an array or its end. -/
  | firstItem
  /-- The first key of an object or its end. -/
  | firstKey
  /-- A further key of an object that holds these members. -/
  | key (members : List Member)
  | colon (members : List Member) (key : Option String)
  /-- What follows a complete value. -/
  | after (document : Document)
  deriving Repr

/-- A reader: the open containers, innermost first, and what it waits for. -/
structure DocumentReader where
  frames : List Frame
  phase : ReaderPhase
  deriving Repr

namespace DocumentReader

/-- The reader before the first token. -/
def start : DocumentReader := ⟨[], .value⟩

/-- The step on the first token of a value. -/
def stepValue (frames : List Frame) : Token → Option DocumentReader
  | .scalar value => some ⟨frames, .after (.scalar value)⟩
  | .opening .array => some ⟨frames, .firstItem⟩
  | .opening .object => some ⟨frames, .firstKey⟩
  | _ => none

/-- One step on a token. -/
def step (reader : DocumentReader) (token : Token) : Option DocumentReader :=
  match reader.phase with
  | .value => stepValue reader.frames token
  | .firstItem =>
      match token with
      | .closing .array => some ⟨reader.frames, .after (.array [])⟩
      | _ => stepValue (.array [] :: reader.frames) token
  | .firstKey =>
      match token with
      | .closing .object => some ⟨reader.frames, .after (.object [])⟩
      | .scalar (.string key) => some ⟨reader.frames, .colon [] key⟩
      | _ => none
  | .key members =>
      match token with
      | .scalar (.string key) => some ⟨reader.frames, .colon members key⟩
      | _ => none
  | .colon members key =>
      match token with
      | .colon => some ⟨.object members key :: reader.frames, .value⟩
      | _ => none
  | .after document =>
      match reader.frames, token with
      | .array items :: frames, .comma => some ⟨.array (document :: items) :: frames, .value⟩
      | .array items :: frames, .closing .array =>
          some ⟨frames, .after (.array (document :: items).reverse)⟩
      | .object members key :: frames, .comma =>
          some ⟨frames, .key ((key, document) :: members)⟩
      | .object members key :: frames, .closing .object =>
          some ⟨frames, .after (.object ((key, document) :: members).reverse)⟩
      | _, _ => none

/-- The document, when the tokens may end here. -/
def finish? (reader : DocumentReader) : Option Document :=
  match reader.frames, reader.phase with
  | [], .after document => some document
  | _, _ => none

/-- The reader after a run of tokens. -/
def run (reader : DocumentReader) (tokens : List Token) : Option DocumentReader :=
  tokens.foldlM step reader

/-- The first token is read first. -/
theorem run_cons (reader : DocumentReader) (token : Token) (rest : List Token) :
    reader.run (token :: rest) = (reader.step token).bind fun next => next.run rest := by
  simp [run, List.foldlM_cons, Option.bind_eq_bind]

/-- Tokens can be read in two goes. -/
theorem run_append (reader : DocumentReader) (first second : List Token) :
    reader.run (first ++ second) = (reader.run first).bind fun next => next.run second := by
  simp [run, List.foldlM_append, Option.bind_eq_bind]

end DocumentReader

namespace Document

/-- The document of a run of tokens. -/
def ofTokens? (tokens : List Token) : Option Document :=
  (DocumentReader.start.run tokens).bind DocumentReader.finish?

/-- The document of a run of characters. -/
def ofChars? (characters : List (Option Char)) : Option Document :=
  (tokens? characters).bind ofTokens?

/-- The document of a text. -/
def parse? (text : String) : Option Document :=
  ofChars? (text.toList.map some)

end Document

end CallControl.Json
