import Mathlib.Data.List.Forall2
import CallControl.Json.Record

/-! # Reading what stands among other things

What the reader of tokens and the scanner of characters make of a part does not depend on what
stands around it: the tokens of a value may stand inside those of others
(`Json.ofTokens?_array`, `Json.ofTokens?_object`), and characters are scanned as tokens behind
other tokens as they are alone (`Json.tokens?_mark`). A run of characters spells a document when
it is read as that document (`Spells`).
-/

namespace CallControl.Json

open CallControl.Text

/-! ## Tokens inside other tokens -/

/-- Some tokens are those of a member. -/
def MemberReads (tokens : List Token) (member : Member) : Prop :=
  ∃ value, tokens = .scalar (.string member.1) :: .colon :: value ∧
    Document.ofTokens? value = some member.2

namespace DocumentReader

/-- A reader with more containers open around it. -/
def within (reader : DocumentReader) (outer : List Frame) : DocumentReader :=
  ⟨reader.frames ++ outer, reader.phase⟩

/-- What goes on inside does not depend on the containers around it. -/
theorem step_within {reader next : DocumentReader} {token : Token}
    (stepped : reader.step token = some next) (outer : List Frame) :
    (reader.within outer).step token = some (next.within outer) := by
  obtain ⟨frames, phase⟩ := reader
  have begun {frames : List Frame} (begins : stepValue frames token = some next) :
      stepValue (frames ++ outer) token = some (next.within outer) := by
    unfold stepValue at begins ⊢
    split at begins <;> cases begins <;> rfl
  cases phase with
  | value => exact begun stepped
  | firstItem =>
      simp only [step, within] at stepped ⊢
      split at stepped
      · cases stepped
        rfl
      · exact begun stepped
  | firstKey =>
      simp only [step, within] at stepped ⊢
      split at stepped <;> cases stepped <;> rfl
  | key members =>
      simp only [step, within] at stepped ⊢
      split at stepped <;> cases stepped
      rfl
  | colon members key =>
      simp only [step, within] at stepped ⊢
      split at stepped <;> cases stepped
      rfl
  | after document =>
      simp only [step, within] at stepped ⊢
      split at stepped <;> cases stepped <;> rfl

private theorem run_within {reader next : DocumentReader} {tokens : List Token}
    (ran : reader.run tokens = some next) (outer : List Frame) :
    (reader.within outer).run tokens = some (next.within outer) := by
  induction tokens generalizing reader with
  | nil =>
      cases ran
      rfl
  | cons token rest ih =>
      rw [run_cons] at ran ⊢
      obtain ⟨between, stepped, ran⟩ := Option.bind_eq_some_iff.mp ran
      rw [step_within stepped, Option.bind_some]
      exact ih ran

/-- Where a value may stand, the tokens of a document are read as that document. -/
theorem run_value {tokens : List Token} {document : Document}
    (reads : Document.ofTokens? tokens = some document) (frames : List Frame) :
    run ⟨frames, .value⟩ tokens = some ⟨frames, .after document⟩ := by
  obtain ⟨⟨inner, phase⟩, ran, finished⟩ := Option.bind_eq_some_iff.mp reads
  unfold finish? at finished
  split at finished
  · rename_i noFrames complete
    cases finished
    cases noFrames
    cases complete
    exact run_within ran frames
  · cases finished

/-- The first item of an array is read like any other value. -/
theorem run_firstItem {frames : List Frame} {token : Token} {rest : List Token}
    {next : DocumentReader} (ran : run ⟨.array [] :: frames, .value⟩ (token :: rest) = some next) :
    run ⟨frames, .firstItem⟩ (token :: rest) = some next := by
  rw [run_cons] at ran ⊢
  have same : step ⟨frames, .firstItem⟩ token = step ⟨.array [] :: frames, .value⟩ token := by
    obtain ⟨_, stepped, _⟩ := Option.bind_eq_some_iff.mp ran
    cases token with
    | closing container => cases stepped
    | _ => rfl
  rw [same]
  exact ran

/-- The items of an array after those read already. -/
theorem run_items {parts : List (List Token)} {documents : List Document}
    (reads : List.Forall₂ (fun part document => Document.ofTokens? part = some document)
      parts documents)
    (nonempty : parts ≠ []) (done : List Document) (frames : List Frame) (rest : List Token) :
    run ⟨.array done :: frames, .value⟩
        (List.intercalate [.comma] parts ++ .closing .array :: rest) =
      run ⟨frames, .after (.array (done.reverse ++ documents))⟩ rest := by
  induction reads generalizing done with
  | nil => exact (nonempty rfl).elim
  | @cons part document parts documents read reads ih =>
      cases reads with
      | nil =>
          rw [List.intercalate_singleton, run_append, run_value read, Option.bind_some, run_cons]
          simp only [step, Option.bind_some, List.reverse_cons]
      | cons next others =>
          rw [List.intercalate_cons_cons, List.append_assoc, List.append_assoc, run_append,
            run_value read, Option.bind_some, List.singleton_append, run_cons]
          refine (ih nofun (document :: done)).trans ?_
          rw [List.reverse_cons, List.append_assoc, List.singleton_append]

/-- A member whose key was awaited. -/
theorem run_member {value : List Token} {document : Document}
    (reads : Document.ofTokens? value = some document) (key : Option String)
    (done : List Member) (frames : List Frame) (rest : List Token) :
    run ⟨frames, .key done⟩ (.scalar (.string key) :: .colon :: value ++ rest) =
      run ⟨.object done key :: frames, .after document⟩ rest := by
  rw [List.cons_append, List.cons_append, run_cons]
  simp only [step, Option.bind_some]
  rw [run_cons]
  simp only [step, Option.bind_some]
  rw [run_append, run_value reads, Option.bind_some]

/-- The members of an object after those read already. -/
theorem run_members {parts : List (List Token)} {members : List Member}
    (reads : List.Forall₂ MemberReads parts members) (nonempty : parts ≠ [])
    (done : List Member) (frames : List Frame) (rest : List Token) :
    run ⟨frames, .key done⟩ (List.intercalate [.comma] parts ++ .closing .object :: rest) =
      run ⟨frames, .after (.object (done.reverse ++ members))⟩ rest := by
  induction reads generalizing done with
  | nil => exact (nonempty rfl).elim
  | @cons part member parts members read reads ih =>
      obtain ⟨value, rfl, read⟩ := read
      cases reads with
      | nil =>
          rw [List.intercalate_singleton, run_member read, run_cons]
          simp only [step, Option.bind_some, List.reverse_cons]
      | cons next others =>
          rw [List.intercalate_cons_cons, List.append_assoc, List.append_assoc, run_member read,
            List.singleton_append, run_cons]
          refine (ih nofun (member :: done)).trans ?_
          rw [List.reverse_cons, List.append_assoc, List.singleton_append]

end DocumentReader

/-- The tokens of an array, with those of each item. -/
theorem ofTokens?_array {parts : List (List Token)} {items : List Document}
    (reads : List.Forall₂ (fun part item => Document.ofTokens? part = some item) parts items) :
    Document.ofTokens?
        (.opening .array :: (List.intercalate [.comma] parts ++ [.closing .array])) =
      some (.array items) := by
  unfold Document.ofTokens? DocumentReader.start
  rw [DocumentReader.run_cons]
  simp only [DocumentReader.step, DocumentReader.stepValue, Option.bind_some]
  cases reads with
  | nil => rfl
  | @cons part item parts items read reads =>
      have all := DocumentReader.run_items (.cons read reads) nofun [] [] []
      cases tokens : List.intercalate [.comma] (part :: parts) ++ [.closing .array] with
      | nil => exact (List.append_ne_nil_of_right_ne_nil _ (List.cons_ne_nil _ _) tokens).elim
      | cons token rest =>
          rw [tokens] at all
          rw [DocumentReader.run_firstItem all]
          rfl

/-- The tokens of an object, with those of each member. -/
theorem ofTokens?_object {parts : List (List Token)} {members : List Member}
    (reads : List.Forall₂ MemberReads parts members) :
    Document.ofTokens?
        (.opening .object :: (List.intercalate [.comma] parts ++ [.closing .object])) =
      some (.object members) := by
  unfold Document.ofTokens? DocumentReader.start
  rw [DocumentReader.run_cons]
  simp only [DocumentReader.step, DocumentReader.stepValue, Option.bind_some]
  cases reads with
  | nil => rfl
  | @cons part member parts members read reads =>
      have all := DocumentReader.run_members (.cons read reads) nofun [] [] []
      -- the first key is awaited like any further one, but for the end of the object
      have first : DocumentReader.run ⟨[], .firstKey⟩
          (List.intercalate [.comma] (part :: parts) ++ [.closing .object]) =
          DocumentReader.run ⟨[], .key []⟩
            (List.intercalate [.comma] (part :: parts) ++ [.closing .object]) := by
        obtain ⟨value, rfl, _⟩ := read
        cases parts with
        | nil => rfl
        | cons next others => rfl
      rw [first, all]
      rfl

/-! ## Texts inside other texts -/

/-- The token that a punctuation mark is by itself. -/
def punctuation? : Char → Option Token
  | '[' => some (.opening .array)
  | ']' => some (.closing .array)
  | '\x7b' => some (.opening .object)
  | '\x7d' => some (.closing .object)
  | ',' => some .comma
  | ':' => some .colon
  | _ => none

/-- No punctuation mark continues a number. -/
theorem NumberPhase.extend?_of_punctuation {mark : Char} {token : Token}
    (marks : punctuation? mark = some token) (phase : NumberPhase) :
    phase.extend? mark = none := by
  unfold punctuation? at marks
  split at marks <;> cases marks
  all_goals
    cases phase with
    | fraction whole digits => cases digits <;> rfl
    | _ => rfl

namespace Scanner

/-- A scanner that has read more tokens before. -/
def following (scanner : Scanner) (earlier : List Token) : Scanner :=
  ⟨scanner.mode, scanner.tokens ++ earlier⟩

private theorem stepBetween_following (tokens earlier : List Token) (character : Char) :
    stepBetween (tokens ++ earlier) character =
      (stepBetween tokens character).map (·.following earlier) := by
  have number (begun : Option NumberPhase) :
      begun.map (fun phase => (⟨.number false phase, tokens ++ earlier⟩ : Scanner)) =
        (begun.map fun phase => (⟨.number false phase, tokens⟩ : Scanner)).map
          (·.following earlier) := by
    rw [Option.map_map]
    rfl
  unfold stepBetween
  split
  · rfl
  · split
    all_goals first | rfl | exact number _

/-- A step does not depend on the tokens read before. -/
theorem step_following (scanner : Scanner) (earlier : List Token) (character : Option Char) :
    (scanner.following earlier).step character =
      (scanner.step character).map (·.following earlier) := by
  obtain ⟨mode, tokens⟩ := scanner
  cases character with
  | none => cases mode <;> rfl
  | some character =>
      cases mode with
      | between => exact stepBetween_following tokens earlier character
      | word letter letters value =>
          simp only [following, step, stepChar]
          split
          · cases letters <;> rfl
          · rfl
      | number negative phase =>
          simp only [following, step, stepChar]
          split
          · rfl
          · split
            · exact stepBetween_following (_ :: tokens) earlier character
            · rfl
      | string phase =>
          simp only [following, step, stepChar]
          split
          · rfl
          · split
            · rfl
            · split <;> rfl
      | escape phase =>
          simp only [following, step, stepChar]
          split
          · rfl
          · rw [Option.map_map]
            rfl
      | code phase missing value =>
          simp only [following, step, stepChar]
          split
          · rfl
          · split <;> rfl

private theorem run_following (scanner : Scanner) (earlier : List Token)
    (characters : List (Option Char)) :
    (scanner.following earlier).run characters =
      (scanner.run characters).map (·.following earlier) := by
  induction characters generalizing scanner with
  | nil => rfl
  | cons character rest ih =>
      rw [run_cons, run_cons, step_following]
      cases scanner.step character with
      | none => rfl
      | some next => exact ih next

private theorem finish?_following (scanner : Scanner) (earlier : List Token) :
    (scanner.following earlier).finish? = scanner.finish?.map (· ++ earlier) := by
  obtain ⟨mode, tokens⟩ := scanner
  cases mode with
  | number negative phase =>
      simp only [finish?, following, Option.map_map]
      rfl
  | _ => rfl

/-- A punctuation mark ends whatever may end before it. -/
theorem step_of_punctuation {scanner : Scanner} {tokens : List Token} {mark : Char}
    {token : Token} (finishes : scanner.finish? = some tokens)
    (marks : punctuation? mark = some token) :
    scanner.step (some mark) = some ⟨.between, token :: tokens⟩ := by
  have between (tokens : List Token) :
      stepBetween tokens mark = some ⟨.between, token :: tokens⟩ := by
    unfold punctuation? at marks
    split at marks <;> cases marks <;> rfl
  obtain ⟨mode, earlier⟩ := scanner
  cases mode with
  | between =>
      cases finishes
      exact between _
  | number negative phase =>
      obtain ⟨literal, ends, rfl⟩ := Option.map_eq_some_iff.mp finishes
      simp only [step, stepChar, NumberPhase.extend?_of_punctuation marks, ends]
      exact between _
  | _ => cases finishes

end Scanner

/-- No characters are no tokens. -/
theorem tokens?_nil : tokens? [] = some [] := rfl

/-- The tokens before a punctuation mark, the mark, and the tokens after it. -/
theorem tokens?_mark {before : List (Option Char)} {tokens : List Token} {mark : Char}
    {token : Token} (scans : tokens? before = some tokens)
    (marks : punctuation? mark = some token) (after : List (Option Char)) :
    tokens? (before ++ some mark :: after) = (tokens? after).map (tokens ++ token :: ·) := by
  obtain ⟨scanner, ran, scanned⟩ := Option.bind_eq_some_iff.mp scans
  obtain ⟨newest, finishes, rfl⟩ := Option.map_eq_some_iff.mp scanned
  have begins : (⟨.between, token :: newest⟩ : Scanner) =
      Scanner.start.following (token :: newest) := rfl
  unfold tokens?
  rw [Scanner.run_append, ran, Option.bind_some, Scanner.run_cons,
    Scanner.step_of_punctuation finishes marks, Option.bind_some, begins, Scanner.run_following]
  cases Scanner.start.run after with
  | none => rfl
  | some last =>
      simp only [Option.map_some, Option.bind_some, Scanner.finish?_following, Option.map_map]
      congr 1
      funext later
      simp

/-! ## Spelling -/

/-- Some characters are read as a document. -/
def Spells (characters : List Char) (document : Document) : Prop :=
  Document.ofChars? (characters.map some) = some document

namespace Spells

variable {characters : List Char} {document : Document}

/-- Characters that scan to tokens of a document spell it. -/
theorem of_tokens {tokens : List Token} (scans : tokens? (characters.map some) = some tokens)
    (reads : Document.ofTokens? tokens = some document) : Spells characters document := by
  unfold Spells Document.ofChars?
  rw [scans, Option.bind_some, reads]

/-- What spells a document scans to tokens that are read as it. -/
theorem tokens (spells : Spells characters document) :
    ∃ tokens, tokens? (characters.map some) = some tokens ∧
      Document.ofTokens? tokens = some document :=
  Option.bind_eq_some_iff.mp spells

/-- No characters spell two documents. -/
theorem unique {other : Document} (spells : Spells characters document)
    (also : Spells characters other) : other = document :=
  Option.some.inj (also.symm.trans spells)

/-- What spells a document is parsed as it. -/
theorem parse? (spells : Spells characters document) :
    Document.parse? (String.ofList characters) = some document := by
  unfold Document.parse?
  rw [String.toList_ofList]
  exact spells

end Spells

end CallControl.Json
