import CallControl.Proofs.TokenReading

/-! # Texts of a document

The tokens of a document are its scalars and keys with the punctuation around them
(`Document.tokens`). A JSON text of a document is these tokens as written, with white space
around them (`Denotes`), and exactly the texts of a document are read as that document
(`spells_iff_denotes`). Texts are put together and taken apart along their documents: what
stands in the place of a value may be replaced (`Around.fill`).
-/

namespace CallControl.Json

/-! ## The tokens of a document -/

mutual

/-- The tokens of a document. -/
def Document.tokens : Document → List Token
  | .scalar value => [.scalar value]
  | .array items =>
      .opening .array :: (List.intercalate [.comma] (tokensOfItems items) ++ [.closing .array])
  | .object members =>
      .opening .object ::
        (List.intercalate [.comma] (tokensOfMembers members) ++ [.closing .object])

/-- The tokens of each item of an array. -/
def tokensOfItems : List Document → List (List Token)
  | [] => []
  | item :: rest => item.tokens :: tokensOfItems rest

/-- The tokens of each member of an object. -/
def tokensOfMembers : List (Option String × Document) → List (List Token)
  | [] => []
  | (key, value) :: rest =>
      (.scalar (.string key) :: .colon :: value.tokens) :: tokensOfMembers rest

end

/-- The tokens of a member. -/
def memberTokens (member : Member) : List Token :=
  .scalar (.string member.1) :: .colon :: member.2.tokens

private theorem tokensOfItems_eq (items : List Document) :
    tokensOfItems items = items.map Document.tokens := by
  induction items with
  | nil => rw [tokensOfItems, List.map_nil]
  | cons item rest ih => rw [tokensOfItems, ih, List.map_cons]

private theorem tokensOfMembers_eq (members : List Member) :
    tokensOfMembers members = members.map memberTokens := by
  induction members with
  | nil => rw [tokensOfMembers, List.map_nil]
  | cons member rest ih => rw [tokensOfMembers, ih, List.map_cons, memberTokens]

/-- An array is its items between brackets, with commas in between. -/
theorem tokens_array (items : List Document) :
    (Document.array items).tokens =
      .opening .array ::
        (List.intercalate [.comma] (items.map Document.tokens) ++ [.closing .array]) := by
  rw [Document.tokens, tokensOfItems_eq]

/-- An object is its members between braces, with commas in between. -/
theorem tokens_object (members : List Member) :
    (Document.object members).tokens =
      .opening .object ::
        (List.intercalate [.comma] (members.map memberTokens) ++ [.closing .object]) := by
  rw [Document.tokens, tokensOfMembers_eq]

/-! ## What the reader has read -/

/-- A part among others, with a comma behind each part before it and one in front of each part
after it. -/
theorem intercalate_append_cons (before : List (List Token)) (part : List Token)
    (after : List (List Token)) :
    List.intercalate [.comma] (before ++ part :: after) =
      before.flatMap (· ++ [.comma]) ++ part ++ after.flatMap (.comma :: ·) := by
  induction before generalizing part with
  | nil =>
      induction after generalizing part with
      | nil => simp
      | cons next rest ih =>
          have others := ih next
          rw [List.nil_append] at others ⊢
          rw [List.intercalate_cons_cons, others]
          simp
  | cons first rest ih =>
      have shape : ∃ second others, rest ++ part :: after = second :: others := by
        cases rest with
        | nil => exact ⟨part, after, rfl⟩
        | cons second others => exact ⟨second, others ++ part :: after, rfl⟩
      obtain ⟨second, others, same⟩ := shape
      have whole := ih part
      rw [same] at whole
      rw [List.cons_append, same, List.intercalate_cons_cons, whole]
      simp only [List.flatMap_cons, List.append_assoc]

/-- The tokens of a container up to the place where its next item or value stands. -/
def Frame.tokens : Frame → List Token
  | .array items => .opening .array :: (items.reverse.map Document.tokens).flatMap (· ++ [.comma])
  | .object members key =>
      .opening .object :: (members.reverse.map memberTokens).flatMap (· ++ [.comma]) ++
        [.scalar (.string key), .colon]

/-- The tokens read since the innermost open container was left at its next place. -/
def ReaderPhase.tokens : ReaderPhase → List Token
  | .value => []
  | .firstItem => [.opening .array]
  | .firstKey => [.opening .object]
  | .key members =>
      .opening .object :: (members.reverse.map memberTokens).flatMap (· ++ [.comma])
  | .colon members name =>
      .opening .object :: (members.reverse.map memberTokens).flatMap (· ++ [.comma]) ++
        [.scalar (.string name)]
  | .after document => document.tokens

namespace DocumentReader

/-- All tokens that a reader has read. -/
def taken (reader : DocumentReader) : List Token :=
  reader.frames.reverse.flatMap Frame.tokens ++ reader.phase.tokens

private theorem taken_stepValue {frames : List Frame} {token : Token} {next : DocumentReader}
    (stepped : stepValue frames token = some next) :
    next.taken = frames.reverse.flatMap Frame.tokens ++ [token] := by
  unfold stepValue at stepped
  split at stepped <;> cases stepped
  · simp [taken, ReaderPhase.tokens, Document.tokens]
  · rfl
  · rfl

private theorem taken_step {reader next : DocumentReader} {token : Token}
    (stepped : reader.step token = some next) : next.taken = reader.taken ++ [token] := by
  obtain ⟨frames, phase⟩ := reader
  cases phase with
  | value =>
      rw [taken_stepValue stepped]
      simp [taken, ReaderPhase.tokens]
  | firstItem =>
      simp only [step] at stepped
      split at stepped
      · cases stepped
        simp [taken, ReaderPhase.tokens, tokens_array]
      · rw [taken_stepValue stepped]
        simp [taken, ReaderPhase.tokens, Frame.tokens]
  | firstKey =>
      simp only [step] at stepped
      split at stepped <;> cases stepped
      · simp [taken, ReaderPhase.tokens, tokens_object]
      · simp [taken, ReaderPhase.tokens]
  | key members =>
      simp only [step] at stepped
      split at stepped <;> cases stepped
      simp [taken, ReaderPhase.tokens]
  | colon members key =>
      simp only [step] at stepped
      split at stepped <;> cases stepped
      simp [taken, ReaderPhase.tokens, Frame.tokens]
  | after document =>
      simp only [step] at stepped
      split at stepped <;> cases stepped
      · simp [taken, ReaderPhase.tokens, Frame.tokens]
      · simp [taken, ReaderPhase.tokens, Frame.tokens, tokens_array, intercalate_append_cons]
      · simp [taken, ReaderPhase.tokens, Frame.tokens, memberTokens]
      · simp [taken, ReaderPhase.tokens, Frame.tokens, tokens_object, intercalate_append_cons,
          memberTokens]

private theorem taken_run {reader next : DocumentReader} {tokens : List Token}
    (ran : reader.run tokens = some next) : next.taken = reader.taken ++ tokens := by
  induction tokens generalizing reader with
  | nil =>
      cases ran
      rw [List.append_nil]
  | cons token rest ih =>
      rw [run_cons] at ran
      obtain ⟨between, stepped, ran⟩ := Option.bind_eq_some_iff.mp ran
      rw [ih ran, taken_step stepped, List.append_assoc, List.singleton_append]

end DocumentReader

mutual

/-- The tokens of a document are read as that document. -/
theorem ofTokens?_tokens : ∀ document : Document, Document.ofTokens? document.tokens = some document
  | .scalar value => by rw [Document.tokens]; rfl
  | .array items => by
      rw [Document.tokens]
      exact ofTokens?_array (ofTokens?_tokensOfItems items)
  | .object members => by
      rw [Document.tokens]
      exact ofTokens?_object (memberReads_tokensOfMembers members)

private theorem ofTokens?_tokensOfItems : ∀ items : List Document,
    List.Forall₂ (fun part item => Document.ofTokens? part = some item) (tokensOfItems items) items
  | [] => by rw [tokensOfItems]; exact .nil
  | item :: rest => by
      rw [tokensOfItems]
      exact .cons (ofTokens?_tokens item) (ofTokens?_tokensOfItems rest)

private theorem memberReads_tokensOfMembers : ∀ members : List (Option String × Document),
    List.Forall₂ MemberReads (tokensOfMembers members) members
  | [] => by rw [tokensOfMembers]; exact .nil
  | (key, value) :: rest => by
      rw [tokensOfMembers]
      exact .cons ⟨value.tokens, rfl, ofTokens?_tokens value⟩ (memberReads_tokensOfMembers rest)

end

/-- Tokens are read as a document exactly if they are its tokens. -/
theorem ofTokens?_eq_some_iff {tokens : List Token} {document : Document} :
    Document.ofTokens? tokens = some document ↔ tokens = document.tokens := by
  refine ⟨fun reads => ?_, fun same => same ▸ ofTokens?_tokens document⟩
  obtain ⟨⟨frames, phase⟩, ran, finished⟩ := Option.bind_eq_some_iff.mp reads
  unfold DocumentReader.finish? at finished
  split at finished
  · rename_i noFrames complete
    cases finished
    cases noFrames
    cases complete
    have taken := DocumentReader.taken_run ran
    simpa [DocumentReader.taken, DocumentReader.start, ReaderPhase.tokens] using taken.symm
  · cases finished

/-! ## Texts -/

private theorem separated_intercalate {parts : List (List Token)}
    (each : ∀ part ∈ parts, Separated part) : Separated (List.intercalate [.comma] parts) := by
  induction parts with
  | nil => exact .nil
  | cons part rest ih =>
      obtain ⟨first, others⟩ := List.forall_mem_cons.mp each
      cases rest with
      | nil => rwa [List.intercalate_singleton]
      | cons next rest =>
          rw [List.intercalate_cons_cons, List.append_assoc, List.singleton_append]
          exact first.append_cons (ih others) rfl

/-- Brackets keep what they enclose apart from everything else. -/
theorem separated_bracketed {parts : List (List Token)} (each : ∀ part ∈ parts, Separated part)
    (container : Container) :
    Separated (.opening container ::
      (List.intercalate [.comma] parts ++ [.closing container])) := by
  have none : Separated [] := .nil
  exact none.append_cons ((separated_intercalate each).append_cons none rfl) rfl

mutual

/-- In a document no two scalars follow each other. -/
theorem separated_tokens : ∀ document : Document, Separated document.tokens
  | .scalar value => by
      rw [Document.tokens]
      exact .single _
  | .array items => by
      rw [Document.tokens]
      exact separated_bracketed (separated_tokensOfItems items) .array
  | .object members => by
      rw [Document.tokens]
      exact separated_bracketed (separated_tokensOfMembers members) .object

private theorem separated_tokensOfItems : ∀ items : List Document,
    ∀ part ∈ tokensOfItems items, Separated part
  | [] => by
      rw [tokensOfItems]
      nofun
  | item :: rest => by
      rw [tokensOfItems]
      exact List.forall_mem_cons.mpr ⟨separated_tokens item, separated_tokensOfItems rest⟩

private theorem separated_tokensOfMembers : ∀ members : List (Option String × Document),
    ∀ part ∈ tokensOfMembers members, Separated part
  | [] => by
      rw [tokensOfMembers]
      nofun
  | (key, value) :: rest => by
      rw [tokensOfMembers]
      have named : Separated [.scalar (.string key)] := .single _
      exact List.forall_mem_cons.mpr
        ⟨named.append_cons (separated_tokens value) rfl, separated_tokensOfMembers rest⟩

end

/-- A JSON text of a document: its tokens as written, with white space around them. -/
def Denotes (characters : List Char) (document : Document) : Prop :=
  TokensText characters document.tokens

/-- Exactly the texts of a document are read as that document. -/
theorem spells_iff_denotes {characters : List Char} {document : Document} :
    Spells characters document ↔ Denotes characters document := by
  constructor
  · intro spells
    obtain ⟨tokens, scans, reads⟩ := spells.tokens
    have written := tokensText_of_tokens? scans
    rwa [ofTokens?_eq_some_iff.mp reads] at written
  · intro written
    exact .of_tokens (tokens?_of_tokensText written (separated_tokens document))
      (ofTokens?_tokens document)

/-- A text is parsed as the document that it denotes, and no other text is. -/
theorem parse?_eq_some_iff {text : String} {document : Document} :
    Document.parse? text = some document ↔ Denotes text.toList document :=
  spells_iff_denotes

/-! ## Places -/

/-- A place for a document inside another one: the tokens around it are always the same. -/
def IsPlace (place : Document → Document) : Prop :=
  ∃ early late, ∀ document, (place document).tokens = early ++ document.tokens ++ late

/-- Texts before and after a place. -/
def Around (before after : List Char) (place : Document → Document) : Prop :=
  ∃ early late, TokensText before early ∧ TokensText after late ∧
    ∀ document, (place document).tokens = early ++ document.tokens ++ late

/-- What stands for a document may be put into a place for it. -/
theorem Around.fill {before after characters : List Char} {place : Document → Document}
    {document : Document} (around : Around before after place)
    (inside : Denotes characters document) :
    Denotes (before ++ characters ++ after) (place document) := by
  obtain ⟨early, late, first, last, same⟩ := around
  unfold Denotes
  rw [same]
  exact (first.append inside).append last

/-- What stands in a place can be found in the text. -/
theorem IsPlace.find {place : Document → Document} (isPlace : IsPlace place)
    {characters : List Char} {document : Document} (whole : Denotes characters (place document)) :
    ∃ before inside after, characters = before ++ inside ++ after ∧ Around before after place ∧
      Denotes inside document := by
  obtain ⟨early, late, same⟩ := isPlace
  unfold Denotes at whole
  rw [same] at whole
  obtain ⟨first, after, rfl, left, last⟩ := whole.split
  obtain ⟨before, inside, rfl, first, middle⟩ := left.split
  exact ⟨before, inside, after, rfl, ⟨early, late, first, last, same⟩, middle⟩

namespace IsPlace

/-- An item of an array. -/
theorem item (first rest : List Document) : IsPlace fun item => .array (first ++ item :: rest) := by
  refine ⟨.opening .array :: (first.map Document.tokens).flatMap (· ++ [.comma]),
    (rest.map Document.tokens).flatMap (.comma :: ·) ++ [.closing .array], fun item => ?_⟩
  rw [tokens_array, List.map_append, List.map_cons, intercalate_append_cons]
  simp only [List.cons_append, List.append_assoc]

/-- The value of a member of an object. -/
theorem member (first rest : List Member) (key : Option String) :
    IsPlace fun value => .object (first ++ (key, value) :: rest) := by
  refine ⟨.opening .object :: (first.map memberTokens).flatMap (· ++ [.comma]) ++
      [.scalar (.string key), .colon],
    (rest.map memberTokens).flatMap (.comma :: ·) ++ [.closing .object], fun value => ?_⟩
  rw [tokens_object, List.map_append, List.map_cons, intercalate_append_cons]
  simp only [memberTokens, List.cons_append, List.append_assoc, List.nil_append]

/-- A place within a place. -/
theorem comp {outer inner : Document → Document} (around : IsPlace outer)
    (within : IsPlace inner) : IsPlace (outer ∘ inner) := by
  obtain ⟨early, late, same⟩ := around
  obtain ⟨first, last, equal⟩ := within
  refine ⟨early ++ first, last ++ late, fun document => ?_⟩
  rw [Function.comp_apply, same, equal]
  simp only [List.append_assoc]

end IsPlace

end CallControl.Json
