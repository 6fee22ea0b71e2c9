import CallControl.Json.Writer
import CallControl.Proofs.DocumentTexts

/-! # What is written

What the writer makes of a text, a truth value or an integer denotes it, and what it puts
together of parts that denote documents denotes the array or the object of these documents
(`Spells.writeArray`, `Spells.writeObject`). It does not matter how the parts came about, so
they may hold white space and whatever else a reader passes over.
-/

namespace CallControl.Json

open CallControl.Text

/-! ## Strings -/

/-- A character as written in a string is a piece that stands for it. -/
theorem exists_pieceText_escapeChar (character : Char) :
    ∃ piece, PieceText (escapeChar character) piece ∧
      ∀ rest, decode? (piece :: rest) = (decode? rest).map (character :: ·) := by
  unfold escapeChar
  split
  case h_8 unquoted unescaped _ _ _ _ _ =>
    split
    next control =>
      have high : hexDigit? (hexChar (character.toNat / 16)) = some (character.toNat / 16) :=
        hexDigit?_hexChar (by omega)
      have low : hexDigit? (hexChar (character.toNat % 16)) = some (character.toNat % 16) :=
        hexDigit?_hexChar (by omega)
      have digits : DigitsText hexDigit?
          ['0', '0', hexChar (character.toNat / 16), hexChar (character.toNat % 16)]
          [0, 0, character.toNat / 16, character.toNat % 16] :=
        .cons rfl (.cons rfl (.cons high (.cons low .nil)))
      refine ⟨_, .code digits rfl, fun rest => ?_⟩
      have unit : [0, 0, character.toNat / 16, character.toNat % 16].foldl
          (fun unit value => unit * 16 + value) 0 = character.toNat := by
        simp only [List.foldl_cons, List.foldl_nil]
        omega
      have notHigh : ¬ IsHighHalf character.toNat := fun high => by
        unfold IsHighHalf at high
        omega
      have notLow : ¬ IsLowHalf character.toNat := fun low => by
        unfold IsLowHalf at low
        omega
      rw [unit, decode?.eq_def]
      simp only [notHigh, notLow, ↓reduceIte, Char.ofNat_toNat]
    next visible =>
      exact ⟨_, .plain (Nat.le_of_not_lt visible) unquoted unescaped, fun rest => rfl⟩
  all_goals exact ⟨_, .escape rfl, fun rest => rfl⟩

private theorem exists_pieceTexts (characters : List Char) :
    ∃ pieces, List.Forall₂ PieceText (characters.map escapeChar) pieces ∧
      decode? pieces = some characters := by
  induction characters with
  | nil => exact ⟨[], .nil, rfl⟩
  | cons character rest ih =>
      obtain ⟨piece, written, decoded⟩ := exists_pieceText_escapeChar character
      obtain ⟨pieces, others, decodes⟩ := ih
      exact ⟨piece :: pieces, .cons written others, by rw [decoded, decodes, Option.map_some]⟩

private theorem scalarText_writeText (text : String) :
    ScalarText (writeText text) (.string (some text)) := by
  obtain ⟨pieces, written, decodes⟩ := exists_pieceTexts text.toList
  have string := ScalarText.string written
  rwa [decodes, Option.map_some, String.ofList_toList, ← List.flatMap_def] at string

/-! ## Numbers -/

/-- The literal of an integer. -/
def integerLiteral : Int → NumberLiteral
  | .ofNat value => ⟨false, digits value, [], none⟩
  | .negSucc value => ⟨true, digits (value + 1), [], none⟩

private theorem digitsText_digitChar {run : List Nat} (small : ∀ digit ∈ run, digit < 10) :
    DigitsText digit? (run.map digitChar) run := by
  unfold DigitsText
  rw [List.forall₂_map_left_iff, List.forall₂_same]
  exact fun digit mem => digit?_digitChar (small digit mem)

private theorem integerText_decimal (value : Nat) : IntegerText (decimal value) (digits value) := by
  unfold decimal
  have small := lt_ten_of_mem_digits value
  cases written : digits value with
  | nil => exact absurd written (digits_ne_nil value)
  | cons leading rest =>
      rw [written] at small
      rcases Nat.eq_zero_or_pos value with rfl | positive
      · have zero : digits 0 = [0] := by
          rw [digits, if_pos (by decide)]
        rw [zero] at written
        cases written
        exact .zero
      · exact .positive (digit?_digitChar (small leading List.mem_cons_self))
          (leading_ne_zero positive written)
          (digitsText_digitChar fun digit mem => small digit (List.mem_cons_of_mem _ mem))

private theorem numberText_signedDecimal (value : Int) :
    NumberText (signedDecimal value) (integerLiteral value) := by
  cases value with
  | ofNat value =>
      have text := @NumberText.parts false _ _ _ _ _ _ (integerText_decimal value) .absent .absent
      rwa [List.append_nil, List.append_nil] at text
  | negSucc value =>
      have text := @NumberText.parts true _ _ _ _ _ _ (integerText_decimal (value + 1)) .absent
        .absent
      rwa [List.append_nil, List.append_nil] at text

/-- The literal of an integer of 64 bits, signed or unsigned, stands for that integer. -/
theorem value?_integerLiteral {value : Int} (lower : -Int.pow 2 63 ≤ value)
    (upper : value < Int.pow 2 64) :
    (integerLiteral value).value? = some (.integer value) := by
  change -9223372036854775808 ≤ value at lower
  change value < 18446744073709551616 at upper
  have kept : (integerLiteral value).integer? = some value := by
    cases value with
    | ofNat value =>
        have fits : value ≤ maxUnsigned := by
          rw [Int.ofNat_eq_natCast] at upper
          change value ≤ 18446744073709551615
          omega
        simp only [integerLiteral, NumberLiteral.integer?, List.isEmpty_nil, Option.isNone_none,
          Bool.and_self, Bool.false_eq_true, ↓reduceIte, ofDigits_digits, fits,
          Int.ofNat_eq_natCast]
    | negSucc value =>
        have fits : 0 < value + 1 ∧ value + 1 ≤ Nat.pow 2 63 := by
          change 0 < value + 1 ∧ value + 1 ≤ 9223372036854775808
          omega
        simp only [integerLiteral, NumberLiteral.integer?, List.isEmpty_nil, Option.isNone_none,
          Bool.and_self, ↓reduceIte, ofDigits_digits, if_pos fits]
        rfl
  unfold NumberLiteral.value?
  rw [kept]

/-! ## Documents -/

namespace Denotes

private theorem scalar {written : List Char} {value : Scalar} (text : ScalarText written value) :
    Denotes written (.scalar value) := by
  unfold Denotes
  rw [Document.tokens]
  exact .single (.scalar text)

end Denotes

/-- Parts with commas between them hold the tokens of the parts with commas between them. -/
theorem tokensText_commaSeparated {parts : List (List Char)} {tokens : List (List Token)}
    (written : List.Forall₂ TokensText parts tokens) :
    TokensText (commaSeparated parts) (List.intercalate [.comma] tokens) := by
  induction written with
  | nil => exact .none .nil
  | @cons part read parts tokens first written ih =>
      cases written with
      | nil =>
          rw [List.intercalate_singleton]
          exact first
      | cons next others =>
          have comma : TokenText [','] .comma := .mark rfl
          rw [List.intercalate_cons_cons, List.append_assoc]
          exact first.append ((TokensText.single comma).append ih)

/-- Parts with commas between them and a mark before and after them. -/
theorem tokensText_bracketed {parts : List (List Char)} {tokens : List (List Token)}
    (written : List.Forall₂ TokensText parts tokens) {left right : Char} {opening closing : Token}
    (opens : TokenText [left] opening) (closes : TokenText [right] closing) :
    TokensText (left :: commaSeparated parts ++ [right])
      (opening :: (List.intercalate [.comma] tokens ++ [closing])) :=
  (TokensText.single opens).append
    ((tokensText_commaSeparated written).append (TokensText.single closes))

/-- What a member says is spelled behind its key. -/
def SpellsMember (field : String × List Char) (member : Member) : Prop :=
  member.1 = some field.1 ∧ Spells field.2 member.2

private theorem SpellsMember.tokensText {field : String × List Char} {member : Member}
    (spells : SpellsMember field member) :
    TokensText (writeText field.1 ++ ':' :: field.2) (memberTokens member) := by
  obtain ⟨named, value⟩ := spells
  have key : TokenText (writeText field.1) (.scalar (.string member.1)) :=
    .scalar (named ▸ scalarText_writeText field.1)
  have colon : TokenText [':'] .colon := .mark rfl
  exact (TokensText.single key).append
    ((TokensText.single colon).append (spells_iff_denotes.mp value))

namespace Spells

private theorem of_scalarText {written : List Char} {value : Scalar}
    (text : ScalarText written value) :
    Spells written (.scalar value) :=
  spells_iff_denotes.mpr (.scalar text)

/-- The null literal spells itself. -/
theorem null : Spells "null".toList (.scalar .null) := of_scalarText .null

/-- A truth value is written as it is spelled. -/
theorem writeBool (value : Bool) : Spells (writeBool value) (.scalar (.bool value)) := by
  cases value with
  | true => exact of_scalarText .true
  | false => exact of_scalarText .false

/-- A text is written as it is spelled. -/
theorem writeText (text : String) : Spells (writeText text) (.scalar (.string (some text))) :=
  of_scalarText (scalarText_writeText text)

/-- An integer is written as it is spelled. -/
theorem signedDecimal (value : Int) :
    Spells (signedDecimal value) (.scalar (.number (integerLiteral value))) :=
  of_scalarText (.number (numberText_signedDecimal value))

/-- Items that are spelled make a spelled array. -/
theorem writeArray {parts : List (List Char)} {items : List Document}
    (spells : List.Forall₂ Spells parts items) : Spells (writeArray parts) (.array items) := by
  refine spells_iff_denotes.mpr ?_
  unfold Denotes
  rw [tokens_array]
  refine tokensText_bracketed ?_ (.mark rfl) (.mark rfl)
  rw [List.forall₂_map_right_iff]
  exact spells.imp fun _ _ spelled => spells_iff_denotes.mp spelled

/-- Members whose values are spelled make a spelled object. -/
theorem writeObject {fields : List (String × List Char)} {members : List Member}
    (spells : List.Forall₂ SpellsMember fields members) :
    Spells (writeObject fields) (.object members) := by
  refine spells_iff_denotes.mpr ?_
  unfold Denotes
  rw [tokens_object]
  refine tokensText_bracketed ?_ (.mark rfl) (.mark rfl)
  rw [List.forall₂_map_left_iff, List.forall₂_map_right_iff]
  exact spells.imp fun _ _ spelled => spelled.tokensText

/-- Whatever can be written behind names that are texts can be written as an object. -/
theorem exists_object {members : List Member}
    (each : ∀ member ∈ members, ∃ field, SpellsMember field member) :
    ∃ written, Spells written (.object members) := by
  have fields : ∃ fields, List.Forall₂ SpellsMember fields members := by
    induction members with
    | nil => exact ⟨[], .nil⟩
    | cons member rest ih =>
        obtain ⟨⟨field, first⟩, each⟩ := List.forall_mem_cons.mp each
        obtain ⟨fields, others⟩ := ih each
        exact ⟨field :: fields, .cons first others⟩
  obtain ⟨fields, spells⟩ := fields
  exact ⟨_, writeObject spells⟩

end Spells

end CallControl.Json
