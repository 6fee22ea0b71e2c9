import CallControl.Proofs.TokenTexts

/-! # Reading tokens

The scanner reads all that the grammar of tokens allows, one production after the other: white
space, strings, numbers and constants. Tokens as written are read as these tokens
(`tokens?_of_tokensText`) whenever no two scalars follow each other, which they never do in a
document.
-/

namespace CallControl.Json

open CallControl.Text

/-! ## White space -/

/-- No white space continues a number. -/
theorem NumberPhase.extend?_of_space {character : Char} (space : isJsonSpace character = true)
    (phase : NumberPhase) : phase.extend? character = none := by
  simp only [isJsonSpace, Bool.or_eq_true, beq_iff_eq] at space
  obtain ((rfl | rfl) | rfl) | rfl := space
  all_goals
    cases phase with
    | fraction whole digits => cases digits <;> rfl
    | _ => rfl

namespace Scanner

variable {tokens : List Token} {negative : Bool} {phase next : NumberPhase}

/-- White space ends whatever may end before it. -/
theorem step_of_space {scanner : Scanner} (finishes : scanner.finish? = some tokens)
    {character : Char} (space : isJsonSpace character = true) :
    scanner.step (some character) = some ⟨.between, tokens⟩ := by
  have between (tokens : List Token) :
      stepBetween tokens character = some ⟨.between, tokens⟩ := if_pos space
  obtain ⟨mode, earlier⟩ := scanner
  cases mode with
  | between =>
      cases finishes
      exact between _
  | number negative phase =>
      obtain ⟨literal, ends, rfl⟩ := Option.map_eq_some_iff.mp finishes
      simp only [step, stepChar, NumberPhase.extend?_of_space space, ends]
      exact between _
  | _ => cases finishes

private theorem run_blank {scanner : Scanner} (finishes : scanner.finish? = some tokens)
    {blank : List Char} (white : Blank blank) :
    ∃ last, scanner.run (blank.map some) = some last ∧ last.finish? = some tokens := by
  induction blank generalizing scanner with
  | nil => exact ⟨scanner, rfl, finishes⟩
  | cons character rest ih =>
      obtain ⟨space, white⟩ := List.forall_mem_cons.mp white
      rw [List.map_cons, run_cons, step_of_space finishes space, Option.bind_some]
      exact ih rfl white

/-! ## Strings -/

private theorem run_hexDigits {written : List Char} {values : List Nat}
    (digits : DigitsText hexDigit? written values) {missing : Nat}
    (all : values.length = missing) (awaited : 0 < missing) (string : StringPhase) (unit : Nat) :
    run ⟨.code string missing unit, tokens⟩ (written.map some) =
      some ⟨.string (string.pushCode (values.foldl (fun unit value => unit * 16 + value) unit)),
        tokens⟩ := by
  induction digits generalizing missing unit with
  | nil => exact absurd awaited (all ▸ Nat.lt_irrefl 0)
  | @cons digit value written values read others ih =>
      rw [List.length_cons] at all
      rw [List.map_cons, run_cons]
      simp only [step, stepChar, read]
      by_cases last : missing ≤ 1
      · have noValues : values = [] := List.length_eq_zero_iff.mp (by omega)
        subst noValues
        rw [List.forall₂_nil_right_iff.mp others]
        simp only [last, ↓reduceIte, Option.bind_some]
        rfl
      · simp only [last, ↓reduceIte, Option.bind_some]
        exact ih (by omega) (by omega) _

private theorem run_piece {part : List Char} {piece : Piece} (written : PieceText part piece)
    (string : StringPhase) :
    run ⟨.string string, tokens⟩ (part.map some) = some ⟨.string (string.take piece), tokens⟩ := by
  cases written with
  | @plain character visible unquoted unescaped =>
      have quote : (character == '"') = false := beq_false_of_ne unquoted
      have backslash : (character == '\\') = false := beq_false_of_ne unescaped
      rw [List.map_singleton, run_cons]
      simp only [step, stepChar, quote, backslash, Nat.not_lt.mpr visible, Bool.false_eq_true,
        ↓reduceIte, Option.bind_some, run_nil]
      rfl
  | @escape letter character escapes =>
      have byLetter : (letter == 'u') = false := beq_false_of_ne fun same => by
        rw [same] at escapes
        cases escapes
      have escaped : step ⟨.escape string, tokens⟩ (some letter) =
          some ⟨.string (string.push character), tokens⟩ := by
        simp only [step, stepChar, byLetter, Bool.false_eq_true, ↓reduceIte, escapes,
          Option.map_some]
      exact (run_cons ⟨.escape string, tokens⟩ (some letter) []).trans (by rw [escaped]; rfl)
  | code digits four => exact run_hexDigits digits four (by decide) string 0

private theorem run_pieces {parts : List (List Char)} {pieces : List Piece}
    (written : List.Forall₂ PieceText parts pieces) (string : StringPhase) :
    run ⟨.string string, tokens⟩ (parts.flatten.map some) =
      some ⟨.string (pieces.foldl StringPhase.take string), tokens⟩ := by
  induction written generalizing string with
  | nil => rfl
  | cons first _ ih =>
      rw [List.flatten_cons, List.map_append, run_append, run_piece first, Option.bind_some]
      exact ih _

/-! ## Numbers -/

private theorem run_extend {character : Char} (extended : phase.extend? character = some next)
    (rest : List (Option Char)) :
    run ⟨.number negative phase, tokens⟩ (some character :: rest) =
      run ⟨.number negative next, tokens⟩ rest := by
  rw [run_cons]
  simp only [step, stepChar, extended, Option.bind_some]

/-- Digits are held where a phase holds them. -/
theorem run_digitsText (hold : List Nat → NumberPhase)
    (holds : ∀ (held : List Nat) (digit : Char) (value : Nat), digit? digit = some value →
      (hold held).extend? digit = some (hold (value :: held)))
    {written : List Char} {values : List Nat} (digits : DigitsText digit? written values)
    (held : List Nat) :
    run ⟨.number negative (hold held), tokens⟩ (written.map some) =
      some ⟨.number negative (hold (values.reverse ++ held)), tokens⟩ := by
  induction digits generalizing held with
  | nil => rfl
  | @cons digit value written values read _ ih =>
      rw [List.map_cons, run_extend (holds held digit value read), ih, List.reverse_cons,
        List.append_assoc, List.singleton_append]

private theorem run_decimals {written : List Char} {values : List Nat}
    (digits : DigitsText digit? written values) (whole held : List Nat) :
    run ⟨.number negative (.fraction whole held), tokens⟩ (written.map some) =
      some ⟨.number negative (.fraction whole (values.reverse ++ held)), tokens⟩ :=
  run_digitsText (.fraction whole)
    (fun held digit value read => by simp only [NumberPhase.extend?, read]) digits held

private theorem run_power {written : List Char} {values : List Nat}
    (digits : DigitsText digit? written values) (whole decimals : List Nat) (below : Bool)
    (held : List Nat) :
    run ⟨.number negative (.exponent whole decimals below held), tokens⟩ (written.map some) =
      some ⟨.number negative (.exponent whole decimals below (values.reverse ++ held)), tokens⟩ :=
  run_digitsText (.exponent whole decimals below)
    (fun held digit value read => by simp only [NumberPhase.extend?, read]) digits held

end Scanner

namespace NumberPhase

/-- The integer part of a number has been read. -/
structure HoldsInteger (phase : NumberPhase) (integer : List Nat) : Prop where
  literal (negative : Bool) : phase.literal? negative = some ⟨negative, integer, [], none⟩
  goesOn (character : Char) (noDigit : digit? character = none) :
    phase.extend? character = afterInteger? integer.reverse character

/-- The integer part and the fraction of a number have been read. -/
structure HoldsFraction (phase : NumberPhase) (integer fraction : List Nat) : Prop where
  literal (negative : Bool) : phase.literal? negative = some ⟨negative, integer, fraction, none⟩
  goesOn (mark : Char) (marks : isExponentMark mark = true) :
    phase.extend? mark = some (.mark integer.reverse fraction.reverse)

private theorem holdsInteger_zero : HoldsInteger .zero [0] where
  literal _ := rfl
  goesOn character noDigit := by simp only [extend?, noDigit, List.reverse_singleton]

private theorem holdsInteger_integer (digits : List Nat) :
    HoldsInteger (.integer digits) digits.reverse where
  literal _ := rfl
  goesOn character noDigit := by simp only [extend?, noDigit, List.reverse_reverse]

private theorem digit?_of_isExponentMark {mark : Char} (marks : isExponentMark mark = true) :
    mark ≠ '.' ∧ digit? mark = none := by
  simp only [isExponentMark, Bool.or_eq_true, beq_iff_eq] at marks
  obtain rfl | rfl := marks <;> decide

private theorem HoldsInteger.holdsFraction {phase : NumberPhase} {integer : List Nat}
    (holds : HoldsInteger phase integer) : HoldsFraction phase integer [] where
  literal := holds.literal
  goesOn mark marks := by
    obtain ⟨noPoint, noDigit⟩ := digit?_of_isExponentMark marks
    rw [holds.goesOn mark noDigit, afterInteger?, beq_false_of_ne noPoint, marks]
    rfl

private theorem holdsFraction_fraction {integer : List Nat} {values : List Nat}
    (nonempty : values ≠ []) :
    HoldsFraction (.fraction integer.reverse values.reverse) integer values := by
  obtain ⟨digit, digits, held⟩ :=
    List.exists_cons_of_ne_nil (mt List.reverse_eq_nil_iff.mp nonempty)
  have value : values = (digit :: digits).reverse := List.reverse_eq_iff.mp held
  subst value
  rw [List.reverse_reverse]
  refine ⟨fun _ => by simp [literal?], fun mark marks => ?_⟩
  simp only [extend?, (digit?_of_isExponentMark marks).2, marks, ↓reduceIte, List.reverse_reverse]

end NumberPhase

namespace Scanner

variable {negative : Bool} {phase : NumberPhase}

/-- Where a digit may stand, the part of a number before the point is read. -/
theorem run_integerText {mode : ScanMode}
    (begins : ∀ digit < 10, step ⟨mode, []⟩ (some (digitChar digit)) =
      some ⟨.number negative (if digit = 0 then .zero else .integer [digit]), []⟩)
    {whole : List Char} {integer : List Nat} (before : IntegerText whole integer) :
    ∃ phase : NumberPhase, phase.HoldsInteger integer ∧
      run ⟨mode, []⟩ (whole.map some) = some ⟨.number negative phase, []⟩ := by
  cases before with
  | zero =>
      refine ⟨.zero, NumberPhase.holdsInteger_zero, ?_⟩
      have begun : step ⟨mode, []⟩ (some '0') = some ⟨.number negative .zero, []⟩ :=
        begins 0 (by decide)
      rw [List.map_singleton, run_cons, begun, Option.bind_some, run_nil]
  | @positive leading value written values first nonzero digits =>
      obtain ⟨small, rfl⟩ := eq_digitChar first
      have begun := begins value small
      rw [if_neg nonzero] at begun
      refine ⟨.integer (values.reverse ++ [value]), ?_, ?_⟩
      · have holds := NumberPhase.holdsInteger_integer (values.reverse ++ [value])
        rwa [List.reverse_append, List.reverse_reverse] at holds
      · rw [List.map_cons, run_cons, begun, Option.bind_some]
        refine run_digitsText .integer (fun held digit value read => ?_) digits [value]
        simp only [NumberPhase.extend?, read]

variable (negative)

private theorem run_fractionText {integer : List Nat} (holds : phase.HoldsInteger integer)
    {decimals : List Char} {fraction : List Nat} (after : FractionText decimals fraction) :
    ∃ longer : NumberPhase, longer.HoldsFraction integer fraction ∧
      run ⟨.number negative phase, []⟩ (decimals.map some) =
        some ⟨.number negative longer, []⟩ := by
  cases after with
  | absent => exact ⟨phase, holds.holdsFraction, rfl⟩
  | @present written values digits nonempty =>
      refine ⟨_, NumberPhase.holdsFraction_fraction nonempty, ?_⟩
      have point : phase.extend? '.' = some (.fraction integer.reverse []) :=
        holds.goesOn '.' (by decide)
      rw [List.map_cons, run_extend point, run_decimals digits, List.append_nil]

private theorem run_exponentText {integer fraction : List Nat}
    (holds : phase.HoldsFraction integer fraction) {power : List Char}
    {exponent : Option (Bool × List Nat)} (scale : ExponentText power exponent) :
    ∃ last : NumberPhase, last.literal? negative = some ⟨negative, integer, fraction, exponent⟩ ∧
      run ⟨.number negative phase, []⟩ (power.map some) =
        some ⟨.number negative last, []⟩ := by
  cases scale with
  | absent => exact ⟨phase, holds.literal negative, rfl⟩
  | @present mark sign written below values marks signed digits nonempty =>
      refine ⟨.exponent integer.reverse fraction.reverse below values.reverse, ?_, ?_⟩
      · obtain ⟨digit, others, held⟩ :=
          List.exists_cons_of_ne_nil (mt List.reverse_eq_nil_iff.mp nonempty)
        simp only [NumberPhase.literal?, held, List.reverse_reverse]
        rw [← held, List.reverse_reverse]
      · rw [List.cons_append, List.map_cons, run_extend (holds.goesOn mark marks)]
        cases signed with
        | absent =>
            cases digits with
            | nil => exact (nonempty rfl).elim
            | @cons digit value written values read others =>
                have begun : (NumberPhase.mark integer.reverse fraction.reverse).extend? digit =
                    some (.exponent integer.reverse fraction.reverse false [value]) := by
                  simp only [NumberPhase.extend?, read]
                rw [List.nil_append, List.map_cons, run_extend begun, run_power others,
                  List.reverse_cons]
        | plus =>
            have signed : (NumberPhase.mark integer.reverse fraction.reverse).extend? '+' =
                some (.exponent integer.reverse fraction.reverse false []) := rfl
            rw [List.singleton_append, List.map_cons, run_extend signed, run_power digits,
              List.append_nil]
        | minus =>
            have signed : (NumberPhase.mark integer.reverse fraction.reverse).extend? '-' =
                some (.exponent integer.reverse fraction.reverse true []) := rfl
            rw [List.singleton_append, List.map_cons, run_extend signed, run_power digits,
              List.append_nil]

end Scanner

private theorem tokens?_of_numberText {written : List Char} {literal : NumberLiteral}
    (number : NumberText written literal) :
    tokens? (written.map some) = some [.scalar (.number literal)] := by
  obtain @⟨negative, whole, decimals, power, integer, fraction, exponent, before, after, scale⟩ :=
    number
  -- a sign only makes the scanner wait for a digit
  obtain ⟨mode, signed, begins⟩ : ∃ mode : ScanMode,
      Scanner.start.run ((signText negative).map some) = some ⟨mode, []⟩ ∧
      ∀ digit < 10, Scanner.step ⟨mode, []⟩ (some (digitChar digit)) =
        some ⟨.number negative (if digit = 0 then .zero else .integer [digit]), []⟩ := by
    cases negative with
    | false => exact ⟨.between, rfl, by decide⟩
    | true => exact ⟨.number true .sign, rfl, by decide⟩
  obtain ⟨read, holdsInteger, first⟩ := Scanner.run_integerText begins before
  obtain ⟨longer, holdsFraction, second⟩ :=
    Scanner.run_fractionText negative holdsInteger after
  obtain ⟨last, ends, third⟩ := Scanner.run_exponentText negative holdsFraction scale
  unfold tokens?
  simp only [List.map_append, Scanner.run_append, signed, first, second, third, Option.bind_some,
    Scanner.finish?, ends, Option.map_some, List.reverse_singleton]

private theorem tokens?_of_scalarText {written : List Char} {value : Scalar}
    (scalar : ScalarText written value) : tokens? (written.map some) = some [.scalar value] := by
  cases scalar with
  | null => decide
  | true => decide
  | false => decide
  | number number => exact tokens?_of_numberText number
  | @string parts pieces written =>
      have opened : Scanner.start.step (some '"') = some ⟨.string ⟨[], true, none⟩, []⟩ := rfl
      have closed (string : StringPhase) : Scanner.step ⟨.string string, []⟩ (some '"') =
          some ⟨.between, [.scalar (.string string.text?)]⟩ := rfl
      unfold tokens?
      rw [List.cons_append, List.map_cons, Scanner.run_cons, opened, Option.bind_some,
        List.map_append, Scanner.run_append, Scanner.run_pieces written, Option.bind_some,
        List.map_singleton, Scanner.run_cons, closed, StringPhase.text?_foldl_take]
      rfl

private theorem tokens?_append_blank {characters blank : List Char} {tokens : List Token}
    (scans : tokens? (characters.map some) = some tokens) (white : Blank blank) :
    tokens? ((characters ++ blank).map some) = some tokens := by
  obtain ⟨scanner, ran, scanned⟩ := Option.bind_eq_some_iff.mp scans
  obtain ⟨newest, ends, rfl⟩ := Option.map_eq_some_iff.mp scanned
  obtain ⟨last, went, finishes⟩ := Scanner.run_blank ends white
  unfold tokens?
  rw [List.map_append, Scanner.run_append, ran, Option.bind_some, went, Option.bind_some, finishes]
  rfl

private theorem tokens?_blank_append {blank : List Char} (white : Blank blank)
    (characters : List (Option Char)) :
    tokens? (blank.map some ++ characters) = tokens? characters := by
  induction blank with
  | nil => rfl
  | cons character rest ih =>
      obtain ⟨space, white⟩ := List.forall_mem_cons.mp white
      have stayed : Scanner.start.step (some character) = some Scanner.start :=
        Scanner.step_of_space rfl space
      rw [← ih white, List.map_cons, List.cons_append]
      unfold tokens?
      rw [Scanner.run_cons, stayed, Option.bind_some]

/-! ## Sequences of tokens -/

/-- A token that is a scalar. -/
def Token.isScalar : Token → Bool
  | .scalar _ => true
  | _ => false

/-- No two scalars follow each other. -/
def Separated (tokens : List Token) : Prop :=
  tokens.IsChain fun first second => first.isScalar = false ∨ second.isScalar = false

private theorem tokens?_of_blank {blank : List Char} (white : Blank blank) :
    tokens? (blank.map some) = some [] := by
  have scans : tokens? (([] : List Char).map some) = some [] := tokens?_nil
  exact tokens?_append_blank scans white

/-- A mark is read behind white space, and what follows it is read as if it stood alone. -/
theorem tokens?_mark_of_blank {blank : List Char} (white : Blank blank) {mark : Char}
    {token : Token} (marks : punctuation? mark = some token) (rest : List Char) :
    tokens? ((blank ++ [mark] ++ rest).map some) = (tokens? (rest.map some)).map (token :: ·) := by
  rw [List.map_append, List.map_append, List.append_assoc]
  exact tokens?_mark (tokens?_of_blank white) marks (rest.map some)

/-- Tokens as written are read as these tokens. -/
theorem tokens?_of_tokensText {characters : List Char} {tokens : List Token}
    (written : TokensText characters tokens) (separated : Separated tokens) :
    tokens? (characters.map some) = some tokens := by
  induction written with
  | none white => exact tokens?_of_blank white
  | @next blank written rest token tokens white first others ih =>
      have scans := ih separated.tail
      cases first with
      | mark marks => rw [tokens?_mark_of_blank white marks, scans, Option.map_some]
      | @scalar _ value scalar =>
          rw [List.append_assoc, List.map_append, tokens?_blank_append white]
          have alone := tokens?_of_scalarText scalar
          -- what ends the scalar is the end of the text or a mark, perhaps behind white space
          cases others with
          | none trailing => exact tokens?_append_blank alone trailing
          | @next between _ rest following tokens trailing second others =>
              cases second with
              | scalar =>
                  obtain apart | apart := separated.rel <;> cases apart
              | @mark mark _ marks =>
                  rw [tokens?_mark_of_blank trailing marks] at scans
                  obtain ⟨_, scanned, same⟩ := Option.map_eq_some_iff.mp scans
                  cases same
                  have before := tokens?_append_blank alone trailing
                  rw [← List.append_assoc, ← List.append_assoc, List.append_assoc, List.map_append,
                    List.singleton_append, List.map_cons, tokens?_mark before marks, scanned]
                  rfl

/-! ## Separated tokens -/

namespace Separated

/-- One token needs no separation. -/
theorem single (token : Token) : Separated [token] := .singleton token

/-- Marks may stand between separated tokens. -/
theorem append_cons {first second : List Token} (before : Separated first)
    (after : Separated second) {mark : Token} (marks : mark.isScalar = false) :
    Separated (first ++ mark :: second) :=
  before.append (after.cons fun _ _ => .inl marks) fun _ _ _ same => by
    cases same
    exact .inr marks

end Separated

end CallControl.Json
