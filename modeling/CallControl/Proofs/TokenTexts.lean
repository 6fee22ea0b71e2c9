import Mathlib.Data.List.Chain
import CallControl.Proofs.Spelling

/-! # Tokens as written

The grammar of JSON's tokens: how a string, a number and a constant are written, and that
white space may stand around every token (`TokensText`). The scanner reads characters as
tokens only if the tokens may be written so (`tokensText_of_tokens?`).
-/

namespace CallControl.Json

open CallControl.Text

/-! ## The grammar -/

/-- Nothing but JSON's own white space. -/
def Blank (characters : List Char) : Prop :=
  ∀ character ∈ characters, isJsonSpace character = true

/-- Digits, decimal or hexadecimal, with their values. -/
def DigitsText (value? : Char → Option Nat) (written : List Char) (values : List Nat) : Prop :=
  List.Forall₂ (fun digit value => value? digit = some value) written values

/-- A piece of a string: a character, or a unit of UTF-16 given by an escape. -/
inductive Piece where
  | character (character : Char)
  | code (unit : Nat)

/-- A piece of a string as written. -/
inductive PieceText : List Char → Piece → Prop
  | plain {character : Char} (visible : 0x20 ≤ character.toNat) (unquoted : character ≠ '"')
      (unescaped : character ≠ '\\') : PieceText [character] (.character character)
  | escape {letter character : Char} (escapes : escapedChar? letter = some character) :
      PieceText ['\\', letter] (.character character)
  | code {written : List Char} {values : List Nat} (digits : DigitsText hexDigit? written values)
      (four : values.length = 4) :
      PieceText ('\\' :: 'u' :: written)
        (.code (values.foldl (fun unit value => unit * 16 + value) 0))

/-- The first halves of surrogate pairs. -/
def IsHighHalf (unit : Nat) : Prop := 0xD800 ≤ unit ∧ unit ≤ 0xDBFF

/-- The second halves of surrogate pairs. -/
def IsLowHalf (unit : Nat) : Prop := 0xDC00 ≤ unit ∧ unit ≤ 0xDFFF

instance (unit : Nat) : Decidable (IsHighHalf unit) := inferInstanceAs (Decidable (_ ∧ _))

instance (unit : Nat) : Decidable (IsLowHalf unit) := inferInstanceAs (Decidable (_ ∧ _))

/-- The character of a surrogate pair. -/
def pairedChar (high low : Nat) : Char :=
  Char.ofNat (0x10000 + (high - 0xD800) * 0x400 + (low - 0xDC00))

/-- The characters that some pieces stand for: both halves of a pair must be there, one right
after the other. -/
def decode? : List Piece → Option (List Char)
  | [] => some []
  | .character character :: rest => (decode? rest).map (character :: ·)
  | .code unit :: rest =>
      if IsHighHalf unit then
        match rest with
        | .code low :: rest =>
            if IsLowHalf low then (decode? rest).map (pairedChar unit low :: ·) else none
        | _ => none
      else if IsLowHalf unit then none
      else (decode? rest).map (Char.ofNat unit :: ·)

/-- The part of a number before the point: no further digit follows a leading zero. -/
inductive IntegerText : List Char → List Nat → Prop
  | zero : IntegerText ['0'] [0]
  | positive {leading : Char} {value : Nat} {written : List Char} {values : List Nat}
      (first : digit? leading = some value) (nonzero : value ≠ 0)
      (digits : DigitsText digit? written values) :
      IntegerText (leading :: written) (value :: values)

/-- The part of a number from the point on, if there is one. -/
inductive FractionText : List Char → List Nat → Prop
  | absent : FractionText [] []
  | present {written : List Char} {values : List Nat} (digits : DigitsText digit? written values)
      (nonempty : values ≠ []) : FractionText ('.' :: written) values

/-- A sign of an exponent, which may be left out if it is not a minus. -/
inductive ExponentSign : List Char → Bool → Prop
  | absent : ExponentSign [] false
  | plus : ExponentSign ['+'] false
  | minus : ExponentSign ['-'] true

/-- The exponent of a number, if there is one. -/
inductive ExponentText : List Char → Option (Bool × List Nat) → Prop
  | absent : ExponentText [] none
  | present {mark : Char} {sign written : List Char} {below : Bool} {values : List Nat}
      (marks : isExponentMark mark = true) (signed : ExponentSign sign below)
      (digits : DigitsText digit? written values) (nonempty : values ≠ []) :
      ExponentText (mark :: sign ++ written) (some (below, values))

/-- The sign of a number. -/
def signText (negative : Bool) : List Char := if negative then ['-'] else []

/-- A number as written. -/
inductive NumberText : List Char → NumberLiteral → Prop
  | parts {negative : Bool} {whole decimals power : List Char} {integer fraction : List Nat}
      {exponent : Option (Bool × List Nat)} (before : IntegerText whole integer)
      (after : FractionText decimals fraction) (scale : ExponentText power exponent) :
      NumberText (signText negative ++ whole ++ decimals ++ power)
        ⟨negative, integer, fraction, exponent⟩

/-- A scalar as written. -/
inductive ScalarText : List Char → Scalar → Prop
  | null : ScalarText ['n', 'u', 'l', 'l'] .null
  | true : ScalarText ['t', 'r', 'u', 'e'] (.bool true)
  | false : ScalarText ['f', 'a', 'l', 's', 'e'] (.bool false)
  | number {written : List Char} {literal : NumberLiteral} (number : NumberText written literal) :
      ScalarText written (.number literal)
  | string {parts : List (List Char)} {pieces : List Piece}
      (written : List.Forall₂ PieceText parts pieces) :
      ScalarText ('"' :: parts.flatten ++ ['"'])
        (.string ((decode? pieces).map String.ofList))

/-- A token as written. -/
inductive TokenText : List Char → Token → Prop
  | mark {mark : Char} {token : Token} (marks : punctuation? mark = some token) :
      TokenText [mark] token
  | scalar {written : List Char} {value : Scalar} (scalar : ScalarText written value) :
      TokenText written (.scalar value)

/-- Tokens as written, with white space around them. -/
inductive TokensText : List Char → List Token → Prop
  | none {blank : List Char} (white : Blank blank) : TokensText blank []
  | next {blank written rest : List Char} {token : Token} {tokens : List Token}
      (white : Blank blank) (first : TokenText written token) (others : TokensText rest tokens) :
      TokensText (blank ++ written ++ rest) (token :: tokens)

/-! ## Putting texts together -/

/-- No characters are blank. -/
theorem Blank.nil : Blank [] := nofun

private theorem Blank.append {first second : List Char} (left : Blank first)
    (right : Blank second) :
    Blank (first ++ second) :=
  List.forall_mem_append.mpr ⟨left, right⟩

private theorem Blank.singleton {character : Char} (space : isJsonSpace character = true) :
    Blank [character] :=
  List.forall_mem_singleton.mpr space

namespace TokensText

private theorem blank_append {blank characters : List Char} {tokens : List Token}
    (white : Blank blank)
    (written : TokensText characters tokens) : TokensText (blank ++ characters) tokens := by
  cases written with
  | none rest => exact .none (white.append rest)
  | next rest first others =>
      rw [List.append_assoc, ← List.append_assoc, ← List.append_assoc]
      exact .next (white.append rest) first others

/-- The texts of tokens are put one behind the other. -/
theorem append {first second : List Char} {early late : List Token}
    (left : TokensText first early) (right : TokensText second late) :
    TokensText (first ++ second) (early ++ late) := by
  induction left with
  | none white => exact right.blank_append white
  | next white token _ ih =>
      rw [List.append_assoc]
      exact .next white token ih

/-- The text of one token. -/
theorem single {written : List Char} {token : Token} (text : TokenText written token) :
    TokensText written [token] := by
  have alone : TokensText ([] ++ written ++ []) [token] := .next .nil text (.none .nil)
  rwa [List.nil_append, List.append_nil] at alone

/-- Where tokens may be cut in two, so may their text. -/
theorem split {characters : List Char} {early late : List Token}
    (written : TokensText characters (early ++ late)) :
    ∃ first second, characters = first ++ second ∧ TokensText first early ∧
      TokensText second late := by
  induction early generalizing characters with
  | nil => exact ⟨[], characters, rfl, .none .nil, written⟩
  | cons token early ih =>
      cases written with
      | next white first others =>
          obtain ⟨left, right, rfl, before, after⟩ := ih others
          exact ⟨_, right, (List.append_assoc ..).symm, .next white first before, after⟩

end TokensText

/-! ## Strings -/

namespace StringPhase

/-- A string after one more piece. -/
def take (phase : StringPhase) : Piece → StringPhase
  | .character character => phase.push character
  | .code unit => phase.pushCode unit

variable {phase : StringPhase} {unit : Nat}

private theorem pushCode_of_pair {high : Nat} (waits : phase.half = some high)
    (low : IsLowHalf unit) :
    phase.pushCode unit = ⟨pairedChar high unit :: phase.characters, phase.sound, none⟩ := by
  obtain ⟨lower, upper⟩ := low
  simp [pushCode, waits, lower, upper, pairedChar]

private theorem pushCode_of_unpaired {high : Nat} (waits : phase.half = some high)
    (other : ¬ IsLowHalf unit) : phase.pushCode unit = phase.spoil := by
  simp only [pushCode, waits, ← Bool.decide_and, decide_eq_true_eq]
  exact if_neg other

private theorem pushCode_of_low (whole : phase.half = none) (low : IsLowHalf unit) :
    phase.pushCode unit = phase.spoil := by
  simp only [pushCode, whole, ← Bool.decide_and, decide_eq_true_eq]
  exact if_pos low

private theorem pushCode_of_high (whole : phase.half = none) (high : IsHighHalf unit) :
    phase.pushCode unit = { phase with half := some unit } := by
  have below : ¬ IsLowHalf unit := fun low => by
    have := high.2
    have := low.1
    omega
  simp only [pushCode, whole, ← Bool.decide_and, decide_eq_true_eq]
  exact (if_neg below).trans (if_pos high)

private theorem pushCode_of_character (whole : phase.half = none) (low : ¬ IsLowHalf unit)
    (high : ¬ IsHighHalf unit) : phase.pushCode unit = phase.push (Char.ofNat unit) := by
  simp only [pushCode, whole, ← Bool.decide_and, decide_eq_true_eq]
  exact (if_neg low).trans (if_neg high)

/-- Nothing mends a string with a piece that stands for nothing. -/
theorem text?_foldl_take_of_unsound (unsound : phase.sound = false) (pieces : List Piece) :
    (pieces.foldl take phase).text? = none := by
  induction pieces generalizing phase with
  | nil => simp [text?, unsound]
  | cons piece rest ih =>
      refine ih ?_
      cases piece with
      | character character => simp [take, push, unsound]
      | code unit =>
          simp only [take, pushCode, spoil, push]
          split
          · split
            · exact unsound
            · rfl
          · split
            · rfl
            · split
              · exact unsound
              · simp [unsound]

/-- The first half of a pair needs a second one. -/
theorem text?_foldl_take_of_half {earlier : List Char} {high : Nat} {pieces : List Piece}
    (lone : ∀ low rest, pieces = .code low :: rest → ¬ IsLowHalf low) :
    (pieces.foldl take ⟨earlier, true, some high⟩).text? = none := by
  cases pieces with
  | nil => rfl
  | cons piece rest =>
      refine text?_foldl_take_of_unsound ?_ rest
      cases piece with
      | character character => rfl
      | code low =>
          rw [take, pushCode_of_unpaired rfl (lone low rest rfl)]
          rfl

private theorem map_ofList_cons (character : Char) (earlier : List Char)
    (later : Option (List Char)) :
    (later.map fun later => String.ofList ((character :: earlier).reverse ++ later)) =
      (later.map (character :: ·)).map fun later => String.ofList (earlier.reverse ++ later) := by
  rw [Option.map_map]
  congr 1
  funext later
  rw [List.reverse_cons, List.append_assoc, List.singleton_append, Function.comp_apply]

/-- A string has the text that its pieces stand for. -/
theorem text?_foldl_take (pieces : List Piece) (earlier : List Char) :
    (pieces.foldl take ⟨earlier, true, none⟩).text? =
      (decode? pieces).map fun later => String.ofList (earlier.reverse ++ later) := by
  fun_induction decode? pieces generalizing earlier with
  | case1 =>
      rw [Option.map_some, List.append_nil]
      rfl
  | case2 character rest ih => exact (ih (character :: earlier)).trans (map_ofList_cons ..)
  | case3 unit high low rest second ih =>
      have begun : pushCode ⟨earlier, true, none⟩ unit = ⟨earlier, true, some unit⟩ :=
        pushCode_of_high rfl high
      have paired : pushCode ⟨earlier, true, some unit⟩ low =
          ⟨pairedChar unit low :: earlier, true, none⟩ := pushCode_of_pair rfl second
      simp only [List.foldl_cons, take, begun, paired]
      rw [ih, map_ofList_cons]
  | case4 unit high low rest lone =>
      rw [List.foldl_cons, take, pushCode_of_high rfl high]
      exact text?_foldl_take_of_half fun _ _ same => by cases same; exact lone
  | case5 rest unit high lone =>
      rw [List.foldl_cons, take, pushCode_of_high rfl high]
      exact text?_foldl_take_of_half fun low others same => (lone low others same).elim
  | case6 unit rest _ low =>
      rw [List.foldl_cons, take, pushCode_of_low rfl low]
      exact text?_foldl_take_of_unsound rfl rest
  | case7 unit rest high low ih =>
      rw [List.foldl_cons, take, pushCode_of_character rfl low high]
      exact (ih (Char.ofNat unit :: earlier)).trans (map_ofList_cons ..)

end StringPhase

/-! ## Numbers -/

/-- Each decimal digit has one character. -/
theorem eq_digitChar {character : Char} {value : Nat} (digit : digit? character = some value) :
    value < 10 ∧ character = digitChar value := by
  unfold digit? at digit
  split at digit
  next range =>
    have least : 0x30 ≤ character.toNat := range.1
    have greatest : character.toNat ≤ 0x39 := range.2
    cases digit
    refine ⟨by omega, ?_⟩
    rw [digitChar, Nat.add_sub_cancel' least, Char.ofNat_toNat]
  next => cases digit

private theorem DigitsText.concat {value? : Char → Option Nat} {written : List Char}
    {values : List Nat} (digits : DigitsText value? written values) {digit : Char} {value : Nat}
    (last : value? digit = some value) :
    DigitsText value? (written ++ [digit]) (values ++ [value]) :=
  List.rel_append digits (.cons last .nil)

/-- A digit more, where the digits are held newest first. -/
theorem DigitsText.push {value? : Char → Option Nat} {written : List Char} {held : List Nat}
    (digits : DigitsText value? written held.reverse) {digit : Char} {value : Nat}
    (last : value? digit = some value) :
    DigitsText value? (written ++ [digit]) (value :: held).reverse := by
  rw [List.reverse_cons]
  exact digits.concat last

private theorem IntegerText.push {written : List Char} {held : List Nat}
    (whole : IntegerText written held.reverse) (nonzero : held ≠ [0]) {digit : Char} {value : Nat}
    (last : digit? digit = some value) :
    IntegerText (written ++ [digit]) (value :: held).reverse := by
  rw [List.reverse_cons]
  cases read : held.reverse with
  | nil =>
      rw [read] at whole
      cases whole
  | cons leading values =>
      rw [read] at whole
      cases whole with
      | zero => exact (nonzero (List.reverse_eq_iff.mp read)).elim
      | positive first positive digits => exact .positive first positive (digits.concat last)

private theorem IntegerText.ne_nil {written : List Char} {values : List Nat}
    (whole : IntegerText written values) : values ≠ [] := by
  cases whole <;> exact List.cons_ne_nil _ _

namespace NumberPhase

/-- The characters of a number up to a phase. -/
inductive Reads (negative : Bool) : List Char → NumberPhase → Prop
  | sign : Reads negative (signText negative) .sign
  | zero : Reads negative (signText negative ++ ['0']) .zero
  | integer {whole : List Char} {digits : List Nat} (before : IntegerText whole digits.reverse)
      (nonzero : digits ≠ [0]) : Reads negative (signText negative ++ whole) (.integer digits)
  | fraction {whole decimals : List Char} {integer digits : List Nat}
      (before : IntegerText whole integer.reverse)
      (after : DigitsText digit? decimals digits.reverse) :
      Reads negative (signText negative ++ whole ++ '.' :: decimals) (.fraction integer digits)
  | mark {whole decimals : List Char} {integer fraction : List Nat} {mark : Char}
      (before : IntegerText whole integer.reverse) (after : FractionText decimals fraction.reverse)
      (marks : isExponentMark mark = true) :
      Reads negative (signText negative ++ whole ++ decimals ++ [mark]) (.mark integer fraction)
  | exponent {whole decimals sign written : List Char} {integer fraction digits : List Nat}
      {mark : Char} {below : Bool} (before : IntegerText whole integer.reverse)
      (after : FractionText decimals fraction.reverse) (marks : isExponentMark mark = true)
      (signed : ExponentSign sign below) (power : DigitsText digit? written digits.reverse) :
      Reads negative (signText negative ++ whole ++ decimals ++ (mark :: sign ++ written))
        (.exponent integer fraction below digits)

namespace Reads

variable {negative : Bool} {written : List Char} {phase next : NumberPhase} {character : Char}

private theorem afterInteger {whole : List Char} {digits : List Nat}
    (before : IntegerText whole digits.reverse)
    (follows : afterInteger? digits character = some next) :
    Reads negative (signText negative ++ whole ++ [character]) next := by
  unfold afterInteger? at follows
  split at follows
  next point =>
    cases follows
    rw [beq_iff_eq.mp point]
    exact .fraction before .nil
  next =>
    split at follows
    next marks =>
      cases follows
      have marked : Reads negative (signText negative ++ whole ++ [] ++ [character])
        (.mark digits []) := .mark before .absent marks
      rwa [List.append_nil] at marked
    next => cases follows

/-- A number goes on as its phase does. -/
theorem extend (reads : Reads negative written phase)
    (extended : phase.extend? character = some next) :
    Reads negative (written ++ [character]) next := by
  cases reads with
  | sign =>
      cases read : digit? character with
      | none => simp [extend?, read] at extended
      | some value =>
          simp only [extend?, read, Option.some.injEq] at extended
          subst extended
          split
          next zero =>
            have begins : character = '0' := (eq_digitChar (zero ▸ read)).2
            rw [begins]
            exact .zero
          next nonzero =>
            exact .integer (.positive read nonzero .nil) (by simpa using nonzero)
  | zero =>
      cases read : digit? character with
      | none =>
          simp only [extend?, read] at extended
          have before : IntegerText ['0'] [0].reverse := .zero
          exact afterInteger before extended
      | some value => simp [extend?, read] at extended
  | @integer whole digits before nonzero =>
      cases read : digit? character with
      | none =>
          simp only [extend?, read] at extended
          exact afterInteger before extended
      | some value =>
          simp only [extend?, read, Option.some.injEq] at extended
          subst extended
          rw [List.append_assoc]
          refine .integer (before.push nonzero read) fun single => ?_
          -- no digits before this one, which a number that was begun rules out
          exact before.ne_nil (congrArg List.reverse (List.cons.inj single).2)
  | @fraction whole decimals integer digits before after =>
      cases read : digit? character with
      | none =>
          -- an exponent may follow the fraction only if that has a digit
          cases digits with
          | nil => simp [extend?, read] at extended
          | cons digit digits =>
              simp only [extend?, read] at extended
              split at extended
              next marks =>
                cases extended
                exact .mark before (.present after (by simp)) marks
              next => cases extended
      | some value =>
          simp only [extend?, read, Option.some.injEq] at extended
          subst extended
          rw [List.append_assoc, List.cons_append]
          exact .fraction before (after.push read)
  | @mark whole decimals integer fraction mark before after marks =>
      rw [List.append_assoc, List.singleton_append]
      cases read : digit? character with
      | none =>
          simp only [extend?, read] at extended
          split at extended
          next plus =>
            cases extended
            rw [beq_iff_eq.mp plus]
            exact .exponent before after marks .plus .nil
          next =>
            split at extended
            next minus =>
              cases extended
              rw [beq_iff_eq.mp minus]
              exact .exponent before after marks .minus .nil
            next => cases extended
      | some value =>
          simp only [extend?, read, Option.some.injEq] at extended
          subst extended
          exact .exponent before after marks .absent (.cons read .nil)
  | @exponent whole decimals sign written integer fraction digits mark below before after marks
      signed power =>
      cases read : digit? character with
      | none => simp [extend?, read] at extended
      | some value =>
          simp only [extend?, read, Option.some.injEq] at extended
          subst extended
          rw [List.append_assoc, List.append_assoc (mark :: sign)]
          exact .exponent before after marks signed (power.push read)

/-- Where a number may end, a number has been written. -/
theorem literal (reads : Reads negative written phase) {literal : NumberLiteral}
    (ends : phase.literal? negative = some literal) : NumberText written literal := by
  cases reads with
  | sign => cases ends
  | zero =>
      cases ends
      have number : NumberText (signText negative ++ ['0'] ++ [] ++ []) ⟨negative, [0], [], none⟩ :=
        .parts .zero .absent .absent
      rwa [List.append_nil, List.append_nil] at number
  | @integer whole digits before nonzero =>
      cases ends
      have number : NumberText (signText negative ++ whole ++ [] ++ [])
        ⟨negative, digits.reverse, [], none⟩ := .parts before .absent .absent
      rwa [List.append_nil, List.append_nil] at number
  | @fraction whole decimals integer digits before after =>
      cases digits with
      | nil => cases ends
      | cons digit digits =>
          cases ends
          have number : NumberText (signText negative ++ whole ++ ('.' :: decimals) ++ [])
              ⟨negative, integer.reverse, (digit :: digits).reverse, none⟩ :=
            .parts before (.present after (by simp)) .absent
          rwa [List.append_nil] at number
  | mark before after marks => cases ends
  | @exponent whole decimals sign written integer fraction digits mark below before after marks
      signed power =>
      cases digits with
      | nil => cases ends
      | cons digit digits =>
          cases ends
          exact .parts before after (.present marks signed power (by simp))

end Reads

end NumberPhase

/-! ## What the scanner has read -/

/-- The characters of the token that a scanner is inside of. -/
inductive ModeText : List Char → ScanMode → Prop
  | between : ModeText [] .between
  | word {written letters : List Char} {letter : Char} {value : Scalar}
      (spells : ScalarText (written ++ letter :: letters) value) :
      ModeText written (.word letter letters value)
  | number {written : List Char} {negative : Bool} {phase : NumberPhase}
      (reads : phase.Reads negative written) : ModeText written (.number negative phase)
  | string {parts : List (List Char)} {pieces : List Piece}
      (written : List.Forall₂ PieceText parts pieces) :
      ModeText ('"' :: parts.flatten) (.string (pieces.foldl StringPhase.take ⟨[], true, none⟩))
  | escape {parts : List (List Char)} {pieces : List Piece}
      (written : List.Forall₂ PieceText parts pieces) :
      ModeText ('"' :: parts.flatten ++ ['\\'])
        (.escape (pieces.foldl StringPhase.take ⟨[], true, none⟩))
  | code {parts : List (List Char)} {pieces : List Piece} {digits : List Char}
      {values : List Nat} {missing : Nat} (written : List.Forall₂ PieceText parts pieces)
      (read : DigitsText hexDigit? digits values) (four : values.length + missing = 4)
      (awaited : 0 < missing) :
      ModeText ('"' :: parts.flatten ++ '\\' :: 'u' :: digits)
        (.code (pieces.foldl StringPhase.take ⟨[], true, none⟩) missing
          (values.foldl (fun unit value => unit * 16 + value) 0))

/-- A string with one more piece. -/
theorem ModeText.take {parts : List (List Char)} {pieces : List Piece}
    (written : List.Forall₂ PieceText parts pieces) {part : List Char} {piece : Piece}
    (last : PieceText part piece) :
    ModeText ('"' :: parts.flatten ++ part)
      (.string ((pieces.foldl StringPhase.take ⟨[], true, none⟩).take piece)) := by
  have longer : ModeText ('"' :: (parts ++ [part]).flatten)
      (.string ((pieces ++ [piece]).foldl StringPhase.take ⟨[], true, none⟩)) :=
    .string (List.rel_append written (.cons last .nil))
  rwa [List.flatten_append, List.flatten_singleton, List.foldl_append] at longer

/-- The characters that a scanner has read: its tokens as written, and what it is inside of. -/
inductive Scanner.Reached : List Char → Scanner → Prop
  | intro {done current : List Char} {mode : ScanMode} {tokens : List Token}
      (before : TokensText done tokens.reverse) (now : ModeText current mode) :
      Reached (done ++ current) ⟨mode, tokens⟩

namespace Scanner.Reached

variable {done current characters : List Char} {tokens : List Token} {token : Token}
  {scanner next : Scanner} {character : Char}

private theorem between (before : TokensText done tokens.reverse) :
    Reached done ⟨.between, tokens⟩ := by
  have reached : Reached (done ++ []) ⟨.between, tokens⟩ := .intro before .between
  rwa [List.append_nil] at reached

private theorem concat (before : TokensText done tokens.reverse) (last : TokenText current token) :
    TokensText (done ++ current) (token :: tokens).reverse := by
  rw [List.reverse_cons]
  exact before.append (.single last)

private theorem emit (before : TokensText done tokens.reverse) (last : TokenText current token) :
    Reached (done ++ current) (Scanner.emit tokens token) :=
  between (concat before last)

private theorem stepBetween (before : TokensText done tokens.reverse)
    (stepped : Scanner.stepBetween tokens character = some next) :
    Reached (done ++ [character]) next := by
  unfold Scanner.stepBetween at stepped
  split at stepped
  next space =>
    cases stepped
    have longer := before.append (.none (.singleton space))
    rw [List.append_nil] at longer
    exact .between longer
  next =>
    split at stepped
    case h_7 =>
      cases stepped
      exact .intro before (.string .nil)
    case h_8 =>
      cases stepped
      exact .intro before (.word .null)
    case h_9 =>
      cases stepped
      exact .intro before (.word .true)
    case h_10 =>
      cases stepped
      exact .intro before (.word .false)
    case h_11 =>
      cases stepped
      exact .intro before (.number .sign)
    case h_12 =>
      obtain ⟨phase, begun, rfl⟩ := Option.map_eq_some_iff.mp stepped
      exact .intro before (.number (NumberPhase.Reads.sign.extend begun))
    all_goals
      cases stepped
      exact emit before (.mark rfl)

private theorem stepWord {written letters : List Char} {letter : Char} {value : Scalar}
    (before : TokensText done tokens.reverse)
    (spells : ScalarText (written ++ letter :: letters) value)
    (stepped : Scanner.step ⟨.word letter letters value, tokens⟩ (some character) = some next) :
    Reached (done ++ (written ++ [character])) next := by
  simp only [Scanner.step, stepChar] at stepped
  split at stepped
  next same =>
    rw [beq_iff_eq.mp same]
    cases letters with
    | nil =>
        cases stepped
        exact emit before (.scalar spells)
    | cons following letters =>
        cases stepped
        refine .intro before (.word ?_)
        rwa [List.append_assoc]
  next => cases stepped

/-- A character that does not continue a number comes after it. -/
theorem stepNumber {written : List Char} {negative : Bool} {phase : NumberPhase}
    (before : TokensText done tokens.reverse) (reads : phase.Reads negative written)
    (stepped : Scanner.step ⟨.number negative phase, tokens⟩ (some character) = some next) :
    Reached (done ++ (written ++ [character])) next := by
  simp only [Scanner.step, stepChar] at stepped
  split at stepped
  next longer extended =>
    cases stepped
    exact .intro before (.number (reads.extend extended))
  next =>
    split at stepped
    next literal ends =>
      rw [← List.append_assoc]
      exact stepBetween (concat before (.scalar (.number (reads.literal ends)))) stepped
    next => cases stepped

section

variable {parts : List (List Char)} {pieces : List Piece}
  (before : TokensText done tokens.reverse) (written : List.Forall₂ PieceText parts pieces)

include before written

private theorem stepString (stepped : Scanner.step
      ⟨.string (pieces.foldl StringPhase.take ⟨[], true, none⟩), tokens⟩ (some character) =
        some next) :
    Reached (done ++ ('"' :: parts.flatten ++ [character])) next := by
  simp only [Scanner.step, stepChar] at stepped
  split at stepped
  next quote =>
    cases stepped
    rw [beq_iff_eq.mp quote, StringPhase.text?_foldl_take]
    exact emit before (.scalar (.string written))
  next unquoted =>
    split at stepped
    next backslash =>
      cases stepped
      rw [beq_iff_eq.mp backslash]
      exact .intro before (.escape written)
    next unescaped =>
      split at stepped
      next => cases stepped
      next visible =>
        cases stepped
        exact .intro before (.take written (.plain (Nat.le_of_not_lt visible)
          (by simpa using unquoted) (by simpa using unescaped)))

private theorem stepEscape (stepped : Scanner.step
      ⟨.escape (pieces.foldl StringPhase.take ⟨[], true, none⟩), tokens⟩ (some character) =
        some next) :
    Reached (done ++ ('"' :: parts.flatten ++ ['\\'] ++ [character])) next := by
  simp only [Scanner.step, stepChar] at stepped
  rw [List.append_assoc, List.singleton_append]
  split at stepped
  next unit =>
    cases stepped
    rw [beq_iff_eq.mp unit]
    exact .intro before (.code written .nil rfl (by decide))
  next =>
    obtain ⟨escaped, escapes, rfl⟩ := Option.map_eq_some_iff.mp stepped
    exact .intro before (.take written (.escape escapes))

private theorem stepCode {digits : List Char} {values : List Nat} {missing : Nat}
    (read : DigitsText hexDigit? digits values) (four : values.length + missing = 4)
    (awaited : 0 < missing)
    (stepped : Scanner.step ⟨.code (pieces.foldl StringPhase.take ⟨[], true, none⟩) missing
      (values.foldl (fun unit value => unit * 16 + value) 0), tokens⟩ (some character) =
        some next) :
    Reached (done ++ ('"' :: parts.flatten ++ '\\' :: 'u' :: digits ++ [character])) next := by
  simp only [Scanner.step, stepChar] at stepped
  rw [List.append_assoc, List.cons_append, List.cons_append]
  split at stepped
  next => cases stepped
  next value digit =>
    have longer := read.concat digit
    have count : (values ++ [value]).length = values.length + 1 := List.length_append
    have folded := List.foldl_concat (fun unit value => unit * 16 + value) 0 value values
    rw [← folded] at stepped
    -- the fourth digit completes the unit
    split at stepped
    next last =>
      cases stepped
      exact .intro before (.take written (.code longer (by omega)))
    next more =>
      cases stepped
      exact .intro before (.code written longer (by omega) (by omega))

end

private theorem step (reached : Reached characters scanner)
    (stepped : scanner.step (some character) = some next) :
    Reached (characters ++ [character]) next := by
  obtain ⟨before, now⟩ := reached
  rw [List.append_assoc]
  cases now with
  | between => exact stepBetween before stepped
  | word spells => exact stepWord before spells stepped
  | number reads => exact stepNumber before reads stepped
  | string written => exact stepString before written stepped
  | escape written => exact stepEscape before written stepped
  | code written read four awaited => exact stepCode before written read four awaited stepped

private theorem run {written : List Char} (reached : Reached characters scanner)
    (ran : scanner.run (written.map some) = some next) : Reached (characters ++ written) next := by
  induction written generalizing characters scanner with
  | nil =>
      cases ran
      rwa [List.append_nil]
  | cons character rest ih =>
      rw [List.map_cons, run_cons] at ran
      obtain ⟨between, stepped, ran⟩ := Option.bind_eq_some_iff.mp ran
      rw [List.append_cons]
      exact ih (reached.step stepped) ran

private theorem finish (reached : Reached characters scanner)
    (ends : scanner.finish? = some tokens) :
    TokensText characters tokens.reverse := by
  obtain ⟨before, now⟩ := reached
  cases now with
  | between =>
      cases ends
      rwa [List.append_nil]
  | number reads =>
      obtain ⟨literal, complete, rfl⟩ := Option.map_eq_some_iff.mp ends
      exact concat before (.scalar (.number (reads.literal complete)))
  | _ => cases ends

end Scanner.Reached

/-- What is read as tokens is these tokens as written. -/
theorem tokensText_of_tokens? {characters : List Char} {tokens : List Token}
    (scans : tokens? (characters.map some) = some tokens) : TokensText characters tokens := by
  obtain ⟨scanner, ran, scanned⟩ := Option.bind_eq_some_iff.mp scans
  obtain ⟨newest, ends, rfl⟩ := Option.map_eq_some_iff.mp scanned
  have begun : Scanner.Reached [] Scanner.start := .between (.none .nil)
  exact (begun.run ran).finish ends

end CallControl.Json
