/-! # Patterns and replacement

A pattern describes texts by characters, sequences, choices and runs. At the front
of a text it matches prefixes of certain lengths, and it prefers some of them: of a
choice the first branch, of a run the longest (`Pattern.lengths` lists the lengths,
the preferred one first). A pattern is looked for anywhere, or only where a match
begins and ends with a line (`Pattern.anywhere`, `Pattern.wholeLines`). Replacement
goes through a text from the left, puts a marker in place of each preferred match, and
goes on behind it (`Search.replace`); matches never overlap.
-/

namespace CallControl.Redaction

/-- A pattern. -/
inductive Pattern where
  /-- The empty text. -/
  | nothing
  /-- One character of a class. -/
  | symbol (accepts : Char → Bool)
  | seq (first second : Pattern)
  /-- Either pattern, with the first one preferred. -/
  | choice (preferred other : Pattern)
  /-- A run of one or more characters of a class, the longer the better. -/
  | run (accepts : Char → Bool)

namespace Pattern

/-- The lengths of the prefixes of a text that a pattern matches, the preferred one
first. -/
def lengths : Pattern → List Char → List Nat
  | .nothing, _ => [0]
  | .symbol _, [] => []
  | .symbol accepts, character :: _ => if accepts character then [1] else []
  | .seq first second, text =>
      (first.lengths text).flatMap fun length =>
        (second.lengths (text.drop length)).map (length + ·)
  | .choice preferred other, text => preferred.lengths text ++ other.lengths text
  | .run accepts, text => ((List.range (text.takeWhile accepts).length).map (· + 1)).reverse

/-- A match is a prefix of the text: it is no longer than the text. -/
theorem le_length_of_mem_lengths {pattern : Pattern} {text : List Char} {length : Nat}
    (member : length ∈ pattern.lengths text) : length ≤ text.length := by
  induction pattern generalizing text length with
  | nothing => simp_all [lengths]
  | symbol accepts =>
    cases text with
    | nil => simp [lengths] at member
    | cons character rest =>
      rw [lengths] at member
      split at member <;> simp_all
  | seq first second firstLe secondLe =>
    simp only [lengths, List.mem_flatMap, List.mem_map] at member
    obtain ⟨before, beforeMember, after, afterMember, rfl⟩ := member
    have beforeLe := firstLe beforeMember
    have afterLe := secondLe afterMember
    rw [List.length_drop] at afterLe
    omega
  | choice preferred other preferredLe otherLe =>
    rw [lengths, List.mem_append] at member
    exact member.elim preferredLe otherLe
  | run accepts =>
    simp only [lengths, List.mem_reverse, List.mem_map, List.mem_range] at member
    obtain ⟨shorter, less, rfl⟩ := member
    exact Nat.le_trans less (List.takeWhile_sublist accepts).length_le

/-- The length of the preferred match at the front of a text. -/
def matchLength? (pattern : Pattern) (text : List Char) : Option Nat :=
  (pattern.lengths text).head?

/-- A pattern a fixed number of times in sequence. -/
def repeated (pattern : Pattern) : Nat → Pattern
  | 0 => .nothing
  | count + 1 => .seq pattern (pattern.repeated count)

/-- A pattern up to a number of times in sequence, the more the better. -/
def atMost (pattern : Pattern) : Nat → Pattern
  | 0 => .nothing
  | count + 1 => .choice (.seq pattern (pattern.atMost count)) .nothing

/-- A pattern at least `least` and at most `least + extra` times in sequence, the
more the better. -/
def between (pattern : Pattern) (least extra : Nat) : Pattern :=
  .seq (pattern.repeated least) (pattern.atMost extra)

/-- A pattern or nothing. -/
def optional (pattern : Pattern) : Pattern :=
  .choice pattern .nothing

/-- One given character. -/
def literal (character : Char) : Pattern :=
  .symbol (· == character)

/-- Some given characters in sequence. -/
def text : List Char → Pattern
  | [] => .nothing
  | character :: rest => .seq (literal character) (text rest)

end Pattern

/-- The length of the match that is taken at the front of a text, if there is one. The
flag tells whether a line starts there. -/
abbrev Search := Bool → List Char → Option Nat

/-- A line ends in front of a text. -/
def lineEnds : List Char → Bool
  | [] => true
  | character :: _ => character == '\n'

/-- The preferred match, wherever it lies. -/
def Pattern.anywhere (pattern : Pattern) : Search :=
  fun _ text => pattern.matchLength? text

/-- The preferred one among the matches that begin at the start of a line and end at the
end of one. -/
def Pattern.wholeLines (pattern : Pattern) : Search :=
  fun starts text =>
    if starts then (pattern.lengths text).find? fun length => lineEnds (text.drop length)
    else none

namespace Search

/-- A text with each match replaced by a marker, where the first `covered`
characters belong to a match that is already replaced. A match of no characters is
no match. -/
def replaceAfter (search : Search) (marker : List Char) :
    Bool → Nat → List Char → List Char
  | _, _, [] => []
  | _, covered + 1, character :: rest =>
      replaceAfter search marker (character == '\n') covered rest
  | starts, 0, character :: rest =>
      match search starts (character :: rest) with
      | some (length + 1) =>
          marker ++ replaceAfter search marker (character == '\n') length rest
      | _ => character :: replaceAfter search marker (character == '\n') 0 rest

/-- A text with each match replaced by a marker. -/
def replace (search : Search) (marker : List Char) (text : List Char) : List Char :=
  search.replaceAfter marker true 0 text

end Search

end CallControl.Redaction
