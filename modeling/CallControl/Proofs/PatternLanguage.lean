import Mathlib.Data.List.Infix
import Mathlib.Data.List.TakeWhile
import CallControl.Redaction.Pattern

/-! # The texts that a pattern accepts

Which texts a pattern accepts as a whole does not depend on what it prefers
(`Pattern.Accepts`). The lengths that it lists for a text are those of the prefixes that it
accepts (`Pattern.mem_lengths_iff`). What follows a prefix adds longer matches and leaves
those within the prefix as they are, in the same order (`Pattern.filter_lengths_append`).
So where a character follows that the pattern does not mention, it matches as if the text
ended there (`Pattern.lengths_append_cons`).
-/

namespace CallControl.Redaction.Pattern

/-- A pattern accepts a text as a whole. -/
inductive Accepts : Pattern → List Char → Prop where
  | nothing : Accepts .nothing []
  | symbol {accepts : Char → Bool} {character : Char} (accepted : accepts character = true) :
      Accepts (.symbol accepts) [character]
  | seq {first second : Pattern} {front back : List Char} (begins : first.Accepts front)
      (ends : second.Accepts back) : Accepts (.seq first second) (front ++ back)
  | preferred {preferred other : Pattern} {text : List Char}
      (accepted : preferred.Accepts text) : Accepts (.choice preferred other) text
  | other {preferred other : Pattern} {text : List Char} (accepted : other.Accepts text) :
      Accepts (.choice preferred other) text
  | run {accepts : Char → Bool} {text : List Char} (nonempty : text ≠ [])
      (accepted : ∀ character ∈ text, accepts character = true) : Accepts (.run accepts) text

variable {pattern first second : Pattern} {text front back part : List Char} {character : Char}

/-! ## Acceptance, constructor by constructor -/

@[simp] theorem accepts_nothing : Pattern.nothing.Accepts text ↔ text = [] := by
  constructor
  · rintro ⟨⟩
    rfl
  · rintro rfl
    exact .nothing

@[simp] theorem accepts_symbol {accepts : Char → Bool} :
    (Pattern.symbol accepts).Accepts text ↔
      ∃ character, accepts character = true ∧ text = [character] := by
  constructor
  · rintro (_ | accepted)
    exact ⟨_, accepted, rfl⟩
  · rintro ⟨character, accepted, rfl⟩
    exact .symbol accepted

/-- A sequence accepts a text whose front and back its parts accept. -/
theorem accepts_seq :
    (Pattern.seq first second).Accepts text ↔
      ∃ front back, text = front ++ back ∧ first.Accepts front ∧ second.Accepts back := by
  constructor
  · rintro (_ | _ | ⟨begins, ends⟩)
    exact ⟨_, _, rfl, begins, ends⟩
  · rintro ⟨front, back, rfl, begins, ends⟩
    exact .seq begins ends

@[simp] theorem accepts_choice :
    (Pattern.choice first second).Accepts text ↔ first.Accepts text ∨ second.Accepts text := by
  constructor
  · rintro (_ | _ | _ | accepted | accepted)
    · exact Or.inl accepted
    · exact Or.inr accepted
  · rintro (accepted | accepted)
    · exact .preferred accepted
    · exact .other accepted

@[simp] theorem accepts_run {accepts : Char → Bool} :
    (Pattern.run accepts).Accepts text ↔
      text ≠ [] ∧ ∀ character ∈ text, accepts character = true := by
  constructor
  · rintro (_ | _ | _ | _ | _ | ⟨nonempty, accepted⟩)
    exact ⟨nonempty, accepted⟩
  · rintro ⟨nonempty, accepted⟩
    exact .run nonempty accepted

@[simp] theorem accepts_optional :
    (optional pattern).Accepts text ↔ pattern.Accepts text ∨ text = [] := by
  simp only [optional, accepts_choice, accepts_nothing]

@[simp] theorem accepts_literal : (literal character).Accepts text ↔ text = [character] := by
  simp only [literal, accepts_symbol, beq_iff_eq, exists_eq_left]

/-- A literal character in front of something. -/
theorem accepts_literal_seq :
    (Pattern.seq (literal character) second).Accepts text ↔
      ∃ back, text = character :: back ∧ second.Accepts back := by
  rw [accepts_seq]
  constructor
  · rintro ⟨front, back, rfl, begins, ends⟩
    rw [accepts_literal.mp begins]
    exact ⟨back, rfl, ends⟩
  · rintro ⟨back, rfl, ends⟩
    exact ⟨[character], back, rfl, accepts_literal.mpr rfl, ends⟩

/-- A fixed text accepts itself only. -/
theorem accepts_text {characters : List Char} :
    (Pattern.text characters).Accepts text ↔ text = characters := by
  induction characters generalizing text with
  | nil => exact accepts_nothing
  | cons character rest ih =>
      rw [Pattern.text, accepts_literal_seq]
      constructor
      · rintro ⟨back, rfl, accepted⟩
        rw [ih.mp accepted]
      · rintro rfl
        exact ⟨rest, rfl, ih.mpr rfl⟩

/-- What is accepted up to a number of times may be missing. -/
theorem accepts_atMost_nil (count : Nat) : (pattern.atMost count).Accepts [] := by
  cases count with
  | zero => exact .nothing
  | succ count => exact .other .nothing

/-! ## The lengths of accepted prefixes -/

/-- A pattern lists the lengths of the prefixes that it accepts, and no others. -/
theorem mem_lengths_iff {length : Nat} :
    length ∈ pattern.lengths text ↔ length ≤ text.length ∧ pattern.Accepts (text.take length) := by
  refine ⟨fun member => ⟨le_length_of_mem_lengths member, ?_⟩, ?_⟩
  · induction pattern generalizing text length with
    | nothing =>
        rw [lengths, List.mem_singleton] at member
        subst member
        exact .nothing
    | symbol accepts =>
        cases text with
        | nil => cases member
        | cons character rest =>
            rw [lengths] at member
            split at member
            · rename_i accepted
              rw [List.mem_singleton] at member
              subst member
              exact .symbol accepted
            · cases member
    | seq first second firstIh secondIh =>
        simp only [lengths, List.mem_flatMap, List.mem_map] at member
        obtain ⟨before, beforeMember, after, afterMember, rfl⟩ := member
        rw [List.take_add]
        exact .seq (firstIh beforeMember) (secondIh afterMember)
    | choice preferred other preferredIh otherIh =>
        rw [lengths, List.mem_append] at member
        rcases member with member | member
        · exact .preferred (preferredIh member)
        · exact .other (otherIh member)
    | run accepts =>
        simp only [lengths, List.mem_reverse, List.mem_map, List.mem_range] at member
        obtain ⟨shorter, less, rfl⟩ := member
        refine .run ?_ fun character member => ?_
        · intro none
          rcases List.take_eq_nil_iff.mp none with absurdity | rfl
          · exact Nat.succ_ne_zero _ absurdity
          · exact Nat.not_lt_zero _ less
        · have same : text.take (shorter + 1) = (text.takeWhile accepts).take (shorter + 1) :=
            List.prefix_iff_eq_take.mp (List.takeWhile_prefix accepts) ▸ by
              rw [List.take_take, Nat.min_eq_left less]
          rw [same] at member
          exact List.mem_takeWhile_imp (List.mem_of_mem_take member)
  · rintro ⟨le, accepted⟩
    have size : (text.take length).length = length := by
      rw [List.length_take, Nat.min_eq_left le]
    have split := List.take_append_drop length text
    generalize text.take length = part at accepted size split
    generalize text.drop length = rest at split
    subst size split
    clear le
    induction accepted generalizing rest with
    | nothing => exact List.mem_singleton_self 0
    | symbol accepted =>
        simp only [List.cons_append, lengths, accepted, ↓reduceIte, List.length_singleton]
        exact List.mem_singleton_self 1
    | seq _ _ beginsIh endsIh =>
        rw [List.append_assoc, List.length_append]
        refine List.mem_flatMap.mpr ⟨_, beginsIh _, List.mem_map_of_mem ?_⟩
        rw [List.drop_left]
        exact endsIh rest
    | preferred _ ih => exact List.mem_append_left _ (ih rest)
    | other _ ih => exact List.mem_append_right _ (ih rest)
    | @run accepts part nonempty accepted =>
        simp only [lengths, List.mem_reverse, List.mem_map, List.mem_range]
        obtain ⟨shorter, size⟩ := Nat.exists_eq_succ_of_ne_zero
          (fun none => nonempty (List.length_eq_zero_iff.mp none))
        refine ⟨shorter, ?_, size.symm⟩
        rw [List.takeWhile_append_of_pos accepted, List.length_append]
        omega

/-- A pattern lists the length of a prefix just when it accepts it. -/
theorem length_mem_lengths_iff :
    front.length ∈ pattern.lengths (front ++ back) ↔ pattern.Accepts front := by
  rw [mem_lengths_iff, List.take_left]
  exact and_iff_right (by rw [List.length_append]; exact Nat.le_add_right _ _)

/-- A pattern accepts a text when it can match the whole of it. -/
theorem accepts_iff_length_mem : pattern.Accepts text ↔ text.length ∈ pattern.lengths text := by
  rw [mem_lengths_iff, List.take_length]
  exact (and_iff_right (Nat.le_refl _)).symm

/-- Whether a text is accepted is read off the lengths that are listed for it. -/
instance (pattern : Pattern) (text : List Char) : Decidable (pattern.Accepts text) :=
  decidable_of_iff' _ accepts_iff_length_mem

/-- No match is longer than the text. -/
theorem matchLength?_le {length : Nat} (found : pattern.matchLength? text = some length) :
    length ≤ text.length :=
  le_length_of_mem_lengths (List.mem_of_mem_head? found)

/-- Nothing is matched at the front of a text when no prefix is accepted. -/
theorem matchLength?_eq_none_iff :
    pattern.matchLength? text = none ↔ ∀ part, part <+: text → ¬ pattern.Accepts part := by
  unfold matchLength?
  rw [List.head?_eq_none_iff, List.eq_nil_iff_forall_not_mem]
  constructor
  · rintro absent part ⟨rest, rfl⟩ accepted
    exact absent _ (length_mem_lengths_iff.mpr accepted)
  · intro absent length member
    exact absent _ (List.take_prefix length text) (mem_lengths_iff.mp member).2

/-! ## What follows a prefix -/

/-- What follows a prefix leaves the matches within it as they are. -/
theorem filter_lengths_append (pattern : Pattern) (front back : List Char) :
    (pattern.lengths (front ++ back)).filter (· ≤ front.length) = pattern.lengths front := by
  induction pattern generalizing front with
  | nothing => rfl
  | symbol accepts =>
      cases front with
      | nil =>
          refine List.filter_eq_nil_iff.mpr fun length member => ?_
          have accepted := (mem_lengths_iff.mp member).2
          obtain ⟨character, _, same⟩ := accepts_symbol.mp accepted
          intro none
          rw [Nat.le_zero.mp (of_decide_eq_true none)] at same
          cases same
      | cons character rest =>
          rw [List.cons_append, lengths, lengths]
          split <;> rfl
  | seq first second firstIh secondIh =>
      simp only [lengths]
      rw [List.filter_flatMap, ← firstIh front]
      induction first.lengths (front ++ back) with
      | nil => rfl
      | cons length rest ih =>
          rw [List.flatMap_cons, ih, List.filter_map]
          by_cases within : length ≤ front.length
          · rw [List.filter_cons_of_pos (by exact decide_eq_true within), List.flatMap_cons,
              ← secondIh (front.drop length), List.drop_append_of_le_length within]
            refine congrArg (fun inner => List.map _ inner ++ _) (List.filter_congr ?_)
            intro more _
            rw [List.length_drop]
            exact decide_eq_decide.mpr (by dsimp only; omega)
          · rw [List.filter_cons_of_neg (by simpa using within)]
            refine (congrArg (fun inner => List.map _ inner ++ _)
              (List.filter_eq_nil_iff.mpr fun more _ => ?_)).trans ?_
            · simp only [Function.comp_apply, decide_eq_true_eq]
              omega
            · rw [List.map_nil, List.nil_append]
  | choice preferred other preferredIh otherIh =>
      rw [lengths, lengths, List.filter_append, preferredIh, otherIh]
  | run accepts =>
      simp only [lengths]
      rw [List.filter_reverse, List.filter_map, List.takeWhile_append]
      refine congrArg (fun shorter => (List.map _ shorter).reverse) ?_
      split
      · rename_i whole
        rw [List.length_append, List.range_add, List.filter_append, whole,
          List.filter_eq_self.mpr, List.filter_eq_nil_iff.mpr, List.append_nil]
        · intro more member
          obtain ⟨_, _, rfl⟩ := List.mem_map.mp member
          simp only [Function.comp_apply, decide_eq_true_eq]
          omega
        · intro shorter member
          exact decide_eq_true (List.mem_range.mp member)
      · refine List.filter_eq_self.mpr fun shorter member => decide_eq_true ?_
        have less := List.mem_range.mp member
        have bound := (List.takeWhile_prefix (l := front) accepts).length_le
        exact Nat.succ_le_of_lt (Nat.lt_of_lt_of_le less bound)

/-- What follows a text does not matter to matches that end in it. -/
theorem lengths_append_of_le
    (short : ∀ length ∈ pattern.lengths (front ++ back), length ≤ front.length) :
    pattern.lengths (front ++ back) = pattern.lengths front := by
  rw [← filter_lengths_append pattern front back]
  exact (List.filter_eq_self.mpr fun length member => decide_eq_true (short length member)).symm

/-- A pattern has a place for a character. -/
def mentions : Pattern → Char → Bool
  | .nothing, _ => false
  | .symbol accepts, character => accepts character
  | .seq first second, character => first.mentions character || second.mentions character
  | .choice preferred other, character =>
      preferred.mentions character || other.mentions character
  | .run accepts, character => accepts character

/-- An accepted text has only characters that the pattern mentions. -/
theorem Accepts.mentions (accepted : pattern.Accepts text) :
    ∀ character ∈ text, pattern.mentions character = true := by
  intro character member
  induction accepted with
  | nothing => cases member
  | symbol accepted =>
      rw [List.mem_singleton.mp member]
      exact accepted
  | seq _ _ beginsIh endsIh =>
      rcases List.mem_append.mp member with member | member
      · exact Bool.or_eq_true_iff.mpr (Or.inl (beginsIh member))
      · exact Bool.or_eq_true_iff.mpr (Or.inr (endsIh member))
  | preferred _ ih => exact Bool.or_eq_true_iff.mpr (Or.inl (ih member))
  | other _ ih => exact Bool.or_eq_true_iff.mpr (Or.inr (ih member))
  | run _ accepted => exact accepted character member

/-- A character that the pattern does not mention is in no accepted text. -/
theorem Accepts.not_mem (accepted : pattern.Accepts text)
    (unmentioned : pattern.mentions character = false) : character ∉ text := by
  intro member
  rw [accepted.mentions character member] at unmentioned
  cases unmentioned

/-- In front of a character that it does not mention, a pattern matches as if the text
ended there. -/
theorem lengths_append_cons (unmentioned : pattern.mentions character = false)
    (front back : List Char) :
    pattern.lengths (front ++ character :: back) = pattern.lengths front := by
  apply lengths_append_of_le
  intro length member
  by_contra longer
  obtain ⟨more, rfl⟩ := Nat.exists_eq_add_of_lt (Nat.lt_of_not_le longer)
  have accepted := (mem_lengths_iff.mp member).2
  rw [Nat.add_assoc, List.take_length_add_append, List.take_succ_cons] at accepted
  apply accepted.not_mem unmentioned
  exact List.mem_append_right _ List.mem_cons_self

/-! ## Texts without a match -/

/-- A pattern accepts no part of a text. -/
def AbsentFrom (pattern : Pattern) (text : List Char) : Prop :=
  ∀ part, part <:+: text → ¬ pattern.Accepts part

/-- A pattern is absent when it matches at no place. -/
theorem absentFrom_iff :
    pattern.AbsentFrom text ↔ ∀ suffix ∈ text.tails, pattern.matchLength? suffix = none := by
  constructor
  · intro absent suffix member
    rw [matchLength?_eq_none_iff]
    intro part begins
    exact absent part (begins.isInfix.trans ((List.mem_tails ..).mp member).isInfix)
  · intro missed part found
    obtain ⟨suffix, begins, ends⟩ := List.infix_iff_prefix_suffix.mp found
    exact matchLength?_eq_none_iff.mp (missed suffix ((List.mem_tails ..).mpr ends)) part begins

instance (pattern : Pattern) (text : List Char) : Decidable (pattern.AbsentFrom text) :=
  decidable_of_iff _ absentFrom_iff.symm

/-- What is absent from a text is absent from each part of it. -/
theorem AbsentFrom.mono {smaller : List Char} (absent : pattern.AbsentFrom text)
    (inside : smaller <:+: text) : pattern.AbsentFrom smaller :=
  fun part found => absent part (found.trans inside)

/-- A pattern that is absent from a text does not match at its start. -/
theorem AbsentFrom.matchLength? (absent : pattern.AbsentFrom text) :
    pattern.matchLength? text = none :=
  matchLength?_eq_none_iff.mpr fun part found => absent part found.isInfix

end CallControl.Redaction.Pattern
