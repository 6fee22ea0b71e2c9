import CallControl.Proofs.PatternLanguage

/-! # When the preferred match is the longest

The preferred match of a pattern need not be its longest one. It is for a symbol and for a
run, and this carries over to a sequence whose first part cannot go on where the second one
can begin (`Greedy.seq`), and to a choice between patterns that never match at the same place
(`Greedy.choice`). Both conditions are read off the characters with which a pattern may begin
and may go on (`Begins`, `Continues`).
-/

namespace CallControl.Redaction.Pattern

variable {pattern first second third : Pattern} {text front back : List Char}
  {character : Char} {count least extra : Nat}

/-! ## How accepted texts begin and go on -/

/-- A pattern accepts a text that begins with a character. -/
def Begins (pattern : Pattern) (character : Char) : Prop :=
  ∃ rest, pattern.Accepts (character :: rest)

/-- A pattern accepts a text, and also one that goes on behind it with a character. -/
def Continues (pattern : Pattern) (character : Char) : Prop :=
  ∃ front rest, pattern.Accepts front ∧ pattern.Accepts (front ++ character :: rest)

/-- What a pattern can begin with it mentions. -/
theorem Begins.mentions (begins : pattern.Begins character) :
    pattern.mentions character = true := by
  obtain ⟨rest, accepted⟩ := begins
  exact accepted.mentions character List.mem_cons_self

/-- What a pattern can go on with it mentions. -/
theorem Continues.mentions (continues : pattern.Continues character) :
    pattern.mentions character = true := by
  obtain ⟨front, rest, _, accepted⟩ := continues
  exact accepted.mentions character (List.mem_append_right _ List.mem_cons_self)

/-- One symbol begins with the characters that it accepts. -/
theorem begins_symbol {accepts : Char → Bool}
    (begins : (Pattern.symbol accepts).Begins character) : accepts character = true :=
  begins.mentions

/-- What starts with a fixed character begins with it. -/
theorem begins_literal_seq {fixed : Char}
    (begins : (Pattern.seq (literal fixed) second).Begins character) : character = fixed := by
  obtain ⟨rest, accepted⟩ := begins
  obtain ⟨back, same, _⟩ := accepts_literal_seq.mp accepted
  exact (List.cons.inj same).1

/-- A sequence begins as its first part does, or as the second where the first may be empty. -/
theorem begins_seq (begins : (Pattern.seq first second).Begins character) :
    first.Begins character ∨ first.Accepts [] ∧ second.Begins character := by
  obtain ⟨rest, accepted⟩ := begins
  obtain ⟨front, back, same, accepted, ends⟩ := accepts_seq.mp accepted
  cases front with
  | nil => exact Or.inr ⟨accepted, rest, same ▸ ends⟩
  | cons other more =>
      obtain ⟨rfl, _⟩ := List.cons.inj same
      exact Or.inl ⟨more, accepted⟩

/-- An optional pattern begins as the pattern itself. -/
theorem begins_optional (begins : (optional pattern).Begins character) :
    pattern.Begins character := by
  obtain ⟨rest, accepted⟩ := begins
  rcases accepts_optional.mp accepted with accepted | absurdity
  · exact ⟨rest, accepted⟩
  · cases absurdity

/-- What is repeated begins as one of it does. -/
theorem begins_repeated (begins : (pattern.repeated count).Begins character) :
    pattern.Begins character := by
  induction count with
  | zero =>
      obtain ⟨rest, accepted⟩ := begins
      cases accepts_nothing.mp accepted
  | succ count ih =>
      rcases begins_seq begins with begins | ⟨_, begins⟩
      · exact begins
      · exact ih begins

/-! ## Repetition -/

/-- Repetitions can be counted in two goes. -/
theorem accepts_repeated_add {more : Nat} :
    (pattern.repeated (count + more)).Accepts text ↔
      ∃ front back, text = front ++ back ∧ (pattern.repeated count).Accepts front ∧
        (pattern.repeated more).Accepts back := by
  induction count generalizing text with
  | zero =>
      rw [Nat.zero_add]
      constructor
      · intro accepted
        exact ⟨[], text, rfl, .nothing, accepted⟩
      · rintro ⟨front, back, rfl, begins, ends⟩
        rw [accepts_nothing.mp begins]
        exact ends
  | succ count ih =>
      rw [Nat.succ_add, repeated, accepts_seq]
      constructor
      · rintro ⟨front, rest, rfl, begins, accepted⟩
        obtain ⟨middle, back, rfl, among, ends⟩ := ih.mp accepted
        exact ⟨front ++ middle, back, (List.append_assoc ..).symm, .seq begins among, ends⟩
      · rintro ⟨rest, back, rfl, accepted, ends⟩
        obtain ⟨front, middle, rfl, begins, among⟩ := accepts_seq.mp accepted
        exact ⟨front, middle ++ back, List.append_assoc .., begins,
          ih.mpr ⟨middle, back, rfl, among, ends⟩⟩

/-- Up to a number of times is some number of times. -/
theorem accepts_atMost :
    (pattern.atMost extra).Accepts text ↔
      ∃ count ≤ extra, (pattern.repeated count).Accepts text := by
  induction extra generalizing text with
  | zero =>
      constructor
      · intro accepted
        exact ⟨0, Nat.le_refl 0, accepted⟩
      · rintro ⟨count, le, accepted⟩
        obtain rfl := Nat.le_zero.mp le
        exact accepted
  | succ extra ih =>
      rw [atMost, accepts_choice, accepts_seq, accepts_nothing]
      constructor
      · rintro (⟨front, back, rfl, begins, ends⟩ | rfl)
        · obtain ⟨count, le, accepted⟩ := ih.mp ends
          exact ⟨count + 1, Nat.succ_le_succ le, .seq begins accepted⟩
        · exact ⟨0, Nat.zero_le _, .nothing⟩
      · rintro ⟨count, le, accepted⟩
        cases count with
        | zero => exact Or.inr (accepts_nothing.mp accepted)
        | succ count =>
            obtain ⟨front, back, rfl, begins, ends⟩ := accepts_seq.mp accepted
            exact Or.inl ⟨front, back, rfl, begins, ih.mpr ⟨count, Nat.le_of_succ_le_succ le, ends⟩⟩

/-- A pattern between two counts is repeated some number of times in that range. -/
theorem accepts_between :
    (pattern.between least extra).Accepts text ↔
      ∃ count ≤ extra, (pattern.repeated (least + count)).Accepts text := by
  rw [between, accepts_seq]
  constructor
  · rintro ⟨front, back, rfl, begins, ends⟩
    obtain ⟨count, le, accepted⟩ := accepts_atMost.mp ends
    exact ⟨count, le, accepts_repeated_add.mpr ⟨front, back, rfl, begins, accepted⟩⟩
  · rintro ⟨count, le, accepted⟩
    obtain ⟨front, back, rfl, begins, ends⟩ := accepts_repeated_add.mp accepted
    exact ⟨front, back, rfl, begins, accepts_atMost.mpr ⟨count, le, ends⟩⟩

/-- A pattern repeated a limited number of times begins as the pattern itself. -/
theorem begins_atMost (begins : (pattern.atMost extra).Begins character) :
    pattern.Begins character := by
  obtain ⟨rest, accepted⟩ := begins
  obtain ⟨count, _, accepted⟩ := accepts_atMost.mp accepted
  exact begins_repeated ⟨rest, accepted⟩

/-- A pattern repeated between two counts begins as the pattern itself. -/
theorem begins_between (begins : (pattern.between least extra).Begins character) :
    pattern.Begins character := by
  obtain ⟨rest, accepted⟩ := begins
  obtain ⟨count, _, accepted⟩ := accepts_between.mp accepted
  exact begins_repeated ⟨rest, accepted⟩

private theorem accepts_repeated_symbol {accepts : Char → Bool} {count : Nat} {text : List Char} :
    ((Pattern.symbol accepts).repeated count).Accepts text ↔
      text.length = count ∧ ∀ character ∈ text, accepts character = true := by
  induction count generalizing text with
  | zero =>
      rw [repeated, accepts_nothing, List.length_eq_zero_iff]
      constructor
      · rintro rfl
        exact ⟨rfl, fun _ member => absurd member List.not_mem_nil⟩
      · exact And.left
  | succ count ih =>
      rw [repeated, accepts_seq]
      constructor
      · rintro ⟨front, back, rfl, begins, ends⟩
        obtain ⟨character, accepted, rfl⟩ := accepts_symbol.mp begins
        obtain ⟨rfl, among⟩ := ih.mp ends
        exact ⟨rfl, List.forall_mem_cons.mpr ⟨accepted, among⟩⟩
      · rintro ⟨size, among⟩
        obtain ⟨character, rest, rfl⟩ := List.exists_cons_of_length_eq_add_one size
        obtain ⟨accepted, among⟩ := List.forall_mem_cons.mp among
        exact ⟨[character], rest, rfl, .symbol accepted, ih.mpr ⟨Nat.succ.inj size, among⟩⟩

/-- So many characters of a class, and no others. -/
theorem accepts_symbol_between {accepts : Char → Bool} {least extra : Nat} {text : List Char} :
    ((Pattern.symbol accepts).between least extra).Accepts text ↔
      least ≤ text.length ∧ text.length ≤ least + extra ∧
        ∀ character ∈ text, accepts character = true := by
  rw [accepts_between]
  constructor
  · rintro ⟨count, le, accepted⟩
    obtain ⟨size, among⟩ := accepts_repeated_symbol.mp accepted
    exact ⟨by omega, by omega, among⟩
  · rintro ⟨enough, few, among⟩
    refine ⟨text.length - least, by omega, accepts_repeated_symbol.mpr ⟨by omega, among⟩⟩

/-! ## Patterns whose texts end where they must -/

/-- No accepted text is the beginning of a longer one. -/
def PrefixFree (pattern : Pattern) : Prop :=
  ∀ character, ¬ pattern.Continues character

/-- At the front of a text only one prefix is accepted. -/
theorem PrefixFree.append_inj {other rest more : List Char} (free : pattern.PrefixFree)
    (accepted : pattern.Accepts front) (acceptedOther : pattern.Accepts other)
    (same : front ++ rest = other ++ more) : front = other ∧ rest = more := by
  rcases List.append_eq_append_iff.mp same with ⟨gap, rfl, rfl⟩ | ⟨gap, rfl, rfl⟩
  · cases gap with
    | nil => exact ⟨(List.append_nil _).symm, rfl⟩
    | cons character gap => exact absurd ⟨front, gap, accepted, acceptedOther⟩ (free character)
  · cases gap with
    | nil => exact ⟨List.append_nil _, rfl⟩
    | cons character gap => exact absurd ⟨other, gap, acceptedOther, accepted⟩ (free character)

private theorem prefixFree_nothing : Pattern.nothing.PrefixFree := by
  rintro character ⟨front, rest, _, accepted⟩
  obtain ⟨_, absurdity⟩ := List.append_eq_nil_iff.mp (accepts_nothing.mp accepted)
  cases absurdity

/-- No symbol is a proper beginning of another. -/
theorem prefixFree_symbol (accepts : Char → Bool) : (Pattern.symbol accepts).PrefixFree := by
  rintro character ⟨front, rest, accepted, longer⟩
  obtain ⟨_, _, rfl⟩ := accepts_symbol.mp accepted
  obtain ⟨_, _, same⟩ := accepts_symbol.mp longer
  cases same

/-- Behind a part that ends where it must, a sequence goes on as its second part does. -/
theorem continues_seq (free : first.PrefixFree)
    (continues : (Pattern.seq first second).Continues character) :
    second.Continues character := by
  obtain ⟨front, rest, accepted, longer⟩ := continues
  obtain ⟨begun, back, rfl, begins, ends⟩ := accepts_seq.mp accepted
  obtain ⟨begun', back', same, begins', ends'⟩ := accepts_seq.mp longer
  rw [List.append_assoc] at same
  obtain ⟨rfl, rfl⟩ := free.append_inj begins begins' same
  exact ⟨back, rest, ends, ends'⟩

private theorem PrefixFree.seq (free : first.PrefixFree) (secondFree : second.PrefixFree) :
    (Pattern.seq first second).PrefixFree :=
  fun character continues => secondFree character (continues_seq free continues)

/-- A fixed number of repetitions keeps a pattern free of prefixes. -/
theorem PrefixFree.repeated (free : pattern.PrefixFree) (count : Nat) :
    (pattern.repeated count).PrefixFree := by
  induction count with
  | zero => exact prefixFree_nothing
  | succ count ih => exact free.seq ih

/-- A character ends what does not mention it. -/
theorem prefixFree_seq_literal (unmentioned : first.mentions character = false) :
    (Pattern.seq first (literal character)).PrefixFree := by
  rintro next ⟨front, rest, accepted, longer⟩
  obtain ⟨begun, last, rfl, _, ends⟩ := accepts_seq.mp accepted
  obtain ⟨begun', last', same, begins', ends'⟩ := accepts_seq.mp longer
  obtain rfl := accepts_literal.mp ends
  obtain rfl := accepts_literal.mp ends'
  apply begins'.not_mem unmentioned
  have within := congrArg List.dropLast same
  rw [List.dropLast_concat, List.append_assoc, List.singleton_append, List.dropLast_append_cons,
    List.dropLast_cons_cons] at within
  rw [← within]
  exact List.mem_append_right _ List.mem_cons_self

/-- After some repetitions only a further one can follow. -/
theorem continues_atMost (free : pattern.PrefixFree)
    (continues : (pattern.atMost extra).Continues character) : pattern.Begins character := by
  obtain ⟨front, rest, accepted, longer⟩ := continues
  obtain ⟨fewer, _, accepted⟩ := accepts_atMost.mp accepted
  obtain ⟨count, _, longer⟩ := accepts_atMost.mp longer
  rcases Nat.le_total fewer count with le | le
  · obtain ⟨more, rfl⟩ := Nat.exists_eq_add_of_le le
    obtain ⟨begun, back, same, begins, ends⟩ := accepts_repeated_add.mp longer
    obtain ⟨_, rfl⟩ := (free.repeated fewer).append_inj accepted begins same
    exact begins_repeated ⟨rest, ends⟩
  · obtain ⟨more, rfl⟩ := Nat.exists_eq_add_of_le le
    obtain ⟨begun, back, rfl, begins, _⟩ := accepts_repeated_add.mp accepted
    rw [List.append_assoc] at longer
    obtain ⟨_, absurdity⟩ :=
      (free.repeated count).append_inj begins longer (List.append_nil _).symm
    obtain ⟨_, absurdity⟩ := List.append_eq_nil_iff.mp absurdity
    cases absurdity

/-- A repeated pattern goes on with what the pattern begins with. -/
theorem continues_between (free : pattern.PrefixFree)
    (continues : (pattern.between least extra).Continues character) : pattern.Begins character :=
  continues_atMost free (continues_seq (free.repeated least) continues)

/-! ## Patterns that keep out of each other's way -/

/-- Where the first pattern can go on, the second one cannot begin. -/
def YieldsTo (first second : Pattern) : Prop :=
  ∀ character, first.Continues character → ¬ second.Begins character

/-- No text has both a prefix that the one pattern accepts and a prefix that the other
accepts. -/
def Excludes (one other : Pattern) : Prop :=
  ∀ front back, one.Accepts front → other.Accepts back → ∀ rest more, front ++ rest ≠ back ++ more

/-- A pattern that excludes two others excludes the choice of them. -/
theorem Excludes.choice {one other : Pattern} (excludes : first.Excludes one)
    (otherExcludes : first.Excludes other) : first.Excludes (.choice one other) := by
  intro front back accepted acceptedOther
  rcases accepts_choice.mp acceptedOther with acceptedOther | acceptedOther
  · exact excludes front back accepted acceptedOther
  · exact otherExcludes front back accepted acceptedOther

/-- A pattern without prefixes never goes on, so any other may follow it. -/
theorem PrefixFree.yieldsTo (free : first.PrefixFree) (second : Pattern) :
    first.YieldsTo second :=
  fun character continues => absurd continues (free character)

/-- A pattern goes on only with what it mentions. -/
theorem yieldsTo_of_unmentioned
    (unmentioned : ∀ character, second.Begins character → first.mentions character = false) :
    first.YieldsTo second := by
  intro character continues begins
  have mentioned := continues.mentions
  rw [unmentioned character begins] at mentioned
  cases mentioned

/-- Two patterns that cannot begin with the same character do not match at the same place. -/
theorem excludes_of_begins (consumes : ¬ first.Accepts []) (otherConsumes : ¬ second.Accepts [])
    (apart : ∀ character, first.Begins character → ¬ second.Begins character) :
    first.Excludes second := by
  intro front back accepted acceptedOther rest more same
  cases front with
  | nil => exact consumes accepted
  | cons character front =>
      cases back with
      | nil => exact otherConsumes acceptedOther
      | cons other back =>
          obtain ⟨rfl, _⟩ := List.cons.inj same
          exact apart character ⟨front, accepted⟩ ⟨back, acceptedOther⟩

/-- More of a pattern than the one leaves room for cannot be where the other wants an end. -/
theorem excludes_repeated (free : pattern.PrefixFree) (least extra : Nat)
    (consumes : ¬ first.Accepts []) (otherConsumes : ¬ second.Accepts [])
    (apart : ∀ character, second.Begins character →
      ¬ pattern.Begins character ∧ ¬ first.Begins character) :
    (Pattern.seq (pattern.repeated (least + extra)) first).Excludes
      (Pattern.seq (pattern.between least extra) second) := by
  intro front back accepted acceptedOther rest more same
  obtain ⟨groups, last, rfl, among, ends⟩ := accepts_seq.mp accepted
  obtain ⟨fewer, tail, rfl, amongFewer, trails⟩ := accepts_seq.mp acceptedOther
  obtain ⟨count, le, counted⟩ := accepts_between.mp amongFewer
  obtain ⟨gap, rfl⟩ := Nat.exists_eq_add_of_le le
  rw [← Nat.add_assoc] at among
  obtain ⟨begun, missing, rfl, begins, among⟩ := accepts_repeated_add.mp among
  simp only [List.append_assoc] at same
  obtain ⟨_, same⟩ := (free.repeated _).append_inj begins counted same
  have excludes : (Pattern.seq (pattern.repeated gap) first).Excludes second := by
    apply excludes_of_begins _ otherConsumes
    · intro character begins beginsOther
      obtain ⟨unrepeated, unbegun⟩ := apart character beginsOther
      rcases begins_seq begins with begins | ⟨_, begins⟩
      · exact unrepeated (begins_repeated begins)
      · exact unbegun begins
    · intro empty
      obtain ⟨_, _, none, _, ends⟩ := accepts_seq.mp empty
      rw [(List.append_eq_nil_iff.mp none.symm).2] at ends
      exact consumes ends
  apply excludes _ _ (.seq among ends) trails rest more
  rw [List.append_assoc]
  exact same

/-- A choice goes on as one of its branches does, when they never match at the same place. -/
theorem continues_choice (excludes : first.Excludes second)
    (continues : (Pattern.choice first second).Continues character) :
    first.Continues character ∨ second.Continues character := by
  obtain ⟨front, rest, accepted, longer⟩ := continues
  rcases accepts_choice.mp accepted with accepted | accepted <;>
    rcases accepts_choice.mp longer with longer | longer
  · exact Or.inl ⟨front, rest, accepted, longer⟩
  · exact absurd (List.append_nil _).symm (excludes _ _ accepted longer (character :: rest) [])
  · exact absurd (List.append_nil _) (excludes _ _ longer accepted [] (character :: rest))
  · exact Or.inr ⟨front, rest, accepted, longer⟩

/-! ## The preferred match is the longest -/

/-- Of the matches at the front of a text the preferred one is the longest. -/
def Greedy (pattern : Pattern) : Prop :=
  ∀ text best, pattern.matchLength? text = some best →
    ∀ length ∈ pattern.lengths text, length ≤ best

/-- Where there is a match there is a preferred one, and it is the longest. -/
theorem Greedy.exists_best (greedy : pattern.Greedy) {length : Nat}
    (member : length ∈ pattern.lengths text) :
    ∃ best, pattern.matchLength? text = some best ∧ best ∈ pattern.lengths text ∧
      length ≤ best := by
  cases found : pattern.matchLength? text with
  | none =>
      rw [List.head?_eq_none_iff.mp found] at member
      cases member
  | some best => exact ⟨best, rfl, List.mem_of_mem_head? found, greedy text best found _ member⟩

/-- Where a pattern has a longer match as well, it goes on with what follows the shorter one. -/
theorem continues_of_lt {shorter longer : Nat} (shorterMember : shorter ∈ pattern.lengths text)
    (longerMember : longer ∈ pattern.lengths text) (less : shorter < longer) :
    ∃ character rest, text.drop shorter = character :: rest ∧ pattern.Continues character := by
  obtain ⟨within, accepted⟩ := mem_lengths_iff.mp longerMember
  obtain ⟨character, rest, follows⟩ : ∃ character rest, text.drop shorter = character :: rest := by
    apply List.exists_cons_of_length_pos
    rw [List.length_drop]
    omega
  obtain ⟨gap, rfl⟩ := Nat.exists_eq_add_of_lt less
  rw [Nat.add_assoc, List.take_add, follows, List.take_succ_cons] at accepted
  exact ⟨character, rest, follows, _, _, (mem_lengths_iff.mp shorterMember).2, accepted⟩

/-- A text that is accepted as a whole is matched as a whole. -/
theorem Greedy.matchLength?_eq (greedy : pattern.Greedy) (accepted : pattern.Accepts text) :
    pattern.matchLength? text = some text.length := by
  obtain ⟨best, found, member, le⟩ := greedy.exists_best (accepts_iff_length_mem.mp accepted)
  rw [found, Nat.le_antisymm (le_length_of_mem_lengths member) le]

/-- An accepted text is matched as a whole where the pattern cannot go on behind it. -/
theorem Greedy.matchLength?_append (greedy : pattern.Greedy) (accepted : pattern.Accepts front)
    (stops : ∀ character ∈ back.head?, ¬ pattern.Continues character) :
    pattern.matchLength? (front ++ back) = some front.length := by
  have member : front.length ∈ pattern.lengths (front ++ back) :=
    length_mem_lengths_iff.mpr accepted
  obtain ⟨best, found, bestMember, le⟩ := greedy.exists_best member
  rcases Nat.eq_or_lt_of_le le with same | longer
  · rw [found, same]
  · obtain ⟨character, rest, follows, continues⟩ := continues_of_lt member bestMember longer
    rw [List.drop_left] at follows
    subst follows
    exact absurd continues (stops character rfl)

/-- A pattern without prefixes has one match at most, so its first is its longest. -/
theorem PrefixFree.greedy (free : pattern.PrefixFree) : pattern.Greedy := by
  intro text best found length member
  by_contra longer
  obtain ⟨character, _, _, continues⟩ :=
    continues_of_lt (List.mem_of_mem_head? found) member (Nat.lt_of_not_le longer)
  exact free character continues

/-- A run of characters takes all that it can. -/
theorem greedy_run (accepts : Char → Bool) : (Pattern.run accepts).Greedy := by
  intro text best found length member
  rw [matchLength?, lengths, List.head?_reverse, List.getLast?_map, List.getLast?_range] at found
  simp only [lengths, List.mem_reverse, List.mem_map, List.mem_range] at member
  obtain ⟨shorter, less, rfl⟩ := member
  split at found
  · cases found
  · simp only [Option.map_some, Option.some.injEq] at found
    omega

/-- An optional pattern is tried before it is left out. -/
theorem Greedy.optional (greedy : pattern.Greedy) : (optional pattern).Greedy := by
  intro text best found length member
  rw [Pattern.optional, matchLength?, lengths, List.head?_append] at found
  rcases List.mem_append.mp member with member | member
  · obtain ⟨longest, found', _, le⟩ := greedy.exists_best member
    rw [← matchLength?, found'] at found
    cases found
    exact le
  · rw [List.mem_singleton.mp member]
    exact Nat.zero_le _

/-- A choice is greedy when its parts are and no text has a match of both. -/
theorem Greedy.choice (greedy : first.Greedy) (otherGreedy : second.Greedy)
    (excludes : first.Excludes second) : (Pattern.choice first second).Greedy := by
  intro text best found length member
  have only {one other : Nat} (member : one ∈ first.lengths text) :
      other ∉ second.lengths text := by
    intro otherMember
    refine excludes _ _ (mem_lengths_iff.mp member).2 (mem_lengths_iff.mp otherMember).2
      (text.drop one) (text.drop other) ?_
    rw [List.take_append_drop, List.take_append_drop]
  rw [matchLength?, lengths, List.head?_append] at found
  rcases List.mem_append.mp member with member | member
  · obtain ⟨longest, found', _, le⟩ := greedy.exists_best member
    rw [← matchLength?, found'] at found
    cases found
    exact le
  · have none : first.lengths text = [] :=
      List.eq_nil_iff_forall_not_mem.mpr fun one oneMember => only oneMember member
    rw [none] at found
    exact otherGreedy text best found length member

/-- The longest match of a sequence consists of the longest of its first part and the longest
of its second part behind that. -/
theorem Greedy.seq (greedy : first.Greedy) (secondGreedy : second.Greedy)
    (yields : first.YieldsTo second) : (Pattern.seq first second).Greedy := by
  intro text best found length member
  simp only [lengths, List.mem_flatMap, List.mem_map] at member
  obtain ⟨before, beforeMember, after, afterMember, rfl⟩ := member
  obtain ⟨longest, foundLongest, longestMember, le⟩ := greedy.exists_best beforeMember
  -- Behind a shorter match of the first part the second one can only be empty.
  obtain ⟨other, otherMember, total⟩ :
      ∃ other ∈ second.lengths (text.drop longest), before + after ≤ longest + other := by
    rcases Nat.eq_or_lt_of_le le with rfl | shorter
    · exact ⟨after, afterMember, Nat.le_refl _⟩
    · obtain ⟨character, rest, follows, continues⟩ :=
        continues_of_lt beforeMember longestMember shorter
      obtain ⟨_, accepted⟩ := mem_lengths_iff.mp afterMember
      rw [follows] at accepted
      cases after with
      | zero => exact ⟨0, mem_lengths_iff.mpr ⟨Nat.zero_le _, accepted⟩, le⟩
      | succ after => exact absurd ⟨_, accepted⟩ (yields character continues)
  obtain ⟨last, foundLast, _, lastLe⟩ := secondGreedy.exists_best otherMember
  have best_eq : best = longest + last := by
    obtain ⟨tail, listed⟩ := List.head?_eq_some_iff.mp foundLongest
    rw [matchLength?, lengths, listed, List.flatMap_cons, List.head?_append, List.head?_map,
      ← matchLength?, foundLast] at found
    cases found
    rfl
  omega

/-- Repetitions of a greedy pattern are greedy when it goes on only where it cannot begin anew. -/
theorem Greedy.atMost (greedy : pattern.Greedy) (yields : pattern.YieldsTo pattern) (extra : Nat) :
    (pattern.atMost extra).Greedy := by
  induction extra with
  | zero => exact prefixFree_nothing.greedy
  | succ extra ih =>
      exact (greedy.seq ih fun character continues begins =>
        yields character continues (begins_atMost begins)).optional

/-- Repetitions of a pattern without prefixes are greedy. -/
theorem PrefixFree.greedy_between (free : pattern.PrefixFree) (least extra : Nat) :
    (pattern.between least extra).Greedy := by
  apply (free.repeated least).greedy.seq
  · exact free.greedy.atMost (free.yieldsTo pattern) extra
  · exact (free.repeated least).yieldsTo _

end CallControl.Redaction.Pattern
