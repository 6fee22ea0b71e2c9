import CallControl.Proofs.LongestMatch
import CallControl.Redaction.Address

/-! # The shape of addresses

What the two patterns say about the texts that they accept. Of the addresses that begin at one
place the longest is preferred (`greedy_ipv6`, `greedy_ipv4`). An IPv6 address has a colon, and
the group in front of its first colon may be exchanged for any other (`accepts_ipv6`). Digits at
either end of an IPv6 address may give way to a single zero (`shortens_ipv6`,
`accepts_ipv6_zero`), so where it takes some digits it takes any others just as well. An IPv4
address is made of digits and dots, but for a letter that may end it
(`isQuadChar_of_accepts_ipv4`).
-/

namespace CallControl.Redaction

open Pattern

/-! ## The longest address is preferred -/

private theorem greedy_hexGroup : hexGroup.Greedy :=
  (prefixFree_symbol _).greedy_between 1 3

private theorem prefixFree_hexGroupColon : hexGroupColon.PrefixFree :=
  prefixFree_seq_literal (by decide)

/-- A group does not begin with a colon. -/
theorem not_begins_hexGroup : ¬ hexGroup.Begins ':' := by
  intro begins
  have accepted : isHexDigit ':' = true := begins_symbol (begins_between begins)
  cases accepted

private theorem not_begins_hexGroupColon : ¬ hexGroupColon.Begins ':' := by
  intro begins
  rcases begins_seq begins with begins | ⟨empty, _⟩
  · exact not_begins_hexGroup begins
  · revert empty
    decide

private theorem greedy_groupsAfterGap : groupsAfterGap.Greedy := by
  apply Greedy.optional
  have group : (Pattern.seq (literal ':') hexGroup).Greedy :=
    (prefixFree_symbol _).greedy.seq greedy_hexGroup ((prefixFree_symbol _).yieldsTo _)
  apply greedy_hexGroup.seq
  · apply group.atMost
    intro character continues begins
    obtain rfl := begins_literal_seq begins
    have mentioned := (continues_seq (prefixFree_symbol _) continues).mentions
    revert mentioned
    decide
  · apply yieldsTo_of_unmentioned
    intro character begins
    obtain rfl := begins_literal_seq (begins_atMost begins)
    decide

private theorem greedy_zone : zone.Greedy :=
  ((prefixFree_symbol _).greedy.seq (greedy_run _) ((prefixFree_symbol _).yieldsTo _)).optional

private theorem greedy_gapTail : (Pattern.seq groupsAfterGap zone).Greedy := by
  apply greedy_groupsAfterGap.seq greedy_zone
  apply yieldsTo_of_unmentioned
  intro character begins
  obtain rfl := begins_literal_seq (begins_optional begins)
  decide

private theorem greedy_ipv6Full : ipv6Full.Greedy := by
  apply (prefixFree_hexGroupColon.repeated 7).greedy.seq greedy_hexGroup
  exact (prefixFree_hexGroupColon.repeated 7).yieldsTo _

private theorem greedy_ipv6Gap : ipv6Gap.Greedy := by
  apply (prefixFree_hexGroupColon.greedy_between 1 6).seq
  · exact (prefixFree_symbol _).greedy.seq greedy_gapTail ((prefixFree_symbol _).yieldsTo _)
  · intro character continues begins
    obtain rfl := begins_literal_seq begins
    exact not_begins_hexGroupColon (continues_between prefixFree_hexGroupColon continues)

private theorem greedy_ipv6LeadingGap : ipv6LeadingGap.Greedy := by
  apply (prefixFree_symbol _).greedy.seq _ ((prefixFree_symbol _).yieldsTo _)
  exact (prefixFree_symbol _).greedy.seq greedy_gapTail ((prefixFree_symbol _).yieldsTo _)

private theorem ipv6Full_excludes_ipv6Gap : ipv6Full.Excludes ipv6Gap := by
  apply excludes_repeated prefixFree_hexGroupColon 1 6 (by decide) (by decide)
  intro character begins
  obtain rfl := begins_literal_seq begins
  exact ⟨not_begins_hexGroupColon, not_begins_hexGroup⟩

/-- What begins with groups matches nowhere where a colon stands first. -/
theorem excludes_ipv6LeadingGap {groups rest : Pattern} (consumes : ¬ groups.Accepts [])
    (unbegun : ¬ groups.Begins ':') : (Pattern.seq groups rest).Excludes ipv6LeadingGap := by
  apply excludes_of_begins _ (by decide)
  · intro character begins leads
    obtain rfl := begins_literal_seq leads
    rcases begins_seq begins with begins | ⟨empty, _⟩
    · exact unbegun begins
    · exact consumes empty
  · intro empty
    obtain ⟨_, _, none, begins, _⟩ := accepts_seq.mp empty
    rw [(List.append_eq_nil_iff.mp none.symm).1] at begins
    exact consumes begins

/-- The preferred match of the pattern for IPv6 addresses is the longest. -/
theorem greedy_ipv6 : ipv6.Greedy := by
  apply greedy_ipv6Full.choice
  · apply greedy_ipv6Gap.choice greedy_ipv6LeadingGap
    exact excludes_ipv6LeadingGap (by decide) fun begins =>
      not_begins_hexGroupColon (begins_between begins)
  · apply ipv6Full_excludes_ipv6Gap.choice
    exact excludes_ipv6LeadingGap (by decide) fun begins =>
      not_begins_hexGroupColon (begins_repeated begins)

/-! ## Groups of digits -/

/-- One or more digits. -/
def Digits (text : List Char) : Prop :=
  text ≠ [] ∧ ∀ character ∈ text, isDigit character = true

instance (text : List Char) : Decidable (Digits text) :=
  decidable_of_iff (text ≠ [] ∧ text.all isDigit = true) (by rw [Digits, List.all_eq_true])

/-! ## Digits at the end of an address -/

/-- No accepted text ends with digits. -/
def Pattern.EndsOtherwise (pattern : Pattern) : Prop :=
  ∀ front digits, Digits digits → ¬ pattern.Accepts (front ++ digits)

/-- Where an accepted text ends with digits, a single zero may stand in their place. -/
def Pattern.Shortens (pattern : Pattern) : Prop :=
  ∀ front digits, Digits digits → pattern.Accepts (front ++ digits) →
    pattern.Accepts (front ++ ['0'])

variable {pattern first second : Pattern}

private theorem shortens_choice (shortens : first.Shortens) (otherShortens : second.Shortens) :
    (Pattern.choice first second).Shortens := by
  intro front digits ofDigits accepted
  rcases accepts_choice.mp accepted with accepted | accepted
  · exact .preferred (shortens front digits ofDigits accepted)
  · exact .other (otherShortens front digits ofDigits accepted)

private theorem endsOtherwise_nothing : Pattern.nothing.EndsOtherwise := by
  rintro front digits ⟨nonempty, _⟩ accepted
  exact nonempty (List.append_eq_nil_iff.mp (accepts_nothing.mp accepted)).2

private theorem Pattern.EndsOtherwise.shortens (otherwise : pattern.EndsOtherwise) :
    pattern.Shortens :=
  fun front digits ofDigits accepted => absurd accepted (otherwise front digits ofDigits)

/-- The digits at the end of a sequence are those at the end of its second part, unless that
may be empty. -/
theorem shortens_seq (shortens : second.Shortens)
    (before : first.EndsOtherwise ∨ first.Shortens ∧ second.Accepts []) :
    (Pattern.seq first second).Shortens := by
  intro front digits ofDigits accepted
  obtain ⟨begun, rest, same, begins, ends⟩ := accepts_seq.mp accepted
  rcases List.append_eq_append_iff.mp same with ⟨gap, rfl, rfl⟩ | ⟨gap, rfl, rfl⟩
  · by_cases none : gap = []
    · subst none
      rw [List.append_nil] at begins
      exact .seq begins (shortens [] rest ofDigits ends)
    · have gapDigits : Digits gap :=
        ⟨none, fun character member => ofDigits.2 character (List.mem_append_left _ member)⟩
      rcases before with otherwise | ⟨firstShortens, empty⟩
      · exact absurd begins (otherwise front gap gapDigits)
      · rw [← List.append_nil (front ++ ['0'])]
        exact .seq (firstShortens front gap gapDigits begins) empty
  · rw [List.append_assoc]
    exact .seq begins (shortens gap digits ofDigits ends)

private theorem endsOtherwise_seq (otherwise : second.EndsOtherwise)
    (before : first.EndsOtherwise ∨ ¬ second.Accepts []) :
    (Pattern.seq first second).EndsOtherwise := by
  rintro front digits ⟨nonempty, ofDigits⟩ accepted
  obtain ⟨begun, rest, same, begins, ends⟩ := accepts_seq.mp accepted
  rcases List.append_eq_append_iff.mp same with ⟨gap, rfl, rfl⟩ | ⟨gap, rfl, rfl⟩
  · by_cases none : rest = []
    · subst none
      rw [List.append_nil] at nonempty ofDigits
      rcases before with firstOtherwise | consumes
      · exact firstOtherwise front gap ⟨nonempty, ofDigits⟩ begins
      · exact consumes ends
    · apply otherwise [] rest _ ends
      exact ⟨none, fun character member => ofDigits character (List.mem_append_right _ member)⟩
  · exact otherwise gap digits ⟨nonempty, ofDigits⟩ ends

private theorem endsOtherwise_repeated (otherwise : pattern.EndsOtherwise) (count : Nat) :
    (pattern.repeated count).EndsOtherwise := by
  induction count with
  | zero => exact endsOtherwise_nothing
  | succ count ih => exact endsOtherwise_seq ih (Or.inl otherwise)

private theorem endsOtherwise_between (otherwise : pattern.EndsOtherwise) (least extra : Nat) :
    (pattern.between least extra).EndsOtherwise := by
  intro front digits ofDigits accepted
  obtain ⟨count, _, accepted⟩ := accepts_between.mp accepted
  exact endsOtherwise_repeated otherwise _ front digits ofDigits accepted

private theorem shortens_atMost (shortens : pattern.Shortens) (extra : Nat) :
    (pattern.atMost extra).Shortens := by
  induction extra with
  | zero => exact endsOtherwise_nothing.shortens
  | succ extra ih =>
      apply shortens_choice _ endsOtherwise_nothing.shortens
      exact shortens_seq ih (Or.inr ⟨shortens, accepts_atMost_nil extra⟩)

private theorem shortens_optional (shortens : pattern.Shortens) : (optional pattern).Shortens :=
  shortens_choice shortens endsOtherwise_nothing.shortens

private theorem endsOtherwise_literal {character : Char} (other : isDigit character = false) :
    (literal character).EndsOtherwise := by
  rintro front digits ⟨nonempty, ofDigits⟩ accepted
  obtain ⟨last, member⟩ := List.exists_mem_of_ne_nil digits nonempty
  have among : last ∈ [character] := accepts_literal.mp accepted ▸ List.mem_append_right _ member
  rw [← List.mem_singleton.mp among, ofDigits last member] at other
  cases other

private theorem shortens_hexGroup : hexGroup.Shortens := by
  rintro front digits ⟨nonempty, _⟩ accepted
  obtain ⟨_, few, among⟩ := accepts_symbol_between.mp accepted
  have some : 0 < digits.length := List.length_pos_iff.mpr nonempty
  rw [List.length_append] at few
  refine accepts_symbol_between.mpr ⟨?_, ?_, ?_⟩
  · rw [List.length_append, List.length_singleton]
    exact Nat.le_add_left _ _
  · rw [List.length_append, List.length_singleton]
    omega
  · intro character member
    rcases List.mem_append.mp member with member | member
    · exact among character (List.mem_append_left _ member)
    · rw [List.mem_singleton.mp member]
      decide

private theorem shortens_zone : zone.Shortens := by
  apply shortens_optional
  apply shortens_seq _ (Or.inl (endsOtherwise_literal (by decide)))
  intro front digits ofDigits accepted
  obtain ⟨_, among⟩ := accepts_run.mp accepted
  refine accepts_run.mpr ⟨List.append_ne_nil_of_right_ne_nil _ (List.cons_ne_nil _ _), ?_⟩
  intro character member
  rcases List.mem_append.mp member with member | member
  · exact among character (List.mem_append_left _ member)
  · rw [List.mem_singleton.mp member]
    decide

private theorem shortens_gapTail : (Pattern.seq groupsAfterGap zone).Shortens := by
  have group : (Pattern.seq (literal ':') hexGroup).Shortens :=
    shortens_seq shortens_hexGroup (Or.inl (endsOtherwise_literal (by decide)))
  have groups : groupsAfterGap.Shortens := by
    apply shortens_optional
    exact shortens_seq (shortens_atMost group 6)
      (Or.inr ⟨shortens_hexGroup, accepts_atMost_nil 6⟩)
  exact shortens_seq shortens_zone (Or.inr ⟨groups, by decide⟩)

private theorem endsOtherwise_hexGroupColon : hexGroupColon.EndsOtherwise :=
  endsOtherwise_seq (endsOtherwise_literal (by decide)) (Or.inr (by decide))

/-- The digits at the end of an IPv6 address may be a single zero. -/
theorem shortens_ipv6 : ipv6.Shortens := by
  have colon : (literal ':').EndsOtherwise := endsOtherwise_literal (by decide)
  have gap : (Pattern.seq (literal ':') (.seq groupsAfterGap zone)).Shortens :=
    shortens_seq shortens_gapTail (Or.inl colon)
  apply shortens_choice
  · apply shortens_seq shortens_hexGroup
    exact Or.inl (endsOtherwise_repeated endsOtherwise_hexGroupColon 7)
  · apply shortens_choice
    · apply shortens_seq gap
      exact Or.inl (endsOtherwise_between endsOtherwise_hexGroupColon 1 6)
    · exact shortens_seq gap (Or.inl colon)

/-! ## Digits at the front of an address -/

/-- The first of some groups may be exchanged for any other. -/
theorem accepts_groups {count : Nat} {text : List Char}
    (accepted : (hexGroupColon.repeated (count + 1)).Accepts text) :
    ∃ group rest, text = group ++ ':' :: rest ∧ hexGroup.Accepts group ∧
      ∀ other, hexGroup.Accepts other →
        (hexGroupColon.repeated (count + 1)).Accepts (other ++ ':' :: rest) := by
  obtain ⟨front, rest, rfl, begins, ends⟩ := accepts_seq.mp accepted
  obtain ⟨group, colon, rfl, ofGroup, ofColon⟩ := accepts_seq.mp begins
  obtain rfl := accepts_literal.mp ofColon
  refine ⟨group, rest, List.append_assoc .., ofGroup, fun other ofOther => ?_⟩
  rw [← List.singleton_append, ← List.append_assoc]
  exact .seq (.seq ofOther ofColon) ends

/-- An address begins with a colon, or with a group that may be exchanged for any other. -/
theorem accepts_ipv6 {text : List Char} (accepted : ipv6.Accepts text) :
    (∃ rest, text = ':' :: rest) ∨
      ∃ group rest, text = group ++ ':' :: rest ∧ hexGroup.Accepts group ∧
        ∀ other, hexGroup.Accepts other → ipv6.Accepts (other ++ ':' :: rest) := by
  rcases accepts_choice.mp accepted with full | short
  · obtain ⟨groups, last, rfl, among, ends⟩ := accepts_seq.mp full
    obtain ⟨group, rest, rfl, ofGroup, exchange⟩ := accepts_groups among
    refine Or.inr ⟨group, rest ++ last, List.append_assoc .., ofGroup, fun other ofOther => ?_⟩
    rw [← List.cons_append, ← List.append_assoc]
    exact .preferred (.seq (exchange other ofOther) ends)
  · rcases accepts_choice.mp short with gap | leading
    · obtain ⟨groups, tail, rfl, among, ends⟩ := accepts_seq.mp gap
      obtain ⟨count, few, counted⟩ := accepts_between.mp among
      rw [Nat.add_comm] at counted
      obtain ⟨group, rest, rfl, ofGroup, exchange⟩ := accepts_groups counted
      refine Or.inr ⟨group, rest ++ tail, List.append_assoc .., ofGroup, fun other ofOther => ?_⟩
      rw [← List.cons_append, ← List.append_assoc]
      refine .other (.preferred (.seq (accepts_between.mpr ⟨count, few, ?_⟩) ends))
      rw [Nat.add_comm]
      exact exchange other ofOther
    · obtain ⟨rest, same, _⟩ := accepts_literal_seq.mp leading
      exact Or.inl ⟨rest, same⟩

/-- Every IPv6 address holds a colon. -/
theorem colon_mem_of_accepts_ipv6 {text : List Char} (accepted : ipv6.Accepts text) :
    ':' ∈ text := by
  rcases accepts_ipv6 accepted with ⟨rest, rfl⟩ | ⟨group, rest, rfl, _⟩
  · exact List.mem_cons_self
  · exact List.mem_append_right _ List.mem_cons_self

/-- Where an address begins with digits, a single zero may stand in their place. -/
theorem accepts_ipv6_zero {digits back : List Char} (ofDigits : Digits digits)
    (accepted : ipv6.Accepts (digits ++ back)) : ipv6.Accepts ('0' :: back) := by
  have uncolonned : ':' ∉ digits := by
    intro member
    have absurdity := ofDigits.2 ':' member
    cases absurdity
  rcases accepts_ipv6 accepted with ⟨rest, same⟩ | ⟨group, rest, same, ofGroup, exchange⟩
  · cases digits with
    | nil => exact absurd rfl ofDigits.1
    | cons character digits =>
        obtain ⟨rfl, _⟩ := List.cons.inj same
        exact absurd List.mem_cons_self uncolonned
  · obtain ⟨_, few, among⟩ := accepts_symbol_between.mp ofGroup
    rcases List.append_eq_append_iff.mp same with ⟨gap, rfl, rfl⟩ | ⟨gap, rfl, follows⟩
    · apply exchange ('0' :: gap)
      refine accepts_symbol_between.mpr ⟨?_, ?_, List.forall_mem_cons.mpr ⟨by decide, ?_⟩⟩
      · exact Nat.le_add_left 1 _
      · have some : 0 < digits.length := List.length_pos_iff.mpr ofDigits.1
        rw [List.length_append] at few
        rw [List.length_cons]
        omega
      · exact fun character member => among character (List.mem_append_right _ member)
    · cases gap with
      | nil =>
          obtain rfl : ':' :: rest = back := follows
          exact exchange ['0'] (by decide)
      | cons character gap =>
          obtain ⟨rfl, _⟩ := List.cons.inj follows
          exact absurd (List.mem_append_right _ List.mem_cons_self) uncolonned

/-! ## IPv4 addresses -/

/-- One to three digits. -/
def DigitGroup (text : List Char) : Prop :=
  Digits text ∧ text.length ≤ 3

instance (text : List Char) : Decidable (DigitGroup text) :=
  inferInstanceAs (Decidable (_ ∧ _))

/-- Four groups of digits with dots between them. -/
def DottedQuad (text : List Char) : Prop :=
  ∃ first second third fourth, DigitGroup first ∧ DigitGroup second ∧ DigitGroup third ∧
    DigitGroup fourth ∧
      text = first ++ '.' :: (second ++ '.' :: (third ++ '.' :: fourth))

/-- The digits and the dot. -/
def isQuadChar (character : Char) : Bool :=
  isDigit character || character == '.'

/-- A group of digits and the dot behind it. -/
def digitGroupDot : Pattern :=
  .seq digitGroup (literal '.')

private theorem accepts_digitGroup {text : List Char} :
    digitGroup.Accepts text ↔ DigitGroup text := by
  rw [digitGroup, accepts_symbol_between, DigitGroup, Digits, Nat.succ_le_iff, List.length_pos_iff]
  tauto

/-- A digit group and a dot, and nothing else. -/
theorem accepts_digitGroupDot {text : List Char} :
    digitGroupDot.Accepts text ↔ ∃ group, DigitGroup group ∧ text = group ++ ['.'] := by
  rw [digitGroupDot, accepts_seq]
  constructor
  · rintro ⟨group, dot, rfl, ofGroup, ofDot⟩
    rw [accepts_literal.mp ofDot]
    exact ⟨group, accepts_digitGroup.mp ofGroup, rfl⟩
  · rintro ⟨group, ofGroup, rfl⟩
    exact ⟨group, ['.'], rfl, accepts_digitGroup.mpr ofGroup, accepts_literal.mpr rfl⟩

/-- A digit group with its dot ends where the dot is. -/
theorem prefixFree_digitGroupDot : digitGroupDot.PrefixFree :=
  prefixFree_seq_literal (by decide)

/-- The pattern for IPv4 addresses accepts each dotted quad. -/
theorem DottedQuad.accepts {text : List Char} (quad : DottedQuad text) : ipv4.Accepts text := by
  obtain ⟨first, second, third, fourth, ofFirst, ofSecond, ofThird, ofFourth, rfl⟩ := quad
  have dotted {group : List Char} (ofGroup : DigitGroup group) :
      digitGroupDot.Accepts (group ++ ['.']) :=
    accepts_digitGroupDot.mpr ⟨group, ofGroup, rfl⟩
  have groups : (digitGroupDot.repeated 3).Accepts _ :=
    .seq (dotted ofFirst) (.seq (dotted ofSecond) (.seq (dotted ofThird) .nothing))
  have whole : ipv4.Accepts _ := .seq groups (.other (accepts_digitGroup.mpr ofFourth))
  simpa only [List.append_assoc, List.cons_append, List.nil_append, List.append_nil] using whole

private theorem literal_excludes_digitGroup : (literal 'x').Excludes digitGroup := by
  apply excludes_of_begins (by decide) (by decide)
  intro character begins beginsOther
  have first : character = 'x' := eq_of_beq begins.mentions
  have digit : isDigit character = true := begins_symbol (begins_between beginsOther)
  rw [first] at digit
  cases digit

/-- The preferred match of the pattern for IPv4 addresses is the longest. -/
theorem greedy_ipv4 : ipv4.Greedy := by
  have free := prefixFree_digitGroupDot.repeated 3
  apply free.greedy.seq _ (free.yieldsTo _)
  apply (prefixFree_symbol _).greedy.choice ((prefixFree_symbol _).greedy_between 1 2)
  exact literal_excludes_digitGroup

/-- An IPv4 address goes on only with a digit. -/
theorem isDigit_of_continues_ipv4 {character : Char} (continues : ipv4.Continues character) :
    isDigit character = true := by
  have last := continues_seq (prefixFree_digitGroupDot.repeated 3) continues
  rcases continues_choice literal_excludes_digitGroup last with letter | digits
  · exact absurd letter (prefixFree_symbol _ character)
  · exact begins_symbol (continues_between (prefixFree_symbol _) digits)

/-- All but the last character of an IPv4 address are digits and dots. -/
theorem isQuadChar_of_accepts_ipv4 {front more : List Char} {character : Char}
    (accepted : ipv4.Accepts (front ++ character :: more)) :
    ∀ other ∈ front, isQuadChar other = true := by
  obtain ⟨groups, last, same, among, ends⟩ := accepts_seq.mp accepted
  have inGroups (other : Char) (member : other ∈ groups) : isQuadChar other = true := by
    have mentioned := among.mentions other member
    simpa [Pattern.repeated, Pattern.mentions, digitGroupDot, digitGroup, between, atMost, literal,
      isQuadChar] using mentioned
  intro other member
  rcases accepts_choice.mp ends with letter | digits
  · rw [accepts_literal.mp letter] at same
    have shorter := congrArg List.dropLast same
    rw [List.dropLast_concat, List.dropLast_append_cons] at shorter
    exact inGroups other (shorter ▸ List.mem_append_left _ member)
  · have among : other ∈ groups ++ last := same ▸ List.mem_append_left _ member
    rcases List.mem_append.mp among with member | member
    · exact inGroups other member
    · rw [isQuadChar, (accepts_digitGroup.mp digits).1.2 other member, Bool.true_or]

end CallControl.Redaction
