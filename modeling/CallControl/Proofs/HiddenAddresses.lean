import Mathlib.Data.List.DropRight
import CallControl.Proofs.AddressShape
import CallControl.Proofs.RedactedLines

/-! # What redaction shows of an IPv4 address

The pass for IPv6 goes first. A dotted quad holds dots, which no IPv6 address mentions, so of
its four groups only the first can be taken by a match that begins in front of it, and only the
last by a match that ends behind it (`redactIpv6_quad`). Whether that happens does not depend on
the digits of the group: if it happens to any group of digits it happens to a single zero, as
the preferred match is the longest (`redactIpv6_append_digits`, `redactIpv6_digits_append`).

Where no group is taken the address becomes one marker whatever its digits are
(`redactAddresses_quad`). Where one is taken, fewer than four groups are left, and they stay
for all to see (`shows_second_of_not_keepsDigitAfter`, `shows_first_of_not_keepsDigitBefore`).
So an address is hidden exactly where no group can be taken, or where its line names a password
(`redact_hides_iff`).
-/

namespace CallControl.Redaction

open Pattern

variable {front back digits : List Char}

/-! ## Digits behind and in front of a text -/

/-- Digits behind a text change no match in it, unless a match takes a zero in their place. -/
theorem lengths_append_digits (ofDigits : Digits digits)
    (short : ¬ ipv6.Accepts (front ++ ['0'])) :
    ipv6.lengths (front ++ digits) = ipv6.lengths front := by
  apply lengths_append_of_le
  intro length member
  by_contra longer
  obtain ⟨more, rfl⟩ := Nat.exists_eq_add_of_lt (Nat.lt_of_not_le longer)
  obtain ⟨_, accepted⟩ := mem_lengths_iff.mp member
  rw [Nat.add_assoc, List.take_length_add_append] at accepted
  apply short (shortens_ipv6 front (digits.take (more + 1)) ⟨_, _⟩ accepted)
  · intro none
    rcases List.take_eq_nil_iff.mp none with absurdity | empty
    · cases absurdity
    · exact ofDigits.1 empty
  · exact fun character member => ofDigits.2 character (List.mem_of_mem_take member)

private theorem redactIpv6_digits (ofDigits : Digits digits) : redactIpv6 digits = digits := by
  have absent : ipv6.AbsentFrom digits := by
    intro part within accepted
    have absurdity := ofDigits.2 ':' (within.subset (colon_mem_of_accepts_ipv6 accepted))
    cases absurdity
  exact absent.replace_eq ipv6Marker

/-- Either the pass for IPv6 leaves all digits behind a text alone, or a marker takes them. -/
theorem redactIpv6_append_digits (front : List Char) :
    (∀ digits, Digits digits → redactIpv6 (front ++ digits) = redactIpv6 front ++ digits) ∨
      ∃ kept, redactIpv6 (front ++ ['0']) = kept ++ ipv6Marker := by
  have either (suffix : List Char) (_ : suffix ≠ []) :
      (∀ digits, Digits digits → ipv6.lengths (suffix ++ digits) = ipv6.lengths suffix) ∨
        ipv6.matchLength? (suffix ++ ['0']) = some (suffix ++ ['0']).length := by
    by_cases taken : ipv6.Accepts (suffix ++ ['0'])
    · exact Or.inr (greedy_ipv6.matchLength?_eq taken)
    · exact Or.inl fun digits ofDigits => lengths_append_digits ofDigits taken
  rcases replaceAfter_anywhere_append_or (by decide) either ipv6Marker true (Nat.zero_le _) with
    alone | taken
  · refine Or.inl fun digits ofDigits => (alone digits ofDigits).trans ?_
    exact congrArg (redactIpv6 front ++ ·) (redactIpv6_digits ofDigits)
  · exact Or.inr taken

/-- Either the pass for IPv6 leaves all digits in front of a text alone, or a marker takes
them. -/
theorem redactIpv6_digits_append (back : List Char) :
    (∀ digits, Digits digits → redactIpv6 (digits ++ back) = digits ++ redactIpv6 back) ∨
      ∃ rest, redactIpv6 ('0' :: back) = ipv6Marker ++ rest := by
  rcases Search.replaceAfter_cases ipv6.anywhere ipv6Marker true '0' back with
    ⟨length, _, taken⟩ | ⟨missed, _⟩
  · exact Or.inr ⟨_, taken⟩
  · refine Or.inl fun digits ofDigits => ?_
    obtain ⟨nonempty, among⟩ := ofDigits
    clear nonempty
    unfold redactIpv6 Search.replace
    induction digits with
    | nil => rfl
    | cons digit rest ih =>
        have missedHere : ipv6.anywhere.Misses true (digit :: (rest ++ back)) := by
          apply Search.misses_of_none
          refine matchLength?_eq_none_iff.mpr fun part begins accepted => ?_
          rw [← List.cons_append] at begins
          rcases List.prefix_or_prefix_of_prefix begins (List.prefix_append (digit :: rest) back)
            with inside | ⟨more, rfl⟩
          · have absurdity := among ':' (inside.subset (colon_mem_of_accepts_ipv6 accepted))
            cases absurdity
          · have zero := accepts_ipv6_zero ⟨List.cons_ne_nil _ _, among⟩ accepted
            have behind := (List.prefix_append_right_inj (digit :: rest)).mp begins
            have inFront : '0' :: more <+: '0' :: back := List.cons_prefix_cons.mpr ⟨rfl, behind⟩
            exact not_accepts_of_misses (by decide) missed inFront zero
        rw [List.cons_append, Search.replaceAfter_of_misses missedHere, replaceAfter_anywhere,
          ih fun character member => among character (List.mem_cons_of_mem _ member),
          List.cons_append]

/-- The pass for IPv6 leaves a digit behind a text alone. -/
def KeepsDigitAfter (front : List Char) : Prop :=
  redactIpv6 (front ++ ['0']) = redactIpv6 front ++ ['0']

/-- The pass for IPv6 leaves a digit in front of a text alone. -/
def KeepsDigitBefore (back : List Char) : Prop :=
  redactIpv6 ('0' :: back) = '0' :: redactIpv6 back

instance (front : List Char) : Decidable (KeepsDigitAfter front) :=
  inferInstanceAs (Decidable (_ = _))

instance (back : List Char) : Decidable (KeepsDigitBefore back) :=
  inferInstanceAs (Decidable (_ = _))

/-- What is left alone is so whatever the digits are. -/
theorem KeepsDigitAfter.redactIpv6_append (keeps : KeepsDigitAfter front)
    (ofDigits : Digits digits) : redactIpv6 (front ++ digits) = redactIpv6 front ++ digits := by
  rcases redactIpv6_append_digits front with alone | ⟨kept, taken⟩
  · exact alone digits ofDigits
  · have ends := congrArg List.getLast? (keeps.symm.trans taken)
    rw [List.getLast?_concat, List.getLast?_append] at ends
    cases ends

private theorem KeepsDigitBefore.redactIpv6_append (keeps : KeepsDigitBefore back)
    (ofDigits : Digits digits) : redactIpv6 (digits ++ back) = digits ++ redactIpv6 back := by
  rcases redactIpv6_digits_append back with alone | ⟨rest, taken⟩
  · exact alone digits ofDigits
  · have begins := congrArg List.head? (keeps.symm.trans taken)
    cases begins

/-! ## Groups with dots between them -/

variable {first second third fourth address : List Char}

/-- Of a dotted quad the pass for IPv6 can only take the first group, or the last. -/
theorem redactIpv6_quad (ofSecond : Digits second) (ofThird : Digits third)
    (front first fourth back : List Char) :
    redactIpv6 (front ++ (first ++ '.' :: (second ++ '.' :: (third ++ '.' :: fourth))) ++ back) =
      redactIpv6 (front ++ first) ++
        '.' :: (second ++ '.' :: (third ++ '.' :: redactIpv6 (fourth ++ back))) := by
  have dots (one other : List Char) :
      redactIpv6 (one ++ '.' :: other) = redactIpv6 one ++ '.' :: redactIpv6 other :=
    replace_anywhere_append_cons (by decide) ipv6Marker one other
  have shape : front ++ (first ++ '.' :: (second ++ '.' :: (third ++ '.' :: fourth))) ++ back =
      (front ++ first) ++ '.' :: (second ++ '.' :: (third ++ '.' :: (fourth ++ back))) := by
    simp only [List.append_assoc, List.cons_append]
  rw [shape, dots, dots, dots, redactIpv6_digits ofSecond, redactIpv6_digits ofThird]

/-- Where a text ends with neither a digit nor a dot, what follows is redacted on its own. -/
theorem redactIpv4_append (outside : ∀ character ∈ front.getLast?, isQuadChar character = false)
    (back : List Char) : redactIpv4 (front ++ back) = redactIpv4 front ++ redactIpv4 back := by
  apply replaceAfter_anywhere_append _ ipv4Marker true (Nat.zero_le _)
  intro suffix ends nonempty
  apply lengths_append_of_le
  intro length member
  by_contra longer
  obtain ⟨more, rfl⟩ := Nat.exists_eq_add_of_lt (Nat.lt_of_not_le longer)
  obtain ⟨within, accepted⟩ := mem_lengths_iff.mp member
  rw [Nat.add_assoc, List.take_length_add_append] at accepted
  cases back with
  | nil =>
      rw [List.append_nil] at within
      omega
  | cons character back =>
      rw [List.take_succ_cons] at accepted
      obtain ⟨before, rfl⟩ := ends
      have quad := isQuadChar_of_accepts_ipv4 accepted _ (List.getLast_mem nonempty)
      rw [outside] at quad
      · cases quad
      · rw [List.getLast?_append_of_ne_nil before nonempty]
        exact List.getLast?_eq_some_getLast nonempty

/-- An address becomes the marker where no further digit follows. -/
theorem redactIpv4_quad (quad : DottedQuad address)
    (outside : ∀ character ∈ back.head?, isQuadChar character = false) :
    redactIpv4 (address ++ back) = ipv4Marker ++ redactIpv4 back := by
  have accepted := quad.accepts
  apply replace_anywhere_of_matchLength?
  · rintro rfl
    revert accepted
    decide
  · apply greedy_ipv4.matchLength?_append accepted
    intro character member continues
    have digit := isDigit_of_continues_ipv4 continues
    have other := outside character member
    rw [isQuadChar, digit] at other
    cases other

private theorem redactIpv6_ends_outside
    (outside : ∀ character ∈ front.getLast?, isQuadChar character = false) :
    ∀ character ∈ (redactIpv6 front).getLast?, isQuadChar character = false := by
  cases front using List.reverseRecOn with
  | nil => exact outside
  | append_singleton before last =>
      intro character member
      rcases Search.getLast?_replaceAfter ipv6.anywhere "[REDACTED ipv6".toList ']' true last
        (Nat.zero_le before.length) with same | same
      · have ending : last = character := Option.some.inj (same.symm.trans member)
        rw [← ending]
        exact outside last List.getLast?_concat
      · have ending : ']' = character := Option.some.inj (same.symm.trans member)
        rw [← ending]
        decide

private theorem redactIpv6_begins_outside
    (outside : ∀ character ∈ back.head?, isQuadChar character = false) :
    ∀ character ∈ (redactIpv6 back).head?, isQuadChar character = false := by
  intro character member
  rcases Search.head?_replace ipv6.anywhere '[' "REDACTED ipv6]".toList back with same | same
  · exact outside character (same.symm.trans member)
  · have beginning : '[' = character := Option.some.inj (same.symm.trans member)
    rw [← beginning]
    decide

/-! ## What the passes for addresses show -/

/-- A text with the addresses of both families hidden. -/
def redactAddresses (text : List Char) : List Char :=
  redactIpv4 (redactIpv6 text)

/-- Where the pass for IPv6 leaves the digits of an address alone the address becomes one
marker. -/
theorem redactAddresses_quad (keepsAfter : KeepsDigitAfter front)
    (keepsBefore : KeepsDigitBefore back)
    (outside : ∀ character ∈ front.getLast?, isQuadChar character = false)
    (outsideBack : ∀ character ∈ back.head?, isQuadChar character = false)
    (quad : DottedQuad address) :
    redactAddresses (front ++ address ++ back) =
      redactAddresses front ++ (ipv4Marker ++ redactAddresses back) := by
  have whole := quad
  obtain ⟨first, second, third, fourth, ofFirst, ofSecond, ofThird, ofFourth, rfl⟩ := quad
  unfold redactAddresses
  rw [redactIpv6_quad ofSecond.1 ofThird.1, keepsAfter.redactIpv6_append ofFirst.1,
    keepsBefore.redactIpv6_append ofFourth.1, ← redactIpv4_quad whole,
    ← redactIpv4_append (redactIpv6_ends_outside outside)]
  · simp only [List.append_assoc, List.cons_append]
  · exact redactIpv6_begins_outside outsideBack

/-- An address whose groups are these single digits. -/
theorem dottedQuad_digits {one two three four : Char}
    (digits : [one, two, three, four].all isDigit = true) :
    DottedQuad [one, '.', two, '.', three, '.', four] := by
  have group (digit : Char) (member : digit ∈ [one, two, three, four]) : DigitGroup [digit] := by
    refine ⟨⟨List.cons_ne_nil _ _, fun character among => ?_⟩, Nat.le_of_ble_eq_true rfl⟩
    rw [List.mem_singleton.mp among]
    exact List.all_eq_true.mp digits digit member
  exact ⟨[one], [two], [three], [four], group one (by simp), group two (by simp),
    group three (by simp), group four (by simp), rfl⟩

/-- No match begins with a character that the pattern cannot begin with. -/
theorem misses_of_not_begins {pattern : Pattern} {character : Char}
    (consumes : ¬ pattern.Accepts []) (unbegun : ¬ pattern.Begins character) (rest : List Char) :
    pattern.anywhere.Misses true (character :: rest) := by
  apply Search.misses_of_none
  refine matchLength?_eq_none_iff.mpr fun part begins accepted => ?_
  rcases List.prefix_cons_iff.mp begins with rfl | ⟨more, rfl, _⟩
  · exact consumes accepted
  · exact unbegun ⟨more, accepted⟩

private theorem not_begins_ipv4 : ¬ ipv4.Begins '.' := by
  intro begins
  rcases begins_seq begins with begins | ⟨empty, _⟩
  · rcases begins_seq (begins_repeated begins) with begins | ⟨empty, _⟩
    · have digit : isDigit '.' = true := begins_symbol (begins_between begins)
      cases digit
    · revert empty
      decide
  · revert empty
    decide

/-- Two groups are no address when what follows is not a third one. -/
theorem ipv4_misses_two_groups {front rest : List Char}
    (groups : (digitGroupDot.repeated 2).Accepts front)
    (ends : ∀ group more, Digits group → rest ≠ group ++ '.' :: more) :
    ipv4.matchLength? (front ++ rest) = none := by
  refine matchLength?_eq_none_iff.mpr ?_
  rintro part ⟨behind, whole⟩ accepted
  obtain ⟨three, last, rfl, among, _⟩ := accepts_seq.mp accepted
  have split : (digitGroupDot.repeated (2 + 1)).Accepts three := among
  obtain ⟨two, third, rfl, amongTwo, amongThird⟩ := accepts_repeated_add.mp split
  obtain ⟨dotted, none, rfl, ofThird, ofNone⟩ := accepts_seq.mp amongThird
  obtain ⟨group, ofGroup, rfl⟩ := accepts_digitGroupDot.mp ofThird
  simp only [List.append_assoc] at whole
  obtain ⟨_, same⟩ := (prefixFree_digitGroupDot.repeated 2).append_inj amongTwo groups whole
  exact ends group _ ofGroup.1 same.symm

/-- What is left of an address behind its first group shows the second one. -/
theorem redactIpv4_two_groups {one two : Char} {rest : List Char}
    (groups : (digitGroupDot.repeated 2).Accepts [one, '.', two, '.'])
    (ends : ∀ group more, Digits group → rest ≠ group ++ '.' :: more) :
    ∃ more, redactIpv4 ('.' :: one :: '.' :: two :: '.' :: rest) = '.' :: one :: more := by
  have missed : ipv4.anywhere.Misses true (one :: '.' :: two :: '.' :: rest) :=
    Search.misses_of_none (ipv4_misses_two_groups groups ends)
  unfold redactIpv4 Search.replace
  rw [Search.replaceAfter_of_misses (misses_of_not_begins (by decide) not_begins_ipv4 _),
    replaceAfter_anywhere, Search.replaceAfter_of_misses missed]
  exact ⟨_, rfl⟩

/-- Behind a digit that no further digit or dot follows there is no dot. -/
theorem redactIpv6_cons_ne_group {digit : Char} {group more : List Char}
    (outside : ∀ character ∈ back.head?, isQuadChar character = false) (ofGroup : Digits group) :
    redactIpv6 (digit :: back) ≠ group ++ '.' :: more := by
  intro same
  cases group with
  | nil => exact ofGroup.1 rfl
  | cons character group =>
      obtain ⟨ofCharacter, among⟩ := List.forall_mem_cons.mp ofGroup.2
      rcases Search.replaceAfter_cases ipv6.anywhere ipv6Marker true digit back with
        ⟨_, _, replaced⟩ | ⟨_, kept⟩
      · obtain ⟨rfl, _⟩ := List.cons.inj (replaced.symm.trans same)
        cases ofCharacter
      · obtain ⟨_, follows⟩ := List.cons.inj (kept.symm.trans same)
        rw [replaceAfter_anywhere] at follows
        have begins := redactIpv6_begins_outside outside
        unfold redactIpv6 Search.replace at begins
        rw [follows] at begins
        cases group with
        | nil =>
            have absurdity := begins '.' rfl
            cases absurdity
        | cons next group =>
            have absurdity := begins next rfl
            rw [isQuadChar, among next List.mem_cons_self] at absurdity
            cases absurdity

/-- Where the pass for IPv6 takes the first group of an address, redaction shows the second
one. -/
theorem shows_second_of_not_keepsDigitAfter (taken : ¬ KeepsDigitAfter front)
    (outside : ∀ character ∈ back.head?, isQuadChar character = false) :
    redactAddresses (front ++ ['0', '.', '1', '.', '1', '.', '1'] ++ back) ≠
      redactAddresses (front ++ ['0', '.', '2', '.', '1', '.', '1'] ++ back) := by
  have one : Digits ['1'] := by decide
  rcases redactIpv6_append_digits front with alone | ⟨kept, ends⟩
  · exact absurd (alone ['0'] (by decide)) taken
  · have shape (digit : Char) (ofDigit : Digits [digit]) :
        redactAddresses (front ++ ['0', '.', digit, '.', '1', '.', '1'] ++ back) =
          redactIpv4 (kept ++ ipv6Marker) ++
            redactIpv4 ('.' :: digit :: '.' :: '1' :: '.' :: redactIpv6 ('1' :: back)) := by
      have split := redactIpv6_quad ofDigit one front ['0'] ['1'] back
      rw [ends] at split
      refine (congrArg redactIpv4 split).trans (redactIpv4_append ?_ _)
      intro character member
      rw [List.getLast?_append] at member
      cases member
      decide
    intro same
    rw [shape '1' one, shape '2' (by decide)] at same
    have shown := List.append_cancel_left same
    have next (group more : List Char) (ofGroup : Digits group) :
        redactIpv6 ('1' :: back) ≠ group ++ '.' :: more :=
      redactIpv6_cons_ne_group outside ofGroup
    have ones : (digitGroupDot.repeated 2).Accepts ['1', '.', '1', '.'] := by decide
    have twos : (digitGroupDot.repeated 2).Accepts ['2', '.', '1', '.'] := by decide
    obtain ⟨_, ones⟩ := redactIpv4_two_groups ones next
    obtain ⟨_, twos⟩ := redactIpv4_two_groups twos next
    rw [ones, twos] at shown
    cases shown

/-- Where the pass for IPv6 takes the last group of an address, redaction shows the first
one. -/
theorem shows_first_of_not_keepsDigitBefore (keeps : KeepsDigitAfter front)
    (taken : ¬ KeepsDigitBefore back)
    (outside : ∀ character ∈ front.getLast?, isQuadChar character = false) :
    redactAddresses (front ++ ['1', '.', '1', '.', '1', '.', '0'] ++ back) ≠
      redactAddresses (front ++ ['2', '.', '1', '.', '1', '.', '0'] ++ back) := by
  have one : Digits ['1'] := by decide
  rcases redactIpv6_digits_append back with alone | ⟨rest, begins⟩
  · exact absurd (alone ['0'] (by decide)) taken
  · have shape (digit : Char) (ofDigit : Digits [digit]) :
        redactAddresses (front ++ [digit, '.', '1', '.', '1', '.', '0'] ++ back) =
          redactIpv4 (redactIpv6 front) ++ (redactIpv4 [digit, '.', '1', '.', '1', '.'] ++
            '[' :: redactIpv4 ("REDACTED ipv6]".toList ++ rest)) := by
      have zero : redactIpv6 (['0'] ++ back) = ipv6Marker ++ rest := begins
      have split : redactIpv6 (front ++ [digit, '.', '1', '.', '1', '.', '0'] ++ back) =
          redactIpv6 front ++ ([digit, '.', '1', '.', '1', '.'] ++ (ipv6Marker ++ rest)) := by
        refine (redactIpv6_quad one one front [digit] ['0'] back).trans ?_
        rw [keeps.redactIpv6_append ofDigit, zero, List.append_assoc]
        rfl
      refine (congrArg redactIpv4 split).trans ?_
      rw [redactIpv4_append (redactIpv6_ends_outside outside)]
      refine congrArg (redactIpv4 (redactIpv6 front) ++ ·) ?_
      exact replace_anywhere_append_cons (by decide) ipv4Marker [digit, '.', '1', '.', '1', '.'] _
    intro same
    rw [shape '1' one, shape '2' (by decide)] at same
    have shown := List.append_cancel_right (List.append_cancel_left same)
    revert shown
    decide

/-- The text around an address shows nothing of it exactly where the pass for IPv6 takes no
part of it. -/
theorem redactAddresses_hides_iff
    (outside : ∀ character ∈ front.getLast?, isQuadChar character = false)
    (outsideBack : ∀ character ∈ back.head?, isQuadChar character = false) :
    (∀ one other, DottedQuad one → DottedQuad other →
      redactAddresses (front ++ one ++ back) = redactAddresses (front ++ other ++ back)) ↔
      KeepsDigitAfter front ∧ KeepsDigitBefore back := by
  constructor
  · intro hides
    have keeps : KeepsDigitAfter front := by
      by_contra taken
      apply shows_second_of_not_keepsDigitAfter taken outsideBack
      exact hides _ _ (dottedQuad_digits (by decide)) (dottedQuad_digits (by decide))
    refine ⟨keeps, ?_⟩
    by_contra taken
    apply shows_first_of_not_keepsDigitBefore keeps taken outside
    exact hides _ _ (dottedQuad_digits (by decide)) (dottedQuad_digits (by decide))
  · rintro ⟨keepsAfter, keepsBefore⟩ one other ofOne ofOther
    rw [redactAddresses_quad keepsAfter keepsBefore outside outsideBack ofOne,
      redactAddresses_quad keepsAfter keepsBefore outside outsideBack ofOther]

/-! ## The line of the address -/

/-- Redaction shows nothing of a dotted quad between two texts. -/
def HidesAddress (front back : List Char) : Prop :=
  ∀ one other, DottedQuad one → DottedQuad other →
    redactChars (front ++ one ++ back) = redactChars (front ++ other ++ back)

/-- What stands behind the last line feed of a text. -/
def lastLine (text : List Char) : List Char :=
  text.rtakeWhile (· != '\n')

/-- What stands in front of the first line feed of a text. -/
def firstLine (text : List Char) : List Char :=
  text.takeWhile (· != '\n')

variable {line : List Char}

private theorem lastLine_of_whole (whole : '\n' ∉ line) : lastLine line = line := by
  refine List.rtakeWhile_eq_self_iff.mpr fun character member => bne_iff_ne.mpr ?_
  rintro rfl
  exact whole member

private theorem lastLine_append_cons (front back : List Char) :
    lastLine (front ++ '\n' :: back) = lastLine back := by
  induction back using List.reverseRecOn with
  | nil => exact List.rtakeWhile_concat_neg _ _ _ (by decide)
  | append_singleton before last ih =>
      unfold lastLine at ih ⊢
      rw [← List.cons_append, ← List.append_assoc, List.rtakeWhile_concat, List.rtakeWhile_concat,
        ih]

private theorem firstLine_of_whole (whole : '\n' ∉ line) : firstLine line = line := by
  refine List.takeWhile_eq_self_iff.mpr fun character member => bne_iff_ne.mpr ?_
  rintro rfl
  exact whole member

private theorem firstLine_append_cons (whole : '\n' ∉ line) (rest : List Char) :
    firstLine (line ++ '\n' :: rest) = line := by
  have ending : firstLine ('\n' :: rest) = [] := rfl
  have inLine : ∀ character ∈ line, (character != '\n') = true := by
    intro character member
    rw [bne_iff_ne]
    rintro rfl
    exact whole member
  unfold firstLine at ending ⊢
  rw [List.takeWhile_append_of_pos inLine, ending, List.append_nil]

/-- Lines in front of that of the address do not matter. -/
theorem hidesAddress_append_cons (line front back : List Char) :
    HidesAddress (line ++ '\n' :: front) back ↔ HidesAddress front back := by
  have same (address : List Char) : redactChars (line ++ '\n' :: front ++ address ++ back) =
      redactChars line ++ '\n' :: redactChars (front ++ address ++ back) := by
    rw [List.append_assoc, List.append_assoc, List.cons_append, redactChars_append_cons,
      List.append_assoc]
  refine forall_congr' fun one => forall_congr' fun other => forall_congr' fun _ =>
    forall_congr' fun _ => ?_
  rw [same, same, List.append_cancel_left_eq, List.cons.injEq, and_iff_right rfl]

/-- Lines behind that of the address do not matter. -/
theorem hidesAddress_cons (front line rest : List Char) :
    HidesAddress front (line ++ '\n' :: rest) ↔ HidesAddress front line := by
  have same (address : List Char) : redactChars (front ++ address ++ (line ++ '\n' :: rest)) =
      redactChars (front ++ address ++ line) ++ '\n' :: redactChars rest := by
    rw [← List.append_assoc, redactChars_append_cons]
  refine forall_congr' fun one => forall_congr' fun other => forall_congr' fun _ =>
    forall_congr' fun _ => ?_
  rw [same, same, List.append_cancel_right_eq]

private theorem redactIpv6_append_cons (front back : List Char) :
    redactIpv6 (front ++ '\n' :: back) = redactIpv6 front ++ '\n' :: redactIpv6 back :=
  replace_anywhere_append_cons (by decide) ipv6Marker front back

private theorem keepsDigitAfter_append_cons (line front : List Char) :
    KeepsDigitAfter (line ++ '\n' :: front) ↔ KeepsDigitAfter front := by
  unfold KeepsDigitAfter
  rw [List.append_assoc, List.cons_append, redactIpv6_append_cons, redactIpv6_append_cons,
    List.append_assoc, List.cons_append, List.append_cancel_left_eq, List.cons.injEq,
    and_iff_right rfl]

private theorem keepsDigitBefore_append_cons (line rest : List Char) :
    KeepsDigitBefore (line ++ '\n' :: rest) ↔ KeepsDigitBefore line := by
  unfold KeepsDigitBefore
  rw [← List.cons_append, redactIpv6_append_cons, redactIpv6_append_cons, ← List.cons_append,
    List.append_cancel_right_eq]

/-- A part that shares no character with what stands in the middle lies on one side of it. -/
theorem infix_of_disjoint {part front middle back : List Char} (nonempty : middle ≠ [])
    (disjoint : ∀ character ∈ middle, character ∉ part)
    (found : part <:+: front ++ middle ++ back) :
    part <:+: front ∨ part <:+: back := by
  induction middle generalizing front with
  | nil => exact absurd rfl nonempty
  | cons character rest ih =>
      obtain ⟨lacking, disjoint⟩ := List.forall_mem_cons.mp disjoint
      rw [List.append_assoc, List.cons_append] at found
      rcases infix_of_not_mem lacking found with inside | inside
      · exact Or.inl inside
      · by_cases last : rest = []
        · rw [last, List.nil_append] at inside
          exact Or.inr inside
        · rcases ih last disjoint (show part <:+: [] ++ rest ++ back from inside) with
            inside | inside
          · rw [List.infix_nil.mp inside]
            exact Or.inl List.nil_infix
          · exact Or.inr inside

private theorem DottedQuad.isQuadChar (quad : DottedQuad address) :
    address ≠ [] ∧ ∀ character ∈ address, isQuadChar character = true := by
  obtain ⟨first, second, third, fourth, ofFirst, ofSecond, ofThird, ofFourth, rfl⟩ := quad
  refine ⟨List.append_ne_nil_of_right_ne_nil _ (List.cons_ne_nil _ _), fun character member => ?_⟩
  have group {group : List Char} (ofGroup : DigitGroup group) (member : character ∈ group) :
      CallControl.Redaction.isQuadChar character = true := by
    rw [CallControl.Redaction.isQuadChar, ofGroup.1.2 character member, Bool.true_or]
  simp only [List.mem_append, List.mem_cons] at member
  rcases member with member | rfl | member | rfl | member | rfl | member
  · exact group ofFirst member
  · rfl
  · exact group ofSecond member
  · rfl
  · exact group ofThird member
  · rfl
  · exact group ofFourth member

/-- An address makes no line name a password. -/
theorem namesPassword_quad (quad : DottedQuad address) :
    NamesPassword (front ++ address ++ back) ↔ NamesPassword front ∨ NamesPassword back := by
  obtain ⟨nonempty, among⟩ := quad.isQuadChar
  constructor
  · apply infix_of_disjoint nonempty
    intro character member named
    have apart : (passwordName.all fun other => !isQuadChar other) = true := by decide
    have other := List.all_eq_true.mp apart character named
    rw [among character member] at other
    cases other
  · rintro (named | named)
    · exact named.trans ⟨[], address ++ back, by rw [List.nil_append, List.append_assoc]⟩
    · exact named.trans (List.suffix_append (front ++ address) back).isInfix

/-- In a line an address is hidden where a password is named, and otherwise where the pass for
IPv6 takes no part of it. -/
theorem hidesAddress_iff_of_whole (wholeFront : '\n' ∉ front) (wholeBack : '\n' ∉ back)
    (outside : ∀ character ∈ front.getLast?, isQuadChar character = false)
    (outsideBack : ∀ character ∈ back.head?, isQuadChar character = false) :
    HidesAddress front back ↔
      NamesPassword front ∨ NamesPassword back ∨ KeepsDigitAfter front ∧ KeepsDigitBefore back := by
  have whole {address : List Char} (quad : DottedQuad address) :
      '\n' ∉ front ++ address ++ back := by
    rw [List.mem_append, List.mem_append, not_or, not_or]
    refine ⟨⟨wholeFront, fun member => ?_⟩, wholeBack⟩
    have absurdity := quad.isQuadChar.2 '\n' member
    cases absurdity
  rw [← or_assoc]
  by_cases named : NamesPassword front ∨ NamesPassword back
  · refine iff_of_true (fun one other ofOne ofOther => ?_) (Or.inl named)
    rw [redactChars_of_namesPassword (whole ofOne) ((namesPassword_quad ofOne).mpr named),
      redactChars_of_namesPassword (whole ofOther) ((namesPassword_quad ofOther).mpr named)]
  · rw [or_iff_right named, ← redactAddresses_hides_iff outside outsideBack]
    have unnamed {address : List Char} (quad : DottedQuad address) :
        redactChars (front ++ address ++ back) = redactAddresses (front ++ address ++ back) := by
      unfold redactChars
      rw [redactPasswords_of_unnamed (whole quad) (named ∘ (namesPassword_quad quad).mp)]
      rfl
    refine forall_congr' fun one => forall_congr' fun other => forall_congr' fun ofOne =>
      forall_congr' fun ofOther => ?_
    rw [unnamed ofOne, unnamed ofOther]

private theorem hidesAddress_iff
    (outside : ∀ character ∈ front.getLast?, isQuadChar character = false)
    (outsideBack : ∀ character ∈ back.head?, isQuadChar character = false) :
    HidesAddress front back ↔
      NamesPassword (lastLine front) ∨ NamesPassword (firstLine back) ∨
        KeepsDigitAfter front ∧ KeepsDigitBefore back := by
  induction front using line_induction with
  | last line whole =>
      rw [lastLine_of_whole whole]
      by_cases feeds : '\n' ∈ back
      · obtain ⟨first, rest, rfl, wholeFirst⟩ := List.eq_append_cons_of_mem feeds
        have outsideFirst : ∀ character ∈ first.head?, isQuadChar character = false := by
          cases first with
          | nil => exact fun character member => absurd member (Option.not_mem_none character)
          | cons other more => exact outsideBack
        rw [hidesAddress_cons, firstLine_append_cons wholeFirst, keepsDigitBefore_append_cons]
        exact hidesAddress_iff_of_whole whole wholeFirst outside outsideFirst
      · rw [firstLine_of_whole feeds]
        exact hidesAddress_iff_of_whole whole feeds outside outsideBack
  | more line rest whole ih =>
      rw [hidesAddress_append_cons, lastLine_append_cons, keepsDigitAfter_append_cons]
      apply ih
      intro character member
      apply outside character
      rw [List.getLast?_append, List.getLast?_cons, Option.mem_def.mp member]
      rfl

/-- An address is hidden between two characters that no address has. -/
theorem hidesAddress_between {before behind : Char} (front back : List Char)
    (unmentioned : ∀ character ∈ [before, behind],
      ipv6.mentions character = false ∧ isQuadChar character = false) :
    HidesAddress (front ++ [before]) (behind :: back) := by
  obtain ⟨unmentionedBefore, outside⟩ := unmentioned before List.mem_cons_self
  obtain ⟨unmentionedBehind, outsideBehind⟩ :=
    unmentioned behind (List.mem_cons_of_mem _ List.mem_cons_self)
  have keepsAfter : KeepsDigitAfter (front ++ [before]) := by
    have alone (back : List Char) : redactIpv6 (front ++ before :: back) =
        redactIpv6 front ++ before :: redactIpv6 back :=
      replace_anywhere_append_cons unmentionedBefore ipv6Marker front back
    unfold KeepsDigitAfter
    rw [List.append_assoc, List.singleton_append, alone, alone, List.append_assoc]
    rfl
  have keepsBefore : KeepsDigitBefore (behind :: back) := by
    have alone (front : List Char) : redactIpv6 (front ++ behind :: back) =
        redactIpv6 front ++ behind :: redactIpv6 back :=
      replace_anywhere_append_cons unmentionedBehind ipv6Marker front back
    exact (alone ['0']).trans (congrArg ('0' :: ·) (alone []).symm)
  refine (hidesAddress_iff ?_ ?_).mpr (Or.inr (Or.inr ⟨keepsAfter, keepsBefore⟩))
  · intro character member
    rw [List.getLast?_concat] at member
    rw [← Option.some.inj member]
    exact outside
  · intro character member
    rw [← Option.some.inj member]
    exact outsideBehind

/-- Redaction shows nothing of an IPv4 address that stands between two texts exactly where its
line names a password, or where the pass for IPv6 leaves a digit in its place alone on either
side. -/
theorem redact_hides_iff (front back : String)
    (outside : ∀ character ∈ front.toList.getLast?, isQuadChar character = false)
    (outsideBack : ∀ character ∈ back.toList.head?, isQuadChar character = false) :
    (∀ one other : String, DottedQuad one.toList → DottedQuad other.toList →
      redact (front ++ one ++ back) = redact (front ++ other ++ back)) ↔
      NamesPassword (lastLine front.toList) ∨ NamesPassword (firstLine back.toList) ∨
        KeepsDigitAfter front.toList ∧ KeepsDigitBefore back.toList := by
  rw [← hidesAddress_iff outside outsideBack]
  unfold redact HidesAddress
  simp only [String.toList_append, String.ofList_inj]
  constructor
  · intro hides one other ofOne ofOther
    have same := hides (String.ofList one) (String.ofList other)
    rw [String.toList_ofList, String.toList_ofList] at same
    exact same ofOne ofOther
  · intro hides one other ofOne ofOther
    exact hides one.toList other.toList ofOne ofOther

/-- The address in the text of a candidate is hidden; one behind the prefix of a mapped IPv6
address is not. -/
theorem redact_hides_candidate :
    redact ("candidate:1 1 udp 2122 " ++ "192.168.50.12" ++ " 5000 typ host") =
        redact ("candidate:1 1 udp 2122 " ++ "10.0.0.1" ++ " 5000 typ host") ∧
      ¬ ∀ one other : String, DottedQuad one.toList → DottedQuad other.toList →
        redact ("::ffff:" ++ one ++ "") = redact ("::ffff:" ++ other ++ "") := by
  refine ⟨(redact_hides_iff _ _ (by rintro _ ⟨⟩; rfl) (by rintro _ ⟨⟩; rfl)).mpr ?_ _ _ ?_ ?_,
    fun hides => ?_⟩
  · exact Or.inr (Or.inr ⟨by decide, by decide⟩)
  · exact ⟨['1', '9', '2'], ['1', '6', '8'], ['5', '0'], ['1', '2'], by decide, by decide,
      by decide, by decide, rfl⟩
  · exact ⟨['1', '0'], ['0'], ['0'], ['1'], by decide, by decide, by decide, by decide, rfl⟩
  · revert hides
    rw [redact_hides_iff _ _ (by rintro _ ⟨⟩; rfl) (by rintro _ ⟨⟩)]
    decide

/-- An IPv6 address right in front of an IPv4 address takes its first group along. -/
theorem address_shown_behind_ipv6 :
    ¬ ∀ front back one other : String,
      (∀ character ∈ front.toList.getLast?, isQuadChar character = false) →
      (∀ character ∈ back.toList.head?, isQuadChar character = false) →
      DottedQuad one.toList → DottedQuad other.toList →
        redact (front ++ one ++ back) = redact (front ++ other ++ back) := by
  intro hides
  have same := hides "::aaa" "" "1.2.3.4" "12.2.3.4" (by rintro _ ⟨⟩; rfl) (by rintro _ ⟨⟩)
    ⟨['1'], ['2'], ['3'], ['4'], by decide, by decide, by decide, by decide, rfl⟩
    ⟨['1', '2'], ['2'], ['3'], ['4'], by decide, by decide, by decide, by decide, rfl⟩
  revert same
  decide

end CallControl.Redaction
