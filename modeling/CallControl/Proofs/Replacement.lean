import CallControl.Proofs.PatternLanguage

/-! # Replacing what is found

Replacement keeps the characters at which nothing is found and puts markers for the rest
(`Search.replaceAfter_cases`). Where a search takes a character for the end of the text, as
patterns do with characters that they do not mention, the texts on both sides of it are
replaced on their own (`Search.replaceAfter_append_cons`).

A marker with a fence at either end keeps apart what stands around it: a part of the result
that contains no fence lies inside a marker, or it is a part of the text at whose beginning
nothing was found (`Search.infix_replaceAfter`). So a pattern that does not mention the
fences is absent from the result when it was replaced (`Pattern.absentFrom_replace_self`), and stays
absent when something else is replaced (`Pattern.AbsentFrom.replace`).
-/

namespace CallControl.Redaction

/-- A part that lacks a character does not reach across it. -/
theorem infix_of_not_mem {part front back : List Char} {character : Char}
    (lacking : character ∉ part) (found : part <:+: front ++ character :: back) :
    part <:+: front ∨ part <:+: back := by
  rcases List.infix_append_iff.mp found with inside | inside | ⟨before, after, rfl, ends, begins⟩
  · exact Or.inl inside
  · rcases List.infix_cons_iff.mp inside with begins | inside
    · rcases List.prefix_cons_iff.mp begins with rfl | ⟨rest, rfl, _⟩
      · exact Or.inl List.nil_infix
      · exact absurd List.mem_cons_self lacking
    · exact Or.inr inside
  · rcases List.prefix_cons_iff.mp begins with rfl | ⟨rest, rfl, _⟩
    · rw [List.append_nil]
      exact Or.inl ends.isInfix
    · exact absurd (List.mem_append_right _ List.mem_cons_self) lacking

namespace Search

variable {search : Search} {marker text front back part : List Char} {character : Char}
  {starts : Bool} {covered : Nat}

/-- Nothing is found at the front of a text. -/
def Misses (search : Search) (starts : Bool) (text : List Char) : Prop :=
  ∀ length, search starts text ≠ some (length + 1)

/-- Where nothing is found the search misses. -/
theorem misses_of_none (nothing : search starts text = none) : search.Misses starts text := by
  intro length found
  rw [nothing] at found
  cases found

/-- Either a match begins at a character, or the character is kept. -/
theorem replaceAfter_cases (search : Search) (marker : List Char) (starts : Bool)
    (character : Char) (rest : List Char) :
    (∃ length, search starts (character :: rest) = some (length + 1) ∧
      search.replaceAfter marker starts 0 (character :: rest) =
        marker ++ search.replaceAfter marker (character == '\n') length rest) ∨
    (search.Misses starts (character :: rest) ∧
      search.replaceAfter marker starts 0 (character :: rest) =
        character :: search.replaceAfter marker (character == '\n') 0 rest) := by
  rw [replaceAfter]
  split
  · rename_i length found
    exact Or.inl ⟨length, found, rfl⟩
  · rename_i missed
    exact Or.inr ⟨missed, rfl⟩

@[simp] theorem replaceAfter_nil (search : Search) (marker : List Char) (starts : Bool)
    (covered : Nat) : search.replaceAfter marker starts covered [] = [] := by
  unfold replaceAfter
  rfl

@[simp] theorem replaceAfter_succ (search : Search) (marker : List Char) (starts : Bool)
    (covered : Nat) (character : Char) (rest : List Char) :
    search.replaceAfter marker starts (covered + 1) (character :: rest) =
      search.replaceAfter marker (character == '\n') covered rest := by
  rw [replaceAfter]

/-- A character at which the search misses is kept. -/
theorem replaceAfter_of_misses (missed : search.Misses starts (character :: text)) :
    search.replaceAfter marker starts 0 (character :: text) =
      character :: search.replaceAfter marker (character == '\n') 0 text := by
  rcases replaceAfter_cases search marker starts character text with ⟨length, found, _⟩ | ⟨_, same⟩
  · exact absurd found (missed length)
  · exact same

/-- What is found is replaced by the marker. -/
theorem replaceAfter_of_found {length : Nat}
    (found : search starts (character :: text) = some (length + 1)) :
    search.replaceAfter marker starts 0 (character :: text) =
      marker ++ search.replaceAfter marker (character == '\n') length text := by
  rcases replaceAfter_cases search marker starts character text with
    ⟨other, again, same⟩ | ⟨missed, _⟩
  · rw [found] at again
    cases again
    exact same
  · exact absurd found (missed length)

/-- Nothing is left of a text that a match covers. -/
theorem replaceAfter_of_covered (enough : text.length ≤ covered) :
    search.replaceAfter marker starts covered text = [] := by
  induction text generalizing starts covered with
  | nil => exact replaceAfter_nil ..
  | cons character rest ih =>
      rw [List.length_cons] at enough
      obtain ⟨less, rfl⟩ := Nat.exists_eq_add_of_le' (Nat.le_trans (Nat.le_add_left 1 _) enough)
      rw [replaceAfter_succ]
      exact ih (Nat.le_of_succ_le_succ enough)

/-- Everything in the result comes from the text or from a marker. -/
theorem mem_replaceAfter (member : character ∈ search.replaceAfter marker starts covered text) :
    character ∈ marker ∨ character ∈ text := by
  induction text generalizing starts covered with
  | nil =>
      rw [replaceAfter_nil] at member
      cases member
  | cons first rest ih =>
      cases covered with
      | succ covered =>
          rw [replaceAfter_succ] at member
          exact (ih member).imp_right (List.mem_cons_of_mem _)
      | zero =>
          rcases replaceAfter_cases search marker starts first rest with
            ⟨length, _, same⟩ | ⟨_, same⟩
          · rw [same] at member
            rcases List.mem_append.mp member with member | member
            · exact Or.inl member
            · exact (ih member).imp_right (List.mem_cons_of_mem _)
          · rw [same] at member
            rcases List.mem_cons.mp member with rfl | member
            · exact Or.inr List.mem_cons_self
            · exact (ih member).imp_right (List.mem_cons_of_mem _)

/-- The result begins as the text does, or with a marker. -/
theorem head?_replace (search : Search) (opening : Char) (tail text : List Char) :
    (search.replace (opening :: tail) text).head? = text.head? ∨
      (search.replace (opening :: tail) text).head? = some opening := by
  unfold replace
  cases text with
  | nil => exact Or.inl (congrArg List.head? (replaceAfter_nil ..))
  | cons first rest =>
      rcases replaceAfter_cases search (opening :: tail) true first rest with
        ⟨_, _, same⟩ | ⟨_, same⟩
      · rw [same]
        exact Or.inr rfl
      · rw [same]
        exact Or.inl rfl

/-- The result ends as the text does, or with a marker. -/
theorem getLast?_replaceAfter (search : Search) (inner : List Char) (closing : Char)
    (starts : Bool) (last : Char) (within : covered ≤ front.length) :
    (search.replaceAfter (inner ++ [closing]) starts covered (front ++ [last])).getLast? =
        some last ∨
      (search.replaceAfter (inner ++ [closing]) starts covered (front ++ [last])).getLast? =
        some closing := by
  induction front generalizing starts covered with
  | nil =>
      obtain rfl := Nat.le_zero.mp within
      rcases replaceAfter_cases search (inner ++ [closing]) starts last [] with
        ⟨length, _, same⟩ | ⟨_, same⟩
      · rw [List.nil_append, same, replaceAfter_nil, List.append_nil, List.getLast?_concat]
        exact Or.inr rfl
      · rw [List.nil_append, same, replaceAfter_nil]
        exact Or.inl rfl
  | cons first rest ih =>
      rw [List.cons_append]
      cases covered with
      | succ covered =>
          rw [replaceAfter_succ]
          exact ih _ (Nat.le_of_succ_le_succ within)
      | zero =>
          rcases replaceAfter_cases search (inner ++ [closing]) starts first (rest ++ [last]) with
            ⟨length, _, same⟩ | ⟨_, same⟩
          · rw [same, List.getLast?_append]
            by_cases inside : length ≤ rest.length
            · refine (ih (first == '\n') inside).imp ?_ ?_ <;>
              · intro ends
                rw [ends, Option.some_or]
            · rw [replaceAfter_of_covered, List.getLast?_concat]
              · exact Or.inr rfl
              · rw [List.length_append, List.length_singleton]
                exact Nat.lt_of_not_le inside
          · rw [same, List.getLast?_cons]
            refine (ih (first == '\n') (Nat.zero_le _)).imp ?_ ?_ <;>
            · intro ends
              rw [ends, Option.getD_some]

/-! ## On both sides of a character -/

/-- A search finds nothing that is longer than the text. -/
def Bounded (search : Search) : Prop :=
  ∀ starts text length, search starts text = some length → length ≤ text.length

/-- A search takes a character for the end of the text. -/
def EndsAt (search : Search) (character : Char) : Prop :=
  ∀ starts front back, search starts (front ++ character :: back) = search starts front

/-- One step: the same is found in front of any text, as long as the search does not see the
difference. -/
theorem replaceAfter_step (bounded : search.Bounded) (marker : List Char) (starts : Bool)
    (character : Char) (rest : List Char) :
    ∃ begun covered, covered ≤ rest.length ∧ ∀ text,
      search starts (character :: text) = search starts (character :: rest) →
        search.replaceAfter marker starts 0 (character :: text) =
          begun ++ search.replaceAfter marker (character == '\n') covered text := by
  rcases replaceAfter_cases search marker starts character rest with
    ⟨length, found, _⟩ | ⟨missed, _⟩
  · refine ⟨marker, length, Nat.le_of_succ_le_succ (bounded _ _ _ found), fun text same => ?_⟩
    exact replaceAfter_of_found (same.trans found)
  · refine ⟨[character], 0, Nat.zero_le _, fun text same => ?_⟩
    exact replaceAfter_of_misses fun length found => missed length (same ▸ found)

/-- The texts on both sides of a character at which a search ends are replaced on their own. -/
theorem replaceAfter_append_cons (bounded : search.Bounded) (ends : search.EndsAt character)
    (marker back : List Char) (starts : Bool) (within : covered ≤ front.length) :
    search.replaceAfter marker starts covered (front ++ character :: back) =
      search.replaceAfter marker starts covered front ++
        character :: search.replaceAfter marker (character == '\n') 0 back := by
  induction front generalizing starts covered with
  | nil =>
      obtain rfl := Nat.le_zero.mp within
      rw [List.nil_append, replaceAfter_nil, List.nil_append]
      apply replaceAfter_of_misses
      intro length found
      rw [← List.nil_append (character :: back), ends starts [] back] at found
      exact Nat.not_succ_le_zero length (bounded starts [] _ found)
  | cons first rest ih =>
      rw [List.cons_append]
      cases covered with
      | succ covered =>
          rw [replaceAfter_succ, replaceAfter_succ]
          exact ih _ (Nat.le_of_succ_le_succ within)
      | zero =>
          obtain ⟨begun, covered, inside, step⟩ :=
            replaceAfter_step bounded marker starts first rest
          have same := ends starts (first :: rest) back
          rw [step (rest ++ character :: back) same, step rest rfl, ih _ inside, List.append_assoc]

/-! ## Between fences -/

section Fences

variable {opening closing : Char} {inner tail : List Char}

/-- A part at the front of the result that lacks the fence in front of the markers stood at
the front of the text. -/
theorem prefix_of_prefix_replaceAfter (lacking : opening ∉ part)
    (found : part <+: search.replaceAfter (opening :: tail) starts 0 text) : part <+: text := by
  induction text generalizing part starts with
  | nil =>
      rw [replaceAfter_nil] at found
      exact found
  | cons first rest ih =>
      rcases replaceAfter_cases search (opening :: tail) starts first rest with
        ⟨length, _, same⟩ | ⟨_, same⟩
      · rw [same, List.cons_append] at found
        rcases List.prefix_cons_iff.mp found with rfl | ⟨_, rfl, _⟩
        · exact List.nil_prefix
        · exact absurd List.mem_cons_self lacking
      · rw [same] at found
        rcases List.prefix_cons_iff.mp found with rfl | ⟨more, rfl, inside⟩
        · exact List.nil_prefix
        · refine List.cons_prefix_cons.mpr ⟨rfl, ih ?_ inside⟩
          exact fun member => lacking (List.mem_cons_of_mem _ member)

/-- A part of the result without a fence lies inside a marker, or it is a part of the text at
whose beginning nothing was found. -/
theorem infix_replaceAfter (nonempty : part ≠ []) (unopened : opening ∉ part)
    (unclosed : closing ∉ part)
    (found : part <:+:
      search.replaceAfter (opening :: (inner ++ [closing])) starts covered text) :
    part <:+: inner ∨
      ∃ there suffix, suffix <:+ text ∧ part <+: suffix ∧ search.Misses there suffix := by
  induction text generalizing starts covered with
  | nil =>
      rw [replaceAfter_nil] at found
      exact absurd (List.infix_nil.mp found) nonempty
  | cons first rest ih =>
      have later (inside : part <:+: inner ∨
          ∃ there suffix, suffix <:+ rest ∧ part <+: suffix ∧ search.Misses there suffix) :
          part <:+: inner ∨ ∃ there suffix, suffix <:+ first :: rest ∧ part <+: suffix ∧
            search.Misses there suffix := by
        rcases inside with inside | ⟨there, suffix, ends, begins, missed⟩
        · exact Or.inl inside
        · exact Or.inr ⟨there, suffix, ends.trans (List.suffix_cons ..), begins, missed⟩
      cases covered with
      | succ covered =>
          rw [replaceAfter_succ] at found
          exact later (ih found)
      | zero =>
          rcases replaceAfter_cases search (opening :: (inner ++ [closing])) starts first rest with
            ⟨length, _, same⟩ | ⟨missed, same⟩
          · rw [same, List.cons_append, List.append_assoc] at found
            rcases infix_of_not_mem unopened (show part <:+: [] ++ opening :: _ from found)
              with inside | inside
            · exact absurd (List.infix_nil.mp inside) nonempty
            · rcases infix_of_not_mem unclosed inside with inside | inside
              · exact Or.inl inside
              · exact later (ih inside)
          · rw [same] at found
            rcases List.infix_cons_iff.mp found with begins | inside
            · refine Or.inr ⟨starts, first :: rest, List.suffix_refl _, ?_, missed⟩
              rw [← same] at begins
              exact prefix_of_prefix_replaceAfter unopened begins
            · exact later (ih inside)

end Fences

end Search

/-! ## Patterns that are looked for -/

namespace Pattern

variable {pattern : Pattern} {text front back : List Char} {character : Char}

private theorem bounded_anywhere (pattern : Pattern) : pattern.anywhere.Bounded :=
  fun _ _ _ found => matchLength?_le found

private theorem endsAt_anywhere (unmentioned : pattern.mentions character = false) :
    pattern.anywhere.EndsAt character := by
  intro starts front back
  unfold anywhere matchLength?
  rw [lengths_append_cons unmentioned]

/-- A match may begin anywhere, whether or not a line starts there. -/
theorem replaceAfter_anywhere (pattern : Pattern) (marker : List Char) (starts : Bool)
    (covered : Nat) (text : List Char) :
    pattern.anywhere.replaceAfter marker starts covered text =
      pattern.anywhere.replaceAfter marker true covered text := by
  cases text with
  | nil => rw [Search.replaceAfter_nil, Search.replaceAfter_nil]
  | cons character rest =>
      cases covered with
      | succ covered => rw [Search.replaceAfter_succ, Search.replaceAfter_succ]
      | zero =>
          rw [Search.replaceAfter, Search.replaceAfter]
          rfl

/-- The texts on both sides of a character that a pattern does not mention are replaced on
their own. -/
theorem replace_anywhere_append_cons (unmentioned : pattern.mentions character = false)
    (marker front back : List Char) :
    pattern.anywhere.replace marker (front ++ character :: back) =
      pattern.anywhere.replace marker front ++
        character :: pattern.anywhere.replace marker back := by
  unfold Search.replace
  rw [Search.replaceAfter_append_cons pattern.bounded_anywhere (endsAt_anywhere unmentioned)
    marker back true (Nat.zero_le _), replaceAfter_anywhere pattern marker (character == '\n')]

/-- Two texts are replaced on their own when no match reaches from the first into the second. -/
theorem replaceAfter_anywhere_append {covered : Nat}
    (apart : ∀ suffix, suffix <:+ front → suffix ≠ [] →
      pattern.lengths (suffix ++ back) = pattern.lengths suffix)
    (marker : List Char) (starts : Bool) (within : covered ≤ front.length) :
    pattern.anywhere.replaceAfter marker starts covered (front ++ back) =
      pattern.anywhere.replaceAfter marker starts covered front ++
        pattern.anywhere.replace marker back := by
  induction front generalizing starts covered with
  | nil =>
      obtain rfl := Nat.le_zero.mp within
      rw [Search.replaceAfter_nil, List.nil_append, List.nil_append, replaceAfter_anywhere]
      rfl
  | cons character rest ih =>
      have later (suffix : List Char) (ends : suffix <:+ rest) :=
        apart suffix (ends.trans (List.suffix_cons ..))
      rw [List.cons_append]
      cases covered with
      | succ covered =>
          rw [Search.replaceAfter_succ, Search.replaceAfter_succ]
          exact ih later _ (Nat.le_of_succ_le_succ within)
      | zero =>
          obtain ⟨begun, covered, inside, step⟩ :=
            Search.replaceAfter_step pattern.bounded_anywhere marker starts character rest
          have same := congrArg List.head?
            (apart (character :: rest) (List.suffix_refl _) (List.cons_ne_nil _ _))
          rw [step (rest ++ back) same, step rest rfl, ih later _ inside, List.append_assoc]

/-- If at each place either no match reaches into some texts behind a text, or the match takes
one of them whole, then those texts are replaced on their own, or that one ends in a
marker. -/
theorem replaceAfter_anywhere_append_or {tails : List Char → Prop} {whole : List Char}
    {covered : Nat} (among : tails whole)
    (either : ∀ suffix, suffix ≠ [] →
      (∀ tail, tails tail → pattern.lengths (suffix ++ tail) = pattern.lengths suffix) ∨
        pattern.matchLength? (suffix ++ whole) = some (suffix ++ whole).length)
    (marker : List Char) (starts : Bool) (within : covered ≤ front.length) :
    (∀ tail, tails tail → pattern.anywhere.replaceAfter marker starts covered (front ++ tail) =
      pattern.anywhere.replaceAfter marker starts covered front ++
        pattern.anywhere.replace marker tail) ∨
    ∃ kept, pattern.anywhere.replaceAfter marker starts covered (front ++ whole) =
      kept ++ marker := by
  induction front generalizing starts covered with
  | nil =>
      obtain rfl := Nat.le_zero.mp within
      refine Or.inl fun tail _ => ?_
      rw [Search.replaceAfter_nil, List.nil_append, List.nil_append, replaceAfter_anywhere]
      rfl
  | cons character rest ih =>
      cases covered with
      | succ covered =>
          simp only [List.cons_append, Search.replaceAfter_succ]
          exact ih _ (Nat.le_of_succ_le_succ within)
      | zero =>
          rcases either (character :: rest) (List.cons_ne_nil _ _) with same | found
          · obtain ⟨begun, covered, inside, step⟩ :=
              Search.replaceAfter_step pattern.bounded_anywhere marker starts character rest
            have step' (tail : List Char) (member : tails tail) :=
              step (rest ++ tail) (congrArg List.head? (same tail member))
            rcases ih (character == '\n') inside with alone | ⟨kept, ends⟩
            · refine Or.inl fun tail member => ?_
              rw [List.cons_append, step' tail member, step rest rfl, alone tail member,
                List.append_assoc]
            · refine Or.inr ⟨begun ++ kept, ?_⟩
              rw [List.cons_append, step' whole among, ends, List.append_assoc]
          · have found' : pattern.anywhere starts (character :: (rest ++ whole)) =
                some ((rest ++ whole).length + 1) := found
            refine Or.inr ⟨[], ?_⟩
            rw [List.cons_append, Search.replaceAfter_of_found found', Search.replaceAfter_of_covered
              (Nat.le_refl _), List.append_nil, List.nil_append]

/-- What a match covers is gone. -/
theorem replaceAfter_anywhere_length (pattern : Pattern) (marker front back : List Char)
    (starts : Bool) :
    pattern.anywhere.replaceAfter marker starts front.length (front ++ back) =
      pattern.anywhere.replace marker back := by
  induction front generalizing starts with
  | nil => exact replaceAfter_anywhere ..
  | cons character rest ih =>
      rw [List.length_cons, List.cons_append, Search.replaceAfter_succ]
      exact ih _

/-- A match at the front of a text becomes the marker. -/
theorem replace_anywhere_of_matchLength? (nonempty : front ≠ [])
    (found : pattern.matchLength? (front ++ back) = some front.length) (marker : List Char) :
    pattern.anywhere.replace marker (front ++ back) =
      marker ++ pattern.anywhere.replace marker back := by
  cases front with
  | nil => exact absurd rfl nonempty
  | cons character rest =>
      unfold Search.replace
      rw [List.cons_append, Search.replaceAfter_of_found found, replaceAfter_anywhere_length]
      rfl

private theorem bounded_wholeLines (pattern : Pattern) : pattern.wholeLines.Bounded := by
  intro starts text length found
  unfold wholeLines at found
  split at found
  · exact le_length_of_mem_lengths (List.mem_of_find?_eq_some found)
  · cases found

/-- A line ends in front of a line feed as it does at the end of the text. -/
theorem lineEnds_drop_append_cons {length : Nat} (within : length ≤ front.length) :
    lineEnds ((front ++ '\n' :: back).drop length) = lineEnds (front.drop length) := by
  rw [List.drop_append_of_le_length within]
  cases front.drop length with
  | nil => rfl
  | cons character rest => rfl

private theorem endsAt_wholeLines (unmentioned : pattern.mentions '\n' = false) :
    pattern.wholeLines.EndsAt '\n' := by
  intro starts front back
  unfold wholeLines
  rw [lengths_append_cons unmentioned]
  refine if_congr Iff.rfl ?_ rfl
  rw [← List.head?_filter, ← List.head?_filter]
  refine congrArg List.head? (List.filter_congr fun length member => ?_)
  exact lineEnds_drop_append_cons (le_length_of_mem_lengths member)

/-- The lines of a text are replaced on their own. -/
theorem replace_wholeLines_append_cons (unmentioned : pattern.mentions '\n' = false)
    (marker front back : List Char) :
    pattern.wholeLines.replace marker (front ++ '\n' :: back) =
      pattern.wholeLines.replace marker front ++
        '\n' :: pattern.wholeLines.replace marker back :=
  Search.replaceAfter_append_cons pattern.bounded_wholeLines (endsAt_wholeLines unmentioned)
    marker back true (Nat.zero_le _)

/-- A text without a match stays as it is. -/
theorem AbsentFrom.replace_eq (absent : pattern.AbsentFrom text) (marker : List Char) :
    pattern.anywhere.replace marker text = text := by
  unfold Search.replace
  induction text with
  | nil => exact Search.replaceAfter_nil ..
  | cons character rest ih =>
      have missed : pattern.anywhere.Misses true (character :: rest) :=
        Search.misses_of_none absent.matchLength?
      rw [Search.replaceAfter_of_misses missed, replaceAfter_anywhere,
        ih (absent.mono (List.suffix_cons character rest).isInfix)]

section Fences

variable {opening closing : Char}

/-- Where nothing was found no accepted part begins. -/
theorem not_accepts_of_misses {part : List Char} {starts : Bool}
    (consumes : ¬ pattern.Accepts []) (missed : pattern.anywhere.Misses starts text)
    (begins : part <+: text) : ¬ pattern.Accepts part := by
  intro accepted
  cases found : pattern.matchLength? text with
  | none => exact matchLength?_eq_none_iff.mp found part begins accepted
  | some length =>
      cases length with
      | zero =>
          apply consumes
          rw [← List.take_zero (l := text)]
          exact (mem_lengths_iff.mp (List.mem_of_mem_head? found)).2
      | succ length => exact missed length found

/-- What was replaced does not occur any more: neither what is left nor what the marker
brings makes up a new match. -/
theorem absentFrom_replace_self (inner : List Char) (consumes : ¬ pattern.Accepts [])
    (unopened : pattern.mentions opening = false) (unclosed : pattern.mentions closing = false)
    (unmarked : pattern.AbsentFrom inner) (text : List Char) :
    pattern.AbsentFrom (pattern.anywhere.replace (opening :: (inner ++ [closing])) text) := by
  intro part found accepted
  have nonempty : part ≠ [] := by
    rintro rfl
    exact consumes accepted
  rcases Search.infix_replaceAfter nonempty (accepted.not_mem unopened)
    (accepted.not_mem unclosed) found with inside | ⟨there, suffix, _, begins, missed⟩
  · exact unmarked part inside accepted
  · exact not_accepts_of_misses consumes missed begins accepted

/-- Replacing something else brings no match about. -/
theorem AbsentFrom.replace (absent : pattern.AbsentFrom text) (inner : List Char)
    (consumes : ¬ pattern.Accepts []) (unopened : pattern.mentions opening = false)
    (unclosed : pattern.mentions closing = false) (unmarked : pattern.AbsentFrom inner)
    (search : Search) :
    pattern.AbsentFrom (search.replace (opening :: (inner ++ [closing])) text) := by
  intro part found accepted
  have nonempty : part ≠ [] := by
    rintro rfl
    exact consumes accepted
  rcases Search.infix_replaceAfter nonempty (accepted.not_mem unopened)
    (accepted.not_mem unclosed) found with inside | ⟨there, suffix, ends, begins, _⟩
  · exact unmarked part inside accepted
  · exact absent part (begins.isInfix.trans ends.isInfix) accepted

end Fences

end Pattern

end CallControl.Redaction
