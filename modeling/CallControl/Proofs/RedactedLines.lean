import Mathlib.Data.List.Forall2
import Mathlib.Data.List.Infix
import CallControl.Proofs.Replacement
import CallControl.Redaction.Redact

/-! # Redacting line by line

None of the three patterns mentions the line feed, so every pass, and with them redaction,
treats each line as if it were the whole text (`redactChars_append_cons`). A line that names
a password becomes the fixed line, whatever else it holds (`redactChars_of_namesPassword`),
and every other line is left to the passes for addresses (`redactPasswords_of_unnamed`).
What becomes of a line is therefore decided by that line alone (`redact_linewise`).
-/

namespace CallControl.Redaction

/-- A line names an ICE password. -/
def NamesPassword (line : List Char) : Prop := passwordName <:+: line

instance (line : List Char) : Decidable (NamesPassword line) :=
  inferInstanceAs (Decidable (passwordName <:+: line))

/-- A text is one line, or a line with a text behind its line feed. -/
theorem line_induction {motive : List Char → Prop}
    (last : ∀ line, '\n' ∉ line → motive line)
    (more : ∀ line rest, '\n' ∉ line → motive rest → motive (line ++ '\n' :: rest))
    (text : List Char) : motive text := by
  induction size : text.length using Nat.strong_induction_on generalizing text with
  | _ size ih =>
      by_cases feeds : '\n' ∈ text
      · obtain ⟨line, rest, rfl, whole⟩ := List.eq_append_cons_of_mem feeds
        refine more line rest whole (ih rest.length ?_ rest rfl)
        rw [← size, List.length_append, List.length_cons]
        omega
      · exact last text feeds

/-! ## Passwords -/

private theorem accepts_withinLine {text : List Char} : withinLine.Accepts text ↔ '\n' ∉ text := by
  rw [withinLine, Pattern.accepts_optional, Pattern.accepts_run]
  constructor
  · rintro (⟨_, accepted⟩ | rfl)
    · intro member
      have accepted := accepted '\n' member
      cases accepted
    · exact List.not_mem_nil
  · intro whole
    by_cases nonempty : text = []
    · exact Or.inr nonempty
    · refine Or.inl ⟨nonempty, fun character member => ?_⟩
      rw [bne_iff_ne]
      rintro rfl
      exact whole member

/-- The texts around the name of a password are lines that hold the name. -/
theorem accepts_passwordText {text : List Char} :
    passwordText.Accepts text ↔ '\n' ∉ text ∧ NamesPassword text := by
  rw [passwordText, Pattern.accepts_seq]
  constructor
  · rintro ⟨before, rest, rfl, begins, ends⟩
    obtain ⟨name, after, rfl, named, trails⟩ := Pattern.accepts_seq.mp ends
    obtain rfl := Pattern.accepts_text.mp named
    refine ⟨?_, before, after, List.append_assoc ..⟩
    rw [List.mem_append, List.mem_append, not_or, not_or]
    exact ⟨accepts_withinLine.mp begins, by decide, accepts_withinLine.mp trails⟩
  · rintro ⟨whole, before, after, rfl⟩
    rw [List.mem_append, List.mem_append, not_or, not_or] at whole
    obtain ⟨⟨begins, _⟩, ends⟩ := whole
    exact ⟨before, passwordName ++ after, List.append_assoc .., accepts_withinLine.mpr begins,
      .seq (Pattern.accepts_text.mpr rfl) (accepts_withinLine.mpr ends)⟩

/-- Only the end of a line that is the whole text ends a line. -/
theorem lineEnds_drop_iff {line : List Char} (whole : '\n' ∉ line) {length : Nat}
    (within : length ≤ line.length) :
    lineEnds (line.drop length) = true ↔ length = line.length := by
  cases rest : line.drop length with
  | nil =>
      have enough := List.drop_eq_nil_iff.mp rest
      exact iff_of_true rfl (Nat.le_antisymm within enough)
  | cons character more =>
      have member : character ∈ line := List.mem_of_mem_drop (rest ▸ List.mem_cons_self)
      refine iff_of_false (fun ends => ?_) (fun same => ?_)
      · rw [beq_iff_eq.mp ends] at member
        exact whole member
      · rw [same, List.drop_length] at rest
        cases rest

/-- In a line the name of a password is found together with the whole line. -/
theorem wholeLines_passwordText {line : List Char} (whole : '\n' ∉ line) :
    passwordText.wholeLines true line =
      if NamesPassword line then some line.length else none := by
  unfold Pattern.wholeLines
  rw [if_pos rfl]
  have found {length : Nat} (listed : length ∈ passwordText.lengths line)
      (ends : lineEnds (line.drop length) = true) :
      length = line.length ∧ NamesPassword line := by
    obtain ⟨within, accepted⟩ := Pattern.mem_lengths_iff.mp listed
    have same := (lineEnds_drop_iff whole within).mp ends
    rw [same, List.take_length] at accepted
    exact ⟨same, (accepts_passwordText.mp accepted).2⟩
  split
  · rename_i named
    have accepted := accepts_passwordText.mpr ⟨whole, named⟩
    have listed : line.length ∈ passwordText.lengths line := by
      rw [Pattern.mem_lengths_iff, List.take_length]
      exact ⟨Nat.le_refl _, accepted⟩
    cases searched :
        (passwordText.lengths line).find? fun length => lineEnds (line.drop length) with
    | none =>
        have missed := List.find?_eq_none.mp searched _ listed
        rw [lineEnds_drop_iff whole (Nat.le_refl _)] at missed
        exact absurd rfl missed
    | some length =>
        have ends := List.find?_some (p := fun length => lineEnds (line.drop length)) searched
        rw [(found (List.mem_of_find?_eq_some searched) ends).1]
  · rename_i unnamed
    refine List.find?_eq_none.mpr fun length listed ends => unnamed ?_
    exact (found listed ends).2

/-- The pass for passwords replaces a line that names one as a whole. -/
theorem redactPasswords_of_namesPassword {line : List Char} (whole : '\n' ∉ line)
    (named : NamesPassword line) : redactPasswords line = passwordLine := by
  cases line with
  | nil =>
      have absurdity := List.infix_nil.mp named
      cases absurdity
  | cons character rest =>
      have found := wholeLines_passwordText whole
      rw [if_pos named, List.length_cons] at found
      unfold redactPasswords Search.replace
      rw [Search.replaceAfter_of_found found, Search.replaceAfter_of_covered (Nat.le_refl _),
        List.append_nil]

/-- Within a line no other one starts, so nothing is found any more. -/
theorem replaceAfter_wholeLines_of_misses {pattern : Pattern} {starts : Bool} {line : List Char}
    (marker : List Char) (whole : '\n' ∉ line)
    (missed : pattern.wholeLines.Misses starts line) :
    pattern.wholeLines.replaceAfter marker starts 0 line = line := by
  induction line generalizing starts with
  | nil => rw [Search.replaceAfter_nil]
  | cons character rest ih =>
      rw [List.mem_cons, not_or] at whole
      have inside : (character == '\n') = false := beq_eq_false_iff_ne.mpr (Ne.symm whole.1)
      rw [Search.replaceAfter_of_misses missed, inside]
      exact congrArg (character :: ·) (ih whole.2 (Search.misses_of_none rfl))

/-- The pass for passwords leaves a line that names none as it is. -/
theorem redactPasswords_of_unnamed {line : List Char} (whole : '\n' ∉ line)
    (unnamed : ¬ NamesPassword line) : redactPasswords line = line := by
  have missed := wholeLines_passwordText whole
  rw [if_neg unnamed] at missed
  exact replaceAfter_wholeLines_of_misses _ whole (Search.misses_of_none missed)

/-! ## Lines -/

/-- Before a line break passwords are looked for apart from what is behind it. -/
theorem redactPasswords_append_cons (front back : List Char) :
    redactPasswords (front ++ '\n' :: back) =
      redactPasswords front ++ '\n' :: redactPasswords back :=
  Pattern.replace_wholeLines_append_cons (by decide) _ _ _

/-- Two texts on both sides of a line feed are redacted on their own. -/
theorem redactChars_append_cons (front back : List Char) :
    redactChars (front ++ '\n' :: back) = redactChars front ++ '\n' :: redactChars back := by
  unfold redactChars redactIpv4 redactIpv6
  rw [redactPasswords_append_cons, Pattern.replace_anywhere_append_cons (by decide),
    Pattern.replace_anywhere_append_cons (by decide)]

/-- A line that names a password becomes the fixed line, whatever else it holds. -/
theorem redactChars_of_namesPassword {line : List Char} (whole : '\n' ∉ line)
    (named : NamesPassword line) : redactChars line = passwordLine := by
  unfold redactChars
  rw [redactPasswords_of_namesPassword whole named]
  decide

/-- Redacting one line gives one line. -/
theorem feed_not_mem_redactChars {line : List Char} (whole : '\n' ∉ line) :
    '\n' ∉ redactChars line := by
  intro member
  rcases Search.mem_replaceAfter member with member | member
  · revert member
    decide
  · rcases Search.mem_replaceAfter member with member | member
    · revert member
      decide
    · rcases Search.mem_replaceAfter member with member | member
      · revert member
        decide
      · exact whole member

/-- The lines of a redacted text are the lines of the text, each of them redacted. -/
theorem splitOn_redactChars (text : List Char) :
    (redactChars text).splitOn '\n' = (text.splitOn '\n').map redactChars := by
  induction text using line_induction with
  | last line whole =>
      rw [List.splitOn_eq_singleton (feed_not_mem_redactChars whole),
        List.splitOn_eq_singleton whole, List.map_singleton]
  | more line rest whole ih =>
      rw [redactChars_append_cons, List.splitOn_append_cons_self, List.splitOn_append_cons_self,
        List.map_append, ih, List.splitOn_eq_singleton (feed_not_mem_redactChars whole),
        List.splitOn_eq_singleton whole, List.map_singleton]

private theorem count_feed_redactChars (text : List Char) :
    (redactChars text).count '\n' = text.count '\n' := by
  induction text using line_induction with
  | last line whole =>
      rw [List.count_eq_zero_of_not_mem (feed_not_mem_redactChars whole),
        List.count_eq_zero_of_not_mem whole]
  | more line rest whole ih =>
      rw [redactChars_append_cons, List.count_append, List.count_append, List.count_cons_self,
        List.count_cons_self, ih, List.count_eq_zero_of_not_mem (feed_not_mem_redactChars whole),
        List.count_eq_zero_of_not_mem whole]

/-- No line of a text holds a line break. -/
theorem feed_not_mem_of_mem_splitOn {text line : List Char} (member : line ∈ text.splitOn '\n') :
    '\n' ∉ line := by
  induction text using line_induction with
  | last only whole =>
      rw [List.splitOn_eq_singleton whole, List.mem_singleton] at member
      exact member ▸ whole
  | more first rest whole ih =>
      rw [List.splitOn_append_cons_self_of_not_mem whole] at member
      rcases List.mem_cons.mp member with rfl | member
      · exact whole
      · exact ih member

/-- Two lines are the same, or both name a password. -/
def AlikeButPassword (line other : List Char) : Prop :=
  line = other ∨ NamesPassword line ∧ NamesPassword other

private theorem AlikeButPassword.redactChars_eq {line other : List Char}
    (alike : AlikeButPassword line other) (whole : '\n' ∉ line) (otherWhole : '\n' ∉ other) :
    redactChars line = redactChars other := by
  rcases alike with rfl | ⟨named, otherNamed⟩
  · rfl
  · rw [redactChars_of_namesPassword whole named,
      redactChars_of_namesPassword otherWhole otherNamed]

/-- Texts whose lines differ only in passwords are redacted alike. -/
theorem redactChars_eq_of_alike {one other : List Char}
    (alike : List.Forall₂ AlikeButPassword (one.splitOn '\n') (other.splitOn '\n')) :
    redactChars one = redactChars other := by
  have lines : (one.splitOn '\n').map redactChars = (other.splitOn '\n').map redactChars := by
    have whole (line : List Char) (member : line ∈ one.splitOn '\n') : '\n' ∉ line :=
      feed_not_mem_of_mem_splitOn member
    have otherWhole (line : List Char) (member : line ∈ other.splitOn '\n') : '\n' ∉ line :=
      feed_not_mem_of_mem_splitOn member
    generalize one.splitOn '\n' = lines at alike whole
    generalize other.splitOn '\n' = otherLines at alike otherWhole
    induction alike with
    | nil => rfl
    | cons alike _ ih =>
        rw [List.map_cons, List.map_cons, ih, alike.redactChars_eq]
        · exact whole _ List.mem_cons_self
        · exact otherWhole _ List.mem_cons_self
        · exact fun line member => whole line (List.mem_cons_of_mem _ member)
        · exact fun line member => otherWhole line (List.mem_cons_of_mem _ member)
  rw [← splitOn_redactChars, ← splitOn_redactChars] at lines
  calc redactChars one
      = ['\n'].intercalate ((redactChars one).splitOn '\n') :=
        (List.intercalate_splitOn '\n').symm
    _ = redactChars other := by rw [lines, List.intercalate_splitOn]

/-- Redaction works line by line. Two texts joined by a line feed are redacted on their own;
a line that names a password becomes the fixed line whatever else it holds; line feeds stay
as many as they were; each line of the result is decided by the line of the text in its
place, so that a password has no influence on any other line; and texts that differ only in
lines that name a password have the same result. -/
theorem redact_linewise :
    (∀ front back : String, redact (front ++ "\n" ++ back) = redact front ++ "\n" ++ redact back) ∧
    (∀ line : String, '\n' ∉ line.toList → NamesPassword line.toList →
      redact line = "a=ice-pwd:[ REDACTED ]") ∧
    (∀ text : String, (redact text).toList.count '\n' = text.toList.count '\n') ∧
    (∀ text : String, (redact text).toList.splitOn '\n' =
      (text.toList.splitOn '\n').map fun line => (redact (String.ofList line)).toList) ∧
    (∀ one other : String,
      List.Forall₂ AlikeButPassword (one.toList.splitOn '\n') (other.toList.splitOn '\n') →
        redact one = redact other) := by
  refine ⟨fun front back => ?_, fun line whole named => ?_, fun text => ?_, fun text => ?_,
    fun one other alike => ?_⟩
  · have joined : (front ++ "\n" ++ back).toList = front.toList ++ '\n' :: back.toList := by
      rw [String.toList_append, String.toList_append, List.append_assoc]
      rfl
    unfold redact
    rw [joined, redactChars_append_cons, String.ofList_append, ← List.singleton_append,
      String.ofList_append, String.append_assoc]
  · unfold redact
    rw [redactChars_of_namesPassword whole named]
    rfl
  · unfold redact
    rw [String.toList_ofList]
    exact count_feed_redactChars text.toList
  · unfold redact
    simp only [String.toList_ofList]
    exact splitOn_redactChars text.toList
  · unfold redact
    rw [redactChars_eq_of_alike alike]

/-- Two texts whose passwords differ are redacted to the same text. -/
theorem redact_linewise_passwords :
    ('\n' ∉ "b=é ice-pwd:0".toList ∧ NamesPassword "b=é ice-pwd:0".toList) ∧
      redact "b=é ice-pwd:0" = "a=ice-pwd:[ REDACTED ]" ∧
      redact "v=0\na=ice-pwd:one" = redact "v=0\nice-pwd other" := by
  refine ⟨by decide, redact_linewise.2.1 _ (by decide) (by decide), ?_⟩
  apply redact_linewise.2.2.2.2
  exact .cons (Or.inl rfl) (.cons (Or.inr (by decide)) .nil)

end CallControl.Redaction
