import CallControl.Proofs.RedactedLines

/-! # Redacted text is clean

Each marker is fenced by brackets, which no address mentions. So a pass for addresses leaves
no address of its family, and the later pass does not bring one back
(`ipv6_absentFrom_redactChars`, `ipv4_absentFrom_redactChars`). Neither pass makes up the name
of a password, so a line that has it is the fixed line (`eq_passwordLine_of_namesPassword`).
Redacting the result again therefore finds nothing to do (`redact_clean`).
-/

namespace CallControl.Redaction

/-- A part that lacks the brackets and does not occur in what they enclose comes from the text. -/
theorem infix_of_infix_replace {search : Search} {part text : List Char} (inner : List Char)
    (nonempty : part ≠ []) (unopened : '[' ∉ part) (unclosed : ']' ∉ part)
    (unmarked : ¬ part <:+: inner)
    (found : part <:+: search.replace ('[' :: (inner ++ [']'])) text) : part <:+: text := by
  rcases Search.infix_replaceAfter nonempty unopened unclosed found with
    inside | ⟨there, suffix, ends, begins, _⟩
  · exact absurd inside unmarked
  · exact begins.isInfix.trans ends.isInfix

/-- The passes for addresses make no line name a password. -/
theorem namesPassword_of_redactAddresses {text : List Char}
    (named : NamesPassword (redactIpv4 (redactIpv6 text))) : NamesPassword text := by
  have inIpv6 : NamesPassword (redactIpv6 text) :=
    infix_of_infix_replace "REDACTED ipv4".toList (by decide) (by decide) (by decide)
      (by decide) named
  exact infix_of_infix_replace "REDACTED ipv6".toList (by decide) (by decide)
    (by decide) (by decide) inIpv6

/-- A line of a redacted text that names a password is the fixed line. -/
theorem eq_passwordLine_of_namesPassword {text line : List Char}
    (member : line ∈ (redactChars text).splitOn '\n') (named : NamesPassword line) :
    line = passwordLine := by
  rw [splitOn_redactChars] at member
  obtain ⟨before, present, rfl⟩ := List.mem_map.mp member
  have whole := feed_not_mem_of_mem_splitOn present
  by_cases namedBefore : NamesPassword before
  · exact redactChars_of_namesPassword whole namedBefore
  · unfold redactChars at named
    rw [redactPasswords_of_unnamed whole namedBefore] at named
    exact absurd (namesPassword_of_redactAddresses named) namedBefore

private theorem ipv6_absentFrom_redactIpv6 (text : List Char) : ipv6.AbsentFrom (redactIpv6 text) :=
  Pattern.absentFrom_replace_self "REDACTED ipv6".toList (by decide) (by decide)
    (by decide) (by decide) text

private theorem ipv6_absentFrom_redactChars (text : List Char) :
    ipv6.AbsentFrom (redactChars text) :=
  (ipv6_absentFrom_redactIpv6 (redactPasswords text)).replace "REDACTED ipv4".toList
    (by decide) (by decide) (by decide) (by decide) ipv4.anywhere

private theorem ipv4_absentFrom_redactChars (text : List Char) :
    ipv4.AbsentFrom (redactChars text) :=
  Pattern.absentFrom_replace_self "REDACTED ipv4".toList (by decide) (by decide)
    (by decide) (by decide) _

/-- Passwords that are hidden stay as they are. -/
theorem redactPasswords_eq_self {text : List Char}
    (hidden : ∀ line ∈ text.splitOn '\n', NamesPassword line → line = passwordLine) :
    redactPasswords text = text := by
  have keeps (line : List Char) (whole : '\n' ∉ line)
      (fixed : NamesPassword line → line = passwordLine) : redactPasswords line = line := by
    by_cases named : NamesPassword line
    · rw [redactPasswords_of_namesPassword whole named]
      exact (fixed named).symm
    · exact redactPasswords_of_unnamed whole named
  induction text using line_induction with
  | last line whole =>
      rw [List.splitOn_eq_singleton whole] at hidden
      exact keeps line whole (hidden line List.mem_cons_self)
  | more line rest whole ih =>
      rw [List.splitOn_append_cons_self_of_not_mem whole] at hidden
      rw [redactPasswords_append_cons, keeps line whole (hidden line List.mem_cons_self),
        ih fun other member => hidden other (List.mem_cons_of_mem _ member)]

/-- Redacting a redacted text changes nothing. -/
theorem redactChars_redactChars (text : List Char) :
    redactChars (redactChars text) = redactChars text := by
  have ipv6Absent := ipv6_absentFrom_redactChars text
  have ipv4Absent := ipv4_absentFrom_redactChars text
  have passwords : redactPasswords (redactChars text) = redactChars text :=
    redactPasswords_eq_self fun line => eq_passwordLine_of_namesPassword
  calc redactChars (redactChars text)
      = redactIpv4 (redactIpv6 (redactChars text)) := by rw [redactChars, passwords]
    _ = redactIpv4 (redactChars text) := congrArg redactIpv4 (ipv6Absent.replace_eq ipv6Marker)
    _ = redactChars text := ipv4Absent.replace_eq ipv4Marker

/-- A redacted text is clean and stable: no part of it is an address of either family, each
of its lines that names a password is the fixed line, and redacting it again changes
nothing. -/
theorem redact_clean (text : String) :
    (∀ part, part <:+: (redact text).toList → ¬ ipv4.Accepts part ∧ ¬ ipv6.Accepts part) ∧
      (∀ line ∈ (redact text).toList.splitOn '\n', NamesPassword line →
        String.ofList line = "a=ice-pwd:[ REDACTED ]") ∧
      redact (redact text) = redact text := by
  unfold redact
  rw [String.toList_ofList]
  refine ⟨fun part found => ⟨?_, ?_⟩, fun line member named => ?_, ?_⟩
  · exact ipv4_absentFrom_redactChars text.toList part found
  · exact ipv6_absentFrom_redactChars text.toList part found
  · rw [eq_passwordLine_of_namesPassword member named]
    rfl
  · rw [redactChars_redactChars]

end CallControl.Redaction
