/-! # White space

The characters with the Unicode property White_Space, and the text left when a
run of them is taken off both ends. A configured duration and a bare call event
are read after this trimming; JSON has a narrower notion of its own
(`CallControl.Json.isJsonSpace`).
-/

namespace CallControl.Text

/-- The characters with the Unicode property White_Space. -/
def isWhiteSpace (character : Char) : Bool :=
  let code := character.toNat
  (0x09 ≤ code && code ≤ 0x0D) || code == 0x20 || code == 0x85 || code == 0xA0 ||
    code == 0x1680 || (0x2000 ≤ code && code ≤ 0x200A) || code == 0x2028 || code == 0x2029 ||
    code == 0x202F || code == 0x205F || code == 0x3000

/-- A text without the white space that follows its last other character. -/
def trimEnd : List Char → List Char
  | [] => []
  | character :: rest =>
      match trimEnd rest with
      | [] => if isWhiteSpace character then [] else [character]
      | kept => character :: kept

/-- A text without the white space before its first and after its last other
character. -/
def trim (text : List Char) : List Char :=
  trimEnd (text.dropWhile isWhiteSpace)

/-! ## What trimming leaves -/

/-- Nothing but white space. -/
def White (characters : List Char) : Prop :=
  ∀ character ∈ characters, isWhiteSpace character = true

/-- No white space at either end. -/
structure Trimmed (word : List Char) : Prop where
  start : ∀ character ∈ word.head?, isWhiteSpace character = false
  finish : ∀ character ∈ word.getLast?, isWhiteSpace character = false

/-- A text without any white space has none at its ends. -/
theorem Trimmed.of_visible {word : List Char}
    (visible : ∀ character ∈ word, isWhiteSpace character = false) : Trimmed word where
  start character first := visible character (List.mem_of_head? first)
  finish character last := visible character (List.mem_of_getLast? last)

/-- White space at the front is dropped. -/
theorem White.dropWhile_append {left : List Char} (white : White left) (rest : List Char) :
    (left ++ rest).dropWhile isWhiteSpace = rest.dropWhile isWhiteSpace :=
  List.dropWhile_append_of_pos white

/-- What comes off the end of a text is white space. -/
theorem exists_trimEnd (text : List Char) :
    ∃ right, text = trimEnd text ++ right ∧ White right := by
  induction text with
  | nil => exact ⟨[], rfl, nofun⟩
  | cons character rest ih =>
      obtain ⟨right, same, white⟩ := ih
      unfold trimEnd
      split
      next none =>
        rw [none, List.nil_append] at same
        split
        next space => exact ⟨character :: rest, rfl, List.forall_mem_cons.mpr ⟨space, same ▸ white⟩⟩
        next => exact ⟨rest, rfl, same ▸ white⟩
      next => exact ⟨right, congrArg (character :: ·) same, white⟩

private theorem trimEnd_of_white {right : List Char} (white : White right) :
    trimEnd right = [] := by
  induction right with
  | nil => rfl
  | cons character rest ih =>
      obtain ⟨space, white⟩ := List.forall_mem_cons.mp white
      rw [trimEnd, ih white]
      exact if_pos space

private theorem trimEnd_append {word right : List Char} (white : White right)
    (finish : ∀ character ∈ word.getLast?, isWhiteSpace character = false) :
    trimEnd (word ++ right) = word := by
  induction word with
  | nil => exact trimEnd_of_white white
  | cons character rest ih =>
      cases rest with
      | nil =>
          have visible : isWhiteSpace character = false := finish character rfl
          rw [List.singleton_append, trimEnd, trimEnd_of_white white]
          simp only [visible, Bool.false_eq_true, ↓reduceIte]
      | cons next others =>
          have kept := ih finish
          rw [List.cons_append, trimEnd, kept]

/-- A text leaves a word when it is trimmed exactly if it is that word between white space. -/
theorem trim_eq_iff {text word : List Char} (trimmed : Trimmed word) :
    trim text = word ↔ ∃ left right, text = left ++ word ++ right ∧ White left ∧ White right := by
  constructor
  · rintro rfl
    obtain ⟨right, same, after⟩ := exists_trimEnd (text.dropWhile isWhiteSpace)
    refine ⟨text.takeWhile isWhiteSpace, right, ?_, List.all_eq_true.mp List.all_takeWhile, after⟩
    rw [List.append_assoc, trim, ← same, List.takeWhile_append_dropWhile]
  · rintro ⟨left, right, rfl, before, after⟩
    rw [trim, List.append_assoc, before.dropWhile_append]
    cases word with
    | nil =>
        have none := after.dropWhile_append []
        rw [List.append_nil] at none
        rw [List.nil_append, none]
        rfl
    | cons character rest =>
        have visible : isWhiteSpace character = false := trimmed.start character rfl
        rw [List.cons_append, List.dropWhile_cons_of_neg (by simp [visible]), ← List.cons_append]
        exact trimEnd_append after trimmed.finish

end CallControl.Text
