/-! # Decimal and hexadecimal digits

A natural number and its decimal digits, the most significant first. Writing
gives the digits without leading zeros (`digits`), reading folds them back
(`ofDigits`), and reading what was written returns the number (`ofDigits_digits`).
-/

namespace CallControl.Text

/-- The decimal digits of a number, most significant first; zero has the one
digit 0. -/
def digits (value : Nat) : List Nat :=
  if value < 10 then [value] else digits (value / 10) ++ [value % 10]
termination_by value
decreasing_by omega

/-- The number that a run of decimal digits stands for. -/
def ofDigits (run : List Nat) : Nat :=
  run.foldl (fun value digit => 10 * value + digit) 0

private theorem ofDigits_append_singleton (run : List Nat) (digit : Nat) :
    ofDigits (run ++ [digit]) = 10 * ofDigits run + digit := by
  simp [ofDigits]

/-- Reading the digits of a number returns the number. -/
theorem ofDigits_digits (value : Nat) : ofDigits (digits value) = value := by
  induction value using Nat.strongRecOn with
  | ind value shorter =>
    rw [digits]
    split
    · simp [ofDigits]
    · rw [ofDigits_append_singleton, shorter (value / 10) (by omega)]
      omega

/-- Every number has a digit. -/
theorem digits_ne_nil (value : Nat) : digits value ≠ [] := by
  rw [digits]
  split <;> simp

/-- Each digit is below ten. -/
theorem lt_ten_of_mem_digits (value : Nat) : ∀ digit ∈ digits value, digit < 10 := by
  induction value using Nat.strongRecOn with
  | ind value shorter =>
    intro digit member
    rw [digits] at member
    split at member
    next small =>
      rw [List.mem_singleton] at member
      exact member ▸ small
    next large =>
      rcases List.mem_append.mp member with earlier | last
      · exact shorter (value / 10) (by omega) digit earlier
      · rw [List.mem_singleton] at last
        omega

/-- The character of one decimal digit. -/
def digitChar (digit : Nat) : Char :=
  Char.ofNat (0x30 + digit)

/-- The value of an ASCII decimal digit. -/
def digit? (character : Char) : Option Nat :=
  if '0' ≤ character ∧ character ≤ '9' then some (character.toNat - 0x30) else none

/-- The value of an ASCII hexadecimal digit in either case. -/
def hexDigit? (character : Char) : Option Nat :=
  if '0' ≤ character ∧ character ≤ '9' then some (character.toNat - 0x30)
  else if 'a' ≤ character ∧ character ≤ 'f' then some (character.toNat - 0x57)
  else if 'A' ≤ character ∧ character ≤ 'F' then some (character.toNat - 0x37)
  else none

/-- A number in decimal notation. -/
def decimal (value : Nat) : List Char :=
  (digits value).map digitChar

/-- An integer in decimal notation, with a minus sign when it is negative. -/
def signedDecimal : Int → List Char
  | .ofNat value => decimal value
  | .negSucc value => '-' :: decimal (value + 1)

/-- The lower-case character of one hexadecimal digit. -/
def hexChar (digit : Nat) : Char :=
  if digit < 10 then Char.ofNat (0x30 + digit) else Char.ofNat (0x57 + digit)

/-- A number in lower-case hexadecimal notation without leading zeros. -/
def hexadecimal (value : Nat) : List Char :=
  if value < 16 then [hexChar value] else hexadecimal (value / 16) ++ [hexChar (value % 16)]
termination_by value
decreasing_by omega

/-- The number that a text of ASCII decimal digits stands for; the text must
hold at least one and nothing else. -/
def parseDecimal? (text : List Char) : Option Nat :=
  if text.isEmpty then none else (text.mapM digit?).map ofDigits

/-- The character of a decimal digit has its value. -/
theorem digit?_digitChar {digit : Nat} (small : digit < 10) :
    digit? (digitChar digit) = some digit := by
  have every : ∀ candidate ∈ List.range 10, digit? (digitChar candidate) = some candidate := by
    decide
  exact every digit (List.mem_range.mpr small)

/-- The character of a hexadecimal digit has its value. -/
theorem hexDigit?_hexChar {digit : Nat} (small : digit < 16) :
    hexDigit? (hexChar digit) = some digit := by
  have every : ∀ candidate ∈ List.range 16, hexDigit? (hexChar candidate) = some candidate := by
    decide
  exact every digit (List.mem_range.mpr small)

/-- Only zero has a leading zero. -/
theorem leading_ne_zero {value leading : Nat} {rest : List Nat} (positive : 0 < value)
    (written : digits value = leading :: rest) : leading ≠ 0 := by
  induction value using Nat.strongRecOn generalizing rest with
  | ind value shorter =>
    rw [digits] at written
    split at written
    next small =>
      cases written
      omega
    next large =>
      cases earlier : digits (value / 10) with
      | nil => exact absurd earlier (digits_ne_nil _)
      | cons first others =>
        rw [earlier] at written
        cases written
        exact shorter (value / 10) (by omega) (by omega) earlier

end CallControl.Text
