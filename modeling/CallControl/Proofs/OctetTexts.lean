import CallControl.Text.Utf8
import Mathlib.Data.List.Basic

/-! # Octets of a text

The octets of a text are read as the text's characters, none of them lost and none of them
made up (`decodeUtf8_toUTF8`).
-/

namespace CallControl.Text

/-! ## Well-formed sequences -/

section

variable {first second third fourth : UInt8} (rest : List UInt8)

/-- An octet among those that follow a leading one. -/
def Follows (octet : UInt8) : Prop := 0x80 ≤ octet.toNat ∧ octet.toNat ≤ 0xBF

/-- An octet that may stand second: neither is the sequence longer than it needs to be, nor does
it stand for a surrogate or for a number beyond the last code point. -/
structure Seconds (first second : UInt8) : Prop where
  follows : Follows second
  short : first.toNat = 0xE0 → 0xA0 ≤ second.toNat
  scalar : first.toNat = 0xED → second.toNat ≤ 0x9F
  least : first.toNat = 0xF0 → 0x90 ≤ second.toNat
  greatest : first.toNat = 0xF4 → second.toNat ≤ 0x8F

private theorem Follows.isContinuation {octet : UInt8} (follows : Follows octet) :
    isContinuation octet = true := by
  rw [Text.isContinuation, Bool.and_eq_true, decide_eq_true_eq, decide_eq_true_eq]
  exact ⟨UInt8.le_iff_toNat_le.mpr follows.1, UInt8.le_iff_toNat_le.mpr follows.2⟩

private theorem Seconds.bounds (seconds : Seconds first second) :
    (decide ((secondOctetBounds first).1 ≤ second) &&
      decide (second ≤ (secondOctetBounds first).2)) = true := by
  obtain ⟨⟨least, greatest⟩, long, surrogate, longest, beyond⟩ := seconds
  simp only [secondOctetBounds, beq_iff_eq, ← UInt8.toNat_inj, UInt8.le_iff_toNat_le,
    Bool.and_eq_true, decide_eq_true_eq]
  split
  next same => exact ⟨long same, greatest⟩
  split
  next same => exact ⟨least, surrogate same⟩
  split
  next same => exact ⟨longest same, greatest⟩
  split
  next same => exact ⟨least, beyond same⟩
  next => exact ⟨least, greatest⟩

private theorem between_eq_true {low high : UInt8} (least : low.toNat ≤ first.toNat)
    (greatest : first.toNat ≤ high.toNat) :
    (decide (low ≤ first) && decide (first ≤ high)) = true := by
  rw [Bool.and_eq_true, decide_eq_true_eq, decide_eq_true_eq]
  exact ⟨UInt8.le_iff_toNat_le.mpr least, UInt8.le_iff_toNat_le.mpr greatest⟩

private theorem between_eq_false {low high : UInt8} (beyond : high.toNat < first.toNat) :
    (decide (low ≤ first) && decide (first ≤ high)) = false := by
  have above : ¬ first ≤ high := fun below =>
    Nat.not_lt.mpr (UInt8.le_iff_toNat_le.mp below) beyond
  rw [decide_eq_false above, Bool.and_false]

private theorem not_lt_of_toNat {high : UInt8} (beyond : high.toNat ≤ first.toNat) :
    ¬ first < high :=
  fun below => Nat.not_lt.mpr beyond (UInt8.lt_iff_toNat_lt.mp below)

private theorem leadingChar?_one (small : first.toNat < 0x80) :
    leadingChar? (first :: rest) = some (Char.ofNat first.toNat, 0) := by
  have below : first < 0x80 := UInt8.lt_iff_toNat_lt.mpr small
  simp only [leadingChar?, below, ↓reduceIte]

private theorem leadingChar?_two (least : 0xC2 ≤ first.toNat) (greatest : first.toNat ≤ 0xDF)
    (follows : Follows second) :
    leadingChar? (first :: second :: rest) =
      some (Char.ofNat (first.toNat % 32 * 64 + continuationBits second), 1) := by
  have notOne : ¬ first < 0x80 := not_lt_of_toNat (Nat.le_trans (by decide) least)
  have two : (decide (0xC2 ≤ first) && decide (first ≤ 0xDF)) = true :=
    between_eq_true least greatest
  simp only [leadingChar?, notOne, two, follows.isContinuation, ↓reduceIte]

private theorem leadingChar?_three (least : 0xE0 ≤ first.toNat) (greatest : first.toNat ≤ 0xEF)
    (seconds : Seconds first second) (follows : Follows third) :
    leadingChar? (first :: second :: third :: rest) =
      some (Char.ofNat ((first.toNat % 16 * 64 + continuationBits second) * 64 +
        continuationBits third), 2) := by
  have notOne : ¬ first < 0x80 := not_lt_of_toNat (Nat.le_trans (by decide) least)
  have notTwo : (decide (0xC2 ≤ first) && decide (first ≤ 0xDF)) = false := between_eq_false least
  have three : (decide (0xE0 ≤ first) && decide (first ≤ 0xEF)) = true :=
    between_eq_true least greatest
  simp only [leadingChar?, notOne, notTwo, three, seconds.bounds, follows.isContinuation,
    Bool.and_self, Bool.false_eq_true, ↓reduceIte]

private theorem leadingChar?_four (least : 0xF0 ≤ first.toNat) (greatest : first.toNat ≤ 0xF4)
    (seconds : Seconds first second) (follows : Follows third) (ends : Follows fourth) :
    leadingChar? (first :: second :: third :: fourth :: rest) =
      some (Char.ofNat (((first.toNat % 8 * 64 + continuationBits second) * 64 +
        continuationBits third) * 64 + continuationBits fourth), 3) := by
  have notOne : ¬ first < 0x80 := not_lt_of_toNat (Nat.le_trans (by decide) least)
  have notTwo : (decide (0xC2 ≤ first) && decide (first ≤ 0xDF)) = false :=
    between_eq_false (Nat.lt_of_lt_of_le (by decide) least)
  have notThree : (decide (0xE0 ≤ first) && decide (first ≤ 0xEF)) = false :=
    between_eq_false least
  have four : (decide (0xF0 ≤ first) && decide (first ≤ 0xF4)) = true :=
    between_eq_true least greatest
  simp only [leadingChar?, notOne, notTwo, notThree, four, seconds.bounds,
    follows.isContinuation, ends.isContinuation, Bool.and_self, Bool.false_eq_true, ↓reduceIte]

end

/-! ## Reading what was encoded -/

private theorem follows_ofNat (code : Nat) : Follows (UInt8.ofNat (code % 64 + 128)) := by
  unfold Follows
  rw [UInt8.toNat_ofNat']
  omega

private theorem continuationBits_ofNat (code : Nat) :
    continuationBits (UInt8.ofNat (code % 64 + 128)) = code % 64 := by
  unfold continuationBits
  rw [UInt8.toNat_ofNat']
  omega

/-- The sequence of a character is read as that character, and to its end. -/
theorem leadingChar?_utf8EncodeChar (character : Char) (rest : List UInt8) :
    leadingChar? (String.utf8EncodeChar character ++ rest) =
      some (character, (String.utf8EncodeChar character).length - 1) := by
  have whole : Char.ofNat character.val.toNat = character := Char.ofNat_toNat character
  have valid : character.val.toNat < 0xD800 ∨
      0xDFFF < character.val.toNat ∧ character.val.toNat < 0x110000 := character.valid
  unfold String.utf8EncodeChar
  -- each octet holds its bits of the code above a mark, so that what is left is arithmetic
  generalize character.val.toNat = code at whole valid
  subst whole
  simp only
  split
  next one =>
    have octet : (UInt8.ofNat code).toNat = code := by
      rw [UInt8.toNat_ofNat']
      omega
    rw [List.singleton_append, leadingChar?_one rest (by omega), octet]
    rfl
  next =>
    split
    next two =>
      have octet : (UInt8.ofNat (code / 64 % 32 + 192)).toNat = code / 64 % 32 + 192 := by
        rw [UInt8.toNat_ofNat']
        omega
      rw [List.cons_append, List.singleton_append,
        leadingChar?_two rest (by omega) (by omega) (follows_ofNat code), octet,
        continuationBits_ofNat]
      have sum : (code / 64 % 32 + 192) % 32 * 64 + code % 64 = code := by omega
      rw [sum]
      rfl
    next =>
      split
      next three =>
        have octet : (UInt8.ofNat (code / 4096 % 16 + 224)).toNat = code / 4096 % 16 + 224 := by
          rw [UInt8.toNat_ofNat']
          omega
        have second : (UInt8.ofNat (code / 64 % 64 + 128)).toNat = code / 64 % 64 + 128 := by
          rw [UInt8.toNat_ofNat']
          omega
        have seconds : Seconds (UInt8.ofNat (code / 4096 % 16 + 224))
            (UInt8.ofNat (code / 64 % 64 + 128)) :=
          ⟨follows_ofNat _, by omega, by omega, by omega, by omega⟩
        rw [List.cons_append, List.cons_append, List.singleton_append,
          leadingChar?_three rest (by omega) (by omega) seconds (follows_ofNat code), octet,
          continuationBits_ofNat, continuationBits_ofNat]
        have sum : ((code / 4096 % 16 + 224) % 16 * 64 + code / 64 % 64) * 64 +
            code % 64 = code := by omega
        rw [sum]
        rfl
      next four =>
        have octet : (UInt8.ofNat (code / 262144 % 8 + 240)).toNat = code / 262144 % 8 + 240 := by
          rw [UInt8.toNat_ofNat']
          omega
        have second : (UInt8.ofNat (code / 4096 % 64 + 128)).toNat = code / 4096 % 64 + 128 := by
          rw [UInt8.toNat_ofNat']
          omega
        have seconds : Seconds (UInt8.ofNat (code / 262144 % 8 + 240))
            (UInt8.ofNat (code / 4096 % 64 + 128)) :=
          ⟨follows_ofNat _, by omega, by omega, by omega, by omega⟩
        rw [List.cons_append, List.cons_append, List.cons_append, List.singleton_append,
          leadingChar?_four rest (by omega) (by omega) seconds (follows_ofNat _)
            (follows_ofNat code), octet,
          continuationBits_ofNat, continuationBits_ofNat, continuationBits_ofNat]
        have sum : (((code / 262144 % 8 + 240) % 8 * 64 + code / 4096 % 64) * 64 +
            code / 64 % 64) * 64 + code % 64 = code := by omega
        rw [sum]
        rfl

private theorem decodeAfter_append (covered rest : List UInt8) :
    decodeAfter covered.length (covered ++ rest) = decodeAfter 0 rest := by
  induction covered with
  | nil => rfl
  | cons octet others ih => exact ih

/-- The characters that were encoded are read back. -/
theorem decodeUtf8_flatMap (characters : List Char) :
    decodeUtf8 (characters.flatMap String.utf8EncodeChar) = characters.map some := by
  induction characters with
  | nil => rfl
  | cons character others ih =>
      have read := leadingChar?_utf8EncodeChar character (others.flatMap String.utf8EncodeChar)
      rw [List.flatMap_cons, List.map_cons, ← ih]
      -- the sequence is opened only to show the reader its first octet
      cases octets : String.utf8EncodeChar character with
      | nil => exact absurd octets String.utf8EncodeChar_ne_nil
      | cons first following =>
          rw [octets] at read
          rw [List.cons_append] at read ⊢
          rw [decodeUtf8, decodeAfter, read]
          exact congrArg (some character :: ·) (decodeAfter_append following _)

/-- The octets of a text are read as its characters. -/
theorem decodeUtf8_toUTF8 (text : String) :
    decodeUtf8 text.toUTF8.data.toList = text.toList.map some := by
  have octets : text.toUTF8.data.toList = text.toList.flatMap String.utf8EncodeChar := by
    rw [String.toUTF8, ← String.utf8Encode_toList, List.utf8Encode, List.toList_data_toByteArray]
  rw [octets, decodeUtf8_flatMap]

end CallControl.Text
