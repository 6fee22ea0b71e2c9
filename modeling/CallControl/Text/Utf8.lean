/-! # UTF-8 octets

Octets read as characters, one entry for each well-formed sequence and one empty
entry for each octet that belongs to none. Text outside strings must be free of
empty entries; the scanner of JSON documents decides where they matter
(`CallControl.Json.Scanner`).
-/

namespace CallControl.Text

/-- An octet that continues a sequence. -/
def isContinuation (octet : UInt8) : Bool :=
  0x80 ≤ octet && octet ≤ 0xBF

/-- The bounds on the octet after a leading one: they exclude long forms,
surrogates and numbers beyond the last code point. -/
def secondOctetBounds (leading : UInt8) : UInt8 × UInt8 :=
  if leading == 0xE0 then (0xA0, 0xBF)
  else if leading == 0xED then (0x80, 0x9F)
  else if leading == 0xF0 then (0x90, 0xBF)
  else if leading == 0xF4 then (0x80, 0x8F)
  else (0x80, 0xBF)

/-- The low six bits of a continuation octet. -/
def continuationBits (octet : UInt8) : Nat :=
  octet.toNat % 64

/-- The character whose sequence stands at the front of some octets, and how many
octets follow its first. -/
def leadingChar? : List UInt8 → Option (Char × Nat)
  | [] => none
  | first :: rest =>
      if first < 0x80 then some (Char.ofNat first.toNat, 0)
      else if 0xC2 ≤ first && first ≤ 0xDF then
        match rest with
        | second :: _ =>
            if isContinuation second then
              some (Char.ofNat (first.toNat % 32 * 64 + continuationBits second), 1)
            else none
        | [] => none
      else if 0xE0 ≤ first && first ≤ 0xEF then
        match rest with
        | second :: third :: _ =>
            let bounds := secondOctetBounds first
            if bounds.1 ≤ second && second ≤ bounds.2 && isContinuation third then
              some (Char.ofNat ((first.toNat % 16 * 64 + continuationBits second) * 64 +
                continuationBits third), 2)
            else none
        | _ => none
      else if 0xF0 ≤ first && first ≤ 0xF4 then
        match rest with
        | second :: third :: fourth :: _ =>
            let bounds := secondOctetBounds first
            if bounds.1 ≤ second && second ≤ bounds.2 && isContinuation third &&
                isContinuation fourth then
              some (Char.ofNat (((first.toNat % 8 * 64 + continuationBits second) * 64 +
                continuationBits third) * 64 + continuationBits fourth), 3)
            else none
        | _ => none
      else none

/-- The characters of some octets after the first `covered`, which belong to a
sequence already read. -/
def decodeAfter : Nat → List UInt8 → List (Option Char)
  | _, [] => []
  | covered + 1, _ :: rest => decodeAfter covered rest
  | 0, first :: rest =>
      match leadingChar? (first :: rest) with
      | some (character, following) => some character :: decodeAfter following rest
      | none => none :: decodeAfter 0 rest

/-- The characters of some octets. -/
def decodeUtf8 (octets : List UInt8) : List (Option Char) :=
  decodeAfter 0 octets

end CallControl.Text
