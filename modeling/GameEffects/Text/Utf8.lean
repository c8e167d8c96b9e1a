import GameEffects.Text.Basic

/-!
# UTF-8

The decoding of bytes to a text, at once or in parts. A sequence that is cut off at the end is told
from one that is wrong, because the next part may complete it.
-/

namespace GameEffects.Text

/-- What is wrong with a sequence of bytes. -/
inductive Utf8Cause
  /-- No sequence starts with this byte. -/
  | start
  /-- A later byte does not continue the sequence. -/
  | continuation
  /-- The bytes end before the sequence. -/
  | cutOff
  deriving DecidableEq, Repr

/-- Why bytes are no text: the first wrong sequence, up to the last byte that fits. -/
structure Utf8Fault where
  /-- The number of bytes before the sequence; zero if the sequence is cut off, because its bytes
  are then looked at by themselves. -/
  position : Nat
  /-- The bytes of the sequence that fit; the first alone if it fits nowhere. -/
  bytes : List UInt8
  /-- What is wrong. -/
  cause : Utf8Cause
  deriving DecidableEq, Repr

/-- The message of a fault in bytes. -/
def Utf8Fault.message (fault : Utf8Fault) : Text :=
  let hex (byte : UInt8) : Text :=
    Nat.toDigits 16 (byte.toNat / 16) ++ Nat.toDigits 16 (byte.toNat % 16)
  let cause : Text :=
    match fault.cause with
    | .start => "invalid start byte".toList
    | .continuation => "invalid continuation byte".toList
    | .cutOff => "unexpected end of data".toList
  let position (n : Nat) : Text := Nat.toDigits 10 n
  let extent : Text :=
    match fault.bytes with
    | [byte] => "byte 0x".toList ++ hex byte ++ " in position ".toList ++ position fault.position
    | bytes =>
      "bytes in position ".toList ++ position fault.position ++ '-' ::
        position (fault.position + bytes.length - 1)
  "'utf-8' codec can't decode ".toList ++ extent ++ ": ".toList ++ cause

/-- The number of bytes that continue a sequence with a given first byte, the bits that the first
byte gives, and the range of the second byte. Overlong forms, surrogates and numbers beyond all code
points are excluded by that range. -/
def leadByte? (byte : UInt8) : Option (Nat × Nat × Nat × Nat) :=
  let n := byte.toNat
  if n < 0x80 then some (0, n, 0, 0)
  else if 0xC2 ≤ n ∧ n ≤ 0xDF then some (1, n - 0xC0, 0x80, 0xBF)
  else if 0xE0 ≤ n ∧ n ≤ 0xEF then
    some (2, n - 0xE0, if n = 0xE0 then 0xA0 else 0x80, if n = 0xED then 0x9F else 0xBF)
  else if 0xF0 ≤ n ∧ n ≤ 0xF4 then
    some (3, n - 0xF0, if n = 0xF0 then 0x90 else 0x80, if n = 0xF4 then 0x8F else 0xBF)
  else none

/-- A sequence that is being decoded. -/
structure Utf8Sequence where
  /-- The bytes of the sequence so far. -/
  bytes : List UInt8
  /-- The number that they give so far. -/
  value : Nat
  /-- The number of bytes to come. -/
  missing : Nat
  /-- The least value of the next byte. -/
  low : Nat
  /-- The greatest value of the next byte. -/
  high : Nat

/-- Decodes bytes after `position` others, with a sequence that has begun before them. The bytes of
a sequence that is cut off at the end are left. -/
def decodeFrom (position : Nat) :
    Option Utf8Sequence → List UInt8 → Except Utf8Fault (Text × List UInt8)
  | none, [] => .ok ([], [])
  | some s, [] => .ok ([], s.bytes)
  | none, byte :: rest =>
    match leadByte? byte with
    | none => .error ⟨position, [byte], .start⟩
    | some (0, value, _, _) => do
      let (more, left) ← decodeFrom (position + 1) none rest
      return (Char.ofNat value :: more, left)
    | some (missing, value, low, high) =>
      decodeFrom (position + 1) (some ⟨[byte], value, missing, low, high⟩) rest
  | some s, byte :: rest =>
    if byte.toNat < s.low ∨ s.high < byte.toNat then
      .error ⟨position - s.bytes.length, s.bytes, .continuation⟩
    else
      let value := 64 * s.value + (byte.toNat - 0x80)
      if s.missing ≤ 1 then do
        let (more, left) ← decodeFrom (position + 1) none rest
        return (Char.ofNat value :: more, left)
      else
        decodeFrom (position + 1) (some ⟨s.bytes ++ [byte], value, s.missing - 1, 0x80, 0xBF⟩) rest

/-- The text of a part of some bytes, and the bytes of a sequence that is cut off at its end. -/
def ofUtf8Part (bytes : List UInt8) : Except Utf8Fault (Text × List UInt8) :=
  decodeFrom 0 none bytes

/-- Nothing, if no bytes of a sequence are left at the end of all bytes. -/
def completed (left : List UInt8) : Except Utf8Fault Unit :=
  if left.isEmpty then .ok () else .error ⟨0, left, .cutOff⟩

/-- The text of bytes. -/
def ofUtf8 (bytes : List UInt8) : Except Utf8Fault Text := do
  let (text, left) ← ofUtf8Part bytes
  completed left
  return text

end GameEffects.Text
