import GameEffects.Number.Binary64
import GameEffects.Text.Utf8

/-!
# Files of text

A file whose bytes are read and decoded in parts while its characters are taken in pieces. Every
line end becomes a line feed. What is wrong with the bytes of a part shows when the part is read.
-/

namespace GameEffects.Text

/-- A text in which every line end is a line feed. -/
def withLineFeeds : Text → Text
  | '\r' :: '\n' :: rest => '\n' :: withLineFeeds rest
  | '\r' :: rest => '\n' :: withLineFeeds rest
  | c :: rest => c :: withLineFeeds rest
  | [] => []

/-- A file that is being read. -/
structure File where
  /-- The bytes that have not been read. -/
  unread : List UInt8
  /-- The bytes of a sequence that is cut off at the end of the last part. -/
  undecoded : List UInt8 := []
  /-- Whether the last part ended with a carriage return, which may be half of a line end. -/
  heldReturn : Bool := false
  /-- The characters that have been decoded and not taken. -/
  ready : Text := []
  /-- The number of bytes of the last part. -/
  partBytes : Nat := 0
  /-- The number of characters of the last part. -/
  partChars : Nat := 0

namespace File

/-- The number of bytes that are read as one part when `wanted` characters are missing: as many as
the last part suggests, and no fewer than 8192. -/
def partSize (f : File) (wanted : Nat) : Nat :=
  let perChar := Binary64.nearest false ((f.partBytes : Rat) / f.partChars)
  let estimate := ((perChar.mul (.ofInt wanted)).truncate?.getD 0).toNat
  if f.partBytes ≤ f.partChars ∨ f.partChars = 0 then 8192 else max 8192 estimate

/-- Whether nothing is left to be read or decoded. -/
def isExhausted (f : File) : Bool :=
  f.unread.isEmpty && f.undecoded.isEmpty && !f.heldReturn

/-- Reads and decodes the next part. After the last byte only a carriage return can be left. -/
def readPart (f : File) (wanted : Nat) : Except Utf8Fault File :=
  if f.unread.isEmpty then do
    completed f.undecoded
    let last : Text := if f.heldReturn then ['\n'] else []
    return { f with ready := f.ready ++ last, heldReturn := false }
  else do
    let size := f.partSize wanted
    let part := f.unread.take size
    let (text, undecoded) ← ofUtf8Part (f.undecoded ++ part)
    let text := if f.heldReturn && !text.isEmpty then '\r' :: text else text
    let holds := text.getLast? == some '\r'
    let fresh := withLineFeeds (if holds then text.dropLast else text)
    return {
      unread := f.unread.drop size
      undecoded := undecoded
      heldReturn := holds || (f.heldReturn && text.isEmpty)
      ready := f.ready ++ fresh
      partBytes := part.length
      partChars := fresh.length }

/-- Takes characters until `wanted` are taken or the file is exhausted, reading at most `parts`
parts. -/
def takeWith (parts wanted : Nat) (f : File) : Except Utf8Fault (Text × File) :=
  let now := f.ready.take wanted
  let f := { f with ready := f.ready.drop wanted }
  match parts with
  | 0 => .ok (now, f)
  | parts + 1 =>
    if now.length = wanted || f.isExhausted then .ok (now, f)
    else do
      let f ← f.readPart (wanted - now.length)
      let (more, f) ← takeWith parts (wanted - now.length) f
      return (now ++ more, f)

/-- Takes the next `wanted` characters, or all that are left. Every part has at least one byte. -/
def take (f : File) (wanted : Nat) : Except Utf8Fault (Text × File) :=
  f.takeWith (f.unread.length + 2) wanted

end File

end GameEffects.Text
