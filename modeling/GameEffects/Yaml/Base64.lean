import GameEffects.Text.Basic

/-!
# Bytes in documents

Sequences of bytes are written in base sixty-four: four characters stand for three bytes. Characters
that are no digits do not count, and equals signs stand for digits that are missing at the end.
-/

namespace GameEffects.Yaml.Base64

/-- The value of a digit. -/
def digit? (c : Char) : Option Nat :=
  if 'A' ≤ c ∧ c ≤ 'Z' then some (c.toNat - 'A'.toNat)
  else if 'a' ≤ c ∧ c ≤ 'z' then some (c.toNat - 'a'.toNat + 26)
  else if '0' ≤ c ∧ c ≤ '9' then some (c.toNat - '0'.toNat + 52)
  else if c = '+' then some 62
  else if c = '/' then some 63
  else none

/-- The bytes that the digits of a text give. `count` of the four digits that belong together have
been read, of which `bits` is what no byte holds yet, and `pads` equals signs follow them. -/
def bytesFrom? (count bits pads : Nat) : Text → Option (List UInt8)
  | [] => if count = 0 then some [] else none
  | c :: rest =>
    if c = '=' then
      if count < 2 then bytesFrom? count bits pads rest
      -- Digits and equals signs make four together, so that nothing more is read.
      else if 4 ≤ count + pads + 1 then some []
      else bytesFrom? count bits (pads + 1) rest
    else
      match digit? c, count with
      | none, _ => bytesFrom? count bits pads rest
      | some digit, 0 => bytesFrom? 1 digit 0 rest
      | some digit, 1 => do
        let more ← bytesFrom? 2 (digit % 16) 0 rest
        some (UInt8.ofNat (4 * bits + digit / 16) :: more)
      | some digit, 2 => do
        let more ← bytesFrom? 3 (digit % 4) 0 rest
        some (UInt8.ofNat (16 * bits + digit / 4) :: more)
      | some digit, _ => do
        let more ← bytesFrom? 0 0 0 rest
        some (UInt8.ofNat (64 * bits + digit) :: more)

/-- The bytes that a text gives. Only ASCII texts give any. -/
def bytes? (s : Text) : Option (List UInt8) :=
  if s.all (·.toNat < 0x80) then bytesFrom? 0 0 0 s else none

end GameEffects.Yaml.Base64
