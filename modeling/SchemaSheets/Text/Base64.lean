import SchemaSheets.Decimal.Power
import SchemaSheets.Text.Digits

/-!
# Base64

Octets in groups of six bits.  A character outside the alphabet counts for
nothing.  The last group of characters has to be filled up with equals signs,
and what follows them is not read.
-/

namespace SchemaSheets.Text

open Decimal (twoTo)

def sixBits? (c : Char) : Option Nat :=
  if 'A' ≤ c && c ≤ 'Z' then some (c.toNat - 65)
  else if 'a' ≤ c && c ≤ 'z' then some (c.toNat - 71)
  else if isDigit c then some (c.toNat + 4)
  else if c == '+' then some 62
  else if c == '/' then some 63
  else none

/-- The octets of a text.  `held` counts the characters of the current group, `bits` holds what is
left over of them, and `pads` counts the equals signs at the end so far. -/
def octetsFrom (held bits pads : Nat) : List Char → Option (List UInt8)
  | [] => if held = 0 then some [] else none
  | c :: rest =>
    if c = '=' then
      if 2 ≤ held ∧ 4 ≤ held + pads + 1 then some []
      else octetsFrom held bits (if 2 ≤ held then pads + 1 else pads) rest
    else
      match sixBits? c with
      | none => octetsFrom held bits pads rest
      | some n =>
        if held = 0 then octetsFrom 1 n 0 rest
        else
          let spare := 6 - 2 * held
          let all := bits * 64 + n
          let octet := UInt8.ofNat (all / twoTo spare)
          (octetsFrom ((held + 1) % 4) (all % twoTo spare) 0 rest).map (octet :: ·)

def decodeBase64 (cs : List Char) : Option (List UInt8) := octetsFrom 0 0 0 cs

/-- Three octets make four characters, and a shorter rest is filled up. -/
example :
    decodeBase64 "TWFu".toList = some [77, 97, 110] ∧ decodeBase64 "TWE=".toList = some [77, 97] ∧
      decodeBase64 "TQ==".toList = some [77] ∧ decodeBase64 "TQ=".toList = none := by
  decide +kernel

end SchemaSheets.Text
