import SchemaSheets.Text.Hex
import SchemaSheets.Text.Utf8

/-!
# Octets of unknown width

A text may come in units of one, two or four octets, in either order.  Which of
these it is shows in a byte order mark, or else in where the first four octets
are zero, given that the text starts with two ASCII characters.  Half of a
surrogate pair may stand alone in the text, which is given by the codes of its
characters.
-/

namespace SchemaSheets.Text

inductive Layout where
  | narrow
  | wide (bigEndian : Bool)
  | widest (bigEndian : Bool)
  deriving DecidableEq, Repr

/-- The layout that octets show, and the octets after a byte order mark. -/
def layoutOf (octets : List UInt8) : Layout × List UInt8 :=
  match octets with
  | 0 :: 0 :: 0xFE :: 0xFF :: rest => (.widest true, rest)
  | 0xFF :: 0xFE :: 0 :: 0 :: rest => (.widest false, rest)
  | 0xFE :: 0xFF :: rest => (.wide true, rest)
  | 0xFF :: 0xFE :: rest => (.wide false, rest)
  | 0xEF :: 0xBB :: 0xBF :: rest => (.narrow, rest)
  | 0 :: b :: _ :: _ :: _ => (if b = 0 then .widest true else .wide true, octets)
  | _ :: 0 :: c :: d :: _ => (if c = 0 && d = 0 then .widest false else .wide false, octets)
  | [0, _] => (.wide true, octets)
  | [_, 0] => (.wide false, octets)
  | _ => (.narrow, octets)

def pairs (bigEndian : Bool) : List UInt8 → Option (List Nat)
  | [] => some []
  | [_] => none
  | a :: b :: rest =>
    (pairs bigEndian rest).map fun units =>
      (if bigEndian then a.toNat * 256 + b.toNat else b.toNat * 256 + a.toNat) :: units

def quads (bigEndian : Bool) : List UInt8 → Option (List Nat)
  | [] => some []
  | a :: b :: c :: d :: rest =>
    let join (a b c d : UInt8) : Nat :=
      ((a.toNat * 256 + b.toNat) * 256 + c.toNat) * 256 + d.toNat
    (quads bigEndian rest).map fun units => (if bigEndian then join a b c d else join d c b a) :: units
  | _ => none

def ofUnits : List Nat → List Nat
  | [] => []
  | [u] => [u]
  | u :: v :: rest =>
    if isHighSurrogate u && isLowSurrogate v then (joinSurrogates u v).toNat :: ofUnits rest
    else u :: ofUnits (v :: rest)

def half? : List UInt8 → Option (Nat × List UInt8)
  | 0xED :: b :: c :: rest =>
    if 0xA0 ≤ b && b < 0xC0 && isTail c.toNat then
      some (0xD000 + (b.toNat - 0x80) * 0x40 + (c.toNat - 0x80), rest)
    else none
  | _ => none

def decodeCodes : Nat → List UInt8 → Option (List Nat)
  | _, [] => some []
  | 0, _ :: _ => some []
  | fuel + 1, a :: rest =>
    match firstChar a.toNat rest with
    | .ok (c, after) => (decodeCodes fuel after).map (c.toNat :: ·)
    | .error _ => do
      let (n, after) ← half? (a :: rest)
      return n :: (← decodeCodes fuel after)

def decodeAny (octets : List UInt8) : Option (List Nat) :=
  match layoutOf octets with
  | (.narrow, octets) => decodeCodes octets.length octets
  | (.wide bigEndian, octets) => (pairs bigEndian octets).map ofUnits
  | (.widest bigEndian, octets) =>
    (quads bigEndian octets).filter (·.all (· ≤ 0x10FFFF))

end SchemaSheets.Text
