/-!
# UTF-8

Octets as characters.  The decoder stops at the first octets that begin no
character, and tells where they are and what is wrong with them.
-/

namespace SchemaSheets.Text

/-- What is wrong with octets that encode no character. -/
inductive OctetProblem where
  | badStart
  | badContinuation
  | unexpectedEnd
  deriving DecidableEq, Repr

def OctetProblem.message : OctetProblem → String
  | badStart => "invalid start byte"
  | badContinuation => "invalid continuation byte"
  | unexpectedEnd => "unexpected end of data"

/-- Octets that encode no character: the first of them, and how many there are. -/
structure OctetFault where
  problem : OctetProblem
  octet : Nat
  count : Nat
  deriving DecidableEq, Repr

def isTail (b : Nat) : Bool := 0x80 ≤ b && b < 0xC0

/-- The second octet may follow the first: no overlong form, no surrogate, nothing above U+10FFFF. -/
def fitsSecond (first second : Nat) : Bool :=
  isTail second &&
    (if first = 0xE0 then 0xA0 ≤ second
     else if first = 0xED then second < 0xA0
     else if first = 0xF0 then 0x90 ≤ second
     else if first = 0xF4 then second < 0x90
     else true)

def encodedLength? (first : Nat) : Option Nat :=
  if first < 0x80 then some 1
  else if first < 0xC2 then none
  else if first < 0xE0 then some 2
  else if first < 0xF0 then some 3
  else if first < 0xF5 then some 4
  else none

/-- The character at the front and the octets after it. -/
def firstChar (a : Nat) (rest : List UInt8) : Except OctetFault (Char × List UInt8) :=
  let fault (problem : OctetProblem) (count : Nat) := Except.error ⟨problem, a, count⟩
  match encodedLength? a, rest with
  | none, _ => fault .badStart 1
  | some 1, rest => .ok (Char.ofNat a, rest)
  | some n, [] => if n = 1 then .ok (Char.ofNat a, []) else fault .unexpectedEnd 1
  | some n, b :: rest =>
    let b := b.toNat
    if !fitsSecond a b then fault .badContinuation 1
    else if n = 2 then .ok (Char.ofNat ((a - 0xC0) * 0x40 + (b - 0x80)), rest)
    else
      match rest with
      | [] => fault .unexpectedEnd 2
      | c :: rest =>
        let c := c.toNat
        if !isTail c then fault .badContinuation 2
        else if n = 3 then
          .ok (Char.ofNat (((a - 0xE0) * 0x40 + (b - 0x80)) * 0x40 + (c - 0x80)), rest)
        else
          match rest with
          | [] => fault .unexpectedEnd 3
          | d :: rest =>
            let d := d.toNat
            if !isTail d then fault .badContinuation 3
            else
              let high := ((a - 0xF0) * 0x40 + (b - 0x80)) * 0x40 + (c - 0x80)
              .ok (Char.ofNat (high * 0x40 + (d - 0x80)), rest)

/-- The characters of octets, at most `fuel` of them; a fault comes with its position. -/
def decodeFrom : Nat → Nat → List UInt8 → Except (Nat × OctetFault) (List Char)
  | _, _, [] => .ok []
  | 0, _, _ :: _ => .ok []
  | fuel + 1, position, a :: rest =>
    match firstChar a.toNat rest with
    | .error fault => .error (position, fault)
    | .ok (c, after) =>
      match decodeFrom fuel (position + (rest.length + 1 - after.length)) after with
      | .ok cs => .ok (c :: cs)
      | .error e => .error e

def decodeUtf8 (octets : List UInt8) : Except (Nat × OctetFault) (List Char) :=
  decodeFrom octets.length 0 octets

def encodeUtf8 (s : String) : List UInt8 := s.toList.flatMap String.utf8EncodeChar

def unifyLineEnds : List Char → List Char
  | '\r' :: '\n' :: rest => '\n' :: unifyLineEnds rest
  | '\r' :: rest => '\n' :: unifyLineEnds rest
  | c :: rest => c :: unifyLineEnds rest
  | [] => []

end SchemaSheets.Text
