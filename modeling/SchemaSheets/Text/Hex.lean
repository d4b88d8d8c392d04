/-!
# Hexadecimal digits
-/

namespace SchemaSheets.Text

def hexDigit? (c : Char) : Option Nat :=
  if '0' ≤ c && c ≤ '9' then some (c.toNat - 48)
  else if 'a' ≤ c && c ≤ 'f' then some (c.toNat - 87)
  else if 'A' ≤ c && c ≤ 'F' then some (c.toNat - 55)
  else none

def hexValue? (cs : List Char) : Option Nat :=
  cs.foldlM (fun n c => (hexDigit? c).map (n * 16 + ·)) 0

def hex4? (a b c d : Char) : Option Nat := hexValue? [a, b, c, d]

def isHighSurrogate (n : Nat) : Bool := 0xD800 ≤ n && n ≤ 0xDBFF

def isLowSurrogate (n : Nat) : Bool := 0xDC00 ≤ n && n ≤ 0xDFFF

def joinSurrogates (high low : Nat) : Char :=
  Char.ofNat (0x10000 + (high - 0xD800) * 0x400 + (low - 0xDC00))

def charOfCode? (n : Nat) : Option Char :=
  if isHighSurrogate n || isLowSurrogate n || 0x10FFFF < n then none else some (Char.ofNat n)

/-- The character that stands for a code; half of a surrogate pair has none and stands as U+FFFD. -/
def charOfCode (n : Nat) : Char := (charOfCode? n).getD '\uFFFD'

end SchemaSheets.Text
