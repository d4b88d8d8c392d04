import SchemaSheets.Decimal.Binary64
import SchemaSheets.Text.Hex
import SchemaSheets.Text.Numeral

/-!
# Numbers as texts

Integers in a given base, and binary64 numbers in decimal digits.  Blanks may
stand around a number and a sign in front of it.
-/

namespace SchemaSheets.Text

def baseLetter? : Nat → Option Char
  | 2 => some 'b'
  | 8 => some 'o'
  | 16 => some 'x'
  | _ => none

def unmarked (base : Nat) : List Char → List Char
  | '0' :: c :: rest => if baseLetter? base == some c.toLower then rest else '0' :: c :: rest
  | cs => cs

def digitsIn? (base : Nat) (cs : List Char) : Option Nat :=
  let step (n : Nat) (c : Char) : Option Nat := do
    let d ← hexDigit? c
    if d < base then return n * base + d else none
  if cs.isEmpty then none else cs.foldlM step 0

def signAndRest : List Char → Bool × List Char
  | '-' :: rest => (true, rest)
  | '+' :: rest => (false, rest)
  | cs => (false, cs)

def integerIn? (base : Nat) (cs : List Char) : Option Int :=
  let (negative, rest) := signAndRest (numeral cs)
  (digitsIn? base (unmarked base rest)).map fun n => if negative then -(n : Int) else n

def numberWord? (negative : Bool) (cs : List Char) : Option Binary64 :=
  let word := String.ofList (cs.map Char.toLower)
  if word == "nan" then some .nan
  else if word == "inf" || word == "infinity" then some (.infinity negative)
  else none

/-- The number that a text is: digits with a point or without, and an exponent if there is one. -/
def number? (cs : List Char) : Option Binary64 :=
  let (negative, rest) := signAndRest (numeral cs)
  let whole := rest.takeWhile isDigit
  let afterWhole := rest.dropWhile isDigit
  let (fraction, afterFraction) := match afterWhole with
    | '.' :: rest => (rest.takeWhile isDigit, rest.dropWhile isDigit)
    | rest => ([], rest)
  if whole.isEmpty && fraction.isEmpty then numberWord? negative rest
  else
    match exponentPart afterFraction with
    | (exponent, []) =>
      let places : Int := exponent.getD 0 - fraction.length
      some (.ofDecimal negative (decimalValue (whole ++ fraction)) places)
    | _ => none

end SchemaSheets.Text
