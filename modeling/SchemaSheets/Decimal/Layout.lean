import SchemaSheets.Decimal.Shortest

/-!
# Number text

The written form of integers and binary64 numbers.  A number is written with
the fewest digits that read back.  Its decimal point is written in place while
the number is below `10^16` and not below `10^-4`; otherwise the first digit is
followed by the point and an exponent of at least two digits.
-/

namespace SchemaSheets.Decimal

def digitsOf (n : Nat) : List Char := (Nat.toDigits 10 n)

def intText (n : Int) : String :=
  String.ofList (if n < 0 then '-' :: digitsOf n.natAbs else digitsOf n.natAbs)

/-- How a notation writes what has no digits, and where it moves the point. -/
structure Notation where
  nan : String
  infinity : String
  /-- the point's place, counted from the front of the digits, must lie above this -/
  pointAbove : Int
  /-- and may be at most this, for the positional form -/
  pointAtMost : Int

def plainNotation : Notation := ⟨"nan", "inf", -4, 16⟩

def positional (digits : List Char) (point : Int) : List Char :=
  if point ≤ 0 then '0' :: '.' :: (List.replicate (-point).toNat '0' ++ digits)
  else
    let whole := point.toNat
    if digits.length ≤ whole then
      digits ++ List.replicate (whole - digits.length) '0' ++ ['.', '0']
    else digits.take whole ++ '.' :: digits.drop whole

def scientific (digits : List Char) (point : Int) : List Char :=
  let exponent := point - 1
  let size := digitsOf exponent.natAbs
  let padded := if size.length < 2 then '0' :: size else size
  let lead := match digits with
    | [] => []
    | [d] => [d]
    | d :: rest => d :: '.' :: rest
  lead ++ 'e' :: (if exponent < 0 then '-' else '+') :: padded

def magnitudeText (style : Notation) : Binary64.Reading → List Char
  | .nan => style.nan.toList
  | .infinite _ => style.infinity.toList
  | .finite _ 0 _ => ['0', '.', '0']
  | .finite _ m q =>
    let d := shortest m q
    let digits := digitsOf d.digits
    let point := d.exponent + digits.length
    if style.pointAbove < point ∧ point ≤ style.pointAtMost then positional digits point
    else scientific digits point

def signed : Binary64.Reading → Bool
  | .nan => false
  | .infinite negative => negative
  | .finite negative _ _ => negative

def textIn (style : Notation) (x : Binary64) : String :=
  let magnitude := magnitudeText style x.read
  String.ofList (if signed x.read then '-' :: magnitude else magnitude)

def text (x : Binary64) : String := textIn plainNotation x

end SchemaSheets.Decimal
