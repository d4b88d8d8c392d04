import SchemaSheets.Decimal.Power

/-!
# Binary64 numbers

A floating-point number is kept as its 64-bit word, so that two numbers are
equal exactly when their words are.  `read` takes the word apart into an exact
significand and power of two; `ofRatio` and `ofDecimal` find the word nearest
to an exact fraction, a tie going to the even significand.
-/

namespace SchemaSheets

/-- A floating-point number of 64 bits, kept as its word. -/
structure Binary64 where
  /-- sign, exponent and fraction, from the highest bit down -/
  bits : UInt64
  deriving DecidableEq, Repr, Inhabited

open Decimal (twoTo tenTo)

namespace Binary64

/-- What a word stands for: `finite negative m q` is `m · 2^q` with its sign. -/
inductive Reading where
  | nan
  | infinite (negative : Bool)
  | finite (negative : Bool) (significand : Nat) (exponent : Int)
  deriving DecidableEq, Repr

def isNegative (x : Binary64) : Bool := x.bits.toNat / twoTo 63 == 1

def read (x : Binary64) : Reading :=
  let biased : Nat := x.bits.toNat / twoTo 52 % twoTo 11
  let fraction : Nat := x.bits.toNat % twoTo 52
  if biased = 2047 then
    if fraction = 0 then .infinite x.isNegative else .nan
  else if biased = 0 then .finite x.isNegative fraction (-1074)
  else .finite x.isNegative (twoTo 52 + fraction) ((biased : Int) - 1075)

def ofMagnitude (negative : Bool) (magnitude : Nat) : Binary64 :=
  ⟨UInt64.ofNat ((if negative then twoTo 63 else 0) + magnitude)⟩

def infinity (negative : Bool) : Binary64 := ofMagnitude negative (2047 * twoTo 52)

def nan : Binary64 := ofMagnitude false (2047 * twoTo 52 + twoTo 51)

/-- The quotient rounded to the nearest natural number, a half going to the even neighbour. -/
def roundDiv (num den : Nat) : Nat :=
  let quotient := num / den
  let twice := 2 * (num % den)
  if twice < den then quotient
  else if den < twice then quotient + 1
  else quotient + quotient % 2

def floorLog2 (num den : Nat) : Int :=
  let guess : Int := (num.log2 : Int) - den.log2
  if den * twoTo guess.toNat ≤ num * twoTo (-guess).toNat then guess else guess - 1

def ofRatio (negative : Bool) (num den : Nat) : Binary64 :=
  if num = 0 then ofMagnitude negative 0
  else
    let q : Int := max (floorLog2 num den - 52) (-1074)
    let m := roundDiv (num * twoTo (-q).toNat) (den * twoTo q.toNat)
    let magnitude := if m < twoTo 52 then m else (q + 1075).toNat * twoTo 52 + (m - twoTo 52)
    ofMagnitude negative (min magnitude (2047 * twoTo 52))

def digitCount : Nat → Nat → Nat
  | 0, _ => 0
  | fuel + 1, n => if n = 0 then 0 else digitCount fuel (n / 10) + 1

/-- The number nearest to `significand · 10^exponent`.  A value outside the
range of the format is recognised by its number of digits, before any large
power is formed. -/
def ofDecimal (negative : Bool) (significand : Nat) (exponent : Int) : Binary64 :=
  let places := (digitCount (significand.log2 + 1) significand : Int) + exponent
  if significand = 0 || places < -330 then ofMagnitude negative 0
  else if places > 330 then infinity negative
  else ofRatio negative (significand * tenTo exponent.toNat) (tenTo (-exponent).toNat)

def ofInt (n : Int) : Binary64 := ofRatio (n < 0) n.natAbs 1

def toFraction? (x : Binary64) : Option (Int × Nat) :=
  match x.read with
  | .finite negative m q =>
    let num : Int := m * twoTo q.toNat
    some (if negative then -num else num, twoTo (-q).toNat)
  | _ => none

def equalsInt (x : Binary64) (n : Int) : Bool :=
  match x.toFraction? with
  | some (num, den) => num == n * den
  | none => false

/-- Two numbers are equal as quantities: zeros agree whatever their sign, and
what is no number equals nothing. -/
def sameQuantity (x y : Binary64) : Bool :=
  match x.read, y.read with
  | .nan, _ | _, .nan => false
  | .finite _ 0 _, .finite _ 0 _ => true
  | _, _ => x == y

def isZero (x : Binary64) : Bool := x.bits.toNat % twoTo 63 == 0

def toFloat (x : Binary64) : Float := Float.ofBits x.bits

def ofFloat (x : Float) : Binary64 := ⟨x.toBits⟩

end Binary64

end SchemaSheets
