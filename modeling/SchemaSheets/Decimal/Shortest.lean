import SchemaSheets.Decimal.Binary64

/-!
# Shortest decimals

The shortest decimal that reads back as a given binary64: of all decimals with
the fewest digits inside the interval of reals that round to the number, the
one nearest to it.  The interval's ends belong to it exactly when the
significand is even.
-/

namespace SchemaSheets.Decimal

/-- A positive decimal `digits · 10^exponent`. -/
structure Numeral where
  digits : Nat
  exponent : Int
  deriving DecidableEq, Repr

structure Ratio where
  num : Nat
  den : Nat

namespace Ratio

def dyadic (m : Nat) (q : Int) : Ratio := ⟨m * twoTo q.toNat, twoTo (-q).toNat⟩

def decimal (d : Nat) (k : Int) : Ratio := ⟨d * tenTo k.toNat, tenTo (-k).toNat⟩

def lt (a b : Ratio) : Bool := a.num * b.den < b.num * a.den

def le (a b : Ratio) : Bool := a.num * b.den ≤ b.num * a.den

def floorDiv (a b : Ratio) : Nat := a.num * b.den / (a.den * b.num)

def distance (a b : Ratio) : Ratio :=
  let x := a.num * b.den
  let y := b.num * a.den
  ⟨if x ≤ y then y - x else x - y, a.den * b.den⟩

end Ratio

/-- The reals that round to `m · 2^q`: lower end, upper end, and whether the ends belong. -/
structure Neighbourhood where
  lower : Ratio
  upper : Ratio
  closed : Bool

/-- The gap below a power of two is half the gap above it, except at the bottom of the range. -/
def neighbourhood (m : Nat) (q : Int) : Neighbourhood where
  lower :=
    if m = twoTo 52 && q > -1074 then .dyadic (4 * m - 1) (q - 2) else .dyadic (2 * m - 1) (q - 1)
  upper := .dyadic (2 * m + 1) (q - 1)
  closed := m % 2 = 0

def Neighbourhood.contains (n : Neighbourhood) (x : Ratio) : Bool :=
  if n.closed then n.lower.le x && x.le n.upper else n.lower.lt x && x.lt n.upper

/-- The greatest `p` with `10^p ≤ m · 2^q`: a guess from the binary logarithm, then at most three
steps up. -/
def floorLog10 (m : Nat) (q : Int) : Int :=
  let v := Ratio.dyadic m q
  let guess : Int := Int.fdiv ((m.log2 + q) * 30103) 100000 - 1
  [guess + 1, guess + 2, guess + 3].foldl
    (fun p candidate => if (Ratio.decimal 1 candidate).le v then candidate else p) guess

/-- The decimal on the grid `10^k` nearest to `v` that lies in the neighbourhood, if one does; a
tie goes to the even digit. -/
def nearestOnGrid (n : Neighbourhood) (v : Ratio) (k : Int) : Option Nat :=
  let below := v.floorDiv (.decimal 1 k)
  let above := below + 1
  match n.contains (.decimal below k), n.contains (.decimal above k) with
  | true, false => some below
  | false, true => some above
  | false, false => none
  | true, true =>
    let toBelow := v.distance (.decimal below k)
    let toAbove := v.distance (.decimal above k)
    if toBelow.lt toAbove then some below
    else if toAbove.lt toBelow then some above
    else some (if below % 2 = 0 then below else above)

def stripZeros : Nat → Nat → Int → Numeral
  | 0, d, k => ⟨d, k⟩
  | fuel + 1, d, k => if d % 10 = 0 && d ≠ 0 then stripZeros fuel (d / 10) (k + 1) else ⟨d, k⟩

def searchGrids (n : Neighbourhood) (v : Ratio) : Nat → Int → Numeral
  | 0, k => ⟨v.floorDiv (.decimal 1 k), k⟩
  | fuel + 1, k =>
    match nearestOnGrid n v k with
    | some d => stripZeros 400 d k
    | none => searchGrids n v fuel (k - 1)

def shortest (m : Nat) (q : Int) : Numeral :=
  searchGrids (neighbourhood m q) (.dyadic m q) 17 (floorLog10 m q)

end SchemaSheets.Decimal
