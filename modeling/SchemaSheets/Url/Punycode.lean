import SchemaSheets.Text.Hex

/-!
# Labels in ASCII

A label with characters outside ASCII is written as its ASCII characters, a
hyphen, and digits that tell where the others go and which they are.  `encode`
writes these, and `decode?` reads them.
-/

namespace SchemaSheets.Url.Punycode

/-! ### Digits -/

def digit (n : Nat) : Char := if n < 26 then Char.ofNat (97 + n) else Char.ofNat (22 + n)

def digitValue? (c : Char) : Option Nat :=
  if 'a' ≤ c && c ≤ 'z' then some (c.toNat - 97)
  else if '0' ≤ c && c ≤ '9' then some (c.toNat - 22)
  else none

def threshold (bias place : Nat) : Nat :=
  if place ≤ bias then 1 else if bias + 26 ≤ place then 26 else place - bias

def adapt (delta points : Nat) (first : Bool) : Nat :=
  let delta := if first then delta / 700 else delta / 2
  go 0 (delta + delta / points)
where
  /-- Halves the range until it is small enough. -/
  go (bias delta : Nat) : Nat :=
    if h : 455 < delta then go (bias + 36) (delta / 35)
    else bias + 36 * delta / (delta + 38)
  termination_by delta
  decreasing_by omega

/-! ### Writing -/

def variableDigits (bias : Nat) : Nat → Nat → Nat → List Char
  | 0, _, _ => []
  | fuel + 1, place, q =>
    let t := threshold bias place
    if q < t then [digit q]
    else digit (t + (q - t) % (36 - t)) :: variableDigits bias fuel (place + 36) ((q - t) / (36 - t))

/-- The state of the encoder: the next code point, the distance since the last insertion, the bias,
and the number of characters that are written already. -/
structure Progress where
  code : Nat
  delta : Nat
  bias : Nat
  written : Nat

/-- The digits for one code point, which stands where the label's characters have it. -/
def insertions (basic code : Nat) : Progress → List Char → List Char × Progress
  | p, [] => ([], p)
  | p, c :: rest =>
    if c.toNat < code then insertions basic code { p with delta := p.delta + 1 } rest
    else if c.toNat = code then
      let digits := variableDigits p.bias (p.delta + 1) 36 p.delta
      let p := { p with
        bias := adapt p.delta (p.written + 1) (p.written == basic)
        delta := 0
        written := p.written + 1 }
      let (more, p) := insertions basic code p rest
      (digits ++ more, p)
    else insertions basic code p rest

def encodeFrom (label : List Char) (basic : Nat) : Nat → Progress → List Char
  | 0, _ => []
  | fuel + 1, p =>
    match ((label.map Char.toNat).filter (p.code ≤ ·)).min? with
    | none => []
    | some next =>
      let p := { p with delta := p.delta + (next - p.code) * (p.written + 1) }
      let (digits, p) := insertions basic next p label
      digits ++ encodeFrom label basic fuel { p with code := next + 1, delta := p.delta + 1 }

def encode (label : List Char) : List Char :=
  let basic := label.filter (·.toNat < 0x80)
  let lead := if basic.isEmpty then [] else basic ++ ['-']
  lead ++ encodeFrom label basic.length (label.length + 1) ⟨0x80, 0, 72, basic.length⟩

/-! ### Reading -/

def decodeNumber (bias place weight sum : Nat) : List Char → Option (Nat × List Char)
  | [] => none
  | c :: rest => do
    let d ← digitValue? c
    let t := threshold bias place
    let sum := sum + d * weight
    if d < t then return (sum, rest)
    else decodeNumber bias (place + 36) (weight * (36 - t)) sum rest

/-- The label after all insertions; `start` is the place behind the last one. -/
def decodeFrom : Nat → List Char → Nat → Nat → Nat → Bool → List Char → Option (List Char)
  | _, label, _, _, _, _, [] => some label
  | 0, _, _, _, _, _, _ => none
  | fuel + 1, label, code, bias, start, first, digits => do
    let (delta, rest) ← decodeNumber bias 36 1 0 digits
    let size := label.length + 1
    let code := code + (start + delta) / size
    let place := (start + delta) % size
    let c ← Text.charOfCode? code
    decodeFrom fuel (label.take place ++ c :: label.drop place) code (adapt delta size first)
      (place + 1) false rest

def decode? (written : List Char) : Option (List Char) :=
  let (basic, digits) :=
    match (written.reverse.span (· != '-')) with
    | (back, _ :: front) => (front.reverse, back.reverse)
    | (_, []) => ([], written)
  decodeFrom written.length basic 0x80 72 0 true digits

example : encode "bücher".toList = "bcher-kva".toList := by decide +kernel

example : decode? "bcher-kva".toList = some "bücher".toList := by decide +kernel

end SchemaSheets.Url.Punycode
