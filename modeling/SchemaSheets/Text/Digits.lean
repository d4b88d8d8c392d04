/-!
# Decimal digits

The digits of ASCII, the number that digits stand for, and the exponent that
may follow them.
-/

namespace SchemaSheets.Text

def isDigit (c : Char) : Bool := '0' ≤ c && c ≤ '9'

theorem isDigit_iff {c : Char} : isDigit c = true ↔ 0x30 ≤ c.toNat ∧ c.toNat ≤ 0x39 := by
  simp [isDigit, Char.le_def, UInt32.le_iff_toNat_le]

def decimalValue (digits : List Char) : Nat :=
  digits.foldl (fun n c => n * 10 + (c.toNat - 48)) 0

def exponentDigits (cs : List Char) : Option (Int × List Char) :=
  let (negative, rest) := match cs with
    | '-' :: rest => (true, rest)
    | '+' :: rest => (false, rest)
    | rest => (false, rest)
  match rest.takeWhile isDigit with
  | [] => none
  | digits =>
    let n : Int := decimalValue digits
    some (if negative then -n else n, rest.dropWhile isDigit)

def exponentPart : List Char → Option Int × List Char
  | [] => (none, [])
  | c :: rest =>
    if c == 'e' || c == 'E' then
      match exponentDigits rest with
      | some (n, rest) => (some n, rest)
      | none => (none, c :: rest)
    else (none, c :: rest)

end SchemaSheets.Text
