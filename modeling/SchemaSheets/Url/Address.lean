import SchemaSheets.Words

/-!
# Internet addresses

Which texts are addresses: dotted quads without leading zeros for version 4,
and for version 6 eight groups of at most four hexadecimal digits, where a
double colon may stand for groups of zeros, the last two groups may be written
as a dotted quad, and a zone may follow a percent sign.
-/

namespace SchemaSheets.Url

def splitAt (sep : Char) (cs : List Char) : List (List Char) := cs.splitOnP (· == sep)

/-- A text before the first occurrence of a character, and what follows it if it occurs. -/
def cut (sep : Char) (cs : List Char) : List Char × Option (List Char) :=
  match cs.dropWhile (· != sep) with
  | [] => (cs, none)
  | _ :: rest => (cs.takeWhile (· != sep), some rest)

def cutLast (sep : Char) (cs : List Char) : Option (List Char) × List Char :=
  match cut sep cs.reverse with
  | (back, none) => (none, back.reverse)
  | (back, some front) => (some front.reverse, back.reverse)

def isOctet (cs : List Char) : Bool :=
  !cs.isEmpty && cs.all Text.isDigit && cs.length ≤ 3 && (cs == ['0'] || cs.head? != some '0') &&
    Text.decimalValue cs ≤ 255

def isVersion4 (cs : List Char) : Bool :=
  let octets := splitAt '.' cs
  octets.length == 4 && octets.all isOctet

def isHexDigit (c : Char) : Bool :=
  Text.isDigit c || ('a' ≤ c && c ≤ 'f') || ('A' ≤ c && c ≤ 'F')

def isGroup (cs : List Char) : Bool := !cs.isEmpty && cs.length ≤ 4 && cs.all isHexDigit

def groups? (cs : List Char) : Option (List (List Char)) :=
  let parts := splitAt ':' cs
  if parts.length < 3 then none
  else
    let last := parts.getLast?.getD []
    if last.contains '.' then
      if isVersion4 last then some (parts.dropLast ++ [['0'], ['0']]) else none
    else some parts

/-- The groups fill an address: there are eight of them, or one gap between
groups stands for at least one. -/
def groupsFill (parts : List (List Char)) : Bool :=
  let inner := (parts.drop 1).dropLast
  match inner.countP (·.isEmpty) with
  | 0 => parts.length == 8 && parts.all isGroup
  | 1 =>
    let gap := inner.findIdx (·.isEmpty)
    let front := parts.take (gap + 1)
    let back := parts.drop (gap + 2)
    let front := if front == [[]] then [] else front
    let back := if back == [[]] then [] else back
    front.all isGroup && back.all isGroup && front.length + back.length < 8
  | _ => false

def isVersion6 (cs : List Char) : Bool :=
  let (address, zone) := cut '%' cs
  let zoneOk := match zone with
    | none => true
    | some z => !z.isEmpty && !z.contains '%'
  zoneOk && !address.contains '/' &&
    match groups? address with
    | some parts => parts.length ≤ 9 && groupsFill parts
    | none => false

/-- An address of a version yet to come: the letter v, a hexadecimal number, a point and more. -/
def isVersionFuture : List Char → Bool
  | 'v' :: rest =>
    let digits := rest.takeWhile isHexDigit
    !digits.isEmpty &&
      match rest.dropWhile isHexDigit with
      | '.' :: c :: more => (c :: more).all (· != '\n')
      | _ => false
  | _ => false

end SchemaSheets.Url
