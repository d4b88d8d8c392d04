import SchemaSheets.Value.Basic
import SchemaSheets.Text.Printable

/-!
# Displayed values

How a value is shown inside a message: texts in quotes, single ones unless the
text holds a single quote and no double one; characters that are not printable
by number; lists in brackets and mappings in braces.
-/

namespace SchemaSheets.Display

def hex (width n : Nat) : List Char :=
  let digits := Nat.toDigits 16 n
  List.replicate (width - digits.length) '0' ++ digits

def quoteFor (cs : List Char) : Char :=
  if cs.contains '\'' && !cs.contains '"' then '"' else '\''

def quotedChar (quote c : Char) : List Char :=
  if c == quote || c == '\\' then ['\\', c]
  else if c == '\n' then ['\\', 'n']
  else if c == '\r' then ['\\', 'r']
  else if c == '\t' then ['\\', 't']
  else if Text.isPrintable c then [c]
  else if c.toNat < 0x100 then '\\' :: 'x' :: hex 2 c.toNat
  else if c.toNat < 0x10000 then '\\' :: 'u' :: hex 4 c.toNat
  else '\\' :: 'U' :: hex 8 c.toNat

def text (s : String) : String :=
  let quote := quoteFor s.toList
  String.ofList (quote :: s.toList.flatMap (quotedChar quote) ++ [quote])

/-- A character by its code; half of a surrogate pair is shown by its number. -/
def coded (shown : Char → List Char) (n : Nat) : List Char :=
  match Text.charOfCode? n with
  | some c => shown c
  | none => '\\' :: 'u' :: hex 4 n

def torn (codes : List Nat) : String :=
  let quote := quoteFor (codes.map Text.charOfCode)
  String.ofList (quote :: codes.flatMap (coded (quotedChar quote)) ++ [quote])

def quotedOctet (quote : Char) (b : UInt8) : List Char :=
  let c := Char.ofNat b.toNat
  if 0x20 ≤ b.toNat && b.toNat < 0x7F || c == '\n' || c == '\r' || c == '\t' then quotedChar quote c
  else '\\' :: 'x' :: hex 2 b.toNat

def bytes (octets : List UInt8) : String :=
  let quote := quoteFor (octets.map fun b => Char.ofNat b.toNat)
  String.ofList ('b' :: quote :: octets.flatMap (quotedOctet quote) ++ [quote])

def numbers (ns : List Nat) : String := ", ".intercalate (ns.map fun (n : Nat) => Decimal.intText n)

def span (minutes : Int) : String :=
  let days := Int.fdiv minutes (24 * 60)
  let seconds := (minutes - days * (24 * 60)) * 60
  let dayPart := if days = 0 then "" else s!"days={Decimal.intText days}"
  let secondPart := if seconds = 0 then "" else s!"seconds={Decimal.intText seconds}"
  "datetime.timedelta(" ++ ", ".intercalate ([dayPart, secondPart].filter (· != "")) ++ ")"

def offset (minutes : Int) : String :=
  if minutes = 0 then "datetime.timezone.utc" else "datetime.timezone(" ++ span minutes ++ ")"

/-- A time; seconds and microseconds are left out while they are zero. -/
def timestamp (t : Timestamp) : String :=
  let clock :=
    if t.microsecond = 0 then if t.second = 0 then [] else [t.second]
    else [t.second, t.microsecond]
  "datetime.datetime(" ++
    numbers ([t.date.year, t.date.month, t.date.day, t.hour, t.minute] ++ clock) ++
    (match t.offset with
      | none => ""
      | some minutes => ", tzinfo=" ++ offset minutes) ++ ")"

def scalar : Scalar → String
  | .null => "None"
  | .bool true => "True"
  | .bool false => "False"
  | .int n => Decimal.intText n
  | .float x => Decimal.text x
  | .str s => text s
  | .date d => "datetime.date(" ++ numbers [d.year, d.month, d.day] ++ ")"
  | .timestamp t => timestamp t
  | .bytes octets => bytes octets
  | .torn codes => torn codes
  | .again true => "\x7b...\x7d"
  | .again false => "[...]"

mutual
def value : Value → String
  | .scalar s => scalar s
  | .list items => "[" ++ ", ".intercalate (values items) ++ "]"
  | .map entries => "\x7b" ++ ", ".intercalate (members entries) ++ "\x7d"
  | .set [] => "set()"
  | .set (m :: ms) => "\x7b" ++ ", ".intercalate ((m :: ms).map scalar) ++ "\x7d"
  | .schema _ => "<graphql.type.schema.GraphQLSchema object>"

def values : List Value → List String
  | [] => []
  | v :: vs => value v :: values vs

def members : Entries → List String
  | [] => []
  | (k, v) :: rest => (scalar k ++ ": " ++ value v) :: members rest
end

def plain : Value → String
  | .str s => s
  | .scalar (.date d) => d.isoText
  | .scalar (.timestamp t) => t.isoText.replace "T" " "
  | .scalar (.torn codes) => String.ofList (codes.flatMap (coded fun c => [c]))
  | v => value v

end SchemaSheets.Display
