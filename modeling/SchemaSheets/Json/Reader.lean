import SchemaSheets.Capacity
import SchemaSheets.Text.Digits
import SchemaSheets.Text.Hex
import SchemaSheets.Text.Place
import SchemaSheets.Value.Mapping

/-!
# Reading JSON

A reader for JSON texts.  Beside the standard's numbers it takes the words
`NaN`, `Infinity` and `-Infinity`.  An integer stays exact, up to a limit on
its digits; a number with a fraction or an exponent becomes the nearest
binary64.  Of two members with one name the later one counts.  Half of a
surrogate pair, escaped or standing in the text itself, makes a torn text.

Each function takes the characters that are left and gives what it read
together with the characters left after it.  Lists and mappings nest up to a
limit.
-/

namespace SchemaSheets.Json

open Text (isDigit decimalValue exponentPart)

inductive Cause where
  | byteOrderMark
  | value
  | memberName
  | colon
  | comma
  | surplus
  | unterminated
  | controlCharacter
  | escape
  | unicodeEscape
  deriving DecidableEq, Repr

def Cause.message : Cause → String
  | byteOrderMark => "Unexpected UTF-8 BOM (decode using utf-8-sig)"
  | value => "Expecting value"
  | memberName => "Expecting property name enclosed in double quotes"
  | colon => "Expecting ':' delimiter"
  | comma => "Expecting ',' delimiter"
  | surplus => "Extra data"
  | unterminated => "Unterminated string starting at"
  | controlCharacter => "Invalid control character at"
  | escape => "Invalid \\escape"
  | unicodeEscape => "Invalid \\uXXXX escape"

/-- A reader stopped: at a fault with so many characters left, at an integer of too many digits, or
at a list or mapping that is nested too deeply. -/
inductive Stop where
  | fault (cause : Cause) (left : Nat)
  | tooManyDigits (count : Nat)
  | tooDeep
  deriving DecidableEq, Repr

def digitLimit : Nat := 4300

/-! ### Blanks and literals -/

def isSpace (c : Char) : Bool := c == ' ' || c == '\t' || c == '\n' || c == '\r'

def skipSpace (cs : List Char) : List Char := cs.dropWhile isSpace

def afterWord? : List Char → List Char → Option (List Char)
  | [], cs => some cs
  | _ :: _, [] => none
  | w :: ws, c :: cs => if w = c then afterWord? ws cs else none

/-! ### Numbers -/

def wholePart : List Char → Option (List Char × List Char)
  | '0' :: rest => some (['0'], rest)
  | c :: rest =>
    if isDigit c then some (c :: rest.takeWhile isDigit, rest.dropWhile isDigit) else none
  | [] => none

def fractionPart : List Char → List Char × List Char
  | '.' :: c :: rest =>
    if isDigit c then (c :: rest.takeWhile isDigit, rest.dropWhile isDigit)
    else ([], '.' :: c :: rest)
  | cs => ([], cs)

def unsignedNumber (negative : Bool) (cs : List Char) :
    Option (Except Stop (Scalar × List Char)) := do
  let (whole, rest) ← wholePart cs
  let (fraction, rest) := fractionPart rest
  let (exponent, rest) := exponentPart rest
  if fraction.isEmpty && exponent.isNone then
    if whole.length > digitLimit then return .error (.tooManyDigits whole.length)
    let n : Int := decimalValue whole
    return .ok (.int (if negative then -n else n), rest)
  else
    let places : Int := exponent.getD 0 - fraction.length
    return .ok (.float (.ofDecimal negative (decimalValue (whole ++ fraction)) places), rest)

def number : List Char → Option (Except Stop (Scalar × List Char))
  | '-' :: rest => unsignedNumber true rest
  | cs => unsignedNumber false cs

/-! ### Texts -/

/-- Where half of a surrogate pair stands in a text that has a character in its place: with so many
characters after it. -/
abbrev Halves := Nat → Option Nat

def noHalves : Halves := fun _ => none

def escaped? : Char → Option Char
  | '"' => some '"'
  | '\\' => some '\\'
  | '/' => some '/'
  | 'b' => some '\x08'
  | 'f' => some '\x0c'
  | 'n' => some '\n'
  | 'r' => some '\r'
  | 't' => some '\t'
  | _ => none

section

variable (halves : Halves)

/-- The rest of a text after its opening quote.  `opening` is the number of
characters that were left at the quote, `read` the codes of the characters so
far in reverse.  Four digits after `\u` count only if something follows them,
since the text has to be closed. -/
def textBody (opening : Nat) (read : List Nat) : List Char → Except Stop (List Nat × List Char)
  | [] => .error (.fault .unterminated opening)
  | '"' :: rest => .ok (read.reverse, rest)
  | '\\' :: [] => .error (.fault .unterminated opening)
  | '\\' :: 'u' :: a :: b :: c :: d :: '\\' :: 'u' :: e :: f :: g :: h :: next :: rest =>
    let left := rest.length + 12
    match Text.hex4? a b c d with
    | none => .error (.fault .unicodeEscape left)
    | some n =>
      if Text.isHighSurrogate n then
        match Text.hex4? e f g h with
        | none => .error (.fault .unicodeEscape (rest.length + 6))
        | some m =>
          if Text.isLowSurrogate m then
            textBody opening ((Text.joinSurrogates n m).toNat :: read) (next :: rest)
          else textBody opening (n :: read) ('\\' :: 'u' :: e :: f :: g :: h :: next :: rest)
      else textBody opening (n :: read) ('\\' :: 'u' :: e :: f :: g :: h :: next :: rest)
  | '\\' :: 'u' :: a :: b :: c :: d :: next :: rest =>
    match Text.hex4? a b c d with
    | none => .error (.fault .unicodeEscape (rest.length + 6))
    | some n => textBody opening (n :: read) (next :: rest)
  | '\\' :: 'u' :: rest => .error (.fault .unicodeEscape (rest.length + 1))
  | '\\' :: c :: rest =>
    match escaped? c with
    | none => .error (.fault .escape (rest.length + 2))
    | some e => textBody opening (e.toNat :: read) rest
  | c :: rest =>
    if c.toNat < 0x20 then .error (.fault .controlCharacter (rest.length + 1))
    else textBody opening ((halves rest.length).getD c.toNat :: read) rest

/-! ### Values -/

def words : List (List Char × Scalar) :=
  [("null".toList, .null), ("true".toList, .bool true), ("false".toList, .bool false),
   ("NaN".toList, .float .nan), ("Infinity".toList, .float (.infinity false)),
   ("-Infinity".toList, .float (.infinity true))]

def word? (cs : List Char) : Option (Scalar × List Char) :=
  words.findSome? fun (w, v) => (afterWord? w cs).map fun rest => (v, rest)

abbrev Rule := List Char → Except Stop (Value × List Char)

def plainValue : Rule
  | '"' :: rest => do
    let (codes, after) ← textBody halves (rest.length + 1) [] rest
    return (.scalar (.ofCodes codes), after)
  | cs =>
    match word? cs with
    | some (v, rest) => .ok (.scalar v, rest)
    | none =>
      match number cs with
      | some r => r.map fun (v, rest) => (.scalar v, rest)
      | none => .error (.fault .value cs.length)

/-- The items of a list that has at least one more, at most so many; `read` holds the items so far
in reverse. -/
def items (item : Rule) : Nat → List Value → Rule
  | 0, _, cs => .error (.fault .value cs.length)
  | most + 1, read, cs => do
    let (v, rest) ← item cs
    match skipSpace rest with
    | ']' :: rest => return (.list (v :: read).reverse, rest)
    | ',' :: rest => items item most (v :: read) (skipSpace rest)
    | rest => throw (.fault .comma rest.length)

/-- The members of a mapping that has at least one more, at most so many. -/
def members (item : Rule) : Nat → Entries → Rule
  | 0, _, cs => .error (.fault .value cs.length)
  | most + 1, read, cs =>
    match cs with
    | '"' :: rest => do
      let (name, rest) ← textBody halves cs.length [] rest
      match skipSpace rest with
      | ':' :: rest =>
        let (v, rest) ← item (skipSpace rest)
        let read := Entries.insert (.ofCodes name) v read
        match skipSpace rest with
        | '\x7d' :: rest => return (.map read, rest)
        | ',' :: rest => members item most read (skipSpace rest)
        | rest => throw (.fault .comma rest.length)
      | rest => throw (.fault .colon rest.length)
    | cs => .error (.fault .memberName cs.length)

/-- A value at the front with room for so many levels of lists and mappings. -/
def value : Nat → Rule
  | 0, cs =>
    match cs with
    | '[' :: _ | '\x7b' :: _ => .error .tooDeep
    | cs => plainValue halves cs
  | room + 1, cs =>
    match cs with
    | '[' :: rest =>
      match skipSpace rest with
      | ']' :: rest => .ok (.list [], rest)
      | rest => items (value room) (rest.length + 1) [] rest
    | '\x7b' :: rest =>
      match skipSpace rest with
      | '\x7d' :: rest => .ok (.map [], rest)
      | rest => members halves (value room) (rest.length + 1) [] rest
    | cs => plainValue halves cs

def tornDocument (room : Nat) (cs : List Char) : Except Stop Value := do
  if cs.head? == some '\uFEFF' then throw (.fault .byteOrderMark cs.length)
  let (v, rest) ← value halves room (skipSpace cs)
  match skipSpace rest with
  | [] => return v
  | rest => throw (.fault .surplus rest.length)

end

def documentWithin (room : Nat) (cs : List Char) : Except Stop Value := tornDocument noHalves room cs

def readCodes [Capacity] (codes : List Nat) : Except Stop Value :=
  match codes.mapM Text.charOfCode? with
  | some cs => documentWithin Capacity.json cs
  | none =>
    let fromEnd := codes.reverse
    let halves : Halves := fun left => fromEnd[left]?.filter fun n => (Text.charOfCode? n).isNone
    tornDocument halves Capacity.json (codes.map Text.charOfCode)

inductive ReadError where
  | fault (cause : Cause) (place : Text.Place)
  | tooManyDigits (count : Nat)
  | tooDeep
  deriving DecidableEq, Repr

def ReadError.message : ReadError → String
  | fault cause place =>
    cause.message ++ ": line " ++ Decimal.intText place.line ++ " column " ++
      Decimal.intText place.column ++ " (char " ++ Decimal.intText place.offset ++ ")"
  | tooManyDigits count => "integer of " ++ Decimal.intText count ++ " digits"
  | tooDeep => "nested too deeply"

def read [Capacity] (text : String) : Except ReadError Value :=
  match documentWithin Capacity.json text.toList with
  | .ok v => .ok v
  | .error (.fault cause left) => .error (.fault cause (.ofLeft text.toList left))
  | .error (.tooManyDigits count) => .error (.tooManyDigits count)
  | .error .tooDeep => .error .tooDeep

end SchemaSheets.Json
