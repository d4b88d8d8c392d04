import SchemaSheets.Value.Mapping
import SchemaSheets.Value.Display

/-!
# Writing JSON

Values as JSON text, in two layouts: on one line with a blank after each comma
and colon, or with one item a line and two blanks of indentation for each
level.  Only ASCII characters are written; all others are escaped as UTF-16
code units.  Numbers that are none are written as the words that the reader
takes for them.
-/

namespace SchemaSheets.Json

/-! ### Texts -/

def unitEscape (n : Nat) : List Char := '\\' :: 'u' :: Display.hex 4 n

def writtenChar (c : Char) : List Char :=
  if c == '"' then ['\\', '"']
  else if c == '\\' then ['\\', '\\']
  else if c == '\n' then ['\\', 'n']
  else if c == '\r' then ['\\', 'r']
  else if c == '\t' then ['\\', 't']
  else if c == '\x08' then ['\\', 'b']
  else if c == '\x0c' then ['\\', 'f']
  else if 0x20 ≤ c.toNat && c.toNat < 0x7F then [c]
  else if c.toNat < 0x10000 then unitEscape c.toNat
  else
    let n := c.toNat - 0x10000
    unitEscape (0xD800 + n / 0x400) ++ unitEscape (0xDC00 + n % 0x400)

def quoted (s : String) : List Char := '"' :: s.toList.flatMap writtenChar ++ ['"']

def quotedCodes (codes : List Nat) : List Char :=
  '"' :: codes.flatMap (Display.coded writtenChar) ++ ['"']

/-! ### Values -/

def numberNotation : Decimal.Notation :=
  { Decimal.plainNotation with nan := "NaN", infinity := "Infinity" }

/-- A scalar; one that JSON has no form for is written as the text of its display. -/
def scalarText : Scalar → List Char
  | .null => "null".toList
  | .bool true => "true".toList
  | .bool false => "false".toList
  | .int n => (Decimal.intText n).toList
  | .float x => (Decimal.textIn numberNotation x).toList
  | .str s => quoted s
  | .torn codes => quotedCodes codes
  | s => quoted (Display.plain (.scalar s))

/-- A key, which is always a text: of a scalar other than a text, its own form in quotes. -/
def keyText : Scalar → List Char
  | .str s => quoted s
  | .torn codes => quotedCodes codes
  | s@(.null) | s@(.bool _) | s@(.int _) | s@(.float _) => '"' :: scalarText s ++ ['"']
  | s => quoted (Display.plain (.scalar s))

inductive Layout where
  | compact
  /-- with the nesting depth of the line -/
  | indented (depth : Nat)
  deriving DecidableEq, Repr

namespace Layout

def inner : Layout → Layout
  | compact => compact
  | indented depth => indented (depth + 1)

def lineStart : Layout → List Char
  | compact => []
  | indented depth => '\n' :: List.replicate (2 * depth) ' '

def separator : Layout → List Char
  | compact => [',', ' ']
  | indented depth => ',' :: '\n' :: List.replicate (2 * depth) ' '

end Layout

def bracketed (layout : Layout) (left right : Char) (parts : List (List Char)) : List Char :=
  match parts with
  | [] => [left, right]
  | parts =>
    left :: layout.inner.lineStart ++ layout.inner.separator.intercalate parts ++
      layout.lineStart ++ [right]

mutual
def written (layout : Layout) : Value → List Char
  | .scalar s => scalarText s
  | .list items => bracketed layout '[' ']' (writtenItems layout.inner items)
  | .map entries => bracketed layout '\x7b' '\x7d' (writtenMembers layout.inner entries)
  | .set members => bracketed layout '[' ']' (members.map scalarText)
  | .schema definition => quoted definition

def writtenItems (layout : Layout) : List Value → List (List Char)
  | [] => []
  | v :: vs => written layout v :: writtenItems layout vs

def writtenMembers (layout : Layout) : Entries → List (List Char)
  | [] => []
  | (k, v) :: rest =>
    (keyText k ++ ':' :: ' ' :: written layout v) :: writtenMembers layout rest
end

def print (pretty : Bool) (v : Value) : String :=
  String.ofList (written (if pretty then .indented 0 else .compact) v)

end SchemaSheets.Json
