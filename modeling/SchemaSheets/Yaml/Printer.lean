import SchemaSheets.Value.Display
import SchemaSheets.Yaml.Cursor
import SchemaSheets.Yaml.Plain

/-!
# Writing YAML

Values as YAML text in block style.  A text is written plain where it reads
back as the same text, else in single quotes, and in double quotes if it holds
what the others cannot show.  Lines are folded at blanks once they are longer
than eighty characters.
-/

namespace SchemaSheets.Yaml

def width : Nat := 80

/-! ### Which style a text takes -/

def isShown (c : Char) : Bool :=
  c == '\n' || (' ' ≤ c && c ≤ '~') || c == '\u0085' ||
    ('\u00A0' ≤ c && c != '\uFEFF' && !(0xFFFE ≤ c.toNat && c.toNat ≤ 0xFFFF) &&
      c.toNat < 0x10FFFF)

def leadingMarks : List Char :=
  ['#', ',', '[', ']', '\x7b', '\x7d', '&', '*', '!', '|', '>', '\'', '"', '%', '@', '`']

/-- A mark of structure stands in the text; `before` tells whether a gap came before. -/
def hasMarkFrom (before : Bool) : List Char → Bool
  | [] => false
  | c :: rest =>
    (c == ':' && isGap rest.head?) || (c == '#' && before) || hasMarkFrom (isGap (some c)) rest

def hasMark : List Char → Bool
  | [] => false
  | c :: rest =>
    let cs := c :: rest
    ['-', '-', '-'].isPrefixOf cs || ['.', '.', '.'].isPrefixOf cs || leadingMarks.contains c ||
      ((c == '?' || c == ':' || c == '-') && isGap rest.head?) || hasMarkFrom (isGap (some c)) rest

def isEdge (c : Option Char) : Bool := c.any fun c => c == ' ' || isBreak c

def hasNeighbours (p q : Char → Bool) : List Char → Bool
  | a :: b :: rest => (p a && q b) || hasNeighbours p q (b :: rest)
  | _ => false

def isMultiline (cs : List Char) : Bool := cs.any isBreak

def allowsPlain (cs : List Char) : Bool :=
  !cs.isEmpty && Form.ofPlain cs == .text && !isEdge cs.head? && !isEdge cs.getLast? &&
    !isMultiline cs && cs.all isShown && !hasMark cs

def allowsSingle (cs : List Char) : Bool :=
  cs.all isShown && !hasNeighbours (· == ' ') isBreak cs && !hasNeighbours isBreak (· == ' ') cs

inductive Style where
  | plain
  | single
  | double
  deriving DecidableEq, Repr

/-- The style of a text; the key of a mapping stays on one line. -/
def styleOf (key : Bool) (cs : List Char) : Style :=
  if allowsPlain cs then .plain
  else if allowsSingle cs && !(key && isMultiline cs) then .single
  else .double

/-! ### Texts in their styles -/

def newLine (indent : Nat) : List Char := '\n' :: List.replicate indent ' '

def plainFrom (indent : Nat) (fold : Bool) : Nat → Option Char → List Char → List Char
  | _, _, [] => []
  | column, before, c :: rest =>
    if fold && c == ' ' && before != some ' ' && rest.head? != some ' ' && width < column then
      newLine indent ++ plainFrom indent fold indent (some c) rest
    else c :: plainFrom indent fold (column + 1) (some c) rest

/-- The inside of a text in single quotes from a column on. -/
def singleFrom (indent : Nat) (fold : Bool) : Nat → Option Char → List Char → List Char
  | _, _, [] => []
  | column, before, c :: rest =>
    if c == '\'' then '\'' :: '\'' :: singleFrom indent fold (column + 2) (some c) rest
    else if isBreak c then
      let first := !before.any isBreak
      let lead := if first && c == '\n' then ['\n', '\n'] else [c]
      if rest.head?.any isBreak then lead ++ singleFrom indent fold 0 (some c) rest
      else lead ++ List.replicate indent ' ' ++ singleFrom indent fold indent (some c) rest
    else if fold && c == ' ' && before.any (· != ' ') && rest.head?.any (· != ' ') &&
        width < column then
      newLine indent ++ singleFrom indent fold indent (some c) rest
    else c :: singleFrom indent fold (column + 1) (some c) rest

def shortEscapes : List (Char × Char) :=
  [('\x00', '0'), ('\x07', 'a'), ('\x08', 'b'), ('\t', 't'), ('\n', 'n'), ('\x0b', 'v'),
   ('\x0c', 'f'), ('\r', 'r'), ('\x1b', 'e'), ('"', '"'), ('\\', '\\'), ('\u0085', 'N'),
   ('\u00A0', '_'), ('\u2028', 'L'), ('\u2029', 'P')]

def numberedEscape (n : Nat) : List Char :=
  let hex (letter : Char) (places : Nat) : List Char :=
    letter :: (Display.hex places n).map Char.toUpper
  if n ≤ 0xFF then hex 'x' 2 else if n ≤ 0xFFFF then hex 'u' 4 else hex 'U' 8

def escape? (c : Char) : Option (List Char) :=
  let plain := (' ' ≤ c && c ≤ '~') || ('\u00A0' ≤ c && c.toNat ≤ 0xFFFD)
  if plain && !(c == '"' || c == '\\' || c == '\u2028' || c == '\u2029' || c == '\uFEFF') then none
  else
    match shortEscapes.lookup c with
    | some letter => some ['\\', letter]
    | none => some ('\\' :: numberedEscape c.toNat)

abbrev Sign := Char × Option (List Char)

/-- A character by its code; half of a surrogate pair is always escaped. -/
def signOf (n : Nat) : Sign :=
  match Text.charOfCode? n with
  | some c => (c, escape? c)
  | none => (Text.charOfCode n, some ('\\' :: numberedEscape n))

/-- Where the writer of a text in double quotes is: the column up to the last escape or line end,
and the characters that came since. -/
structure DoubleState where
  column : Nat
  pending : Nat

/-- The inside of a text in double quotes.  `first` and the emptiness of the rest tell the first and
the last character, at which no line is folded. -/
def doubleFrom (indent : Nat) (fold : Bool) (first : Bool) : DoubleState → List Sign → List Char
  | _, [] => []
  | s, (c, escaped) :: rest =>
    let inner := fold && !first && !rest.isEmpty
    match escaped with
    | some e =>
      let column := s.column + s.pending + e.length
      if inner && width < column - 1 then
        let blank := rest.head?.any (·.1 == ' ')
        let lead := '\\' :: newLine indent ++ if blank then ['\\'] else []
        e ++ lead ++ doubleFrom indent fold false ⟨indent + blank.toNat, 0⟩ rest
      else e ++ doubleFrom indent fold false ⟨column, 0⟩ rest
    | none =>
      if inner && (c == ' ' || s.pending == 0) && width < s.column + s.pending then
        let blank := c == ' '
        let lead := '\\' :: newLine indent ++ if blank then ['\\'] else []
        lead ++ c :: doubleFrom indent fold false ⟨indent + blank.toNat, 1⟩ rest
      else c :: doubleFrom indent fold false { s with pending := s.pending + 1 } rest

/-- A text from a column on; lines that follow the first are indented. -/
def textFrom (key : Bool) (indent column : Nat) (cs : List Char) : List Char :=
  match styleOf key cs with
  | .plain => plainFrom indent (!key) column none cs
  | .single => '\'' :: singleFrom indent (!key) (column + 1) none cs ++ ['\'']
  | .double => '"' :: doubleFrom indent (!key) true ⟨column + 1, 0⟩ (cs.map fun c => (c, escape? c)) ++ ['"']

def tornFrom (key : Bool) (indent column : Nat) (codes : List Nat) : List Char :=
  '"' :: doubleFrom indent (!key) true ⟨column + 1, 0⟩ (codes.map signOf) ++ ['"']

/-! ### Scalars -/

def pointed (cs : List Char) : List Char :=
  if cs.contains '.' || !cs.contains 'e' then cs
  else cs.takeWhile (· != 'e') ++ ['.', '0'] ++ cs.dropWhile (· != 'e')

def numberNotation : Decimal.Notation :=
  { Decimal.plainNotation with nan := ".nan", infinity := ".inf" }

def scalarFrom (key : Bool) (indent column : Nat) : Scalar → List Char
  | .null => "null".toList
  | .bool true => "true".toList
  | .bool false => "false".toList
  | .int n => (Decimal.intText n).toList
  | .float x => pointed (Decimal.textIn numberNotation x).toList
  | .str s => textFrom key indent column s.toList
  | .date d => d.isoText.toList
  | .timestamp t => (t.isoText.replace "T" " ").toList
  | .torn codes => tornFrom key indent column codes
  | s@(.bytes _) | s@(.again _) => textFrom key indent column (Display.scalar s).toList

def simpleKeyLimit : Nat := 122

def isSimpleKey : Scalar → Bool
  | .str s => s != "" && !isMultiline s.toList && s.length ≤ simpleKeyLimit
  | .torn codes => !isMultiline (codes.map Text.charOfCode) && codes.length ≤ simpleKeyLimit
  | _ => true

/-! ### Collections -/

/-- What stands before an item or key at some indentation: in a compact line the blanks up to it,
else a new line. -/
def lead (compact : Bool) (column indent : Nat) : List Char :=
  if compact then List.replicate (indent - column) ' ' else newLine indent

mutual
/-- A value after an indicator that ends at a column.  `compact` tells that the line so far holds
indicators only, `inMapping` that the indicator is a colon or question mark.  Items of a list can
stand right under the key of their mapping. -/
def after (indent column : Nat) (compact inMapping : Bool) : Value → List Char
  | .scalar s => ' ' :: scalarFrom false (indent + 2) (column + 1) s
  | .list [] => [' ', '[', ']']
  | .list (v :: vs) =>
    let inner := if inMapping && !compact then indent else indent + 2
    items inner compact column (v :: vs)
  | .map [] => [' ', '\x7b', '\x7d']
  | .map (e :: es) => members (indent + 2) compact column (e :: es)
  | .set ms => ' ' :: textFrom false (indent + 2) (column + 1) (Display.value (.set ms)).toList
  | .schema d => ' ' :: textFrom false (indent + 2) (column + 1) d.toList

def items (indent : Nat) (compact : Bool) (column : Nat) : List Value → List Char
  | [] => []
  | v :: vs =>
    lead compact column indent ++ '-' :: after indent (indent + 1) true false v ++
      items indent false 0 vs

/-- The entries of a mapping at some indentation. -/
def members (indent : Nat) (compact : Bool) (column : Nat) : Entries → List Char
  | [] => []
  | (k, v) :: rest =>
    lead compact column indent ++
      (if isSimpleKey k then
        let key := scalarFrom true (indent + 2) indent k
        key ++ ':' :: after indent (indent + key.length + 1) false true v
      else
        '?' :: ' ' :: scalarFrom false (indent + 2) (indent + 2) k ++ newLine indent ++
          ':' :: after indent (indent + 1) true true v) ++
      members indent false 0 rest
end

def leavesOpen : Scalar → Bool
  | .str s => styleOf false s.toList == .plain
  | .bytes _ | .torn _ | .again _ => false
  | _ => true

def closing : List Char := ['.', '.', '.', '\n']

def written : Value → List Char
  | .scalar s => scalarFrom false 2 0 s ++ '\n' :: if leavesOpen s then closing else []
  | .list [] => ['[', ']', '\n']
  | .list (v :: vs) => items 0 true 0 (v :: vs) ++ ['\n']
  | .map [] => ['\x7b', '\x7d', '\n']
  | .map (e :: es) => members 0 true 0 (e :: es) ++ ['\n']
  | v => textFrom false 2 0 (Display.value v).toList ++ ['\n']

def print (v : Value) : String := String.ofList (written v)

end SchemaSheets.Yaml
