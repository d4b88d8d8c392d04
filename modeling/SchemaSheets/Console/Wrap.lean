import SchemaSheets.Text.Width

/-!
# Lines that fit a width

A line that takes more cells than there is room for is broken between words.  A
word that is too long for any line is folded, or it is left whole and the line
cut off behind it.  Tabs reach to the next multiple of eight cells, which may
make a line wider than it was measured before.
-/

namespace SchemaSheets.Console

open Text (cells cellsOf isBlank)

/-! ### Measuring -/

def endsLine (c : Char) : Bool :=
  c == '\n' || c == '\r' || c == '\x0b' || c == '\x0c' || (0x1C ≤ c.toNat && c.toNat ≤ 0x1E) ||
    c == '\u0085' || c == '\u2028' || c == '\u2029'

def widest (cs : List Char) : Nat := ((cs.splitOnP endsLine).map cells).foldl max 0

/-! ### Tabs -/

def tabStop : Nat := 8

def expandTabs (column : Nat) : List Char → List Char
  | [] => []
  | c :: rest =>
    if c == '\t' then
      let stop := (column / tabStop + 1) * tabStop
      List.replicate (stop - column) ' ' ++ expandTabs stop rest
    else c :: expandTabs (column + cellsOf c) rest

example : expandTabs 0 "a\tb".toList = "a       b".toList := by decide +kernel

/-! ### Words -/

/-- The words of a line, each with the blanks behind it and the first also with those before it.
A line of blanks is a single word. -/
def words (cs : List Char) : List (List Char) :=
  match cs.span isBlank with
  | (_, []) => [cs]
  | (lead, rest) =>
    match rest.splitBy fun a b => isBlank b || !isBlank a with
    | [] => [lead]
    | first :: more => (lead ++ first) :: more

def chop (width : Nat) (piece : List Char) : List Char → List (List Char)
  | [] => [piece.reverse]
  | c :: rest =>
    if width < cells piece + cellsOf c then piece.reverse :: chop width [c] rest
    else chop width (c :: piece) rest

/-! ### Breaking -/

/-- Lines that are complete, and the one that is being filled with its cells.  The last one comes
first. -/
structure Filling where
  done : List (List Char) := []
  line : List Char := []
  filled : Nat := 0

namespace Filling

/-- With a new line that starts with a word; the first line of all is begun already. -/
def next (f : Filling) (isFirst : Bool) (word : List Char) : Filling :=
  { done := if isFirst then f.done else f.line :: f.done, line := word, filled := cells word }

def add (fold : Bool) (width : Nat) (f : Filling) (isFirst : Bool) (word : List Char) : Filling :=
  let needed := cells (Text.trimBack isBlank word)
  if f.filled + needed ≤ width then
    { f with line := f.line ++ word, filled := f.filled + cells word }
  else if width < needed && fold then
    match chop width [] word with
    | [] => f
    | first :: more => more.foldl (fun f piece => f.next false piece) (f.next isFirst first)
  else f.next isFirst word

def lines (f : Filling) : List (List Char) := (f.line :: f.done).reverse

end Filling

def broken (fold : Bool) (width : Nat) (cs : List Char) : List (List Char) :=
  match words cs with
  | [] => [cs]
  | first :: more =>
    (more.foldl (fun f word => f.add fold width false word)
      (Filling.add fold width {} true first)).lines

/-- Without the blanks at the end by which a line has more characters than there is room for. -/
def withoutOverhang (width : Nat) (cs : List Char) : List Char :=
  let blanks := (cs.reverse.takeWhile isBlank).length
  cs.take (cs.length - min blanks (cs.length - width))

/-- The characters of a line that fit a width; half of a wide one shows as a blank. -/
def fitting (width : Nat) : List Char → List Char
  | [] => []
  | c :: rest =>
    if cellsOf c ≤ width then c :: fitting (width - cellsOf c) rest
    else if width = 1 then [' '] else []

/-- A line cut off at a width; a mark may show that something is missing. -/
def cutOff (marked : Bool) (width : Nat) (cs : List Char) : List Char :=
  if cells cs ≤ width then cs
  else if marked then fitting (width - 1) cs ++ ['…'] else fitting width cs

/-- The lines that a line of text takes.  Long words are folded, or cut off with a mark. -/
def wrapped (fold : Bool) (width : Nat) (line : List Char) : List (List Char) :=
  (broken fold width (expandTabs 0 line)).map fun l => cutOff (!fold) width (withoutOverhang width l)

end SchemaSheets.Console
