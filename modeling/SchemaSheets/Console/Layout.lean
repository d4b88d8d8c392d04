import SchemaSheets.Console.Terminal
import SchemaSheets.Console.Wrap

/-!
# Lines on the console

What is printed to the console is kept as lines.  A table has a title, a line
of headings and its rows; each column is as wide as the widest of its cells.  A
panel has a title and a text and is as wide as the text.
-/

namespace SchemaSheets.Console

def linesOf (s : String) : List (List Char) := s.toList.splitOnP (· == '\n')

def fitted (fold : Bool) (width : Nat) (s : String) : List String :=
  ((linesOf s).flatMap (wrapped fold width)).map String.ofList

def plain (s : String) : List String :=
  (linesOf (String.ofList (s.toList.filter (!Markup.isControl ·)))).map String.ofList

section

variable [Terminal]

def styled (s : String) : Except String (List String) :=
  (Terminal.render s).map (fitted true Terminal.width)

def sideBySide (cells : List (List String)) : List String :=
  let height := (cells.map List.length).foldl max 0
  (List.range height).map fun i => " ".intercalate (cells.map fun lines => lines.getD i "")

def columnWidths (rows : List (List String)) : List Nat :=
  rows.foldl (fun widths row => List.zipWith max widths (row.map (widest ·.toList)))
    ((rows.headD []).map fun _ => 1)

def narrowed (most : Nat) (widths : List Nat) : List Nat :=
  let widest := widths.foldl max 0
  let excess := widths.foldl (· + ·) 0 - most
  widths.map fun w => if w = widest then max 1 (w - excess) else w

/-- The cells that a table with so many columns has for their texts: a column has a blank at either
side and there is a line between any two and at both ends. -/
def roomFor (columns : Nat) : Nat := Terminal.width - (3 * columns + 1)

def table (title : String) (headings : List String) (rows : List (List String)) :
    Except String (List String) := do
  let rows := headings :: (← rows.mapM (·.mapM Terminal.render))
  let widths := narrowed (roomFor headings.length) (columnWidths rows)
  return title :: rows.flatMap fun row => sideBySide (List.zipWith (fitted false) widths row)

/-- The cells of a panel's title with a blank at either side, and of the lines at the sides. -/
def panelWidth (title : String) (text : List Char) : Nat :=
  min (max (Text.cells title.toList + 2) (widest text)) (Terminal.width - 4)

def panel (title s : String) : Except String (List String) := do
  let text ← Terminal.render s
  return title :: fitted true (panelWidth title text.toList) text

end

end SchemaSheets.Console
