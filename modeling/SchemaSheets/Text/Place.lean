/-!
# Places in a text

A place in a text is told by its distance from the start and by its line and
column.  A reader that walks down a text knows how many characters are left;
`Place.ofLeft` turns that into a place.
-/

namespace SchemaSheets.Text

/-- A place: characters before it, line from 1, column from 1. -/
structure Place where
  offset : Nat
  line : Nat
  column : Nat
  deriving DecidableEq, Repr, Inhabited

namespace Place

/-- The place after one more character; a line feed ends its line. -/
def step (p : Place) (c : Char) : Place :=
  if c == '\n' then ⟨p.offset + 1, p.line + 1, 1⟩ else ⟨p.offset + 1, p.line, p.column + 1⟩

def start : Place := ⟨0, 1, 1⟩

def after (cs : List Char) : Place := cs.foldl step start

def ofLeft (text : List Char) (left : Nat) : Place := after (text.take (text.length - left))

end Place

end SchemaSheets.Text
