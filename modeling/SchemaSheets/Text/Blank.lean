/-!
# Blank characters

The characters that count as white space in running text: the ASCII controls
with a line or tab role, the four information separators, and the space
characters of Unicode.  `trim` removes them from both ends of a text.
-/

namespace SchemaSheets.Text

def blankRanges : List (Nat × Nat) :=
  [(0x09, 0x0D), (0x1C, 0x20), (0x85, 0x85), (0xA0, 0xA0), (0x1680, 0x1680), (0x2000, 0x200A),
   (0x2028, 0x2029), (0x202F, 0x202F), (0x205F, 0x205F), (0x3000, 0x3000)]

def inRanges (ranges : List (Nat × Nat)) (c : Char) : Bool :=
  ranges.any fun (lo, hi) => lo ≤ c.toNat && c.toNat ≤ hi

def isBlank (c : Char) : Bool := inRanges blankRanges c

def trimFront (p : Char → Bool) (cs : List Char) : List Char := cs.dropWhile p

def trimBack (p : Char → Bool) (cs : List Char) : List Char :=
  (cs.reverse.dropWhile p).reverse

def trim (cs : List Char) : List Char := trimBack isBlank (trimFront isBlank cs)

end SchemaSheets.Text
