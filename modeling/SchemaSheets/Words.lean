import SchemaSheets.Text.Digits
import SchemaSheets.Value.Misuse

/-!
# Words of an identifier

An identifier is broken into words at case boundaries and at every character
that is neither an ASCII letter nor an ASCII digit.  A case boundary stands
between a lower-case letter or digit and an upper-case letter, and before the
last letter of a run of upper-case letters that a lower-case letter follows.

The breaking is done in passes over the text: two passes put a blank into each
case boundary, a third blanks out what belongs to no word, and the blanks then
separate the words.
-/

namespace SchemaSheets.Words

/-! ### Character classes -/

def isUpper (c : Char) : Bool := 'A' ≤ c && c ≤ 'Z'

def isLower (c : Char) : Bool := 'a' ≤ c && c ≤ 'z'

theorem isUpper_iff {c : Char} : isUpper c = true ↔ 0x41 ≤ c.toNat ∧ c.toNat ≤ 0x5A := by
  simp [isUpper, Char.le_def, UInt32.le_iff_toNat_le]

theorem isLower_iff {c : Char} : isLower c = true ↔ 0x61 ≤ c.toNat ∧ c.toNat ≤ 0x7A := by
  simp [isLower, Char.le_def, UInt32.le_iff_toNat_le]

def isWordChar (c : Char) : Bool := isUpper c || isLower c || Text.isDigit c

/-! ### The passes -/

/-- A blank between a lower-case letter or digit and an upper-case letter. -/
def breakCase : List Char → List Char
  | [] => []
  | [a] => [a]
  | a :: b :: rest =>
    if (isLower a || Text.isDigit a) && isUpper b then a :: ' ' :: breakCase (b :: rest)
    else a :: breakCase (b :: rest)

/-- A blank between two upper-case letters when a lower-case letter follows the second. -/
def breakAcronym : List Char → List Char
  | a :: b :: c :: rest =>
    if isUpper a && isUpper b && isLower c then a :: ' ' :: breakAcronym (b :: c :: rest)
    else a :: breakAcronym (b :: c :: rest)
  | cs => cs

def blankOut (cs : List Char) : List Char := cs.map fun c => if isWordChar c then c else ' '

/-- The non-empty pieces between blanks; `piece` holds the current one in reverse. -/
def pieces (piece : List Char) : List Char → List (List Char)
  | [] => if piece.isEmpty then [] else [piece.reverse]
  | c :: cs =>
    if c == ' ' then
      if piece.isEmpty then pieces [] cs else piece.reverse :: pieces [] cs
    else pieces (c :: piece) cs

def split (cs : List Char) : List (List Char) :=
  pieces [] (blankOut (breakAcronym (breakCase cs)))

/-! ### Capitals -/

def toUpper (c : Char) : Char := if isLower c then Char.ofNat (c.toNat - 32) else c

def toLower (c : Char) : Char := if isUpper c then Char.ofNat (c.toNat + 32) else c

/-- A word with its first letter in upper case and the others in lower case. -/
def capitalize : List Char → List Char
  | [] => []
  | c :: cs => toUpper c :: cs.map toLower

def capitalCase (cs : List Char) : List Char := [' '].intercalate ((split cs).map capitalize)

/-! ### On texts and values -/

def ofText (s : String) : List String := (split s.toList).map String.ofList

def heading (s : String) : String := String.ofList (capitalCase s.toList)

/-- The words of a value, which has to be a text.  Half of a surrogate pair belongs to no word. -/
def ofValue : Value → Except Misuse (List String)
  | .str s => .ok (ofText s)
  | .scalar (.torn codes) => .ok (ofText (String.ofList (codes.map Text.charOfCode)))
  | v => .error (.notText v.typeName)

/-- A value as a heading; it has to be a text. -/
def headingOf : Value → Except Misuse String
  | .str s => .ok (heading s)
  | .scalar (.torn codes) => .ok (heading (String.ofList (codes.map Text.charOfCode)))
  | v => .error (.notText v.typeName)

end SchemaSheets.Words
