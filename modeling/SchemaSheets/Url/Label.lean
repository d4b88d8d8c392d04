import SchemaSheets.Text.Composition
import SchemaSheets.Text.Role
import SchemaSheets.Url.LabelTable

/-!
# Labels of international host names

Which texts can be labels: they are in composed form, have no hyphen where one
would mislead, do not start with a mark, hold only letters, digits and marks in
lower case, use joiners and some punctuation only where their script does, and
do not mix writing directions.
-/

namespace SchemaSheets.Url.Label

open Text (Role role inRanges)

/-! ### Characters -/

def isPlain (c : Char) : Bool :=
  inRanges solidRanges c ||
    alternatingRanges.any fun (lo, hi) => lo ≤ c.toNat && c.toNat ≤ hi && (c.toNat - lo) % 2 == 0

def hyphensFit (cs : List Char) : Bool :=
  cs.head? != some '-' && cs.getLast? != some '-' && (cs.drop 2).take 2 != ['-', '-']

def isMark (c : Char) : Bool := role c == .mark || role c == .spacingMark

/-! ### Characters that depend on their neighbours -/

def viramaClass : Nat := 9

def isVirama (c : Char) : Bool := Text.markClass c.toNat == viramaClass

def meets (ranges : List (List (Nat × Nat))) (cs : List Char) : Bool :=
  (cs.find? (!inRanges transparentRanges ·)).any fun c => ranges.any (inRanges · c)

/-- A character between what stands before it, the nearest character first, and what follows. -/
def fitsBetween (label before : List Char) (c : Char) (after : List Char) : Bool :=
  let next (p : Char → Bool) (cs : List Char) : Bool := cs.head?.any p
  if isPlain c then true
  else if c == '\u200C' then
    next isVirama before ||
      (meets [leftRanges, dualRanges] before && meets [rightRanges, dualRanges] after)
  else if c == '\u200D' then next isVirama before
  else if c == '·' then next (· == 'l') before && next (· == 'l') after
  else if c == '\u0375' then next (inRanges greekRanges) after
  else if c == '\u05F3' || c == '\u05F4' then next (inRanges hebrewRanges) before
  else if c == '・' then label.any (inRanges eastAsianRanges)
  else if '\u0660' ≤ c && c ≤ '\u0669' then !label.any fun x => '\u06F0' ≤ x && x ≤ '\u06F9'
  else if '\u06F0' ≤ c && c ≤ '\u06F9' then !label.any fun x => '\u0660' ≤ x && x ≤ '\u0669'
  else false

/-- All characters of a label fit their neighbours; `before` holds those in front of the rest, the
nearest first. -/
def allFit (label before : List Char) : List Char → Bool
  | [] => true
  | c :: rest => fitsBetween label before c rest && allFit label (c :: before) rest

/-! ### Writing direction -/

def isRightward : Role → Bool
  | .rightLetter | .arabicLetter | .arabicNumber => true
  | _ => false

def lastRole? (roles : List Role) : Option Role := roles.reverse.find? (· != .mark)

/-- A label with text from right to left keeps to one direction: which one, its first character
tells. -/
def directionsFit (roles : List Role) : Bool :=
  if !roles.any isRightward then true
  else
    match roles.head? with
    | some .rightLetter | some .arabicLetter =>
      let fits : Role → Bool
        | .letter | .spacingMark => false
        | _ => true
      let ends : Role → Bool
        | .rightLetter | .arabicLetter | .number | .arabicNumber => true
        | _ => false
      roles.all fits && (lastRole? roles).any ends &&
        !(roles.contains .number && roles.contains .arabicNumber)
    | some .letter | some .spacingMark => false
    | _ => false

/-! ### All conditions -/

def isValid (cs : List Char) : Bool :=
  match cs with
  | [] => false
  | c :: _ =>
    Text.isComposed cs && hyphensFit cs && !isMark c && allFit cs [] cs && directionsFit (cs.map role)

end SchemaSheets.Url.Label
