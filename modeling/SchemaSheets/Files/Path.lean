import SchemaSheets.Text.Utf8

/-!
# Paths

A path names a file from the working directory or from a root.  Empty steps
and single points are dropped; double points stay, since what they mean depends
on the files that are there.
-/

namespace SchemaSheets

inductive Anchor where
  /-- in the working directory -/
  | here
  /-- in the working directory, whose own name is written out -/
  | home (name : String)
  /-- at the root, which is written as one slash or as two -/
  | root (slashes : String)
  deriving DecidableEq, Repr

/-- A path as a list of steps from its start. -/
structure Path where
  anchor : Anchor := .here
  steps : List String := []
  deriving DecidableEq, Repr

namespace Path

def anchorOf : List Char → Anchor
  | '/' :: '/' :: '/' :: _ => .root "/"
  | '/' :: '/' :: _ => .root "//"
  | '/' :: _ => .root "/"
  | _ => .here

def ofText (s : String) : Path :=
  let pieces := (s.toList.splitOnP (· == '/')).map String.ofList
  ⟨anchorOf s.toList, pieces.filter fun piece => piece != "" && piece != "."⟩

def text (p : Path) : String :=
  let steps := "/".intercalate p.steps
  match p.anchor with
  | .here => if p.steps.isEmpty then "." else steps
  | .home name => if p.steps.isEmpty then name else name ++ "/" ++ steps
  | .root slashes => slashes ++ steps

/-- One path after another; a path from a root stands for itself. -/
def join (base p : Path) : Path :=
  match p.anchor with
  | .here => { base with steps := base.steps ++ p.steps }
  | _ => p

def parent (p : Path) : Path := { p with steps := p.steps.dropLast }

def name (p : Path) : String := p.steps.getLast?.getD ""

/-- What a name ends with from its last point on.  A point at either end of the name begins no
suffix. -/
def suffixOf (name : List Char) : List Char :=
  let afterPoint := (name.reverse.takeWhile (· != '.')).reverse
  let before := name.length - afterPoint.length
  if afterPoint.isEmpty || before ≤ 1 then [] else '.' :: afterPoint

def suffix (p : Path) : String := String.ofList (suffixOf p.name.toList)

def hasNul (p : Path) : Bool := p.steps.any fun s => s.toList.contains '\x00'

def longestStep : Nat := 255

def longestPath : Nat := 4095

def isTooLong (p : Path) : Bool :=
  longestPath < p.text.utf8ByteSize || p.steps.any fun s => longestStep < s.utf8ByteSize

example : (ofText "a//b/./c.tar.gz").text = "a/b/c.tar.gz" := by decide +kernel

example : (ofText "a/c.tar.gz").suffix = ".gz" ∧ (ofText ".json").suffix = "" ∧
    (ofText "a.").suffix = "" := by decide +kernel

end Path

end SchemaSheets
