import SchemaSheets.Decimal.Layout

/-!
# Syntax errors of schema documents

A syntax error names its cause and its place, line and column counted from one.
Its report shows the lines around the place with a caret under the column.
-/

namespace SchemaSheets.Schema

structure Location where
  line : Nat
  column : Nat
  deriving DecidableEq, Repr, Inhabited

/-- The lines of a document; a carriage return, a line feed, or both together end a line. -/
def linesOf (line : List Char) : List Char → List (List Char)
  | [] => [line.reverse]
  | '\r' :: '\n' :: rest => line.reverse :: linesOf [] rest
  | '\r' :: rest => line.reverse :: linesOf [] rest
  | '\n' :: rest => line.reverse :: linesOf [] rest
  | c :: rest => linesOf (c :: line) rest

def rightAligned (width : Nat) (cs : List Char) : List Char :=
  List.replicate (width - cs.length) ' ' ++ cs

def numbered (rows : List (List Char × List Char)) : List Char :=
  let width := rows.foldl (fun w (label, _) => max w label.length) 0
  ['\n'].intercalate (rows.map fun (label, line) =>
    rightAligned width label ++ if line.isEmpty then [] else ' ' :: line)

def chunks80 : Nat → List Char → List (List Char)
  | 0, _ => []
  | fuel + 1, cs => if cs.isEmpty then [] else cs.take 80 :: chunks80 fuel (cs.drop 80)

def lineLabel (n : Nat) : List Char := Decimal.digitsOf n ++ [' ', '|']

/-- The excerpt of a document around a place.  A line of more than 120
characters is shown in pieces. -/
def excerpt (document : List Char) (place : Location) : List Char :=
  let lines := linesOf [] document
  let index := place.line - 1
  let line := (lines[index]?).getD []
  let head := "GraphQL request:".toList ++ Decimal.digitsOf place.line ++ ':' ::
    Decimal.digitsOf place.column ++ ['\n']
  let caret (width : Nat) := rightAligned width ['^']
  if line.length > 120 then
    let pieces := chunks80 line.length line
    let row := (place.column - 1) / 80
    let first := (lineLabel place.line, pieces.headD [])
    let middle := ((pieces.drop 1).take row).map fun piece => (['|'], piece)
    let next := (pieces[row + 1]?).toList.map fun piece => (['|'], piece)
    head ++ numbered (first :: middle ++ (['|'], caret ((place.column - 1) % 80 + 1)) :: next)
  else
    let before := if index = 0 then [] else
      (lines[index - 1]?).toList.map fun l => (lineLabel (place.line - 1), l)
    let next := (lines[index + 1]?).toList.map fun l => (lineLabel (place.line + 1), l)
    head ++ numbered (before ++ (lineLabel place.line, line) :: (['|'], caret place.column) :: next)

structure LocatedError where
  message : String
  locations : List Location
  document : String
  deriving DecidableEq, Repr

def LocatedError.report (e : LocatedError) : String :=
  e.message ++ String.join (e.locations.map fun place =>
    "\n\n" ++ String.ofList (excerpt e.document.toList place))

inductive BuildError where
  /-- the document cannot be parsed -/
  | syntaxFault (e : LocatedError)
  /-- definitions contradict each other -/
  | rules (messages : List String)
  /-- a directive's argument has a value that it does not take -/
  | argument (e : LocatedError)
  deriving DecidableEq, Repr

end SchemaSheets.Schema
