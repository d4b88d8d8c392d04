import SchemaSheets.Text.Hex
import SchemaSheets.Yaml.Cursor

/-!
# Scalars in a YAML stream

The three ways in which a text stands in a stream: in quotes, in a block that
its indentation sets apart, and plain.  Each reader starts at a cursor and
gives the text with the place behind it.
-/

namespace SchemaSheets.Yaml

/-- Why a stream cannot be read: it is no YAML, an escape has a number that no character has, or
collections are nested too deeply. -/
inductive Stop where
  | malformed
  | noSuchCharacter (code : Nat)
  /-- collections are nested too deeply -/
  | tooDeep
  deriving DecidableEq, Repr

/-! ### Quoted texts -/

def escapes : List (Char × Char) :=
  [('0', '\x00'), ('a', '\x07'), ('b', '\x08'), ('t', '\t'), ('\t', '\t'), ('n', '\n'),
   ('v', '\x0b'), ('f', '\x0c'), ('r', '\r'), ('e', '\x1b'), (' ', ' '), ('"', '"'), ('\\', '\\'),
   ('/', '/'), ('N', '\u0085'), ('_', '\u00A0'), ('L', '\u2028'), ('P', '\u2029')]

def numberedEscapes : List (Char × Nat) := [('x', 2), ('u', 4), ('U', 8)]

def codesOf (cs : List Char) : List Nat := cs.map Char.toNat

def quotedBreaks : Nat → List Char → Cursor → Except Stop (List Char × Cursor)
  | 0, _, _ => .error .malformed
  | fuel + 1, read, c =>
    if c.atDocumentMark then .error .malformed
    else
      let c := c.skipWhile fun x => x == ' ' || x == '\t'
      match c.lineEnd? with
      | some (b, c) => quotedBreaks fuel (read ++ [b]) c
      | none => .ok (read, c)

def folded (b : Char) (more : List Char) : List Char :=
  (if b != '\n' then [b] else if more.isEmpty then [' '] else []) ++ more

def quotedSpaces (fuel : Nat) (c : Cursor) : Except Stop (List Char × Cursor) :=
  let (blanks, c) := c.takeWhile fun x => x == ' ' || x == '\t'
  match c.lineEnd? with
  | some (b, c) => (quotedBreaks fuel [] c).map fun (more, c) => (folded b more, c)
  | none => if c.peek.isNone then .error .malformed else .ok (blanks, c)

/-- An escape as codes, given the place behind its backslash.  By its number an escape may stand for
half of a surrogate pair. -/
def escape (fuel : Nat) (c : Cursor) : Except Stop (List Nat × Cursor) :=
  match c.peek with
  | none => .error .malformed
  | some x =>
    match escapes.lookup x, numberedEscapes.lookup x with
    | some y, _ => .ok ([y.toNat], c.next)
    | none, some places =>
      let digits := (c.next.rest).take places
      match Text.hexValue? digits with
      | some n =>
        if digits.length < places then .error .malformed
        else if 0x10FFFF < n then .error (.noSuchCharacter n)
        else .ok ([n], c.next.skip places)
      | none => .error .malformed
    | none, none =>
      match c.lineEnd? with
      | some (_, c) => (quotedBreaks fuel [] c).map fun (more, c) => (codesOf more, c)
      | none => .error .malformed

/-- The codes of the rest of a quoted text after its opening quote. -/
def quotedBody (double : Bool) : Nat → List Nat → Cursor → Except Stop (List Nat × Cursor)
  | 0, _, _ => .error .malformed
  | fuel + 1, read, c =>
    match c.rest with
    | [] => .error .malformed
    | '\'' :: rest =>
      if double then quotedBody double fuel (read ++ ['\''.toNat]) c.next
      else if rest.head? == some '\'' then quotedBody double fuel (read ++ ['\''.toNat]) (c.skip 2)
      else .ok (read, c.next)
    | '"' :: _ =>
      if double then .ok (read, c.next) else quotedBody double fuel (read ++ ['"'.toNat]) c.next
    | '\\' :: _ =>
      if double then do
        let (more, c) ← escape fuel c.next
        quotedBody double fuel (read ++ more) c
      else quotedBody double fuel (read ++ ['\\'.toNat]) c.next
    | x :: _ =>
      if isGap (some x) then do
        let (more, c) ← quotedSpaces fuel c
        quotedBody double fuel (read ++ codesOf more) c
      else
        let plain (y : Char) : Bool := !(y == '\'' || y == '"' || y == '\\' || isGap (some y))
        let (more, c) := c.takeWhile plain
        quotedBody double fuel (read ++ codesOf more) c

def quotedText (double : Bool) (c : Cursor) : Except Stop (List Nat × Cursor) :=
  quotedBody double (c.rest.length + 1) [] c.next

/-! ### Block texts -/

inductive Chomping where
  | strip
  | clip
  | keep
  deriving DecidableEq, Repr

def chomping? : Option Char → Option Chomping
  | some '+' => some .keep
  | some '-' => some .strip
  | _ => none

/-- The digit that tells about the indentation; a zero is none. -/
def increment? : Option Char → Option Nat
  | some c => if '0' ≤ c && c ≤ '9' then some (c.toNat - 48) else none
  | none => none

/-- What stands after the mark of a block: a sign and a digit in either order. -/
def blockHeader (c : Cursor) : Except Stop ((Chomping × Option Nat) × Cursor) := do
  let (chomp, digit, c) := match chomping? c.peek with
    | some chomp =>
      match increment? c.next.peek with
      | some n => (chomp, some n, c.skip 2)
      | none => (chomp, none, c.next)
    | none =>
      match increment? c.peek with
      | some n =>
        match chomping? c.next.peek with
        | some chomp => (chomp, some n, c.skip 2)
        | none => (.clip, some n, c.next)
      | none => (.clip, none, c)
  if digit == some 0 then throw .malformed
  if !(c.isAt ' ' || isLineEnd c.peek) then throw .malformed
  let c := c.skipBlanks
  let c := if c.isAt '#' then c.skipLine else c
  if !isLineEnd c.peek then throw .malformed
  return ((chomp, digit), c.skipLineEnd)

def skipIndent (indent : Nat) (c : Cursor) : Cursor :=
  let blanks := (c.rest.take (indent - c.column)).takeWhile (· == ' ')
  c.skip blanks.length

def blockBreaks (indent : Nat) : Nat → List Char → Cursor → List Char × Cursor
  | 0, read, c => (read, c)
  | fuel + 1, read, c =>
    let c := skipIndent indent c
    match c.lineEnd? with
    | some (b, c) => blockBreaks indent fuel (read ++ [b]) c
    | none => (read, c)

/-- Empty lines before the first line of a block, and the greatest column that blanks reach. -/
def blockLead : Nat → List Char → Nat → Cursor → List Char × Nat × Cursor
  | 0, read, most, c => (read, most, c)
  | fuel + 1, read, most, c =>
    match c.lineEnd? with
    | some (b, c) => blockLead fuel (read ++ [b]) most c
    | none => if c.isAt ' ' then blockLead fuel read (max most c.next.column) c.next else (read, most, c)

def startsBlank (c : Cursor) : Bool := c.isAt ' ' || c.isAt '\t'

/-- The lines of a block.  `breaks` holds the line ends before the next line. -/
def blockLines (isFolded : Bool) (chomp : Chomping) (indent : Nat) :
    Nat → List Char → List Char → Cursor → List Char × Cursor
  | 0, read, _, c => (read, c)
  | fuel + 1, read, breaks, c =>
    let blank := startsBlank c
    let (line, c) := c.takeWhile fun x => !isLineEnd (some x)
    let read := read ++ breaks ++ line
    let (ending, c) := match c.lineEnd? with
      | some (b, c) => ([b], c)
      | none => ([], c)
    let (breaks, c) := blockBreaks indent fuel [] c
    if c.column == indent && c.peek.isSome then
      let joined :=
        if isFolded && ending == ['\n'] && !blank && !startsBlank c then
          if breaks.isEmpty then [' '] else []
        else ending
      blockLines isFolded chomp indent fuel (read ++ joined) breaks c
    else
      match chomp with
      | .strip => (read, c)
      | .clip => (read ++ ending, c)
      | .keep => (read ++ ending ++ breaks, c)

/-- A block text at its mark; `parent` is the indentation around it. -/
def blockText (isFolded : Bool) (parent : Int) (c : Cursor) : Except Stop (List Char × Cursor) := do
  let ((chomp, digit), c) ← blockHeader c.next
  let fuel := c.rest.length + 1
  let least := (max (parent + 1) 1).toNat
  let (indent, breaks, c) := match digit with
    | some n =>
      let indent := least + n - 1
      let (breaks, c) := blockBreaks indent fuel [] c
      (indent, breaks, c)
    | none =>
      let (breaks, most, c) := blockLead fuel [] 0 c
      (max least most, breaks, c)
  if c.column == indent && c.peek.isSome then
    return blockLines isFolded chomp indent fuel [] breaks c
  else
    return (if chomp == .keep then breaks else [], c)

/-! ### Plain texts -/

def isFlowMark (c : Char) : Bool :=
  c == ',' || c == '[' || c == ']' || c == '\x7b' || c == '\x7d'

def endsPlain (inFlow : Bool) (x : Char) (after : Option Char) : Bool :=
  isGap (some x) ||
    (x == ':' && (isGap after || (inFlow && after.any isFlowMark))) ||
    (inFlow && (isFlowMark x || x == '?'))

def plainRun (inFlow : Bool) : List Char → List Char
  | [] => []
  | x :: rest => if endsPlain inFlow x rest.head? then [] else x :: plainRun inFlow rest

/-- Blanks and line ends between two parts of a plain text: what they read as, whether a line ended,
and nothing if a document mark ends the text. -/
def plainBreaks : Nat → List Char → Cursor → Option (List Char) × Cursor
  | 0, _, c => (none, c)
  | fuel + 1, read, c =>
    if c.isAt ' ' then plainBreaks fuel read c.next
    else
      match c.lineEnd? with
      | some (b, c) =>
        if c.atDocumentMark then (none, c) else plainBreaks fuel (read ++ [b]) c
      | none => (some read, c)

/-- What stands between two parts of a plain text. -/
structure Between where
  /-- what it reads as, or nothing if the text is over -/
  text : Option (List Char)
  lineEnded : Bool

def plainSpaces (fuel : Nat) (c : Cursor) : Between × Cursor :=
  let (blanks, c) := c.takeWhile (· == ' ')
  match c.lineEnd? with
  | some (b, c) =>
    if c.atDocumentMark then (⟨none, true⟩, c)
    else
      let (more, c) := plainBreaks fuel [] c
      (⟨more.map (folded b), true⟩, c)
  | none => (⟨if blanks.isEmpty then none else some blanks, false⟩, c)

/-- A plain text with the place behind it, and whether its last part was followed by a line end. -/
def plainBody (inFlow : Bool) (indent : Int) : Nat → Bool → List Char → List Char → Cursor →
    (List Char × Bool) × Cursor
  | 0, ended, read, _, c => ((read, ended), c)
  | fuel + 1, ended, read, spaces, c =>
    let run := if c.isAt '#' then [] else plainRun inFlow c.rest
    if run.isEmpty then ((read, ended), c)
    else
      let read := read ++ spaces ++ run
      let (between, c) := plainSpaces (fuel + 1) (c.skip run.length)
      match between.text with
      | none => ((read, between.lineEnded), c)
      | some spaces =>
        if c.isAt '#' || (!inFlow && (c.column : Int) < indent) then
          ((read, between.lineEnded), c)
        else plainBody inFlow indent fuel between.lineEnded read spaces c

/-- A plain text; `parent` is the indentation around it. -/
def plainText (inFlow : Bool) (parent : Int) (c : Cursor) : (List Char × Bool) × Cursor :=
  plainBody inFlow (parent + 1) (c.rest.length + 1) false [] [] c

end SchemaSheets.Yaml
