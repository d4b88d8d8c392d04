import SchemaSheets.Yaml.Token

/-!
# The layout of a YAML stream

Cuts a stream into tokens.  Indentation opens and closes blocks.  A colon turns
what stands before it on its line into a key, so each place where a key might
begin is remembered until its line ends.
-/

namespace SchemaSheets.Yaml

structure KeyPlace where
  /-- the number of flow collections around it -/
  level : Nat
  /-- the number of tokens before it -/
  number : Nat
  /-- it stands where its block asks for a key -/
  required : Bool
  index : Nat
  line : Nat
  column : Nat
  deriving Repr

structure Scanner where
  cursor : Cursor
  /-- the tokens so far, the last one first -/
  tokens : List Token := []
  /-- the column of the innermost block; there is none at first -/
  indent : Int := -1
  /-- the columns of the blocks around it -/
  outer : List Int := []
  /-- the number of open flow collections -/
  level : Nat := 0
  /-- a key may begin here -/
  allowKey : Bool := true
  keys : List KeyPlace := []
  deriving Repr

namespace Scanner

def keyLimit : Nat := 1024

def inFlow (s : Scanner) : Bool := s.level != 0

def push (s : Scanner) (t : Token) : Scanner := { s with tokens := t :: s.tokens }

def moved (s : Scanner) (c : Cursor) : Scanner := { s with cursor := c }

def allowing (s : Scanner) (allow : Bool) : Scanner := { s with allowKey := allow }

/-! ### Blocks -/

def closeTo (column : Int) : List Int → Scanner → Scanner
  | [], s => s
  | around :: outer, s =>
    if column < s.indent then
      closeTo column outer { s.push .blockEnd with indent := around, outer }
    else s

def unwind (column : Int) (s : Scanner) : Scanner :=
  if s.inFlow then s else closeTo column s.outer s

def opensBlock (s : Scanner) (column : Nat) : Bool := s.indent < (column : Int)

def entered (s : Scanner) (column : Nat) : Scanner :=
  { s with indent := column, outer := s.indent :: s.outer }

def openBlock (start : Token) (s : Scanner) : Scanner :=
  if s.opensBlock s.cursor.column then (s.push start).entered s.cursor.column else s

/-! ### Keys -/

/-- Forgets the key that might have begun on this level; it must not be one that is required. -/
def dropKey (s : Scanner) : Except Stop Scanner :=
  if s.keys.any fun k => k.level == s.level && k.required then .error .malformed
  else .ok { s with keys := s.keys.filter (·.level != s.level) }

def dropStale (s : Scanner) : Except Stop Scanner :=
  let isStale (k : KeyPlace) : Bool :=
    k.line != s.cursor.line || keyLimit < s.cursor.index - k.index
  if s.keys.any fun k => isStale k && k.required then .error .malformed
  else .ok { s with keys := s.keys.filter fun k => !isStale k }

def saveKey (s : Scanner) : Except Stop Scanner := do
  if !s.allowKey then return s
  let required := !s.inFlow && s.indent == (s.cursor.column : Int)
  let s ← s.dropKey
  let c := s.cursor
  return { s with keys := ⟨s.level, s.tokens.length, required, c.index, c.line, c.column⟩ :: s.keys }

/-! ### Single tokens -/

/-- Behind blanks, comments and line ends; after a line end a key may begin. -/
def toNextToken : Nat → Scanner → Scanner
  | 0, s => s
  | fuel + 1, s =>
    let c := s.cursor.skipBlanks
    let c := if c.isAt '#' then c.skipLine else c
    match c.lineEnd? with
    | some (_, c) => toNextToken fuel ((s.moved c).allowing (s.allowKey || !s.inFlow))
    | none => s.moved c

def take (t : Token) (length : Nat) (s : Scanner) : Scanner :=
  (s.moved (s.cursor.skip length)).push t

def atTopLevel (s : Scanner) : Except Stop Scanner := do
  return (← (s.unwind (-1)).dropKey).allowing false

def openFlow (t : Token) (s : Scanner) : Except Stop Scanner := do
  let s ← s.saveKey
  return ({ s with level := s.level + 1 }.allowing true).take t 1

def closeFlow (t : Token) (s : Scanner) : Except Stop Scanner := do
  let s ← s.dropKey
  if s.level = 0 then throw .malformed
  return ({ s with level := s.level - 1 }.allowing false).take t 1

def comma (s : Scanner) : Except Stop Scanner := do
  return ((← s.dropKey).allowing true).take .comma 1

/-- A mark of a block opens one if it has to; it may stand only where a key may. -/
def openFor (start : Token) (s : Scanner) : Except Stop Scanner :=
  if s.inFlow then .ok s else if s.allowKey then .ok (s.openBlock start) else .error .malformed

def item (s : Scanner) : Except Stop Scanner := do
  let s ← (← s.openFor .blockSequence).dropKey
  return (s.allowing true).take .item 1

def key (s : Scanner) : Except Stop Scanner := do
  let s ← (← s.openFor .blockMapping).dropKey
  return (s.allowing !s.inFlow).take .key 1

def withKeyAt (k : KeyPlace) (s : Scanner) : Scanner :=
  let since := s.tokens.length - k.number
  let opens := !s.inFlow && s.opensBlock k.column
  let start := if opens then [Token.key, .blockMapping] else [.key]
  let tokens := s.tokens.take since ++ start ++ s.tokens.drop since
  if opens then { s with tokens }.entered k.column else { s with tokens }

def value (s : Scanner) : Except Stop Scanner := do
  match s.keys.find? (·.level == s.level) with
  | some k =>
    let s := { s with keys := s.keys.filter (·.level != s.level) }
    return ((s.withKeyAt k).allowing false).take .value 1
  | none =>
    let s ← (← s.openFor .blockMapping).dropKey
    return (s.allowing !s.inFlow).take .value 1

def node (read : Cursor → Except Stop (Token × Cursor)) (s : Scanner) : Except Stop Scanner := do
  let s ← s.saveKey
  let (t, c) ← read s.cursor
  return ((s.moved c).push t).allowing false

def quoted (double : Bool) (c : Cursor) : Except Stop (Token × Cursor) :=
  (quotedText double c).map fun (codes, c) =>
    match codes.mapM Text.charOfCode? with
    | some cs => (.text false (String.ofList cs), c)
    | none => (.torn codes, c)

def block (isFolded : Bool) (s : Scanner) : Except Stop Scanner := do
  let s ← (s.allowing true).dropKey
  let (cs, c) ← blockText isFolded s.indent s.cursor
  return (s.moved c).push (.text false (String.ofList cs))

/-- A plain text; if lines ended after it a key may follow. -/
def plain (s : Scanner) : Except Stop Scanner := do
  let s ← s.saveKey
  let ((cs, ended), c) := plainText s.inFlow s.indent s.cursor
  return ((s.moved c).push (.text true (String.ofList cs))).allowing ended

def marks : List Char :=
  ['-', '?', ':', ',', '[', ']', '\x7b', '\x7d', '#', '&', '*', '!', '|', '>', '\'', '"', '%', '@',
    '`']

def startsPlain (inFlow : Bool) (c : Char) (after : Option Char) : Bool :=
  !(isGap (some c) || marks.contains c) ||
    (!isGap after && (c == '-' || (!inFlow && (c == '?' || c == ':'))))

def tokenAt (c : Char) (s : Scanner) : Except Stop Scanner :=
  let after := s.cursor.ahead 1
  let first := s.cursor.column = 0
  if c = '%' ∧ first then
    s.atTopLevel.bind fun s => (directiveToken s.cursor).map fun (t, c) => (s.moved c).push t
  else if first ∧ s.cursor.atMark '-' then s.atTopLevel.map (take .documentStart 3)
  else if first ∧ s.cursor.atMark '.' then s.atTopLevel.map (take .documentEnd 3)
  else if c = '[' then s.openFlow .flowSequence
  else if c = '\x7b' then s.openFlow .flowMapping
  else if c = ']' then s.closeFlow .flowSequenceEnd
  else if c = '\x7d' then s.closeFlow .flowMappingEnd
  else if c = ',' then s.comma
  else if c = '-' ∧ isGap after then s.item
  else if c = '?' ∧ (s.inFlow ∨ isGap after) then s.key
  else if c = ':' ∧ (s.inFlow ∨ isGap after) then s.value
  else if c = '*' then s.node fun c => (anchorName c).map fun (name, c) => (.alias name, c)
  else if c = '&' then s.node fun c => (anchorName c).map fun (name, c) => (.anchor name, c)
  else if c = '!' then s.node tagToken
  else if c = '|' ∧ !s.inFlow then s.block false
  else if c = '>' ∧ !s.inFlow then s.block true
  else if c = '\'' then s.node (quoted false)
  else if c = '"' then s.node (quoted true)
  else if startsPlain s.inFlow c after then s.plain
  else .error .malformed

/-! ### The whole stream -/

/-- Goes on to the next token; nothing is left at the end of the stream. -/
def advance (s : Scanner) : Except Stop (Scanner × Bool) := do
  let s ← (toNextToken (s.cursor.rest.length + 1) s).dropStale
  let s := s.unwind s.cursor.column
  match s.cursor.peek with
  | none => return ((← s.atTopLevel).push .streamEnd, true)
  | some c => return (← s.tokenAt c, false)

/-- The tokens from a place on; a fault ends them. -/
def run : Nat → Scanner → List Token
  | 0, s => s.tokens.reverse
  | fuel + 1, s =>
    match s.advance with
    | .error why => (.fault why :: s.tokens).reverse
    | .ok (s, true) => s.tokens.reverse
    | .ok (s, false) => run fuel s

end Scanner

def tokens (cs : List Char) : List Token :=
  if cs.all isAllowed then
    let start : Cursor := { rest := cs }
    let c := if start.isAt '\uFEFF' then start.next else start
    Scanner.run (cs.length + 1) { cursor := c }
  else [.fault .malformed]

end SchemaSheets.Yaml
