import SchemaSheets.Text.Utf8
import SchemaSheets.Yaml.Plain
import SchemaSheets.Yaml.Scalar

/-!
# Tokens of a YAML stream

The kinds of tokens, and the readers of those that stand on one line: names of
anchors, tags and directives.
-/

namespace SchemaSheets.Yaml

/-- What a stream is made of.  Indentation shows as starts and ends of blocks. -/
inductive Token where
  /-- the version of the language that a document asks for -/
  | version (major : Nat)
  /-- a shorthand for the beginning of tags -/
  | shorthand (handle meaning : String)
  /-- a directive that means nothing here -/
  | directive
  | documentStart
  | documentEnd
  | blockSequence
  | blockMapping
  | blockEnd
  | flowSequence
  | flowSequenceEnd
  | flowMapping
  | flowMappingEnd
  /-- the hyphen before an item of a block -/
  | item
  /-- the comma between two parts of a flow collection -/
  | comma
  | key
  | value
  | alias (name : String)
  | anchor (name : String)
  | tag (handle : Option String) (suffix : String)
  | text (plain : Bool) (content : String)
  /-- a text in which half of a surrogate pair stands alone -/
  | torn (codes : List Nat)
  | streamEnd
  /-- the stream is faulty from here on -/
  | fault (why : Stop)
  deriving DecidableEq, Repr

/-! ### Names -/

def endsName (c : Option Char) : Bool :=
  isGap c || c.any fun c => ['?', ':', ',', ']', '\x7d', '%', '@', '`'].contains c

def anchorName (c : Cursor) : Except Stop (String × Cursor) :=
  let (name, c) := c.next.takeWhile isWordChar
  if name.isEmpty || !endsName c.peek then .error .malformed else .ok (String.ofList name, c)

/-! ### Tags -/

def isTagChar (c : Char) : Bool :=
  isWordChar c || [';', '/', '?', ':', '@', '&', '=', '+', '$', ',', '.', '!', '~', '*', '\'', '(',
    ')', '[', ']', '%'].contains c

def percentOctets : List Char → Option (List UInt8 × List Char)
  | '%' :: a :: b :: rest => do
    let n ← Text.hexValue? [a, b]
    let (octets, rest) ← percentOctets rest
    return (UInt8.ofNat n :: octets, rest)
  | '%' :: _ => none
  | rest => some ([], rest)

def unescapedTag : Nat → List Char → Option (List Char)
  | _, [] => some []
  | 0, _ => none
  | fuel + 1, '%' :: cs => do
    let (octets, rest) ← percentOctets ('%' :: cs)
    let here ← (Text.decodeUtf8 octets).toOption
    return here ++ (← unescapedTag fuel rest)
  | fuel + 1, c :: cs => (unescapedTag fuel cs).map (c :: ·)

def tagText (c : Cursor) : Except Stop (String × Cursor) :=
  let (written, c) := c.takeWhile isTagChar
  match unescapedTag written.length written with
  | some cs => if written.isEmpty then .error .malformed else .ok (String.ofList cs, c)
  | none => .error .malformed

def tagHandle (c : Cursor) : Except Stop (String × Cursor) :=
  if !c.isAt '!' then .error .malformed
  else if c.next.isAt ' ' then .ok ("!", c.next)
  else
    let (word, after) := c.next.takeWhile isWordChar
    if after.isAt '!' then .ok ("!" ++ String.ofList word ++ "!", after.next) else .error .malformed

def isBlankOrLineEnd (c : Option Char) : Bool := c == some ' ' || isLineEnd c

def closed {α : Type} (x : α × Cursor) : Except Stop (α × Cursor) :=
  if isBlankOrLineEnd x.2.peek then .ok x else .error .malformed

def tagToken (c : Cursor) : Except Stop (Token × Cursor) := do
  if c.next.isAt '<' then
    let (suffix, c) ← tagText (c.skip 2)
    if c.isAt '>' then closed (.tag none suffix, c.next) else throw .malformed
  else if isGap c.next.peek then closed (.tag none "!", c.next)
  else
    let word := c.next.rest.takeWhile fun x => !isBlankOrLineEnd (some x)
    let (handle, c) ← if word.contains '!' then tagHandle c else .ok ("!", c.next)
    let (suffix, c) ← tagText c
    closed (.tag (some handle) suffix, c)

/-! ### Directives -/

def restOfLine (c : Cursor) : Except Stop Cursor :=
  let c := c.skipBlanks
  let c := if c.isAt '#' then c.skipLine else c
  if isLineEnd c.peek then .ok c.skipLineEnd else .error .malformed

def decimalNumber (c : Cursor) : Except Stop (Nat × Cursor) :=
  let (digits, c) := c.takeWhile Text.isDigit
  if digits.isEmpty then .error .malformed
  else .ok (Text.decimalValue digits, c)

def directiveValue (name : String) (c : Cursor) : Except Stop (Token × Cursor) := do
  if name == "YAML" then
    let (major, c) ← decimalNumber c.skipBlanks
    if !c.isAt '.' then throw .malformed
    let (_, c) ← decimalNumber c.next
    closed (.version major, c)
  else if name == "TAG" then
    let (handle, c) ← tagHandle c.skipBlanks
    if !c.isAt ' ' then throw .malformed
    let (meaning, c) ← tagText c.skipBlanks
    closed (.shorthand handle meaning, c)
  else return (.directive, c.skipLine)

def directiveToken (c : Cursor) : Except Stop (Token × Cursor) := do
  let (name, c) := c.next.takeWhile isWordChar
  if name.isEmpty || !isBlankOrLineEnd c.peek then throw .malformed
  let (token, c) ← directiveValue (String.ofList name) c
  return (token, ← restOfLine c)

end SchemaSheets.Yaml
