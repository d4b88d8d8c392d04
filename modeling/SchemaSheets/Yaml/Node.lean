import SchemaSheets.Capacity
import SchemaSheets.Yaml.Layout

/-!
# Nodes of a YAML document

A document is a tree of texts, sequences and mappings, each with a tag that
tells what it means.  An alias stands for the node that its anchor marks.  A
collection may be named inside itself; there the tree is cut off and the
collection stands `again`.  Collections nest up to a limit.  `Node.ofTokens` reads
the only document of a stream.
-/

namespace SchemaSheets.Yaml

inductive Tag where
  | null
  | bool
  | int
  | float
  | timestamp
  | binary
  | str
  | seq
  | map
  | set
  | omap
  | pairs
  /-- the key that merges mappings -/
  | merge
  /-- the key that stands for a default value -/
  | default
  | unknown
  deriving DecidableEq, Repr

namespace Tag

def names : List (String × Tag) :=
  [("null", null), ("bool", bool), ("int", int), ("float", float), ("timestamp", timestamp),
   ("binary", binary), ("str", str), ("seq", seq), ("map", map), ("set", set), ("omap", omap),
   ("pairs", pairs), ("merge", merge), ("value", .default)]

def repository : String := "tag:yaml.org,2002:"

def ofText (s : String) : Tag :=
  ((names.map fun (name, t) => (repository ++ name, t)).lookup s).getD unknown

def ofForm : Form → Tag
  | .null => null
  | .bool => bool
  | .int => int
  | .float => float
  | .timestamp => timestamp
  | .merge => merge
  | .default => .default
  | .text => str

end Tag

inductive Node where
  | text (tag : Tag) (content : String)
  /-- a text in which half of a surrogate pair stands alone -/
  | torn (tag : Tag) (codes : List Nat)
  | seq (tag : Tag) (items : List Node)
  | map (tag : Tag) (entries : List (Node × Node))
  /-- a collection that is named inside itself -/
  | again (tag : Tag) (isMapping : Bool)
  deriving Repr

namespace Node

def tag : Node → Tag
  | text t _ | torn t _ | seq t _ | map t _ | again t _ => t

def empty : Node := text .null ""

/-! ### Reading tokens -/

/-- What is left to read, the nodes that anchors have marked so far, and the levels of collections
for which there is room. -/
structure Supply where
  tokens : List Token
  anchors : List (String × Node) := []
  room : Nat
  deriving Repr

abbrev Rule := StateT Supply (Except Stop)

namespace Rule

def peek : Rule Token := do return (← get).tokens.headD .streamEnd

def advance : Rule Unit := modify fun s => { s with tokens := s.tokens.tail }

def misfit {α : Type} : Rule α := do
  match ← peek with
  | .fault why => throw why
  | _ => throw .malformed

def expect (t : Token) : Rule Unit := do
  if (← peek) = t then advance else misfit

def skip (t : Token) : Rule Bool := do
  if (← peek) = t then
    advance
    return true
  else return false

end Rule

open Rule

abbrev Shorthands := List (String × String)

/-- What stands before the content of a node. -/
structure Properties where
  anchor : Option String := none
  tag : Option String := none
  deriving Repr

namespace Properties

def isSome (p : Properties) : Bool := p.anchor.isSome || p.tag.isSome

def isOpen (p : Properties) : Bool := p.tag == none || p.tag == some "!"

def collectionTag (p : Properties) (usual : Tag) : Tag :=
  if p.isOpen then usual else Tag.ofText (p.tag.getD "")

def textTag (p : Properties) (plain : Bool) (content : String) : Tag :=
  if (plain && p.tag == none) || p.tag == some "!" then Tag.ofForm (Form.ofText content.toList)
  else if p.tag == none then .str
  else Tag.ofText (p.tag.getD "")

end Properties

def anchor? : Rule (Option String) := do
  match ← peek with
  | .anchor name =>
    advance
    return some name
  | _ => return none

def tag? (shorthands : Shorthands) : Rule (Option String) := do
  match ← peek with
  | .tag none suffix =>
    advance
    return some suffix
  | .tag (some handle) suffix =>
    match shorthands.lookup handle with
    | some meaning =>
      advance
      return some (meaning ++ suffix)
    | none => throw .malformed
  | _ => return none

def properties (shorthands : Shorthands) : Rule Properties := do
  match ← anchor? with
  | some name => return ⟨some name, ← tag? shorthands⟩
  | none =>
    match ← tag? shorthands with
    | some tag => return ⟨← anchor?, some tag⟩
    | none => return {}

inductive Position where
  | flow
  | block
  /-- in a mapping, where the items of a sequence need no indentation -/
  | member
  deriving DecidableEq, Repr

def unmarked (p : Properties) : Rule Unit := do
  match p.anchor with
  | none => return
  | some name => if ((← get).anchors.lookup name).isSome then throw .malformed

/-- Marks a node by its anchor; the last mark counts. -/
def mark (p : Properties) (n : Node) : Rule Unit :=
  match p.anchor with
  | none => return
  | some name => modify fun s => { s with anchors := (name, n) :: s.anchors }

def nested {α : Type} (parts : Rule α) : Rule α := do
  match (← get).room with
  | 0 => throw .tooDeep
  | room + 1 =>
    modify fun s => { s with room }
    let a ← parts
    modify fun s => { s with room := room + 1 }
    return a

/-- A sequence of items.  Its anchor names it while they are read. -/
def sequence (p : Properties) (items : Rule (List Node)) : Rule Node := do
  let tag := p.collectionTag .seq
  mark p (again tag false)
  return seq tag (← nested items)

/-- A mapping of entries.  Its anchor names it while they are read. -/
def mapping (p : Properties) (entries : Rule (List (Node × Node))) : Rule Node := do
  let tag := p.collectionTag .map
  mark p (again tag true)
  return map tag (← nested entries)

mutual
def node (shorthands : Shorthands) : Nat → Position → Rule Node
  | 0, _ => misfit
  | fuel + 1, position => do
    match ← peek with
    | .alias name =>
      advance
      match (← get).anchors.lookup name with
      | some n => return n
      | none => throw .malformed
    | _ =>
      let p ← properties shorthands
      unmarked p
      let n ← content shorthands fuel position p
      mark p n
      return n

def content (shorthands : Shorthands) : Nat → Position → Properties → Rule Node
  | 0, _, _ => misfit
  | fuel + 1, position, p => do
    match ← peek with
    | .text plain s =>
      advance
      return text (p.textTag plain s) s
    | .torn codes =>
      advance
      return torn (p.textTag false (String.ofList (codes.map Text.charOfCode))) codes
    | .flowSequence =>
      advance
      sequence p (flowItems shorthands fuel true)
    | .flowMapping =>
      advance
      mapping p (flowEntries shorthands fuel true)
    | .blockSequence =>
      if position = .flow then absent p
      else
        advance
        sequence p (blockItems shorthands fuel)
    | .blockMapping =>
      if position = .flow then absent p
      else
        advance
        mapping p (blockEntries shorthands fuel)
    | .item =>
      if position = .member then
        sequence p (memberItems shorthands fuel)
      else absent p
    | _ => absent p
where
  /-- A node without content needs a property. -/
  absent (p : Properties) : Rule Node :=
    if p.isSome then return text (p.textTag p.isOpen "") "" else misfit

def nodeUnless (shorthands : Shorthands) : Nat → Position → List Token → Rule Node
  | 0, _, _ => misfit
  | fuel + 1, position, stops => do
    if stops.contains (← peek) then return empty else node shorthands fuel position

def blockItems (shorthands : Shorthands) : Nat → Rule (List Node)
  | 0 => misfit
  | fuel + 1 => do
    if ← skip .item then
      let n ← nodeUnless shorthands fuel .block [.item, .blockEnd]
      return n :: (← blockItems shorthands fuel)
    else
      expect .blockEnd
      return []

def memberItems (shorthands : Shorthands) : Nat → Rule (List Node)
  | 0 => misfit
  | fuel + 1 => do
    if ← skip .item then
      let n ← nodeUnless shorthands fuel .block [.item, .key, .value, .blockEnd]
      return n :: (← memberItems shorthands fuel)
    else return []

def entryValue (shorthands : Shorthands) : Nat → Position → List Token → Rule Node
  | 0, _, _ => misfit
  | fuel + 1, position, stops => do
    if ← skip .value then nodeUnless shorthands fuel position stops else return empty

def blockEntries (shorthands : Shorthands) : Nat → Rule (List (Node × Node))
  | 0 => misfit
  | fuel + 1 => do
    if ← skip .key then
      let k ← nodeUnless shorthands fuel .member [.key, .value, .blockEnd]
      let v ← entryValue shorthands fuel .member [.key, .value, .blockEnd]
      return (k, v) :: (← blockEntries shorthands fuel)
    else
      expect .blockEnd
      return []

/-- The items of a sequence in brackets; an entry among them is a mapping of its own. -/
def flowItems (shorthands : Shorthands) : Nat → Bool → Rule (List Node)
  | 0, _ => misfit
  | fuel + 1, first => do
    if ← skip .flowSequenceEnd then return []
    if !first then expect .comma
    if ← skip .key then
      let k ← nodeUnless shorthands fuel .flow [.value, .comma, .flowSequenceEnd]
      let v ← entryValue shorthands fuel .flow [.comma, .flowSequenceEnd]
      return map .map [(k, v)] :: (← flowItems shorthands fuel false)
    else if ← skip .flowSequenceEnd then return []
    else
      let n ← node shorthands fuel .flow
      return n :: (← flowItems shorthands fuel false)

def flowEntries (shorthands : Shorthands) : Nat → Bool → Rule (List (Node × Node))
  | 0, _ => misfit
  | fuel + 1, first => do
    if ← skip .flowMappingEnd then return []
    if !first then expect .comma
    if ← skip .key then
      let k ← nodeUnless shorthands fuel .flow [.value, .comma, .flowMappingEnd]
      let v ← entryValue shorthands fuel .flow [.comma, .flowMappingEnd]
      return (k, v) :: (← flowEntries shorthands fuel false)
    else if ← skip .flowMappingEnd then return []
    else
      let n ← node shorthands fuel .flow
      return (n, empty) :: (← flowEntries shorthands fuel false)
end

/-! ### Documents -/

def usualShorthands : Shorthands := [("!", "!"), ("!!", Tag.repository)]

/-- The directives of a document.  A version comes once, and a shorthand has one meaning. -/
def directives : Nat → Bool → Shorthands → Rule Shorthands
  | 0, _, _ => misfit
  | fuel + 1, versioned, found => do
    match ← peek with
    | .version major =>
      if versioned || major != 1 then throw .malformed
      advance
      directives fuel true found
    | .shorthand handle meaning =>
      if (found.lookup handle).isSome then throw .malformed
      advance
      directives fuel versioned ((handle, meaning) :: found)
    | .directive =>
      advance
      directives fuel versioned found
    | _ => return found ++ usualShorthands

def isBoundary : Token → Bool
  | .version _ | .shorthand _ _ | .directive | .documentStart | .documentEnd | .streamEnd => true
  | _ => false

def documentEnds : Nat → Rule Unit
  | 0 => return ()
  | fuel + 1 => do
    if ← skip .documentEnd then documentEnds fuel else return ()

/-- The only document of a stream; nothing, if it has none. -/
def document : Rule (Option Node) := do
  let fuel := 4 * (← get).tokens.length + 4
  let root ← match ← peek with
    | .streamEnd => pure none
    | first =>
      if isBoundary first && first != .documentEnd then
        let shorthands ← directives fuel false []
        expect .documentStart
        if isBoundary (← peek) then pure (some empty)
        else some <$> node shorthands fuel .block
      else some <$> node usualShorthands fuel .block
  documentEnds fuel
  expect .streamEnd
  return root

def ofTokens [Capacity] (tokens : List Token) : Except Stop (Option Node) :=
  (document.run { tokens, room := Capacity.yaml }).map (·.1)

end Node

end SchemaSheets.Yaml
