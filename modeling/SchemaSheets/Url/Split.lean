import SchemaSheets.Url.Address
import SchemaSheets.Text.Blank

/-!
# Parts of a URL

A URL falls into scheme, authority, path, query and fragment.  `split` finds
them leniently, as far as the text allows; a text whose authority has
unbalanced brackets, a bracket around something that is no address, or a
character that turns into a delimiter under compatibility normalisation, is no
URL at all.  `isAbsolute` holds for the URLs that a schema can be fetched from.
-/

namespace SchemaSheets.Url

/-- The parts of a URL; an absent query or fragment counts as empty. -/
structure Parts where
  scheme : List Char
  authority : List Char
  path : List Char
  query : List Char
  fragment : List Char
  deriving DecidableEq, Repr

def isControlOrSpace (c : Char) : Bool := c.toNat ≤ 0x20

def isIgnored (c : Char) : Bool := c == '\t' || c == '\r' || c == '\n'

def isSchemeChar (c : Char) : Bool := Words.isWordChar c || c == '+' || c == '-' || c == '.'

def isScheme : List Char → Bool
  | [] => false
  | c :: rest => (Words.isUpper c || Words.isLower c) && rest.all isSchemeChar

def splitScheme (cs : List Char) : List Char × List Char :=
  match cut ':' cs with
  | (front, some rest) => if isScheme front then (front.map Words.toLower, rest) else ([], cs)
  | _ => ([], cs)

def endsAuthority (c : Char) : Bool := c == '/' || c == '?' || c == '#'

def splitAuthority : List Char → List Char × List Char
  | '/' :: '/' :: rest =>
    (rest.takeWhile (!endsAuthority ·), rest.dropWhile (!endsAuthority ·))
  | cs => ([], cs)

/-- The host in brackets is an address, nothing stands before it, and only a port after it. -/
def bracketsHoldAddress (authority : List Char) : Bool :=
  let (_, hostAndPort) := cutLast '@' authority
  let isAddress (host : List Char) : Bool :=
    if host.head? == some 'v' then isVersionFuture host else isVersion6 host
  match cut '[' hostAndPort with
  | (before, some bracketed) =>
    let (host, port) := cut ']' bracketed
    let port := port.getD []
    before.isEmpty && (port.isEmpty || port.head? == some ':') && isAddress host
  | (_, none) => isAddress (cut ':' hostAndPort).1

def bracketsFit (authority : List Char) : Bool :=
  let opens := authority.contains '['
  let closes := authority.contains ']'
  if opens && closes then bracketsHoldAddress authority else !opens && !closes

def delimiterForms : List Nat :=
  [0x2047, 0x2048, 0x2049, 0x2100, 0x2101, 0x2105, 0x2106, 0x2A74, 0xFE13, 0xFE16, 0xFE55, 0xFE56,
   0xFE5F, 0xFE6B, 0xFF03, 0xFF0F, 0xFF1A, 0xFF1F, 0xFF20]

def split (text : List Char) : Option Parts :=
  let cs := (text.dropWhile isControlOrSpace).filter (!isIgnored ·)
  let (scheme, rest) := splitScheme cs
  let (authority, rest) := splitAuthority rest
  if !bracketsFit authority then none
  else
    let (rest, fragment) := cut '#' rest
    let (path, query) := cut '?' rest
    if authority.any (delimiterForms.contains ·.toNat) then none
    else some ⟨scheme, authority, path, query.getD [], fragment.getD []⟩

def fetchSchemes : List (List Char) := [['h', 't', 't', 'p'], ['h', 't', 't', 'p', 's']]

/-- A text without inner blanks that is, apart from blanks around it, a URL
with a scheme for fetching and an authority. -/
def isAbsolute (text : List Char) : Bool :=
  let trimmed := Text.trim text
  !trimmed.any Text.isBlank &&
    match split trimmed with
    | some parts => fetchSchemes.contains parts.scheme && !parts.authority.isEmpty
    | none => false

def isAbsoluteValue : Value → Bool
  | .str s => isAbsolute s.toList
  | .scalar (.torn codes) => isAbsolute (codes.map Text.charOfCode)
  | _ => false

end SchemaSheets.Url
