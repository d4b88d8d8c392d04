import SchemaSheets.Text.Integer
import SchemaSheets.Url.Hostname
import SchemaSheets.Url.Split

/-!
# Canonical URLs

The form of a URL in which a request is sent: scheme and host in lower case, no
port that the scheme implies, no dot segments in the path, and every character
that has no place in its part written as percent-encoded octets.
-/

namespace SchemaSheets.Url

inductive Fault where
  | tooLong
  | control (c : Char) (position : Nat)
  | port (text : List Char)
  | address4 (host : List Char)
  | address6 (host : List Char)
  | hostname (host : List Char)
  | pathWithoutSlash
  | doubleSlash
  | leadingColon
  deriving DecidableEq, Repr

def Fault.message : Fault → String
  | tooLong => "URL too long"
  | control c position =>
    "Invalid non-printable ASCII character in URL, " ++ Display.text (String.ofList [c]) ++
      " at position " ++ Decimal.intText position ++ "."
  | port text => "Invalid port: " ++ Display.text (String.ofList text)
  | address4 host => "Invalid IPv4 address: " ++ Display.text (String.ofList host)
  | address6 host => "Invalid IPv6 address: " ++ Display.text (String.ofList host)
  | hostname host => "Invalid IDNA hostname: " ++ Display.text (String.ofList host)
  | pathWithoutSlash => "For absolute URLs, path must be empty or begin with '/'"
  | doubleSlash => "Relative URLs cannot have a path starting with '//'"
  | leadingColon => "Relative URLs cannot have a path starting with ':'"

structure Canonical where
  scheme : List Char
  userinfo : List Char
  host : List Char
  port : Option Int
  path : List Char
  query : Option (List Char)
  fragment : Option (List Char)
  deriving DecidableEq, Repr

namespace Canonical

/-! ### Percent encoding -/

def isUnreserved (c : Char) : Bool :=
  Words.isWordChar c || c == '-' || c == '.' || c == '_' || c == '~'

def percentEncoded (c : Char) : List Char :=
  (String.ofList [c]).toUTF8.toList.flatMap fun b =>
    '%' :: (Display.hex 2 b.toNat).map Words.toUpper

/-- A part of a URL; what is neither unreserved nor safe is percent-encoded. -/
def quote (safe : Char → Bool) (cs : List Char) : List Char :=
  cs.flatMap fun c => if isUnreserved c || safe c then [c] else percentEncoded c

def printableBut (excluded : List Char) (c : Char) : Bool :=
  0x20 ≤ c.toNat && c.toNat < 0x7F && !excluded.contains c

def fragmentSafe : Char → Bool := printableBut [' ', '"', '<', '>', '`']

def querySafe : Char → Bool := printableBut [' ', '"', '#', '<', '>']

def pathSafe : Char → Bool := printableBut [' ', '"', '#', '<', '>', '?', '`', '\x7b', '\x7d']

def userinfoSafe : Char → Bool :=
  printableBut [' ', '"', '#', '<', '>', '?', '`', '\x7b', '\x7d', '/', ';', '=', '@', '[', '\\',
    ']', '^', '|']

def hostMarks : List Char :=
  ['!', '$', '&', '\'', '(', ')', '*', '+', ',', ';', '=', '"', '`', '\x7b', '\x7d', '%', '|', '\\']

def hostSafe (c : Char) : Bool := hostMarks.contains c

/-! ### Hosts and ports -/

/-- After a digit of a run: more of the run, or one character and the next of the runs that follow. -/
def afterDigit (runs : Nat) : List Char → Bool
  | [] => runs == 0
  | [c] => runs == 0 && Text.isDigit c
  | c :: d :: rest =>
    (Text.isDigit c && afterDigit runs (d :: rest)) ||
      (0 < runs && Text.isDigit d && afterDigit (runs - 1) rest)

def looksLikeVersion4 : List Char → Bool
  | c :: rest => Text.isDigit c && afterDigit 3 rest
  | [] => false

/-- A host: an address, an ASCII name, or an international name. -/
def hostOf (host : List Char) : Except Fault (List Char) :=
  if looksLikeVersion4 host then
    if isVersion4 host then .ok host else .error (.address4 host)
  else if host.head? == some '[' && host.getLast? == some ']' then
    let inner := (host.drop 1).dropLast
    if isVersion6 inner then .ok inner else .error (.address6 host)
  else if host.all (·.toNat < 0x80) then .ok (quote hostSafe (host.map Words.toLower))
  else
    match Hostname.ascii? (Text.lower host) with
    | some ascii => .ok ascii
    | none => .error (.hostname host)

def defaultPorts : List (String × Int) :=
  [("ftp", 21), ("http", 80), ("https", 443), ("ws", 80), ("wss", 443)]

def portOf (scheme port : List Char) : Except Fault (Option Int) :=
  if port.isEmpty then .ok none
  else
    match Text.integer? port with
    | none => .error (.port port)
    | some n => .ok (if defaultPorts.lookup (String.ofList scheme) == some n then none else some n)

/-! ### Paths -/

/-- The segments of a path without dot segments; two dots take the segment before them away. -/
def withoutDots (kept : List (List Char)) : List (List Char) → List (List Char)
  | [] => kept
  | ['.'] :: rest => withoutDots kept rest
  | ['.', '.'] :: rest => withoutDots (if kept == [[]] then kept else kept.dropLast) rest
  | segment :: rest => withoutDots (kept ++ [segment]) rest

def plainPath (path : List Char) : List Char := ['/'].intercalate (withoutDots [] (splitAt '/' path))

/-! ### From texts -/

def splitScheme (cs : List Char) : List Char × List Char :=
  match cut ':' cs with
  | (front, some rest) =>
    if front.isEmpty || isScheme front then (front, rest) else ([], cs)
  | (_, none) => ([], cs)

def splitAuthority : List Char → List Char × List Char
  | '/' :: '/' :: rest =>
    let ends (c : Char) : Bool := c == '/' || c == '?' || c == '#'
    (rest.takeWhile (!ends ·), rest.dropWhile (!ends ·))
  | cs => ([], cs)

def splitHost (cs : List Char) : List Char × List Char :=
  match cs.head?, cutLast ']' cs with
  | some '[', (some inner, rest) =>
    (inner ++ [']'], if rest.head? == some ':' then rest.drop 1 else rest)
  | _, _ =>
    let (host, port) := cut ':' cs
    (host, port.getD [])

def maxLength : Nat := 65536

def ofParts (scheme userinfo host port path : List Char) (query fragment : Option (List Char)) :
    Except Fault Canonical := do
  let userinfo := quote userinfoSafe userinfo
  let host ← hostOf host
  let port ← portOf scheme port
  let hasAuthority := !userinfo.isEmpty || !host.isEmpty || port.isSome
  if hasAuthority then
    if !path.isEmpty && path.head? != some '/' then throw .pathWithoutSlash
  else if scheme.isEmpty then
    if path.take 2 == ['/', '/'] then throw .doubleSlash
    if path.head? == some ':' then throw .leadingColon
  let path := if hasAuthority || !scheme.isEmpty then plainPath path else path
  return { scheme := scheme.map Words.toLower, userinfo, host, port, path := quote pathSafe path,
           query := query.map (quote querySafe), fragment := fragment.map (quote fragmentSafe) }

def ofText (cs : List Char) : Except Fault Canonical := do
  if maxLength < cs.length then throw .tooLong
  let isControl (c : Char) : Bool := c.toNat < 0x20 || c.toNat == 0x7F
  match cs.find? isControl with
  | some c => throw (.control c (cs.findIdx isControl))
  | none =>
    let (scheme, rest) := splitScheme cs
    let (authority, rest) := splitAuthority rest
    let (rest, fragment) := cut '#' rest
    let (path, query) := cut '?' rest
    let (userinfo, rest) := cutLast '@' authority
    let (host, port) := splitHost rest
    ofParts scheme (userinfo.getD []) host port path query fragment

/-! ### As texts -/

def authority (u : Canonical) : List Char :=
  (if u.userinfo.isEmpty then [] else u.userinfo ++ ['@']) ++
    (if u.host.contains ':' then '[' :: u.host ++ [']'] else u.host) ++
    match u.port with
    | some n => ':' :: (Decimal.intText n).toList
    | none => []

def text (u : Canonical) : List Char :=
  (if u.scheme.isEmpty then [] else u.scheme ++ [':']) ++
    (if u.authority.isEmpty then [] else '/' :: '/' :: u.authority) ++ u.path ++
    (match u.query with
      | some q => '?' :: q
      | none => []) ++
    match u.fragment with
    | some f => '#' :: f
    | none => []

def isAbsolute (u : Canonical) : Bool := !u.scheme.isEmpty && !u.host.isEmpty

def forRequest (u : Canonical) : Canonical :=
  if u.isAbsolute then u
  else { scheme := [], userinfo := [], host := [], port := none,
         path := '/' :: u.path.dropWhile (· == '/'), query := u.query, fragment := none }

end Canonical

end SchemaSheets.Url
