import SchemaSheets.Url.Split

/-!
# Relative URLs

A relative URL is resolved against the URL of the document that it stands in:
what it leaves out in front is taken from there, and its path starts where the
last segment of the other path stands.  Parameters after a semicolon in the
last segment are no part of the path.
-/

namespace SchemaSheets.Url

def relativeSchemes : List String :=
  ["", "ftp", "http", "gopher", "nntp", "imap", "wais", "file", "https", "shttp", "mms",
   "prospero", "rtsp", "rtspu", "sftp", "svn", "svn+ssh", "ws", "wss"]

def resolveSegments (kept : List (List Char)) : List (List Char) → List (List Char)
  | [] => kept
  | ['.'] :: rest => resolveSegments kept rest
  | ['.', '.'] :: rest => resolveSegments kept.dropLast rest
  | segment :: rest => resolveSegments (kept ++ [segment]) rest

def joinSegments (base path : List Char) : List (List Char) :=
  let own := splitAt '/' path
  if path.head? == some '/' then own
  else
    let front := splitAt '/' base
    let front := if front.getLast? == some [] then front else front.dropLast
    match front ++ own with
    | [] => []
    | first :: rest => first :: rest.dropLast.filter (!·.isEmpty) ++ rest.getLast?.toList

def joinPath (base path : List Char) : List Char :=
  let segments := joinSegments base path
  let resolved := resolveSegments [] segments
  let last := segments.getLast?.getD []
  let resolved := if last == ['.'] || last == ['.', '.'] then resolved ++ [[]] else resolved
  match ['/'].intercalate resolved with
  | [] => ['/']
  | path => path

def parameterSchemes : List String :=
  ["", "ftp", "hdl", "prospero", "http", "imap", "https", "shttp", "rtsp", "rtspu", "sip", "sips",
   "mms", "sftp", "tel"]

def splitParameters (path : List Char) : List Char × List Char :=
  let (front, last) := cutLast '/' path
  let (name, parameters) := cut ';' last
  (match front with
    | some front => front ++ '/' :: name
    | none => name, parameters.getD [])

def pathOf (scheme path : List Char) : List Char × List Char :=
  if parameterSchemes.contains (String.ofList scheme) then splitParameters path else (path, [])

def withParameters (path parameters : List Char) : List Char :=
  if parameters.isEmpty then path else path ++ ';' :: parameters

/-- A URL put together from its parts; an empty query or fragment is left out. -/
def Parts.text (u : Parts) : List Char :=
  let path :=
    if u.authority.isEmpty then u.path
    else
      '/' :: '/' :: u.authority ++
        (if u.path.isEmpty || u.path.head? == some '/' then u.path else '/' :: u.path)
  (if u.scheme.isEmpty then [] else u.scheme ++ [':']) ++ path ++
    (if u.query.isEmpty then [] else '?' :: u.query) ++
    (if u.fragment.isEmpty then [] else '#' :: u.fragment)

/-- A URL resolved against a base; nothing, if one of them is no URL. -/
def join (base url : List Char) : Option (List Char) :=
  if url.isEmpty then some base
  else do
    let b ← split base
    let u ← split url
    let scheme := if u.scheme.isEmpty then b.scheme else u.scheme
    let (basePath, baseParameters) := pathOf b.scheme b.path
    let (path, parameters) := pathOf scheme u.path
    if scheme != b.scheme || !relativeSchemes.contains (String.ofList scheme) then return url
    else if !u.authority.isEmpty then
      return Parts.text { u with scheme, path := withParameters path parameters }
    else if path.isEmpty && parameters.isEmpty then
      return Parts.text { b with path := withParameters basePath baseParameters
                                 query := if u.query.isEmpty then b.query else u.query
                                 fragment := u.fragment }
    else
      return Parts.text { b with path := withParameters (joinPath basePath path) parameters
                                 query := u.query, fragment := u.fragment }

end SchemaSheets.Url
