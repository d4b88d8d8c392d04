import SchemaSheets.Files.Path
import SchemaSheets.Value.Display

/-!
# Files

The files and directories below the working directory.  Reading and writing go
through paths, which are followed step by step: every step but the last has to
be a directory that is there.
-/

namespace SchemaSheets

inductive FileFailure where
  | noConfig (path : String)
  | notFound (path : String)
  | isDirectory (path : String)
  | notDirectory (path : String)
  | alreadyExists (path : String)
  | nameTooLong (path : String)
  /-- a character of code zero, which ends names -/
  | nulInName
  | undecodable (position : Nat) (fault : Text.OctetFault)
  deriving DecidableEq, Repr

def FileFailure.message : FileFailure → String
  | noConfig path => "Config file not found: " ++ path
  | notFound path => "[Errno 2] No such file or directory: " ++ Display.text path
  | isDirectory path => "[Errno 21] Is a directory: " ++ Display.text path
  | notDirectory path => "[Errno 20] Not a directory: " ++ Display.text path
  | alreadyExists path => "[Errno 17] File exists: " ++ Display.text path
  | nameTooLong path => "[Errno 36] File name too long: " ++ Display.text path
  | nulInName => "embedded null byte"
  | undecodable position fault =>
    "'utf-8' codec can't decode byte" ++
    (if fault.count = 1 then
      " 0x" ++ String.ofList (Display.hex 2 fault.octet) ++ " in position " ++ Decimal.intText position
    else
      "s in position " ++ Decimal.intText position ++ "-" ++
        Decimal.intText (position + fault.count - 1)) ++
    ": " ++ fault.problem.message

abbrev Place := List String

inductive FileItem where
  | file (octets : List UInt8)
  | directory
  deriving DecidableEq, Repr

/-- The files and directories below the working directory. -/
structure Files where
  /-- the name of the working directory -/
  home : String
  items : List (Place × FileItem) := []
  deriving DecidableEq, Repr

namespace Files

/-- What is at a place; the working directory itself is always there. -/
def item? (fs : Files) (place : Place) : Option FileItem :=
  if place.isEmpty then some .directory else fs.items.lookup place

def put (fs : Files) (place : Place) (item : FileItem) : Files :=
  if fs.items.any (·.1 == place) then
    { fs with items := fs.items.map fun (p, i) => if p == place then (p, item) else (p, i) }
  else { fs with items := fs.items ++ [(place, item)] }

def putDirectories (fs : Files) (place : Place) : Files :=
  (List.range place.length).foldl (fun fs n =>
    let on := place.take (n + 1)
    if (fs.item? on).isSome then fs else fs.put on .directory) fs

def putFile (fs : Files) (place : Place) (octets : List UInt8) : Files :=
  (fs.putDirectories place.dropLast).put place (.file octets)

def contents (fs : Files) : List (Place × List UInt8) :=
  fs.items.filterMap fun (place, item) => match item with
    | .file octets => some (place, octets)
    | .directory => none

/-! ### Following paths -/

inductive Target where
  | file (place : Place) (octets : List UInt8)
  /-- a directory, whose place is unknown if it lies outside -/
  | directory (place : Option Place)
  /-- nothing is there, but something could be put there -/
  | free (place : Place)
  /-- a directory on the way is missing -/
  | missing
  /-- a file is on the way -/
  | blocked
  deriving DecidableEq, Repr

/-- Where the steps that are left lead from a directory. -/
def follow (fs : Files) (directory : Place) : List String → Target
  | [] => .directory (some directory)
  | ".." :: rest => if directory.isEmpty then outside rest else follow fs directory.dropLast rest
  | step :: rest =>
    let place := directory ++ [step]
    match fs.item? place with
    | some .directory => follow fs place rest
    | some (.file octets) => if rest.isEmpty then .file place octets else .blocked
    | none => if rest.isEmpty then .free place else .missing
where
  /-- Outside of the working directory nothing but directories above it is known. -/
  outside (rest : List String) : Target :=
    if rest.all (· == "..") then .directory none else .missing

def target (fs : Files) (p : Path) : Target :=
  match p.anchor with
  | .root _ => if p.steps.isEmpty then .directory none else .missing
  | _ => fs.follow [] p.steps

def sound (p : Path) : Except FileFailure Unit :=
  if p.hasNul then .error .nulInName
  else if p.isTooLong then .error (.nameTooLong p.text)
  else .ok ()

def isThere (fs : Files) (p : Path) : Except FileFailure Bool := do
  if p.hasNul then return false
  sound p
  match fs.target p with
  | .file _ _ | .directory _ => return true
  | _ => return false

def isFile (fs : Files) (p : Path) : Except FileFailure Bool := do
  if p.hasNul then return false
  sound p
  match fs.target p with
  | .file _ _ => return true
  | _ => return false

/-! ### Reading and writing -/

def textOf (octets : List UInt8) : Except FileFailure String :=
  match Text.decodeUtf8 octets with
  | .ok cs => .ok (String.ofList (Text.unifyLineEnds cs))
  | .error (position, fault) => .error (.undecodable position fault)

def read (fs : Files) (p : Path) : Except FileFailure String := do
  sound p
  match fs.target p with
  | .file _ octets => textOf octets
  | .directory _ => throw (.isDirectory p.text)
  | .blocked => throw (.notDirectory p.text)
  | .free _ | .missing => throw (.notFound p.text)

def write (fs : Files) (p : Path) (s : String) : Except FileFailure Files := do
  sound p
  match fs.target p with
  | .file place _ | .free place => return fs.put place (.file (Text.encodeUtf8 s))
  | .directory _ => throw (.isDirectory p.text)
  | .blocked => throw (.notDirectory p.text)
  | .missing => throw (.notFound p.text)

def makeDirectory (fs : Files) (p : Path) : Except FileFailure Files :=
  match fs.target p with
  | .free place => .ok (fs.put place .directory)
  | .directory _ => .ok fs
  | .file _ _ => .error (.alreadyExists p.text)
  | .blocked => .error (.notDirectory p.text)
  | .missing => .error (.notFound p.text)

/-- The files with a directory at the end of so many steps of a path, and on the way to it. -/
def makeDirectoriesTo (fs : Files) (p : Path) : Nat → Except FileFailure Files
  | 0 => .ok fs
  | n + 1 => do
    let here : Path := { p with steps := p.steps.take (n + 1) }
    match fs.target here with
    | .missing => (← makeDirectoriesTo fs p n).makeDirectory here
    | _ => fs.makeDirectory here

def makeDirectories (fs : Files) (p : Path) : Except FileFailure Files := do
  sound p
  makeDirectoriesTo fs p p.steps.length

def save (fs : Files) (p : Path) (s : String) : Except FileFailure Files := do
  (← fs.makeDirectories p.parent).write p s

end Files

end SchemaSheets
