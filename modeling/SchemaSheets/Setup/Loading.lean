import SchemaSheets.Descriptor.Workbook
import SchemaSheets.Json.Reader
import SchemaSheets.Session
import SchemaSheets.Setup.Format
import SchemaSheets.Value.Merge
import SchemaSheets.Yaml.Reader

/-!
# Setups from documents

A setup document holds one workbook, or a list of workbooks with defaults that
lie under each of them and properties of the space.  A workbook has a source,
or it names a file that holds the text of its source.
-/

namespace SchemaSheets

/-- A document in a format, which is named in the message if it cannot be read. -/
def Format.read [Capacity] (f : Format) (name text : String) : Except Failure Value :=
  match f with
  | json =>
    match Json.read text with
    | .ok v => .ok v
    | .error (.tooManyDigits count) => .error (.misuse (.numberTooLong count))
    | .error .tooDeep => .error (.misuse .tooDeep)
    | .error e => .error (.setup (.unreadable name.toUpper e.message))
  | yaml =>
    match Yaml.read text with
    | .ok v => .ok v
    | .error (.misuse m) => .error (.misuse m)
    | .error .malformed => .error (.setup (.unreadable name.toUpper "malformed document"))

namespace Setup

/-- The entries for workbooks in a document, of which there may be just one. -/
def workbookEntries (document : Entries) : Except Failure (List Value) :=
  match document.get? "workbooks" with
  | some (.list entries) => .ok entries
  | some _ => .error (.setup .entriesNotList)
  | none =>
    if document.has "source" || document.has "source_file" then
      .ok [.map (document.without ["defaults", "space"])]
    else .error (.setup .nothingToGenerate)

def sharedEntries (document : Entries) (name : String) : Except Failure Entries :=
  match (document.get name).orElse (.map []) with
  | .map entries => .ok entries
  | _ => .error (.setup .sharedNotMapping)

def pathOf : Value → Except Failure Path
  | .str s => .ok (Path.ofText s)
  | v => .error (.misuse (.notPath v.typeName))

/-- An entry in which the text of its file stands as the source. -/
def withSource (files : Files) (base : Path) (entry : Nat) (es : Entries) :
    Except Failure Entries := do
  let rest := es.without ["source_file"]
  match es.get "source_file" with
  | .null => return rest
  | named =>
    if rest.has "source" then throw (.setup (.twoSources entry))
    let path := base.join (← pathOf named)
    if ← (files.isThere path).mapError .file then
      return Entries.insert (.str "source") (.str (← (files.read path).mapError .file)) rest
    else throw (.setup (.sourceFileMissing entry path.text))

def planOf (files : Files) (base : Path) (defaults : Entries) (entry : Nat) (v : Value) :
    Except Failure WorkbookPlan := do
  let merged ← ((Value.merge (.map defaults) v).bind (·.entriesFor "pop")).mapError .misuse
  let es ← withSource files base entry merged
  if !es.has "source" then throw (.setup (.noSource entry))
  (WorkbookPlan.ofValue (.map es)).mapError fun report => .setup (.invalidEntry entry report)

def plansFrom (files : Files) (base : Path) (defaults : Entries) (entry : Nat) :
    List Value → Except Failure (List WorkbookPlan)
  | [] => .ok []
  | v :: rest => do
    let plan ← planOf files base defaults entry v
    return plan :: (← plansFrom files base defaults (entry + 1) rest)

/-- The entries for workbooks, the defaults and the properties of the space in a document. -/
def shapeOf (root : Entries) : Except Failure (List Value × Entries × Entries) := do
  let entries ← workbookEntries root
  let defaults ← sharedEntries root "defaults"
  let space ← sharedEntries root "space"
  return (entries, defaults, space)

/-- The last stage: the keys of the space's properties have to be texts. -/
def finish (space : Entries) (plans : List WorkbookPlan) : Except Failure Setup :=
  match Check.named "SetupConfig" (Check.within (.key "space") (Check.textKeyed (.map space))) with
  | .ok space => .ok { plans, space }
  | .error report => .error (.invalid report)

/-- The setup that a document describes; its files lie relative to a directory. -/
def ofDocument (files : Files) (base : Path) : Value → Except Failure Setup
  | .map root => do
    let (entries, defaults, space) ← shapeOf root
    finish space (← plansFrom files base defaults 0 entries)
  | _ => .error (.setup .notMapping)

/-- The setup of a text in a format that is named.  Without a directory of its own, its files lie in
the working directory. -/
def ofText [Capacity] (files : Files) (base : String) (format text : String) :
    Except Failure Setup := do
  let document ← (Format.forReading format).read format text
  let base : Path := if base == "" then { anchor := .home files.home } else Path.ofText base
  ofDocument files base document

def ofFile [Capacity] (files : Files) (p : Path) : Except Failure Setup := do
  if !(← (files.isThere p).mapError .file) then throw (.file (.noConfig p.text))
  let format := Format.ofInputSuffix p.suffix
  let document ← format.read format.name (← (files.read p).mapError .file)
  ofDocument files p.parent document

end Setup

/-- Files with a value saved as a document in the format that the path's suffix tells. -/
def Files.saveDocument (files : Files) (p : Path) (v : Value) : Except FileFailure Files :=
  files.save p ((Format.ofOutputSuffix p.suffix).print true v)

end SchemaSheets
