import SchemaSheets.Command.Invocation
import SchemaSheets.Console.Layout
import SchemaSheets.Generate.Space
import SchemaSheets.Setup.Loading
import SchemaSheets.Setup.Template

/-!
# Running commands

What the program does with a command line: its exit status, what it prints, and
the files that it leaves.  A document goes to a file or to the standard output;
everything else is said on the console.
-/

namespace SchemaSheets

variable [Capacity] [Terminal]

structure Surroundings where
  /-- the name by which the program was called -/
  program : String
  files : Files
  network : Http.Network

structure Ending where
  status : Nat := 0
  /-- the standard output -/
  output : String := ""
  /-- the lines on the console -/
  console : List String := []
  files : Files
  deriving Repr

namespace Ending

def saying (e : Ending) (lines : List String) : Ending := { e with console := e.console ++ lines }

def broken (e : Ending) : Ending := { e with status := 1 }

def styled (e : Ending) (lines : Except String (List String)) : Ending :=
  match lines with
  | .ok lines => e.saying lines
  | .error _ => e.broken

/-- The end of a failed run, which tells why.  A verbose run adds a trace. -/
def failed (verbose : Bool) (message : String) (e : Ending) : Ending :=
  let e := e.broken.styled (Console.styled ("[red]Error: " ++ Markup.escape message ++ "[/red]"))
  if verbose then e.saying (Terminal.trace message) else e

end Ending

/-! ### What is said -/

/-- The lines of a log; only warnings, unless the run is verbose. -/
def Session.lines (verbose : Bool) (s : Session) : List String :=
  (s.log.filter fun r => verbose || r.level == .warning).flatMap fun r =>
    Console.plain (r.level.name ++ " " ++ r.message)

namespace Severity

def colour : Severity → String
  | error => "red"
  | warning => "yellow"
  | info => "blue"

end Severity

namespace Diagnostic

def markup (d : Diagnostic) : String :=
  "  [" ++ d.severity.colour ++ "]" ++ d.severity.name.toUpper ++ "[/" ++ d.severity.colour ++
    "]: " ++ Markup.escape d.message

end Diagnostic

namespace Diagnostics

def shown (verbose : Bool) (c : Diagnostics) : List Diagnostic :=
  c.items.filter fun d => verbose || d.severity != .info

def lines (verbose : Bool) (c : Diagnostics) : Except String (List String) :=
  ((c.shown verbose).mapM fun d => Console.styled d.markup).map List.flatten

end Diagnostics

namespace GeneratedWorkbook

def markup (output : Option String) (g : GeneratedWorkbook) : String :=
  let dropped := ", ".intercalate g.droppedSheets
  let figure (name value : String) : String := "\n[cyan]" ++ name ++ ":[/cyan] " ++ value
  "[green]Generated workbook '" ++ g.workbook.name ++ "'[/green]\n" ++
    figure "Object types" (Decimal.intText g.objectNames.length) ++
    figure "Sheets" (Decimal.intText g.workbook.sheets.length) ++
    figure "Fields" (Decimal.intText g.fieldCount) ++
    figure "Dropped" (if dropped == "" then "none" else dropped) ++
    figure "Output" (match output with
      | some path => if path == "" then "stdout" else path
      | none => "stdout")

def row (g : GeneratedWorkbook) : List String :=
  let dropped := ", ".intercalate g.droppedSheets
  [g.workbook.name, Decimal.intText g.workbook.sheets.length, if dropped == "" then "-" else dropped]

end GeneratedWorkbook

/-! ### Documents -/

namespace Delivery

def path? (d : Delivery) : Option Path :=
  match d.output with
  | some s => if s == "" then none else some (Path.ofText s)
  | none => none

def chosenFormat (d : Delivery) : Format :=
  match d.format, d.path? with
  | some f, _ => f
  | none, some p => Format.ofOutputSuffix p.suffix
  | none, none => .json

def deliver (d : Delivery) (v : Value) (e : Ending) : Except Failure Ending :=
  let text := d.chosenFormat.print d.pretty v
  match d.path? with
  | none => .ok { e with output := e.output ++ text }
  | some p => do
    let files ← (e.files.save p text).mapError .file
    return { e with files }

end Delivery

/-! ### Sources -/

inductive SourceFault where
  | usage (fault : UsageFault)
  | failure (e : Failure)
  deriving Repr

namespace WorkbookPlan

def setupSuffixes : List String := [".yaml", ".yml", ".json"]

/-- The plan in a file: the only one of a setup, or one whose source is the file's text. -/
def ofFile (files : Files) (word : String) : Except SourceFault WorkbookPlan :=
  let p := Path.ofText word
  if setupSuffixes.contains p.suffix.toLower then
    match Setup.ofFile files p with
    | .error e => .error (.failure e)
    | .ok setup =>
      match setup.plans with
      | [plan] => .ok plan
      | plans => .error (.usage (.notOneWorkbook word plans.length))
  else
    match files.read p with
    | .ok text => .ok { source := .str text }
    | .error e => .error (.failure (.file e))

/-- The plan that a word stands for: a URL is a source itself, a file holds a setup or a source. -/
def ofWord (files : Files) (word : String) : Except SourceFault WorkbookPlan :=
  if Url.isAbsolute word.toList then .ok { source := .str word }
  else
    match files.isFile (Path.ofText word) with
    | .error e => .error (.failure (.file e))
    | .ok false => .error (.usage (.noSource word))
    | .ok true => ofFile files word

def renamed (p : WorkbookPlan) (name : Option String) : WorkbookPlan :=
  match name with
  | some n => if n == "" then p else { p with name := some n }
  | none => p

end WorkbookPlan

/-! ### Commands -/

namespace Surroundings

def start (s : Surroundings) : Ending := { files := s.files }

def misused (s : Surroundings) (g : Grammar) (fault : UsageFault) : Ending :=
  let call := " ".intercalate (s.program :: g.command)
  { s.start with
    status := 2
    console := ["Usage: " ++ s.program ++ " " ++ g.usage, "Try '" ++ call ++ " --help' for help.", "",
      "Error: " ++ fault.message] }

def explained (s : Surroundings) (g : Grammar) : Ending :=
  { s.start with output := "Usage: " ++ s.program ++ " " ++ g.usage ++ "\n" }

def withoutSource (s : Surroundings) (verbose : Bool) (g : Grammar) : SourceFault → Ending
  | .usage fault => s.misused g fault
  | .failure e => s.start.failed verbose e.message

def presented (verbose : Bool) (delivery : Delivery) (g : GeneratedWorkbook) (e : Ending) :
    Ending :=
  match ((g.workbook.toValue false).mapError .misuse).bind fun v => delivery.deliver v e with
  | .error failure => e.failed verbose failure.message
  | .ok e =>
    match Console.panel "Workbook Generated" (g.markup delivery.output) with
    | .error fault => e.failed verbose fault
    | .ok lines =>
      let e := e.saying lines
      match g.diagnostics.lines verbose with
      | .error fault => e.failed verbose fault
      | .ok lines => e.saying lines

def generate (s : Surroundings) (verbose : Bool) (source : String) (name : Option String)
    (mode : IntegrityMode) (delivery : Delivery) : Ending :=
  match WorkbookPlan.ofWord s.files source with
  | .error fault => s.withoutSource verbose Command.generateGrammar fault
  | .ok plan =>
    match Run.from_ {} (Workbook.generate s.network mode (plan.renamed name) .null) with
    | (.error e, session) => (s.start.saying (session.lines verbose)).failed verbose e.message
    | (.ok g, session) => presented verbose delivery g (s.start.saying (session.lines verbose))

def descriptionWidth : Nat := 50

/-- A description in a table; nothing but a text can be shown. -/
def descriptionCell (v : Value) : Option String :=
  let shortened (s : String) : String :=
    Markup.escape <|
      if descriptionWidth < s.length then String.ofList (s.toList.take descriptionWidth) ++ "..."
      else s
  match v.orElse (.str "-") with
  | .str s => some (shortened s)
  | v@(.scalar (.torn _)) => some (shortened (Display.plain v))
  | _ => none

def objectRow (o : SourceObject) : Option (List String) := do
  return [← o.name.text?, Decimal.intText o.fields.length, ← descriptionCell o.description]

def fieldLines (o : SourceObject) : List (Option String) :=
  some ("\n[cyan]" ++ Display.plain o.name ++ "[/cyan]") :: o.fields.map fun f =>
    match f.type.label with
    | .ok (.str label) => some ("  - " ++ Display.plain f.name ++ ": " ++ Markup.escape label)
    | _ => none

/-- The end of a run with lines of markup, which breaks off at the first that cannot be shown. -/
def printed (e : Ending) : List (Option String) → Ending
  | [] => e
  | none :: _ => e.broken
  | some line :: rest =>
    match Console.styled line with
    | .ok lines => printed (e.saying lines) rest
    | .error _ => e.broken

def listed (verbose : Bool) (objects : List SourceObject) (e : Ending) : Ending :=
  if objects.isEmpty then e.saying ["No object types found"]
  else
    match objects.mapM objectRow with
    | none => e.broken
    | some rows =>
      match Console.table "Object Types" ["Name", "Fields", "Description"] rows with
      | .error _ => e.broken
      | .ok lines => printed (e.saying lines) (if verbose then objects.flatMap fieldLines else [])

def inspect (s : Surroundings) (verbose : Bool) (source : String) : Ending :=
  match WorkbookPlan.ofWord s.files source with
  | .error fault => s.withoutSource verbose Command.inspectGrammar fault
  | .ok plan =>
    let objects : Run (List SourceObject) := do
      Introspection.objects (← Introspection.ofValue s.network plan.source)
    match Run.from_ {} objects with
    | (.error e, session) => (s.start.saying (session.lines verbose)).failed verbose e.message
    | (.ok objects, session) => listed verbose objects (s.start.saying (session.lines verbose))

def presentedSpace (verbose : Bool) (delivery : Delivery) (c : ConfiguredSpace) (e : Ending) :
    Ending :=
  match ((c.space.toValue false).mapError .misuse).bind fun v => delivery.deliver v e with
  | .error failure => e.failed verbose failure.message
  | .ok e =>
    match Console.table "Generated Workbooks" ["Workbook", "Sheets", "Dropped"]
        (c.results.map GeneratedWorkbook.row) with
    | .error _ => e.broken
    | .ok lines => (e.saying lines).styled (c.diagnostics.lines verbose)

def configure (s : Surroundings) (verbose : Bool) (path : String) (mode : IntegrityMode)
    (delivery : Delivery) : Ending :=
  match Setup.ofFile s.files (Path.ofText path) with
  | .error e => s.start.failed verbose e.message
  | .ok setup =>
    match Run.from_ {} (Space.configure s.network mode setup) with
    | (.error e, session) => (s.start.saying (session.lines verbose)).failed verbose e.message
    | (.ok c, session) => presentedSpace verbose delivery c (s.start.saying (session.lines verbose))

def initConfig (s : Surroundings) (output source : String) : Ending :=
  match s.files.save (Path.ofText output) (Setup.template output source) with
  | .error _ => s.start.broken
  | .ok files =>
    { s.start with files }.styled (Console.styled ("[green]Created config: " ++ output ++ "[/green]"))

def run (s : Surroundings) (verbose : Bool) : Command → Ending
  | .generate source name mode delivery => s.generate verbose source name mode delivery
  | .inspect source => s.inspect verbose source
  | .configure path mode delivery => s.configure verbose path mode delivery
  | .initConfig output source => s.initConfig output source

def version : String := "0.1.0"

def call (s : Surroundings) (words : List String) : Ending :=
  match Command.ofWords s.files words with
  | .error (g, fault) => s.misused g fault
  | .ok .version => { s.start with output := "graphql-workbook, version " ++ version ++ "\n" }
  | .ok (.help g) => s.explained g
  | .ok .nothing =>
    { s.start with
      status := 2
      console := ["Usage: " ++ s.program ++ " " ++ Command.programGrammar.usage] }
  | .ok (.run verbose command) => s.run verbose command

end Surroundings

end SchemaSheets
