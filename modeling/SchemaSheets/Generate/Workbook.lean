import SchemaSheets.Descriptor.Workbook
import SchemaSheets.Generate.Integrity
import SchemaSheets.Source.Origin

/-!
# Workbooks from schemas

The whole way from a plan to a workbook: obtain the schema, take the domain
objects from it, make a sheet of each, drop the sheets with broken references,
and put the rest into the workbook that the plan describes.
-/

namespace SchemaSheets

/-- A generated workbook with what there is to say about it. -/
structure GeneratedWorkbook where
  workbook : Workbook
  diagnostics : Diagnostics
  /-- the names of all domain objects, in document order -/
  objectNames : List String
  deriving Repr

namespace GeneratedWorkbook

def droppedSheets (g : GeneratedWorkbook) : List String :=
  let kept := g.workbook.sheets.map (·.slug)
  g.objectNames.filter fun n => !kept.contains n

def fieldCount (g : GeneratedWorkbook) : Nat :=
  (g.workbook.sheets.map (·.fields.length)).foldr (· + ·) 0

def summary (g : GeneratedWorkbook) : Value :=
  .record [("workbook", .str g.workbook.name), ("object_count", .natural g.objectNames.length),
    ("sheet_count", .natural g.workbook.sheets.length), ("field_count", .natural g.fieldCount),
    ("dropped_sheets", .list (g.droppedSheets.map .str)),
    ("warning_count", .natural g.diagnostics.warningCount)]

end GeneratedWorkbook

namespace WorkbookPlan

def workbookName (p : WorkbookPlan) : String :=
  match p.name with
  | some name => if name == "" then defaultWorkbookName else name
  | none => defaultWorkbookName

def workbook (p : WorkbookPlan) (sheets : List Sheet) : Workbook :=
  { name := p.workbookName, sheets, extras := p.extras }

end WorkbookPlan

namespace Workbook

/-- The overrides that count: those given with the run, or else those of the plan. -/
def chosenOverrides (p : WorkbookPlan) (given : Value) : Except Failure (List SheetOverride) :=
  match given with
  | .null => .ok (p.overrides.getD [])
  | v => SheetOverride.listOfValue v

/-- The workbook of a plan, once the document of its schema is there.  Overrides given with the run
are used in place of the plan's. -/
def ofDocument (mode : IntegrityMode) (p : WorkbookPlan) (given document : Value) :
    Run GeneratedWorkbook := do
  let objects ← Introspection.objects document
  Run.inform .workbooks s!"Extracted {objects.length} object type(s)"
  let (sheets, diagnostics) ← Run.collecting do
    Sheet.generateAll mode objects (← chosenOverrides p given)
  let workbook := p.workbook sheets
  Run.inform .workbooks s!"Generated workbook '{workbook.name}' with {sheets.length} sheet(s)"
  return { workbook, diagnostics, objectNames := objects.filterMap (·.name.text?) }

/-- The workbook of a plan.  Overrides given with the run are read after the schema was obtained. -/
def generate [Capacity] (network : Http.Network) (mode : IntegrityMode) (p : WorkbookPlan)
    (given : Value) : Run GeneratedWorkbook := do
  ofDocument mode p given (← Introspection.ofValue network p.source)

end Workbook

end SchemaSheets
