import SchemaSheets.Descriptor.Sheet

/-!
# Workbooks, spaces and their plans

A workbook holds sheets, a space holds workbooks.  A plan tells how one
workbook comes about: the source of its schema, its name, and overrides for its
sheets.  A setup is the plans of a space together with the space's properties.
-/

namespace SchemaSheets

def defaultWorkbookName : String := "GraphQL Plugin Generated Workbook"

structure Workbook where
  name : String := defaultWorkbookName
  sheets : List Sheet := []
  extras : Extras := []
  deriving DecidableEq, Repr, Inhabited

/-- How a workbook comes about.  Any value is accepted as source here; it is
told apart when the schema is obtained. -/
structure WorkbookPlan where
  source : Value
  name : Option String := none
  overrides : Option (List SheetOverride) := none
  extras : Extras := []
  deriving DecidableEq, Repr, Inhabited

/-- An ordered collection of workbooks. -/
structure Space where
  workbooks : List Workbook := []
  extras : Extras := []
  deriving DecidableEq, Repr, Inhabited

/-- The plans of a space's workbooks and the space's own properties. -/
structure Setup where
  plans : List WorkbookPlan := []
  space : Extras := []
  deriving DecidableEq, Repr, Inhabited

namespace Workbook

def declared : List String := ["name", "sheets"]

def sheet? (w : Workbook) (slug : String) : Option Sheet := w.sheets.find? (·.slug == slug)

def toValue (keepNull : Bool) (w : Workbook) : Except Misuse Value := do
  let sheets ← w.sheets.mapM (Sheet.toValue keepNull)
  let extras ← w.extras.toEntries keepNull
  return .map ([(.str "name", .str w.name), (.str "sheets", .list sheets)] ++ extras)

def check (v : Value) : Check.Checked Workbook := do
  let es ← Check.entries "WorkbookConfig" v
  let parts ← Check.both (Check.optional es "name" defaultWorkbookName Check.text) <|
    Check.both (Check.optional es "sheets" [] (Check.list Sheet.check)) <|
    Check.extras declared es
  let (name, sheets, extras) := parts
  return { name, sheets, extras }

end Workbook

namespace WorkbookPlan

def declared : List String := ["source", "name", "sheets"]

def check (v : Value) : Check.Checked WorkbookPlan := do
  let es ← Check.entries "PartialWorkbookConfig" v
  let parts ← Check.both (Check.required es "source" .ok) <|
    Check.both (Check.optional es "name" none (Check.nullable Check.text)) <|
    Check.both (Check.optional es "sheets" none (Check.nullable (Check.list SheetOverride.check))) <|
    Check.extras declared es
  let (source, name, overrides, extras) := parts
  return { source, name, overrides, extras }

def ofValue (v : Value) : Except Check.Invalid WorkbookPlan :=
  Check.named "PartialWorkbookConfig" (check v)

end WorkbookPlan

namespace Space

def declared : List String := ["workbooks"]

def toValue (keepNull : Bool) (s : Space) : Except Misuse Value := do
  let workbooks ← s.workbooks.mapM (Workbook.toValue keepNull)
  let extras ← s.extras.toEntries keepNull
  return .map ((.str "workbooks", .list workbooks) :: extras)

def check (v : Value) : Check.Checked Space := do
  let es ← Check.entries "SpaceConfig" v
  let parts ← Check.both (Check.optional es "workbooks" [] (Check.list Workbook.check)) <|
    Check.extras declared es
  let (workbooks, extras) := parts
  return { workbooks, extras }

end Space

namespace Setup

def check (v : Value) : Check.Checked Setup := do
  let es ← Check.entries "SetupConfig" v
  let parts ← Check.both (Check.optional es "workbooks" [] (Check.list WorkbookPlan.check)) <|
    Check.optional es "space" [] Check.textKeyed
  let (plans, space) := parts
  return { plans, space }

def ofValue (v : Value) : Except Check.Invalid Setup := Check.named "SetupConfig" (check v)

end Setup

end SchemaSheets
