import SchemaSheets.Descriptor.Sheet
import SchemaSheets.Generate.Field

/-!
# Sheets from source objects

A sheet is put together step by step.  The properties of overrides come first;
name, slug, description and fields are always set from the source.  Every sheet
gets a field under the key `id`, so that the references to it resolve.
-/

namespace SchemaSheets

def idKey : String := "id"

def idField : Field := { key := idKey, label := "Id", type := .number }

structure SheetBuilder where
  slug : String
  name : String
  description : Value := .str ""
  fields : List Field := []
  extras : Extras := []
  deriving Repr

namespace SheetBuilder

def ofSlug (slug : String) : SheetBuilder := { slug, name := Words.heading slug }

def ofValue : Value → Except Misuse SheetBuilder
  | .str slug => .ok (ofSlug slug)
  | v => .error (.notText v.typeName)

def overrides (b : SheetBuilder) : Option SheetOverride → SheetBuilder
  | some o => { b with extras := b.extras.insertAll o.extras }
  | none => b

/-- With another description; what counts as false is no description. -/
def describe (b : SheetBuilder) (description : Value) : SheetBuilder :=
  { b with description := description.orElse (.str "") }

def field (b : SheetBuilder) (f : Field) : SheetBuilder := { b with fields := b.fields ++ [f] }

def hasId (b : SheetBuilder) : Bool := b.fields.any (·.key == idKey)

/-- With an identity field, put in front if there was none; tells whether one was added. -/
def ensureId (b : SheetBuilder) : Bool × SheetBuilder :=
  if b.hasId then (false, b) else (true, { b with fields := idField :: b.fields })

/-- The sheet.  Only its description can still be refused. -/
def build (b : SheetBuilder) : Except Check.Invalid Sheet :=
  Check.named "SheetConfig" <|
    match Check.within (.key "description") (Check.text b.description) with
    | .ok description =>
      .ok { name := b.name, slug := b.slug, description, fields := b.fields,
            extras := b.extras.without Sheet.declared }
    | .error e => .error e

theorem hasId_ensureId (b : SheetBuilder) : b.ensureId.2.hasId = true := by
  unfold ensureId
  split
  · assumption
  · simp [hasId, idField]

end SheetBuilder

namespace SheetOverride

/-- A value as a list of overrides; what counts as false is an empty list. -/
def listOfValue (v : Value) : Except Failure (List SheetOverride) := do
  let items ← (v.orElse (.list [])).visited
  items.mapM fun item =>
    (Check.named "PartialSheetConfig" (SheetOverride.check item)).mapError Failure.invalid

end SheetOverride

namespace Sheet

def addFields (sheet : Value) : List SourceField → SheetBuilder → Run SheetBuilder
  | [], b => return b
  | f :: rest, b => do
    match ← Field.generate f sheet with
    | some column => addFields sheet rest (b.field column)
    | none => addFields sheet rest b

/-- The sheet of a source object; an identity field that had to be added is noted. -/
def generate (o : SourceObject) (overrides : List SheetOverride) : Run Sheet := do
  let b ← SheetBuilder.ofValue o.name
  let b := (b.overrides (SheetOverride.find? overrides b.slug)).describe o.description
  let b ← addFields o.name o.fields b
  let (added, b) := b.ensureId
  if added then Run.collect (.idFieldAdded b.slug)
  b.build

/-- The sheet of a source object, with overrides that are still a value. -/
def generateWith (o : SourceObject) (overrides : Value) : Run Sheet := do
  let _ ← SheetBuilder.ofValue o.name
  generate o (← SheetOverride.listOfValue overrides)

end Sheet

end SchemaSheets
