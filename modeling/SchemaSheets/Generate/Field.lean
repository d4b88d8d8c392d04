import SchemaSheets.Descriptor.Field
import SchemaSheets.Session
import SchemaSheets.Source.Object
import SchemaSheets.Words

/-!
# Fields from source fields

A source field becomes a column by the type under its leading non-null
wrappers: a scalar a column of numbers, truth values or texts, an object a
reference, a list a column of several texts.  From any other kind of type no
column is made.  A non-null wrapper makes the column required.
-/

namespace SchemaSheets

namespace FieldType

def scalars : List (String × FieldType) :=
  [("Int", number), ("Float", number), ("Boolean", boolean)]

def ofScalarName (name : String) : FieldType := (scalars.lookup name).getD .string

/-- The type of the column of a scalar whose name may be any value that can be looked up. -/
def ofScalar (name : Value) : Except Misuse FieldType :=
  match name with
  | .str s => .ok (ofScalarName s)
  | name => do
    let _ ← name.key?
    return .string

end FieldType

namespace Field

/-- What becomes of a source field: a column, or nothing because of a kind of type. -/
inductive Outcome where
  | column (f : Field)
  | unsupported (kind : String)
  deriving DecidableEq, Repr

/-- The parts of a column that do not depend on its type. -/
structure Heading where
  key : Value
  label : String
  description : Value

/-- The parts of a source field's column that do not depend on its type. -/
def Heading.ofSource (f : SourceField) : Except Misuse Heading := do
  return ⟨f.name, ← Words.headingOf f.name, f.description.orElse (.str "")⟩

def Heading.column (h : Heading) (type : FieldType) (multi : Bool) (reference : Option Reference) :
    Except Check.Invalid Field :=
  Check.named "FieldConfig" <|
    match Check.both (Check.within (.key "key") (Check.text h.key))
        (Check.within (.key "description") (Check.text h.description)) with
    | .ok (key, description) => .ok { key, label := h.label, description, type, multi, reference }
    | .error e => .error e

/-- What becomes of a type that no non-null wrapper is around. -/
def ofCore (f : SourceField) (type : TypeRef) : Except Failure Outcome := do
  let h ← Heading.ofSource f
  match type with
  | .scalar name => return .column (← h.column (← FieldType.ofScalar name) false none)
  | .object name =>
    let reference ← Check.named "ReferenceConfig" (Reference.checkTarget name)
    return .column (← h.column .reference false (some reference))
  | .list _ => return .column (← h.column .string true none)
  | .other kind _ => return .unsupported kind
  | .nonNull _ => return .unsupported "NonNullRef"
  | .absent => return .unsupported "NoneType"

def ofType (f : SourceField) : TypeRef → Except Failure Outcome
  | .nonNull inner => do
    match ← ofType f inner with
    | .column c => return .column c.require
    | .unsupported kind => return .unsupported kind
  | type => ofCore f type

/-- The column of a source field, if there is one; one that is left out is reported. -/
def generate (f : SourceField) (sheet : Value) : Run (Option Field) := do
  match ← ofType f f.type with
  | .column c => return some c
  | .unsupported kind =>
    Run.warn .fields (.unsupportedField (Display.plain f.name) (Display.plain sheet) kind)
    return none

end Field

end SchemaSheets
