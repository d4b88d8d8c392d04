import SchemaSheets.Source.TypeRef
import SchemaSheets.Failure

/-!
# Source objects

The object types of a schema that sheets are made from, read from an
introspection document.  The types with a usual name of a root operation type
and the types whose names start with an underscore are left out.
-/

namespace SchemaSheets

structure SourceField where
  name : Value
  type : TypeRef
  description : Value := .str ""
  deriving DecidableEq, Repr, Inhabited

structure SourceObject where
  name : Value
  description : Value := .str ""
  fields : List SourceField := []
  deriving DecidableEq, Repr, Inhabited

namespace SourceField

def ofValue (data : Value) : Except Malformed SourceField :=
  match data with
  | .map entries =>
    match Entries.get? entries "name", Entries.get? entries "type" with
    | some name, some type => do
      return ⟨name, ← TypeRef.ofValue type, (Entries.get entries "description").orElse (.str "")⟩
    | _, _ => .error (.notAField data)
  | _ => .error (.notAField data)

end SourceField

namespace SourceObject

def fieldNames (o : SourceObject) : List Value := o.fields.map (·.name)

def ofValue (data : Value) : Except Failure SourceObject := do
  let name ← data.member "name"
  let entries ← data.entriesFor "get"
  let fields ← ((Entries.get entries "fields").orElse (.list [])).visited
  let fields ← fields.mapM fun f => (SourceField.ofValue f).mapError Failure.malformed
  return ⟨name, (Entries.get entries "description").orElse (.str ""), fields⟩

end SourceObject

namespace Introspection

/-- The usual names of the root operation types; which types a schema names as its roots is not
looked at. -/
def rootNames : List String := ["Query", "Mutation", "Subscription"]

/-- An introspection entry describes an object type that a sheet is made from. -/
def isDomainObject (data : Value) : Except Misuse Bool := do
  let entries ← data.entriesFor "get"
  if Entries.get entries "kind" != .str "OBJECT" then return false
  match (Entries.get entries "name").orElse (.str "") with
  | .str name => return !rootNames.contains name && name.toList.head? != some '_'
  | .scalar (.torn codes) => return codes.head? != some '_'.toNat
  | name =>
    let _ ← name.key?
    throw (.lacks name.typeName "startswith")

def types (document : Value) : Except Malformed (List Value) :=
  match document with
  | .map entries =>
    match Entries.get entries "__schema" with
    | .map schema =>
      match Entries.get schema "types" with
      | .list items => .ok items
      | _ => .error .withoutTypes
    | _ => .error .withoutTypes
  | _ => .error .withoutTypes

/-- What an action makes of the entries of domain objects, in document order. -/
def forDomainObjects {α : Type} (action : Value → Except Failure α) :
    List Value → Except Failure (List α)
  | [] => return []
  | data :: rest => do
    if ← isDomainObject data then
      let a ← action data
      return a :: (← forDomainObjects action rest)
    else forDomainObjects action rest

def objects (document : Value) : Except Failure (List SourceObject) := do
  forDomainObjects SourceObject.ofValue (← types document)

/-- The names of a document's domain objects, their fields unread. -/
def objectNames (document : Value) : Except Failure (List Value) := do
  forDomainObjects (fun data => do return ← data.member "name") (← types document)

end Introspection

end SchemaSheets
