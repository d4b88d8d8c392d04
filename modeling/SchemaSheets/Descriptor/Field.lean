import SchemaSheets.Descriptor.Check

/-!
# Fields

A field describes one column of a sheet: its key and label, the type of its
cells, what they have to satisfy, and for a reference the sheet it points to.
-/

namespace SchemaSheets

inductive FieldType where
  | number
  | boolean
  | string
  | reference
  deriving DecidableEq, Repr, Inhabited

inductive Constraint where
  | required
  deriving DecidableEq, Repr, Inhabited

inductive Relationship where
  | hasOne
  deriving DecidableEq, Repr, Inhabited

/-- The target of a reference: a sheet by its slug, and the field that is looked up there. -/
structure Reference where
  target : String
  key : String := "id"
  relationship : Relationship := .hasOne
  deriving DecidableEq, Repr, Inhabited

structure Field where
  key : String
  label : String
  description : String := ""
  type : FieldType
  constraints : List Constraint := []
  multi : Bool := false
  reference : Option Reference := none
  deriving DecidableEq, Repr, Inhabited

namespace FieldType

def names : List (String × FieldType) :=
  [("number", number), ("boolean", boolean), ("string", string), ("reference", reference)]

def name : FieldType → String
  | number => "number"
  | boolean => "boolean"
  | string => "string"
  | reference => "reference"

theorem lookup_name (t : FieldType) : names.lookup t.name = some t := by
  cases t <;> rfl

end FieldType

namespace Constraint

def names : List (String × Constraint) := [("required", required)]

def name : Constraint → String
  | required => "required"

def toValue (c : Constraint) : Value := .record [("type", .str c.name)]

def check (v : Value) : Check.Checked Constraint := do
  let es ← Check.entries "Constraint" v
  Check.required es "type" (Check.choice names)

end Constraint

namespace Relationship

def names : List (String × Relationship) := [("has-one", hasOne)]

def name : Relationship → String
  | hasOne => "has-one"

end Relationship

namespace Reference

def toValue (r : Reference) : Value :=
  .record [("ref", .str r.target), ("key", .str r.key), ("relationship", .str r.relationship.name)]

/-- The reference that points to a target, which has to be a text. -/
def checkTarget (target : Value) : Check.Checked Reference :=
  match Check.within (.key "ref") (Check.text target) with
  | .ok name => .ok { target := name }
  | .error e => .error e

def check (v : Value) : Check.Checked Reference := do
  let es ← Check.entries "ReferenceConfig" v
  let parts ← Check.both (Check.required es "ref" Check.text) <|
    Check.both (Check.optional es "key" "id" Check.text) <|
    Check.optional es "relationship" .hasOne (Check.choice Relationship.names)
  let (target, key, relationship) := parts
  return { target, key, relationship }

end Reference

namespace Field

def isRequired (f : Field) : Bool := f.constraints.contains .required

def isReference (f : Field) : Bool := f.type == .reference

/-- With the cells required; a field that requires them already stays as it is. -/
def require (f : Field) : Field :=
  if f.isRequired then f else { f with constraints := f.constraints ++ [.required] }

def target? (f : Field) : Option String :=
  if f.isReference then f.reference.map (·.target) else none

theorem isRequired_require (f : Field) : f.require.isRequired = true := by
  unfold require
  split
  · assumption
  · simp [isRequired]

@[simp] theorem require_require (f : Field) : f.require.require = f.require := by
  rw [require, if_pos (isRequired_require f)]

/-- A field as a record; `keepNull` shows a missing reference as null. -/
def toValue (keepNull : Bool) (f : Field) : Value :=
  .record ([("key", .str f.key), ("label", .str f.label), ("description", .str f.description),
    ("type", .str f.type.name), ("constraints", .list (f.constraints.map Constraint.toValue)),
    ("multi", .bool f.multi)] ++
    match f.reference with
    | some r => [("config", r.toValue)]
    | none => if keepNull then [("config", .null)] else [])

def check (v : Value) : Check.Checked Field := do
  let es ← Check.entries "FieldConfig" v
  let parts ← Check.both (Check.required es "key" Check.text) <|
    Check.both (Check.required es "label" Check.text) <|
    Check.both (Check.optional es "description" "" Check.text) <|
    Check.both (Check.required es "type" (Check.choice FieldType.names)) <|
    Check.both (Check.optional es "constraints" [] (Check.list Constraint.check)) <|
    Check.both (Check.optional es "multi" false Check.truth) <|
    Check.optional es "config" none (Check.nullable Reference.check)
  let (key, label, description, type, constraints, multi, reference) := parts
  return { key, label, description, type, constraints, multi, reference }

end Field

end SchemaSheets
