import SchemaSheets.Descriptor.Field
import SchemaSheets.Value.Portable

/-!
# Sheets

A sheet is a table: its columns in order, and any further properties that the
caller wants to see in the result.  A sheet override carries such properties to
the sheet of a given slug.
-/

namespace SchemaSheets

structure Sheet where
  name : String
  slug : String
  description : String := ""
  fields : List Field := []
  extras : Extras := []
  deriving DecidableEq, Repr, Inhabited

/-- Properties for the sheet of a slug.  The name is accepted but has no effect. -/
structure SheetOverride where
  slug : String
  name : Option String := none
  extras : Extras := []
  deriving DecidableEq, Repr, Inhabited

namespace Extras

/-- The properties as entries of a document, null ones only if asked for. -/
def toEntries (keepNull : Bool) (extras : Extras) : Except Misuse Entries := do
  let kept := if keepNull then extras else extras.filter fun (_, v) => v != .null
  kept.mapM fun (n, v) => do return (.str n, ← v.portable)

end Extras

namespace Sheet

def declared : List String := ["name", "slug", "description", "fields"]

def field? (s : Sheet) (key : String) : Option Field := s.fields.find? (·.key == key)

/-- The slugs that the reference fields point to, in field order. -/
def targets (s : Sheet) : List String := s.fields.filterMap Field.target?

def toValue (keepNull : Bool) (s : Sheet) : Except Misuse Value := do
  let extras ← s.extras.toEntries keepNull
  return .map ([(.str "name", .str s.name), (.str "slug", .str s.slug),
    (.str "description", .str s.description),
    (.str "fields", .list (s.fields.map (Field.toValue keepNull)))] ++ extras)

def check (v : Value) : Check.Checked Sheet := do
  let es ← Check.entries "SheetConfig" v
  let parts ← Check.both (Check.required es "name" Check.text) <|
    Check.both (Check.required es "slug" Check.text) <|
    Check.both (Check.optional es "description" "" Check.text) <|
    Check.both (Check.optional es "fields" [] (Check.list Field.check)) <|
    Check.extras declared es
  let (name, slug, description, fields, extras) := parts
  return { name, slug, description, fields, extras }

end Sheet

namespace SheetOverride

def declared : List String := ["slug", "name"]

def check (v : Value) : Check.Checked SheetOverride := do
  let es ← Check.entries "PartialSheetConfig" v
  let parts ← Check.both (Check.required es "slug" Check.text) <|
    Check.both (Check.optional es "name" none (Check.nullable Check.text)) <|
    Check.extras declared es
  let (slug, name, extras) := parts
  return { slug, name, extras }

def find? (overrides : List SheetOverride) (slug : String) : Option SheetOverride :=
  overrides.find? (·.slug == slug)

end SheetOverride

end SchemaSheets
