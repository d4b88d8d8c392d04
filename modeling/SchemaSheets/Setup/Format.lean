import SchemaSheets.Json.Printer
import SchemaSheets.Yaml.Printer

/-!
# Document formats

Documents are YAML or JSON.  A format is chosen by its name or by the suffix of
a file.
-/

namespace SchemaSheets

inductive Format where
  | yaml
  | json
  deriving DecidableEq, Repr, Inhabited

namespace Format

def name : Format → String
  | yaml => "yaml"
  | json => "json"

/-- The format in which a document is written: YAML only by its exact name. -/
def forWriting (name : String) : Format := if name == "yaml" then yaml else json

/-- The format of a document that is read: JSON by its name in any case. -/
def forReading (name : String) : Format := if name.toLower == "json" then json else yaml

def yamlSuffixes : List String := [".yaml", ".yml"]

def ofOutputSuffix (suffix : String) : Format :=
  if yamlSuffixes.contains suffix.toLower then yaml else json

def ofInputSuffix (suffix : String) : Format := if suffix.toLower == ".json" then json else yaml

/-- A value as a document.  Only JSON has a layout that is not `pretty`. -/
def print (f : Format) (pretty : Bool) (v : Value) : String :=
  match f with
  | yaml => Yaml.print v
  | json => Json.print pretty v ++ "\n"

end Format

end SchemaSheets
