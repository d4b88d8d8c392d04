import SchemaSheets.Value.Display

/-!
# Malformed introspection documents

The ways in which an introspection document cannot be interpreted.
-/

namespace SchemaSheets

/-- Why an introspection document cannot be interpreted. -/
inductive Malformed where
  /-- a type reference has more wrappers than allowed -/
  | nestsTooDeep (limit : Nat)
  | notAReference (data : Value)
  /-- a wrapper without the type that it wraps -/
  | withoutInner (kind : String)
  /-- a named type without a name -/
  | withoutName (kind : String)
  | notAField (data : Value)
  | withoutTypes
  /-- the document from an origin has no schema object -/
  | withoutSchema (origin : String)
  /-- the schema itself is not valid -/
  | invalidSchema (messages : List String)
  | notJson (url : String)
  | notAnObject (url : String)
  /-- the server answered with errors only -/
  | refused (url : String) (messages : List String)
  deriving Repr

def Malformed.message : Malformed → String
  | nestsTooDeep limit => "Type reference nests deeper than " ++ Decimal.intText limit ++ " wrappers"
  | notAReference data => "Invalid type reference: " ++ Display.value data
  | withoutInner kind => kind ++ " type reference is missing 'ofType'"
  | withoutName kind => kind ++ " type reference is missing 'name'"
  | notAField data => "Invalid field entry: " ++ Display.value data
  | withoutTypes => "Introspection document has no '__schema.types' list"
  | withoutSchema origin => "Introspection result from " ++ origin ++ " has no '__schema' object"
  | invalidSchema messages => "Introspection failed: " ++ "; ".intercalate messages
  | notJson url => "Response from " ++ url ++ " is not valid JSON"
  | notAnObject url => "Response from " ++ url ++ " is not a JSON object"
  | refused url messages =>
    "Introspection failed at " ++ url ++ ": " ++ "; ".intercalate messages

end SchemaSheets
