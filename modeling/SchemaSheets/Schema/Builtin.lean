import SchemaSheets.Schema.Document

/-!
# What every schema has

The scalars and directives that need no definition, and the types by which a
schema describes itself.
-/

namespace SchemaSheets.Schema.Builtin

def scalars : List String := ["String", "Int", "Float", "Boolean", "ID"]

def defaultReason : String := "No longer supported"

def input (name : String) (type : TypeExpr) (fallback : Option Literal) : InputDefinition :=
  ⟨none, name, type, fallback, []⟩

def directive (name : String) (arguments : List InputDefinition) (positions : List Position) :
    DirectiveDefinition := ⟨none, name, arguments, [], false, positions⟩

def selectionPositions : List Position := [.field, .fragmentSpread, .inlineFragment]

def directives : List DirectiveDefinition :=
  [directive "include" [input "if" (.nonNull (.named "Boolean")) none] selectionPositions,
   directive "skip" [input "if" (.nonNull (.named "Boolean")) none] selectionPositions,
   directive "deprecated" [input "reason" (.nonNull (.named "String")) (some (.text defaultReason))]
     [.fieldDefinition, .argumentDefinition, .inputFieldDefinition, .enumValue,
      .directiveDefinition],
   directive "specifiedBy" [input "url" (.nonNull (.named "String")) none] [.scalar],
   directive "oneOf" [] [.inputObject]]

/-! ### The types of introspection -/

def listOf (name : String) : TypeExpr := .list (.nonNull (.named name))

def field (name : String) (type : TypeExpr) : FieldDefinition := ⟨none, name, [], type, []⟩

def filteredField (name : String) (type : TypeExpr) : FieldDefinition :=
  ⟨none, name, [input "includeDeprecated" (.nonNull (.named "Boolean")) (some (.bool false))], type,
    []⟩

def nameFields : List FieldDefinition :=
  [field "name" (.nonNull (.named "String")), field "description" (.named "String")]

def object (name : String) (fields : List FieldDefinition) : TypeDefinition :=
  ⟨none, name, [], .object [] fields⟩

def enum (name : String) (values : List String) : TypeDefinition :=
  ⟨none, name, [], .enum (values.map fun v => ⟨none, v, []⟩)⟩

def kinds : List String :=
  ["SCALAR", "OBJECT", "INTERFACE", "UNION", "ENUM", "INPUT_OBJECT", "LIST", "NON_NULL"]

def deprecationFields : List FieldDefinition :=
  [field "isDeprecated" (.nonNull (.named "Boolean")), field "deprecationReason" (.named "String")]

/-- The types by which a schema describes itself. -/
def metaTypes : List TypeDefinition :=
  [object "__Schema"
     [field "description" (.named "String"), field "types" (.nonNull (listOf "__Type")),
      field "queryType" (.nonNull (.named "__Type")), field "mutationType" (.named "__Type"),
      field "subscriptionType" (.named "__Type"),
      filteredField "directives" (.nonNull (listOf "__Directive"))],
   object "__Directive"
     (nameFields ++
      [field "isRepeatable" (.nonNull (.named "Boolean")),
       field "locations" (.nonNull (listOf "__DirectiveLocation")),
       filteredField "args" (.nonNull (listOf "__InputValue"))] ++ deprecationFields),
   enum "__DirectiveLocation" (Position.words.map (·.1)),
   object "__Type"
     [field "kind" (.nonNull (.named "__TypeKind")), field "name" (.named "String"),
      field "description" (.named "String"), field "specifiedByURL" (.named "String"),
      filteredField "fields" (listOf "__Field"), field "interfaces" (listOf "__Type"),
      field "possibleTypes" (listOf "__Type"), filteredField "enumValues" (listOf "__EnumValue"),
      filteredField "inputFields" (listOf "__InputValue"), field "ofType" (.named "__Type"),
      field "isOneOf" (.named "Boolean")],
   object "__Field"
     (nameFields ++
      [filteredField "args" (.nonNull (listOf "__InputValue")),
       field "type" (.nonNull (.named "__Type"))] ++ deprecationFields),
   object "__InputValue"
     (nameFields ++
      [field "type" (.nonNull (.named "__Type")), field "defaultValue" (.named "String")] ++
      deprecationFields),
   object "__EnumValue" (nameFields ++ deprecationFields),
   enum "__TypeKind" kinds]

def types : List TypeDefinition :=
  scalars.map (fun name => ⟨none, name, [], .scalar⟩) ++ metaTypes

def typeNames : List String := types.map (·.name)

def isMeta (name : String) : Bool := metaTypes.any (·.name == name)

end SchemaSheets.Schema.Builtin
