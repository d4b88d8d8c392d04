/-!
# Schema documents

What a schema document says: definitions of types, directives and root
operations, extensions of them, and possibly operations and fragments, which
define nothing.  Places are kept where an error may have to point.
-/

namespace SchemaSheets.Schema

inductive Literal where
  | variableNamed (name : String)
  | int (digits : String)
  | float (digits : String)
  | text (s : String)
  | block (s : String)
  | bool (b : Bool)
  | null
  | enum (name : String)
  | list (items : List Literal)
  | object (fields : List (String × Literal))
  deriving Repr, Inhabited

/-- A type as it is written: a name under any number of wrappers. -/
inductive TypeExpr where
  | named (name : String)
  | list (inner : TypeExpr)
  | nonNull (inner : TypeExpr)
  deriving DecidableEq, Repr, Inhabited

def TypeExpr.base : TypeExpr → String
  | named name => name
  | list inner => inner.base
  | nonNull inner => inner.base

def TypeExpr.text : TypeExpr → String
  | named name => name
  | list inner => "[" ++ inner.text ++ "]"
  | nonNull inner => inner.text ++ "!"

def TypeExpr.isNonNull : TypeExpr → Bool
  | nonNull _ => true
  | _ => false

/-- A named value handed to a field or directive. -/
structure Argument where
  name : String
  value : Literal
  /-- the characters left in the document where the value starts -/
  left : Nat
  deriving Repr

structure Directive where
  name : String
  arguments : List Argument
  deriving Repr

/-- An argument of a field or directive, or a field of an input object. -/
structure InputDefinition where
  description : Option String
  name : String
  type : TypeExpr
  fallback : Option Literal
  directives : List Directive
  deriving Repr

def InputDefinition.isRequired (i : InputDefinition) : Bool :=
  i.type.isNonNull && i.fallback.isNone

structure FieldDefinition where
  description : Option String
  name : String
  arguments : List InputDefinition
  type : TypeExpr
  directives : List Directive
  deriving Repr

structure ValueDefinition where
  description : Option String
  name : String
  directives : List Directive
  deriving Repr

inductive TypeBody where
  | scalar
  | object (interfaces : List String) (fields : List FieldDefinition)
  | interface (interfaces : List String) (fields : List FieldDefinition)
  | union (members : List String)
  | enum (values : List ValueDefinition)
  | input (fields : List InputDefinition)
  deriving Repr

namespace TypeBody

def isEmpty : TypeBody → Bool
  | scalar => true
  | object interfaces fields | interface interfaces fields => interfaces.isEmpty && fields.isEmpty
  | union members => members.isEmpty
  | enum values => values.isEmpty
  | input fields => fields.isEmpty

def kindText : TypeBody → String
  | scalar => "scalar"
  | object .. => "object"
  | interface .. => "interface"
  | union _ => "union"
  | enum _ => "enum"
  | input _ => "input object"

def fields : TypeBody → List FieldDefinition
  | object _ fields | interface _ fields => fields
  | _ => []

def inputs : TypeBody → List InputDefinition
  | input fields => fields
  | _ => []

end TypeBody

/-- A type, or what an extension adds to it. -/
structure TypeDefinition where
  description : Option String
  name : String
  directives : List Directive
  body : TypeBody
  deriving Repr

inductive Operation where
  | query
  | mutation
  | subscription
  deriving DecidableEq, Repr

namespace Operation

def name : Operation → String
  | query => "query"
  | mutation => "mutation"
  | subscription => "subscription"

/-- The operation's name as the first word of a sentence; also the usual name of its root type. -/
def title : Operation → String
  | query => "Query"
  | mutation => "Mutation"
  | subscription => "Subscription"

def all : List Operation := [query, mutation, subscription]

def ofName? (s : String) : Option Operation := all.find? (·.name == s)

end Operation

/-- The root types, or what an extension adds to them. -/
structure RootsDefinition where
  directives : List Directive
  roots : List (Operation × String)
  deriving Repr

inductive Position where
  | query
  | mutation
  | subscription
  | field
  | fragmentDefinition
  | fragmentSpread
  | inlineFragment
  | variableDefinition
  | fragmentVariableDefinition
  | schema
  | scalar
  | object
  | fieldDefinition
  | argumentDefinition
  | interface
  | union
  | enum
  | enumValue
  | inputObject
  | inputFieldDefinition
  | directiveDefinition
  deriving DecidableEq, Repr

namespace Position

def words : List (String × Position) :=
  [("QUERY", query), ("MUTATION", mutation), ("SUBSCRIPTION", subscription), ("FIELD", field),
   ("FRAGMENT_DEFINITION", fragmentDefinition), ("FRAGMENT_SPREAD", fragmentSpread),
   ("INLINE_FRAGMENT", inlineFragment), ("VARIABLE_DEFINITION", variableDefinition),
   ("FRAGMENT_VARIABLE_DEFINITION", fragmentVariableDefinition), ("SCHEMA", schema),
   ("SCALAR", scalar), ("OBJECT", object), ("FIELD_DEFINITION", fieldDefinition),
   ("ARGUMENT_DEFINITION", argumentDefinition),
   ("INTERFACE", interface), ("UNION", union), ("ENUM", enum), ("ENUM_VALUE", enumValue),
   ("INPUT_OBJECT", inputObject), ("INPUT_FIELD_DEFINITION", inputFieldDefinition),
   ("DIRECTIVE_DEFINITION", directiveDefinition)]

def word (p : Position) : String := ((words.find? (·.2 == p)).map (·.1)).getD ""

def text (p : Position) : String :=
  p.word.map fun c => if c == '_' then ' ' else c.toLower

end Position

/-- A directive that can be put on things. -/
structure DirectiveDefinition where
  description : Option String
  name : String
  arguments : List InputDefinition
  directives : List Directive
  repeatable : Bool
  positions : List Position
  deriving Repr

inductive Selection where
  | field (arguments : List Argument) (directives : List Directive) (inner : List Selection)
  | spread (directives : List Directive)
  | inline (condition : Option String) (directives : List Directive) (inner : List Selection)
  deriving Repr

structure VariableDefinition where
  type : TypeExpr
  fallback : Option Literal
  directives : List Directive
  deriving Repr

inductive Definition where
  | roots (d : RootsDefinition)
  | rootsExtension (d : RootsDefinition)
  | type (d : TypeDefinition)
  | typeExtension (d : TypeDefinition)
  | directive (d : DirectiveDefinition)
  /-- directives put on the definition of a directive -/
  | directiveExtension (name : String) (directives : List Directive)
  | operation (kind : Operation) (parameters : List VariableDefinition)
      (directives : List Directive) (selections : List Selection)
  | fragment (condition : String) (directives : List Directive) (selections : List Selection)
  deriving Repr

abbrev Document := List Definition

namespace Document

def types (d : Document) : List TypeDefinition :=
  d.filterMap fun
    | .type t => some t
    | _ => none

def typeExtensions (d : Document) : List TypeDefinition :=
  d.filterMap fun
    | .typeExtension t => some t
    | _ => none

def directives (d : Document) : List DirectiveDefinition :=
  d.filterMap fun
    | .directive x => some x
    | _ => none

def addedTo (d : Document) (name : String) : List Directive :=
  d.flatMap fun
    | .directiveExtension n ds => if n == name then ds else []
    | _ => []

end Document

end SchemaSheets.Schema
